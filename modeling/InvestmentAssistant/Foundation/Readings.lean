import InvestmentAssistant.Foundation.Substitution

/-!
# Readings of a text

A substitution reads a text as elements that it keeps and matches that it replaces. `Reads` is this
reading as a relation between the text and its pieces, with one rule for each branch of
`replaceAll`, so that a proof about a substitution is an induction on the reading.

Where a class of elements is in no replacement, an element of this class in the output was kept,
and the pieces are split there as the output is.
-/

namespace Substitution

variable {α : Type*}

/-- A part of a text as a substitution reads it. -/
inductive Piece (α : Type*)
  /-- An element at which no match begins. -/
  | kept (c : α)
  /-- A match, by what stands in its place. -/
  | replaced (out : List α)

/-- What a piece contributes to the output. -/
def Piece.out : Piece α → List α
  | kept c => [c]
  | replaced out => out

/-- The output of the pieces. -/
def output (pieces : List (Piece α)) : List α :=
  pieces.flatMap Piece.out

/-- The pieces of a text, from the left. -/
inductive Reads (m : Matcher α) : List α → List (Piece α) → Prop
  | nil : Reads m [] []
  | keep {c : α} {text : List α} {pieces : List (Piece α)} (hnone : m (c :: text) = none)
      (hrest : Reads m text pieces) : Reads m (c :: text) (.kept c :: pieces)
  | replace {text out rest : List α} {pieces : List (Piece α)} (hsome : m text = some (out, rest))
      (hrest : Reads m rest pieces) : Reads m text (.replaced out :: pieces)

section Reads

variable {m : Matcher α}

@[simp]
theorem output_nil : output ([] : List (Piece α)) = [] := rfl

@[simp]
theorem output_cons_kept (c : α) (pieces : List (Piece α)) :
    output (.kept c :: pieces) = c :: output pieces := rfl

@[simp]
theorem output_cons_replaced (out : List α) (pieces : List (Piece α)) :
    output (.replaced out :: pieces) = out ++ output pieces := rfl

theorem output_singleton (piece : Piece α) : output [piece] = piece.out :=
  List.flatMap_singleton ..

@[simp]
theorem output_append (A C : List (Piece α)) : output (A ++ C) = output A ++ output C :=
  List.flatMap_append

@[simp]
theorem output_map_kept (text : List α) : output (text.map Piece.kept) = text := by
  induction text with
  | nil => rfl
  | cons c text ih => exact congrArg _ ih

theorem mem_output_of_kept {c : α} {pieces : List (Piece α)} (h : .kept c ∈ pieces) :
    c ∈ output pieces :=
  List.mem_flatMap.2 ⟨.kept c, h, List.mem_singleton_self c⟩

/-- Every text has a reading. -/
theorem exists_reads (hm : Shrinks m) (text : List α) : ∃ pieces, Reads m text pieces := by
  induction hlen : text.length using Nat.strong_induction_on generalizing text with
  | _ n ih =>
    subst hlen
    cases text with
    | nil => exact ⟨[], .nil⟩
    | cons c text =>
      rcases hmatch : m (c :: text) with - | ⟨out, rest⟩
      · obtain ⟨pieces, hpieces⟩ := ih text.length (Nat.lt_succ_self _) text rfl
        exact ⟨_, .keep hmatch hpieces⟩
      · obtain ⟨pieces, hpieces⟩ := ih rest.length (hm _ out rest hmatch) rest rfl
        exact ⟨_, .replace hmatch hpieces⟩

/-- **A substitution puts out its reading.** -/
theorem Reads.replaceAll_eq (hm : Shrinks m) {text : List α} {pieces : List (Piece α)}
    (h : Reads m text pieces) : replaceAll m text = output pieces := by
  induction h with
  | nil => rfl
  | keep hnone _ ih => rw [replaceAll_cons hnone, ih, output_cons_kept]
  | replace hsome _ ih => rw [replaceAll_of_eq_some hm hsome, ih, output_cons_replaced]

/-- What holds of the replacement of every match holds of every piece that is one. -/
theorem Reads.forall_replaced {P : List α → Prop}
    (hP : ∀ text out rest, m text = some (out, rest) → P out) {text : List α}
    {pieces : List (Piece α)} (h : Reads m text pieces) :
    ∀ out, .replaced out ∈ pieces → P out := by
  induction h with
  | nil => exact fun _ h ↦ absurd h List.not_mem_nil
  | keep _ _ ih =>
    intro out hout
    obtain hout | hout := List.mem_cons.1 hout
    · cases hout
    · exact ih out hout
  | replace hsome _ ih =>
    intro out hout
    obtain hout | hout := List.mem_cons.1 hout
    · cases hout
      exact hP _ _ _ hsome
    · exact ih out hout

end Reads

/-! ### Where the output is split -/

section Split

variable {pieces : List (Piece α)}

/-- **An element that is in no replacement was kept.** -/
theorem exists_kept_of_output_eq {c : α} (hc : ∀ out, .replaced out ∈ pieces → c ∉ out)
    {before after : List α} (h : output pieces = before ++ c :: after) :
    ∃ A C, pieces = A ++ .kept c :: C ∧ output A = before ∧ output C = after := by
  induction pieces generalizing before with
  | nil => exact absurd h.symm (by simp)
  | cons piece pieces ih =>
    have hrest : ∀ out, .replaced out ∈ pieces → c ∉ out :=
      fun out hout ↦ hc out (List.mem_cons_of_mem _ hout)
    cases piece with
    | kept d =>
      cases before with
      | nil =>
        obtain ⟨rfl, rfl⟩ := List.cons.inj h
        exact ⟨[], pieces, rfl, rfl, rfl⟩
      | cons b before =>
        obtain ⟨rfl, htail⟩ := List.cons.inj h
        obtain ⟨A, C, rfl, rfl, rfl⟩ := ih hrest htail
        exact ⟨.kept d :: A, C, rfl, rfl, rfl⟩
    | replaced out =>
      obtain ⟨k, rfl, hk⟩ := exists_append_of_notMem (hc out (List.mem_cons_self ..)) h
      obtain ⟨A, C, rfl, rfl, rfl⟩ := ih hrest hk
      exact ⟨.replaced out :: A, C, rfl, rfl, rfl⟩

theorem mem_of_mem_output {c : α} (hc : ∀ out, .replaced out ∈ pieces → c ∉ out)
    (h : c ∈ output pieces) : .kept c ∈ pieces := by
  obtain ⟨before, after, hsplit⟩ := List.append_of_mem h
  obtain ⟨A, C, rfl, -, -⟩ := exists_kept_of_output_eq hc hsplit
  exact List.mem_append_right _ (List.mem_cons_self ..)

/-- An output without an element that is in every replacement was kept. -/
theorem eq_map_kept_of_notMem {x : α} (hx : ∀ out, .replaced out ∈ pieces → x ∈ out)
    (h : x ∉ output pieces) : pieces = (output pieces).map Piece.kept := by
  induction pieces with
  | nil => rfl
  | cons piece pieces ih =>
    have hrest : ∀ out, .replaced out ∈ pieces → x ∈ out :=
      fun out hout ↦ hx out (List.mem_cons_of_mem _ hout)
    cases piece with
    | kept c =>
      rw [output_cons_kept] at h ⊢
      exact congrArg _ (ih hrest fun hmem ↦ h (List.mem_cons_of_mem _ hmem))
    | replaced out =>
      exact absurd (List.mem_append_left _ (hx out (List.mem_cons_self ..))) h

/-- An end of the output without an element that every replacement ends with was kept. -/
theorem exists_append_map_kept {x : α}
    (hx : ∀ out, .replaced out ∈ pieces → ∃ lead, out = lead ++ [x]) {before after : List α}
    (hafter : x ∉ after) (h : output pieces = before ++ after) :
    ∃ A, pieces = A ++ after.map Piece.kept ∧ output A = before := by
  induction after using List.reverseRecOn generalizing pieces with
  | nil => exact ⟨pieces, by simp, by simpa using h⟩
  | append_singleton after c ih =>
    obtain rfl | ⟨pieces, piece, rfl⟩ := List.eq_nil_or_concat' pieces
    · exact absurd h.symm (by simp)
    have hlast : output pieces ++ piece.out = (before ++ after) ++ [c] := by
      rw [← output_singleton, ← output_append, List.append_assoc]
      exact h
    have hpieces : ∀ out, .replaced out ∈ pieces → ∃ lead, out = lead ++ [x] :=
      fun out hout ↦ hx out (List.mem_append_left _ hout)
    cases piece with
    | kept d =>
      obtain ⟨hinit, hd⟩ := List.append_inj' hlast rfl
      obtain rfl := List.singleton_inj.1 hd
      obtain ⟨A, rfl, hA⟩ := ih hpieces (fun hmem ↦ hafter (List.mem_append_left _ hmem)) hinit
      exact ⟨A, by simp, hA⟩
    | replaced out =>
      obtain ⟨lead, rfl⟩ := hx _ (List.mem_append_right _ (List.mem_singleton_self _))
      have hend : (output pieces ++ lead) ++ [x] = (before ++ after) ++ [c] := by
        simpa [Piece.out] using hlast
      obtain rfl := List.singleton_inj.1 (List.append_inj' hend rfl).2
      exact absurd (List.mem_append_right _ (List.mem_singleton_self _)) hafter

end Split

end Substitution
