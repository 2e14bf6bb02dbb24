import Mathlib.Data.List.Chain
import Mathlib.Order.Defs.LinearOrder
import Mathlib.Tactic

/-!
# Cutting a list into runs

A list is cut greedily: an element joins the run under construction or starts the next one, and
`joins` decides by what the run holds so far. Unlike for a relation of neighbours, what a run
accepts changes while it grows.

The runs are the list again, laid end to end (`flatten_runs`); every element of a run joined what
was before it (`grown_of_mem_runs`), and the first one of the next run did not (`isChain_runs`).
Runs that do not share keys are determined by their keys (`eq_filter_of_pairwise_lt`).
-/

namespace GreedyRuns

section Runs

variable {α : Type*} (joins : List α → α → Bool)

/-- The runs of a list, with `run` the one under construction. -/
def grow (run : List α) : List α → List (List α)
  | [] => [run]
  | x :: xs => if joins run x then grow (run ++ [x]) xs else run :: grow [x] xs

/-- The runs of a list. -/
def runs : List α → List (List α)
  | [] => []
  | x :: xs => grow joins [x] xs

/-- Every element but the first joined the ones before it. -/
def Grown (run : List α) : Prop :=
  run ≠ [] ∧ ∀ before x after, run = before ++ x :: after → before = [] ∨ joins before x = true

/-- The second run starts with an element that did not join the first one. -/
def Cut (run next : List α) : Prop :=
  ∃ x rest, next = x :: rest ∧ joins run x = false

variable {joins} {run : List α} {x : α} {xs : List α}

theorem grow_cons_of_joins (h : joins run x = true) :
    grow joins run (x :: xs) = grow joins (run ++ [x]) xs := by
  rw [grow, if_pos h]

theorem grow_cons_of_not_joins (h : joins run x = false) :
    grow joins run (x :: xs) = run :: grow joins [x] xs := by
  rw [grow, h]
  rfl

theorem grown_singleton (x : α) : Grown joins [x] := by
  refine ⟨List.cons_ne_nil _ _, fun before y after h ↦ ?_⟩
  rcases before with - | ⟨b, before⟩
  · exact .inl rfl
  · exact absurd (List.cons.inj h).2.symm (by simp)

/-- A run of more than one element is a shorter one that was joined. -/
theorem grown_concat_iff (hrun : run ≠ []) :
    Grown joins (run ++ [x]) ↔ Grown joins run ∧ joins run x = true := by
  constructor
  · rintro ⟨-, h⟩
    refine ⟨⟨hrun, fun before y after hsplit ↦ ?_⟩, (h run x [] rfl).resolve_left hrun⟩
    exact h before y (after ++ [x]) (by rw [hsplit, List.append_assoc, List.cons_append])
  · rintro ⟨⟨-, h⟩, hjoins⟩
    refine ⟨by simp, fun before y after hsplit ↦ ?_⟩
    rcases List.eq_nil_or_concat' after with rfl | ⟨after, z, rfl⟩
    · obtain ⟨rfl, hy⟩ := List.append_inj' hsplit rfl
      obtain rfl := List.singleton_inj.1 hy
      exact .inr hjoins
    · rw [← List.cons_append, ← List.append_assoc] at hsplit
      exact h before y after (List.append_inj' hsplit rfl).1

/-- The list again. -/
theorem flatten_grow (run xs : List α) : (grow joins run xs).flatten = run ++ xs := by
  induction xs generalizing run with
  | nil => simp [grow]
  | cons x xs ih =>
    cases h : joins run x with
    | true => rw [grow_cons_of_joins h, ih, List.append_assoc, List.singleton_append]
    | false => rw [grow_cons_of_not_joins h, List.flatten_cons, ih, List.singleton_append]

/-- **The runs, laid end to end, are the list.** -/
theorem flatten_runs (xs : List α) : (runs joins xs).flatten = xs := by
  cases xs with
  | nil => rfl
  | cons x xs => rw [runs, flatten_grow, List.singleton_append]

theorem grown_of_mem_grow (hrun : Grown joins run) {c : List α} (hc : c ∈ grow joins run xs) :
    Grown joins c := by
  induction xs generalizing run with
  | nil =>
    rw [grow] at hc
    rwa [List.mem_singleton.1 hc]
  | cons x xs ih =>
    cases h : joins run x with
    | true =>
      rw [grow_cons_of_joins h] at hc
      exact ih ((grown_concat_iff hrun.1).2 ⟨hrun, h⟩) hc
    | false =>
      rw [grow_cons_of_not_joins h] at hc
      rcases List.mem_cons.1 hc with rfl | hc
      · exact hrun
      · exact ih (grown_singleton x) hc

/-- **Every run has grown**, element by element. -/
theorem grown_of_mem_runs {c : List α} (hc : c ∈ runs joins xs) : Grown joins c := by
  cases xs with
  | nil => exact absurd hc List.not_mem_nil
  | cons x xs => exact grown_of_mem_grow (grown_singleton x) hc

/-- The first run continues the one under construction. -/
theorem exists_grow_eq (run xs : List α) :
    ∃ more rest, grow joins run xs = (run ++ more) :: rest := by
  induction xs generalizing run with
  | nil => exact ⟨[], [], by rw [grow, List.append_nil]⟩
  | cons x xs ih =>
    cases h : joins run x with
    | true =>
      obtain ⟨more, rest, hgrow⟩ := ih (run ++ [x])
      exact ⟨x :: more, rest, by rw [grow_cons_of_joins h, hgrow, List.append_assoc]; rfl⟩
    | false => exact ⟨[], _, by rw [grow_cons_of_not_joins h, List.append_nil]⟩

theorem isChain_grow (run xs : List α) : (grow joins run xs).IsChain (Cut joins) := by
  induction xs generalizing run with
  | nil => exact List.isChain_singleton _
  | cons x xs ih =>
    cases h : joins run x with
    | true =>
      rw [grow_cons_of_joins h]
      exact ih (run ++ [x])
    | false =>
      have htail := ih [x]
      obtain ⟨more, rest, hgrow⟩ := @exists_grow_eq α joins [x] xs
      rw [grow_cons_of_not_joins h]
      rw [hgrow] at htail ⊢
      exact List.isChain_cons_cons.2 ⟨⟨x, more, rfl, h⟩, htail⟩

/-- **A run is cut where an element did not join it.** -/
theorem isChain_runs (xs : List α) : (runs joins xs).IsChain (Cut joins) := by
  cases xs with
  | nil => exact List.isChain_nil
  | cons x xs => exact isChain_grow [x] xs

/-- What is decided by the images only cuts the images alike. -/
theorem grow_map {β : Type*} {joins' : List β → β → Bool} {f : α → β}
    (h : ∀ run x, joins' (run.map f) (f x) = joins run x) (run xs : List α) :
    grow joins' (run.map f) (xs.map f) = (grow joins run xs).map (List.map f) := by
  induction xs generalizing run with
  | nil => rfl
  | cons x xs ih =>
    rw [List.map_cons, grow, grow, h]
    split
    · rw [← ih, List.map_append]
      rfl
    · rw [List.map_cons, ← ih]
      rfl

theorem runs_map {β : Type*} {joins' : List β → β → Bool} {f : α → β}
    (h : ∀ run x, joins' (run.map f) (f x) = joins run x) (xs : List α) :
    runs joins' (xs.map f) = (runs joins xs).map (List.map f) := by
  cases xs with
  | nil => rfl
  | cons x xs => exact grow_map h [x] xs

end Runs

/-! ### Neighbouring runs -/

/-- What neighbours are to each other, with what holds of each and of any two in their order. -/
theorem isChain_of_forall_mem {β : Type*} {P : β → Prop} {Q R S : β → β → Prop} {cs : List β}
    (hP : ∀ c ∈ cs, P c) (hS : cs.Pairwise S) (hQ : cs.IsChain Q)
    (h : ∀ c d, P c → P d → S c d → Q c d → R c d) : cs.IsChain R := by
  rw [List.isChain_iff_getElem] at hQ ⊢
  intro i hi
  have hpair := List.pairwise_iff_getElem.1 hS i (i + 1) (Nat.lt_of_succ_lt hi) hi
    (Nat.lt_succ_self i)
  exact h _ _ (hP _ (List.getElem_mem _)) (hP _ (List.getElem_mem _)) hpair (hQ i hi)

/-! ### Runs of ordered keys -/

variable {α K : Type*} [LinearOrder K] {key : α → K}

/-- Runs that are in strict order with their neighbours are so with all that follow. -/
theorem pairwise_lt_of_isChain {cs : List (List α)} (hne : ∀ c ∈ cs, c ≠ [])
    (h : cs.IsChain fun c d ↦ ∀ a ∈ c, ∀ b ∈ d, key a < key b) :
    cs.Pairwise fun c d ↦ ∀ a ∈ c, ∀ b ∈ d, key a < key b := by
  induction cs with
  | nil => exact List.Pairwise.nil
  | cons c cs ih =>
    obtain ⟨-, hcs⟩ := List.forall_mem_cons.1 hne
    rcases cs with - | ⟨d, ds⟩
    · exact List.pairwise_singleton _ _
    · obtain ⟨hcd, hchain⟩ := List.isChain_cons_cons.1 h
      have hds := ih hcs hchain
      refine List.pairwise_cons.2 ⟨fun e he ↦ ?_, hds⟩
      rcases List.mem_cons.1 he with rfl | he
      · exact hcd
      · -- an element of the neighbour lies between the two
        obtain ⟨m, hm⟩ := List.exists_mem_of_ne_nil d (hcs d (List.mem_cons_self ..))
        exact fun a ha b hb ↦ (hcd a ha m hm).trans ((List.pairwise_cons.1 hds).1 e he m hm b hb)

/-- **Runs with different keys are determined by their keys**: a run is what the whole list holds of
its keys. -/
theorem eq_filter_of_pairwise_lt {cs : List (List α)}
    (h : cs.Pairwise fun c d ↦ ∀ a ∈ c, ∀ b ∈ d, key a < key b) {c : List α} (hc : c ∈ cs) :
    cs.flatten.filter (fun a ↦ key a ∈ c.map key) = c := by
  induction cs with
  | nil => exact absurd hc List.not_mem_nil
  | cons d cs ih =>
    obtain ⟨hd, hcs⟩ := List.pairwise_cons.1 h
    rw [List.flatten_cons, List.filter_append]
    rcases List.mem_cons.1 hc with rfl | hc
    · have hself : c.filter (fun a ↦ key a ∈ c.map key) = c :=
        List.filter_eq_self.2 fun a ha ↦ decide_eq_true (List.mem_map_of_mem ha)
      have hrest : cs.flatten.filter (fun a ↦ key a ∈ c.map key) = [] := by
        refine List.filter_eq_nil_iff.2 fun b hb hmem ↦ ?_
        obtain ⟨d, hdmem, hb⟩ := List.mem_flatten.1 hb
        obtain ⟨a, ha, hab⟩ := List.mem_map.1 (of_decide_eq_true hmem)
        exact (hd d hdmem a ha b hb).ne hab
      rw [hself, hrest, List.append_nil]
    · have hfirst : d.filter (fun a ↦ key a ∈ c.map key) = [] := by
        refine List.filter_eq_nil_iff.2 fun a ha hmem ↦ ?_
        obtain ⟨b, hb, hab⟩ := List.mem_map.1 (of_decide_eq_true hmem)
        exact (hd c hc a ha b hb).ne hab.symm
      rw [hfirst, List.nil_append, ih hcs hc]

end GreedyRuns
