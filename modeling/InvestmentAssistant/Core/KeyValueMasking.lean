import InvestmentAssistant.Core.Errors
import InvestmentAssistant.Core.LoggingConfig
import InvestmentAssistant.Foundation.Readings

/-!
# Values of keys are masked once

`_KEY_VALUE_RE` finds a key that a value is assigned to (`HasKey`), and leaves `key=***` in its
place. What it leaves is found again, with the same key and nothing more: the value ended where no
character of a value follows. And nothing else is found, because a key of the output is a key of
the message: it has a `=` or `:` of its own after it, and what was put in ends with asterisks. So
a second pass changes nothing (`maskKeys_maskKeys`).
-/

namespace InvestmentAssistant

open CharClass Substitution

/-! ### Keys and assignments -/

/-- A sensitive key as a message may spell it. -/
def IsKeyText (key : List Char) : Prop :=
  ∃ k ∈ sensitiveKeys, List.Forall₂ (fun letter c ↦ standsFor letter c = true) k.toList key

/-- A letter of a key stands for the character. -/
def IsKeyChar (c : Char) : Prop :=
  ∃ k ∈ sensitiveKeys, ∃ letter ∈ k.toList, standsFor letter c = true

/-- A value is assigned at the head of the text. -/
def Assigns (text : List Char) : Prop :=
  ∃ gap sep gap' v rest, text = gap ++ sep :: (gap' ++ v :: rest) ∧
    (∀ c ∈ gap, isBlank c = true) ∧ (sep = '=' ∨ sep = ':') ∧ (∀ c ∈ gap', isBlank c = true) ∧
    isValueChar v = true

/-- A sensitive key is at the head of the text, and a value is assigned to it. -/
def HasKey (text : List Char) : Prop :=
  ∃ key tail, text = key ++ tail ∧ IsKeyText key ∧ Assigns tail

/-- What stands in the place of a value. -/
def maskedValue : List Char :=
  ['=', '*', '*', '*']

/-- No letter of a key stands for a blank. -/
theorem IsKeyChar.isBlank_eq_false {c : Char} (h : IsKeyChar c) : isBlank c = false := by
  obtain ⟨k, hk, letter, hletter, hstands⟩ := h
  refine Bool.eq_false_iff.2 fun hblank ↦ ?_
  have hnone := of_isBlank (P := fun c ↦ ∀ k ∈ sensitiveKeys,
    k.toList.any (standsFor · c) = false) (by decide) hblank k hk
  exact List.any_eq_false.1 hnone letter hletter hstands

/-- No letter of a key stands for a sign of punctuation. -/
theorem IsKeyChar.notMem_punctuation {c : Char} (h : IsKeyChar c) :
    c ∉ "=:/@*&\"',;".toList := by
  obtain ⟨k, hk, letter, hletter, hstands⟩ := h
  have hnone : ∀ k ∈ sensitiveKeys,
      ("=:/@*&\"',;".toList.any fun c ↦ k.toList.any (standsFor · c)) = false := by
    decide
  intro hmem
  exact List.any_eq_false.1 (hnone k hk) c hmem (List.any_eq_true.2 ⟨letter, hletter, hstands⟩)

/-- `[^\s&"',;]` has the other characters. -/
theorem isValueChar_of_notMem {c : Char} (hblank : isBlank c = false)
    (hquote : c ∉ "&\"',;".toList) : isValueChar c = true := by
  have hcontains : "&\"',;".toList.contains c = false := Bool.eq_false_iff.2 fun hmem ↦
    hquote (List.contains_iff_mem.1 hmem)
  rw [isValueChar, isNotBlank, hblank, hcontains]
  rfl

/-- A key is written in characters of values. -/
theorem IsKeyChar.isValueChar {c : Char} (h : IsKeyChar c) : isValueChar c = true :=
  isValueChar_of_notMem h.isBlank_eq_false fun hquote ↦
    h.notMem_punctuation (List.mem_of_mem_drop (i := 5) hquote)

theorem IsKeyText.isKeyChar {key : List Char} (h : IsKeyText key) : ∀ c ∈ key, IsKeyChar c := by
  obtain ⟨k, hk, hkey⟩ := h
  intro c hc
  obtain ⟨letter, hletter, hstands⟩ := exists_mem_of_forall₂ hkey hc
  exact ⟨k, hk, letter, hletter, hstands⟩

theorem IsKeyText.exists_cons {key : List Char} (h : IsKeyText key) :
    ∃ c rest, key = c :: rest ∧ IsKeyChar c := by
  have hne : ∀ k ∈ sensitiveKeys, k.toList ≠ [] := by decide
  cases key with
  | nil =>
    obtain ⟨k, hk, hkey⟩ := h
    exact absurd (List.forall₂_nil_right_iff.1 hkey) (hne k hk)
  | cons c rest => exact ⟨c, rest, rfl, h.isKeyChar c (List.mem_cons_self ..)⟩

/-! ### What the pattern finds -/

/-- The pattern goes on after a key only with a blank, `=` or `:`. -/
theorem Assigns.exists_cons {text : List Char} (h : Assigns text) :
    ∃ c rest, text = c :: rest ∧ ¬ IsKeyChar c := by
  obtain ⟨gap, sep, gap', v, rest, rfl, hgap, hsep, -, -⟩ := h
  cases gap with
  | nil =>
    refine ⟨sep, _, rfl, fun hkey ↦ hkey.notMem_punctuation ?_⟩
    obtain rfl | rfl := hsep <;> decide
  | cons c gap =>
    refine ⟨c, _, rfl, fun hkey ↦ ?_⟩
    exact Bool.eq_false_iff.1 hkey.isBlank_eq_false (hgap c (List.mem_cons_self ..))

/-- The characters of a key end where a value is assigned. -/
theorem append_inj_of_assigns {k k' tail tail' : List Char} (hk : ∀ c ∈ k, IsKeyChar c)
    (hk' : ∀ c ∈ k', IsKeyChar c) (htail : Assigns tail) (htail' : Assigns tail')
    (h : k ++ tail = k' ++ tail') : k = k' ∧ tail = tail' := by
  obtain ⟨j, rfl, rfl⟩ | ⟨j, rfl, rfl⟩ := List.append_eq_append_iff.1 h
  · cases j with
    | nil => exact ⟨(List.append_nil k).symm, rfl⟩
    | cons c j =>
      obtain ⟨d, rest, heq, hd⟩ := htail.exists_cons
      obtain ⟨rfl, -⟩ := List.cons.inj heq
      exact absurd (hk' c (List.mem_append_right _ (List.mem_cons_self ..))) hd
  · cases j with
    | nil => exact ⟨List.append_nil k', rfl⟩
    | cons c j =>
      obtain ⟨d, rest, heq, hd⟩ := htail'.exists_cons
      obtain ⟨rfl, -⟩ := List.cons.inj heq
      exact absurd (hk c (List.mem_append_right _ (List.mem_cons_self ..))) hd

theorem isBlank_of_isValueChar {c : Char} (h : isValueChar c = true) : isBlank c = false := by
  rw [isValueChar, Bool.and_eq_true] at h
  simpa [isNotBlank] using h.1

theorem isBlank_of_eq_separator {c : Char} (h : c = '=' ∨ c = ':') : isBlank c = false := by
  obtain rfl | rfl := h <;> decide

/-- An assignment is matched. -/
theorem assignment_ne_none {text : List Char} (h : Assigns text) : assignment text ≠ none := by
  obtain ⟨gap, sep, gap', v, rest, rfl, hgap, hsep, hgap', hv⟩ := h
  have hvalue : orElse (chain (· ++ ·) bearer keyedValue) keyedValue (v :: rest) ≠ none := by
    rw [orElse, Ne, Option.or_eq_none_iff, not_and_or]
    exact Or.inr (by simp [keyedValue, chain, one, many, hv])
  obtain ⟨found, hfound⟩ := Option.ne_none_iff_exists'.1 hvalue
  have hsepClass : (sep == '=' || sep == ':') = true := by simpa using hsep
  rw [assignment, chain, many_append_cons hgap (isBlank_of_eq_separator hsep), Option.bind_some,
    chain, one, if_pos hsepClass, Option.bind_some, chain,
    many_append_cons hgap' (isBlank_of_isValueChar hv), Option.bind_some, hfound]
  exact Option.some_ne_none _

/-- The value, with or without `Bearer`. -/
theorem head_of_value_eq_some {text a rest : List Char}
    (h : orElse (chain (· ++ ·) bearer keyedValue) keyedValue text = some (a, rest)) :
    ∃ v tail, text = v :: tail ∧ isValueChar v = true := by
  obtain h | ⟨-, h⟩ := Option.or_eq_some_iff.1 h
  · obtain ⟨c, mid, d, hbearer, -, -⟩ := chain_eq_some_iff.1 h
    obtain ⟨c, mid, d, hword, -, -⟩ := chain_eq_some_iff.1 hbearer
    obtain ⟨rfl, hletters⟩ := word_eq_some_iff.1 hword
    obtain ⟨v, tail, hv, -, rfl⟩ := List.forall₂_cons_left_iff.1 hletters
    have hb : standsFor 'b' v = true := hv
    refine ⟨v, tail ++ mid, rfl, isValueChar_of_notMem (Bool.eq_false_iff.2 fun hblank ↦ ?_) ?_⟩
    · have hnot := of_isBlank (P := fun c ↦ standsFor 'b' c = false) (by decide) hblank
      rw [hnot] at hb
      cases hb
    · have hnot : ∀ c ∈ "&\"',;".toList, standsFor 'b' c = false :=
        forall_mem_eq_false (by decide)
      intro hquote
      rw [hnot v hquote] at hb
      cases hb
  · obtain ⟨r, mid, d, hone, -, -⟩ := chain_eq_some_iff.1 h
    obtain ⟨v, rfl, hv, -⟩ := one_eq_some_iff.1 hone
    exact ⟨v, mid, rfl, hv⟩

theorem copies_assignment : Copies assignment := by
  have hkeyed : Copies keyedValue := (copies_one _).chain (copies_many _)
  have hbearer : Copies bearer :=
    (copies_word _).chain ((copies_one _).chain (copies_many _))
  exact (copies_many _).chain <| (copies_one _).chain <| (copies_many _).chain <|
    (hbearer.chain hkeyed).orElse hkeyed

/-- A value ends where its characters do. -/
theorem exhausts_assignment : Exhausts isValueChar assignment := by
  have hkeyed : Exhausts isValueChar keyedValue := (exhausts_many _).chain
  exact ((hkeyed.chain.orElse hkeyed).chain).chain.chain

/-- What is matched is an assignment, and begins with a blank or its separator. -/
theorem assignment_eq_some {text a rest : List Char} (h : assignment text = some (a, rest)) :
    Assigns text ∧ ∃ gap sep value, a = gap ++ sep :: value ∧ (sep = '=' ∨ sep = ':') := by
  obtain ⟨gap, mid, b, hgap, hmid, rfl⟩ := chain_eq_some_iff.1 h
  obtain ⟨s, mid', b', hone, hmid', rfl⟩ := chain_eq_some_iff.1 hmid
  obtain ⟨gap', mid'', b'', hgap', hvalue, rfl⟩ := chain_eq_some_iff.1 hmid'
  obtain ⟨sep, rfl, hsep, rfl⟩ := one_eq_some_iff.1 hone
  obtain ⟨v, tail, rfl, hv⟩ := head_of_value_eq_some hvalue
  have hsep : sep = '=' ∨ sep = ':' := by simpa using hsep
  have hblank : ∀ gap rest text, many isBlank text = some (gap, rest) →
      ∀ c ∈ gap, isBlank c = true := by
    intro gap rest text hmany c hc
    obtain ⟨rfl, -⟩ := Prod.mk.inj (Option.some.inj hmany)
    exact List.mem_takeWhile_imp hc
  refine ⟨⟨gap, sep, gap', v, tail, ?_, hblank _ _ _ hgap, hsep, hblank _ _ _ hgap', hv⟩,
    gap, sep, gap' ++ b'', rfl, hsep⟩
  rw [copies_many isBlank _ _ _ hgap, copies_many isBlank _ _ _ hgap']

/-- What a match consists of. -/
theorem keyValue_eq_some {text out rest : List Char} (h : keyValue text = some (out, rest)) :
    ∃ key tail a, text = key ++ tail ∧ IsKeyText key ∧ assignment tail = some (a, rest) ∧
      out = key ++ maskedValue := by
  obtain ⟨m, hm, h⟩ := exists_of_firstOf_eq_some h
  obtain ⟨k, hk, rfl⟩ := List.mem_map.1 hm
  obtain ⟨key, tail, a, hword, hassignment, rfl⟩ := chain_eq_some_iff.1 h
  obtain ⟨rfl, hkey⟩ := word_eq_some_iff.1 hword
  exact ⟨key, tail, a, rfl, ⟨k, hk, List.forall₂_map_left_iff.1 hkey⟩, hassignment, rfl⟩

/-- **The pattern finds nothing exactly where no key is assigned a value.** -/
theorem keyValue_eq_none_iff {text : List Char} : keyValue text = none ↔ ¬ HasKey text := by
  constructor
  · rintro h ⟨key, tail, rfl, ⟨k, hk, hkey⟩, htail⟩
    refine firstOf_ne_none (List.mem_map_of_mem hk) ?_ h
    obtain ⟨⟨a, rest⟩, hfound⟩ := Option.ne_none_iff_exists'.1 (assignment_ne_none htail)
    have hword : ignoreCase k (key ++ tail) = some (key, tail) :=
      word_eq_some_iff.2 ⟨rfl, List.forall₂_map_left_iff.2 hkey⟩
    rw [chain, hword, Option.bind_some, hfound]
    exact Option.some_ne_none _
  · intro h
    by_contra hfound
    obtain ⟨⟨out, rest⟩, hfound⟩ := Option.ne_none_iff_exists'.1 hfound
    obtain ⟨key, tail, a, rfl, hkey, hassignment, -⟩ := keyValue_eq_some hfound
    exact h ⟨key, tail, rfl, hkey, (assignment_eq_some hassignment).1⟩

/-! ### The output -/

section Output

variable {text : List Char} {pieces : List (Piece Char)}

/-- Up to the first key, the output is the text. -/
theorem exists_reads_of_output_eq (h : Reads keyValue text pieces) {lead rest : List Char}
    (hlead : ∀ c ∈ lead, ¬ IsKeyChar c) (heq : output pieces = lead ++ rest) :
    ∃ tail pieces', text = lead ++ tail ∧ Reads keyValue tail pieces' ∧ output pieces' = rest := by
  induction lead generalizing text pieces with
  | nil => exact ⟨text, pieces, rfl, h, heq⟩
  | cons c lead ih =>
    obtain ⟨hc, hlead'⟩ := List.forall_mem_cons.1 hlead
    cases h with
    | nil => cases heq
    | keep _ hrest =>
      obtain ⟨rfl, htail⟩ := List.cons.inj heq
      obtain ⟨tail, pieces', rfl, htail, hout⟩ := ih hrest hlead' htail
      exact ⟨tail, pieces', rfl, htail, hout⟩
    | replace hsome _ =>
      obtain ⟨key, tail, a, -, hkey, -, rfl⟩ := keyValue_eq_some hsome
      obtain ⟨d, key, rfl, hd⟩ := hkey.exists_cons
      obtain ⟨rfl, -⟩ := List.cons.inj heq
      exact absurd hd hc

/-- Where the output assigns a value, the text does. -/
theorem Assigns.of_output (h : Reads keyValue text pieces) (hout : Assigns (output pieces)) :
    Assigns text := by
  obtain ⟨gap, sep, gap', v, rest, heq, hgap, hsep, hgap', hv⟩ := hout
  have hblank : ∀ c, isBlank c = true → ¬ IsKeyChar c := fun c hc hkey ↦
    Bool.eq_false_iff.1 hkey.isBlank_eq_false hc
  have hsepKey : ¬ IsKeyChar sep := by
    intro hkey
    refine hkey.notMem_punctuation ?_
    obtain rfl | rfl := hsep <;> decide
  have hlead : ∀ c ∈ gap ++ sep :: gap', ¬ IsKeyChar c := by
    refine List.forall_mem_append.2 ⟨fun c hc ↦ hblank c (hgap c hc), ?_⟩
    exact List.forall_mem_cons.2 ⟨hsepKey, fun c hc ↦ hblank c (hgap' c hc)⟩
  have hsplit : output pieces = (gap ++ sep :: gap') ++ v :: rest := by simpa using heq
  obtain ⟨tail, pieces', rfl, htail, hout⟩ := exists_reads_of_output_eq h hlead hsplit
  obtain ⟨w, tail, rfl, hw⟩ : ∃ w tail', tail = w :: tail' ∧ isValueChar w = true := by
    cases htail with
    | nil => cases hout
    | keep _ _ =>
      obtain ⟨rfl, -⟩ := List.cons.inj hout
      exact ⟨_, _, rfl, hv⟩
    | replace hsome _ =>
      obtain ⟨key, tail, a, rfl, hkey, -, -⟩ := keyValue_eq_some hsome
      obtain ⟨d, key, rfl, hd⟩ := hkey.exists_cons
      exact ⟨d, _, rfl, hd.isValueChar⟩
  exact ⟨gap, sep, gap', w, tail, by simp, hgap, hsep, hgap', hw⟩

theorem assigns_maskedValue (rest : List Char) : Assigns (maskedValue ++ rest) :=
  ⟨[], '=', [], '*', '*' :: '*' :: rest, rfl, fun _ h ↦ absurd h List.not_mem_nil, Or.inl rfl,
    fun _ h ↦ absurd h List.not_mem_nil, by decide⟩

/-- Where the output has the rest of a key with a value, the text has it. -/
theorem exists_of_output_eq_append (h : Reads keyValue text pieces) {k rest : List Char}
    (hk : ∀ c ∈ k, IsKeyChar c) (hrest : Assigns rest) (heq : output pieces = k ++ rest) :
    ∃ tail, text = k ++ tail ∧ Assigns tail := by
  induction h generalizing k with
  | nil =>
    obtain ⟨c, rest, rfl, -⟩ := hrest.exists_cons
    exact absurd heq.symm (by simp)
  | @keep c text pieces hnone hreads ih =>
    cases k with
    | nil =>
      refine ⟨c :: text, rfl, Assigns.of_output (.keep hnone hreads) ?_⟩
      rw [heq]
      exact hrest
    | cons d k =>
      obtain ⟨rfl, htail⟩ := List.cons.inj heq
      obtain ⟨tail, rfl, hassigns⟩ := ih (List.forall_mem_cons.1 hk).2 htail
      exact ⟨tail, rfl, hassigns⟩
  | @replace _ _ _ pieces hsome hreads ih =>
    obtain ⟨key, tail, a, rfl, hkey, hassignment, rfl⟩ := keyValue_eq_some hsome
    have hsplit : key ++ (maskedValue ++ output pieces) = k ++ rest := by
      rw [← List.append_assoc]
      exact heq
    obtain ⟨rfl, -⟩ :=
      append_inj_of_assigns hkey.isKeyChar hk (assigns_maskedValue _) hrest hsplit
    exact ⟨tail, rfl, (assignment_eq_some hassignment).1⟩

/-- **A key of the output is a key of the text.** -/
theorem HasKey.of_output (h : Reads keyValue text pieces) (hout : HasKey (output pieces)) :
    HasKey text := by
  obtain ⟨key, rest, heq, hkey, hrest⟩ := hout
  obtain ⟨tail, rfl, htail⟩ := exists_of_output_eq_append h hkey.isKeyChar hrest heq
  exact ⟨key, tail, rfl, hkey, htail⟩

/-- Where no value goes on in the text, none goes on in the output. -/
theorem head_output_of_head (h : Reads keyValue text pieces)
    (hhead : ∀ c ∈ text.head?, isValueChar c = false) :
    (output pieces).head? = text.head? := by
  cases h with
  | nil => rfl
  | keep _ _ => rfl
  | replace hsome _ =>
    obtain ⟨key, tail, a, rfl, hkey, -, -⟩ := keyValue_eq_some hsome
    obtain ⟨c, key, rfl, hc⟩ := hkey.exists_cons
    have hnot := hhead c rfl
    rw [hc.isValueChar] at hnot
    cases hnot

end Output

/-! ### The second pass -/

theorem assignment_maskedValue {rest : List Char}
    (h : ∀ c ∈ rest.head?, isValueChar c = false) :
    assignment (maskedValue ++ rest) = some (maskedValue, rest) := by
  have hgap : ∀ c rest', isBlank c = false → many isBlank (c :: rest') = some ([], c :: rest') :=
    fun c rest' hc ↦ by simp [many, hc]
  have hvalue : keyedValue ('*' :: '*' :: '*' :: rest) = some (['*', '*', '*'], rest) := by
    have hstars : ∀ c ∈ ['*', '*'], isValueChar c = true := List.all_eq_true.1 (by decide)
    have hmany : many isValueChar ('*' :: '*' :: rest) = some (['*', '*'], rest) := by
      cases rest with
      | nil => decide
      | cons c rest => exact many_append_cons hstars (h c rfl) rest
    exact chain_eq_some_iff.2 ⟨['*'], _, ['*', '*'], rfl, hmany, rfl⟩
  have hbearer : bearer ('*' :: '*' :: '*' :: rest) = none := by
    simp [bearer, ignoreCase, word, chain, one, standsFor]
  refine chain_eq_some_iff.2 ⟨[], _, maskedValue, hgap '=' _ (by decide), ?_, rfl⟩
  refine chain_eq_some_iff.2 ⟨['='], _, ['*', '*', '*'], rfl, ?_, rfl⟩
  refine chain_eq_some_iff.2 ⟨[], _, ['*', '*', '*'], hgap '*' _ (by decide), ?_, rfl⟩
  show orElse (chain (· ++ ·) bearer keyedValue) keyedValue ('*' :: '*' :: '*' :: rest) = _
  rw [orElse, chain, hbearer]
  exact hvalue

/-- A masked value is found again. -/
theorem keyValue_masked {key rest : List Char} (hkey : IsKeyText key)
    (h : ∀ c ∈ rest.head?, isValueChar c = false) :
    keyValue (key ++ maskedValue ++ rest) = some (key ++ maskedValue, rest) := by
  have hmasked : HasKey (key ++ maskedValue ++ rest) :=
    ⟨key, maskedValue ++ rest, by simp, hkey, assigns_maskedValue rest⟩
  have hsome : keyValue (key ++ maskedValue ++ rest) ≠ none := fun hnone ↦
    keyValue_eq_none_iff.1 hnone hmasked
  obtain ⟨⟨out, rest'⟩, hfound⟩ := Option.ne_none_iff_exists'.1 hsome
  obtain ⟨key', tail, a, heq, hkey', hassignment, rfl⟩ := keyValue_eq_some hfound
  rw [List.append_assoc] at heq
  obtain ⟨rfl, rfl⟩ := append_inj_of_assigns hkey.isKeyChar hkey'.isKeyChar
    (assigns_maskedValue rest) (assignment_eq_some hassignment).1 heq
  rw [assignment_maskedValue h] at hassignment
  obtain ⟨-, rfl⟩ := Prod.mk.inj (Option.some.inj hassignment)
  exact hfound

/-- **A second pass over the keys changes nothing.** -/
theorem maskKeys_maskKeys (text : List Char) : maskKeys (maskKeys text) = maskKeys text := by
  obtain ⟨pieces, h⟩ := exists_reads shrinks_keyValue text
  rw [maskKeys, maskKeys, h.replaceAll_eq shrinks_keyValue]
  induction h with
  | nil => rfl
  | @keep c text pieces hnone hreads ih =>
    have hnone' : ¬ HasKey (c :: output pieces) := fun hout ↦
      keyValue_eq_none_iff.1 hnone (HasKey.of_output (.keep hnone hreads) hout)
    rw [output_cons_kept, replaceAll_cons (keyValue_eq_none_iff.2 hnone'), ih]
  | replace hsome hreads ih =>
    obtain ⟨key, tail, a, rfl, hkey, hassignment, rfl⟩ := keyValue_eq_some hsome
    have hstop := exhausts_assignment _ _ _ hassignment
    have hhead := head_output_of_head hreads hstop
    rw [output_cons_replaced, replaceAll_of_eq_some shrinks_keyValue
      (keyValue_masked hkey (hhead ▸ hstop)), ih]

end InvestmentAssistant
