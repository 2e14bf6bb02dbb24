import Mathlib.Data.List.Infix
import Mathlib.Tactic
import InvestmentAssistant.Foundation.CharClass
import InvestmentAssistant.Foundation.Decimal

/-!
# Leftmost search for a number after a keyword

The search of a pattern `(?:w₁|w₂|…)\s+(\d+\.?\d*)` through a text, for a list of keywords, and the
captured number. The greedy reading needs no backtracking: a blank is not a digit, so giving back a
blank never helps, and everything after the first digit is optional.

A text composed from a template is searched piece by piece: a *quiet* lead, in which no keyword
starts and none could be completed by what follows, is skipped (`search_append_of_quiet`), and at a
keyword followed by a printed number the search ends with exactly that number
(`search_keyword_fixedText`).
-/

namespace KeywordSearch

open CharClass Decimal

/-- `\d+\.?\d*` at the head of a text. -/
def numberAt (text : List Char) : Option (List Char) :=
  let whole := text.takeWhile isDecimalDigit
  if whole = [] then none
  else
    match text.dropWhile isDecimalDigit with
    | '.' :: rest => some (whole ++ '.' :: rest.takeWhile isDecimalDigit)
    | _ => some whole

/-- `\s+(\d+\.?\d*)` at the head of a text, with the captured number. -/
def numberAfterBlanks : List Char → Option (List Char)
  | [] => none
  | c :: rest => if isBlank c then numberAt (rest.dropWhile isBlank) else none

/-- A keyword and the number after it, at the head of a text; the keywords are tried in order. -/
def matchAt (words : List (List Char)) (text : List Char) : Option (List Char) :=
  words.findSome? fun w ↦
    if w <+: text then numberAfterBlanks (text.drop w.length) else none

/-- The number after the leftmost keyword that has one. -/
def search (words : List (List Char)) : List Char → Option (List Char)
  | [] => none
  | c :: rest =>
    match matchAt words (c :: rest) with
    | some number => some number
    | none => search words rest

/-! ### Skipping the text before the keyword -/

/-- No keyword starts within `lead`, whatever follows it. -/
def Quiet (words : List (List Char)) (lead : List Char) : Prop :=
  ∀ s ∈ lead.tails, s ≠ [] → ∀ w ∈ words, ¬ w <+: s ∧ ¬ s <+: w

instance (words : List (List Char)) (lead : List Char) : Decidable (Quiet words lead) :=
  inferInstanceAs (Decidable (∀ _ ∈ _, _))

variable {words : List (List Char)} {lead rest : List Char}

theorem Quiet.tail {c : Char} (h : Quiet words (c :: lead)) : Quiet words lead := by
  intro s hs
  exact h s (by rw [List.tails_cons]; exact List.mem_cons_of_mem _ hs)

/-- Text without the first character of any keyword is quiet. -/
theorem quiet_of_heads (h : ∀ c ∈ lead, ∀ w ∈ words, ∃ a l, w = a :: l ∧ a ≠ c) :
    Quiet words lead := by
  intro s hs hne w hw
  obtain ⟨c, t, rfl⟩ := List.exists_cons_of_ne_nil hne
  have hc : c ∈ lead := ((List.mem_tails _ _).1 hs).subset (List.mem_cons_self ..)
  obtain ⟨a, l, rfl, ha⟩ := h c hc w hw
  exact ⟨fun hp ↦ ha (List.cons_prefix_cons.1 hp).1,
    fun hp ↦ ha (List.cons_prefix_cons.1 hp).1.symm⟩

/-- Quiet texts compose. -/
theorem Quiet.append (h : Quiet words lead) (hrest : Quiet words rest) :
    Quiet words (lead ++ rest) := by
  induction lead with
  | nil => exact hrest
  | cons c lead ih =>
    intro s hs hne w hw
    rw [List.cons_append, List.tails_cons, List.mem_cons] at hs
    rcases hs with rfl | hs
    · obtain ⟨hlong, hshort⟩ :=
        h (c :: lead) ((List.mem_tails _ _).2 List.suffix_rfl) (List.cons_ne_nil _ _) w hw
      rw [← List.cons_append]
      refine ⟨fun hp ↦ ?_, fun hp ↦ hshort ((List.prefix_append _ _).trans hp)⟩
      rcases List.prefix_or_prefix_of_prefix hp (List.prefix_append _ _) with hp | hp
      · exact hlong hp
      · exact hshort hp
    · exact ih h.tail s hs hne w hw

/-- At the head of a quiet lead no keyword matches. -/
theorem matchAt_append_of_quiet {c : Char} (h : Quiet words (c :: lead)) :
    matchAt words (c :: lead ++ rest) = none := by
  rw [matchAt, List.findSome?_eq_none_iff]
  intro w hw
  obtain ⟨hlong, hshort⟩ :=
    h (c :: lead) ((List.mem_tails _ _).2 List.suffix_rfl) (List.cons_ne_nil _ _) w hw
  rw [if_neg]
  intro hp
  rcases List.prefix_or_prefix_of_prefix hp (List.prefix_append _ _) with hp | hp
  · exact hlong hp
  · exact hshort hp

/-- **A quiet lead is skipped.** -/
theorem search_append_of_quiet (h : Quiet words lead) :
    search words (lead ++ rest) = search words rest := by
  induction lead with
  | nil => rfl
  | cons c lead ih =>
    rw [List.cons_append, search, ← List.cons_append, matchAt_append_of_quiet h]
    exact ih h.tail

/-- A quiet text has no match. -/
theorem search_eq_none_of_quiet (h : Quiet words lead) : search words lead = none := by
  rw [← List.append_nil lead, search_append_of_quiet h]
  rfl

/-! ### Ending at the keyword -/

/-- The number at the head of a printed number is the printed number. -/
theorem numberAt_fixedText (d n : ℕ) (h : ∀ c ∈ rest.head?, isDecimalDigit c = false) :
    numberAt (fixedText d n ++ rest) = some (fixedText d n) := by
  have hwhole : ∀ c ∈ Nat.toDigits 10 (n / 10 ^ d), isDecimalDigit c = true :=
    fun _ hc ↦ isDecimalDigit_of_mem_toDigits hc
  have hfrac : ∀ c ∈ fracDigits d n, isDecimalDigit c = true :=
    fun _ hc ↦ isDecimalDigit_of_mem_fracDigits hc
  have hpoint : isDecimalDigit '.' = false := by decide
  have htail : rest.takeWhile isDecimalDigit = [] := by
    rcases rest with _ | ⟨c, rest⟩
    · rfl
    · rw [List.takeWhile_cons, h c rfl]
      rfl
  have htake : (fixedText d n ++ rest).takeWhile isDecimalDigit =
      Nat.toDigits 10 (n / 10 ^ d) := by
    rw [fixedText, List.append_assoc, List.takeWhile_append_of_pos hwhole, List.cons_append,
      List.takeWhile_cons, hpoint]
    simp
  have hdrop : (fixedText d n ++ rest).dropWhile isDecimalDigit =
      '.' :: (fracDigits d n ++ rest) := by
    rw [fixedText, List.append_assoc, List.dropWhile_append_of_pos hwhole, List.cons_append,
      List.dropWhile_cons, hpoint]
    simp
  have hne : Nat.toDigits 10 (n / 10 ^ d) ≠ [] := by
    rw [Nat.toDigits_eq_if (by norm_num)]
    split <;> simp
  simp only [numberAt, htake, hdrop, if_neg hne, List.takeWhile_append_of_pos hfrac, htail,
    List.append_nil]
  rw [fixedText]

/-- A printed number starts with a digit, so the blanks before it are exactly the blanks. -/
theorem dropWhile_isBlank_fixedText (d n : ℕ) :
    (fixedText d n ++ rest).dropWhile isBlank = fixedText d n ++ rest := by
  obtain ⟨c, l, hcl⟩ : ∃ c l, Nat.toDigits 10 (n / 10 ^ d) = c :: l := by
    apply List.exists_cons_of_ne_nil
    rw [Nat.toDigits_eq_if (by norm_num)]
    split <;> simp
  have hc : isBlank c = false := by
    obtain ⟨k, hk, rfl⟩ := exists_of_mem_toDigits (hcl ▸ List.mem_cons_self ..)
    exact isBlank_digitChar hk
  rw [fixedText, hcl, List.cons_append, List.cons_append, List.dropWhile_cons, hc]
  rfl

/-- **The search ends at the first keyword with a printed number after it**, and captures exactly
that number. -/
theorem search_keyword_fixedText {w : List Char} (hw : w ≠ []) (hlead : Quiet (w :: words) lead)
    (d n : ℕ) (hrest : ∀ c ∈ rest.head?, isDecimalDigit c = false) :
    search (w :: words) (lead ++ (w ++ ' ' :: (fixedText d n ++ rest))) = some (fixedText d n) := by
  rw [search_append_of_quiet hlead]
  have hmatch : matchAt (w :: words) (w ++ ' ' :: (fixedText d n ++ rest)) =
      some (fixedText d n) := by
    have hblank : isBlank ' ' = true := by decide
    rw [matchAt, List.findSome?_cons, if_pos (List.prefix_append _ _), List.drop_left,
      numberAfterBlanks, if_pos hblank, dropWhile_isBlank_fixedText, numberAt_fixedText d n hrest]
  obtain ⟨a, l, rfl⟩ := List.exists_cons_of_ne_nil hw
  rw [List.cons_append] at hmatch ⊢
  rw [search, hmatch]

end KeywordSearch
