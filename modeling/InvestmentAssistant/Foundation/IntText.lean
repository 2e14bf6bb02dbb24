import InvestmentAssistant.Foundation.Text

/-!
# Integers as text

`int(text)`: blanks around it, a sign, and decimal digits of any script with single underscores
between them. More than 4300 digits are refused.
-/

namespace IntText

open CharClass Text

/-- The value of decimal digits. -/
def digitsToNat (digits : List Char) : ℕ :=
  digits.foldl (fun value c ↦ 10 * value + decimalValue c) 0

theorem digitsToNat_concat (digits : List Char) (c : Char) :
    digitsToNat (digits ++ [c]) = 10 * digitsToNat digits + decimalValue c :=
  List.foldl_append

/-- A number with so many digits is small. -/
theorem digitsToNat_lt (digits : List Char) : digitsToNat digits < 10 ^ digits.length := by
  induction digits using List.reverseRecOn with
  | nil => decide
  | append_singleton digits c ih =>
    have hdigit := decimalValue_lt c
    rw [digitsToNat_concat, List.length_append, List.length_singleton, pow_succ]
    omega

/-- The digits of a text, whose underscores each stand between two of them. -/
def digits? (text : List Char) : Option (List Char) :=
  let groups := text.splitOn '_'
  if groups.all (fun group ↦ decide (group ≠ []) && group.all isDecimalDigit) then
    some groups.flatten
  else none

/-- `sys.get_int_max_str_digits()`. -/
def maxStrDigits : ℕ := 4300

/-- A natural number without a sign. -/
def nat? (text : List Char) : Option ℕ :=
  (digits? text).bind fun digits ↦
    if digits.length ≤ maxStrDigits then some (digitsToNat digits) else none

/-- `int(text)`; `none` is the `ValueError`. -/
def int? (text : List Char) : Option ℤ :=
  match strip text with
  | '-' :: text => (nat? text).map fun n ↦ -(n : ℤ)
  | '+' :: text => (nat? text).map fun n ↦ (n : ℤ)
  | text => (nat? text).map fun n ↦ (n : ℤ)

theorem digits?_of_digits {digits : List Char} (hne : digits ≠ [])
    (h : ∀ c ∈ digits, isDecimalDigit c = true) : digits? digits = some digits := by
  have hsep : ∀ c ∈ digits, (c == '_') = false := by
    intro c hc
    refine beq_eq_false_iff_ne.2 ?_
    rintro rfl
    exact absurd (h _ hc) (by decide)
  have hsplit : digits.splitOn '_' = [digits] := by
    rw [List.splitOn_eq_splitOnP, List.splitOnP_eq_singleton hsep]
  simp only [digits?, hsplit, List.all_cons, List.all_nil, Bool.and_true, List.flatten_singleton]
  rw [if_pos]
  rw [Bool.and_eq_true, decide_eq_true_iff, List.all_eq_true]
  exact ⟨hne, h⟩

/-- A text of a few decimal digits is a number. -/
theorem int?_of_digits {digits : List Char} (hne : digits ≠ [])
    (h : ∀ c ∈ digits, isDecimalDigit c = true) (hlen : digits.length ≤ maxStrDigits) :
    int? digits = some (digitsToNat digits : ℤ) := by
  have hstrip : strip digits = digits :=
    strip_eq_self fun c hc ↦ isBlank_of_isDecimalDigit (h c hc)
  have hnat : nat? digits = some (digitsToNat digits) := by
    rw [nat?, digits?_of_digits hne h, Option.bind_some, if_pos hlen]
  rw [int?.eq_def, hstrip]
  split
  · exact absurd (h '-' (List.mem_cons_self ..)) (by decide)
  · exact absurd (h '+' (List.mem_cons_self ..)) (by decide)
  · rw [hnat]
    rfl

theorem isDecimalDigit_of_mem_digits? {text digits : List Char} (h : digits? text = some digits)
    {c : Char} (hc : c ∈ text) : c = '_' ∨ isDecimalDigit c = true := by
  rw [digits?] at h
  split at h
  · next hgroups =>
    refine (mem_splitOn hc).imp_right fun hmem ↦ ?_
    obtain ⟨group, hgroup, hc⟩ := hmem
    have hall := List.all_eq_true.1 hgroups group hgroup
    exact List.all_eq_true.1 (Bool.and_eq_true_iff.1 hall).2 c hc
  · cases h

/-- What stands in a number: blanks, a sign, underscores and digits. -/
theorem of_mem_of_int?_eq_some {text : List Char} {n : ℤ} (h : int? text = some n) {c : Char}
    (hc : c ∈ text) : isBlank c = true ∨ c = '-' ∨ c = '+' ∨ c = '_' ∨ isDecimalDigit c = true := by
  by_cases hblank : isBlank c = true
  · exact .inl hblank
  have hnat : ∀ {text : List Char} {m : ℕ}, nat? text = some m → c ∈ text →
      c = '_' ∨ isDecimalDigit c = true := by
    intro text m h hc
    obtain ⟨digits, hdigits, -⟩ := Option.bind_eq_some_iff.1 h
    exact isDecimalDigit_of_mem_digits? hdigits hc
  have hmem := mem_strip_of_mem hc (Bool.eq_false_iff.2 hblank)
  rw [int?.eq_def] at h
  split at h
  all_goals
    obtain ⟨k, hk, -⟩ := Option.map_eq_some_iff.1 h
    obtain ⟨m, hm, -⟩ := Option.bind_eq_some_iff.1 hk
  · next text heq =>
    rw [heq] at hmem
    rcases List.mem_cons.1 hmem with rfl | hmem
    · exact .inr (.inl rfl)
    · exact .inr (.inr (.inr (hnat hm hmem)))
  · next text heq =>
    rw [heq] at hmem
    rcases List.mem_cons.1 hmem with rfl | hmem
    · exact .inr (.inr (.inl rfl))
    · exact .inr (.inr (.inr (hnat hm hmem)))
  · exact .inr (.inr (.inr (hnat hm hmem)))

example : int? " -1_0\n".toList = some (-10) := by decide

example : int? "1__0".toList = none := by decide

end IntText
