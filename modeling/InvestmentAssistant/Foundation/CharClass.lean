import Mathlib.Tactic

/-!
# The character classes of a Unicode regular expression engine

The classes behind `\d` and `\s` of a Unicode-aware pattern, and the numeric value such an engine's
host language gives a decimal digit. A digit class is *not* the ten ASCII digits: every code point
of general category `Nd` belongs to it, and those come in runs of ten that start at a zero. So the
class is a table of zeros (`decimalZeros`), and membership and value are read off the same table.

Two bridges are what a consumer uses: the digits `Nat.toDigits 10` produces are in the class with
their own value (`isDecimalDigit_digitChar`, `decimalValue_digitChar`), and a digit is never a
blank.
-/

namespace CharClass

/-- The code points of the zero digits of the Unicode category `Nd`; each starts a run of ten. -/
def decimalZeros : List ℕ :=
  [0x30, 0x660, 0x6F0, 0x7C0, 0x966, 0x9E6, 0xA66, 0xAE6, 0xB66, 0xBE6, 0xC66, 0xCE6, 0xD66,
    0xDE6, 0xE50, 0xED0, 0xF20, 0x1040, 0x1090, 0x17E0, 0x1810, 0x1946, 0x19D0, 0x1A80, 0x1A90,
    0x1B50, 0x1BB0, 0x1C40, 0x1C50, 0xA620, 0xA8D0, 0xA900, 0xA9D0, 0xA9F0, 0xAA50, 0xABF0,
    0xFF10, 0x104A0, 0x10D30, 0x11066, 0x110F0, 0x11136, 0x111D0, 0x112F0, 0x11450, 0x114D0,
    0x11650, 0x116C0, 0x11730, 0x118E0, 0x11950, 0x11C50, 0x11D50, 0x11DA0, 0x11F50, 0x16A60,
    0x16AC0, 0x16B50, 0x1D7CE, 0x1D7D8, 0x1D7E2, 0x1D7EC, 0x1D7F6, 0x1E140, 0x1E2F0, 0x1E4F0,
    0x1E950, 0x1FBF0]

/-- The zero of the run `c` lies in, when `c` is a decimal digit. -/
def zeroOf (c : Char) : Option ℕ :=
  decimalZeros.find? fun z ↦ decide (z ≤ c.toNat ∧ c.toNat < z + 10)

/-- `\d` of a Unicode pattern. -/
def isDecimalDigit (c : Char) : Bool :=
  (zeroOf c).isSome

/-- The value of a decimal digit, and `0` for every other character. -/
def decimalValue (c : Char) : ℕ :=
  match zeroOf c with
  | some z => c.toNat - z
  | none => 0

/-- The value of a digit is below ten. -/
theorem decimalValue_lt (c : Char) : decimalValue c < 10 := by
  rw [decimalValue]
  split
  · next z hz =>
    have hrun := List.find?_some (p := fun z ↦ decide (z ≤ c.toNat ∧ c.toNat < z + 10)) hz
    have hmem := of_decide_eq_true hrun
    omega
  · decide

/-- `\s` of a Unicode pattern. -/
def isBlank (c : Char) : Bool :=
  decide (c.toNat ∈
    [0x9, 0xA, 0xB, 0xC, 0xD, 0x1C, 0x1D, 0x1E, 0x1F, 0x20, 0x85, 0xA0, 0x1680, 0x2000, 0x2001,
      0x2002, 0x2003, 0x2004, 0x2005, 0x2006, 0x2007, 0x2008, 0x2009, 0x200A, 0x2028,
      0x2029, 0x202F, 0x205F, 0x3000])

/-- Upper case makes nothing but letters. -/
theorem toUpper_eq_iff {c d : Char} (hd : d.isAlpha = false) : c.toUpper = d ↔ c = d := by
  have hne {e : Char} (he : e.isAlpha = true) : e ≠ d := fun heq ↦ by simp [← heq, he] at hd
  unfold Char.toUpper
  split
  · next hlower =>
    simp only [UInt32.le_iff_toNat_le] at hlower
    simp at hlower
    refine iff_of_false (hne ?_) (hne ?_)
    · refine Bool.or_eq_true_iff.2 (.inl (decide_eq_true ?_))
      simp [UInt32.le_iff_toNat_le, UInt32.toNat_add]
      omega
    · refine Bool.or_eq_true_iff.2 (.inr (Bool.and_eq_true_iff.2 ?_))
      simp [UInt32.le_iff_toNat_le]
      omega
  · exact Iff.rfl

/-- The digits of a printed number are decimal digits. -/
theorem isDecimalDigit_digitChar {n : ℕ} (h : n < 10) : isDecimalDigit n.digitChar = true := by
  interval_cases n <;> decide

/-- And they are read back at their own value. -/
theorem decimalValue_digitChar {n : ℕ} (h : n < 10) : decimalValue n.digitChar = n := by
  interval_cases n <;> decide

/-- A digit of a printed number is never a blank. -/
theorem isBlank_digitChar {n : ℕ} (h : n < 10) : isBlank n.digitChar = false := by
  interval_cases n <;> decide

/-- What holds of every blank, by inspection of the table, holds of a character that is one. -/
theorem of_isBlank {P : Char → Prop}
    (h : ∀ n ∈ [0x9, 0xA, 0xB, 0xC, 0xD, 0x1C, 0x1D, 0x1E, 0x1F, 0x20, 0x85, 0xA0, 0x1680, 0x2000,
      0x2001, 0x2002, 0x2003, 0x2004, 0x2005, 0x2006, 0x2007, 0x2008, 0x2009, 0x200A, 0x2028,
      0x2029, 0x202F, 0x205F, 0x3000], P (Char.ofNat n)) {c : Char} (hc : isBlank c = true) :
    P c := by
  rw [← Char.ofNat_toNat c]
  exact h c.toNat (of_decide_eq_true hc)

/-- A blank is not a decimal digit. -/
theorem isDecimalDigit_of_isBlank {c : Char} (h : isBlank c = true) : isDecimalDigit c = false :=
  of_isBlank (P := fun c ↦ isDecimalDigit c = false) (by decide +kernel) h

theorem isBlank_of_isDecimalDigit {c : Char} (h : isDecimalDigit c = true) : isBlank c = false :=
  Bool.eq_false_iff.2 fun hblank ↦ Bool.eq_false_iff.1 (isDecimalDigit_of_isBlank hblank) h

/-- A class that no character of a list is in, decided on the list. -/
theorem forall_mem_eq_false {f : Char → Bool} {l : List Char} (h : l.any f = false) :
    ∀ c ∈ l, f c = false :=
  fun c hc ↦ Bool.eq_false_iff.2 (List.any_eq_false.1 h c hc)

end CharClass
