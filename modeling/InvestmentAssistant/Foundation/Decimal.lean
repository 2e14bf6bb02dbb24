import Mathlib.Algebra.Order.Floor.Ring
import Mathlib.Data.Int.Log
import Mathlib.Data.Rat.Floor
import Mathlib.Tactic
import InvestmentAssistant.Foundation.CharClass

/-!
# Decimal rounding and fixed-point text

Numbers are exact rationals here; what rounds is only what a program rounds on purpose, unless a
result is about the arithmetic itself.

* `roundTo d x` is the nearest number with `d` decimals, ties to the even last digit — the rule of
  `round(x, d)` and of the `.df` conversion of a format string.
* `HasDecimals d x` says that `x` is a number with `d` decimals, i.e. a fixed point of `roundTo d`.
* `roundBinary64 x` is the double nearest to `x`, for a program whose result depends on it.
* `formatFixed d x` is the text of `x` with `d` decimals, and `readDecimal` reads such a text back.

The round trip (`readDecimal_fixedText`, `readDecimal_formatFixed`) loses exactly the rounding:
reading back the text of a nonnegative `x` gives `roundTo d x`. Hence the comparison of two
precisions, `roundTo_roundTo_eq_iff`: a text with `m ≤ n` decimals preserves `x` to `n` decimals
exactly when `x`, rounded to `n`, already has only `m`.
-/

namespace Decimal

open CharClass

/-! ### Rounding half to even -/

/-- The nearest integer; a tie goes to the even one. -/
def roundHalfEven (x : ℚ) : ℤ :=
  if Int.fract x < 1 / 2 then ⌊x⌋
  else if 1 / 2 < Int.fract x then ⌊x⌋ + 1
  else if ⌊x⌋ % 2 = 0 then ⌊x⌋ else ⌊x⌋ + 1

/-- Rounding moves a number by at most one half. -/
theorem abs_roundHalfEven_sub_le (x : ℚ) : |(roundHalfEven x : ℚ) - x| ≤ 1 / 2 := by
  have hx : (⌊x⌋ : ℚ) + Int.fract x = x := Int.floor_add_fract x
  have h0 := Int.fract_nonneg x
  have h1 := Int.fract_lt_one x
  unfold roundHalfEven
  rw [abs_le]
  split_ifs with hlt hgt heven
  · constructor <;> linarith
  · push_cast
    constructor <;> linarith
  · constructor <;> linarith
  · push_cast
    constructor <;> linarith

/-- A number less than one half away from an integer rounds to it. -/
theorem roundHalfEven_eq_of_abs_sub_lt {x : ℚ} {n : ℤ} (h : |(n : ℚ) - x| < 1 / 2) :
    roundHalfEven x = n := by
  have hr := abs_le.1 (abs_roundHalfEven_sub_le x)
  have hn := abs_lt.1 h
  have h1 : ((roundHalfEven x : ℤ) : ℚ) - n < 1 := by linarith [hr.2, hn.1]
  have h2 : -1 < ((roundHalfEven x : ℤ) : ℚ) - n := by linarith [hr.1, hn.2]
  have h1' : roundHalfEven x - n < 1 := by exact_mod_cast h1
  have h2' : -1 < roundHalfEven x - n := by exact_mod_cast h2
  omega

@[simp]
theorem roundHalfEven_intCast (n : ℤ) : roundHalfEven (n : ℚ) = n :=
  roundHalfEven_eq_of_abs_sub_lt (by simp)

theorem roundHalfEven_nonneg {x : ℚ} (h : 0 ≤ x) : 0 ≤ roundHalfEven x := by
  have hf : 0 ≤ ⌊x⌋ := Int.floor_nonneg.2 h
  unfold roundHalfEven
  split_ifs <;> omega

/-- Rounding keeps the order. -/
theorem roundHalfEven_mono {x y : ℚ} (h : x ≤ y) : roundHalfEven x ≤ roundHalfEven y := by
  by_contra! hlt
  have hx := (abs_le.1 (abs_roundHalfEven_sub_le x)).2
  have hy := (abs_le.1 (abs_roundHalfEven_sub_le y)).1
  have hstep : (roundHalfEven y : ℚ) + 1 ≤ roundHalfEven x := by exact_mod_cast hlt
  -- both are half a unit off, and at the same place
  obtain rfl : x = y := by linarith
  exact lt_irrefl _ hlt

/-! ### Rounding to a number of decimals -/

/-- The nearest number with `d` decimals. -/
def roundTo (d : ℕ) (x : ℚ) : ℚ :=
  roundHalfEven (x * 10 ^ d) / 10 ^ d

/-- `x` has at most `d` decimals. -/
def HasDecimals (d : ℕ) (x : ℚ) : Prop :=
  ∃ n : ℤ, (n : ℚ) = x * 10 ^ d

theorem pow_ten_pos (d : ℕ) : (0 : ℚ) < 10 ^ d := by positivity

theorem roundTo_mul_pow (d : ℕ) (x : ℚ) : roundTo d x * 10 ^ d = roundHalfEven (x * 10 ^ d) :=
  div_mul_cancel₀ _ (pow_ten_pos d).ne'

theorem roundTo_mono (d : ℕ) {x y : ℚ} (h : x ≤ y) : roundTo d x ≤ roundTo d y := by
  have hscaled : roundHalfEven (x * 10 ^ d) ≤ roundHalfEven (y * 10 ^ d) :=
    roundHalfEven_mono (mul_le_mul_of_nonneg_right h (pow_ten_pos d).le)
  exact div_le_div_of_nonneg_right (by exact_mod_cast hscaled) (pow_ten_pos d).le

theorem hasDecimals_roundTo (d : ℕ) (x : ℚ) : HasDecimals d (roundTo d x) :=
  ⟨_, (roundTo_mul_pow d x).symm⟩

theorem HasDecimals.mono {m n : ℕ} (h : m ≤ n) {x : ℚ} (hx : HasDecimals m x) :
    HasDecimals n x := by
  obtain ⟨k, hk⟩ := hx
  refine ⟨k * 10 ^ (n - m), ?_⟩
  push_cast
  rw [hk, mul_assoc, ← pow_add, Nat.add_sub_cancel' h]

/-- Numbers with `d` decimals are the fixed points of rounding to `d` decimals. -/
theorem roundTo_eq_self_iff {d : ℕ} {x : ℚ} : roundTo d x = x ↔ HasDecimals d x := by
  constructor
  · intro h
    rw [← h]
    exact hasDecimals_roundTo d x
  · rintro ⟨n, hn⟩
    rw [roundTo, ← hn, roundHalfEven_intCast, hn, mul_div_assoc, div_self (pow_ten_pos d).ne',
      mul_one]

/-- A bound with `d` decimals survives rounding to `d` decimals. -/
theorem HasDecimals.le_roundTo {d : ℕ} {x y : ℚ} (hy : HasDecimals d y) (h : y ≤ x) :
    y ≤ roundTo d x :=
  (roundTo_eq_self_iff.2 hy).symm.trans_le (roundTo_mono d h)

theorem HasDecimals.roundTo_le {d : ℕ} {x y : ℚ} (hy : HasDecimals d y) (h : x ≤ y) :
    roundTo d x ≤ y :=
  (roundTo_mono d h).trans_eq (roundTo_eq_self_iff.2 hy)

theorem hasDecimals_zero (d : ℕ) : HasDecimals d 0 :=
  ⟨0, by rw [Int.cast_zero, zero_mul]⟩

theorem hasDecimals_one (d : ℕ) : HasDecimals d 1 :=
  ⟨10 ^ d, by rw [Int.cast_pow, Int.cast_ofNat, one_mul]⟩

/-- A printed precision is decidable: compare the number with its own rounding. -/
instance (d : ℕ) (x : ℚ) : Decidable (HasDecimals d x) :=
  decidable_of_iff (roundTo d x = x) roundTo_eq_self_iff

/-- Rounding to `d` decimals moves a number by at most half a unit of the last one. -/
theorem abs_roundTo_sub_le (d : ℕ) (x : ℚ) : |roundTo d x - x| * 10 ^ d ≤ 1 / 2 := by
  have h := abs_roundHalfEven_sub_le (x * 10 ^ d)
  rwa [← roundTo_mul_pow, ← sub_mul, abs_mul, abs_of_pos (pow_ten_pos d)] at h

/-- A number with `d` decimals less than half a unit away is the rounding. -/
theorem roundTo_eq_of_abs_sub_lt {d : ℕ} {x y : ℚ} (hy : HasDecimals d y)
    (h : |y - x| * 10 ^ d < 1 / 2) : roundTo d x = y := by
  obtain ⟨n, hn⟩ := hy
  have hround : roundHalfEven (x * 10 ^ d) = n := by
    refine roundHalfEven_eq_of_abs_sub_lt ?_
    rwa [hn, ← sub_mul, abs_mul, abs_of_pos (pow_ten_pos d)]
  rw [roundTo, hround, hn, mul_div_assoc, div_self (pow_ten_pos d).ne', mul_one]

/-- **Two precisions.** Rounding to `m` decimals keeps a number unchanged to the finer precision
`n` exactly when the number, to `n` decimals, has only `m`. -/
theorem roundTo_roundTo_eq_iff {m n : ℕ} (hmn : m < n) {x : ℚ} :
    roundTo n (roundTo m x) = roundTo n x ↔ HasDecimals m (roundTo n x) := by
  have hfix : roundTo n (roundTo m x) = roundTo m x :=
    roundTo_eq_self_iff.2 ((hasDecimals_roundTo m x).mono hmn.le)
  rw [hfix]
  constructor
  · intro h
    rw [← h]
    exact hasDecimals_roundTo m x
  · intro h
    refine roundTo_eq_of_abs_sub_lt h ?_
    -- half a unit of the finer precision is less than half a unit of the coarser one
    have hle := abs_roundTo_sub_le n x
    have hpow : (10 : ℚ) ^ m < 10 ^ n := pow_lt_pow_right₀ (by norm_num) hmn
    rcases (abs_nonneg (roundTo n x - x)).eq_or_lt with h0 | hpos
    · rw [← h0]
      norm_num
    · exact lt_of_lt_of_le (mul_lt_mul_of_pos_left hpow hpos) hle

/-! ### Rounding to a double -/

/-- The nearest double, ties to even: a multiple of the unit in the last of 53 binary places, which
is no smaller than that of a subnormal number. Overflow is left out. -/
def roundBinary64 (x : ℚ) : ℚ :=
  let ulp := 2 ^ max (Int.log 2 |x| - 52) (-1074)
  roundHalfEven (x / ulp) * ulp

/-! ### Fixed-point text -/

/-- The last `d` digits of `n`, most significant first. -/
def fracDigits : ℕ → ℕ → List Char
  | 0, _ => []
  | d + 1, n => fracDigits d (n / 10) ++ [Nat.digitChar (n % 10)]

/-- The text of `n / 10 ^ d` with `d` decimals. -/
def fixedText (d n : ℕ) : List Char :=
  Nat.toDigits 10 (n / 10 ^ d) ++ '.' :: fracDigits d n

/-- The `.df` conversion of a format string. -/
def formatFixed (d : ℕ) (x : ℚ) : String :=
  String.ofList ((if x < 0 then ['-'] else []) ++
    fixedText d (roundHalfEven (x * 10 ^ d)).natAbs)

/-- The value of a digit string. -/
def digitsValue (cs : List Char) : ℕ :=
  cs.foldl (fun v c ↦ 10 * v + decimalValue c) 0

/-- The value of an unsigned decimal text `digits[.digits]`. -/
def readDecimal (text : List Char) : ℚ :=
  let whole := text.takeWhile (· != '.')
  let frac := (text.dropWhile (· != '.')).drop 1
  digitsValue (whole ++ frac) / 10 ^ frac.length

@[simp]
theorem length_fracDigits (d n : ℕ) : (fracDigits d n).length = d := by
  induction d generalizing n with
  | zero => rfl
  | succ d ih => simp [fracDigits, ih]

theorem exists_of_mem_fracDigits {d n : ℕ} {c : Char} (h : c ∈ fracDigits d n) :
    ∃ k < 10, c = Nat.digitChar k := by
  induction d generalizing n with
  | zero => exact absurd h List.not_mem_nil
  | succ d ih =>
    rcases List.mem_append.1 h with h | h
    · exact ih h
    · exact ⟨n % 10, Nat.mod_lt _ (by norm_num), List.mem_singleton.1 h⟩

theorem exists_of_mem_toDigits {n : ℕ} {c : Char} (h : c ∈ Nat.toDigits 10 n) :
    ∃ k < 10, c = Nat.digitChar k := by
  induction n using Nat.strong_induction_on with
  | _ n ih =>
    rw [Nat.toDigits_eq_if (by norm_num)] at h
    split at h
    · next hlt => exact ⟨n, hlt, List.mem_singleton.1 h⟩
    · next hge =>
      rcases List.mem_append.1 h with h | h
      · exact ih (n / 10) (by omega) h
      · exact ⟨n % 10, Nat.mod_lt _ (by norm_num), List.mem_singleton.1 h⟩

theorem isDecimalDigit_of_mem_fracDigits {d n : ℕ} {c : Char} (h : c ∈ fracDigits d n) :
    isDecimalDigit c = true := by
  obtain ⟨k, hk, rfl⟩ := exists_of_mem_fracDigits h
  exact isDecimalDigit_digitChar hk

theorem isDecimalDigit_of_mem_toDigits {n : ℕ} {c : Char} (h : c ∈ Nat.toDigits 10 n) :
    isDecimalDigit c = true := by
  obtain ⟨k, hk, rfl⟩ := exists_of_mem_toDigits h
  exact isDecimalDigit_digitChar hk

/-- The point is no digit. -/
theorem ne_point_of_isDecimalDigit {c : Char} (h : isDecimalDigit c = true) : c ≠ '.' := by
  have hpoint : isDecimalDigit '.' = false := by decide
  rintro rfl
  exact Bool.false_ne_true (hpoint.symm.trans h)

theorem digitsValue_append (cs ds : List Char) :
    digitsValue (cs ++ ds) = ds.foldl (fun v c ↦ 10 * v + decimalValue c) (digitsValue cs) :=
  List.foldl_append

theorem digitsValue_toDigits (n : ℕ) : digitsValue (Nat.toDigits 10 n) = n := by
  induction n using Nat.strong_induction_on with
  | _ n ih =>
    rw [Nat.toDigits_eq_if (by norm_num)]
    split
    · next hlt => simp [digitsValue, decimalValue_digitChar hlt]
    · next hge =>
      rw [digitsValue_append, ih (n / 10) (by omega)]
      simp only [List.foldl_cons, List.foldl_nil,
        decimalValue_digitChar (Nat.mod_lt n (by norm_num : 10 > 0))]
      omega

/-- Different numbers are printed differently. -/
theorem toDigits_injective : Function.Injective (Nat.toDigits 10) := by
  intro m n h
  rw [← digitsValue_toDigits m, h, digitsValue_toDigits]

theorem foldl_fracDigits (d n v : ℕ) :
    (fracDigits d n).foldl (fun v c ↦ 10 * v + decimalValue c) v = v * 10 ^ d + n % 10 ^ d := by
  induction d generalizing n with
  | zero => simp [fracDigits, Nat.mod_one]
  | succ d ih =>
    have hdigit := decimalValue_digitChar (Nat.mod_lt n (by norm_num : 10 > 0))
    have hmod : n % 10 ^ (d + 1) = n % 10 + 10 * (n / 10 % 10 ^ d) := by
      rw [pow_succ', Nat.mod_mul]
    rw [fracDigits, List.foldl_append, ih, List.foldl_cons, List.foldl_nil, hdigit, hmod, pow_succ]
    ring

/-- The whole-number part of a printed number ends at its point. -/
theorem takeWhile_fixedText (d n : ℕ) :
    (fixedText d n).takeWhile (· != '.') = Nat.toDigits 10 (n / 10 ^ d) ∧
      (fixedText d n).dropWhile (· != '.') = '.' :: fracDigits d n := by
  have hdigits : ∀ c ∈ Nat.toDigits 10 (n / 10 ^ d), (c != '.') = true := fun _ hc ↦
    bne_iff_ne.2 (ne_point_of_isDecimalDigit (isDecimalDigit_of_mem_toDigits hc))
  constructor
  · rw [fixedText, List.takeWhile_append_of_pos hdigits]
    simp
  · rw [fixedText, List.dropWhile_append_of_pos hdigits]
    simp

/-- **Reading back a printed number** gives the number printed. -/
theorem readDecimal_fixedText (d n : ℕ) : readDecimal (fixedText d n) = n / 10 ^ d := by
  obtain ⟨htake, hdrop⟩ := takeWhile_fixedText d n
  have hvalue : digitsValue (Nat.toDigits 10 (n / 10 ^ d) ++ fracDigits d n) = n := by
    rw [digitsValue_append, digitsValue_toDigits, foldl_fracDigits]
    exact Nat.div_add_mod' n (10 ^ d)
  simp only [readDecimal, htake, hdrop, List.drop_succ_cons, List.drop_zero, hvalue,
    length_fracDigits]

/-- The text of a nonnegative number carries no sign. -/
theorem toList_formatFixed {d : ℕ} {x : ℚ} (h : 0 ≤ x) :
    (formatFixed d x).toList = fixedText d (roundHalfEven (x * 10 ^ d)).natAbs := by
  rw [formatFixed, if_neg (not_lt.2 h), List.nil_append, String.toList_ofList]

/-- **The round trip through text loses exactly the rounding.** -/
theorem readDecimal_formatFixed {d : ℕ} {x : ℚ} (h : 0 ≤ x) :
    readDecimal (formatFixed d x).toList = roundTo d x := by
  have hcast : (((roundHalfEven (x * 10 ^ d)).natAbs : ℕ) : ℚ) = roundHalfEven (x * 10 ^ d) := by
    rw [Nat.cast_natAbs, abs_of_nonneg (roundHalfEven_nonneg (mul_nonneg h (pow_ten_pos d).le))]
  rw [toList_formatFixed h, readDecimal_fixedText, hcast, roundTo]

end Decimal
