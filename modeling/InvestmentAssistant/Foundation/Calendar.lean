import Mathlib.Data.Prod.Lex
import Mathlib.Tactic

/-!
# Days, dates and ISO weeks

The proleptic Gregorian calendar on day numbers: day 1 is the Monday 0001-01-01. The year of a day
is found by counting cycles of 400, 100, 4 and 1 years; it is the year whose days include the day
(`yearOf_spec`), so later days have no earlier years. An ISO week belongs to the year of its
Thursday, and weeks are ordered as their Thursdays are (`isoWeek_mono`).
-/

namespace Calendar

/-! ### Years -/

/-- The days before a year. -/
def daysBeforeYear (year : ℤ) : ℤ :=
  365 * (year - 1) + (year - 1) / 4 - (year - 1) / 100 + (year - 1) / 400

/-- The year of a day: so many whole cycles of 400, 100, 4 and 1 years lie before it. The last day
of a cycle of 4 or of 400 years would open a fifth year. -/
def yearOf (day : ℤ) : ℤ :=
  let n := day - 1
  let n400 := n / 146097
  let n100 := n % 146097 / 36524
  let n4 := n % 146097 % 36524 / 1461
  let n1 := n % 146097 % 36524 % 1461 / 365
  let year := n400 * 400 + n100 * 100 + n4 * 4 + n1 + 1
  if n1 = 4 ∨ n100 = 4 then year - 1 else year

/-- A year has at least 365 days. -/
theorem daysBeforeYear_succ_ge (year : ℤ) :
    daysBeforeYear year + 365 ≤ daysBeforeYear (year + 1) := by
  rw [daysBeforeYear, daysBeforeYear]
  omega

theorem daysBeforeYear_strictMono : StrictMono daysBeforeYear :=
  strictMono_int_of_lt_succ fun year ↦ by
    have := daysBeforeYear_succ_ge year
    omega

/-- The days of whole cycles of years. -/
theorem daysBeforeYear_cycles (a : ℤ) {b c d : ℤ} (hb : 0 ≤ b ∧ b ≤ 3) (hc : 0 ≤ c ∧ c ≤ 24)
    (hd : 0 ≤ d ∧ d ≤ 3) :
    daysBeforeYear (a * 400 + b * 100 + c * 4 + d + 1) =
      a * 146097 + b * 36524 + c * 1461 + d * 365 := by
  have h4 : (a * 400 + b * 100 + c * 4 + d) / 4 = a * 100 + b * 25 + c := by omega
  have h100 : (a * 400 + b * 100 + c * 4 + d) / 100 = a * 4 + b := by omega
  have h400 : (a * 400 + b * 100 + c * 4 + d) / 400 = a := by omega
  rw [daysBeforeYear, add_sub_cancel_right, h4, h100, h400]
  ring

/-- **A day lies in its year.** -/
theorem yearOf_spec (day : ℤ) :
    daysBeforeYear (yearOf day) < day ∧ day ≤ daysBeforeYear (yearOf day + 1) := by
  obtain ⟨a, ha⟩ : ∃ a, (day - 1) / 146097 = a := ⟨_, rfl⟩
  obtain ⟨b, hb⟩ : ∃ b, (day - 1) % 146097 / 36524 = b := ⟨_, rfl⟩
  obtain ⟨c, hc⟩ : ∃ c, (day - 1) % 146097 % 36524 / 1461 = c := ⟨_, rfl⟩
  obtain ⟨d, hd⟩ : ∃ d, (day - 1) % 146097 % 36524 % 1461 / 365 = d := ⟨_, rfl⟩
  simp only [yearOf, ha, hb, hc, hd]
  split
  · next hlast =>
    -- the last day of a leap year: 365 days of the year lie before it, and the next year begins
    rw [sub_add_cancel]
    rcases hlast with rfl | rfl
    · have hyear := daysBeforeYear_cycles a (b := b) (c := c) (d := 3) (by omega) (by omega)
        (by omega)
      have hnext := daysBeforeYear_cycles a (b := b) (c := c + 1) (d := 0) (by omega) (by omega)
        (by omega)
      ring_nf at hyear hnext ⊢
      rw [hyear, hnext]
      omega
    · have hyear := daysBeforeYear_cycles a (b := 3) (c := 24) (d := 3) (by omega) (by omega)
        (by omega)
      have hnext := daysBeforeYear_cycles (a + 1) (b := 0) (c := 0) (d := 0) (by omega) (by omega)
        (by omega)
      obtain rfl : c = 0 := by omega
      obtain rfl : d = 0 := by omega
      ring_nf at hyear hnext ⊢
      rw [hyear, hnext]
      omega
  · next hlast =>
    rw [not_or] at hlast
    have hyear := daysBeforeYear_cycles a (b := b) (c := c) (d := d) (by omega) (by omega)
      (by omega)
    have hnext := daysBeforeYear_succ_ge (a * 400 + b * 100 + c * 4 + d + 1)
    rw [hyear] at hnext ⊢
    omega

/-- Later days have no earlier years. -/
theorem yearOf_mono : Monotone yearOf := by
  intro a b hab
  by_contra hlt
  have hnext : daysBeforeYear (yearOf b + 1) ≤ daysBeforeYear (yearOf a) :=
    daysBeforeYear_strictMono.monotone (not_le.1 hlt)
  exact absurd hab (not_le.2 ((yearOf_spec b).2.trans_lt (hnext.trans_lt (yearOf_spec a).1)))

/-! ### Dates -/

/-- The days before a month in its year. -/
def daysBeforeMonth (year month : ℤ) : ℤ :=
  let leapDay := if 2 < month ∧ year % 4 = 0 ∧ (year % 100 ≠ 0 ∨ year % 400 = 0) then 1 else 0
  [0, 31, 59, 90, 120, 151, 181, 212, 243, 273, 304, 334].getD (month - 1).toNat 0 + leapDay

/-- The number of the day of a date. -/
def dayNumber (year month day : ℤ) : ℤ :=
  daysBeforeYear year + daysBeforeMonth year month + day

/-- The month of a day: so many months of its year have begun. -/
def monthOf (day : ℤ) : ℤ :=
  ((List.range 12).filter fun m ↦ dayNumber (yearOf day) (m + 1) 1 ≤ day).length

-- the last day of February 2024
example : dayNumber 2024 2 29 = 738945 ∧ dayNumber 2024 3 1 = 738946 ∧ monthOf 738945 = 2 ∧
    monthOf 738946 = 3 := by
  decide

/-! ### Weeks -/

/-- The Thursday of the week of a day. -/
def thursdayOf (day : ℤ) : ℤ :=
  day + 3 - (day - 1) % 7

theorem thursdayOf_mono : Monotone thursdayOf := by
  intro a b hab
  rw [thursdayOf, thursdayOf]
  omega

/-- The ISO year and week of a day: the year of its Thursday, and the Thursday's place among those
of the year. -/
def isoWeek (day : ℤ) : ℤ ×ₗ ℤ :=
  let year := yearOf (thursdayOf day)
  toLex (year, (thursdayOf day - daysBeforeYear year - 1) / 7 + 1)

-- Monday 2003-12-29 and Sunday 2004-01-04 are in week 1 of 2004, Sunday 2021-01-03 in week 53
example : isoWeek 731578 = toLex (2004, 1) ∧ isoWeek 731584 = toLex (2004, 1) ∧
    isoWeek 737793 = toLex (2020, 53) := by
  decide

/-- **The ISO week is monotone in time.** -/
theorem isoWeek_mono : Monotone isoWeek := by
  intro a b hab
  have hthursday := thursdayOf_mono hab
  refine Prod.Lex.toLex_le_toLex.2 ?_
  rcases (yearOf_mono hthursday).lt_or_eq with hlt | heq
  · exact .inl hlt
  · refine .inr ⟨heq, ?_⟩
    dsimp only
    rw [heq]
    omega

end Calendar
