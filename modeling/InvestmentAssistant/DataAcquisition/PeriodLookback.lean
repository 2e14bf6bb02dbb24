import InvestmentAssistant.Api.ValidatorGrammar
import InvestmentAssistant.DataAcquisition.MultiTimeframe

/-!
# The look-back of a period

Three providers turn a period such as `30d` or `1y` into a number of days, each with a parser of its
own. They read the number and the unit alike and differ in what they make of a unit other than days
and years: yfinance and FMP count days, Twelve Data counts years. The validator admits one such
unit, the month. So the parsers agree on a period unless it counts months (`meansTheSame_iff`), and
`clampPeriod` keeps every period within the limit of its interval.
-/

namespace InvestmentAssistant

open CharClass IntText

/-! ### The three parsers -/

/-- `int(period[:-1])` and `period[-1].lower()`; `none` is the `ValueError` of the former. -/
def periodParts (period : String) : Option (ℤ × Char) :=
  match int? period.toList.dropLast, period.toList.getLast? with
  | some num, some unit => some (num, unit.toLower)
  | _, _ => none

namespace YfinanceProvider

/-- `_clamp_period._period_to_days`. -/
def periodToDays (p : String) : Option ℤ :=
  (periodParts p).map fun parts ↦
    if parts.2 = 'd' then parts.1 else if parts.2 = 'y' then parts.1 * 365 else parts.1

/-- `PERIOD_LIMITS`. -/
def periodLimits : String → Option String
  | "15m" => some "60d"
  | "1h" => some "730d"
  | "1d" => some "10y"
  | _ => none

/-- `_clamp_period`. -/
def clampPeriod (period yfInterval : String) : Option String :=
  match periodLimits yfInterval with
  | none => some period
  | some maxPeriod =>
    (periodToDays period).bind fun requested ↦
      (periodToDays maxPeriod).map fun maximum ↦
        if maximum < requested then maxPeriod else period

end YfinanceProvider

namespace FMPProvider

/-- `FMPProvider._period_to_days`. -/
def periodToDays (period : String) : Option ℤ :=
  (periodParts period).map fun parts ↦ if parts.2 = 'y' then parts.1 * 365 else parts.1

end FMPProvider

namespace TwelveDataProvider

/-- The days of `_period_to_outputsize`. -/
def periodToDays (period : String) : Option ℤ :=
  (periodParts period).map fun parts ↦ if parts.2 = 'd' then parts.1 else parts.1 * 365

/-- `candles_per_day`; weeks are counted apart. -/
def candlesPerDay : DataTimeframe → Option ℤ
  | .m15 => some 96
  | .h1 => some 24
  | .h4 => some 6
  | .d1 => some 1
  | .w1 => none

/-- `TwelveDataProvider._period_to_outputsize`. -/
def periodToOutputsize (period : String) (timeframe : DataTimeframe) : Option ℤ :=
  (periodToDays period).map fun days ↦
    match candlesPerDay timeframe with
    | none => min (max 1 (-(-days / 7))) 5000
    | some candles => min (days * candles) 5000

end TwelveDataProvider

/-! ### The parts of an accepted period -/

/-- A period without a line feed behind it has a number and a unit. -/
theorem exists_periodParts {period : String} (h : PeriodText isDecimalDigit period.toList) :
    ∃ unit, isPeriodUnit unit = true ∧ period.toList.getLast? = some unit ∧
      periodParts period = some ((digitsToNat period.toList.dropLast : ℤ), unit.toLower) := by
  obtain ⟨unit, htext, hunit⟩ := h.exists_eq
  have hlast : period.toList.getLast? = some unit := by
    rw [htext, List.getLast?_concat]
  refine ⟨unit, hunit, hlast, ?_⟩
  rw [periodParts, h.int?_dropLast, hlast]

/-- A period with a line feed behind it has no number. -/
theorem periodParts_eq_none {period : String}
    (h : BeforeLineFeed (PeriodText isDecimalDigit) period.toList) : periodParts period = none := by
  obtain ⟨value, hvalue, hperiod⟩ := h
  rw [periodParts, hvalue, List.dropLast_concat, int?_eq_none_of_periodText hperiod]

/-! ### Limits -/

namespace YfinanceProvider

/-- **A clamped period stays within the limit of its interval.** -/
theorem clampPeriod_le {period interval limit clamped : String}
    (hlimit : periodLimits interval = some limit)
    (h : clampPeriod period interval = some clamped) :
    ∃ days maximum, periodToDays clamped = some days ∧ periodToDays limit = some maximum ∧
      days ≤ maximum := by
  rw [clampPeriod, hlimit] at h
  obtain ⟨requested, hrequested, h⟩ := Option.bind_eq_some_iff.1 h
  obtain ⟨maximum, hmaximum, rfl⟩ := Option.map_eq_some_iff.1 h
  by_cases hlt : maximum < requested
  · rw [if_pos hlt]
    exact ⟨maximum, maximum, hmaximum, hmaximum, le_rfl⟩
  · rw [if_neg hlt]
    exact ⟨requested, maximum, hrequested, hmaximum, not_lt.1 hlt⟩

end YfinanceProvider

/-! ### Agreement -/

/-- A period means the same everywhere: the three providers look back the same number of days, and
no clamped period goes beyond the limit of its interval. -/
structure MeansTheSame (period : String) : Prop where
  days_eq : ∃ days, YfinanceProvider.periodToDays period = some days ∧
    FMPProvider.periodToDays period = some days ∧
    TwelveDataProvider.periodToDays period = some days
  within_limit : ∀ interval limit clamped, YfinanceProvider.periodLimits interval = some limit →
    YfinanceProvider.clampPeriod period interval = some clamped →
    ∃ days maximum, YfinanceProvider.periodToDays clamped = some days ∧
      YfinanceProvider.periodToDays limit = some maximum ∧ days ≤ maximum

/-- A period counted in months. -/
def CountsMonths (period : String) : Prop :=
  period.toList.getLast? = some 'm' ∨ period.toList.getLast? = some 'M'

/-- What the three parsers make of a unit, before the number is known. -/
theorem days_agree_iff (num : ℤ) {unit : Char} (h : isPeriodUnit unit = true) :
    ((if unit.toLower = 'd' then num else if unit.toLower = 'y' then num * 365 else num) =
        (if unit.toLower = 'y' then num * 365 else num) ∧
      (if unit.toLower = 'y' then num * 365 else num) =
        if unit.toLower = 'd' then num else num * 365) ↔
      (unit = 'm' ∨ unit = 'M' → num = 0) := by
  simp only [isPeriodUnit, Bool.or_eq_true, beq_iff_eq] at h
  rcases h with ((((rfl | rfl) | rfl) | rfl) | rfl) | rfl
  case inl.inl.inl.inl.inl | inl.inl.inl.inl.inr | inl.inl.inr | inl.inr => simp +decide
  -- months: days to the first two, years to the third
  all_goals
    simp +decide only [if_false, true_and, true_imp_iff]
    omega

/-- **Days and years are read alike by all three**; months are days to two of them and years to the
third. -/
theorem days_eq_iff {period : String} (h : PeriodText isDecimalDigit period.toList) :
    (∃ days, YfinanceProvider.periodToDays period = some days ∧
      FMPProvider.periodToDays period = some days ∧
      TwelveDataProvider.periodToDays period = some days) ↔
      (CountsMonths period → digitsToNat period.toList.dropLast = 0) := by
  obtain ⟨unit, hunit, hlast, hparts⟩ := exists_periodParts h
  have hmonths : CountsMonths period ↔ unit = 'm' ∨ unit = 'M' := by
    rw [CountsMonths, hlast, Option.some.injEq, Option.some.injEq]
  rw [YfinanceProvider.periodToDays, FMPProvider.periodToDays, TwelveDataProvider.periodToDays,
    hparts, hmonths, ← Nat.cast_eq_zero (R := ℤ), ← days_agree_iff _ hunit]
  simp only [Option.map_some, Option.some.injEq, exists_eq_left']
  constructor
  · rintro ⟨hfmp, htwelve⟩
    exact ⟨hfmp.symm, hfmp.trans htwelve.symm⟩
  · rintro ⟨hfmp, htwelve⟩
    exact ⟨hfmp.symm, (hfmp.trans htwelve).symm⟩

/-- **An accepted period means the same everywhere exactly when no line feed follows it and it does
not count months, or counts none.** -/
theorem meansTheSame_iff (period : String) (haccepted : validatePeriod period = .ok ()) :
    MeansTheSame period ↔
      ¬ BeforeLineFeed (PeriodText isDecimalDigit) period.toList ∧
        (CountsMonths period → digitsToNat period.toList.dropLast = 0) := by
  have hcases : PeriodText isDecimalDigit period.toList ∨
      BeforeLineFeed (PeriodText isDecimalDigit) period.toList :=
    (of_patternBody_iff (fun _ ↦ PeriodText.getLast?_ne) period).1
      (validatePeriod_eq_ok_iff.1 haccepted)
  constructor
  · intro h
    have hline : ¬ BeforeLineFeed (PeriodText isDecimalDigit) period.toList := by
      intro hline
      obtain ⟨days, hdays, -⟩ := h.days_eq
      rw [YfinanceProvider.periodToDays, periodParts_eq_none hline] at hdays
      cases hdays
    exact ⟨hline, (days_eq_iff (hcases.resolve_right hline)).1 h.days_eq⟩
  · rintro ⟨hline, hmonths⟩
    exact ⟨(days_eq_iff (hcases.resolve_right hline)).2 hmonths,
      fun _ _ _ ↦ YfinanceProvider.clampPeriod_le⟩

theorem meansTheSame_thirtyDays : MeansTheSame "30d" := by
  refine (meansTheSame_iff "30d" (by decide)).2 ⟨?_, fun h ↦ ?_⟩
  · rintro ⟨value, hvalue, -⟩
    have hlast := congrArg List.getLast? hvalue
    rw [List.getLast?_concat] at hlast
    exact absurd hlast (by decide)
  · exact absurd h (by rw [CountsMonths]; decide)

/-- Six months are six days to FMP and six years to Twelve Data. -/
theorem not_meansTheSame_sixMonths :
    validatePeriod "6m" = .ok () ∧
      (FMPProvider.periodToDays "6m" = some 6 ∧ TwelveDataProvider.periodToDays "6m" = some 2190) ∧
      ¬ MeansTheSame "6m" := by
  have hfmp : FMPProvider.periodToDays "6m" = some 6 := by decide
  have htwelve : TwelveDataProvider.periodToDays "6m" = some 2190 := by decide
  refine ⟨by decide, ⟨hfmp, htwelve⟩, fun h ↦ ?_⟩
  obtain ⟨days, -, hf, ht⟩ := h.days_eq
  rw [hfmp] at hf
  rw [htwelve, ← hf] at ht
  exact absurd ht (by decide)

end InvestmentAssistant
