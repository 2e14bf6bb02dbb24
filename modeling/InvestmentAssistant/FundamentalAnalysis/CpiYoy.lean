import InvestmentAssistant.Foundation.KeyedTable
import InvestmentAssistant.FundamentalAnalysis.JsonValues

/-!
# Consumer prices year on year

The helpers the CPI sources share: the periods they read, and the change of an index over a year.

A period becomes the first day of a month, and there is no year 0 and no year 10000: `date` raises
outside of 1 to 9999. The helpers catch this for full dates only. So a period of the year 0 raises
(`returns_parseMonthlyPeriod_iff`, `returns_parseBlsPeriod_iff`), and so does looking for the month
a year before the year 1, which the search for the latest change reaches when no later month has one
(`returns_computeYoyObservation_iff`).
-/

namespace InvestmentAssistant

open CharClass CollectLoop IntText Table Text

/-! ### Months -/

/-- The first day of a month. -/
structure Month where
  year : ℤ
  month : ℤ
  year_mem : 1 ≤ year ∧ year ≤ 9999
  month_mem : 1 ≤ month ∧ month ≤ 12
  deriving DecidableEq

/-- `date(year, month, 1)`. -/
def mkDate (year month : ℤ) : Except PyException Month :=
  if h : (1 ≤ year ∧ year ≤ 9999) ∧ 1 ≤ month ∧ month ≤ 12 then .ok ⟨year, month, h.1, h.2⟩
  else if 1 ≤ year ∧ year ≤ 9999 then .error (.valueError "month must be in 1..12")
  else .error (.valueError s!"year {year} is out of range")

theorem mkDate_year_month (m : Month) : mkDate m.year m.month = .ok m :=
  dif_pos ⟨m.year_mem, m.month_mem⟩

theorem mkDate_of_mem {year month : ℤ} (hyear : 1 ≤ year ∧ year ≤ 9999)
    (hmonth : 1 ≤ month ∧ month ≤ 12) : mkDate year month = .ok ⟨year, month, hyear, hmonth⟩ :=
  dif_pos ⟨hyear, hmonth⟩

theorem returns_mkDate_iff {year month : ℤ} (hmonth : 1 ≤ month ∧ month ≤ 12) :
    Returns (mkDate year month) ↔ 1 ≤ year ∧ year ≤ 9999 := by
  rw [mkDate]
  split
  · next h => exact iff_of_true (returns_ok _) h.1
  · next h =>
    have hyear : ¬ (1 ≤ year ∧ year ≤ 9999) := fun hyear ↦ h ⟨hyear, hmonth⟩
    rw [if_neg hyear]
    exact iff_of_false (not_returns_error _) hyear

/-- The number of months up to a month. -/
def Month.index (m : Month) : ℤ :=
  12 * m.year + m.month

/-! ### Periods -/

/-- `0[1-9]|1[0-2]`. -/
def monthText? : List Char → Option ℤ
  | ['0', f] => if '1' ≤ f ∧ f ≤ '9' then some (f.toNat - '0'.toNat) else none
  | ['1', f] => if '0' ≤ f ∧ f ≤ '2' then some (10 + (f.toNat - '0'.toNat)) else none
  | _ => none

/-- `\d{4}`. -/
def yearText? (text : List Char) : Option ℤ :=
  if text.length = 4 ∧ text.all isDecimalDigit then some (digitsToNat text) else none

/-- `[0-2]\d|3[0-1]`, and what `%d` of `strptime` makes of it. -/
def dayText? : List Char → Option (Option ℤ)
  | ['0', f] =>
    if isDecimalDigit f then
      some (if '1' ≤ f ∧ f ≤ '9' then some (f.toNat - '0'.toNat) else none)
    else none
  | ['3', f] => if '0' ≤ f ∧ f ≤ '1' then some (some (30 + (f.toNat - '0'.toNat))) else none
  | [e, f] =>
    if (e = '1' ∨ e = '2') ∧ isDecimalDigit f then
      some (some (10 * (e.toNat - '0'.toNat) + decimalValue f))
    else none
  | _ => none

/-- The year and the month of a text with a year at its head. -/
def yearMonth? (text month : List Char) : Option (ℤ × ℤ) :=
  (yearText? (text.take 4)).bind fun year ↦ (monthText? month).map fun month ↦ (year, month)

/-- `_MONTH_PERIOD_RE.match`: `YYYY-MM`. -/
def monthPeriod? (text : List Char) : Option (ℤ × ℤ) :=
  match text.drop 4 with
  | ['-', e, f] => yearMonth? text [e, f]
  | _ => none

/-- `_COMPACT_PERIOD_RE.match`: `YYYYMM`. -/
def compactPeriod? (text : List Char) : Option (ℤ × ℤ) :=
  match text.drop 4 with
  | [e, f] => yearMonth? text [e, f]
  | _ => none

/-- The number of days of a month. -/
def daysInMonth (year month : ℤ) : ℤ :=
  if month = 2 then
    if year % 4 = 0 ∧ (year % 100 ≠ 0 ∨ year % 400 = 0) then 29 else 28
  else if month = 4 ∨ month = 6 ∨ month = 9 ∨ month = 11 then 30
  else 31

/-- `_DATE_PERIOD_RE.match`, and the date `strptime` reads, moved to the first of its month; the
`ValueError` of a date that does not exist is caught. -/
def datePeriod? (text : List Char) : Option Month :=
  match text.drop 4 with
  | ['-', e, f, '-', g, h] =>
    (yearMonth? text [e, f]).bind fun period ↦ (dayText? [g, h]).bind fun day ↦
      day.bind fun day ↦
        if day ≤ daysInMonth period.1 period.2 then (mkDate period.1 period.2).toOption else none
  | _ => none

/-- `parse_monthly_period`. -/
def parseMonthlyPeriod (period : String) : Except PyException (Option Month) :=
  let text := strip period.toList
  match monthPeriod? text with
  | some (year, month) => some <$> mkDate year month
  | none =>
    match compactPeriod? text with
    | some (year, month) => some <$> mkDate year month
    | none => .ok (datePeriod? text)

/-- `_BLS_PERIOD_RE.match`: `M01` to `M12`. -/
def isBlsPeriod : List Char → Bool
  | 'M' :: month => (monthText? month).isSome
  | _ => false

/-- `parse_bls_period`. -/
def parseBlsPeriod (year period : String) : Except PyException (Option Month) :=
  if isBlsPeriod (strip period.toList) then
    match int? year.toList, int? (period.toList.drop 1) with
    | some year, some month => some <$> mkDate year month
    | _, _ => .ok none
  else .ok none

/-- A character of a range is one of its characters. -/
theorem eq_ofNat_of_le {c lo hi : Char} (hlo : lo ≤ c) (hhi : c ≤ hi) :
    ∃ n, lo.toNat ≤ n ∧ n ≤ hi.toNat ∧ c = Char.ofNat n :=
  ⟨c.toNat, hlo, hhi, (Char.ofNat_toNat c).symm⟩

/-- The month of a text is the number it stands for. -/
theorem monthText?_spec {text : List Char} {month : ℤ} (h : monthText? text = some month) :
    (1 ≤ month ∧ month ≤ 12) ∧ int? text = some month := by
  rw [monthText?.eq_def] at h
  split at h
  · next f =>
    split at h
    · next hf =>
      obtain rfl := Option.some.inj h
      obtain ⟨n, hlo, hhi, rfl⟩ := eq_ofNat_of_le hf.1 hf.2
      change 49 ≤ n at hlo
      change n ≤ 57 at hhi
      interval_cases n <;> decide +kernel
    · exact nomatch h
  · next f =>
    split at h
    · next hf =>
      obtain rfl := Option.some.inj h
      obtain ⟨n, hlo, hhi, rfl⟩ := eq_ofNat_of_le hf.1 hf.2
      change 48 ≤ n at hlo
      change n ≤ 50 at hhi
      interval_cases n <;> decide +kernel
    · exact nomatch h
  · exact nomatch h

theorem yearText?_mem {text : List Char} {year : ℤ} (h : yearText? text = some year) :
    0 ≤ year ∧ year ≤ 9999 := by
  rw [yearText?] at h
  split at h
  · next htext =>
    obtain rfl := Option.some.inj h
    have hlt := digitsToNat_lt text
    rw [htext.1] at hlt
    omega
  · exact nomatch h

theorem yearMonth?_mem {text month : List Char} {period : ℤ × ℤ}
    (h : yearMonth? text month = some period) :
    (0 ≤ period.1 ∧ period.1 ≤ 9999) ∧ 1 ≤ period.2 ∧ period.2 ≤ 12 := by
  obtain ⟨year, hyear, h⟩ := Option.bind_eq_some_iff.1 h
  obtain ⟨m, hm, rfl⟩ := Option.map_eq_some_iff.1 h
  exact ⟨yearText?_mem hyear, (monthText?_spec hm).1⟩

theorem monthPeriod?_mem {text : List Char} {period : ℤ × ℤ} (h : monthPeriod? text = some period) :
    (0 ≤ period.1 ∧ period.1 ≤ 9999) ∧ 1 ≤ period.2 ∧ period.2 ≤ 12 := by
  rw [monthPeriod?] at h
  split at h
  · exact yearMonth?_mem h
  · exact nomatch h

theorem compactPeriod?_mem {text : List Char} {period : ℤ × ℤ}
    (h : compactPeriod? text = some period) :
    (0 ≤ period.1 ∧ period.1 ≤ 9999) ∧ 1 ≤ period.2 ∧ period.2 ≤ 12 := by
  rw [compactPeriod?] at h
  split at h
  · exact yearMonth?_mem h
  · exact nomatch h

/-- A period of the year 0: `0000-MM` or `0000MM`. -/
def IsYearZero (text : List Char) : Prop :=
  ∃ month, monthPeriod? text = some (0, month) ∨ compactPeriod? text = some (0, month)

/-- A date in a year that is written with four digits. -/
theorem returns_mkDate_iff_ne_zero {year month : ℤ}
    (h : (0 ≤ year ∧ year ≤ 9999) ∧ 1 ≤ month ∧ month ≤ 12) :
    Returns (some <$> mkDate year month) ↔ year ≠ 0 := by
  rw [returns_map_iff, returns_mkDate_iff h.2]
  omega

/-- **A monthly period raises in the year 0.** -/
theorem returns_parseMonthlyPeriod_iff (period : String) :
    Returns (parseMonthlyPeriod period) ↔ ¬ IsYearZero (strip period.toList) := by
  rw [parseMonthlyPeriod, IsYearZero]
  rcases hmonth : monthPeriod? (strip period.toList) with - | ⟨year, month⟩
  · rcases hcompact : compactPeriod? (strip period.toList) with - | ⟨year, month⟩
    · refine iff_of_true (returns_ok _) ?_
      rintro ⟨m, hm | hm⟩ <;> exact nomatch hm
    · dsimp only
      rw [returns_mkDate_iff_ne_zero (compactPeriod?_mem hcompact)]
      simp
  · dsimp only
    rw [returns_mkDate_iff_ne_zero (monthPeriod?_mem hmonth)]
    -- the two forms have different lengths
    have hcompact : compactPeriod? (strip period.toList) = none := by
      rw [monthPeriod?] at hmonth
      split at hmonth
      · next heq => rw [compactPeriod?, heq]
      · exact nomatch hmonth
    simp [hcompact]

/-- **A BLS period raises in a year outside 1 to 9999.** -/
theorem returns_parseBlsPeriod_iff {year period : String}
    (hstrip : strip period.toList = period.toList) :
    Returns (parseBlsPeriod year period) ↔
      (isBlsPeriod period.toList = true → ∀ y, int? year.toList = some y → 1 ≤ y ∧ y ≤ 9999) := by
  rw [parseBlsPeriod, hstrip]
  split
  · next hperiod =>
    rw [imp_iff_right hperiod]
    obtain ⟨month, hmonth, htail⟩ : ∃ month, (1 ≤ month ∧ month ≤ 12) ∧
        int? (period.toList.drop 1) = some month := by
      rw [isBlsPeriod.eq_def] at hperiod
      split at hperiod
      · next text heq =>
        obtain ⟨month, h⟩ := Option.isSome_iff_exists.1 hperiod
        obtain ⟨hmem, hint⟩ := monthText?_spec h
        rw [heq]
        exact ⟨month, hmem, hint⟩
      · exact absurd hperiod Bool.false_ne_true
    rw [htail]
    rcases int? year.toList with - | y
    · exact iff_of_true (returns_ok _) fun _ h ↦ nomatch h
    · rw [returns_map_iff, returns_mkDate_iff hmonth]
      exact ⟨fun h _ hy ↦ Option.some.inj hy ▸ h, fun h ↦ h y rfl⟩
  · next hperiod => exact iff_of_true (returns_ok _) fun h ↦ absurd h hperiod

/-! ### The change over a year -/

/-- `MacroObservation`. -/
structure MacroObservation (F : Type) where
  value : F
  period : Month
  source : String
  unit : String := "pct_yoy"
  deriving DecidableEq

variable {F : Type}

namespace FloatOps

variable (ops : FloatOps F)

/-- `is_valid_cpi_value`. -/
def isValidCpiValue (value : F) : Bool :=
  ops.isfinite value && !ops.iscloseToZero value

/-- `((current / previous) - 1.0) * 100.0`. -/
def yoy (current previous : F) : F :=
  ops.mul (ops.sub (ops.div current previous) ops.one) ops.hundred

/-- The change, with the `ZeroDivisionError`. -/
def yoyChange (current previous : F) : Except PyException F :=
  if ops.isZero previous then .error .zeroDivisionError else .ok (ops.yoy current previous)

/-- A valid value is not zero. -/
theorem yoyChange_of_valid {current previous : F} (h : ops.isValidCpiValue previous = true) :
    ops.yoyChange current previous = .ok (ops.yoy current previous) := by
  refine if_neg fun hzero ↦ ?_
  rw [isValidCpiValue, ops.iscloseToZero_of_isZero previous hzero, Bool.not_true, Bool.and_false]
    at h
  exact absurd h Bool.false_ne_true

end FloatOps

variable (ops : FloatOps F) (source : String)

/-- The loop over the months with a valid value, latest first. -/
def latestYoy (filtered : Table Month F) :
    List Month → Except PyException (Option (MacroObservation F))
  | [] => .ok none
  | latest :: months =>
    match mkDate (latest.year - 1) latest.month with
    | .error e => .error e
    | .ok previous =>
      match filtered.lookup previous, filtered.lookup latest with
      | some previousValue, some currentValue =>
        match ops.yoyChange currentValue previousValue with
        | .error e => .error e
        | .ok yoy =>
          if ops.isfinite yoy then .ok (some { value := yoy, period := latest, source := source })
          else latestYoy filtered months
      | _, _ => latestYoy filtered months

/-- `compute_yoy_observation`. -/
def computeYoyObservation (indexValues : Table Month F) :
    Except PyException (Option (MacroObservation F)) :=
  if size indexValues = 0 then .ok none
  else
    let filtered := filter ops.isValidCpiValue indexValues
    if size filtered = 0 then .ok none
    else latestYoy ops source filtered (filtered.keys.insertionSort fun a b ↦ b.index ≤ a.index)

/-- A month has a finite change over the year before it. -/
def HasYoy (usable : Month → Option F) (latest : Month) : Prop :=
  ∃ previous : Month, previous.year = latest.year - 1 ∧ previous.month = latest.month ∧
    ∃ v w, usable latest = some v ∧ usable previous = some w ∧ ops.isfinite (ops.yoy v w) = true

/-- The search for the latest change does not get to a month of the year 1. -/
def YoyTotal (usable : Month → Option F) : Prop :=
  (∃ latest, HasYoy ops usable latest) ∨ ∀ m, usable m ≠ none → m.year ≠ 1

variable {ops source}

/-- No month has a change over the year 0. -/
theorem HasYoy.year_ne {usable : Month → Option F} {m : Month} (h : HasYoy ops usable m) :
    m.year ≠ 1 := by
  obtain ⟨previous, hyear, -⟩ := h
  have hmem := previous.year_mem
  omega

/-- No month before one of the year 1 is of another year. -/
theorem Month.year_eq_one {m latest : Month} (hle : m.index ≤ latest.index)
    (hyear : latest.year = 1) : m.year = 1 := by
  have := m.year_mem
  have := m.month_mem
  have := latest.month_mem
  rw [Month.index, Month.index] at hle
  omega

section Loop

variable {filtered : Table Month F} {latest : Month} {months : List Month}

/-- The loop stops at a month of the year 1. -/
theorem not_returns_latestYoy (hyear : latest.year = 1) :
    ¬ Returns (latestYoy ops source filtered (latest :: months)) := by
  have hdate : ¬ Returns (mkDate (latest.year - 1) latest.month) := by
    rw [returns_mkDate_iff latest.month_mem]
    omega
  rw [latestYoy]
  rcases hprevious : mkDate (latest.year - 1) latest.month with e | previous
  · exact not_returns_error e
  · exact absurd ⟨_, hprevious⟩ hdate

/-- A month with a change is the result of the loop. -/
theorem latestYoy_of_hasYoy
    (hvalid : ∀ m v, filtered.lookup m = some v → ops.isValidCpiValue v = true)
    {previous : Month} {v w : F} (hyear : previous.year = latest.year - 1)
    (hmonth : previous.month = latest.month) (hv : filtered.lookup latest = some v)
    (hw : filtered.lookup previous = some w) (hfinite : ops.isfinite (ops.yoy v w) = true) :
    latestYoy ops source filtered (latest :: months) =
      .ok (some { value := ops.yoy v w, period := latest, source := source }) := by
  have hprevious := mkDate_year_month previous
  rw [hyear, hmonth] at hprevious
  rw [latestYoy, hprevious]
  dsimp only
  rw [hw, hv]
  dsimp only
  rw [ops.yoyChange_of_valid (hvalid _ w hw)]
  dsimp only
  rw [if_pos hfinite]

/-- A month with a change ends the loop. -/
theorem returns_latestYoy_of_hasYoy
    (hvalid : ∀ m v, filtered.lookup m = some v → ops.isValidCpiValue v = true)
    (h : HasYoy ops filtered.lookup latest) :
    Returns (latestYoy ops source filtered (latest :: months)) := by
  obtain ⟨previous, hyear, hmonth, v, w, hv, hw, hfinite⟩ := h
  rw [latestYoy_of_hasYoy hvalid hyear hmonth hv hw hfinite]
  exact returns_ok _

/-- A month without a change is passed over. -/
theorem latestYoy_of_not_hasYoy
    (hvalid : ∀ m v, filtered.lookup m = some v → ops.isValidCpiValue v = true)
    (hyear : latest.year ≠ 1) (h : ¬ HasYoy ops filtered.lookup latest) :
    latestYoy ops source filtered (latest :: months) = latestYoy ops source filtered months := by
  have hmember := latest.year_mem
  have hprevious : 1 ≤ latest.year - 1 ∧ latest.year - 1 ≤ 9999 := by omega
  rw [latestYoy, mkDate_of_mem hprevious latest.month_mem]
  dsimp only
  split
  · next w v hw hv =>
    rw [ops.yoyChange_of_valid (hvalid _ w hw)]
    dsimp only
    refine if_neg fun hfinite ↦ h ?_
    exact ⟨⟨_, _, hprevious, latest.month_mem⟩, rfl, rfl, v, w, hv, hw, hfinite⟩
  · rfl

/-- **The loop raises exactly when it gets to a month of the year 1.** -/
theorem returns_latestYoy_iff
    (hvalid : ∀ m v, filtered.lookup m = some v → ops.isValidCpiValue v = true)
    (hsorted : months.Pairwise fun a b ↦ b.index ≤ a.index) :
    Returns (latestYoy ops source filtered months) ↔
      (∃ m ∈ months, HasYoy ops filtered.lookup m) ∨ ∀ m ∈ months, m.year ≠ 1 := by
  induction months with
  | nil => exact iff_of_true (returns_ok _) (.inr fun _ h ↦ absurd h List.not_mem_nil)
  | cons latest months ih =>
    obtain ⟨hlatest, hsorted⟩ := List.pairwise_cons.1 hsorted
    by_cases hyear : latest.year = 1
    · -- the other months are of the year 1 too
      refine iff_of_false (not_returns_latestYoy hyear) ?_
      rintro (⟨m, hm, hyoy⟩ | hall)
      · obtain rfl | hm := List.mem_cons.1 hm
        · exact hyoy.year_ne hyear
        · exact hyoy.year_ne (Month.year_eq_one (hlatest m hm) hyear)
      · exact hall latest (List.mem_cons_self ..) hyear
    by_cases hyoy : HasYoy ops filtered.lookup latest
    · exact iff_of_true (returns_latestYoy_of_hasYoy hvalid hyoy)
        (.inl ⟨latest, List.mem_cons_self .., hyoy⟩)
    · rw [latestYoy_of_not_hasYoy hvalid hyear hyoy, ih hsorted]
      simp only [List.mem_cons, exists_eq_or_imp, forall_eq_or_imp]
      rw [or_iff_right hyoy, and_iff_right hyear]

end Loop

/-- The values that can be computed with. -/
def usableValues (ops : FloatOps F) (index : Month → Option F) (m : Month) : Option F :=
  (index m).filter ops.isValidCpiValue

/-- The months with a valid value, latest first. -/
def validMonths (ops : FloatOps F) (indexValues : Table Month F) : List Month :=
  (filter ops.isValidCpiValue indexValues).keys.insertionSort fun a b ↦ b.index ≤ a.index

section Filtered

variable (indexValues : Table Month F)

theorem pairwise_validMonths :
    (validMonths ops indexValues).Pairwise fun a b ↦ b.index ≤ a.index := by
  have : Std.Total fun a b : Month ↦ b.index ≤ a.index := ⟨fun a b ↦ le_total b.index a.index⟩
  have : IsTrans Month fun a b ↦ b.index ≤ a.index := ⟨fun _ _ _ hab hbc ↦ hbc.trans hab⟩
  exact List.pairwise_insertionSort _ _

theorem lookup_filter_isValid : (filter ops.isValidCpiValue indexValues).lookup =
    usableValues ops indexValues.lookup :=
  funext fun m ↦ lookup_filter _ _ m

theorem isValid_of_lookup {m : Month} {v : F}
    (h : (filter ops.isValidCpiValue indexValues).lookup m = some v) :
    ops.isValidCpiValue v = true := by
  rw [lookup_filter, Option.filter_eq_some_iff] at h
  exact h.2

theorem mem_validMonths_iff {m : Month} :
    m ∈ validMonths ops indexValues ↔ usableValues ops indexValues.lookup m ≠ none := by
  rw [validMonths, List.mem_insertionSort, ← AList.mem_keys, ← AList.lookup_isSome,
    ← lookup_filter_isValid, Option.isSome_iff_ne_none]

/-- The tests for an empty table change nothing. -/
theorem computeYoyObservation_eq_latestYoy :
    computeYoyObservation ops source indexValues =
      latestYoy ops source (filter ops.isValidCpiValue indexValues)
        (validMonths ops indexValues) := by
  have hempty : size (filter ops.isValidCpiValue indexValues) = 0 →
      .ok none = latestYoy ops source (filter ops.isValidCpiValue indexValues)
        (validMonths ops indexValues) := by
    intro hsize
    rw [validMonths, List.length_eq_zero_iff.1 hsize]
    rfl
  rw [computeYoyObservation]
  split
  · next hsize =>
    refine hempty (size_eq_zero_iff.2 fun m ↦ ?_)
    rw [lookup_filter, size_eq_zero_iff.1 hsize m]
    rfl
  · dsimp only
    split
    · next hsize => exact hempty hsize
    · rfl

end Filtered

/-- **The observation is computed unless the search gets to the year 1.** -/
theorem returns_computeYoyObservation_iff (indexValues : Table Month F) :
    Returns (computeYoyObservation ops source indexValues) ↔
      YoyTotal ops (usableValues ops indexValues.lookup) := by
  rw [computeYoyObservation_eq_latestYoy,
    returns_latestYoy_iff (fun _ _ ↦ isValid_of_lookup indexValues) (pairwise_validMonths _),
    lookup_filter_isValid, YoyTotal]
  refine or_congr ⟨fun ⟨m, _, hm⟩ ↦ ⟨m, hm⟩, ?_⟩ (forall_congr' fun m ↦ ?_)
  · rintro ⟨m, hm⟩
    obtain ⟨_, _, _, v, _, hv, -⟩ := id hm
    refine ⟨m, (mem_validMonths_iff indexValues).2 ?_, hm⟩
    rw [hv]
    exact Option.some_ne_none v
  · rw [mem_validMonths_iff]

end InvestmentAssistant
