import InvestmentAssistant.Foundation.Calendar
import InvestmentAssistant.FundamentalAnalysis.CpiDecoders

/-!
# The CPI fallback source

`CpiFallbackSource` asks FRED for a figure and, when FRED has none or an old one, the statistics
office of the country. A figure is old when its month ended more than 90 days ago.

The figures of the offices are changes over a year. The loop behind them goes through the months
from the latest to the earliest, so what it returns is the change of the greatest month that has one
(`computeYoyObservation_eq`): both months have a valid value and the quotient is finite.
-/

namespace InvestmentAssistant

open CollectLoop Table

/-! ### The latest change -/

section Yoy

variable {F : Type} {ops : FloatOps F} {source : String} {usable : Month → Option F}

/-- The observation of a month that has a finite change over the year before it. -/
structure IsYoy (ops : FloatOps F) (source : String) (usable : Month → Option F)
    (obs : MacroObservation F) : Prop where
  change : ∃ previous : Month, previous.year = obs.period.year - 1 ∧
    previous.month = obs.period.month ∧ ∃ v w, usable obs.period = some v ∧
      usable previous = some w ∧ ops.isfinite (ops.yoy v w) = true ∧ obs.value = ops.yoy v w
  source_eq : obs.source = source
  unit_eq : obs.unit = "pct_yoy"

/-- The observation of the latest month that has one. -/
structure IsLatestYoy (ops : FloatOps F) (source : String) (usable : Month → Option F)
    (obs : MacroObservation F) : Prop extends IsYoy ops source usable obs where
  latest : ∀ m, HasYoy ops usable m → m.index ≤ obs.period.index

theorem IsYoy.hasYoy {obs : MacroObservation F} (h : IsYoy ops source usable obs) :
    HasYoy ops usable obs.period := by
  obtain ⟨previous, hyear, hmonth, v, w, hv, hw, hfinite, -⟩ := h.change
  exact ⟨previous, hyear, hmonth, v, w, hv, hw, hfinite⟩

theorem Month.ext_of_eq {m n : Month} (hyear : m.year = n.year) (hmonth : m.month = n.month) :
    m = n := by
  cases m
  cases n
  obtain rfl : _ = _ := hyear
  obtain rfl : _ = _ := hmonth
  rfl

theorem Month.eq_of_index_eq {m n : Month} (h : m.index = n.index) : m = n := by
  have hm := m.month_mem
  have hn := n.month_mem
  rw [Month.index, Month.index] at h
  exact Month.ext_of_eq (by omega) (by omega)

/-- There is only one latest change. -/
theorem IsLatestYoy.unique {obs obs' : MacroObservation F}
    (h : IsLatestYoy ops source usable obs) (h' : IsLatestYoy ops source usable obs') :
    obs = obs' := by
  have hperiod : obs.period = obs'.period :=
    Month.eq_of_index_eq (le_antisymm (h'.latest _ h.hasYoy) (h.latest _ h'.hasYoy))
  obtain ⟨previous, hyear, hmonth, v, w, hv, hw, -, hvalue⟩ := h.change
  obtain ⟨previous', hyear', hmonth', v', w', hv', hw', -, hvalue'⟩ := h'.change
  obtain rfl : previous = previous' :=
    Month.ext_of_eq (by rw [hyear, hyear', hperiod]) (by rw [hmonth, hmonth', hperiod])
  rw [hperiod] at hv
  obtain rfl := Option.some.inj (hv.symm.trans hv')
  obtain rfl := Option.some.inj (hw.symm.trans hw')
  obtain ⟨value, period, src, unit⟩ := obs
  obtain ⟨value', period', src', unit'⟩ := obs'
  obtain rfl : value = value' := hvalue.trans hvalue'.symm
  obtain rfl : period = period' := hperiod
  obtain rfl : src = src' := h.source_eq.trans h'.source_eq.symm
  obtain rfl : unit = unit' := h.unit_eq.trans h'.unit_eq.symm
  rfl

variable {filtered : Table Month F} {latest : Month} {months : List Month}

/-- **The loop finds the latest change** of the months it goes through. -/
theorem latestYoy_spec
    (hvalid : ∀ m v, filtered.lookup m = some v → ops.isValidCpiValue v = true)
    (hsorted : months.Pairwise fun a b ↦ b.index ≤ a.index) (hyears : ∀ m ∈ months, m.year ≠ 1) :
    (latestYoy ops source filtered months = .ok none ∧
        ∀ m ∈ months, ¬ HasYoy ops filtered.lookup m) ∨
      ∃ obs, latestYoy ops source filtered months = .ok (some obs) ∧
        IsYoy ops source filtered.lookup obs ∧
        ∀ m ∈ months, HasYoy ops filtered.lookup m → m.index ≤ obs.period.index := by
  induction months with
  | nil => exact .inl ⟨rfl, fun _ hm ↦ absurd hm List.not_mem_nil⟩
  | cons latest months ih =>
    obtain ⟨hlatest, hsorted⟩ := List.pairwise_cons.1 hsorted
    obtain ⟨hyear, hyears⟩ := List.forall_mem_cons.1 hyears
    by_cases hyoy : HasYoy ops filtered.lookup latest
    · obtain ⟨previous, hprevyear, hprevmonth, v, w, hv, hw, hfinite⟩ := hyoy
      refine .inr ⟨_, latestYoy_of_hasYoy hvalid hprevyear hprevmonth hv hw hfinite,
        ⟨⟨previous, hprevyear, hprevmonth, v, w, hv, hw, hfinite, rfl⟩, rfl, rfl⟩,
        List.forall_mem_cons.2 ⟨fun _ ↦ le_rfl, fun m hm _ ↦ hlatest m hm⟩⟩
    · rw [latestYoy_of_not_hasYoy hvalid hyear hyoy]
      rcases ih hsorted hyears with ⟨hnone, hall⟩ | ⟨obs, hobs, hchange, hgreatest⟩
      · exact .inl ⟨hnone, List.forall_mem_cons.2 ⟨hyoy, hall⟩⟩
      · exact .inr ⟨obs, hobs, hchange,
          List.forall_mem_cons.2 ⟨fun h ↦ absurd h hyoy, hgreatest⟩⟩

/-- **The observation is that of the latest change**, and there is none when no month has one. -/
theorem computeYoyObservation_eq (ops : FloatOps F) (source : String) (indexValues : Table Month F)
    (hyears : ∀ m, indexValues.lookup m ≠ none → m.year ≠ 1) :
    ∃ r, computeYoyObservation ops source indexValues = .ok r ∧
      (∀ obs, r = some obs ↔
        IsLatestYoy ops source (usableValues ops indexValues.lookup) obs) ∧
      (r = none ↔ ¬ ∃ m, HasYoy ops (usableValues ops indexValues.lookup) m) := by
  have hmonths : ∀ m, HasYoy ops (usableValues ops indexValues.lookup) m →
      m ∈ validMonths ops indexValues := by
    rintro m ⟨_, _, _, v, _, hv, -⟩
    rw [mem_validMonths_iff, hv]
    exact Option.some_ne_none v
  have hyears' : ∀ m ∈ validMonths ops indexValues, m.year ≠ 1 := by
    refine fun m hm ↦ hyears m fun hnone ↦ (mem_validMonths_iff indexValues).1 hm ?_
    rw [usableValues, hnone]
    rfl
  have hloop := @latestYoy_spec F ops source (filter ops.isValidCpiValue indexValues) _
    (fun _ _ ↦ isValid_of_lookup indexValues) (pairwise_validMonths indexValues) hyears'
  rw [lookup_filter_isValid] at hloop
  rw [computeYoyObservation_eq_latestYoy]
  rcases hloop with ⟨hnone, hall⟩ | ⟨obs, hobs, hyoy, hlatest⟩
  · have hno : ¬ ∃ m, HasYoy ops (usableValues ops indexValues.lookup) m := by
      rintro ⟨m, hm⟩
      exact hall m (hmonths m hm) hm
    refine ⟨none, hnone, fun obs ↦ iff_of_false (fun h ↦ by cases h) fun h ↦ ?_,
      iff_of_true rfl hno⟩
    exact hno ⟨_, h.hasYoy⟩
  · have hfound : IsLatestYoy ops source (usableValues ops indexValues.lookup) obs :=
      ⟨hyoy, fun m hm ↦ hlatest m (hmonths m hm) hm⟩
    refine ⟨some obs, hobs, fun obs' ↦ ⟨fun h ↦ ?_, fun h ↦ ?_⟩, ?_⟩
    · exact Option.some.inj h ▸ hfound
    · exact congrArg some (hfound.unique h)
    · exact iff_of_false (Option.some_ne_none obs) fun h ↦ h ⟨_, hyoy.hasYoy⟩

end Yoy

/-! ### Freshness -/

variable {F : Type}

/-- `CPI_MAX_AGE_DAYS`. -/
def cpiMaxAgeDays : ℤ := 90

/-- `end_of_period`: the last day of the month of an observation. -/
def MacroObservation.endOfPeriod (observation : MacroObservation F) : ℤ :=
  Calendar.dayNumber observation.period.year observation.period.month
    (daysInMonth observation.period.year observation.period.month)

/-- `is_observation_fresh`, on a day. -/
def isObservationFresh (maxAgeDays today : ℤ) (observation : MacroObservation F) : Bool :=
  today - observation.endOfPeriod ≤ maxAgeDays

/-- The month of an observation ended at most 90 days before a day. -/
def FreshOn (today : ℤ) (observation : MacroObservation F) : Prop :=
  today ≤ observation.endOfPeriod + 90

theorem isObservationFresh_iff {today : ℤ} {observation : MacroObservation F} :
    isObservationFresh cpiMaxAgeDays today observation = true ↔ FreshOn today observation := by
  rw [isObservationFresh, decide_eq_true_iff, cpiMaxAgeDays, FreshOn]
  exact sub_le_iff_le_add'

/-! ### The fallback -/

/-- A question to one of the sources. -/
inductive CpiQuery
  | fred (indicatorName : String) (lookbackDays : ℤ)
  | bls
  | statcan
  | bfs
  deriving DecidableEq, Repr

namespace CpiQuery

/-- A question to the statistics office of a country. -/
def isCountry : CpiQuery → Bool
  | .fred _ _ => false
  | .bls | .statcan | .bfs => true

end CpiQuery

/-- The sources, by what they answer: an observation, none, or an exception. -/
abbrev CpiSources (F : Type) := CpiQuery → Except PyException (Option (MacroObservation F))

/-- `_fetch_country_observation`: the office that is asked for an indicator. -/
def countryQuery (indicatorName : String) : Option CpiQuery :=
  if indicatorName = "cpi_us" then some .bls
  else if indicatorName = "cpi_ca" then some .statcan
  else if indicatorName = "cpi_ch" then some .bfs
  else none

/-- `fetch_indicator`, with the questions it asks; `today` and `countryToday` are the days on which
the observations of FRED and of the country are judged. -/
def fetchIndicator (sources : CpiSources F) (today countryToday : ℤ) (indicatorName : String)
    (lookbackDays : ℤ := 365) : Except PyException (Option F) × List CpiQuery :=
  if indicatorName ∉ ["cpi_us", "cpi_ca", "cpi_ch"] then (.ok none, [])
  else
    let fred := CpiQuery.fred indicatorName lookbackDays
    match sources fred with
    | .error e => (.error e, [fred])
    | .ok fredObservation =>
      match fredObservation.filter (isObservationFresh cpiMaxAgeDays today) with
      | some observation => (.ok (some observation.value), [fred])
      | none =>
        match countryQuery indicatorName with
        | none => (.ok none, [fred])
        | some country =>
          match sources country with
          | .error e => (.error e, [fred, country])
          | .ok countryObservation =>
            let fresh := countryObservation.filter (isObservationFresh cpiMaxAgeDays countryToday)
            (.ok (fresh.map MacroObservation.value), [fred, country])

section Fallback

variable {sources : CpiSources F} {today countryToday lookbackDays : ℤ} {indicatorName : String}

/-- The supported indicators have an office each. -/
theorem exists_countryQuery (h : indicatorName ∈ ["cpi_us", "cpi_ca", "cpi_ch"]) :
    ∃ country, countryQuery indicatorName = some country ∧ country.isCountry = true := by
  simp only [List.mem_cons, List.not_mem_nil, or_false] at h
  rcases h with rfl | rfl | rfl
  · exact ⟨.bls, by decide, rfl⟩
  · exact ⟨.statcan, by decide, rfl⟩
  · exact ⟨.bfs, by decide, rfl⟩

/-- The answer of FRED is not an exception, and no observation that is fresh. -/
def FredInsufficient (sources : CpiSources F) (today : ℤ) (indicatorName : String)
    (lookbackDays : ℤ) : Prop :=
  ∃ fredObservation, sources (.fred indicatorName lookbackDays) = .ok fredObservation ∧
    ∀ observation, fredObservation = some observation → ¬ FreshOn today observation

theorem filter_fresh_eq_some_iff {observation : MacroObservation F}
    {answer : Option (MacroObservation F)} :
    answer.filter (isObservationFresh cpiMaxAgeDays today) = some observation ↔
      answer = some observation ∧ FreshOn today observation := by
  rw [Option.filter_eq_some_iff, isObservationFresh_iff]

theorem filter_fresh_eq_none_iff {answer : Option (MacroObservation F)} :
    answer.filter (isObservationFresh cpiMaxAgeDays today) = none ↔
      ∀ observation, answer = some observation → ¬ FreshOn today observation := by
  rw [Option.filter_eq_none_iff]
  simp only [isObservationFresh_iff]

/-- An indicator that is not supported is not asked for. -/
theorem fetchIndicator_of_unsupported (h : indicatorName ∉ ["cpi_us", "cpi_ca", "cpi_ch"]) :
    fetchIndicator sources today countryToday indicatorName lookbackDays = (.ok none, []) :=
  if_pos h

/-- A fresh observation of FRED is returned, and nobody else is asked. -/
theorem fetchIndicator_of_fredFresh (h : indicatorName ∈ ["cpi_us", "cpi_ca", "cpi_ch"])
    {observation : MacroObservation F}
    (hfred : sources (.fred indicatorName lookbackDays) = .ok (some observation))
    (hfresh : FreshOn today observation) :
    fetchIndicator sources today countryToday indicatorName lookbackDays =
      (.ok (some observation.value), [.fred indicatorName lookbackDays]) := by
  have hfilter := (@filter_fresh_eq_some_iff F today observation (some observation)).2
    ⟨rfl, hfresh⟩
  rw [fetchIndicator, if_neg (not_not.2 h)]
  dsimp only
  rw [hfred]
  dsimp only
  rw [hfilter]

/-- Otherwise the office of the country is asked, and its observation returned if it is fresh. -/
theorem fetchIndicator_of_fredInsufficient (h : indicatorName ∈ ["cpi_us", "cpi_ca", "cpi_ch"])
    {country : CpiQuery} (hcountry : countryQuery indicatorName = some country)
    (hfred : FredInsufficient sources today indicatorName lookbackDays) :
    fetchIndicator sources today countryToday indicatorName lookbackDays =
      ((sources country).map fun answer ↦
          (answer.filter (isObservationFresh cpiMaxAgeDays countryToday)).map
            MacroObservation.value,
        [.fred indicatorName lookbackDays, country]) := by
  obtain ⟨fredObservation, hfred, hstale⟩ := hfred
  rw [fetchIndicator, if_neg (not_not.2 h)]
  dsimp only
  rw [hfred]
  dsimp only
  rw [filter_fresh_eq_none_iff.2 hstale, hcountry]
  dsimp only
  cases sources country <;> rfl

/-- An exception of FRED ends the call. -/
theorem fetchIndicator_of_fredError (h : indicatorName ∈ ["cpi_us", "cpi_ca", "cpi_ch"])
    {e : PyException} (hfred : sources (.fred indicatorName lookbackDays) = .error e) :
    fetchIndicator sources today countryToday indicatorName lookbackDays =
      (.error e, [.fred indicatorName lookbackDays]) := by
  rw [fetchIndicator, if_neg (not_not.2 h)]
  dsimp only
  rw [hfred]

/-- What the fallback promises of a call: a value that is returned is that of a fresh observation of
a source that was asked; a fresh observation of FRED is returned, and its office not asked; an
office is asked exactly when the indicator is supported and the answer of FRED is insufficient. -/
structure FallsBack (sources : CpiSources F) (today countryToday : ℤ) (indicatorName : String)
    (lookbackDays : ℤ) : Prop where
  fresh : ∀ v, (fetchIndicator sources today countryToday indicatorName lookbackDays).1 =
      .ok (some v) →
    ∃ query ∈ (fetchIndicator sources today countryToday indicatorName lookbackDays).2,
      ∃ observation, sources query = .ok (some observation) ∧ observation.value = v ∧
        FreshOn (if query.isCountry then countryToday else today) observation
  fred_first : indicatorName ∈ ["cpi_us", "cpi_ca", "cpi_ch"] → ∀ observation,
    sources (.fred indicatorName lookbackDays) = .ok (some observation) →
    FreshOn today observation →
      fetchIndicator sources today countryToday indicatorName lookbackDays =
        (.ok (some observation.value), [.fred indicatorName lookbackDays])
  country_iff : (∃ query ∈ (fetchIndicator sources today countryToday indicatorName lookbackDays).2,
      query.isCountry = true) ↔
    indicatorName ∈ ["cpi_us", "cpi_ca", "cpi_ch"] ∧
      FredInsufficient sources today indicatorName lookbackDays

/-- The answer of FRED is an exception, fresh or insufficient. -/
theorem fred_cases (sources : CpiSources F) (today : ℤ) (indicatorName : String)
    (lookbackDays : ℤ) :
    (∃ e, sources (.fred indicatorName lookbackDays) = .error e) ∨
      (∃ observation, sources (.fred indicatorName lookbackDays) = .ok (some observation) ∧
        FreshOn today observation) ∨
      FredInsufficient sources today indicatorName lookbackDays := by
  rcases h : sources (.fred indicatorName lookbackDays) with e | answer
  · exact .inl ⟨e, rfl⟩
  rcases hfilter : answer.filter (isObservationFresh cpiMaxAgeDays today) with - | observation
  · exact .inr (.inr ⟨answer, h, filter_fresh_eq_none_iff.1 hfilter⟩)
  · obtain ⟨rfl, hfresh⟩ := filter_fresh_eq_some_iff.1 hfilter
    exact .inr (.inl ⟨observation, rfl, hfresh⟩)

/-- An answer of FRED that is insufficient is no exception and not fresh. -/
theorem FredInsufficient.not_fresh (h : FredInsufficient sources today indicatorName lookbackDays)
    {observation : MacroObservation F}
    (hfred : sources (.fred indicatorName lookbackDays) = .ok (some observation)) :
    ¬ FreshOn today observation := by
  obtain ⟨answer, hanswer, hstale⟩ := h
  exact hstale observation (Except.ok.inj (hanswer.symm.trans hfred))

/-- A value that is returned is that of a fresh observation. -/
theorem fresh_of_fetchIndicator {v : F}
    (hv : (fetchIndicator sources today countryToday indicatorName lookbackDays).1 =
      .ok (some v)) :
    ∃ query ∈ (fetchIndicator sources today countryToday indicatorName lookbackDays).2,
      ∃ observation, sources query = .ok (some observation) ∧ observation.value = v ∧
        FreshOn (if query.isCountry then countryToday else today) observation := by
  by_cases h : indicatorName ∈ ["cpi_us", "cpi_ca", "cpi_ch"]
  · rcases fred_cases sources today indicatorName lookbackDays with
      ⟨e, hfred⟩ | ⟨observation, hfred, hfresh⟩ | hfred
    · rw [fetchIndicator_of_fredError h hfred] at hv
      cases hv
    · rw [fetchIndicator_of_fredFresh h hfred hfresh] at hv ⊢
      exact ⟨_, List.mem_singleton_self _, observation, hfred, Option.some.inj (Except.ok.inj hv),
        hfresh⟩
    · obtain ⟨country, hcountry, hoffice⟩ := exists_countryQuery h
      rw [fetchIndicator_of_fredInsufficient h hcountry hfred] at hv ⊢
      refine ⟨country, by simp, ?_⟩
      rcases hanswer : sources country with e | answer
      · rw [hanswer] at hv
        cases hv
      · rw [hanswer] at hv
        obtain ⟨observation, hfilter, hvalue⟩ := Option.map_eq_some_iff.1 (Except.ok.inj hv)
        obtain ⟨rfl, hfresh⟩ := filter_fresh_eq_some_iff.1 hfilter
        rw [if_pos hoffice]
        exact ⟨observation, rfl, hvalue, hfresh⟩
  · rw [fetchIndicator_of_unsupported h] at hv
    cases hv

/-- An office is asked when the answer of FRED is insufficient, and only then. -/
theorem asksCountry_iff (sources : CpiSources F) (today countryToday : ℤ) (indicatorName : String)
    (lookbackDays : ℤ) :
    (∃ query ∈ (fetchIndicator sources today countryToday indicatorName lookbackDays).2,
      query.isCountry = true) ↔
      indicatorName ∈ ["cpi_us", "cpi_ca", "cpi_ch"] ∧
        FredInsufficient sources today indicatorName lookbackDays := by
  have honly : ¬ ∃ query ∈ [CpiQuery.fred indicatorName lookbackDays],
      query.isCountry = true := by
    rintro ⟨query, hquery, hoffice⟩
    rw [List.mem_singleton.1 hquery] at hoffice
    cases hoffice
  by_cases h : indicatorName ∈ ["cpi_us", "cpi_ca", "cpi_ch"]
  · rw [and_iff_right h]
    rcases fred_cases sources today indicatorName lookbackDays with
      ⟨e, hfred⟩ | ⟨observation, hfred, hfresh⟩ | hfred
    · rw [fetchIndicator_of_fredError h hfred]
      refine iff_of_false honly ?_
      rintro ⟨answer, hanswer, -⟩
      rw [hfred] at hanswer
      cases hanswer
    · rw [fetchIndicator_of_fredFresh h hfred hfresh]
      exact iff_of_false honly fun hstale ↦ hstale.not_fresh hfred hfresh
    · obtain ⟨country, hcountry, hoffice⟩ := exists_countryQuery h
      rw [fetchIndicator_of_fredInsufficient h hcountry hfred]
      exact iff_of_true ⟨country, by simp, hoffice⟩ hfred
  · rw [fetchIndicator_of_unsupported h]
    refine iff_of_false ?_ fun hboth ↦ h hboth.1
    rintro ⟨query, hquery, -⟩
    exact absurd hquery List.not_mem_nil

/-- **The fallback keeps its promise.** -/
theorem fallsBack (sources : CpiSources F) (today countryToday : ℤ) (indicatorName : String)
    (lookbackDays : ℤ) : FallsBack sources today countryToday indicatorName lookbackDays where
  fresh _ hv := fresh_of_fetchIndicator hv
  fred_first h _ hfred hfresh := fetchIndicator_of_fredFresh h hfred hfresh
  country_iff := asksCountry_iff sources today countryToday indicatorName lookbackDays

end Fallback

/-! ### The result -/

/-- **The latest change, and its freshness**: for a table without months of the year 1 the
observation is that of the greatest month with a finite change of valid values over the year before
it, and there is none exactly when no month has one; and the fallback returns fresh values only,
those of FRED first. -/
theorem yoy_and_fallback (ops : FloatOps F) (source : String) (indexValues : Table Month F)
    (hyears : ∀ m, indexValues.lookup m ≠ none → 2 ≤ m.year) (sources : CpiSources F)
    (today countryToday : ℤ) (indicatorName : String) (lookbackDays : ℤ) :
    (∃ r, computeYoyObservation ops source indexValues = .ok r ∧
      (∀ obs, r = some obs ↔
        IsLatestYoy ops source (usableValues ops indexValues.lookup) obs) ∧
      (r = none ↔ ¬ ∃ m, HasYoy ops (usableValues ops indexValues.lookup) m)) ∧
    FallsBack sources today countryToday indicatorName lookbackDays := by
  refine ⟨computeYoyObservation_eq ops source indexValues fun m hm ↦ ?_,
    fallsBack sources today countryToday indicatorName lookbackDays⟩
  have hyear := hyears m hm
  omega

theorem year_2023 : (1 : ℤ) ≤ 2023 ∧ (2023 : ℤ) ≤ 9999 := by decide

theorem year_2024 : (1 : ℤ) ≤ 2024 ∧ (2024 : ℤ) ≤ 9999 := by decide

theorem january_mem : (1 : ℤ) ≤ 1 ∧ (1 : ℤ) ≤ 12 := by decide

def january2023 : Month :=
  ⟨2023, 1, year_2023, january_mem⟩

def january2024 : Month :=
  ⟨2024, 1, year_2024, january_mem⟩

/-- A table with the values of two Januaries. -/
def januaries (v w : ℚ) : Table Month ℚ :=
  put (put ∅ january2023 (some v)) january2024 (some w)

theorem eq_of_lookup_januaries {v w : ℚ} {m : Month} (h : (januaries v w).lookup m ≠ none) :
    m = january2024 ∨ m = january2023 := by
  rw [januaries, lookup_put, lookup_put] at h
  by_contra hno
  obtain ⟨h2024, h2023⟩ := not_or.1 hno
  rw [if_neg h2024, if_neg h2023] at h
  exact h rfl

/-- A figure of FRED for January 2024. -/
def fredFigure : MacroObservation ℚ :=
  { value := 3, period := january2024, source := "fred" }

/-- An index that rose from 100 to 103, and sources that all answer with a figure for January, asked
on 2024-04-30, the last day on which it is fresh. -/
theorem yoy_and_fallback_threePercent :
    computeYoyObservation exactRuntime.toFloatOps "bls" (januaries 100 103) =
        .ok (some { value := 3, period := january2024, source := "bls" }) ∧
      FallsBack (fun _ ↦ .ok (some fredFigure)) 739006 739006 "cpi_us" 365 ∧
      FreshOn 739006 fredFigure ∧ ¬ FreshOn 739007 fredFigure := by
  have hspec := yoy_and_fallback exactRuntime.toFloatOps "bls" (januaries 100 103)
    (fun m hm ↦ by rcases eq_of_lookup_januaries hm with rfl | rfl <;> decide)
    (fun _ ↦ .ok (some fredFigure)) 739006 739006 "cpi_us" 365
  exact ⟨by decide +kernel, hspec.2, by rw [FreshOn]; decide, by rw [FreshOn]; decide⟩

/-- Values of a ten-trillionth are finite and not zero, and there is no change: a value that close
to zero is not used. -/
theorem yoy_of_tiny_values :
    (∀ v ∈ [(1 : ℚ) / 10 ^ 13, 2 / 10 ^ 13], v ≠ 0 ∧ exactRuntime.isfinite v = true) ∧
      computeYoyObservation exactRuntime.toFloatOps "bls"
        (januaries (1 / 10 ^ 13) (2 / 10 ^ 13)) = .ok none :=
  ⟨by decide +kernel, by decide +kernel⟩

end InvestmentAssistant
