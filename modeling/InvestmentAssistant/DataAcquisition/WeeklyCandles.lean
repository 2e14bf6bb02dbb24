import InvestmentAssistant.DataAcquisition.FourHourCandles
import InvestmentAssistant.Foundation.Calendar
import InvestmentAssistant.Foundation.GreedyRuns

/-!
# Weekly candles from daily ones

FMP has no weekly candles either. `resampleToWeekly` goes through the daily candles with a bucket
for the week under construction and closes it when the ISO week changes. So the buckets are the runs
of equal weeks (`resampleToWeekly_eq`); a run is a whole week where the weeks do not decrease, which
they do not in a chronological list of one time zone (`isoWeek_le_of_utcoffset_eq`).
-/

namespace InvestmentAssistant

open GreedyRuns

/-! ### The code -/

/-- `isocalendar()`: the ISO year and week of the reading. -/
def DateTime.isoWeek (t : DateTime) : ℤ ×ₗ ℤ :=
  Calendar.isoWeek (t.wall / 86400000000 + 719163)

/-- `week_key`. -/
def OHLCVData.weekKey (c : OHLCVData) : ℤ ×ₗ ℤ :=
  c.timestamp.isoWeek

/-- `_build_weekly_candle`. -/
def buildWeeklyCandle (candles : List OHLCVData) : Except PyException OHLCVData :=
  match bucketCandle candles with
  | some candle => .ok candle
  | none => .error .indexError

/-- The variables of the loop. -/
structure WeeklyState where
  result : List OHLCVData := []
  bucket : List OHLCVData := []
  currentWeek : Option (ℤ ×ₗ ℤ) := none

/-- The body of the loop. -/
def WeeklyState.step (s : WeeklyState) (candle : OHLCVData) : Except PyException WeeklyState :=
  if s.currentWeek = none ∨ s.currentWeek = some candle.weekKey then
    .ok { s with bucket := s.bucket ++ [candle], currentWeek := some candle.weekKey }
  else
    (buildWeeklyCandle s.bucket).map fun weekly ↦
      { result := s.result ++ [weekly], bucket := [candle], currentWeek := some candle.weekKey }

/-- What follows the loop: the last bucket becomes a candle. -/
def WeeklyState.finish (s : WeeklyState) : Except PyException (List OHLCVData) :=
  if s.bucket = [] then .ok s.result
  else (buildWeeklyCandle s.bucket).map fun weekly ↦ s.result ++ [weekly]

/-- `_resample_to_weekly`. -/
def resampleToWeekly (candles : List OHLCVData) : Except PyException (List OHLCVData) :=
  if candles = [] then .ok []
  else (candles.foldlM WeeklyState.step {}).bind WeeklyState.finish

/-! ### Runs of weeks -/

/-- A candle goes into the bucket of the candle before it when it is of the same week. -/
def sameWeek (run : List OHLCVData) (c : OHLCVData) : Bool :=
  run.getLast?.map OHLCVData.weekKey = some c.weekKey

/-- The weeks of a list of daily candles. -/
def weeks (candles : List OHLCVData) : List (List OHLCVData) :=
  runs sameWeek candles

theorem exists_bucketCandle {run : List OHLCVData} (h : run ≠ []) :
    ∃ c, bucketCandle run = some c := by
  rcases run with - | ⟨first, rest⟩
  · exact absurd rfl h
  · exact ⟨_, rfl⟩

theorem buildWeeklyCandle_eq {run : List OHLCVData} {c : OHLCVData}
    (h : bucketCandle run = some c) :
    buildWeeklyCandle run = .ok c := by
  rw [buildWeeklyCandle, h]

/-- The variables of the loop with a bucket under construction. -/
def openBucket (result run : List OHLCVData) : WeeklyState :=
  ⟨result, run, run.getLast?.map OHLCVData.weekKey⟩

/-- A candle of the same week joins the bucket. -/
theorem step_of_sameWeek {run : List OHLCVData} {c : OHLCVData} (result : List OHLCVData)
    (h : sameWeek run c = true) :
    (openBucket result run).step c = .ok (openBucket result (run ++ [c])) := by
  rw [WeeklyState.step, if_pos (.inr (of_decide_eq_true h)), openBucket, openBucket,
    List.getLast?_concat]
  rfl

/-- A candle of another week closes the bucket and opens the next one. -/
theorem step_of_not_sameWeek {run : List OHLCVData} {c weekly : OHLCVData}
    (result : List OHLCVData) (hweekly : bucketCandle run = some weekly)
    (h : sameWeek run c = false) :
    (openBucket result run).step c = .ok (openBucket (result ++ [weekly]) [c]) := by
  have hnone : (openBucket result run).currentWeek ≠ none := by
    rcases run with - | ⟨first, rest⟩
    · cases hweekly
    · simp [openBucket]
  have hother : (openBucket result run).currentWeek ≠ some c.weekKey := of_decide_eq_false h
  rw [WeeklyState.step, if_neg (not_or_intro hnone hother)]
  show (buildWeeklyCandle run).map _ = _
  rw [buildWeeklyCandle_eq hweekly]
  rfl

/-- The loop with a bucket under construction, and what follows it. -/
theorem foldlM_weeklyStep (result run candles : List OHLCVData) (hrun : run ≠ []) :
    (candles.foldlM WeeklyState.step (openBucket result run)).bind WeeklyState.finish =
      .ok (result ++ (grow sameWeek run candles).filterMap bucketCandle) := by
  induction candles generalizing result run with
  | nil =>
    obtain ⟨weekly, hweekly⟩ := exists_bucketCandle hrun
    have hclose : (openBucket result run).finish = .ok (result ++ [weekly]) := by
      have hopen : (openBucket result run).bucket ≠ [] := hrun
      rw [WeeklyState.finish, if_neg hopen]
      show (buildWeeklyCandle run).map _ = _
      rw [buildWeeklyCandle_eq hweekly]
      rfl
    rw [grow, List.filterMap_cons, hweekly]
    exact hclose
  | cons c candles ih =>
    rw [List.foldlM_cons]
    cases h : sameWeek run c with
    | true =>
      rw [step_of_sameWeek result h, grow_cons_of_joins h]
      exact ih result (run ++ [c]) (by simp)
    | false =>
      obtain ⟨weekly, hweekly⟩ := exists_bucketCandle hrun
      rw [step_of_not_sameWeek result hweekly h, grow_cons_of_not_joins h, List.filterMap_cons,
        hweekly]
      have hrest := ih (result ++ [weekly]) [c] (List.cons_ne_nil _ _)
      rw [List.append_assoc] at hrest
      exact hrest

/-- **Resampling never raises, and makes a candle of each run of a week.** -/
theorem resampleToWeekly_eq (candles : List OHLCVData) :
    resampleToWeekly candles = .ok ((weeks candles).filterMap bucketCandle) := by
  rcases candles with - | ⟨c, candles⟩
  · rfl
  · rw [resampleToWeekly, if_neg (List.cons_ne_nil _ _), List.foldlM_cons]
    exact foldlM_weeklyStep [] [c] candles (List.cons_ne_nil _ _)

/-! ### A run is a week -/

/-- All candles of a run are of one week. -/
theorem weekKey_eq_of_grown {run : List OHLCVData} (h : Grown sameWeek run) :
    ∀ a ∈ run, ∀ b ∈ run, a.weekKey = b.weekKey := by
  induction run using List.reverseRecOn with
  | nil => exact fun a ha ↦ absurd ha List.not_mem_nil
  | append_singleton run c ih =>
    by_cases hrun : run = []
    · subst hrun
      intro a ha b hb
      rw [List.mem_singleton.1 ha, List.mem_singleton.1 hb]
    obtain ⟨hgrown, hjoins⟩ := (grown_concat_iff hrun).1 h
    obtain ⟨last, hlast, hkey⟩ := Option.map_eq_some_iff.1 (of_decide_eq_true hjoins)
    have hmem := List.mem_of_getLast? hlast
    -- the new candle is of the week of the last one, so of every one
    have hc : ∀ a ∈ run ++ [c], a.weekKey = c.weekKey := by
      intro a ha
      rcases List.mem_append.1 ha with ha | ha
      · exact (ih hgrown a ha last hmem).trans hkey
      · rw [List.mem_singleton.1 ha]
    exact fun a ha b hb ↦ (hc a ha).trans (hc b hb).symm

theorem weekKey_eq_of_mem_weeks {candles run : List OHLCVData} (hrun : run ∈ weeks candles) :
    ∀ a ∈ run, ∀ b ∈ run, a.weekKey = b.weekKey :=
  weekKey_eq_of_grown (grown_of_mem_runs hrun)

theorem ne_nil_of_mem_weeks {candles run : List OHLCVData} (hrun : run ∈ weeks candles) :
    run ≠ [] :=
  (grown_of_mem_runs hrun).1

/-- The weeks of the candles do not decrease. -/
def WeeksInOrder (candles : List OHLCVData) : Prop :=
  candles.Pairwise fun a b ↦ a.weekKey ≤ b.weekKey

/-- Where the weeks do not decrease, those of the runs increase. -/
theorem pairwise_weeks {candles : List OHLCVData} (h : WeeksInOrder candles) :
    (weeks candles).Pairwise fun run next ↦ ∀ a ∈ run, ∀ b ∈ next, a.weekKey < b.weekKey := by
  refine pairwise_lt_of_isChain (fun _ ↦ ne_nil_of_mem_weeks) ?_
  have hpairs : (weeks candles).Pairwise fun run next ↦
      ∀ a ∈ run, ∀ b ∈ next, a.weekKey ≤ b.weekKey := by
    rw [WeeksInOrder, ← @flatten_runs _ sameWeek candles, List.pairwise_flatten] at h
    exact h.2
  refine isChain_of_forall_mem (fun c hc ↦ grown_of_mem_runs hc) hpairs (isChain_runs candles) ?_
  rintro run next hrun hnext hle ⟨x, rest, rfl, hcut⟩ a ha b hb
  -- the first candle of the next run did not join this one
  have hne : a.weekKey ≠ x.weekKey := by
    intro heq
    obtain ⟨last, hlast⟩ := Option.ne_none_iff_exists'.1 (mt List.getLast?_eq_none_iff.1 hrun.1)
    have hkey := weekKey_eq_of_grown hrun last (List.mem_of_getLast? hlast) a ha
    refine of_decide_eq_false hcut ?_
    rw [hlast, Option.map_some, hkey, heq]
  rw [weekKey_eq_of_grown hnext b hb x (List.mem_cons_self ..)]
  exact lt_of_le_of_ne (hle a ha x (List.mem_cons_self ..)) hne

/-- **A run is all that the list holds of its week.** -/
theorem eq_filter_of_mem_weeks {candles run : List OHLCVData} (h : WeeksInOrder candles)
    (hrun : run ∈ weeks candles) {c : OHLCVData} (hc : c ∈ run) :
    run = candles.filter fun a ↦ a.weekKey = c.weekKey := by
  have hfilter := eq_filter_of_pairwise_lt (pairwise_weeks h) hrun
  have hkeys : ∀ a : OHLCVData, a.weekKey ∈ run.map OHLCVData.weekKey ↔ a.weekKey = c.weekKey := by
    intro a
    constructor
    · intro ha
      obtain ⟨b, hb, hkey⟩ := List.mem_map.1 ha
      rw [← hkey]
      exact weekKey_eq_of_mem_weeks hrun b hb c hc
    · intro ha
      rw [ha]
      exact List.mem_map_of_mem hc
  have hflatten : (weeks candles).flatten = candles := flatten_runs candles
  simp only [hkeys, hflatten] at hfilter
  exact hfilter.symm

/-! ### The candle of a week -/

/-- `candle` summarises the candles of a week: the open and the timestamp of the first, the close of
the last, the greatest high, the least low and all of the volume. -/
structure Summarises (candle : OHLCVData) (days : List OHLCVData) : Prop where
  timestamp : days.head?.map OHLCVData.timestamp = some candle.timestamp
  open_ : days.head?.map OHLCVData.open_ = some candle.open_
  close : days.getLast?.map OHLCVData.close = some candle.close
  high : candle.high ∈ days.map OHLCVData.high ∧ ∀ day ∈ days, day.high ≤ candle.high
  low : candle.low ∈ days.map OHLCVData.low ∧ ∀ day ∈ days, candle.low ≤ day.low
  volume : candle.volume = (days.map OHLCVData.volume).sum

theorem summarises_bucketCandle {days : List OHLCVData} {candle : OHLCVData}
    (h : bucketCandle days = some candle) : Summarises candle days := by
  rcases days with - | ⟨first, rest⟩
  · cases h
  obtain rfl := Option.some.inj h
  have hmax := List.max?_eq_some_iff.1
    (show (first.high :: rest.map OHLCVData.high).max? = _ from List.max?_cons')
  have hmin := List.min?_eq_some_iff.1
    (show (first.low :: rest.map OHLCVData.low).min? = _ from List.min?_cons')
  refine ⟨rfl, rfl, ?_, ⟨hmax.1, fun day hday ↦ ?_⟩, ⟨hmin.1, fun day hday ↦ ?_⟩, rfl⟩
  · rw [List.getLast?_eq_some_getLast (List.cons_ne_nil _ _)]
    rfl
  · exact hmax.2 _ (List.mem_map_of_mem (f := OHLCVData.high) hday)
  · exact hmin.2 _ (List.mem_map_of_mem (f := OHLCVData.low) hday)

/-- The candle of a week is of the week. -/
theorem Summarises.weekKey_eq {candle : OHLCVData} {days : List OHLCVData}
    (h : Summarises candle days) : ∃ first ∈ days, candle.weekKey = first.weekKey := by
  obtain ⟨first, hfirst, htimestamp⟩ := Option.map_eq_some_iff.1 h.timestamp
  exact ⟨first, List.mem_of_mem_head? hfirst, congrArg DateTime.isoWeek htimestamp.symm⟩

/-- The candles of the weeks. -/
def weeklyCandles (candles : List OHLCVData) : List OHLCVData :=
  (weeks candles).filterMap bucketCandle

/-- The candles of the weeks stand for the weeks, one by one. -/
theorem forall₂_weeklyCandles (candles : List OHLCVData) :
    List.Forall₂ Summarises (weeklyCandles candles) (weeks candles) := by
  have hall : ∀ runs : List (List OHLCVData), (∀ run ∈ runs, run ≠ []) →
      List.Forall₂ Summarises (runs.filterMap bucketCandle) runs := by
    intro runs hruns
    induction runs with
    | nil => exact List.Forall₂.nil
    | cons run runs ih =>
      obtain ⟨hrun, hruns⟩ := List.forall_mem_cons.1 hruns
      obtain ⟨candle, hcandle⟩ := exists_bucketCandle hrun
      rw [List.filterMap_cons, hcandle]
      exact List.Forall₂.cons (summarises_bucketCandle hcandle) (ih hruns)
  exact hall _ fun _ ↦ ne_nil_of_mem_weeks

/-- The volume of the weeks is that of the days. -/
theorem sum_volume_weeklyCandles (candles : List OHLCVData) :
    ((weeklyCandles candles).map OHLCVData.volume).sum =
      (candles.map OHLCVData.volume).sum := by
  have hsum : ∀ (rs : List OHLCVData) (runs : List (List OHLCVData)),
      List.Forall₂ Summarises rs runs →
        (rs.map OHLCVData.volume).sum = (runs.flatten.map OHLCVData.volume).sum := by
    intro rs runs h
    induction h with
    | nil => rfl
    | cons hr _ ih =>
      rw [List.map_cons, List.sum_cons, ih, hr.volume, List.flatten_cons, List.map_append,
        List.sum_append]
  have hflatten : (weeks candles).flatten = candles := flatten_runs candles
  rw [hsum _ _ (forall₂_weeklyCandles candles), hflatten]

/-! ### Cutting at the end of a week -/

/-- The last candle before the cut and the first one behind it are of different weeks. -/
def CutAtWeek (xs ys : List OHLCVData) : Prop :=
  ∀ a ∈ xs.getLast?, ∀ b ∈ ys.head?, a.weekKey ≠ b.weekKey

/-- A run that ends in another week than the rest begins with is closed there. -/
theorem grow_append {run : List OHLCVData} (hrun : run ≠ []) (xs : List OHLCVData)
    {y : OHLCVData} (ys : List OHLCVData) (hcut : CutAtWeek (run ++ xs) (y :: ys)) :
    grow sameWeek run (xs ++ y :: ys) = grow sameWeek run xs ++ grow sameWeek [y] ys := by
  induction xs generalizing run with
  | nil =>
    have hnot : sameWeek run y = false := by
      refine decide_eq_false fun hkey ↦ ?_
      obtain ⟨last, hlast, hkey⟩ := Option.map_eq_some_iff.1 hkey
      rw [List.append_nil] at hcut
      exact hcut last hlast y rfl hkey
    rw [List.nil_append, grow_cons_of_not_joins hnot]
    rfl
  | cons x xs ih =>
    rw [List.cons_append]
    cases h : sameWeek run x with
    | true =>
      rw [grow_cons_of_joins h, grow_cons_of_joins h]
      refine ih (by simp) ?_
      rw [List.append_assoc]
      exact hcut
    | false =>
      rw [grow_cons_of_not_joins h, grow_cons_of_not_joins h, List.cons_append]
      refine congrArg _ (ih (List.cons_ne_nil _ _) ?_)
      rw [CutAtWeek, List.getLast?_append_of_ne_nil _ (List.cons_ne_nil x xs)] at hcut
      exact hcut

/-- **Weeks of a list that is cut at the end of a week** are those of its parts. -/
theorem weeklyCandles_append {xs ys : List OHLCVData} (hcut : CutAtWeek xs ys) :
    weeklyCandles (xs ++ ys) = weeklyCandles xs ++ weeklyCandles ys := by
  have hweeks : weeks (xs ++ ys) = weeks xs ++ weeks ys := by
    rcases xs with - | ⟨x, xs⟩
    · rfl
    rcases ys with - | ⟨y, ys⟩
    · rw [List.append_nil]
      exact (List.append_nil _).symm
    · exact grow_append (List.cons_ne_nil x []) xs ys hcut
  rw [weeklyCandles, hweeks, List.filterMap_append]
  rfl

/-! ### The result -/

/-- `result` is `candles` by weeks: a candle for each week, in the order of time. -/
structure IsByWeeks (candles result : List OHLCVData) : Prop where
  weeks_increase : result.Pairwise fun a b ↦ a.weekKey < b.weekKey
  chronological : result.Pairwise fun a b ↦ a.timestamp.instant < b.timestamp.instant
  mem_weeks : ∀ week, (∃ r ∈ result, r.weekKey = week) ↔ ∃ c ∈ candles, c.weekKey = week
  summarises : ∀ r ∈ result, Summarises r (candles.filter fun c ↦ c.weekKey = r.weekKey)
  volume : (result.map OHLCVData.volume).sum = (candles.map OHLCVData.volume).sum

/-- Candles that summarise weeks in their order are in the order of the weeks. -/
theorem pairwise_weekKey_of_forall₂ {rs : List OHLCVData} {runs : List (List OHLCVData)}
    (hrs : List.Forall₂ Summarises rs runs)
    (hruns : runs.Pairwise fun run next ↦ ∀ a ∈ run, ∀ b ∈ next, a.weekKey < b.weekKey) :
    rs.Pairwise fun a b ↦ a.weekKey < b.weekKey := by
  induction hrs with
  | nil => exact List.Pairwise.nil
  | @cons r run rs runs hr hrs ih =>
    obtain ⟨hrun, hruns⟩ := List.pairwise_cons.1 hruns
    refine List.pairwise_cons.2 ⟨fun r' hr' ↦ ?_, ih hruns⟩
    obtain ⟨run', hrun', hsum⟩ := exists_mem_of_forall₂ hrs.flip hr'
    obtain ⟨a, ha, hkey⟩ := hr.weekKey_eq
    obtain ⟨b, hb, hkey'⟩ := Summarises.weekKey_eq hsum
    rw [hkey, hkey']
    exact hrun run' hrun' a ha b hb

theorem pairwise_weekKey {candles : List OHLCVData} (h : WeeksInOrder candles) :
    (weeklyCandles candles).Pairwise fun a b ↦ a.weekKey < b.weekKey :=
  pairwise_weekKey_of_forall₂ (forall₂_weeklyCandles candles) (pairwise_weeks h)

theorem exists_week_of_mem {candles : List OHLCVData} {r : OHLCVData}
    (hr : r ∈ weeklyCandles candles) : ∃ run ∈ weeks candles, Summarises r run := by
  obtain ⟨run, hrun, hbucket⟩ := List.mem_filterMap.1 hr
  exact ⟨run, hrun, summarises_bucketCandle hbucket⟩

/-- The candle of a week summarises all days of the week. -/
theorem summarises_filter {candles : List OHLCVData} (h : WeeksInOrder candles) {r : OHLCVData}
    (hr : r ∈ weeklyCandles candles) :
    Summarises r (candles.filter fun c ↦ c.weekKey = r.weekKey) := by
  obtain ⟨run, hrun, hsum⟩ := exists_week_of_mem hr
  obtain ⟨first, hfirst, hkey⟩ := hsum.weekKey_eq
  rw [hkey, ← eq_filter_of_mem_weeks h hrun hfirst]
  exact hsum

theorem exists_weekKey_iff (candles : List OHLCVData) (week : ℤ ×ₗ ℤ) :
    (∃ r ∈ weeklyCandles candles, r.weekKey = week) ↔ ∃ c ∈ candles, c.weekKey = week := by
  have hflatten : (weeks candles).flatten = candles := flatten_runs candles
  constructor
  · rintro ⟨r, hr, rfl⟩
    obtain ⟨run, hrun, hsum⟩ := exists_week_of_mem hr
    obtain ⟨first, hfirst, hkey⟩ := hsum.weekKey_eq
    refine ⟨first, ?_, hkey.symm⟩
    rw [← hflatten]
    exact List.mem_flatten_of_mem hrun hfirst
  · rintro ⟨c, hc, rfl⟩
    rw [← hflatten] at hc
    obtain ⟨run, hrun, hc⟩ := List.mem_flatten.1 hc
    obtain ⟨r, hr⟩ := exists_bucketCandle (ne_nil_of_mem_weeks hrun)
    obtain ⟨first, hfirst, hkey⟩ := (summarises_bucketCandle hr).weekKey_eq
    refine ⟨r, List.mem_filterMap.2 ⟨run, hrun, hr⟩, ?_⟩
    rw [hkey]
    exact weekKey_eq_of_mem_weeks hrun first hfirst c hc

/-- In one time zone the weeks are in the order of time. -/
theorem isoWeek_le_of_utcoffset_eq {s t : DateTime} (hzone : s.utcoffset = t.utcoffset)
    (h : s.instant ≤ t.instant) : s.isoWeek ≤ t.isoWeek := by
  rw [DateTime.instant, DateTime.instant, hzone] at h
  refine Calendar.isoWeek_mono ?_
  have hwall : s.wall ≤ t.wall := by linarith
  omega

/-- **Weekly candles**: where the ISO week is monotone in time, resampling a chronological list
makes one candle for each week of it, and resampling the parts of a list that is cut at the end of a
week resamples the list. -/
theorem resampleToWeekly_spec (candles : List OHLCVData)
    (hsorted : candles.Pairwise fun a b ↦ a.timestamp.instant ≤ b.timestamp.instant)
    (hmono : ∀ a ∈ candles, ∀ b ∈ candles, a.timestamp.instant ≤ b.timestamp.instant →
      a.timestamp.isoWeek ≤ b.timestamp.isoWeek) :
    ∃ result, resampleToWeekly candles = .ok result ∧ IsByWeeks candles result ∧
      ∀ xs ys, candles = xs ++ ys → CutAtWeek xs ys →
        ∃ rs rs', resampleToWeekly xs = .ok rs ∧ resampleToWeekly ys = .ok rs' ∧
          result = rs ++ rs' := by
  have horder : WeeksInOrder candles := hsorted.imp_of_mem fun ha hb h ↦ hmono _ ha _ hb h
  refine ⟨weeklyCandles candles, resampleToWeekly_eq candles,
    ⟨pairwise_weekKey horder, ?_, exists_weekKey_iff candles, fun r ↦ summarises_filter horder,
      sum_volume_weeklyCandles candles⟩, ?_⟩
  · -- a later week cannot begin at an earlier time
    refine (pairwise_weekKey horder).imp_of_mem fun {a b} ha hb hlt ↦ ?_
    have hfirst : ∀ r ∈ weeklyCandles candles, ∃ c ∈ candles, c.timestamp = r.timestamp := by
      intro r hr
      obtain ⟨c, hc, htimestamp⟩ := Option.map_eq_some_iff.1 (summarises_filter horder hr).timestamp
      exact ⟨c, List.mem_of_mem_filter (List.mem_of_mem_head? hc), htimestamp⟩
    obtain ⟨c, hc, hcts⟩ := hfirst a ha
    obtain ⟨d, hd, hdts⟩ := hfirst b hb
    by_contra hle
    rw [← hcts, ← hdts, not_lt] at hle
    have hback := hmono d hd c hc hle
    rw [hcts, hdts] at hback
    exact absurd hlt hback.not_gt
  · rintro xs ys rfl hcut
    exact ⟨_, _, resampleToWeekly_eq xs, resampleToWeekly_eq ys, weeklyCandles_append hcut⟩

/-- The midnights of successive days, in UTC. -/
def dailyCandles (first n : ℕ) : List OHLCVData :=
  (List.range n).map fun i ↦ utcCandle ((first + i : ℕ) * (24 * hour)) 1

/-- Sunday 2021-01-03 and the Monday after it: the last week of 2020 and the first of 2021. -/
theorem resampleToWeekly_spec_newYear :
    ∃ result, resampleToWeekly (dailyCandles 18630 2) = .ok result ∧
      IsByWeeks (dailyCandles 18630 2) result ∧
      result.map OHLCVData.weekKey = [toLex (2020, 53), toLex (2021, 1)] := by
  obtain ⟨result, hresult, hweeks, -⟩ := resampleToWeekly_spec (dailyCandles 18630 2)
    (by decide)
    fun a ha b hb h ↦ isoWeek_le_of_utcoffset_eq (by
      obtain ⟨i, -, rfl⟩ := List.mem_map.1 ha
      obtain ⟨j, -, rfl⟩ := List.mem_map.1 hb
      rfl) h
  refine ⟨result, hresult, hweeks, ?_⟩
  rw [resampleToWeekly_eq] at hresult
  rw [← Except.ok.inj hresult]
  decide

end InvestmentAssistant
