import InvestmentAssistant.Scripts.CalibrateSignalThresholds

/-!
# Candidate thresholds against default labels

The samples of a history are labelled once, for the direction the default thresholds give them, and
then classified again by every candidate pair. A candidate is evaluated faithfully when its metrics
are those of its own signals: classified by its thresholds and labelled in that direction
(`ownMetrics`).

A window is counted as it should be when its label serves the candidate's signal too
(`WindowAnalysis.LabelledFor`). That is so in three cases (`WindowAnalysis.LabelServes`): the
default thresholds give the same direction; they leave the window neutral, and the future candles
settle nothing; or they give the opposite direction, and the trades of both directions end alike.
Stricter thresholds than the default ones only drop signals, so they are evaluated faithfully, and
looser ones are not always: `evaluatedFaithfully_iff` says exactly when.
-/

namespace InvestmentAssistant

variable {calls : WindowCalls} {ohlcv : List OHLCVData} {symbol timeframe : String}
  {sizes : WindowSizes} {bullish bearish : ℚ} {windows : List WindowAnalysis}

namespace WindowAnalysis

/-- The signal of a candidate: its own direction, labelled in that direction. -/
def own (bullish bearish : ℚ) (a : WindowAnalysis) : Judgement :=
  (classifyDirection a.score bullish bearish, a.outcome (classifyDirection a.score bullish bearish))

/-- The signal as it is counted: the candidate's direction with the label of the default one. -/
def counted (bullish bearish : ℚ) (a : WindowAnalysis) : Judgement :=
  (classifyDirection a.score bullish bearish, a.outcome (determineDirection a.score none none))

/-- The label for the default direction is right for the candidate's signal, if it has one. -/
def LabelledFor (bullish bearish : ℚ) (a : WindowAnalysis) : Prop :=
  ∀ d, classifyDirection a.score bullish bearish = some d →
    a.outcome (determineDirection a.score none none) = a.outcome (some d)

/-- The label of a window for its default direction serves a signal of the direction `d`. -/
inductive LabelServes (a : WindowAnalysis) (d : Direction) : Prop
  | same (hdefault : determineDirection a.score none none = some d)
  | unsettled (hdefault : determineDirection a.score none none = none)
      (houtcome : a.outcome (some d) = .unknown)
  | opposite (hdefault : determineDirection a.score none none = some d.opposite)
      (houtcome : a.outcome (some d.opposite) = a.outcome (some d))

/-- Without a direction a window has no label, and for a direction its label is the first level that
the future candles reach of a trade entered at the last close. -/
def LabelsFirstHit (calls : PatternCalls) (timeframe : String) (training future : List OHLCVData)
    (a : WindowAnalysis) : Prop :=
  a.outcome none = .unknown ∧
    ∃ last patterns, training.getLast? = some last ∧
      detectAndScorePatternsForWindow calls training timeframe = .ok patterns ∧ ∀ direction,
        let slTp := calculateSlTp training direction last.close
          (patterns.filter fun p ↦ p.category = .supportResistance)
        a.outcome (some direction) = firstHit direction slTp.stopLoss slTp.tp1 future

end WindowAnalysis

/-- The metrics of a candidate's own signals over a history. -/
def ownMetrics (calls : WindowCalls) (ohlcv : List OHLCVData) (timeframe : String)
    (sizes : WindowSizes) (bullish bearish : ℚ) : Except PyException CandidateMetrics := do
  let windows ← analyseHistory calls ohlcv timeframe sizes
  return metricsOf bullish bearish (windows.map (WindowAnalysis.own bullish bearish))

/-- The metrics computed from the samples of the history are those of the candidate's own
signals. -/
def EvaluatedFaithfully (calls : WindowCalls) (ohlcv : List OHLCVData) (symbol timeframe : String)
    (sizes : WindowSizes) (bullish bearish : ℚ) : Prop :=
  (buildSamplesFromOhlcv calls ohlcv symbol timeframe sizes).map
      (evaluateCandidates · [(bullish, bearish)]) =
    (ownMetrics calls ohlcv timeframe sizes bullish bearish).map fun m ↦ [m]

/-- The signals of a side that are counted under a label they do not have. -/
def countedWrongly (windows : List WindowAnalysis) (bullish bearish : ℚ) (d : Direction)
    (o : TransactionOutcome) : ℕ :=
  windows.countP fun a ↦
    a.counted bullish bearish = (some d, o) ∧ a.own bullish bearish ≠ (some d, o)

/-- The signals of a side that have a label they are not counted under. -/
def missed (windows : List WindowAnalysis) (bullish bearish : ℚ) (d : Direction)
    (o : TransactionOutcome) : ℕ :=
  windows.countP fun a ↦
    a.own bullish bearish = (some d, o) ∧ a.counted bullish bearish ≠ (some d, o)

/-! ### One history -/

/-- The samples as a candidate judges them. -/
theorem map_judgement_samples (windows : List WindowAnalysis) :
    (windows.zipIdx.map fun a ↦ a.1.sample symbol timeframe a.2).map
        (CalibrationSample.judgement bullish bearish) =
      windows.map (WindowAnalysis.counted bullish bearish) := by
  rw [List.map_map, ← List.zipIdx_map_fst 0 windows, List.map_map, List.zipIdx_map_fst]
  rfl

/-- A history is evaluated faithfully when the two ways to judge its windows have equal metrics. -/
theorem evaluatedFaithfully_iff_metricsOf_eq
    (h : analyseHistory calls ohlcv timeframe sizes = .ok windows) :
    EvaluatedFaithfully calls ohlcv symbol timeframe sizes bullish bearish ↔
      metricsOf bullish bearish (windows.map (WindowAnalysis.counted bullish bearish)) =
        metricsOf bullish bearish (windows.map (WindowAnalysis.own bullish bearish)) := by
  rw [EvaluatedFaithfully, buildSamplesFromOhlcv_eq, ownMetrics, h]
  show Except.ok (evaluateCandidates _ _) = Except.ok _ ↔ _
  rw [evaluateCandidates_eq, List.map_singleton, map_judgement_samples, Except.ok.injEq,
    List.singleton_inj]

/-- The directions are the candidate's either way. -/
theorem map_fst_counted (windows : List WindowAnalysis) :
    (windows.map (WindowAnalysis.counted bullish bearish)).map Prod.fst =
      (windows.map (WindowAnalysis.own bullish bearish)).map Prod.fst := by
  rw [List.map_map, List.map_map]
  rfl

/-- Two ways to judge a list count a judgement equally often when as many elements gain it as
lose it. -/
theorem count_map_eq_iff {α : Type} (f g : α → Judgement) (j : Judgement) (xs : List α) :
    (xs.map f).count j = (xs.map g).count j ↔
      (xs.countP fun x ↦ f x = j ∧ g x ≠ j) = xs.countP fun x ↦ g x = j ∧ f x ≠ j := by
  have hsplit : ∀ f g : α → Judgement, (xs.map f).count j =
      (xs.countP fun x ↦ f x = j ∧ g x ≠ j) + xs.countP fun x ↦ f x = j ∧ g x = j := by
    intro f g
    induction xs with
    | nil => rfl
    | cons x xs ih =>
      rw [List.map_cons, List.count_cons, List.countP_cons, List.countP_cons, ih]
      by_cases hf : f x = j <;> by_cases hg : g x = j <;> simp [hf, hg] <;> omega
  have hboth : (xs.countP fun x ↦ f x = j ∧ g x = j) = xs.countP fun x ↦ g x = j ∧ f x = j :=
    List.countP_congr fun x _ ↦ by simp [and_comm]
  rw [hsplit f g, hsplit g f, hboth]
  exact Nat.add_right_cancel_iff

/-- A window is judged the same either way exactly when its label serves the candidate. -/
theorem WindowAnalysis.labelledFor_iff {a : WindowAnalysis} :
    a.LabelledFor bullish bearish ↔
      ∀ (d : Direction) (o : TransactionOutcome),
        a.counted bullish bearish = (some d, o) ↔ a.own bullish bearish = (some d, o) := by
  unfold WindowAnalysis.LabelledFor WindowAnalysis.counted WindowAnalysis.own
  rcases hd : classifyDirection a.score bullish bearish with - | d
  · simp
  · constructor
    · intro h e o
      rw [h d rfl]
    · intro h e he
      rw [← he]
      exact congrArg Prod.snd ((h d _).2 rfl)

/-! ### One window -/

/-- The default label serves a signal exactly when it is the label of the signal. -/
theorem WindowAnalysis.labelServes_iff {a : WindowAnalysis} (hnone : a.outcome none = .unknown)
    {d : Direction} : a.LabelServes d ↔
      a.outcome (determineDirection a.score none none) = a.outcome (some d) := by
  constructor
  · rintro (hdefault | ⟨hdefault, houtcome⟩ | ⟨hdefault, houtcome⟩)
    · rw [hdefault]
    · rw [hdefault, hnone, houtcome]
    · rw [hdefault, houtcome]
  · intro h
    rcases hdefault : determineDirection a.score none none with - | e
    · rw [hdefault, hnone] at h
      exact .unsettled hdefault h.symm
    · rw [hdefault] at h
      by_cases he : e = d
      · exact .same (he ▸ hdefault)
      · obtain rfl : e = d.opposite := Direction.eq_opposite_of_ne he
        exact .opposite hdefault h

/-- The analysis of a window labels it so. -/
theorem labelsFirstHit_of_analyseWindow {training future : List OHLCVData} {a : WindowAnalysis}
    (h : analyseWindow calls training future timeframe = .ok a) :
    a.LabelsFirstHit calls.patterns timeframe training future := by
  obtain ⟨⟨patterns, score⟩, hscore, h⟩ := bind_eq_ok_iff.1 h
  obtain ⟨last, hitem, h⟩ := bind_eq_ok_iff.1 h
  obtain ⟨indicators, -, hscore⟩ := bind_eq_ok_iff.1 hscore
  obtain ⟨movingAverages, -, hscore⟩ := bind_eq_ok_iff.1 hscore
  obtain ⟨found, hpatterns, hscore⟩ := bind_eq_ok_iff.1 hscore
  obtain ⟨rfl, -⟩ := Prod.mk.inj (Except.ok.inj hscore)
  rw [← Except.ok.inj h]
  have hlast : training.getLast? = some last := lastItem_eq_ok_iff.1 hitem
  exact ⟨labelSignalOutcome_none (some last.close) none none (some future), last, found, hlast,
    hpatterns, signalOutcome_some hlast future found⟩

/-! ### Every initial part of a history -/

/-- The windows of an initial part are windows of the history. -/
theorem analyseFrom_take {n i : ℕ} (h : i + (sizes.trainingSize + sizes.forwardSize) ≤ n) :
    analyseFrom calls (ohlcv.take n) timeframe sizes i =
      analyseFrom calls ohlcv timeframe sizes i := by
  rw [analyseFrom, analyseFrom, RollingWindows.slice_take (by omega),
    RollingWindows.slice_take (by omega)]

/-- A history that is analysed has a positive step, and an analysis of each of its windows. -/
theorem analyseHistory_eq_ok_iff :
    analyseHistory calls ohlcv timeframe sizes = .ok windows ↔ 0 < sizes.stepSize ∧
      List.Forall₂ (fun i a ↦ analyseFrom calls ohlcv timeframe sizes i = .ok a)
        (RollingWindows.starts ohlcv.length (sizes.trainingSize + sizes.forwardSize) sizes.stepSize)
        windows := by
  rw [analyseHistory, iterWindowStarts]
  split
  · next h => exact ⟨fun hok ↦ (nomatch hok), fun hok ↦ absurd h hok.1.ne'⟩
  · next h =>
    rw [← mapM_eq_ok_iff]
    exact ⟨fun hok ↦ ⟨Nat.pos_of_ne_zero h, hok⟩, fun hok ↦ hok.2⟩

/-- The part of a history that ends with window `k` has the first `k + 1` windows. -/
theorem analyseHistory_take (h : analyseHistory calls ohlcv timeframe sizes = .ok windows) {k : ℕ}
    (hk : k < windows.length) :
    analyseHistory calls
        (ohlcv.take (k * sizes.stepSize + (sizes.trainingSize + sizes.forwardSize)))
        timeframe sizes =
      .ok (windows.take (k + 1)) := by
  obtain ⟨hstep, hwindows⟩ := analyseHistory_eq_ok_iff.1 h
  rw [← hwindows.length_eq] at hk
  have hlength :
      (ohlcv.take (k * sizes.stepSize + (sizes.trainingSize + sizes.forwardSize))).length =
      k * sizes.stepSize + (sizes.trainingSize + sizes.forwardSize) := by
    rw [List.length_take, min_eq_left (RollingWindows.end_le_of_lt hstep hk)]
  refine analyseHistory_eq_ok_iff.2 ⟨hstep, ?_⟩
  rw [hlength, RollingWindows.starts_of_end hstep hk]
  have hfits : ∀ i ∈ (RollingWindows.starts ohlcv.length (sizes.trainingSize + sizes.forwardSize)
      sizes.stepSize).take (k + 1), i + (sizes.trainingSize + sizes.forwardSize) ≤
        k * sizes.stepSize + (sizes.trainingSize + sizes.forwardSize) := by
    intro i hi
    rw [← RollingWindows.starts_of_end hstep hk, RollingWindows.mem_starts hstep] at hi
    obtain ⟨-, -, hle⟩ := hi
    exact hle
  refine ((List.forall₂_and_left _ _).2 ⟨hfits, List.forall₂_take (k + 1) hwindows⟩).imp ?_
  rintro i a ⟨hi, ha⟩
  rwa [analyseFrom_take hi]

/-- The windows of an initial part are among the windows of the history. -/
theorem mem_of_analyseHistory_take (h : analyseHistory calls ohlcv timeframe sizes = .ok windows)
    {n : ℕ} {part : List WindowAnalysis}
    (hpart : analyseHistory calls (ohlcv.take n) timeframe sizes = .ok part) :
    ∀ a ∈ part, a ∈ windows := by
  obtain ⟨hstep, hwindows⟩ := analyseHistory_eq_ok_iff.1 h
  obtain ⟨-, hpart⟩ := analyseHistory_eq_ok_iff.1 hpart
  intro a ha
  obtain ⟨i, hi, hpart⟩ := exists_mem_of_forall₂ hpart ha
  obtain ⟨k, rfl, hle⟩ := (RollingWindows.mem_starts hstep).1 hi
  rw [List.length_take] at hle
  rw [analyseFrom_take (hle.trans (min_le_left _ _))] at hpart
  -- the window starts at the same candle of the history
  have hmem := (RollingWindows.mem_starts hstep).2 ⟨k, rfl, hle.trans (min_le_right _ _)⟩
  obtain ⟨b, hb, hfull⟩ := exists_mem_of_forall₂ hwindows.flip hmem
  rwa [Except.ok.inj (hpart.symm.trans hfull)]

/-! ### The exact condition -/

/-- The counts that decide over one history. -/
theorem evaluatedFaithfully_iff_counts
    (h : analyseHistory calls ohlcv timeframe sizes = .ok windows) :
    EvaluatedFaithfully calls ohlcv symbol timeframe sizes bullish bearish ↔
      ∀ (d : Direction) (o : TransactionOutcome),
        countedWrongly windows bullish bearish d o = missed windows bullish bearish d o := by
  rw [evaluatedFaithfully_iff_metricsOf_eq h, metricsOf_eq_iff (map_fst_counted windows)]
  exact forall₂_congr fun d o ↦ count_map_eq_iff _ _ (some d, o) windows

/-- Windows that are labelled for the candidate are counted as they should be. -/
theorem counts_eq_zero_of_labelledFor (h : ∀ a ∈ windows, a.LabelledFor bullish bearish)
    (d : Direction) (o : TransactionOutcome) :
    countedWrongly windows bullish bearish d o = 0 ∧ missed windows bullish bearish d o = 0 := by
  have hiff : ∀ a ∈ windows, a.counted bullish bearish = (some d, o) ↔
      a.own bullish bearish = (some d, o) :=
    fun a ha ↦ WindowAnalysis.labelledFor_iff.1 (h a ha) d o
  constructor
  · refine List.countP_eq_zero.2 fun a ha ↦ ?_
    simp [hiff a ha]
  · refine List.countP_eq_zero.2 fun a ha ↦ ?_
    simp [hiff a ha]

/-- A window whose part of the history, like the part before it, is evaluated faithfully is labelled
for the candidate. -/
theorem labelledFor_of_counts {before : List WindowAnalysis} {a : WindowAnalysis}
    (hbefore : ∀ b ∈ before, b.LabelledFor bullish bearish)
    (hcounts : ∀ (d : Direction) (o : TransactionOutcome),
      countedWrongly (before ++ [a]) bullish bearish d o =
        missed (before ++ [a]) bullish bearish d o) :
    a.LabelledFor bullish bearish := by
  refine WindowAnalysis.labelledFor_iff.2 fun d o ↦ ?_
  obtain ⟨hwrong, hmissed⟩ := counts_eq_zero_of_labelledFor hbefore d o
  have hlast := hcounts d o
  rw [countedWrongly, missed, List.countP_append, List.countP_append] at hlast
  rw [countedWrongly] at hwrong
  rw [missed] at hmissed
  rw [hwrong, hmissed] at hlast
  -- the last window cannot be counted wrongly and be missed under one label
  by_cases hcounted : a.counted bullish bearish = (some d, o) <;>
    by_cases hown : a.own bullish bearish = (some d, o) <;> simp_all

/-- Thresholds at least as strict as the default ones only drop signals. -/
theorem WindowAnalysis.labelledFor_of_stricter (hbull : bullishThreshold ≤ bullish)
    (hbear : bearish ≤ bearishThreshold) (a : WindowAnalysis) : a.LabelledFor bullish bearish := by
  intro d hd
  suffices h : determineDirection a.score none none = some d by rw [h]
  rw [determineDirection, Option.getD_none, Option.getD_none]
  rw [classifyDirection] at hd
  have hsides : bearishThreshold < bullishThreshold := by
    norm_num [bearishThreshold, bullishThreshold]
  split at hd
  · next hlong => rwa [if_pos (hbull.trans hlong)]
  · split at hd
    · next hshort =>
      have hdefault : a.score ≤ bearishThreshold := hshort.trans hbear
      rwa [if_neg (not_le.2 (hdefault.trans_lt hsides)), if_pos hdefault]
    · cases hd

/-- The parts of a history are evaluated faithfully when its windows are labelled for the
candidate. -/
theorem evaluatedFaithfully_take_of_labelledFor
    (h : analyseHistory calls ohlcv timeframe sizes = .ok windows)
    (hlabels : ∀ a ∈ windows, a.LabelledFor bullish bearish) (n : ℕ) :
    EvaluatedFaithfully calls (ohlcv.take n) symbol timeframe sizes bullish bearish := by
  rcases hpart : analyseHistory calls (ohlcv.take n) timeframe sizes with e | part
  · rw [EvaluatedFaithfully, buildSamplesFromOhlcv_eq, ownMetrics, hpart]
    rfl
  · refine (evaluatedFaithfully_iff_counts hpart).2 fun d o ↦ ?_
    have hpartLabels : ∀ a ∈ part, a.LabelledFor bullish bearish :=
      fun a ha ↦ hlabels a (mem_of_analyseHistory_take h hpart a ha)
    obtain ⟨hwrong, hmissed⟩ := counts_eq_zero_of_labelledFor hpartLabels d o
    rw [hwrong, hmissed]

/-- Every window of a history is labelled by the first level that its future candles reach. -/
theorem exists_labelsFirstHit (h : analyseHistory calls ohlcv timeframe sizes = .ok windows)
    {a : WindowAnalysis} (ha : a ∈ windows) :
    ∃ i ∈ RollingWindows.starts ohlcv.length (sizes.trainingSize + sizes.forwardSize)
        sizes.stepSize,
      a.LabelsFirstHit calls.patterns timeframe
        (RollingWindows.slice ohlcv i sizes.trainingSize)
        (RollingWindows.slice ohlcv (i + sizes.trainingSize) sizes.forwardSize) := by
  obtain ⟨-, hwindows⟩ := analyseHistory_eq_ok_iff.1 h
  obtain ⟨i, hi, hwindow⟩ := exists_mem_of_forall₂ hwindows ha
  exact ⟨i, hi, labelsFirstHit_of_analyseWindow hwindow⟩

/-- **When a candidate is evaluated faithfully.** Over one history: when each label of each side is
counted wrongly as often as it is missed. Over every initial part of the history: when every window
the candidate calls long or short has the same label for that direction as for its default one, that
is, when the default label serves it; a label is the first level that the future candles reach. This
is always so for thresholds at least as strict as the default ones. -/
theorem evaluatedFaithfully_iff (h : analyseHistory calls ohlcv timeframe sizes = .ok windows)
    (symbol : String) (bullish bearish : ℚ) :
    (EvaluatedFaithfully calls ohlcv symbol timeframe sizes bullish bearish ↔
      ∀ (d : Direction) (o : TransactionOutcome),
        countedWrongly windows bullish bearish d o = missed windows bullish bearish d o) ∧
    ((∀ n, EvaluatedFaithfully calls (ohlcv.take n) symbol timeframe sizes bullish bearish) ↔
      ∀ a ∈ windows, a.LabelledFor bullish bearish) ∧
    (∀ a ∈ windows,
      (∃ i ∈ RollingWindows.starts ohlcv.length (sizes.trainingSize + sizes.forwardSize)
          sizes.stepSize,
        a.LabelsFirstHit calls.patterns timeframe
          (RollingWindows.slice ohlcv i sizes.trainingSize)
          (RollingWindows.slice ohlcv (i + sizes.trainingSize) sizes.forwardSize)) ∧
      (a.LabelledFor bullish bearish ↔
        ∀ d, classifyDirection a.score bullish bearish = some d → a.LabelServes d)) ∧
    (bullishThreshold ≤ bullish → bearish ≤ bearishThreshold →
      ∀ n, EvaluatedFaithfully calls (ohlcv.take n) symbol timeframe sizes bullish bearish) := by
  refine ⟨evaluatedFaithfully_iff_counts h,
    ⟨fun hparts ↦ ?_, fun hlabels ↦ evaluatedFaithfully_take_of_labelledFor h hlabels⟩,
    fun a ha ↦ ?_, fun hbull hbear ↦ evaluatedFaithfully_take_of_labelledFor h
      fun a _ ↦ a.labelledFor_of_stricter hbull hbear⟩
  · -- window by window, along the parts that end with them
    suffices hk : ∀ k ≤ windows.length, ∀ a ∈ windows.take k, a.LabelledFor bullish bearish by
      simpa using hk windows.length le_rfl
    intro k
    induction k with
    | zero => exact fun _ a ha ↦ nomatch ha
    | succ k ih =>
      intro hk
      have hpart := hparts (k * sizes.stepSize + (sizes.trainingSize + sizes.forwardSize))
      rw [evaluatedFaithfully_iff_counts (analyseHistory_take h hk), List.take_add_one,
        List.getElem?_eq_getElem hk] at hpart
      rw [List.take_add_one, List.getElem?_eq_getElem hk]
      exact List.forall_mem_append.2 ⟨ih (by omega), List.forall_mem_singleton.2
        (labelledFor_of_counts (ih (by omega)) hpart)⟩
  · obtain ⟨i, hi, hfirst⟩ := exists_labelsFirstHit h ha
    exact ⟨⟨i, hi, hfirst⟩, forall₂_congr fun d _ ↦ (WindowAnalysis.labelServes_iff hfirst.1).symm⟩

/-! ### A signal that only the candidate sees -/

/-- The five rising candles, and one that rises to `110`. -/
def risingHistory : List OHLCVData :=
  risingWindow ++ [⟨⟨18000000000, some 0⟩, 105, 110, 105, 110, 0⟩]

/-- The score of the window is `0.02`. The candidate `(0.01, -0.01)` calls it long, and its take
profit at `108` is reached, but the default thresholds leave it neutral: the signal is counted as
unknown. -/
theorem resolved_signal_counts_as_unknown :
    ¬ EvaluatedFaithfully risingCalls risingHistory "EUR/USD" "H1" ⟨5, 1, 1⟩ 0.01 (-0.01) := by
  intro h
  have hmetrics := congrArg Except.toOption h
  revert hmetrics
  decide +kernel

theorem evaluatedFaithfully_iff_rising :
    ∃ windows, (EvaluatedFaithfully risingCalls risingHistory "EUR/USD" "H1" ⟨5, 1, 1⟩
      0.01 (-0.01) ↔
      ∀ (d : Direction) (o : TransactionOutcome),
        countedWrongly windows 0.01 (-0.01) d o = missed windows 0.01 (-0.01) d o) ∧
    ((∀ n, EvaluatedFaithfully risingCalls (risingHistory.take n) "EUR/USD" "H1" ⟨5, 1, 1⟩
      0.01 (-0.01)) ↔ ∀ a ∈ windows, a.LabelledFor 0.01 (-0.01)) := by
  rcases h : analyseHistory risingCalls risingHistory "H1" ⟨5, 1, 1⟩ with e | windows
  · have hok : (analyseHistory risingCalls risingHistory "H1" ⟨5, 1, 1⟩).isOk = true := by
      decide +kernel
    rw [h] at hok
    exact nomatch hok
  · obtain ⟨hcounts, hparts, -, -⟩ := evaluatedFaithfully_iff h "EUR/USD" 0.01 (-0.01)
    exact ⟨windows, hcounts, hparts⟩

end InvestmentAssistant
