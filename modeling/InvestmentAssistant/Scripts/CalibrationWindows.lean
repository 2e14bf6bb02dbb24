import InvestmentAssistant.Scripts.CalibrateSignalThresholds

/-!
# The windows of the calibration

Every window that `buildSamplesFromOhlcv` uses is full: a slice that ran over the end of the history
would be cut short without an error, and the range of the starts ends before that happens. The
candles a signal is labelled against are those right after the candles it was scored on, the samples
are numbered as the windows come, and with a step of at least the forward size — the default of
`resolveStepSize` — no candle labels two signals.
-/

namespace InvestmentAssistant

/-- The `step_size` of the configuration: an integer, a truth value, which is an integer to
`isinstance`, or anything else, such as the `None` of the default configuration. -/
inductive StepSetting
  | int (n : ℤ)
  | bool (b : Bool)
  | other
  deriving DecidableEq, Repr

/-- `_resolve_step_size`. -/
def resolveStepSize (configured : StepSetting) (forwardSize : ℕ) : ℕ :=
  match configured with
  | .int n => if 0 < n then n.toNat else forwardSize
  | .bool b => if b then 1 else forwardSize
  | .other => forwardSize

/-- A step is never zero, so that the rolling window moves. -/
theorem resolveStepSize_pos (configured : StepSetting) {forwardSize : ℕ} (h : 0 < forwardSize) :
    0 < resolveStepSize configured forwardSize := by
  cases configured with
  | int n =>
    rw [resolveStepSize]
    split
    · next hn => exact Int.lt_toNat.2 hn
    · exact h
  | bool b =>
    cases b with
    | true => exact Nat.one_pos
    | false => exact h
  | other => exact h

/-- The two parts of a window. -/
structure CalibrationWindow where
  training : List OHLCVData
  future : List OHLCVData

/-- The parts of the window that starts at candle `i`. -/
def calibrationWindow (ohlcv : List OHLCVData) (sizes : WindowSizes) (i : ℕ) :
    CalibrationWindow where
  training := RollingWindows.slice ohlcv i sizes.trainingSize
  future := RollingWindows.slice ohlcv (i + sizes.trainingSize) sizes.forwardSize

/-- **A full window**: both parts have their size, the training part is the candles from `i` on, and
the future part is the candles from the first one after them on. -/
structure CalibrationWindow.IsFull (w : CalibrationWindow) (ohlcv : List OHLCVData)
    (sizes : WindowSizes) (i : ℕ) : Prop where
  length_training : w.training.length = sizes.trainingSize
  length_future : w.future.length = sizes.forwardSize
  training_eq : ∀ k < sizes.trainingSize, w.training[k]? = ohlcv[i + k]?
  future_eq : ∀ k < sizes.forwardSize, w.future[k]? = ohlcv[i + sizes.trainingSize + k]?

/-- Where the windows of a history start. -/
def windowStarts (ohlcv : List OHLCVData) (sizes : WindowSizes) : List ℕ :=
  RollingWindows.starts ohlcv.length (sizes.trainingSize + sizes.forwardSize) sizes.stepSize

section Windows

variable {ohlcv : List OHLCVData} {sizes : WindowSizes} {i : ℕ}

/-- A window that fits is full. -/
theorem isFull_calibrationWindow (h : i + (sizes.trainingSize + sizes.forwardSize) ≤ ohlcv.length) :
    (calibrationWindow ohlcv sizes i).IsFull ohlcv sizes i where
  length_training := RollingWindows.length_slice (by omega)
  length_future := RollingWindows.length_slice (by omega)
  training_eq _ hk := RollingWindows.getElem?_slice hk
  future_eq _ hk := RollingWindows.getElem?_slice hk

/-- With a step of at least the forward size, the future of a window ends before the next begins. -/
theorem disjoint_future (h : sizes.forwardSize ≤ sizes.stepSize) :
    (windowStarts ohlcv sizes).Pairwise fun i j ↦
      Disjoint (Finset.Ico (i + sizes.trainingSize) (i + sizes.trainingSize + sizes.forwardSize))
        (Finset.Ico (j + sizes.trainingSize) (j + sizes.trainingSize + sizes.forwardSize)) := by
  refine RollingWindows.pairwise_starts.imp fun {i j} hij ↦ Finset.disjoint_left.2 fun n hi hj ↦ ?_
  rw [Finset.mem_Ico] at hi hj
  omega

variable {calls : WindowCalls} {symbol timeframe : String}

/-- The samples of a history: one per window, built from its parts and numbered from zero on. -/
theorem forall₂_buildSamplesFromOhlcv (hstep : 0 < sizes.stepSize)
    {samples : List CalibrationSample}
    (h : buildSamplesFromOhlcv calls ohlcv symbol timeframe sizes = .ok samples) :
    List.Forall₂ (fun x sample ↦
        buildSampleFromWindow calls (calibrationWindow ohlcv sizes x.1).training
          (calibrationWindow ohlcv sizes x.1).future symbol timeframe x.2 = .ok sample)
      (windowStarts ohlcv sizes).zipIdx samples := by
  rw [buildSamplesFromOhlcv, iterWindowStarts, if_neg hstep.ne'] at h
  exact mapM_eq_ok_iff.1 h

/-- The samples are numbered consecutively. -/
theorem map_sampleIndex_eq_range {samples : List CalibrationSample}
    (h : buildSamplesFromOhlcv calls ohlcv symbol timeframe sizes = .ok samples) :
    samples.map CalibrationSample.sampleIndex = List.range samples.length := by
  rw [buildSamplesFromOhlcv_eq] at h
  rcases hwindows : analyseHistory calls ohlcv timeframe sizes with e | windows
  · rw [hwindows] at h
    cases h
  · rw [hwindows] at h
    obtain rfl := Except.ok.inj h
    rw [List.map_map, List.length_map, List.length_zipIdx, List.range_eq_range']
    exact List.zipIdx_map_snd 0 windows

end Windows

/-- **The rolling windows of the calibration.** Each window that is used is full, one more would not
fit, the samples are built from the windows in their order and numbered from zero on, and with a
step of at least the forward size no candle is in two future parts; the default step is the forward
size, and whatever is configured, the step is positive. -/
theorem rolling_calibration_windows (calls : WindowCalls) (ohlcv : List OHLCVData)
    (symbol timeframe : String) {sizes : WindowSizes} (hstep : 1 ≤ sizes.stepSize) :
    iterWindowStarts ohlcv.length sizes.trainingSize sizes.forwardSize sizes.stepSize =
      .ok (windowStarts ohlcv sizes) ∧
    (∀ i ∈ windowStarts ohlcv sizes, (calibrationWindow ohlcv sizes i).IsFull ohlcv sizes i) ∧
    (∀ i, i ∈ windowStarts ohlcv sizes ↔
      ∃ k, i = k * sizes.stepSize ∧ i + (sizes.trainingSize + sizes.forwardSize) ≤ ohlcv.length) ∧
    ohlcv.length < (windowStarts ohlcv sizes).length * sizes.stepSize +
      (sizes.trainingSize + sizes.forwardSize) ∧
    (∀ samples, buildSamplesFromOhlcv calls ohlcv symbol timeframe sizes = .ok samples →
      List.Forall₂ (fun x sample ↦
          buildSampleFromWindow calls (calibrationWindow ohlcv sizes x.1).training
            (calibrationWindow ohlcv sizes x.1).future symbol timeframe x.2 = .ok sample)
        (windowStarts ohlcv sizes).zipIdx samples ∧
      samples.map CalibrationSample.sampleIndex = List.range samples.length) ∧
    (sizes.forwardSize ≤ sizes.stepSize →
      (windowStarts ohlcv sizes).Pairwise fun i j ↦
        Disjoint (Finset.Ico (i + sizes.trainingSize) (i + sizes.trainingSize + sizes.forwardSize))
          (Finset.Ico (j + sizes.trainingSize)
            (j + sizes.trainingSize + sizes.forwardSize))) ∧
    resolveStepSize .other sizes.forwardSize = sizes.forwardSize ∧
    (0 < sizes.forwardSize → ∀ configured, 1 ≤ resolveStepSize configured sizes.forwardSize) := by
  refine ⟨if_neg (Nat.one_le_iff_ne_zero.1 hstep), fun i hi ↦ ?_, fun i ↦ ?_, ?_,
    fun samples hsamples ↦ ⟨?_, map_sampleIndex_eq_range hsamples⟩, disjoint_future, rfl,
    fun hforward configured ↦ resolveStepSize_pos configured hforward⟩
  · obtain ⟨k, -, hle⟩ := (RollingWindows.mem_starts hstep).1 hi
    exact isFull_calibrationWindow hle
  · exact RollingWindows.mem_starts hstep
  · exact RollingWindows.lt_length_mul_add hstep
  · exact forall₂_buildSamplesFromOhlcv hstep hsamples

/-- Five candles have three windows of two candles and the one after them. -/
theorem rolling_calibration_windows_rising :
    iterWindowStarts 5 2 1 1 = .ok [0, 1, 2] ∧
    (∀ i ∈ [0, 1, 2],
      (calibrationWindow risingWindow ⟨2, 1, 1⟩ i).IsFull risingWindow ⟨2, 1, 1⟩ i) ∧
    [0, 1, 2].Pairwise fun i j ↦
      Disjoint (Finset.Ico (i + 2) (i + 2 + 1)) (Finset.Ico (j + 2) (j + 2 + 1)) := by
  obtain ⟨hstarts, hfull, -, -, -, hdisjoint, -⟩ :=
    @rolling_calibration_windows risingCalls risingWindow "EURUSD" "D1" ⟨2, 1, 1⟩ le_rfl
  exact ⟨hstarts, hfull, hdisjoint le_rfl⟩

end InvestmentAssistant
