import InvestmentAssistant.Core.Models
import InvestmentAssistant.Foundation.KeyedTable

/-!
# Time frames and the fetched bundle

An analysis reads several time frames: its own, the daily candles for the pivot points, the weekly
ones for the long-term trend, and those of the pattern scanner. `AnalysisTimeframePlan` says which,
and a `MultiTimeframeFetchBundle` holds what the fetch brought for each of them.
-/

namespace InvestmentAssistant

/-- The time frames candles are fetched on: the public ones and the week. -/
inductive DataTimeframe
  | m15
  | h1
  | h4
  | d1
  | w1
  deriving DecidableEq, Repr

namespace DataTimeframe

/-- `DataTimeframe.from_public`. -/
def fromPublic : Timeframe → DataTimeframe
  | .m15 => .m15
  | .h1 => .h1
  | .h4 => .h4
  | .d1 => .d1

/-- `DataTimeframe.to_public`. -/
def toPublic : DataTimeframe → Option Timeframe
  | .m15 => some .m15
  | .h1 => some .h1
  | .h4 => some .h4
  | .d1 => some .d1
  | .w1 => none

end DataTimeframe

/-- `SCANNER_DATA_TIMEFRAMES`. -/
def scannerDataTimeframes : List DataTimeframe :=
  [.d1, .h1, .m15]

/-- The time frames of one analysis. -/
structure AnalysisTimeframePlan where
  mainTimeframe : DataTimeframe
  pivotPointsTimeframe : DataTimeframe := .d1
  longTermTrendTimeframe : DataTimeframe := .w1
  patternScannerTimeframes : List DataTimeframe := scannerDataTimeframes
  deriving DecidableEq, Repr

namespace AnalysisTimeframePlan

/-- The time frames a plan mentions, in the order `required_timeframes` goes through them. -/
def mentionedTimeframes (plan : AnalysisTimeframePlan) : List DataTimeframe :=
  [plan.mainTimeframe, plan.pivotPointsTimeframe, plan.longTermTrendTimeframe] ++
    plan.patternScannerTimeframes

/-- One pass of the loop of `required_timeframes`; what was seen is what was ordered. -/
def addTimeframe (ordered : List DataTimeframe) (timeframe : DataTimeframe) : List DataTimeframe :=
  if timeframe ∈ ordered then ordered else ordered ++ [timeframe]

/-- `required_timeframes`. -/
def requiredTimeframes (plan : AnalysisTimeframePlan) : List DataTimeframe :=
  plan.mentionedTimeframes.foldl addTimeframe []

theorem mem_foldl_addTimeframe {timeframe : DataTimeframe}
    {ordered timeframes : List DataTimeframe} :
    timeframe ∈ timeframes.foldl addTimeframe ordered ↔
      timeframe ∈ ordered ∨ timeframe ∈ timeframes := by
  induction timeframes generalizing ordered with
  | nil => simp
  | cons t timeframes ih =>
    rw [List.foldl_cons, ih, addTimeframe]
    split
    · next hseen => grind
    · simp [or_assoc]

theorem nodup_foldl_addTimeframe {ordered : List DataTimeframe} (h : ordered.Nodup)
    (timeframes : List DataTimeframe) : (timeframes.foldl addTimeframe ordered).Nodup := by
  induction timeframes generalizing ordered with
  | nil => exact h
  | cons t timeframes ih =>
    rw [List.foldl_cons, addTimeframe]
    split
    · exact ih h
    · next hnew => exact ih (List.concat_eq_append ▸ h.concat hnew)

theorem prefix_foldl_addTimeframe (ordered timeframes : List DataTimeframe) :
    ordered <+: timeframes.foldl addTimeframe ordered := by
  induction timeframes generalizing ordered with
  | nil => exact List.prefix_rfl
  | cons t timeframes ih =>
    refine List.IsPrefix.trans ?_ (ih (addTimeframe ordered t))
    rw [addTimeframe]
    split
    · exact List.prefix_rfl
    · exact List.prefix_append _ _

/-- The required time frames are those the plan mentions, -/
theorem mem_requiredTimeframes {plan : AnalysisTimeframePlan} {timeframe : DataTimeframe} :
    timeframe ∈ plan.requiredTimeframes ↔ timeframe ∈ plan.mentionedTimeframes := by
  rw [requiredTimeframes, mem_foldl_addTimeframe, or_iff_right List.not_mem_nil]

/-- each of them once, -/
theorem nodup_requiredTimeframes (plan : AnalysisTimeframePlan) : plan.requiredTimeframes.Nodup :=
  nodup_foldl_addTimeframe List.nodup_nil _

/-- and the main one first. -/
theorem exists_requiredTimeframes_eq_cons (plan : AnalysisTimeframePlan) :
    ∃ others, plan.requiredTimeframes = plan.mainTimeframe :: others := by
  obtain ⟨others, h⟩ := prefix_foldl_addTimeframe [plan.mainTimeframe]
    ([plan.pivotPointsTimeframe, plan.longTermTrendTimeframe] ++ plan.patternScannerTimeframes)
  exact ⟨others, h.symm⟩

end AnalysisTimeframePlan

/-- `resolve_analysis_timeframes`. -/
def resolveAnalysisTimeframes (publicTimeframe : Timeframe) : AnalysisTimeframePlan where
  mainTimeframe := .fromPublic publicTimeframe

/-- The candles of each time frame, and the errors of those that could not be fetched. -/
structure MultiTimeframeFetchBundle where
  mainTimeframe : DataTimeframe
  candlesByTimeframe : Table DataTimeframe (List OHLCVData)
  errors : Table DataTimeframe String := ∅

namespace MultiTimeframeFetchBundle

/-- `MultiTimeframeFetchBundle.get`: a missing time frame has no candles. -/
def get (bundle : MultiTimeframeFetchBundle) (timeframe : DataTimeframe) : List OHLCVData :=
  (bundle.candlesByTimeframe.lookup timeframe).getD []

/-- `main_ohlcv`. -/
def mainOhlcv (bundle : MultiTimeframeFetchBundle) : List OHLCVData :=
  bundle.get bundle.mainTimeframe

end MultiTimeframeFetchBundle

/-- The time frames a report was made from. -/
structure AnalysisTimeframeContext where
  pivotPointsTimeframe : Timeframe := .d1
  patternScannerTimeframes : List Timeframe := [.d1, .h1, .m15]
  longTermTrendLabel : String := "weekly"
  deriving DecidableEq, Repr

end InvestmentAssistant
