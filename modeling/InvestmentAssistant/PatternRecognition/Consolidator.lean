import Mathlib.Data.List.Sort
import InvestmentAssistant.Core.Models

/-!
# Consolidating patterns over time frames

`consolidatePatterns` groups the patterns that have a time frame by type, category and side, picks
the best one of each group as its representative, and sorts the groups by their representatives. A
group comes into being with its first pattern, so it always has a representative.
-/

namespace InvestmentAssistant

/-- The key of a group: type, category and side. -/
abbrev ScannerKey := String × PatternCategory × Bool

/-- The key a pattern is grouped under. -/
def PatternDetection.scannerKey (p : PatternDetection) : ScannerKey :=
  (p.patternType, p.category, p.bullish)

/-- The patterns of one key, in the order of their detection. -/
structure PatternGroup where
  key : ScannerKey
  first : PatternDetection
  rest : List PatternDetection

namespace PatternGroup

/-- All patterns of the group. -/
def patterns (g : PatternGroup) : List PatternDetection :=
  g.first :: g.rest

end PatternGroup

/-- `grouped.setdefault(key, []).append(pattern)`: groups stay in the order they came into being. -/
def addToGroups (groups : List PatternGroup) (p : PatternDetection) : List PatternGroup :=
  match groups with
  | [] => [⟨p.scannerKey, p, []⟩]
  | g :: groups =>
    if g.key = p.scannerKey then { g with rest := g.rest ++ [p] } :: groups
    else g :: addToGroups groups p

/-- The groups of the patterns that have a time frame. -/
def groupPatterns (patterns : List PatternDetection) : List PatternGroup :=
  (patterns.filter (·.timeframe.isSome)).foldl addToGroups []

/-- Tuples of relevance, confidence and reliability, compared one after the other. -/
def PatternDetection.ranksBelow (p q : PatternDetection) : Bool :=
  p.relevanceScore < q.relevanceScore ∨ p.relevanceScore = q.relevanceScore ∧
    (p.confidence < q.confidence ∨ p.confidence = q.confidence ∧ p.reliability < q.reliability)

/-- `_pick_representative_pattern`: the first of the patterns that no other one outranks. -/
def pickRepresentativePattern (g : PatternGroup) : PatternDetection :=
  g.rest.foldl (fun best p ↦ if best.ranksBelow p then p else best) g.first

/-- `_TIMEFRAME_ORDER`; other time frames come last. -/
def timeframeOrder : Timeframe → ℕ
  | .d1 => 0
  | .h1 => 1
  | .m15 => 2
  | .h4 => 3

/-- The time frames of a group, each once, from the longest scanner frame to the shortest. -/
def PatternGroup.timeframes (g : PatternGroup) : List Timeframe :=
  (g.patterns.filterMap (·.timeframe)).dedup.insertionSort fun a b ↦
    timeframeOrder a ≤ timeframeOrder b

/-- The result of one group. -/
def PatternGroup.result (g : PatternGroup) : PatternScannerResult :=
  let representative := pickRepresentativePattern g
  { patternType := representative.patternType
    category := representative.category
    bullish := representative.bullish
    confidence := representative.confidence
    timeframes := g.timeframes
    representativePattern := representative
    confidence_inUnit := representative.confidence_inUnit }

/-- `consolidate_patterns`. The sort is stable; a result has the confidence of its
representative. -/
def consolidatePatterns (patterns : List PatternDetection) : List PatternScannerResult :=
  ((groupPatterns patterns).map PatternGroup.result).insertionSort fun a b ↦
    ¬ a.representativePattern.ranksBelow b.representativePattern

end InvestmentAssistant
