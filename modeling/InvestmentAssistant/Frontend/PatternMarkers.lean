import InvestmentAssistant.Core.Models
import InvestmentAssistant.Foundation.Grouping
import InvestmentAssistant.Foundation.KeyedTable

/-!
# The pattern markers of the chart

The chart marks the patterns of its time frame at their candles. Patterns of one candle share a
marker, which says by its colour whether all of them are bullish, all bearish, or some of each, and
is yellow when one of them has the type of the pattern that the user has clicked.

The markers are put into the order of time (`pairwise_chartMarkers`), one for each time at which
there is a pattern (`mem_chartMarkers_iff`). A highlight goes by the type alone, so it marks every
candle with a pattern of the type, in either direction (`highlighted_iff`). The order in which the
patterns come decides on nothing but the order of the names in a text
(`map_look_chartMarkers_perm`).

The chart converts the time of a pattern as it does those of its candles, by the clock of the
browser; the conversion is a parameter (`toChartTime`). Every timestamp is taken to be a date.
-/

namespace InvestmentAssistant

open Grouping

/-- The place of a marker. -/
inductive MarkerPosition
  | belowBar
  | aboveBar
  deriving DecidableEq, Repr

/-- The shape of a marker. -/
inductive MarkerShape
  | arrowUp
  | arrowDown
  deriving DecidableEq, Repr

/-- A marker of the chart; times are in seconds. -/
structure SeriesMarker where
  time : ℤ
  position : MarkerPosition
  color : String
  shape : MarkerShape
  text : String
  deriving DecidableEq, Repr

/-- A marker without its text. -/
def SeriesMarker.look (marker : SeriesMarker) : ℤ × MarkerPosition × String × MarkerShape :=
  (marker.time, marker.position, marker.color, marker.shape)

namespace CandlestickChart

/-- The colour of a highlighted marker. -/
def highlightColor : String := "#eab308"

section Markers

variable (toChartTime : String → ℤ) (lastTimestamp : ℤ) (highlighted : Option PatternDetection)

/-- `markerTime`; a pattern without a date is marked at the last candle. -/
def markerTime (p : PatternDetection) : ℤ :=
  if p.detectedAtTimestamp = "" then lastTimestamp else toChartTime p.detectedAtTimestamp

/-- `isHighlighted`: a pattern of the group has the type of the highlighted one. -/
def isHighlighted (group : List PatternDetection) : Bool :=
  group.any fun p ↦ decide (highlighted.map (·.patternType) = some p.patternType)

/-- `baseColor`. -/
def baseColor (group : List PatternDetection) : String :=
  if group.all fun p ↦ p.bullish then "#22c55e"
  else if group.all fun p ↦ !p.bullish then "#ef4444"
  else "#94a3b8"

/-- The marker of a group. -/
def groupMarker (timeKey : ℤ) (group : List PatternDetection) : SeriesMarker :=
  let allBullish := group.all fun p ↦ p.bullish
  { time := timeKey
    position := if allBullish then .belowBar else .aboveBar
    color := if isHighlighted highlighted group then highlightColor else baseColor group
    shape := if allBullish then .arrowUp else .arrowDown
    text := " / ".intercalate (group.map fun p ↦ p.patternType) }

/-- `buildPatternMarkers`. -/
def buildPatternMarkers (patterns : List PatternDetection) : List SeriesMarker :=
  (groupBy (markerTime toChartTime lastTimestamp) patterns).map fun g ↦
    groupMarker highlighted g.1 g.2

/-- The markers that a chart with candles sets, when their layer is visible. -/
def chartMarkers (patternsVisible : Bool) (patterns : List PatternDetection) : List SeriesMarker :=
  if patternsVisible then
    (buildPatternMarkers toChartTime lastTimestamp highlighted patterns).insertionSort
      fun a b ↦ a.time ≤ b.time
  else []

end Markers

section Spec

variable {toChartTime : String → ℤ} {lastTimestamp : ℤ} {highlighted : Option PatternDetection}
  {patterns : List PatternDetection} {marker : SeriesMarker}

/-- The patterns of the chart that belong to a time. -/
def patternsAt (toChartTime : String → ℤ) (lastTimestamp : ℤ) (patterns : List PatternDetection)
    (time : ℤ) : List PatternDetection :=
  patterns.filter fun p ↦ markerTime toChartTime lastTimestamp p = time

theorem mem_patternsAt {time : ℤ} {p : PatternDetection} :
    p ∈ patternsAt toChartTime lastTimestamp patterns time ↔
      p ∈ patterns ∧ markerTime toChartTime lastTimestamp p = time := by
  rw [patternsAt, List.mem_filter, decide_eq_true_eq]

theorem mem_buildPatternMarkers_iff :
    marker ∈ buildPatternMarkers toChartTime lastTimestamp highlighted patterns ↔
      ∃ time, patternsAt toChartTime lastTimestamp patterns time ≠ [] ∧
        marker = groupMarker highlighted time
          (patternsAt toChartTime lastTimestamp patterns time) := by
  rw [buildPatternMarkers, List.mem_map]
  constructor
  · rintro ⟨⟨time, group⟩, hgroup, rfl⟩
    obtain ⟨rfl, hne⟩ := mem_groupBy_iff.1 hgroup
    exact ⟨time, hne, rfl⟩
  · rintro ⟨time, hne, rfl⟩
    exact ⟨(time, _), mem_groupBy_iff.2 ⟨rfl, hne⟩, rfl⟩

/-- **There is one marker for each time of a pattern**, with all the patterns of that time. -/
theorem mem_chartMarkers_iff :
    marker ∈ chartMarkers toChartTime lastTimestamp highlighted true patterns ↔
      ∃ time, patternsAt toChartTime lastTimestamp patterns time ≠ [] ∧
        marker = groupMarker highlighted time
          (patternsAt toChartTime lastTimestamp patterns time) := by
  rw [chartMarkers, if_pos rfl, List.mem_insertionSort]
  exact mem_buildPatternMarkers_iff

/-- **The markers are in the order of time**, no two at one time. -/
theorem pairwise_chartMarkers (patternsVisible : Bool) :
    (chartMarkers toChartTime lastTimestamp highlighted patternsVisible patterns).Pairwise
      fun a b ↦ a.time < b.time := by
  cases patternsVisible with
  | false => exact List.Pairwise.nil
  | true =>
    have : Std.Total fun a b : SeriesMarker ↦ a.time ≤ b.time := ⟨fun a b ↦ le_total a.time b.time⟩
    have : IsTrans SeriesMarker fun a b ↦ a.time ≤ b.time := ⟨fun a b c hab hbc ↦ hab.trans hbc⟩
    have hperm := List.perm_insertionSort (fun a b : SeriesMarker ↦ a.time ≤ b.time)
      (buildPatternMarkers toChartTime lastTimestamp highlighted patterns)
    have hnodup : ((buildPatternMarkers toChartTime lastTimestamp highlighted patterns).map
        SeriesMarker.time).Nodup := by
      rw [buildPatternMarkers, List.map_map]
      exact nodup_keys_groupBy patterns
    have hdistinct :=
      List.nodup_iff_pairwise_ne.1 ((hperm.map SeriesMarker.time).nodup_iff.2 hnodup)
    refine ((List.pairwise_insertionSort _ _).and (List.pairwise_map.1 hdistinct)).imp ?_
    exact fun h ↦ lt_of_le_of_ne h.1 h.2

/-- A marker is highlighted by its colour. -/
theorem color_groupMarker_eq_iff {time : ℤ} {group : List PatternDetection} :
    (groupMarker highlighted time group).color = highlightColor ↔
      ∃ p ∈ group, highlighted.map (·.patternType) = some p.patternType := by
  have hbase : baseColor group ≠ highlightColor := by
    rw [baseColor]
    split
    · decide
    · split <;> decide
  show (if isHighlighted highlighted group then highlightColor else baseColor group) = _ ↔ _
  rw [show (∃ p ∈ group, highlighted.map (·.patternType) = some p.patternType) ↔
    isHighlighted highlighted group = true by simp [isHighlighted]]
  split
  · next h => exact iff_of_true rfl h
  · next h => exact iff_of_false hbase h

/-- **What a highlight marks**: the times of all patterns of its type. -/
theorem highlighted_iff {time : ℤ} :
    (∃ marker ∈ chartMarkers toChartTime lastTimestamp highlighted true patterns,
      marker.time = time ∧ marker.color = highlightColor) ↔
      ∃ p ∈ patterns, markerTime toChartTime lastTimestamp p = time ∧
        highlighted.map (·.patternType) = some p.patternType := by
  constructor
  · rintro ⟨marker, hmarker, htime, hcolor⟩
    obtain ⟨time', -, rfl⟩ := mem_chartMarkers_iff.1 hmarker
    obtain rfl : time' = time := htime
    obtain ⟨p, hp, htype⟩ := color_groupMarker_eq_iff.1 hcolor
    obtain ⟨hmem, htime⟩ := mem_patternsAt.1 hp
    exact ⟨p, hmem, htime, htype⟩
  · rintro ⟨p, hp, htime, htype⟩
    have hmem := mem_patternsAt.2 ⟨hp, htime⟩
    exact ⟨_, mem_chartMarkers_iff.2 ⟨time, List.ne_nil_of_mem hmem, rfl⟩, rfl,
      color_groupMarker_eq_iff.2 ⟨p, hmem, htype⟩⟩

/-- The look of a marker does not depend on the order of its patterns. -/
theorem look_groupMarker_of_perm {time : ℤ} {group group' : List PatternDetection}
    (h : group.Perm group') :
    (groupMarker highlighted time group).look = (groupMarker highlighted time group').look := by
  have hall (q : PatternDetection → Bool) : group.all q = group'.all q := by
    rw [Bool.eq_iff_iff, List.all_eq_true, List.all_eq_true]
    simp only [h.mem_iff]
  have hany (q : PatternDetection → Bool) : group.any q = group'.any q := by
    rw [Bool.eq_iff_iff, List.any_eq_true, List.any_eq_true]
    simp only [h.mem_iff]
  simp only [SeriesMarker.look, groupMarker, isHighlighted, baseColor, hall, hany]
  rfl

theorem mem_map_look_of_perm {patterns' : List PatternDetection} (h : patterns.Perm patterns')
    {look : ℤ × MarkerPosition × String × MarkerShape}
    (hlook : look ∈ (chartMarkers toChartTime lastTimestamp highlighted true patterns).map
      SeriesMarker.look) :
    look ∈ (chartMarkers toChartTime lastTimestamp highlighted true patterns').map
      SeriesMarker.look := by
  obtain ⟨marker, hmarker, rfl⟩ := List.mem_map.1 hlook
  obtain ⟨time, hne, rfl⟩ := mem_chartMarkers_iff.1 hmarker
  have hgroup : (patternsAt toChartTime lastTimestamp patterns time).Perm
      (patternsAt toChartTime lastTimestamp patterns' time) := h.filter _
  have hne' : patternsAt toChartTime lastTimestamp patterns' time ≠ [] := fun hnil ↦
    hne (List.perm_nil.1 (hnil ▸ hgroup))
  exact List.mem_map.2 ⟨_, mem_chartMarkers_iff.2 ⟨time, hne', rfl⟩,
    look_groupMarker_of_perm hgroup.symm⟩

/-- **The order of the patterns is not seen**, but for the texts. -/
theorem map_look_chartMarkers_perm {patterns' : List PatternDetection}
    (h : patterns.Perm patterns') :
    (chartMarkers toChartTime lastTimestamp highlighted true patterns).map SeriesMarker.look =
      (chartMarkers toChartTime lastTimestamp highlighted true patterns').map
        SeriesMarker.look := by
  -- both lists are in the strict order of time
  refine Table.eq_of_pairwise_of_mem_iff (f := Prod.fst)
    (List.pairwise_map.2 (pairwise_chartMarkers true))
    (List.pairwise_map.2 (pairwise_chartMarkers true)) fun look ↦ ?_
  exact ⟨mem_map_look_of_perm h, mem_map_look_of_perm h.symm⟩

/-- A marker is below its candle when all patterns of its time are bullish. -/
theorem position_eq_belowBar_iff
    (h : marker ∈ chartMarkers toChartTime lastTimestamp highlighted true patterns) :
    marker.position = .belowBar ↔
      ∀ p ∈ patterns, markerTime toChartTime lastTimestamp p = marker.time → p.bullish = true := by
  obtain ⟨time, -, rfl⟩ := mem_chartMarkers_iff.1 h
  have hposition : (groupMarker highlighted time
      (patternsAt toChartTime lastTimestamp patterns time)).position = .belowBar ↔
      (patternsAt toChartTime lastTimestamp patterns time).all (·.bullish) = true := by
    show (if _ then MarkerPosition.belowBar else .aboveBar) = _ ↔ _
    split
    · next hall => exact iff_of_true rfl hall
    · next hall => exact iff_of_false (by decide) hall
  rw [hposition, List.all_eq_true]
  exact ⟨fun hall p hp htime ↦ hall p (mem_patternsAt.2 ⟨hp, htime⟩),
    fun hall p hp ↦ hall p (mem_patternsAt.1 hp).1 (mem_patternsAt.1 hp).2⟩

end Spec

/-- **The markers of a chart.** They are in the strict order of time; there is one for each time of
a pattern, with all the patterns of that time, and below the candle exactly when all of them are
bullish; a highlight marks the times of all patterns of its type; and the order of the patterns
decides on the texts only. -/
theorem chartMarkers_spec (toChartTime : String → ℤ) (lastTimestamp : ℤ)
    (highlighted : Option PatternDetection) (patterns : List PatternDetection) :
    let markers := chartMarkers toChartTime lastTimestamp highlighted true patterns
    (markers.Pairwise fun a b ↦ a.time < b.time) ∧
    (∀ marker, marker ∈ markers ↔
      ∃ time, patternsAt toChartTime lastTimestamp patterns time ≠ [] ∧
        marker = groupMarker highlighted time
          (patternsAt toChartTime lastTimestamp patterns time)) ∧
    (∀ marker ∈ markers, marker.position = .belowBar ↔
      ∀ p ∈ patterns, markerTime toChartTime lastTimestamp p = marker.time → p.bullish = true) ∧
    (∀ time, (∃ marker ∈ markers, marker.time = time ∧ marker.color = highlightColor) ↔
      ∃ p ∈ patterns, markerTime toChartTime lastTimestamp p = time ∧
        highlighted.map (·.patternType) = some p.patternType) ∧
    ∀ patterns' : List PatternDetection, patterns.Perm patterns' →
      markers.map SeriesMarker.look =
        (chartMarkers toChartTime lastTimestamp highlighted true patterns').map
          SeriesMarker.look := by
  intro markers
  exact ⟨pairwise_chartMarkers true, fun _ ↦ mem_chartMarkers_iff,
    fun _ hmarker ↦ position_eq_belowBar_iff hmarker, fun _ ↦ highlighted_iff,
    fun _ hperm ↦ map_look_chartMarkers_perm hperm⟩

end CandlestickChart

end InvestmentAssistant
