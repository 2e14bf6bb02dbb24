import InvestmentAssistant.Foundation.Decimal
import InvestmentAssistant.FundamentalAnalysis.BfsCpiSource
import InvestmentAssistant.FundamentalAnalysis.CpiDecoders

/-!
# Two encodings of a list of observations

A list of months with values, written as JSON and as comma-separated values, and what the three
sources that read both make of it.

For Canada and Japan the two decoders take in the same readings, in the same order, and agree on
every list. For Switzerland the JSON decoder passes over a zero under the name `value`, as if it
were missing, and the other one does not. So the two agree exactly when the first observation of
the latest month is not such a zero (`cpi_encodings_agree_iff`).
-/

namespace InvestmentAssistant

open CharClass CollectLoop Decimal IntText Table Text

variable {F : Type}

/-! ### Periods as text -/

/-- `YYYY-MM`. -/
def Month.text (m : Month) : String :=
  String.ofList (fracDigits 4 m.year.toNat ++ '-' :: fracDigits 2 m.month.toNat)

theorem yearText?_fracDigits (m : Month) : yearText? (fracDigits 4 m.year.toNat) = some m.year := by
  have hyear := m.year_mem
  have hall : (fracDigits 4 m.year.toNat).all isDecimalDigit = true :=
    List.all_eq_true.2 fun c hc ↦ isDecimalDigit_of_mem_fracDigits hc
  have hvalue : digitsToNat (fracDigits 4 m.year.toNat) = m.year.toNat := by
    refine (foldl_fracDigits 4 m.year.toNat 0).trans ?_
    omega
  rw [yearText?, if_pos ⟨length_fracDigits _ _, hall⟩, hvalue, Int.toNat_of_nonneg (by omega)]

theorem monthText?_fracDigits (m : Month) :
    monthText? (fracDigits 2 m.month.toNat) = some m.month := by
  have hall : ∀ n : ℕ, n ∈ Finset.Icc 1 12 → monthText? (fracDigits 2 n) = some (n : ℤ) := by decide
  have hmonth := m.month_mem
  rw [hall m.month.toNat (by rw [Finset.mem_Icc]; omega), Int.toNat_of_nonneg (by omega)]

theorem monthPeriod?_text (m : Month) :
    monthPeriod? m.text.toList = some (m.year, m.month) := by
  have hlength := length_fracDigits 4 m.year.toNat
  obtain ⟨e, f, hmonth⟩ := List.length_eq_two.1 (length_fracDigits 2 m.month.toNat)
  have hperiod := monthText?_fracDigits m
  rw [hmonth] at hperiod
  rw [Month.text, String.toList_ofList, monthPeriod?, List.drop_left' hlength, hmonth]
  change yearMonth? (fracDigits 4 m.year.toNat ++ ['-', e, f]) [e, f] = _
  rw [yearMonth?, List.take_left' hlength, yearText?_fracDigits, Option.bind_some, hperiod]
  rfl

theorem of_mem_text {m : Month} {c : Char} (h : c ∈ m.text.toList) :
    isDecimalDigit c = true ∨ c = '-' := by
  rw [Month.text, String.toList_ofList, List.mem_append, List.mem_cons] at h
  rcases h with h | h | h
  · exact .inl (isDecimalDigit_of_mem_fracDigits h)
  · exact .inr h
  · exact .inl (isDecimalDigit_of_mem_fracDigits h)

theorem text_ne_empty (m : Month) : m.text ≠ "" := by
  intro h
  have := monthPeriod?_text m
  rw [h] at this
  cases this

/-! ### The encodings -/

/-- A cell that every reader of comma-separated values takes as it is. -/
structure IsCell (text : String) : Prop where
  ne_empty : text ≠ ""
  plain : ∀ c ∈ text.toList, isBlank c = false ∧ c ≠ ',' ∧ c ≠ '\"'
  length_le : text.toList.length ≤ Csv.fieldSizeLimit

theorem isCell_of_all {text : String} (hne : text ≠ "")
    (hplain : (text.toList.all fun c ↦ !isBlank c && c != ',' && c != '\"') = true)
    (hlen : text.toList.length ≤ Csv.fieldSizeLimit) : IsCell text := by
  refine ⟨hne, fun c hc ↦ ?_, hlen⟩
  have hall := List.all_eq_true.1 hplain c hc
  simpa [and_assoc] using hall

/-- A text of a float: it is read back as the float. -/
structure IsFloatText (runtime : PyRuntime F) (value : F) (text : String) : Prop
    extends IsCell text where
  ofText_eq : runtime.ofText text = some value

/-- The list as comma-separated values. -/
def csvPayload (print : F → String) (points : List (Month × F)) : String :=
  String.ofList (Csv.tableText (["TIME_PERIOD".toList, "OBS_VALUE".toList] ::
    points.map fun point ↦ [point.1.text.toList, (print point.2).toList]))

/-- The list as the Swiss office writes it in JSON, under one of the names that are looked up. -/
def bfsJson (periodName valueName : String) (points : List (Month × F)) : Json F :=
  .list (points.map fun point ↦
    .dict [(periodName, .str point.1.text), (valueName, .float point.2)])

/-- The items of the first dimension in SDMX JSON. -/
def sdmxPeriods (points : List (Month × F)) : List (Json F) :=
  points.map fun point ↦ .dict [("id", .str point.1.text)]

/-- The observations of the series in SDMX JSON. -/
def sdmxObservations (key : ℕ → String) (points : List (Month × F)) : List (String × Json F) :=
  points.zipIdx.map fun point ↦ (key point.2, .list [.float point.1.2])

/-- The list as the two SDMX services write it in JSON: the periods in the first dimension, and the
values under keys that begin with the number of the period. -/
def sdmxJson (key : ℕ → String) (points : List (Month × F)) : List (String × Json F) :=
  [("structure", .dict [("dimensions", .dict [("observation", .list
      [.dict [("id", .str "TIME_PERIOD"), ("values", .list (sdmxPeriods points))]])])]),
    ("dataSets", .list
      [.dict [("series", .dict
        [("0", .dict [("observations", .dict (sdmxObservations key points))])])]])]

theorem isCell_text (m : Month) : IsCell m.text := by
  refine ⟨text_ne_empty m, fun c hc ↦ ?_, ?_⟩
  · rcases of_mem_text hc with h | rfl
    · refine ⟨isBlank_of_isDecimalDigit h, ?_, ?_⟩
      · rintro rfl
        exact absurd h (by decide)
      · rintro rfl
        exact absurd h (by decide)
    · decide
  · rw [Month.text, String.toList_ofList, List.length_append, List.length_cons, length_fracDigits,
      length_fracDigits]
    decide

namespace IsCell

variable {text : String}

theorem strip_eq (h : IsCell text) : strip text.toList = text.toList :=
  strip_eq_self fun c hc ↦ (h.plain c hc).1

theorem isPlain (h : IsCell text) : Csv.IsPlain text.toList := by
  refine ⟨fun hnil ↦ h.ne_empty (String.toList_eq_nil_iff.1 hnil), fun c hc hspecial ↦ ?_,
    h.length_le⟩
  obtain ⟨hblank, hcomma, hquote⟩ := h.plain c hc
  simp only [List.mem_cons, List.not_mem_nil, or_false] at hspecial
  rcases hspecial with rfl | rfl | rfl | rfl
  · exact hcomma rfl
  · exact hquote rfl
  · exact absurd hblank (by decide)
  · exact absurd hblank (by decide)

end IsCell

theorem parseMonthlyPeriod_text (m : Month) : parseMonthlyPeriod m.text = .ok (some m) := by
  rw [parseMonthlyPeriod, (isCell_text m).strip_eq, monthPeriod?_text]
  dsimp only
  rw [mkDate_year_month]
  rfl

theorem isPeriodKey_text (m : Month) : isPeriodKey m.text = true := by
  have hyear := m.year_mem
  rw [isPeriodKey, monthPeriod?_text]
  exact decide_eq_true (by omega)

/-! ### Switzerland -/

section Readings

variable {runtime : PyRuntime F} {print : F → String} {points : List (Month × F)}

/-- The rows below the header are the cells of the points. -/
theorem stream_csvPayload (hcells : ∀ point ∈ points, IsCell (print point.2)) :
    Csv.stream (csvPayload print points) = (["TIME_PERIOD", "OBS_VALUE"] ::
      points.map fun point ↦ [point.1.text, print point.2], none) := by
  have hheader : IsCell "TIME_PERIOD" ∧ IsCell "OBS_VALUE" :=
    ⟨isCell_of_all (by decide) (by decide) (by decide),
      isCell_of_all (by decide) (by decide) (by decide)⟩
  rw [csvPayload, Csv.stream_tableText]
  · simp [List.map_map, Function.comp_def]
  · refine List.forall_mem_cons.2 ⟨⟨List.cons_ne_nil _ _, ?_⟩, ?_⟩
    · exact List.forall_mem_cons.2
        ⟨hheader.1.isPlain, List.forall_mem_singleton.2 hheader.2.isPlain⟩
    · refine List.forall_mem_map.2 fun point hpoint ↦ ⟨List.cons_ne_nil _ _, ?_⟩
      exact List.forall_mem_cons.2 ⟨(isCell_text point.1).isPlain,
        List.forall_mem_singleton.2 (hcells point hpoint).isPlain⟩

/-- A zero that the Swiss decoder of JSON takes for a missing value. -/
def isPassedOver (runtime : PyRuntime F) (valueName : String) (point : Month × F) : Bool :=
  decide (valueName = "value") && runtime.isZero point.2

/-- A point in JSON is read, unless its value is a zero under the name `value`. -/
theorem bfsParsePoint_encoded {periodName valueName : String} {point : Month × F}
    (hperiod : periodName ∈ ["period", "TIME_PERIOD"]) (hvalue : valueName ∈ ["value", "OBS_VALUE"])
    (hfinite : runtime.isfinite point.2 = true) :
    bfsParsePoint runtime [(periodName, .str point.1.text), (valueName, .float point.2)] =
      .ok (Option.guard (fun point ↦ !isPassedOver runtime valueName point) point) := by
  have hne := text_ne_empty point.1
  have hperiodText : ∀ value, Json.textOrEmpty runtime (Json.orElse runtime
      (List.lookup "period" [(periodName, .str point.1.text), (valueName, value)])
      (List.lookup "TIME_PERIOD" [(periodName, .str point.1.text), (valueName, value)])) =
        point.1.text := by
    intro value
    simp only [List.mem_cons, List.not_mem_nil, or_false] at hperiod hvalue
    rcases hperiod with rfl | rfl <;> rcases hvalue with rfl | rfl <;>
      simp [List.lookup_cons, Json.orElse, Json.textOrEmpty, Json.truthy, Json.text, hne]
  have hrawValue : Json.orElse runtime
      (List.lookup "value" [(periodName, .str point.1.text), (valueName, .float point.2)])
      (List.lookup "OBS_VALUE" [(periodName, .str point.1.text), (valueName, .float point.2)]) =
        if isPassedOver runtime valueName point = true then none else some (.float point.2) := by
    simp only [List.mem_cons, List.not_mem_nil, or_false] at hperiod hvalue
    rcases hperiod with rfl | rfl <;> rcases hvalue with rfl | rfl <;>
      cases hzero : runtime.isZero point.2 <;>
      simp [List.lookup_cons, Json.orElse, Json.truthy, isPassedOver, hzero]
  rw [bfsParsePoint, hperiodText, parseMonthlyPeriod_text, hrawValue, Option.guard]
  cases isPassedOver runtime valueName point with
  | true => rfl
  | false =>
    show Except.ok ((Option.filter (fun value ↦ runtime.isfinite value) (some point.2)).map
      fun value ↦ (point.1, value)) = _
    rw [Option.filter_some_pos hfinite]
    rfl

/-- The first field that is there and not empty. -/
theorem rowGetFirst_cons {header row names : List String} {name text : String}
    (h : rowGet header row name = some text) (hne : text ≠ "") :
    rowGetFirst header row (name :: names) = text := by
  have hfilter : (some text).filter (fun x ↦ decide (x ≠ "")) = some text :=
    Option.filter_some_pos (decide_eq_true hne)
  rw [rowGetFirst, List.findSome?_cons, h, hfilter]
  rfl

section Rows

variable {text : String} (aliases : List String)

/-- Of the names a decoder knows for a column, the first one is the column's. -/
theorem rowGetFirst_period (m : Month) :
    rowGetFirst ["TIME_PERIOD", "OBS_VALUE"] [m.text, text] ("TIME_PERIOD" :: aliases) =
      m.text := by
  refine rowGetFirst_cons ?_ (text_ne_empty m)
  simp [rowGet]

theorem rowGetFirst_value (period : String) (hne : text ≠ "") :
    rowGetFirst ["TIME_PERIOD", "OBS_VALUE"] [period, text] ("OBS_VALUE" :: aliases) = text := by
  refine rowGetFirst_cons ?_ hne
  simp [rowGet]

end Rows

/-- A row is read. -/
theorem bfsRowReading_encoded {point : Month × F} {text : String}
    (htext : IsFloatText runtime point.2 text) (hfinite : runtime.isfinite point.2 = true) :
    bfsRowReading runtime ["TIME_PERIOD", "OBS_VALUE"] [point.1.text, text] = .ok (some point) := by
  rw [bfsRowReading, rowGetFirst_period, rowGetFirst_value _ _ htext.ne_empty,
    parseMonthlyPeriod_text]
  simp [Except.map, htext.ofText_eq, hfinite]

/-- No row is empty. -/
theorem filter_rows (points : List (Month × F)) :
    (points.map fun point ↦ [point.1.text, print point.2]).filter (· ≠ []) =
      points.map fun point ↦ [point.1.text, print point.2] :=
  List.filter_eq_self.2 (List.forall_mem_map.2 fun _ _ ↦ decide_eq_true (List.cons_ne_nil _ _))

/-- What the Swiss decoder of comma-separated values makes of the list. -/
theorem bfsExtractFromCsv_encoded (hfinite : ∀ point ∈ points, runtime.isfinite point.2 = true)
    (hprint : ∀ point ∈ points, IsFloatText runtime point.2 (print point.2)) :
    bfsExtractFromCsv runtime (csvPayload print points) =
      .ok ((points.foldl takeLatestPoint none).map bfsObservation) := by
  have hcollect : collect (bfsRowReading runtime ["TIME_PERIOD", "OBS_VALUE"]) takeLatestPoint none
      (points.map fun point ↦ [point.1.text, print point.2]) =
        .ok ((points.filterMap some).foldl takeLatestPoint none) :=
    collect_map_eq_ok (fun point hpoint ↦
      bfsRowReading_encoded (hprint point hpoint) (hfinite point hpoint)) none
  rw [List.filterMap_some] at hcollect
  rw [bfsExtractFromCsv, stream_csvPayload fun point hpoint ↦ (hprint point hpoint).toIsCell]
  dsimp only
  rw [filter_rows, hcollect]
  rfl

/-- What the Swiss decoder of JSON makes of the list. -/
theorem bfsExtractFromJson_encoded {periodName valueName payload : String}
    (hfinite : ∀ point ∈ points, runtime.isfinite point.2 = true)
    (hperiod : periodName ∈ ["period", "TIME_PERIOD"]) (hvalue : valueName ∈ ["value", "OBS_VALUE"])
    (hpayload : runtime.decodeJson payload = .ok (bfsJson periodName valueName points)) :
    bfsExtractFromJson runtime payload =
      .ok (((points.filter fun point ↦ !isPassedOver runtime valueName point).foldl
        takeLatestPoint none).map bfsObservation) := by
  have hitems : bfsDecodeJsonPayload runtime payload = .ok (points.map fun point ↦
      [(periodName, .str point.1.text), (valueName, .float point.2)]) := by
    rw [bfsDecodeJsonPayload, hpayload]
    simp [bfsJson, Json.list?, Json.dict?, List.filterMap_map, Function.comp_def]
  have hcollect : collect (bfsParsePoint runtime) takeLatestPoint none (points.map fun point ↦
      [(periodName, .str point.1.text), (valueName, .float point.2)]) =
        .ok ((points.filterMap (Option.guard fun point ↦
          !isPassedOver runtime valueName point)).foldl takeLatestPoint none) :=
    collect_map_eq_ok (fun point hpoint ↦
      bfsParsePoint_encoded hperiod hvalue (hfinite point hpoint)) none
  rw [List.filterMap_eq_filter] at hcollect
  rw [bfsExtractFromJson, hitems]
  show (collect (bfsParsePoint runtime) takeLatestPoint none _).map (Option.map bfsObservation) = _
  rw [hcollect]
  rfl

/-! ### Canada and Japan -/

/-- The line of a point. -/
def csvLine (print : F → String) (point : Month × F) : List Char :=
  [','].intercalate [point.1.text.toList, (print point.2).toList]

theorem isBlank_of_mem_csvLine {point : Month × F} (hcell : IsCell (print point.2)) {c : Char}
    (hc : c ∈ csvLine print point) : isBlank c = false := by
  obtain rfl | ⟨cell, hmem, hc⟩ := mem_intercalate hc
  · decide
  · simp only [List.mem_cons, List.not_mem_nil, or_false] at hmem
    rcases hmem with rfl | rfl
    · exact ((isCell_text point.1).plain c hc).1
    · exact (hcell.plain c hc).1

/-- Every line boundary is a blank. -/
theorem isLineBoundary_of_isBlank {c : Char} (h : isBlank c = false) :
    isLineBoundary c = false := by
  refine decide_eq_false fun hmem ↦ Bool.eq_false_iff.1 h (decide_eq_true ?_)
  have hsubset : [0xA, 0xB, 0xC, 0xD, 0x1C, 0x1D, 0x1E, 0x85, 0x2028, 0x2029] ⊆
      [0x9, 0xA, 0xB, 0xC, 0xD, 0x1C, 0x1D, 0x1E, 0x1F, 0x20, 0x85, 0xA0, 0x1680, 0x2000, 0x2001,
        0x2002, 0x2003, 0x2004, 0x2005, 0x2006, 0x2007, 0x2008, 0x2009, 0x200A, 0x2028,
        0x2029, 0x202F, 0x205F, 0x3000] := by decide
  exact hsubset hmem

/-- The lines of the payload are those of the header and the points. -/
theorem payloadLines_csvPayload (hcells : ∀ point ∈ points, IsCell (print point.2)) :
    payloadLines (csvPayload print points) =
      "TIME_PERIOD,OBS_VALUE".toList :: points.map (csvLine print) := by
  have hblank : ∀ line ∈ "TIME_PERIOD,OBS_VALUE".toList :: points.map (csvLine print),
      ∀ c ∈ line, isBlank c = false := by
    refine List.forall_mem_cons.2
      ⟨forall_mem_eq_false (by decide), List.forall_mem_map.2 fun point hpoint c hc ↦ ?_⟩
    exact isBlank_of_mem_csvLine (hcells point hpoint) hc
  have hne : ∀ line ∈ "TIME_PERIOD,OBS_VALUE".toList :: points.map (csvLine print), line ≠ [] := by
    refine List.forall_mem_cons.2 ⟨by decide, List.forall_mem_map.2 fun point _ ↦ ?_⟩
    rw [csvLine, List.intercalate_cons_cons]
    simp
  have hsplit : (csvPayload print points).toList.splitOnP isLineBoundary =
      ("TIME_PERIOD,OBS_VALUE".toList :: points.map (csvLine print)) ++ [[]] := by
    rw [csvPayload, String.toList_ofList, Csv.splitOnP_tableText (by decide), List.map_cons,
      List.map_map]
    · rfl
    · refine List.forall_mem_cons.2
        ⟨forall_mem_eq_false (by decide), List.forall_mem_map.2 fun point hpoint c hc ↦ ?_⟩
      exact isLineBoundary_of_isBlank (isBlank_of_mem_csvLine (hcells point hpoint) hc)
  have hstrip : ("TIME_PERIOD,OBS_VALUE".toList :: points.map (csvLine print)).map strip =
      "TIME_PERIOD,OBS_VALUE".toList :: points.map (csvLine print) :=
    (List.map_congr_left fun line hline ↦ strip_eq_self (hblank line hline)).trans (List.map_id _)
  rw [payloadLines, hsplit, List.map_append, hstrip, List.filter_append, List.filter_eq_self.2]
  · exact List.append_nil _
  · exact fun line hline ↦ decide_eq_true (hne line hline)

theorem lineCells_csvLine {point : Month × F} (hcell : IsCell (print point.2)) :
    lineCells (csvLine print point) = [point.1.text, print point.2] := by
  have hcomma : ∀ cell ∈ [point.1.text.toList, (print point.2).toList], ',' ∉ cell := by
    refine List.forall_mem_cons.2 ⟨fun hmem ↦ ?_, List.forall_mem_singleton.2 fun hmem ↦ ?_⟩
    · exact ((isCell_text point.1).plain _ hmem).2.1 rfl
    · exact (hcell.plain _ hmem).2.1 rfl
  rw [lineCells, csvLine, List.splitOn_intercalate ',' hcomma (List.cons_ne_nil _ _)]
  simp [hcell.strip_eq, (isCell_text point.1).strip_eq]

/-- A line is read. -/
theorem csvReading_encoded {point : Month × F}
    (hprint : IsFloatText runtime point.2 (print point.2)) :
    csvReading runtime 0 1 (csvLine print point) = .ok (some point) := by
  rw [csvReading, lineCells_csvLine hprint.toIsCell]
  show (parseMonthlyPeriod point.1.text).map _ = _
  rw [parseMonthlyPeriod_text]
  show Except.ok ((runtime.ofText (print point.2)).map fun value ↦ (point.1, value)) = _
  rw [hprint.ofText_eq]
  rfl

/-- What the Canadian decoder of comma-separated values makes of the list. -/
theorem statCanExtractFromCsv_encoded
    (hprint : ∀ point ∈ points, IsFloatText runtime point.2 (print point.2)) :
    statCanExtractFromCsv runtime (csvPayload print points) =
      computeYoyObservation runtime.toFloatOps "statcan" (points.foldl takeReading ∅) := by
  have hlines := payloadLines_csvPayload fun point hpoint ↦ (hprint point hpoint).toIsCell
  have hheader : lineCells "TIME_PERIOD,OBS_VALUE".toList = ["TIME_PERIOD", "OBS_VALUE"] := by
    decide
  rcases points with - | ⟨point, points⟩
  · rw [statCanExtractFromCsv, csvTable, hlines]
    rfl
  have htable : csvTable (csvPayload print (point :: points)) =
      some ((0, 1), (point :: points).map (csvLine print)) := by
    rw [csvTable, hlines, List.map_cons]
    dsimp only
    rw [hheader]
    rfl
  have hcollect : collect (csvReading runtime 0 1) takeReading ∅
      ((point :: points).map (csvLine print)) =
        .ok (((point :: points).filterMap some).foldl takeReading ∅) :=
    collect_map_eq_ok (fun point hpoint ↦ csvReading_encoded (hprint point hpoint)) ∅
  rw [List.filterMap_some] at hcollect
  rw [statCanExtractFromCsv, htable]
  show observationOf runtime.toFloatOps "statcan" (csvReading runtime 0 1) _ = _
  rw [observationOf, hcollect]
  rfl

/-- Of the periods of the first dimension, a number names the one in its place. -/
theorem lastReading_zipIdx {P : Type} (f : Month × F → P) (points : List (Month × F)) (i : ℕ) :
    lastReading (points.zipIdx.map fun point ↦ ((point.2 : ℤ), f point.1)) i =
      points[i]?.map f := by
  induction points using List.reverseRecOn with
  | nil => rfl
  | append_singleton points point ih =>
    rw [List.zipIdx_append, List.map_append, lastReading, List.zipIdx_singleton, List.map_singleton,
      lastWith_concat, Nat.zero_add]
    dsimp only
    by_cases hi : points.length = i
    · subst hi
      rw [if_pos rfl, List.getElem?_concat_length]
      rfl
    · rw [if_neg (by omega)]
      refine ih.trans ?_
      rcases Nat.lt_or_gt_of_ne hi with hlt | hgt
      · rw [List.getElem?_eq_none (by omega), List.getElem?_eq_none (by simp; omega)]
      · rw [List.getElem?_append_left hgt]

/-- The items of the first dimension. -/
theorem firstDimensionValues_sdmxJson (key : ℕ → String) (points : List (Month × F)) :
    firstDimensionValues (observationDimensions (sdmxJson key points)) =
      .ok (some (sdmxPeriods points)) :=
  rfl

theorem periodText_encoded (m : Month) : periodText runtime [("id", .str m.text)] = m.text := by
  have hid : Json.textOrEmpty runtime (Json.orElse runtime
      (List.lookup "id" [("id", .str m.text)]) (List.lookup "name" [("id", .str m.text)])) =
        m.text := by
    simp [Json.orElse, Json.textOrEmpty, Json.truthy, Json.text, text_ne_empty]
  rw [periodText, hid, (isCell_text m).strip_eq, String.ofList_toList]

theorem zipIdx_sdmxPeriods (points : List (Month × F)) :
    (sdmxPeriods points).zipIdx =
      points.zipIdx.map fun point ↦ (.dict [("id", .str point.1.1.text)], point.2) := by
  rw [sdmxPeriods, List.zipIdx_map]
  exact List.map_congr_left fun _ _ ↦ rfl

theorem statCanPeriod_encoded (m : Month) (i : ℕ) :
    statCanPeriod runtime (.dict [("id", .str m.text)], i) = .ok (some ((i : ℤ), m)) := by
  rw [statCanPeriod]
  dsimp only [Json.dict?]
  rw [periodText_encoded, parseMonthlyPeriod_text]
  rfl

theorem oecdPeriod_encoded (m : Month) (i : ℕ) :
    oecdPeriod runtime (.dict [("id", .str m.text)], i) = some ((i : ℤ), m.text) := by
  rw [oecdPeriod]
  dsimp only [Json.dict?, Option.bind_some]
  rw [periodText_encoded, if_pos (isPeriodKey_text m)]

/-- An observation is read when its key begins with the number of the point. -/
theorem observationReading_encoded {P : Type} {f : Month × F → P} {periodOf : ℤ → Option P}
    {key : ℕ → String} (hkey : ∀ i < points.length, observationIndex (key i) = some (i : ℤ))
    (hperiodOf : ∀ i : ℕ, periodOf i = points[i]?.map f) {point : (Month × F) × ℕ}
    (hpoint : point ∈ points.zipIdx) :
    observationReading runtime periodOf (key point.2, .list [.float point.1.2]) =
      .ok (some (f point.1, point.1.2)) := by
  have hget := List.mem_zipIdx_iff_getElem?.1 hpoint
  obtain ⟨hlt, -⟩ := List.getElem?_eq_some_iff.1 hget
  rw [observationReading, hkey point.2 hlt, Option.bind_some, hperiodOf, hget]
  rfl

/-- A loop over the observations takes in the points. -/
theorem collect_sdmxObservations {P σ : Type} {f : Month × F → P} {key : ℕ → String}
    {reading : String × Json F → Except PyException (Option (P × F))} {take : σ → P × F → σ}
    (hreading : ∀ point ∈ points.zipIdx, reading (key point.2, .list [.float point.1.2]) =
      .ok (some (f point.1, point.1.2))) (s : σ) :
    collect reading take s (sdmxObservations key points) =
      .ok ((points.map fun point ↦ (f point, point.2)).foldl take s) := by
  have hcollect : collect reading take s (sdmxObservations key points) =
      .ok ((points.zipIdx.filterMap fun point ↦ some (f point.1, point.1.2)).foldl take s) :=
    collect_map_eq_ok hreading s
  have hpoints : points.zipIdx.filterMap (fun point ↦ some (f point.1, point.1.2)) =
      points.map fun point ↦ (f point, point.2) := by
    rw [List.filterMap_eq_map']
    conv_rhs => rw [← List.zipIdx_map_fst 0 points, List.map_map]
    rfl
  rw [hcollect, hpoints]

/-- The period map of the Canadian decoder. -/
theorem buildPeriodMap_encoded (key : ℕ → String) :
    ∃ periodMap, buildPeriodMap runtime (sdmxJson key points) = .ok periodMap ∧
      ∀ i : ℕ, periodMap.lookup (i : ℤ) = points[i]?.map Prod.fst := by
  have hcollect : collect (statCanPeriod runtime) takeReading ∅ (sdmxPeriods points).zipIdx =
      .ok ((points.zipIdx.map fun point ↦ ((point.2 : ℤ), point.1.1)).foldl takeReading ∅) := by
    rw [zipIdx_sdmxPeriods]
    conv_rhs => rw [← List.filterMap_eq_map']
    have hperiod : ∀ point ∈ points.zipIdx,
        statCanPeriod runtime (.dict [("id", .str point.1.1.text)], point.2) =
          .ok (some ((point.2 : ℤ), point.1.1)) :=
      fun point _ ↦ statCanPeriod_encoded point.1.1 point.2
    exact collect_map_eq_ok hperiod _
  refine ⟨_, hcollect, fun i ↦ ?_⟩
  exact (congrFun (lookup_foldl_takeReading _) (i : ℤ)).trans
    (lastReading_zipIdx Prod.fst points i)

/-- What the Canadian decoder of JSON makes of the list. -/
theorem statCanExtractFromJson_encoded {key : ℕ → String} {payload : String}
    (hkey : ∀ i < points.length, observationIndex (key i) = some (i : ℤ))
    (hpayload : runtime.decodeJson payload = .ok (.dict (sdmxJson key points))) :
    statCanExtractFromJson runtime payload =
      computeYoyObservation runtime.toFloatOps "statcan" (points.foldl takeReading ∅) := by
  obtain ⟨periodMap, hmap, hlookup⟩ :
      ∃ periodMap, buildPeriodMap runtime (sdmxJson key points) = .ok periodMap ∧
        ∀ i : ℕ, periodMap.lookup (i : ℤ) = points[i]?.map Prod.fst :=
    buildPeriodMap_encoded key
  have hcollect : collect (observationReading runtime periodMap.lookup) takeReading ∅
      (sdmxObservations key points) = .ok ((points.map fun p ↦ (p.1, p.2)).foldl takeReading ∅) :=
    collect_sdmxObservations (fun _ hpoint ↦ observationReading_encoded hkey hlookup hpoint) ∅
  rw [show (points.map fun p ↦ (p.1, p.2)) = points from List.map_id points] at hcollect
  rw [statCanExtractFromJson, extractFromText, decodeObject, hpayload]
  show statCanExtractFromObject runtime (sdmxJson key points) = _
  rw [statCanExtractFromObject, hmap]
  show observationOf runtime.toFloatOps "statcan" (observationReading runtime periodMap.lookup)
    (sdmxObservations key points) = _
  rw [observationOf, hcollect]
  rfl

/-- A row is read by the Japanese decoder. -/
theorem rowReading_encoded {point : Month × F} {text : String}
    (htext : IsFloatText runtime point.2 text) (hfinite : runtime.isfinite point.2 = true) :
    rowReading runtime ["TIME_PERIOD", "OBS_VALUE"] [point.1.text, text] =
      some (point.1.text, point.2) := by
  rw [rowReading, rowGetFirst_period, rowGetFirst_value _ _ htext.ne_empty,
    (isCell_text point.1).strip_eq, htext.strip_eq, String.ofList_toList, String.ofList_toList,
    if_pos (isPeriodKey_text point.1), htext.ofText_eq, Option.bind_some, if_pos hfinite]

/-- What the Japanese decoder of comma-separated values makes of the list. -/
theorem parseCsvPayload_encoded (hfinite : ∀ point ∈ points, runtime.isfinite point.2 = true)
    (hprint : ∀ point ∈ points, IsFloatText runtime point.2 (print point.2)) :
    parseCsvPayload runtime (csvPayload print points) =
      .ok ((points.map fun point ↦ (point.1.text, point.2)).foldl takeLatest ("", none)).2 := by
  have hreadings : (points.map fun point ↦ [point.1.text, print point.2]).filterMap
      (rowReading runtime ["TIME_PERIOD", "OBS_VALUE"]) =
        points.map fun point ↦ (point.1.text, point.2) := by
    rw [List.filterMap_map, ← List.filterMap_eq_map']
    refine List.filterMap_congr fun point hpoint ↦ ?_
    rw [Function.comp_apply, rowReading_encoded (hprint point hpoint) (hfinite point hpoint)]
  have hstream : Csv.stream (csvPayload print points) = (["TIME_PERIOD", "OBS_VALUE"] ::
      points.map fun point ↦ [point.1.text, print point.2], none) :=
    stream_csvPayload fun point hpoint ↦ (hprint point hpoint).toIsCell
  have hrecords := Csv.records_eq_of_stream hstream
  rw [parseCsvPayload, hrecords]
  show Except.ok
    ((((points.map fun point ↦ [point.1.text, print point.2]).filter (· ≠ [])).filterMap
      (rowReading runtime ["TIME_PERIOD", "OBS_VALUE"])).foldl takeLatest ("", none)).2 = _
  rw [filter_rows, hreadings]

/-- What the Japanese decoder of JSON makes of the list. -/
theorem parseSdmxJsonPayload_encoded {key : ℕ → String} {payload : String}
    (hfinite : ∀ point ∈ points, runtime.isfinite point.2 = true)
    (hkey : ∀ i < points.length, observationIndex (key i) = some (i : ℤ))
    (hpayload : runtime.decodeJson payload = .ok (.dict (sdmxJson key points))) :
    parseSdmxJsonPayload runtime payload =
      .ok ((points.map fun point ↦ (point.1.text, point.2)).foldl takeLatest ("", none)).2 := by
  have hperiodOf : ∀ i : ℕ, oecdPeriodOf runtime (sdmxPeriods points) i =
      points[i]?.map fun point ↦ point.1.text := by
    intro i
    have hperiods : (sdmxPeriods points).zipIdx.filterMap (oecdPeriod runtime) =
        points.zipIdx.map fun point ↦ ((point.2 : ℤ), point.1.1.text) := by
      rw [zipIdx_sdmxPeriods, List.filterMap_map, ← List.filterMap_eq_map']
      refine List.filterMap_congr fun point _ ↦ ?_
      rw [Function.comp_apply, oecdPeriod_encoded]
    rw [oecdPeriodOf, hperiods]
    exact lastReading_zipIdx (fun point ↦ point.1.text) points i
  have hreading : ∀ point ∈ points.zipIdx, oecdReading runtime (oecdPeriodOf runtime
      (sdmxPeriods points)) (key point.2, .list [.float point.1.2]) =
        .ok (some (point.1.1.text, point.1.2)) := by
    intro point hpoint
    have hmem : point.1 ∈ points := List.mem_of_getElem? (List.mem_zipIdx_iff_getElem?.1 hpoint)
    rw [oecdReading, observationReading_encoded hkey hperiodOf hpoint]
    show Except.ok ((some (point.1.1.text, point.1.2)).filter fun reading ↦
      runtime.isfinite reading.2) = _
    exact congrArg Except.ok (Option.filter_some_pos (hfinite point.1 hmem))
  have hcollect : collect (oecdReading runtime (oecdPeriodOf runtime (sdmxPeriods points)))
      takeLatest ("", none) (sdmxObservations key points) =
        .ok ((points.map fun point ↦ (point.1.text, point.2)).foldl takeLatest ("", none)) :=
    collect_sdmxObservations (f := fun point ↦ point.1.text) hreading _
  rw [parseSdmxJsonPayload, extractFromText, decodeObject, hpayload]
  show oecdLatestValue runtime (sdmxJson key points) _ = _
  rw [oecdLatestValue, firstDimensionValues_sdmxJson]
  show (collect (oecdReading runtime (oecdPeriodOf runtime (sdmxPeriods points))) takeLatest
    ("", none) (sdmxObservations key points)).map Prod.snd = _
  rw [hcollect]
  rfl

/-- **When the two encodings decode alike.** For every list of months with finite values: the Swiss
decoders agree exactly when the first observation of the latest month is not a zero that JSON has
under the name `value`, and the Canadian and the Japanese decoders always agree. -/
theorem cpi_encodings_agree_iff {key : ℕ → String} {periodName valueName bfsText sdmxText : String}
    (hfinite : ∀ point ∈ points, runtime.isfinite point.2 = true)
    (hprint : ∀ point ∈ points, IsFloatText runtime point.2 (print point.2))
    (hkey : ∀ i < points.length, observationIndex (key i) = some (i : ℤ))
    (hperiod : periodName ∈ ["period", "TIME_PERIOD"]) (hvalue : valueName ∈ ["value", "OBS_VALUE"])
    (hbfs : runtime.decodeJson bfsText = .ok (bfsJson periodName valueName points))
    (hsdmx : runtime.decodeJson sdmxText = .ok (.dict (sdmxJson key points))) :
    (bfsExtractFromJson runtime bfsText = bfsExtractFromCsv runtime (csvPayload print points) ∧
      statCanExtractFromJson runtime sdmxText =
        statCanExtractFromCsv runtime (csvPayload print points) ∧
      parseSdmxJsonPayload runtime sdmxText = parseCsvPayload runtime (csvPayload print points)) ↔
      (valueName = "value" →
        ∀ point, IsFirstLatest points point → runtime.isZero point.2 = false) := by
  have hstatCan := (statCanExtractFromJson_encoded hkey hsdmx).trans
    (statCanExtractFromCsv_encoded hprint).symm
  have hoecd := (parseSdmxJsonPayload_encoded hfinite hkey hsdmx).trans
    (parseCsvPayload_encoded hfinite hprint).symm
  rw [and_iff_left ⟨hstatCan, hoecd⟩, bfsExtractFromJson_encoded hfinite hperiod hvalue hbfs,
    bfsExtractFromCsv_encoded hfinite hprint, Except.ok.injEq,
    (Option.map_injective bfsObservation_injective).eq_iff, foldl_takeLatestPoint_filter_iff]
  simp only [isPassedOver, Bool.not_eq_true', Bool.and_eq_false_imp, decide_eq_true_eq]
  exact ⟨fun h hname point hpoint ↦ h point hpoint hname,
    fun h point hpoint hname ↦ h hname point hpoint⟩

end Readings

/-! ### Two lists -/

theorem year_2025 : (1 : ℤ) ≤ 2025 ∧ (2025 : ℤ) ≤ 9999 := by decide
theorem march_mem : (1 : ℤ) ≤ 3 ∧ (3 : ℤ) ≤ 12 := by decide
theorem april_mem : (1 : ℤ) ≤ 4 ∧ (4 : ℤ) ≤ 12 := by decide

/-- Two months with whole values. -/
def twoMonths (value : ℚ) : List (Month × ℚ) :=
  [(⟨2025, 3, year_2025, march_mem⟩, 1), (⟨2025, 4, year_2025, april_mem⟩, value)]

/-- The text of a whole value. -/
def printWhole (value : ℚ) : String :=
  toString value.num

/-- The text that the Swiss office has for them. -/
def bfsText (value : String) : String :=
  "[\x7b\"period\": \"2025-03\", \"value\": 1.0\x7d, " ++
    "\x7b\"period\": \"2025-04\", \"value\": " ++ value ++ "\x7d]"

/-- The text that the SDMX services have for them. -/
def sdmxText (value : String) : String :=
  "\x7b\"structure\": \x7b\"dimensions\": \x7b\"observation\": [\x7b\"id\": \"TIME_PERIOD\", " ++
    "\"values\": [\x7b\"id\": \"2025-03\"\x7d, \x7b\"id\": \"2025-04\"\x7d]\x7d]\x7d\x7d, " ++
    "\"dataSets\": [\x7b\"series\": \x7b\"0\": \x7b\"observations\": \x7b\"0\": [1.0], \"1\": [" ++
    value ++ "]\x7d\x7d\x7d\x7d]\x7d"

/-- A JSON decoder that knows these texts. -/
def decodeTwoMonths (text : String) : Except PyException (Json ℚ) :=
  if text = bfsText "2.0" then .ok (bfsJson "period" "value" (twoMonths 2))
  else if text = bfsText "0.0" then .ok (bfsJson "period" "value" (twoMonths 0))
  else if text = sdmxText "2.0" then .ok (.dict (sdmxJson toString (twoMonths 2)))
  else .error (.valueError "invalid JSON")

/-- A runtime with this decoder. -/
def twoMonthsRuntime : PyRuntime ℚ :=
  { exactRuntime with decodeJson := decodeTwoMonths }

theorem twoMonthsRuntime_decodeJson : twoMonthsRuntime.decodeJson = decodeTwoMonths := rfl

/-- All decoders agree on two values that are not zero. -/
theorem cpi_encodings_agree_twoMonths :
    bfsExtractFromJson twoMonthsRuntime (bfsText "2.0") =
      bfsExtractFromCsv twoMonthsRuntime (csvPayload printWhole (twoMonths 2)) ∧
    statCanExtractFromJson twoMonthsRuntime (sdmxText "2.0") =
      statCanExtractFromCsv twoMonthsRuntime (csvPayload printWhole (twoMonths 2)) ∧
    parseSdmxJsonPayload twoMonthsRuntime (sdmxText "2.0") =
      parseCsvPayload twoMonthsRuntime (csvPayload printWhole (twoMonths 2)) := by
  have hprint : ∀ point ∈ twoMonths 2,
      IsFloatText twoMonthsRuntime point.2 (printWhole point.2) := by
    refine List.forall_mem_cons.2 ⟨?_, List.forall_mem_singleton.2 ?_⟩
    · exact ⟨isCell_of_all (by decide) (by decide) (by decide),
        by decide⟩
    · exact ⟨isCell_of_all (by decide) (by decide) (by decide),
        by decide⟩
  have hkey : ∀ i < (twoMonths 2).length, observationIndex (toString i) = some (i : ℤ) := by
    decide
  have hbfs : twoMonthsRuntime.decodeJson (bfsText "2.0") =
      .ok (bfsJson "period" "value" (twoMonths 2)) := by
    rw [twoMonthsRuntime_decodeJson, decodeTwoMonths, if_pos rfl]
  have hsdmx : twoMonthsRuntime.decodeJson (sdmxText "2.0") =
      .ok (.dict (sdmxJson toString (twoMonths 2))) := by
    rw [twoMonthsRuntime_decodeJson, decodeTwoMonths, if_neg (by decide),
      if_neg (by decide), if_pos rfl]
  refine (cpi_encodings_agree_iff (fun _ _ ↦ rfl) hprint hkey (by decide) (by decide) hbfs
    hsdmx).2 fun _ point hpoint ↦ ?_
  have hnonzero : ∀ point ∈ twoMonths 2, twoMonthsRuntime.isZero point.2 = false := by
    decide
  exact hnonzero point hpoint.mem

/-- **A zero in the latest month.** The comma-separated values give the zero of April, and the JSON
list of the same two observations gives the value of March. -/
theorem zero_passed_over :
    twoMonthsRuntime.decodeJson (bfsText "0.0") = .ok (bfsJson "period" "value" (twoMonths 0)) ∧
    csvPayload printWhole (twoMonths 0) = "TIME_PERIOD,OBS_VALUE\n2025-03,1\n2025-04,0\n" ∧
    bfsExtractFromJson twoMonthsRuntime (bfsText "0.0") ≠
      bfsExtractFromCsv twoMonthsRuntime (csvPayload printWhole (twoMonths 0)) := by
  have hdecode : twoMonthsRuntime.decodeJson (bfsText "0.0") =
      .ok (bfsJson "period" "value" (twoMonths 0)) := by
    rw [twoMonthsRuntime_decodeJson, decodeTwoMonths, if_neg (by decide), if_pos rfl]
  refine ⟨hdecode, by decide, ?_⟩
  have hjson : bfsExtractFromJson twoMonthsRuntime (bfsText "0.0") =
      .ok (some (bfsObservation (⟨2025, 3, year_2025, march_mem⟩, 1))) := by decide
  have hcsv : bfsExtractFromCsv twoMonthsRuntime (csvPayload printWhole (twoMonths 0)) =
      .ok (some (bfsObservation (⟨2025, 4, year_2025, april_mem⟩, 0))) := by decide
  rw [hjson, hcsv]
  decide

end InvestmentAssistant
