import InvestmentAssistant.Core.Mirror
import InvestmentAssistant.SignalAggregation.ThresholdCalibration

/-!
# What an outcome label says

The label of a signal depends on the first of its future candles that reaches one of the two levels,
and on nothing after it (`firstHit_eq`). So it has a declarative reading — some candle reaches this
level alone, and no earlier one reaches either —, it is final once it is known, and it is the same
on the mirrored market.
-/

namespace InvestmentAssistant

/-- Some candle reaches the level of `wins` and not that of `loses`, no earlier one reaches
either. -/
def ReachedFirst (wins loses : OHLCVData → Bool) (future : List OHLCVData) : Prop :=
  ∃ before candle after, future = before ++ candle :: after ∧
    (wins candle = true ∧ loses candle = false) ∧
    ∀ earlier ∈ before, wins earlier = false ∧ loses earlier = false

/-- No candle reaches a level, or the first one that does reaches both. -/
def Undecided (wins loses : OHLCVData → Bool) (future : List OHLCVData) : Prop :=
  (∀ candle ∈ future, wins candle = false ∧ loses candle = false) ∨
  ∃ before candle after, future = before ++ candle :: after ∧
    (wins candle = true ∧ loses candle = true) ∧
    ∀ earlier ∈ before, wins earlier = false ∧ loses earlier = false

section FirstHit

variable (direction : Direction) (stopLoss tp1 : ℚ)

/-- The candle reaches one of the levels. -/
def levelHit (candle : OHLCVData) : Bool :=
  tpHit direction tp1 candle || slHit direction stopLoss candle

/-- The label that a candle which reaches a level decides on. -/
def settledBy (candle : OHLCVData) : TransactionOutcome :=
  if slHit direction stopLoss candle && tpHit direction tp1 candle then .unknown
  else if tpHit direction tp1 candle then .tpBeforeSl
  else .slBeforeTp

/-- **The first candle that reaches a level decides.** -/
theorem firstHit_eq (future : List OHLCVData) :
    firstHit direction stopLoss tp1 future =
      ((future.find? (levelHit direction stopLoss tp1)).map
        (settledBy direction stopLoss tp1)).getD .unknown := by
  induction future with
  | nil => rfl
  | cons candle rest ih =>
    rw [firstHit, List.find?_cons, ih, levelHit]
    cases htp : tpHit direction tp1 candle <;> cases hsl : slHit direction stopLoss candle <;>
      simp [settledBy, htp, hsl]

variable {direction stopLoss tp1} {candle : OHLCVData} {future : List OHLCVData}

/-- What decides on each label: the candle reaches the one level, the other one, or both. -/
theorem settledBy_eq_tpBeforeSl_iff :
    levelHit direction stopLoss tp1 candle = true ∧
        settledBy direction stopLoss tp1 candle = .tpBeforeSl ↔
      tpHit direction tp1 candle = true ∧ slHit direction stopLoss candle = false := by
  rw [levelHit, settledBy]
  cases tpHit direction tp1 candle <;> cases slHit direction stopLoss candle <;> decide

theorem settledBy_eq_slBeforeTp_iff :
    levelHit direction stopLoss tp1 candle = true ∧
        settledBy direction stopLoss tp1 candle = .slBeforeTp ↔
      slHit direction stopLoss candle = true ∧ tpHit direction tp1 candle = false := by
  rw [levelHit, settledBy]
  cases tpHit direction tp1 candle <;> cases slHit direction stopLoss candle <;> decide

theorem settledBy_eq_unknown_iff :
    levelHit direction stopLoss tp1 candle = true ∧
        settledBy direction stopLoss tp1 candle = .unknown ↔
      tpHit direction tp1 candle = true ∧ slHit direction stopLoss candle = true := by
  rw [levelHit, settledBy]
  cases tpHit direction tp1 candle <;> cases slHit direction stopLoss candle <;> decide

/-- A label is the one a candle decides on that no candle has forestalled; unknown is also the label
of candles that reach neither level. -/
theorem firstHit_eq_iff {label : TransactionOutcome} :
    firstHit direction stopLoss tp1 future = label ↔
      (label = .unknown ∧ ∀ candle ∈ future,
        tpHit direction tp1 candle = false ∧ slHit direction stopLoss candle = false) ∨
      ∃ before candle after, future = before ++ candle :: after ∧
        (levelHit direction stopLoss tp1 candle = true ∧
          settledBy direction stopLoss tp1 candle = label) ∧
        ∀ earlier ∈ before,
          tpHit direction tp1 earlier = false ∧ slHit direction stopLoss earlier = false := by
  have hclean (candles : List OHLCVData) :
      (∀ candle ∈ candles, levelHit direction stopLoss tp1 candle = false) ↔ ∀ candle ∈ candles,
        tpHit direction tp1 candle = false ∧ slHit direction stopLoss candle = false := by
    simp only [levelHit, Bool.or_eq_false_iff]
  simp only [← hclean]
  rw [firstHit_eq]
  constructor
  · intro h
    rcases hfound : future.find? (levelHit direction stopLoss tp1) with - | candle
    · rw [hfound] at h
      exact .inl ⟨h.symm, fun candle hmem ↦
        Bool.eq_false_iff.2 (List.find?_eq_none.1 hfound candle hmem)⟩
    · rw [hfound] at h
      obtain ⟨hhit, before, after, hsplit, hbefore⟩ := List.find?_eq_some_iff_append.1 hfound
      exact .inr ⟨before, candle, after, hsplit, ⟨hhit, h⟩,
        fun earlier hmem ↦ by simpa using hbefore earlier hmem⟩
  · rintro (⟨rfl, hnone⟩ | ⟨before, candle, after, hsplit, ⟨hhit, hsettled⟩, hbefore⟩)
    · rw [List.find?_eq_none.2 fun candle hmem ↦ Bool.eq_false_iff.1 (hnone candle hmem)]
      rfl
    · have hfound : future.find? (levelHit direction stopLoss tp1) = some candle :=
        List.find?_eq_some_iff_append.2 ⟨hhit, before, after, hsplit,
          fun earlier hmem ↦ by simpa using hbefore earlier hmem⟩
      rw [hfound]
      exact hsettled

/-- **A known label is final.** -/
theorem firstHit_append (more : List OHLCVData) :
    firstHit direction stopLoss tp1 future = .unknown ∨
      firstHit direction stopLoss tp1 (future ++ more) =
        firstHit direction stopLoss tp1 future := by
  simp only [firstHit_eq, List.find?_append]
  rcases future.find? (levelHit direction stopLoss tp1) with - | candle
  · exact .inl rfl
  · exact .inr rfl

/-- The mirrored candle reaches the mirrored levels. -/
theorem slHit_mirror (centre : ℚ) :
    slHit direction.opposite (centre - stopLoss) (candle.mirror centre) =
      slHit direction stopLoss candle := by
  cases direction <;> exact decide_eq_decide.2 (sub_le_sub_iff_left centre)

theorem tpHit_mirror (centre : ℚ) :
    tpHit direction.opposite (centre - tp1) (candle.mirror centre) =
      tpHit direction tp1 candle := by
  cases direction <;> exact decide_eq_decide.2 (sub_le_sub_iff_left centre)

/-- **The other side of the mirrored market has the same label.** -/
theorem firstHit_mirror (centre : ℚ) :
    firstHit direction.opposite (centre - stopLoss) (centre - tp1)
        (future.map (OHLCVData.mirror centre)) =
      firstHit direction stopLoss tp1 future := by
  induction future with
  | nil => rfl
  | cons candle rest ih => rw [List.map_cons, firstHit, firstHit, slHit_mirror, tpHit_mirror, ih]

end FirstHit

/-- **What a label says.** The take profit is labelled first if and only if some candle reaches it
and not the stop loss, and no earlier candle reaches either; dually the stop loss; and the label is
unknown in all other cases. More candles leave a known label as it is, and so does the mirror. -/
theorem labelSignalOutcome_spec (direction : Direction) (entryPrice stopLoss tp1 : ℚ)
    (future : List OHLCVData) :
    let label (candles : List OHLCVData) := labelSignalOutcome (some direction) (some entryPrice)
      (some stopLoss) (some tp1) (some candles)
    (label future = .tpBeforeSl ↔
      ReachedFirst (tpHit direction tp1) (slHit direction stopLoss) future) ∧
    (label future = .slBeforeTp ↔
      ReachedFirst (slHit direction stopLoss) (tpHit direction tp1) future) ∧
    (label future = .unknown ↔
      Undecided (tpHit direction tp1) (slHit direction stopLoss) future) ∧
    (∀ more, label future = .unknown ∨ label (future ++ more) = label future) ∧
    ∀ centre, labelSignalOutcome (some direction.opposite) (some (centre - entryPrice))
      (some (centre - stopLoss)) (some (centre - tp1))
      (some (future.map (OHLCVData.mirror centre))) = label future := by
  intro label
  refine ⟨?_, ?_, ?_, fun more ↦ firstHit_append more, fun centre ↦ firstHit_mirror centre⟩
  · show firstHit direction stopLoss tp1 future = .tpBeforeSl ↔ _
    simp only [firstHit_eq_iff, settledBy_eq_tpBeforeSl_iff, reduceCtorEq, false_and, false_or,
      ReachedFirst]
  · show firstHit direction stopLoss tp1 future = .slBeforeTp ↔ _
    simp only [firstHit_eq_iff, settledBy_eq_slBeforeTp_iff, reduceCtorEq, false_and, false_or,
      ReachedFirst, @and_comm (slHit direction stopLoss _ = false)]
  · show firstHit direction stopLoss tp1 future = .unknown ↔ _
    simp only [firstHit_eq_iff, settledBy_eq_unknown_iff, true_and, Undecided]

end InvestmentAssistant
