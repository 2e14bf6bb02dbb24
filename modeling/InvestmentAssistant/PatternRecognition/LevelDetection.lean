import InvestmentAssistant.Core.Models
import InvestmentAssistant.Foundation.Decimal

/-!
# What the level detectors share

A level detector works on a price series with `argrelextrema` of a third-party package, which stands
as a parameter (`Extrema`): it takes the comparison, the series and the order, and gives the indices
of the local extrema, or raises.

The detectors return patterns, and a pattern carries its level price only inside its description. A
`LevelDetection` is such a pattern together with the price it was made for, so that what is printed
can be compared with what is read back; the source's return value is its `pattern`.
-/

namespace InvestmentAssistant

/-- `argrelextrema(data, comparator, order=order)[0]`. -/
abbrev Extrema := (ℚ → ℚ → Bool) → List ℚ → ℤ → Except PyException (List ℕ)

/-- `np.greater_equal`. -/
def greaterEqual (a b : ℚ) : Bool :=
  decide (b ≤ a)

/-- `np.less_equal`. -/
def lessEqual (a b : ℚ) : Bool :=
  decide (a ≤ b)

/-- `xs[i]`. -/
def itemAt {α : Type} (xs : List α) (i : ℕ) : Except PyException α :=
  match xs[i]? with
  | some x => .ok x
  | none => .error .indexError

/-- `xs[-1]`. -/
def lastItem {α : Type} (xs : List α) : Except PyException α :=
  match xs.getLast? with
  | some x => .ok x
  | none => .error .indexError

theorem lastItem_eq_ok_iff {α : Type} {xs : List α} {x : α} :
    lastItem xs = .ok x ↔ xs.getLast? = some x := by
  rw [lastItem]
  cases xs.getLast? with
  | none => exact iff_of_false (by simp) (by simp)
  | some last => rw [Except.ok.injEq, Option.some.injEq]

/-- `a / b` of two `float`s. -/
def floatDiv (a b : ℚ) : Except PyException ℚ :=
  if b = 0 then .error .zeroDivisionError else .ok (a / b)

/-- The close of the last candle. -/
def currentClose (ohlcv : List OHLCVData) : Except PyException ℚ :=
  lastItem (ohlcv.map (·.close))

/-- What a level is taken from. -/
inductive LevelSource
  | cluster
  | ema
  | retracement
  deriving DecidableEq, Repr

/-- A pattern with the level price it was made for. -/
structure LevelDetection where
  source : LevelSource
  level : ℚ
  pattern : PatternDetection
  deriving DecidableEq

/-- A validated pattern, with its level. -/
def LevelDetection.build (source : LevelSource) (level : ℚ) (fields : PatternFields) :
    Except PyException LevelDetection :=
  fields.validate.map fun pattern ↦ ⟨source, level, pattern⟩

/-- What is built has the given source, level and fields. -/
theorem LevelDetection.of_build {source : LevelSource} {level : ℚ} {fields : PatternFields}
    {d : LevelDetection} (h : LevelDetection.build source level fields = .ok d) :
    d.source = source ∧ d.level = level ∧ d.pattern.toPatternFields = fields := by
  unfold LevelDetection.build at h
  cases hv : fields.validate with
  | error e =>
    rw [hv] at h
    exact nomatch h
  | ok p =>
    rw [hv] at h
    cases h
    exact ⟨rfl, rfl, PatternFields.toPatternFields_of_validate hv⟩

/-- A completed pass over a list built each of its results from an element. -/
theorem exists_of_mem_of_mapM_eq_ok {α β : Type} {f : α → Except PyException β} {xs : List α}
    {ys : List β} (h : xs.mapM f = .ok ys) {y : β} (hy : y ∈ ys) : ∃ x ∈ xs, f x = .ok y :=
  exists_mem_of_forall₂ (mapM_eq_ok_iff.1 h) hy

end InvestmentAssistant
