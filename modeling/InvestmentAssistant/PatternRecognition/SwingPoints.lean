import InvestmentAssistant.Foundation.LocalExtrema
import InvestmentAssistant.PatternRecognition.LevelDetection

/-!
# Swing points

What the detectors rely on `argrelextrema` for: it keeps the indices whose value compares with every
value up to `order` places away (`ReturnsSwingPoints`). Places beyond an end are clipped to it,
which asks for nothing new, so these are the local extrema of the series (`swingPoint_iff`).
-/

namespace InvestmentAssistant

open LocalExtrema

/-- `argrelextrema` as documented: an index is kept when its value compares with every value up to
`order` places away, places beyond an end being read as the end. -/
def clippedExtrema : Extrema := fun compare data order ↦
  if order < 1 then .error (.valueError "Order must be an int >= 1")
  else
    let at_ (i : ℤ) : ℚ := data.getD (min (max i 0).toNat (data.length - 1)) 0
    .ok ((List.range data.length).filter fun i ↦ (List.range order.toNat).all fun k ↦
      compare (at_ i) (at_ (i + (k + 1))) && compare (at_ i) (at_ (i - (k + 1))))

/-- The value at `i` compares with every value up to `order` places away, places beyond an end being
clipped to it. -/
def SwingPoint (compare : ℚ → ℚ → Bool) (data : List ℚ) (order i : ℕ) : Prop :=
  i < data.length ∧ ∀ k, 0 < k → k ≤ order →
    compare (data.getD i 0) (data.getD (min (i + k) (data.length - 1)) 0) = true ∧
    compare (data.getD i 0) (data.getD (i - k) 0) = true

/-- `argrelextrema(data, np.greater_equal, order=5)[0]`, and the same with `np.less_equal`, are the
indices of the swing points in their order. -/
def ReturnsSwingPoints (argrelextrema : Extrema) : Prop :=
  ∀ compare, compare = greaterEqual ∨ compare = lessEqual → ∀ data, ∃ idx,
    argrelextrema compare data 5 = .ok idx ∧ idx.Pairwise (· < ·) ∧
      ∀ i, i ∈ idx ↔ SwingPoint compare data 5 i

/-- **Swing points are local extrema.** -/
theorem swingPoint_iff {compare : ℚ → ℚ → Bool} {r : ℚ → ℚ → Prop} [Std.Refl r]
    (hr : ∀ a b, compare a b = true ↔ r a b) {data : List ℚ} {order i : ℕ} :
    SwingPoint compare data order i ↔ IsExtremum r (data.getD · 0) data.length order i := by
  simp only [SwingPoint, IsExtremum, hr]
  refine and_congr_right fun hi ↦ ⟨fun h j hj hji hij ↦ ?_, fun h k hk hko ↦ ⟨?_, ?_⟩⟩
  · rcases lt_trichotomy j i with hlt | rfl | hlt
    · have hback := (h (i - j) (by omega) (by omega)).2
      rwa [show i - (i - j) = j by omega] at hback
    · exact refl_of r _
    · have hforth := (h (j - i) (by omega) (by omega)).1
      rwa [show min (i + (j - i)) (data.length - 1) = j by omega] at hforth
  · exact h _ (by omega) (by omega) (by omega)
  · exact h _ (by omega) (by omega) (by omega)

/-- The clipped extrema are the swing points. -/
theorem returnsSwingPoints_clippedExtrema : ReturnsSwingPoints clippedExtrema := by
  intro compare _ data
  refine ⟨_, rfl, List.pairwise_lt_range.filter _, fun i ↦ ?_⟩
  simp only [List.mem_filter, List.mem_range, List.all_eq_true, Bool.and_eq_true]
  refine and_congr_right fun hi ↦ ?_
  have hself : min (max (i : ℤ) 0).toNat (data.length - 1) = i := by omega
  have hforth (k : ℕ) : min (max ((i : ℤ) + (k + 1)) 0).toNat (data.length - 1) =
      min (i + (k + 1)) (data.length - 1) := by
    omega
  have hback (k : ℕ) : min (max ((i : ℤ) - (k + 1)) 0).toNat (data.length - 1) = i - (k + 1) := by
    omega
  simp only [hself, hforth, hback]
  constructor
  · intro h k hk hko
    obtain ⟨k, rfl⟩ := Nat.exists_eq_add_of_lt hk
    exact h _ (by omega)
  · intro h k hk
    exact h (k + 1) (Nat.succ_pos k) (by omega)

end InvestmentAssistant
