import Mathlib.Data.List.ReduceOption
import InvestmentAssistant.Core.Mirror
import InvestmentAssistant.TechnicalAnalysis.PivotPoints

/-!
# The geometry of the pivot points

The supports of a set of pivot points are below its resistances, each one further out than the one
before, and the pivot point is between the first two; only Camarilla, which builds its levels around
the close, may leave it outside. Turning the candle upside down turns each set upside down.

Both are facts about the points in exact arithmetic before they are rounded (`exactPivotPoints`).
Rounding to five decimals keeps the order; it does not commute with a reflection, because a tie goes
to the even digit on both sides. The arithmetic of doubles keeps neither: two levels that differ by
less than its own error may change places.
-/

namespace InvestmentAssistant

open Decimal

/-! ### The points before they are rounded -/

/-- A set of pivot points with all levels. -/
def fullPivots (type : PivotType) (pp r1 s1 r2 s2 r3 s3 : ℚ) : PivotPoints :=
  ⟨type, some pp, some s1, some s2, some s3, some r1, some r2, some r3⟩

/-- `_classic`, unrounded. -/
def exactClassic (h lo c : ℚ) : PivotPoints :=
  let pp := (h + lo + c) / 3
  fullPivots .classic pp (2 * pp - lo) (2 * pp - h) (pp + (h - lo)) (pp - (h - lo))
    (h + 2 * (pp - lo)) (lo - 2 * (h - pp))

/-- `_fibonacci`, unrounded. -/
def exactFibonacci (h lo c : ℚ) : PivotPoints :=
  let pp := (h + lo + c) / 3
  let diff := h - lo
  fullPivots .fibonacci pp (pp + 0.382 * diff) (pp - 0.382 * diff) (pp + 0.618 * diff)
    (pp - 0.618 * diff) (pp + diff) (pp - diff)

/-- `_camarilla`, unrounded. -/
def exactCamarilla (h lo c : ℚ) : PivotPoints :=
  let pp := (h + lo + c) / 3
  let diff := h - lo
  fullPivots .camarilla pp (c + 1.1 * diff / 12) (c - 1.1 * diff / 12) (c + 1.1 * diff / 6)
    (c - 1.1 * diff / 6) (c + 1.1 * diff / 4) (c - 1.1 * diff / 4)

/-- `_woodie`, unrounded. -/
def exactWoodie (h lo c : ℚ) : PivotPoints :=
  let pp := (h + lo + 2 * c) / 4
  fullPivots .woodie pp (2 * pp - lo) (2 * pp - h) (pp + (h - lo)) (pp - (h - lo))
    (h + 2 * (pp - lo)) (lo - 2 * (h - pp))

/-- The `x` of `_demark`. -/
def demarkX (h lo c o : ℚ) : ℚ :=
  if c < o then h + 2 * lo + c else if o < c then 2 * h + lo + c else h + lo + 2 * c

/-- `_demark`, unrounded. -/
def exactDemark (h lo c o : ℚ) : PivotPoints :=
  { type := .demark
    pp := some (demarkX h lo c o / 4)
    r1 := some (demarkX h lo c o / 2 - lo)
    s1 := some (demarkX h lo c o / 2 - h) }

/-- The five sets of pivot points of a candle, unrounded. -/
def exactPivotPoints (candle : OHLCVData) : List PivotPoints :=
  [exactClassic candle.high candle.low candle.close,
    exactFibonacci candle.high candle.low candle.close,
    exactCamarilla candle.high candle.low candle.close,
    exactWoodie candle.high candle.low candle.close,
    exactDemark candle.high candle.low candle.close candle.open_]

namespace PivotPoints

/-- The points with every level rounded to five decimals. -/
def rounded (p : PivotPoints) : PivotPoints where
  type := p.type
  pp := p.pp.map (roundTo 5)
  s1 := p.s1.map (roundTo 5)
  s2 := p.s2.map (roundTo 5)
  s3 := p.s3.map (roundTo 5)
  r1 := p.r1.map (roundTo 5)
  r2 := p.r2.map (roundTo 5)
  r3 := p.r3.map (roundTo 5)

/-- The points upside down: a support becomes the resistance of the same rank. -/
def mirror (centre : ℚ) (p : PivotPoints) : PivotPoints where
  type := p.type
  pp := p.pp.map (centre - ·)
  s1 := p.r1.map (centre - ·)
  s2 := p.r2.map (centre - ·)
  s3 := p.r3.map (centre - ·)
  r1 := p.s1.map (centre - ·)
  r2 := p.s2.map (centre - ·)
  r3 := p.s3.map (centre - ·)

/-- The levels that are defined, from the lowest support to the highest resistance. -/
def levels (p : PivotPoints) : List ℚ :=
  [p.s3, p.s2, p.s1, p.r1, p.r2, p.r3].reduceOption

/-- The pivot point between the first support and the first resistance. -/
def centrePoints (p : PivotPoints) : List ℚ :=
  [p.s1, p.pp, p.r1].reduceOption

/-- **What the points of one set promise**: the levels are in their order, and outside Camarilla the
pivot point is in the middle. -/
structure Ordered (p : PivotPoints) : Prop where
  levels_le : p.levels.Pairwise (· ≤ ·)
  centre_le : p.type ≠ .camarilla → p.centrePoints.Pairwise (· ≤ ·)

end PivotPoints

/-- In exact arithmetic, `calculate_pivot_points` rounds the points of the candle. -/
theorem calculatePivotPoints_eq (candle : OHLCVData) :
    calculatePivotPoints candle.high candle.low candle.close candle.open_ =
      (exactPivotPoints candle).map PivotPoints.rounded :=
  rfl

/-! ### The order -/

section Order

variable {p : PivotPoints}

/-- Rounding keeps an order. -/
theorem pairwise_map_roundTo {d : ℕ} {xs : List ℚ} (h : xs.Pairwise (· ≤ ·)) :
    (xs.map (roundTo d)).Pairwise (· ≤ ·) :=
  h.map _ fun _ _ hle ↦ roundTo_mono d hle

theorem PivotPoints.levels_rounded (p : PivotPoints) :
    p.rounded.levels = p.levels.map (roundTo 5) :=
  List.reduceOption_map (l := [p.s3, p.s2, p.s1, p.r1, p.r2, p.r3])

theorem PivotPoints.centrePoints_rounded (p : PivotPoints) :
    p.rounded.centrePoints = p.centrePoints.map (roundTo 5) :=
  List.reduceOption_map (l := [p.s1, p.pp, p.r1])

theorem PivotPoints.Ordered.rounded (h : p.Ordered) : p.rounded.Ordered where
  levels_le := p.levels_rounded ▸ pairwise_map_roundTo h.levels_le
  centre_le htype := p.centrePoints_rounded ▸ pairwise_map_roundTo (h.centre_le htype)

variable {type : PivotType} {pp r1 s1 r2 s2 r3 s3 : ℚ}

/-- A full set is in order when each step outwards is. -/
theorem ordered_fullPivots (hs3 : s3 ≤ s2) (hs2 : s2 ≤ s1) (hs1r1 : s1 ≤ r1) (hr1 : r1 ≤ r2)
    (hr2 : r2 ≤ r3) (hcentre : type ≠ .camarilla → s1 ≤ pp ∧ pp ≤ r1) :
    (fullPivots type pp r1 s1 r2 s2 r3 s3).Ordered where
  levels_le := by
    show [s3, s2, s1, r1, r2, r3].Pairwise (· ≤ ·)
    exact List.isChain_iff_pairwise.1 (by simp [hs3, hs2, hs1r1, hr1, hr2])
  centre_le htype := by
    show [s1, pp, r1].Pairwise (· ≤ ·)
    exact List.isChain_iff_pairwise.1 (by simp [hcentre htype])

variable {h lo c o : ℚ}

/-- Classic and Woodie use the same levels around a pivot point within the candle. -/
theorem ordered_fullPivots_of_mem (htype : lo ≤ pp ∧ pp ≤ h) :
    (fullPivots type pp (2 * pp - lo) (2 * pp - h) (pp + (h - lo)) (pp - (h - lo))
      (h + 2 * (pp - lo)) (lo - 2 * (h - pp))).Ordered := by
  obtain ⟨hlow, hhigh⟩ := htype
  refine ordered_fullPivots ?_ ?_ ?_ ?_ ?_ fun _ ↦ ⟨?_, ?_⟩ <;> linarith

/-- Levels at three growing distances on both sides of a price. -/
theorem ordered_fullPivots_of_distances {x d1 d2 d3 : ℚ} (h0 : 0 ≤ d1) (h1 : d1 ≤ d2)
    (h2 : d2 ≤ d3) (hcentre : type ≠ .camarilla → x = pp) :
    (fullPivots type pp (x + d1) (x - d1) (x + d2) (x - d2) (x + d3) (x - d3)).Ordered := by
  refine ordered_fullPivots ?_ ?_ ?_ ?_ ?_ fun htype ↦ ?_
  · linarith
  · linarith
  · linarith
  · linarith
  · linarith
  · rw [hcentre htype]
    constructor <;> linarith

theorem ordered_exactClassic (hlow : lo ≤ c) (hhigh : c ≤ h) : (exactClassic h lo c).Ordered :=
  ordered_fullPivots_of_mem ⟨by linarith, by linarith⟩

theorem ordered_exactWoodie (hlow : lo ≤ c) (hhigh : c ≤ h) : (exactWoodie h lo c).Ordered :=
  ordered_fullPivots_of_mem ⟨by linarith, by linarith⟩

theorem ordered_exactFibonacci (hle : lo ≤ h) : (exactFibonacci h lo c).Ordered :=
  ordered_fullPivots_of_distances (by linarith) (by linarith) (by linarith) fun _ ↦ rfl

theorem ordered_exactCamarilla (hle : lo ≤ h) : (exactCamarilla h lo c).Ordered :=
  ordered_fullPivots_of_distances (by linarith) (by linarith) (by linarith) fun h ↦ (h rfl).elim

/-- In each of the three cases, `x` is four times a price within the candle. -/
theorem demarkX_mem (hlow : lo ≤ c) (hhigh : c ≤ h) :
    4 * lo ≤ demarkX h lo c o ∧ demarkX h lo c o ≤ 4 * h := by
  unfold demarkX
  split_ifs <;> constructor <;> linarith

theorem ordered_exactDemark (hlow : lo ≤ c) (hhigh : c ≤ h) :
    (exactDemark h lo c o).Ordered := by
  obtain ⟨hxlow, hxhigh⟩ := @demarkX_mem h lo c o hlow hhigh
  constructor
  · show [demarkX h lo c o / 2 - h, demarkX h lo c o / 2 - lo].Pairwise (· ≤ ·)
    exact List.pairwise_pair.2 (by linarith)
  · intro _
    show [demarkX h lo c o / 2 - h, demarkX h lo c o / 4, demarkX h lo c o / 2 - lo].Pairwise
      (· ≤ ·)
    refine List.isChain_iff_pairwise.1 (List.isChain_cons_cons.2 ⟨?_, List.isChain_pair.2 ?_⟩)
    · linarith
    · linarith

end Order

/-! ### The mirror -/

section Mirror

variable (centre h lo c o : ℚ)

/-- A full set upside down is the full set of the levels upside down. -/
theorem mirror_fullPivots (type : PivotType) (pp r1 s1 r2 s2 r3 s3 : ℚ) :
    (fullPivots type pp r1 s1 r2 s2 r3 s3).mirror centre =
      fullPivots type (centre - pp) (centre - s1) (centre - r1) (centre - s2) (centre - r2)
        (centre - s3) (centre - r3) :=
  rfl

theorem exactClassic_mirror : exactClassic (centre - lo) (centre - h) (centre - c) =
    (exactClassic h lo c).mirror centre := by
  simp only [exactClassic, mirror_fullPivots]
  congr 1 <;> ring

theorem exactFibonacci_mirror : exactFibonacci (centre - lo) (centre - h) (centre - c) =
    (exactFibonacci h lo c).mirror centre := by
  simp only [exactFibonacci, mirror_fullPivots]
  congr 1 <;> ring

theorem exactCamarilla_mirror : exactCamarilla (centre - lo) (centre - h) (centre - c) =
    (exactCamarilla h lo c).mirror centre := by
  simp only [exactCamarilla, mirror_fullPivots]
  congr 1 <;> ring

theorem exactWoodie_mirror : exactWoodie (centre - lo) (centre - h) (centre - c) =
    (exactWoodie h lo c).mirror centre := by
  simp only [exactWoodie, mirror_fullPivots]
  congr 1 <;> ring

/-- A falling candle becomes a rising one. -/
theorem demarkX_mirror : demarkX (centre - lo) (centre - h) (centre - c) (centre - o) =
    4 * centre - demarkX h lo c o := by
  simp only [demarkX, sub_lt_sub_iff_left]
  rcases lt_trichotomy c o with hlt | rfl | hlt
  · rw [if_neg hlt.not_gt, if_pos hlt, if_pos hlt]
    ring
  · simp only [lt_irrefl, if_false]
    ring
  · rw [if_pos hlt, if_neg hlt.not_gt, if_pos hlt]
    ring

theorem exactDemark_mirror : exactDemark (centre - lo) (centre - h) (centre - c) (centre - o) =
    (exactDemark h lo c o).mirror centre := by
  rw [exactDemark, demarkX_mirror, exactDemark]
  show PivotPoints.mk .demark (some _) (some _) none none (some _) none none =
    PivotPoints.mk .demark (some _) (some _) none none (some _) none none
  congr 2 <;> ring

/-- **The points of a candle upside down** are its points upside down, type by type. -/
theorem exactPivotPoints_mirror (candle : OHLCVData) :
    exactPivotPoints (candle.mirror centre) =
      (exactPivotPoints candle).map (PivotPoints.mirror centre) := by
  simp only [exactPivotPoints, OHLCVData.mirror, exactClassic_mirror, exactFibonacci_mirror,
    exactCamarilla_mirror, exactWoodie_mirror, exactDemark_mirror, List.map_cons, List.map_nil]

end Mirror

/-- The points of each type are in order. -/
theorem ordered_of_mem_exactPivotPoints {candle : OHLCVData} {p : PivotPoints}
    (hlow : candle.low ≤ candle.close) (hhigh : candle.close ≤ candle.high)
    (hp : p ∈ exactPivotPoints candle) : p.Ordered := by
  have hle : candle.low ≤ candle.high := hlow.trans hhigh
  simp only [exactPivotPoints, List.mem_cons, List.not_mem_nil, or_false] at hp
  obtain rfl | rfl | rfl | rfl | rfl := hp
  · exact ordered_exactClassic hlow hhigh
  · exact ordered_exactFibonacci hle
  · exact ordered_exactCamarilla hle
  · exact ordered_exactWoodie hlow hhigh
  · exact ordered_exactDemark hlow hhigh

/-- **The pivot points of a candle** in exact arithmetic: of each type, rounded, in their order; and
before rounding, the candle upside down has the same points upside down. The open only picks one of
the three cases of DeMark, so it need not lie within the candle. -/
theorem pivot_points_ordered_and_mirrored {candle : OHLCVData}
    (hclose : candle.low ≤ candle.close ∧ candle.close ≤ candle.high) :
    let points := calculatePivotPoints candle.high candle.low candle.close candle.open_
    points.map PivotPoints.type = [.classic, .fibonacci, .camarilla, .woodie, .demark] ∧
    (∀ p ∈ points, p.Ordered) ∧
    points = (exactPivotPoints candle).map PivotPoints.rounded ∧
    ∀ centre, exactPivotPoints (candle.mirror centre) =
      (exactPivotPoints candle).map (PivotPoints.mirror centre) := by
  refine ⟨rfl, ?_, rfl, fun centre ↦ exactPivotPoints_mirror centre candle⟩
  intro p hp
  rw [calculatePivotPoints_eq] at hp
  obtain ⟨q, hq, rfl⟩ := List.mem_map.1 hp
  exact (ordered_of_mem_exactPivotPoints hclose.1 hclose.2 hq).rounded

/-- A candle that closes on its high. -/
theorem pivot_points_ordered_and_mirrored_closeOnHigh :
    let candle : OHLCVData := ⟨⟨0, none⟩, 100, 104, 98, 104, 0⟩
    let points := calculatePivotPoints candle.high candle.low candle.close candle.open_
    points.map PivotPoints.type = [.classic, .fibonacci, .camarilla, .woodie, .demark] ∧
    (∀ p ∈ points, p.Ordered) ∧
    points = (exactPivotPoints candle).map PivotPoints.rounded ∧
    ∀ centre, exactPivotPoints (candle.mirror centre) =
      (exactPivotPoints candle).map (PivotPoints.mirror centre) :=
  pivot_points_ordered_and_mirrored ⟨by norm_num, by norm_num⟩

/-- **On doubles the order may be lost.** A candle opens on its low and closes on its high, which is
the next double: its classic supports are 183.41397 and, further out, 183.41398. -/
theorem classic_supports_change_places :
    let candle : OHLCVData :=
      { timestamp := ⟨0, none⟩
        open_ := roundBinary64 183.41397499999997
        high := roundBinary64 183.413975
        low := roundBinary64 183.41397499999997
        close := roundBinary64 183.413975 }
    let points := calculatePivotPoints candle.high candle.low candle.close candle.open_
      roundBinary64
    (candle.low ≤ candle.open_ ∧ candle.open_ ≤ candle.high ∧ candle.low ≤ candle.close ∧
      candle.close ≤ candle.high) ∧
    (points.head?.bind PivotPoints.s2 = some (roundBinary64 183.41397) ∧
      points.head?.bind PivotPoints.s3 = some (roundBinary64 183.41398)) ∧
    ¬∀ p ∈ points, p.Ordered := by
  intro candle points
  have hs2 : (classicPivots roundBinary64 candle.high candle.low candle.close).s2 =
      some (roundBinary64 183.41397) := by decide +kernel
  have hs3 : (classicPivots roundBinary64 candle.high candle.low candle.close).s3 =
      some (roundBinary64 183.41398) := by decide +kernel
  refine ⟨by decide +kernel, ⟨hs2, hs3⟩, fun hordered ↦ ?_⟩
  have hlevels := (hordered _ (List.mem_cons_self ..)).levels_le
  rw [PivotPoints.levels, hs2, hs3, List.reduceOption_cons_of_some,
    List.reduceOption_cons_of_some] at hlevels
  have hle : roundBinary64 183.41398 ≤ roundBinary64 183.41397 :=
    List.rel_of_pairwise_cons hlevels List.mem_cons_self
  exact absurd hle (by decide +kernel)

end InvestmentAssistant
