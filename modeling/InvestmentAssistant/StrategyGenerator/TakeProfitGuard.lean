import Mathlib.Data.List.TakeWhile
import InvestmentAssistant.StrategyGenerator.RiskRewardBounds

/-!
# When the last guard of the targets fires

After the loop and the fallbacks `_calculate_tp` checks once more that the second target is beyond
the first, and calls the check unreachable. The loop takes the second target from the levels after
the first one, and two levels may have the same price: when the level taken first is given twice and
already reaches the second minimum, its twin is taken as the second target (`RepeatedTarget`).
Nothing else makes the guard fire (`farther_unguardedTp_iff`).

In a sorted list the level taken first heads what is left when the levels short of the first minimum
are dropped, so its twin, if it has one, comes right after it.
-/

namespace InvestmentAssistant

/-- The nearest target at or beyond the first minimum is at or beyond the second one too, and is
given more than once. -/
structure RepeatedTarget (entryPrice : ℚ) (direction : Direction) (srLevels : List SrLevel)
    (risk t : ℚ) : Prop where
  reaches : 2 * risk ≤ |t - entryPrice|
  nearest : ∀ u ∈ targetLevels entryPrice direction srLevels, risk ≤ |u - entryPrice| →
    |t - entryPrice| ≤ |u - entryPrice|
  twice : 2 ≤ (targetLevels entryPrice direction srLevels).count t

/-! ### The search in a sorted list -/

section Search

/-- What the search picks, in the list without the targets short of the first minimum. -/
theorem pickTargets_eq (reachesTp1 reachesTp2 : ℚ → Bool) (targets : List ℚ) :
    pickTargets reachesTp1 reachesTp2 targets =
      match targets.dropWhile fun t ↦ !reachesTp1 t with
      | [] => (none, none)
      | t :: rest => (some t, rest.find? reachesTp2) := by
  induction targets with
  | nil => rfl
  | cons t targets ih =>
    rw [pickTargets_cons, List.dropWhile_cons]
    cases ht : reachesTp1 t with
    | true => rfl
    | false => exact ih

variable {m1 m2 t : ℚ} {targets rest : List ℚ}

/-- The targets that are dropped are short of the minimum. -/
theorem eq_append_of_dropWhile (h : (targets.dropWhile fun t ↦ !decide (m1 ≤ t)) = t :: rest) :
    ∃ short, targets = short ++ t :: rest ∧ (∀ u ∈ short, u < m1) ∧ m1 ≤ t := by
  refine ⟨targets.takeWhile fun t ↦ !decide (m1 ≤ t), ?_, fun u hu ↦ ?_, ?_⟩
  · rw [← h, List.takeWhile_append_dropWhile]
  · have hshort := List.mem_takeWhile_imp hu
    simpa using hshort
  · have hhead := List.head?_dropWhile_not (fun t ↦ !decide (m1 ≤ t)) targets
    rw [h] at hhead
    simpa using hhead

/-- The first target that is not dropped is the nearest one that reaches the minimum. -/
theorem le_of_dropWhile (hsorted : targets.Pairwise (· ≤ ·))
    (h : (targets.dropWhile fun t ↦ !decide (m1 ≤ t)) = t :: rest) {u : ℚ} (hu : u ∈ targets)
    (hm1 : m1 ≤ u) : t ≤ u := by
  obtain ⟨short, rfl, hshort, -⟩ := eq_append_of_dropWhile h
  rcases List.mem_append.1 hu with hu | hu
  · exact absurd hm1 (hshort u hu).not_ge
  · rcases List.mem_cons.1 hu with rfl | hu
    · exact le_rfl
    · exact (List.pairwise_cons.1 (List.pairwise_append.1 hsorted).2.1).1 u hu

/-- Among sorted targets at or beyond `t`, the search for the second one finds `t` exactly when `t`
is there and reaches the minimum. -/
theorem find?_eq_some_self_iff (hsorted : (t :: rest).Pairwise (· ≤ ·)) :
    (rest.find? fun u ↦ decide (m2 ≤ u)) = some t ↔ m2 ≤ t ∧ t ∈ rest := by
  obtain ⟨hle, hrest⟩ := List.pairwise_cons.1 hsorted
  constructor
  · intro h
    have hreaches := List.find?_some (p := fun u ↦ decide (m2 ≤ u)) h
    exact ⟨of_decide_eq_true hreaches, List.mem_of_find?_eq_some h⟩
  · rintro ⟨hm2, hmem⟩
    obtain ⟨u, us, rfl⟩ := List.exists_cons_of_ne_nil (List.ne_nil_of_mem hmem)
    -- the first of them is not beyond `t`
    have hut : u ≤ t := by
      rcases List.mem_cons.1 hmem with rfl | hus
      · exact le_rfl
      · exact (List.pairwise_cons.1 hrest).1 t hus
    obtain rfl : t = u := le_antisymm (hle u (List.mem_cons_self ..)) hut
    exact List.find?_cons_of_pos (decide_eq_true hm2)

/-- The first target that is not dropped is given twice when it comes again after itself. -/
theorem two_le_count_iff (h : (targets.dropWhile fun t ↦ !decide (m1 ≤ t)) = t :: rest) :
    2 ≤ targets.count t ↔ t ∈ rest := by
  obtain ⟨short, rfl, hshort, ht⟩ := eq_append_of_dropWhile h
  have hnot : t ∉ short := fun hmem ↦ (hshort t hmem).not_ge ht
  rw [List.count_append, List.count_eq_zero_of_not_mem hnot, List.count_cons_self, zero_add,
    Nat.succ_le_succ_iff, Nat.succ_le_iff, List.count_pos_iff]

end Search

/-! ### Long trades -/

section Long

variable {entryPrice atr risk t : ℚ} {srLevels : List SrLevel}

/-- A resistance above the entry is as far from it as it is above. -/
theorem abs_sub_of_mem_resistancesAbove (h : t ∈ resistancesAbove entryPrice srLevels) :
    |t - entryPrice| = t - entryPrice :=
  abs_of_pos (sub_pos.2 (lt_of_mem_resistancesAbove h))

/-- The targets of a long trade in the order they are searched. -/
theorem mem_sortedResistances : t ∈ (resistancesAbove entryPrice srLevels).insertionSort (· ≤ ·) ↔
    t ∈ resistancesAbove entryPrice srLevels :=
  (List.perm_insertionSort _ _).mem_iff

/-- A repeated target is the one the search takes first, with its twin behind it. -/
theorem repeatedTarget_long_iff {rest : List ℚ} {u : ℚ} (hrisk : 0 < risk)
    (hdrop : (((resistancesAbove entryPrice srLevels).insertionSort (· ≤ ·)).dropWhile
      fun t ↦ !decide (entryPrice + risk ≤ t)) = t :: rest) :
    RepeatedTarget entryPrice .long srLevels risk u ↔
      u = t ∧ entryPrice + risk * 2 ≤ t ∧ t ∈ rest := by
  have hsorted := List.pairwise_insertionSort (· ≤ ·) (resistancesAbove entryPrice srLevels)
  have htmem : t ∈ resistancesAbove entryPrice srLevels := by
    obtain ⟨short, happend, -, -⟩ := eq_append_of_dropWhile hdrop
    rw [← mem_sortedResistances, happend]
    exact List.mem_append_right _ (List.mem_cons_self ..)
  have hreaches : entryPrice + risk ≤ t := (eq_append_of_dropWhile hdrop).choose_spec.2.2
  have hcount : 2 ≤ (resistancesAbove entryPrice srLevels).count t ↔ t ∈ rest := by
    rw [← (List.perm_insertionSort (· ≤ ·) _).count_eq]
    exact two_le_count_iff hdrop
  constructor
  · intro h
    have humem : u ∈ resistancesAbove entryPrice srLevels :=
      List.count_pos_iff.1 (Nat.lt_of_lt_of_le Nat.zero_lt_two h.twice)
    have hfar := h.reaches
    have hnearest := h.nearest t htmem
    rw [abs_sub_of_mem_resistancesAbove humem] at hfar hnearest
    rw [abs_sub_of_mem_resistancesAbove htmem] at hnearest
    -- of the two, neither is nearer than the other
    have htu : t ≤ u := le_of_dropWhile hsorted hdrop (mem_sortedResistances.2 humem) (by linarith)
    have hut : u ≤ t := by
      have hle := hnearest (by linarith)
      linarith
    obtain rfl : u = t := le_antisymm hut htu
    exact ⟨rfl, by linarith, hcount.1 h.twice⟩
  · rintro ⟨rfl, hfar, hmem⟩
    refine ⟨?_, fun v hv hv1 ↦ ?_, hcount.2 hmem⟩
    · rw [abs_sub_of_mem_resistancesAbove htmem]
      linarith
    · rw [abs_sub_of_mem_resistancesAbove hv] at hv1 ⊢
      rw [abs_sub_of_mem_resistancesAbove htmem]
      have hle : u ≤ v :=
        le_of_dropWhile hsorted hdrop (mem_sortedResistances.2 hv) (by linarith)
      linarith

/-- Without a target that reaches the first minimum there is none to be repeated. -/
theorem not_repeatedTarget_long (hrisk : 0 < risk)
    (hdrop : (((resistancesAbove entryPrice srLevels).insertionSort (· ≤ ·)).dropWhile
      fun t ↦ !decide (entryPrice + risk ≤ t)) = []) :
    ¬ RepeatedTarget entryPrice .long srLevels risk t := by
  intro h
  have htmem : t ∈ resistancesAbove entryPrice srLevels :=
    List.count_pos_iff.1 (Nat.lt_of_lt_of_le Nat.zero_lt_two h.twice)
  have hfar := h.reaches
  rw [abs_sub_of_mem_resistancesAbove htmem] at hfar
  have hshort := List.dropWhile_eq_nil_iff.1 hdrop t (mem_sortedResistances.2 htmem)
  simp only [Bool.not_eq_true', decide_eq_false_iff_not] at hshort
  linarith

/-- **A long trade**: the second target is beyond the first before the guard, unless a target is
repeated. -/
theorem lt_unguardedTp_long_iff (hrisk : 0 < risk) (hatr : 0 < atr) :
    (unguardedTp entryPrice .long srLevels risk atr).1 <
        (unguardedTp entryPrice .long srLevels risk atr).2 ↔
      ∀ t, ¬ RepeatedTarget entryPrice .long srLevels risk t := by
  have hsorted := List.pairwise_insertionSort (· ≤ ·) (resistancesAbove entryPrice srLevels)
  simp only [unguardedTp, pickTargets_eq]
  rcases hdrop : ((resistancesAbove entryPrice srLevels).insertionSort (· ≤ ·)).dropWhile
    fun t ↦ !decide (entryPrice + risk ≤ t) with - | ⟨t, rest⟩
  · -- both targets are fallbacks
    refine iff_of_true ?_ fun t ↦ not_repeatedTarget_long hrisk hdrop
    have hmax := le_max_left (entryPrice + atr * 3 * 2) (entryPrice + atr * 3 + risk)
    show entryPrice + atr * 3 < max (entryPrice + atr * 3 * 2) (entryPrice + atr * 3 + risk)
    linarith
  · have hrest : (t :: rest).Pairwise (· ≤ ·) := hsorted.sublist (hdrop ▸ List.dropWhile_sublist _)
    have hself : rest.find? (fun u ↦ decide (entryPrice + risk * 2 ≤ u)) = some t ↔ _ :=
      find?_eq_some_self_iff hrest
    have hrepeated : (∀ u, ¬ RepeatedTarget entryPrice .long srLevels risk u) ↔
        ¬(entryPrice + risk * 2 ≤ t ∧ t ∈ rest) := by
      simp only [repeatedTarget_long_iff hrisk hdrop, not_and, forall_eq]
    rw [hrepeated, ← hself]
    dsimp only
    rcases hfind : rest.find? fun u ↦ decide (entryPrice + risk * 2 ≤ u) with - | u
    · -- the second target is the fallback, which keeps its distance from the first
      refine iff_of_true ?_ (by simp)
      have hmax := le_max_right (entryPrice + atr * atrMultiplierTpFallback * 2) (t + risk)
      show t < max (entryPrice + atr * atrMultiplierTpFallback * 2) (t + risk)
      linarith
    · have hle : t ≤ u := (List.pairwise_cons.1 hrest).1 u (List.mem_of_find?_eq_some hfind)
      show t < u ↔ ¬some u = some t
      rw [Option.some_inj, eq_comm]
      exact hle.lt_iff_ne

/-- The targets of a long trade are above the entry. -/
theorem lt_unguardedTp_long (hrisk : 0 < risk) (hatr : 0 < atr) :
    entryPrice < (unguardedTp entryPrice .long srLevels risk atr).1 ∧
      entryPrice < (unguardedTp entryPrice .long srLevels risk atr).2 := by
  refine ⟨(lt_calculateTp_long srLevels hatr hrisk).1, ?_⟩
  simp only [unguardedTp]
  set found := pickTargets _ _ ((resistancesAbove entryPrice srLevels).insertionSort (· ≤ ·))
    with hfound
  rcases htp2 : found.2 with - | u
  · have hmax := le_max_left (entryPrice + atr * 3 * 2)
      (found.1.getD (entryPrice + atr * 3) + risk)
    show entryPrice < max (entryPrice + atr * 3 * 2) (found.1.getD (entryPrice + atr * 3) + risk)
    linarith
  · have hreaches : entryPrice + risk * 2 ≤ u :=
      of_decide_eq_true (pickTargets_snd (hfound ▸ htp2)).2
    show entryPrice < u
    linarith

/-- Farther from the entry of a long trade is above. -/
theorem farther_unguardedTp_long_iff (hrisk : 0 < risk) (hatr : 0 < atr) :
    |(unguardedTp entryPrice .long srLevels risk atr).1 - entryPrice| <
        |(unguardedTp entryPrice .long srLevels risk atr).2 - entryPrice| ↔
      ∀ t, ¬ RepeatedTarget entryPrice .long srLevels risk t := by
  obtain ⟨h1, h2⟩ := @lt_unguardedTp_long entryPrice _ _ srLevels hrisk hatr
  rw [abs_of_pos (sub_pos.2 h1), abs_of_pos (sub_pos.2 h2), sub_lt_sub_iff_right]
  exact lt_unguardedTp_long_iff hrisk hatr

/-- The guard leaves a second target beyond the first one where it is. -/
theorem guardTp_long_eq_self (hrisk : 0 < risk) (hatr : 0 < atr)
    (h : ∀ t, ¬ RepeatedTarget entryPrice .long srLevels risk t) :
    guardTp .long risk (unguardedTp entryPrice .long srLevels risk atr) =
      unguardedTp entryPrice .long srLevels risk atr := by
  have hlt := (@lt_unguardedTp_long_iff entryPrice _ _ srLevels hrisk hatr).2 h
  rw [guardTp, if_neg hlt.not_ge]

end Long

/-! ### Both sides -/

section Mirror

variable (centre : ℚ) {entryPrice atr risk : ℚ} {srLevels : List SrLevel}

/-- The targets of a short trade are the mirrored targets of a long one. -/
theorem targetLevels_mirror :
    targetLevels (centre - entryPrice) .short (srLevels.map (SrLevel.mirror centre)) =
      (targetLevels entryPrice .long srLevels).map (centre - ·) :=
  supportsBelow_mirror centre entryPrice srLevels

theorem repeatedTarget_mirror {t : ℚ} :
    RepeatedTarget (centre - entryPrice) .short (srLevels.map (SrLevel.mirror centre)) risk
        (centre - t) ↔
      RepeatedTarget entryPrice .long srLevels risk t := by
  have hinj : Function.Injective (centre - · : ℚ → ℚ) := fun _ _ h ↦ sub_right_injective h
  have hcount := List.count_map_of_injective (targetLevels entryPrice .long srLevels) _ hinj t
  constructor
  · rintro ⟨hreaches, hnearest, htwice⟩
    rw [targetLevels_mirror] at hnearest htwice
    rw [abs_mirror_sub] at hreaches
    refine ⟨hreaches, fun u hu hfar ↦ ?_, hcount ▸ htwice⟩
    have hle := hnearest (centre - u) (List.mem_map_of_mem hu)
    rw [abs_mirror_sub, abs_mirror_sub] at hle
    exact hle hfar
  · rintro ⟨hreaches, hnearest, htwice⟩
    refine ⟨?_, ?_, ?_⟩
    · rwa [abs_mirror_sub]
    · rw [targetLevels_mirror, List.forall_mem_map]
      intro u hu
      rw [abs_mirror_sub, abs_mirror_sub]
      exact hnearest u hu
    · rw [targetLevels_mirror, hcount]
      exact htwice

end Mirror

/-- **The guard of the targets.** Before it, the second target is strictly farther from the entry
than the first, so that the guard changes nothing, exactly when the nearest target that reaches the
first minimum is not also given twice at or beyond the second. -/
theorem farther_unguardedTp_iff (entryPrice : ℚ) (direction : Direction) (srLevels : List SrLevel)
    {risk atr : ℚ} (hrisk : 0 < risk) (hatr : 0 < atr) :
    (|(unguardedTp entryPrice direction srLevels risk atr).1 - entryPrice| <
        |(unguardedTp entryPrice direction srLevels risk atr).2 - entryPrice| ∧
      calculateTp entryPrice direction srLevels risk atr =
        unguardedTp entryPrice direction srLevels risk atr) ↔
    ∀ t, ¬ RepeatedTarget entryPrice direction srLevels risk t := by
  cases direction with
  | long =>
    rw [calculateTp_eq, farther_unguardedTp_long_iff hrisk hatr]
    exact ⟨fun h ↦ h.1, fun h ↦ ⟨h, guardTp_long_eq_self hrisk hatr h⟩⟩
  | short =>
    -- a short trade is a long one on the mirrored market
    have hlevels := map_mirror_mirror 0 srLevels
    have htargets := @unguardedTp_mirror 0 (0 - entryPrice) (srLevels.map (SrLevel.mirror 0))
      risk atr
    rw [hlevels, sub_sub_cancel] at htargets
    have hrepeated (t : ℚ) : RepeatedTarget entryPrice .short srLevels risk t ↔
        RepeatedTarget (0 - entryPrice) .long (srLevels.map (SrLevel.mirror 0)) risk (0 - t) := by
      have hmirror := @repeatedTarget_mirror 0 (0 - entryPrice) risk
        (srLevels.map (SrLevel.mirror 0)) (0 - t)
      rwa [hlevels, sub_sub_cancel, sub_sub_cancel] at hmirror
    have hcondition : (∀ t, ¬ RepeatedTarget entryPrice .short srLevels risk t) ↔
        ∀ t, ¬ RepeatedTarget (0 - entryPrice) .long (srLevels.map (SrLevel.mirror 0)) risk t := by
      simp only [hrepeated]
      exact ⟨fun h t ↦ by simpa using h (0 - t), fun h t ↦ h (0 - t)⟩
    have hdistance (x : ℚ) : |0 - x - entryPrice| = |x - (0 - entryPrice)| := by
      rw [← abs_neg]
      congr 1
      ring
    rw [hcondition, calculateTp_eq, htargets, guardTp_mirror]
    simp only [hdistance]
    rw [farther_unguardedTp_long_iff hrisk hatr]
    exact ⟨fun h ↦ h.1, fun h ↦ ⟨h, by rw [guardTp_long_eq_self hrisk hatr h]⟩⟩

/-- Two resistances at different prices: the guard has nothing to do. -/
theorem farther_unguardedTp_iff_distinct :
    (|(unguardedTp 100 .long [(101, true), (103, true)] 1 1).1 - 100| <
        |(unguardedTp 100 .long [(101, true), (103, true)] 1 1).2 - 100| ∧
      calculateTp 100 .long [(101, true), (103, true)] 1 1 =
        unguardedTp 100 .long [(101, true), (103, true)] 1 1) ↔
    ∀ t, ¬ RepeatedTarget 100 .long [(101, true), (103, true)] 1 t :=
  farther_unguardedTp_iff 100 .long [(101, true), (103, true)] (by norm_num) (by norm_num)

/-- One resistance given twice: the search picks it for both targets, and the guard moves the second
one. -/
theorem not_farther_unguardedTp : ¬ ∀ (entryPrice : ℚ) (direction : Direction)
    (srLevels : List SrLevel) (risk atr : ℚ), 0 < risk → 0 < atr →
      |(unguardedTp entryPrice direction srLevels risk atr).1 - entryPrice| <
          |(unguardedTp entryPrice direction srLevels risk atr).2 - entryPrice| ∧
        calculateTp entryPrice direction srLevels risk atr =
          unguardedTp entryPrice direction srLevels risk atr := by
  intro h
  have hbefore : unguardedTp 100 .long [(103, true), (103, true)] 1 1 = (103, 103) := by
    decide +kernel
  have hafter : calculateTp 100 .long [(103, true), (103, true)] 1 1 = (103, 104) := by
    decide +kernel
  obtain ⟨-, hsame⟩ := h 100 .long [(103, true), (103, true)] 1 1 one_pos one_pos
  rw [hbefore, hafter] at hsame
  exact absurd hsame (by decide)

end InvestmentAssistant
