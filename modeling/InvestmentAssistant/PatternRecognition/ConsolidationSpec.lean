import Mathlib.Data.Prod.Lex
import Mathlib.Tactic
import InvestmentAssistant.Foundation.KeyedTable
import InvestmentAssistant.PatternRecognition.Consolidator

/-!
# What consolidation computes

The groups of a list of patterns are its classes by key (`FormsGroups`): one group for each key that
occurs, holding the patterns of the key in their order. That is all the later steps use. The
representative of a group is a pattern of the greatest rank, the time frames are a set in a fixed
order, so both depend on the members of the group only up to the choice between equal ranks; and the
final sort orders results by rank.
-/

namespace InvestmentAssistant

/-! ### Ranks -/

/-- Relevance, confidence and reliability, compared one after the other. -/
abbrev ScannerRank := ℚ ×ₗ ℚ ×ₗ ℕ

/-- The rank of a pattern. -/
def PatternDetection.scannerRank (p : PatternDetection) : ScannerRank :=
  toLex (p.relevanceScore, toLex (p.confidence, p.reliability))

theorem PatternDetection.ranksBelow_iff (p q : PatternDetection) :
    p.ranksBelow q = true ↔ p.scannerRank < q.scannerRank := by
  rw [ranksBelow, decide_eq_true_iff, scannerRank, scannerRank, Prod.Lex.toLex_lt_toLex]
  rw [Prod.Lex.toLex_lt_toLex]

/-- The best of a list of patterns and one more, as the fold keeps it. -/
theorem foldl_ranksBelow (best : PatternDetection) (ps : List PatternDetection) :
    ps.foldl (fun best p ↦ if best.ranksBelow p then p else best) best ∈ best :: ps ∧
      ∀ p ∈ best :: ps, p.scannerRank ≤
        (ps.foldl (fun best p ↦ if best.ranksBelow p then p else best) best).scannerRank := by
  induction ps generalizing best with
  | nil =>
    refine ⟨List.mem_singleton_self best, fun p hp ↦ ?_⟩
    rw [List.mem_singleton.1 hp]
    exact le_rfl
  | cons q ps ih =>
    rw [List.foldl_cons]
    by_cases h : best.ranksBelow q = true
    · rw [if_pos h]
      obtain ⟨hmem, hmax⟩ := ih q
      refine ⟨List.mem_cons_of_mem _ hmem, fun p hp ↦ ?_⟩
      rcases List.mem_cons.1 hp with rfl | hp
      · exact ((p.ranksBelow_iff q).1 h).le.trans (hmax q (List.mem_cons_self ..))
      · exact hmax p hp
    · rw [if_neg h]
      obtain ⟨hmem, hmax⟩ := ih best
      have hq : q.scannerRank ≤ best.scannerRank := not_lt.1 (mt (best.ranksBelow_iff q).2 h)
      have hbest := hmax best (List.mem_cons_self ..)
      refine ⟨?_, fun p hp ↦ ?_⟩
      · rcases List.mem_cons.1 hmem with h | h
        · rw [h]
          exact List.mem_cons_self ..
        · exact List.mem_cons_of_mem _ (List.mem_cons_of_mem _ h)
      · rcases List.mem_cons.1 hp with rfl | hp
        · exact hbest
        rcases List.mem_cons.1 hp with rfl | hp
        · exact hq.trans hbest
        · exact hmax p (List.mem_cons_of_mem _ hp)

/-- **The representative is a member of the group, and no member ranks above it.** -/
theorem pickRepresentativePattern_spec (g : PatternGroup) :
    pickRepresentativePattern g ∈ g.patterns ∧
      ∀ p ∈ g.patterns, p.scannerRank ≤ (pickRepresentativePattern g).scannerRank :=
  foldl_ranksBelow g.first g.rest

/-! ### Time frames -/

theorem timeframeOrder_injective : Function.Injective timeframeOrder := by
  intro a b h
  cases a <;> cases b <;> first | rfl | exact absurd h (by decide)

theorem PatternGroup.mem_timeframes {g : PatternGroup} {t : Timeframe} :
    t ∈ g.timeframes ↔ ∃ p ∈ g.patterns, p.timeframe = some t := by
  rw [timeframes, List.mem_insertionSort, List.mem_dedup, List.mem_filterMap]

/-- The time frames are strictly ordered: `D1`, `H1`, `M15`, then any other. -/
theorem PatternGroup.pairwise_timeframes (g : PatternGroup) :
    g.timeframes.Pairwise fun a b ↦ timeframeOrder a < timeframeOrder b := by
  have hsorted : g.timeframes.Pairwise fun a b ↦ timeframeOrder a ≤ timeframeOrder b :=
    List.pairwise_insertionSort (fun a b ↦ timeframeOrder a ≤ timeframeOrder b) _
  have hnodup : g.timeframes.Nodup :=
    (List.perm_insertionSort _ _).nodup_iff.2 (List.nodup_dedup _)
  refine hsorted.imp₂ (fun a b hle hne ↦ ?_) hnodup
  exact lt_of_le_of_ne hle (mt (@timeframeOrder_injective a b) hne)

/-! ### Groups -/

/-- The patterns of one key. -/
def keyedPatterns (ps : List PatternDetection) (key : ScannerKey) : List PatternDetection :=
  ps.filter fun p ↦ p.scannerKey = key

theorem mem_keyedPatterns {ps : List PatternDetection} {key : ScannerKey} {p : PatternDetection} :
    p ∈ keyedPatterns ps key ↔ p ∈ ps ∧ p.scannerKey = key := by
  rw [keyedPatterns, List.mem_filter, decide_eq_true_iff]

theorem keyedPatterns_concat (ps : List PatternDetection) (key : ScannerKey)
    (p : PatternDetection) :
    keyedPatterns (ps ++ [p]) key =
      if p.scannerKey = key then keyedPatterns ps key ++ [p] else keyedPatterns ps key := by
  rw [keyedPatterns, List.filter_append]
  by_cases h : p.scannerKey = key
  · simp [h, keyedPatterns]
  · simp [h, keyedPatterns]

/-- The groups of a list are its classes by key. -/
structure FormsGroups (ps : List PatternDetection) (groups : List PatternGroup) : Prop where
  nodup : (groups.map (·.key)).Nodup
  patterns_eq : ∀ g ∈ groups, g.patterns = keyedPatterns ps g.key
  covers : ∀ p ∈ ps, p.scannerKey ∈ groups.map (·.key)

theorem map_key_addToGroups (groups : List PatternGroup) (p : PatternDetection) :
    (addToGroups groups p).map (·.key) =
      if p.scannerKey ∈ groups.map (·.key) then groups.map (·.key)
      else groups.map (·.key) ++ [p.scannerKey] := by
  induction groups with
  | nil => rfl
  | cons g groups ih =>
    simp only [addToGroups, List.map_cons, List.mem_cons]
    by_cases h : g.key = p.scannerKey
    · simp [h]
    · rw [if_neg h, List.map_cons, ih]
      by_cases hmem : p.scannerKey ∈ groups.map (·.key)
      · rw [if_pos hmem, if_pos (.inr hmem)]
      · rw [if_neg hmem, if_neg (not_or_intro (Ne.symm h) hmem), List.cons_append]

/-- What a group is after a pattern was added: it may be new, untouched, or the one that grew. -/
theorem mem_addToGroups {groups : List PatternGroup} (hnodup : (groups.map (·.key)).Nodup)
    {p : PatternDetection} {g : PatternGroup} (hg : g ∈ addToGroups groups p) :
    p.scannerKey ∉ groups.map (·.key) ∧ g.key = p.scannerKey ∧ g.patterns = [p] ∨
      g ∈ groups ∧ g.key ≠ p.scannerKey ∨
      ∃ g₀ ∈ groups, g.key = g₀.key ∧ g₀.key = p.scannerKey ∧ g.patterns = g₀.patterns ++ [p] := by
  induction groups with
  | nil =>
    obtain rfl := List.mem_singleton.1 hg
    exact .inl ⟨List.not_mem_nil, rfl, rfl⟩
  | cons g₁ groups ih =>
    rw [List.map_cons, List.nodup_cons] at hnodup
    rw [addToGroups] at hg
    by_cases h : g₁.key = p.scannerKey
    · rw [if_pos h] at hg
      rcases List.mem_cons.1 hg with rfl | hmem
      · exact .inr (.inr ⟨g₁, List.mem_cons_self .., rfl, h, rfl⟩)
      · refine .inr (.inl ⟨List.mem_cons_of_mem _ hmem, fun heq ↦ hnodup.1 ?_⟩)
        rw [h, ← heq]
        exact List.mem_map_of_mem hmem
    · rw [if_neg h] at hg
      rcases List.mem_cons.1 hg with rfl | hmem
      · exact .inr (.inl ⟨List.mem_cons_self .., h⟩)
      · rcases ih hnodup.2 hmem with ⟨hnew, hkey, hps⟩ | ⟨hold, hne⟩ | ⟨g₀, hg₀, hkeys⟩
        · refine .inl ⟨?_, hkey, hps⟩
          rw [List.map_cons, List.mem_cons, not_or]
          exact ⟨Ne.symm h, hnew⟩
        · exact .inr (.inl ⟨List.mem_cons_of_mem _ hold, hne⟩)
        · exact .inr (.inr ⟨g₀, List.mem_cons_of_mem _ hg₀, hkeys⟩)

/-- One more pattern keeps the groups the classes by key. -/
theorem FormsGroups.addToGroups {ps : List PatternDetection} {groups : List PatternGroup}
    (h : FormsGroups ps groups) (p : PatternDetection) :
    FormsGroups (ps ++ [p]) (addToGroups groups p) where
  nodup := by
    rw [map_key_addToGroups]
    split
    · exact h.nodup
    · next hnew =>
      rw [← List.concat_eq_append]
      exact h.nodup.concat hnew
  patterns_eq g hg := by
    rw [keyedPatterns_concat]
    rcases mem_addToGroups h.nodup hg with
      ⟨hnew, hkey, hps⟩ | ⟨hold, hne⟩ | ⟨g₀, hg₀, hkey, hp, hps⟩
    · have hnone : keyedPatterns ps p.scannerKey = [] := by
        refine List.filter_eq_nil_iff.2 fun q hq hkeys ↦ hnew ?_
        rw [← of_decide_eq_true hkeys]
        exact h.covers q hq
      rw [hps, hkey, if_pos rfl, hnone]
      rfl
    · rw [if_neg (Ne.symm hne)]
      exact h.patterns_eq g hold
    · rw [hps, hkey, if_pos hp.symm, h.patterns_eq g₀ hg₀]
  covers q hq := by
    rw [map_key_addToGroups]
    rcases List.mem_append.1 hq with hq | hq
    · have hold := h.covers q hq
      split
      · exact hold
      · exact List.mem_append_left _ hold
    · obtain rfl := List.mem_singleton.1 hq
      split
      · next hold => exact hold
      · exact List.mem_append_right _ (List.mem_singleton_self _)

/-- **Grouping forms the classes** of the patterns that have a time frame. -/
theorem formsGroups_groupPatterns (patterns : List PatternDetection) :
    FormsGroups (patterns.filter (·.timeframe.isSome)) (groupPatterns patterns) := by
  rw [groupPatterns]
  induction patterns.filter (·.timeframe.isSome) using List.reverseRecOn with
  | nil => exact ⟨List.nodup_nil, fun g hg ↦ absurd hg List.not_mem_nil,
      fun p hp ↦ absurd hp List.not_mem_nil⟩
  | append_singleton ps p ih =>
    rw [List.foldl_append]
    exact ih.addToGroups p

/-! ### Results -/

namespace PatternScannerResult

/-- Type, category and side of a result. -/
def scannerKey (r : PatternScannerResult) : ScannerKey :=
  (r.patternType, r.category, r.bullish)

/-- The triple the results are sorted by. -/
def scannerRank (r : PatternScannerResult) : ScannerRank :=
  toLex (r.representativePattern.relevanceScore,
    toLex (r.confidence, r.representativePattern.reliability))

/-- All of a result but the choice of the representative among those of its rank. -/
def summary (r : PatternScannerResult) : ScannerKey × List Timeframe × ScannerRank :=
  (r.scannerKey, r.timeframes, r.scannerRank)

end PatternScannerResult

/-- `r` is the result of its key: its representative is one of the best patterns of the key and
gives it its confidence, its time frames are those of the key's patterns. -/
structure IsScannerResult (patterns : List PatternDetection) (r : PatternScannerResult) :
    Prop where
  representative_mem : r.representativePattern ∈
    keyedPatterns (patterns.filter (·.timeframe.isSome)) r.scannerKey
  rank_le : ∀ p ∈ keyedPatterns (patterns.filter (·.timeframe.isSome)) r.scannerKey,
    p.scannerRank ≤ r.representativePattern.scannerRank
  confidence_eq : r.confidence = r.representativePattern.confidence
  mem_timeframes : ∀ t, t ∈ r.timeframes ↔
    ∃ p ∈ patterns, p.scannerKey = r.scannerKey ∧ p.timeframe = some t
  nodup_timeframes : r.timeframes.Nodup
  pairwise_timeframes : r.timeframes.Pairwise fun a b ↦ timeframeOrder a < timeframeOrder b

/-- The members of a group have its key. -/
theorem scannerKey_of_mem_group {patterns : List PatternDetection} {g : PatternGroup}
    (hg : g ∈ groupPatterns patterns) {p : PatternDetection} (hp : p ∈ g.patterns) :
    p.scannerKey = g.key := by
  rw [(formsGroups_groupPatterns patterns).patterns_eq g hg] at hp
  exact (mem_keyedPatterns.1 hp).2

theorem scannerKey_result {patterns : List PatternDetection} {g : PatternGroup}
    (hg : g ∈ groupPatterns patterns) : g.result.scannerKey = g.key :=
  scannerKey_of_mem_group hg (pickRepresentativePattern_spec g).1

/-- **The result of a group is the result of its key.** -/
theorem isScannerResult_result {patterns : List PatternDetection} {g : PatternGroup}
    (hg : g ∈ groupPatterns patterns) : IsScannerResult patterns g.result := by
  obtain ⟨hmem, hmax⟩ := pickRepresentativePattern_spec g
  have hps := (formsGroups_groupPatterns patterns).patterns_eq g hg
  have hkey := scannerKey_result hg
  rw [hps] at hmem hmax
  refine ⟨?_, ?_, rfl, fun t ↦ ?_, ?_, g.pairwise_timeframes⟩
  · rw [hkey]
    exact hmem
  · rw [hkey]
    exact hmax
  · show t ∈ g.timeframes ↔ _
    rw [PatternGroup.mem_timeframes, hps, hkey]
    refine exists_congr fun p ↦ ?_
    rw [mem_keyedPatterns, List.mem_filter, and_assoc, and_assoc]
    refine and_congr_right fun _ ↦ and_iff_right_of_imp fun h ↦ ?_
    rw [h.2]
    rfl
  · exact g.pairwise_timeframes.imp fun hlt heq ↦ (lt_irrefl _ (heq ▸ hlt)).elim

theorem exists_group_of_mem {patterns : List PatternDetection} {r : PatternScannerResult}
    (hr : r ∈ consolidatePatterns patterns) : ∃ g ∈ groupPatterns patterns, g.result = r := by
  rw [consolidatePatterns, List.mem_insertionSort] at hr
  exact List.mem_map.1 hr

theorem isScannerResult_of_mem {patterns : List PatternDetection} {r : PatternScannerResult}
    (hr : r ∈ consolidatePatterns patterns) : IsScannerResult patterns r := by
  obtain ⟨g, hg, rfl⟩ := exists_group_of_mem hr
  exact isScannerResult_result hg

/-- The keys of the results are those of the groups, up to their order. -/
theorem perm_scannerKeys (patterns : List PatternDetection) :
    ((consolidatePatterns patterns).map (·.scannerKey)).Perm
      ((groupPatterns patterns).map (·.key)) := by
  have hkeys : ((groupPatterns patterns).map PatternGroup.result).map (·.scannerKey) =
      (groupPatterns patterns).map (·.key) := by
    rw [List.map_map]
    exact List.map_congr_left fun g hg ↦ scannerKey_result hg
  rw [← hkeys]
  exact (List.perm_insertionSort _ _).map _

theorem nodup_scannerKeys (patterns : List PatternDetection) :
    ((consolidatePatterns patterns).map (·.scannerKey)).Nodup :=
  (perm_scannerKeys patterns).nodup_iff.2 (formsGroups_groupPatterns patterns).nodup

/-- There is a result for exactly the keys of the patterns that have a time frame. -/
theorem mem_scannerKeys_iff {patterns : List PatternDetection} {key : ScannerKey} :
    key ∈ (consolidatePatterns patterns).map (·.scannerKey) ↔
      ∃ p ∈ patterns, p.timeframe.isSome ∧ p.scannerKey = key := by
  rw [(perm_scannerKeys patterns).mem_iff]
  have hforms := formsGroups_groupPatterns patterns
  constructor
  · intro h
    obtain ⟨g, hg, rfl⟩ := List.mem_map.1 h
    have hfirst : g.first ∈ g.patterns := List.mem_cons_self ..
    have hkey := scannerKey_of_mem_group hg hfirst
    rw [hforms.patterns_eq g hg, mem_keyedPatterns, List.mem_filter] at hfirst
    exact ⟨g.first, hfirst.1.1, hfirst.1.2, hkey⟩
  · rintro ⟨p, hp, ht, rfl⟩
    exact hforms.covers p (List.mem_filter.2 ⟨hp, ht⟩)

/-- A result that is not outranked, as the sort compares results. -/
def RanksAtLeast (a b : PatternScannerResult) : Prop :=
  ¬ a.representativePattern.ranksBelow b.representativePattern = true

instance : DecidableRel RanksAtLeast :=
  fun _ _ ↦ inferInstanceAs (Decidable (¬ _))

theorem ranksAtLeast_iff {a b : PatternScannerResult} :
    RanksAtLeast a b ↔
      b.representativePattern.scannerRank ≤ a.representativePattern.scannerRank := by
  rw [RanksAtLeast, PatternDetection.ranksBelow_iff, not_lt]

instance : Std.Total RanksAtLeast where
  total a b := by
    rw [ranksAtLeast_iff, ranksAtLeast_iff]
    exact le_total _ _

instance : IsTrans PatternScannerResult RanksAtLeast where
  trans a b c hab hbc := by
    rw [ranksAtLeast_iff] at hab hbc ⊢
    exact hbc.trans hab

theorem scannerRank_eq_of_mem {patterns : List PatternDetection} {r : PatternScannerResult}
    (hr : r ∈ consolidatePatterns patterns) :
    r.scannerRank = r.representativePattern.scannerRank := by
  rw [PatternScannerResult.scannerRank, (isScannerResult_of_mem hr).confidence_eq]
  rfl

/-- **The results come in the order of their ranks**, the greatest first. -/
theorem pairwise_scannerRank (patterns : List PatternDetection) :
    (consolidatePatterns patterns).Pairwise fun a b ↦ b.scannerRank ≤ a.scannerRank := by
  have hsorted : (consolidatePatterns patterns).Pairwise RanksAtLeast :=
    @List.pairwise_insertionSort _ RanksAtLeast _ _ _ _
  refine hsorted.imp_of_mem fun ha hb h ↦ ?_
  rw [scannerRank_eq_of_mem ha, scannerRank_eq_of_mem hb]
  exact ranksAtLeast_iff.1 h

/-! ### Permuted input -/

/-- The results of one key have the same time frames and rank, whatever the order of the
patterns. -/
theorem IsScannerResult.summary_eq {patterns patterns' : List PatternDetection}
    (hperm : patterns.Perm patterns') {r r' : PatternScannerResult}
    (h : IsScannerResult patterns r) (h' : IsScannerResult patterns' r')
    (hkey : r.scannerKey = r'.scannerKey) : r.summary = r'.summary := by
  have hkeyed : ∀ p, p ∈ keyedPatterns (patterns.filter (·.timeframe.isSome)) r.scannerKey ↔
      p ∈ keyedPatterns (patterns'.filter (·.timeframe.isSome)) r'.scannerKey := by
    intro p
    rw [mem_keyedPatterns, mem_keyedPatterns, List.mem_filter, List.mem_filter, hperm.mem_iff, hkey]
  have htimeframes : r.timeframes = r'.timeframes := by
    refine Table.eq_of_pairwise_of_mem_iff h.pairwise_timeframes h'.pairwise_timeframes fun t ↦ ?_
    rw [h.mem_timeframes, h'.mem_timeframes, hkey]
    exact exists_congr fun p ↦ and_congr_left fun _ ↦ hperm.mem_iff
  have hrank : r.representativePattern.scannerRank = r'.representativePattern.scannerRank :=
    le_antisymm (h'.rank_le _ ((hkeyed _).1 h.representative_mem))
      (h.rank_le _ ((hkeyed _).2 h'.representative_mem))
  have htriple : r.scannerRank = r'.scannerRank := by
    rw [PatternScannerResult.scannerRank, PatternScannerResult.scannerRank, h.confidence_eq,
      h'.confidence_eq]
    exact hrank
  rw [PatternScannerResult.summary, PatternScannerResult.summary, hkey, htimeframes, htriple]

/-- Every result has a counterpart among those of the permuted input. -/
theorem exists_result_of_perm {patterns patterns' : List PatternDetection}
    (hperm : patterns.Perm patterns') {r : PatternScannerResult}
    (hr : r ∈ consolidatePatterns patterns) :
    ∃ r' ∈ consolidatePatterns patterns', r'.summary = r.summary := by
  have hkey : r.scannerKey ∈ (consolidatePatterns patterns').map (·.scannerKey) := by
    obtain ⟨p, hp, hseen⟩ := mem_scannerKeys_iff.1 (List.mem_map_of_mem hr)
    exact mem_scannerKeys_iff.2 ⟨p, hperm.mem_iff.1 hp, hseen⟩
  obtain ⟨r', hr', hkey'⟩ := List.mem_map.1 hkey
  have hsame := (isScannerResult_of_mem hr').summary_eq hperm.symm (isScannerResult_of_mem hr) hkey'
  exact ⟨r', hr', hsame⟩

theorem nodup_summaries (patterns : List PatternDetection) :
    ((consolidatePatterns patterns).map (·.summary)).Nodup := by
  have hkeys := nodup_scannerKeys patterns
  refine List.Nodup.of_map Prod.fst ?_
  rw [List.map_map]
  exact hkeys

/-- **The order of the detections shows in the choice between equal ranks only**: the results have
the same summaries, and the same ranks stand at the same places. -/
theorem consolidatePatterns_perm {patterns patterns' : List PatternDetection}
    (hperm : patterns.Perm patterns') :
    ((consolidatePatterns patterns).map (·.summary)).Perm
        ((consolidatePatterns patterns').map (·.summary)) ∧
      (consolidatePatterns patterns).map (·.scannerRank) =
        (consolidatePatterns patterns').map (·.scannerRank) := by
  have hsummaries : ((consolidatePatterns patterns).map (·.summary)).Perm
      ((consolidatePatterns patterns').map (·.summary)) := by
    refine (List.perm_ext_iff_of_nodup (nodup_summaries _) (nodup_summaries _)).2 fun s ↦ ?_
    constructor
    · intro hs
      obtain ⟨r, hr, rfl⟩ := List.mem_map.1 hs
      exact List.mem_map.2 (exists_result_of_perm hperm hr)
    · intro hs
      obtain ⟨r, hr, rfl⟩ := List.mem_map.1 hs
      exact List.mem_map.2 (exists_result_of_perm hperm.symm hr)
  refine ⟨hsummaries, ?_⟩
  have hranks : ((consolidatePatterns patterns).map (·.scannerRank)).Perm
      ((consolidatePatterns patterns').map (·.scannerRank)) := by
    have h := hsummaries.map fun s ↦ s.2.2
    rw [List.map_map, List.map_map] at h
    exact h
  refine hranks.eq_of_pairwise (fun a b _ _ hba hab ↦ le_antisymm hab hba) ?_ ?_
  · exact List.pairwise_map.2 (pairwise_scannerRank patterns)
  · exact List.pairwise_map.2 (pairwise_scannerRank patterns')

/-- **What consolidation returns**: one result for each key of a pattern with a time frame, each the
result of its key, in the order of the ranks; permuting the detections changes the choice and the
order among equal ranks only. -/
theorem consolidatePatterns_spec (patterns : List PatternDetection) :
    (((consolidatePatterns patterns).map (·.scannerKey)).Nodup ∧
      ∀ key, key ∈ (consolidatePatterns patterns).map (·.scannerKey) ↔
        ∃ p ∈ patterns, p.timeframe.isSome ∧ p.scannerKey = key) ∧
    (∀ r ∈ consolidatePatterns patterns, IsScannerResult patterns r) ∧
    (consolidatePatterns patterns).Pairwise (fun a b ↦ b.scannerRank ≤ a.scannerRank) ∧
    ∀ patterns' : List PatternDetection, patterns.Perm patterns' →
      ((consolidatePatterns patterns).map (·.summary)).Perm
          ((consolidatePatterns patterns').map (·.summary)) ∧
        (consolidatePatterns patterns).map (·.scannerRank) =
          (consolidatePatterns patterns').map (·.scannerRank) :=
  ⟨⟨nodup_scannerKeys patterns, fun _ ↦ mem_scannerKeys_iff⟩, fun _ ↦ isScannerResult_of_mem,
    pairwise_scannerRank patterns, fun _ ↦ consolidatePatterns_perm⟩

end InvestmentAssistant
