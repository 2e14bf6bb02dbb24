import InvestmentAssistant.FundamentalAnalysis.FredRuns

/-!
# The FRED source and its history

While no cache drops an entry to make room, the caches hold all that the history says, so what a
call does can be told from the history alone. A series is passed over when nothing came of it in the
last five minutes and it has had no success for a day (`passedOver`); of the first series that is
not, the call returns the latest observation, or asks for a new one (`walk_eq`). The cache of values
and the cache of observations answer alike, so `fetch_series` and `fetch_series_observation` give
the same value (`fetchSeries_agrees`).
-/

namespace InvestmentAssistant

open Table Transition TtlCache

variable {F : Type} {configured : Bool} {s s' : FredState F} {e : FredEvent F} {call : ℕ}
  {es : List (FredEvent F)}

/-- The last that came of a series was nothing, less than five minutes ago. -/
def failedRecently (outcomes : List (FredOutcome F)) (now : ℚ) (seriesId : String) : Bool :=
  (lastOutcome outcomes seriesId).any fun o ↦
    o.observation.isNone && decide (now < o.time + negativeCacheTtlSeconds)

/-! ### Without evictions -/

/-- An entry is dropped to make room. -/
def FredEvent.IsEviction : FredEvent F → Prop
  | .evict _ _ => True
  | _ => False

theorem fredKeeps_holds : FredKeeps (CachesAre (fun V ↦ @Holds String V _) : FredState F → Prop) :=
  fredKeeps_cachesAre (fun _ _ _ _ now k v h ↦ holds_set h now k v)
    fun _ _ _ _ now k h ↦ holds_pop h now k

theorem cachesAre_holds_step (h : CachesAre (fun V ↦ @Holds String V _) s)
    (hevent : ¬ e.IsEviction) (hstep : fredStep configured s e = some s') :
    CachesAre (fun V ↦ @Holds String V _) s' :=
  fredKeeps_holds.step (fun _ _ heq ↦ absurd (heq ▸ trivial) hevent) h hstep

/-- **While nothing is dropped, the caches hold what the history says.** -/
theorem cachesAre_holds_of_run (hrun : run (fredStep configured) {} es = some s)
    (hevents : ∀ e ∈ es, ¬ e.IsEviction) : CachesAre (fun V ↦ @Holds String V _) s := by
  have hguard : AllSteps (fredStep configured) (fun _ e ↦ True ∧ ¬ e.IsEviction) {} es :=
    (allSteps_of_forall (fun _ _ ↦ trivial) _ _).and_of_mem hevents
  exact invariant_run_of_guard (fun h hg hstep ↦ cachesAre_holds_step h hg.2 hstep)
    (cachesAre_start fun _ _ ↦ holds_empty) hguard hrun

section Holds

variable (h : CachesAre (fun V ↦ @Holds String V _) s)
include h

/-- The cache of observations answers as the history does. -/
theorem get_observation_eq (seriesId : String) :
    s.caches.observation.get s.now (observationCacheKey seriesId) =
      latestInHistory s.outcomes s.now seriesId := by
  have hlatest (obs : FredObservation F) :
      s.caches.observation.get s.now (observationCacheKey seriesId) = some obs ↔
        (latestInHistory s.outcomes s.now seriesId).map id = some obs :=
    (get_of_holds h.observation _ _ _).trans
      (exists_liveWrite_iff observationCacheKey_inj fun _ ↦ rfl)
  rw [Option.map_id] at hlatest
  exact Option.ext hlatest

/-- The cache of values answers as the history does. -/
theorem get_value_eq (seriesId : String) :
    s.caches.value.get s.now (cacheKey seriesId) =
      (latestInHistory s.outcomes s.now seriesId).map FredObservation.value :=
  Option.ext fun _ ↦ (get_of_holds h.value _ _ _).trans
    (exists_liveWrite_iff cacheKey_inj fun _ ↦ rfl)

/-- The negative cache answers as the history does. -/
theorem isSome_get_negative_eq (seriesId : String) :
    (s.caches.negative.get s.now (cacheKey seriesId)).isSome =
      failedRecently s.outcomes s.now seriesId := by
  rw [Bool.eq_iff_iff, Option.isSome_iff_exists, failedRecently, Option.any_eq_true]
  constructor
  · rintro ⟨⟨⟩, hget⟩
    obtain ⟨w, hw, hvalue, hlive⟩ := (get_of_holds h.negative _ _ _).1 hget
    rw [lastWith_negativeWrite] at hw
    obtain ⟨o, ho, hwrite⟩ := Option.bind_eq_some_iff.1 hw
    obtain rfl := Option.some.inj hwrite
    refine ⟨o, ho, Bool.and_eq_true_iff.2 ⟨?_, decide_eq_true hlive⟩⟩
    by_contra hsome
    rw [Bool.not_eq_true, Option.isNone_eq_false_iff] at hsome
    exact absurd (hvalue.symm.trans (if_pos hsome)) (Option.some_ne_none ())
  · rintro ⟨o, ho, hfailed⟩
    obtain ⟨hnone, hlive⟩ := Bool.and_eq_true_iff.1 hfailed
    refine ⟨(), (get_of_holds h.negative _ _ _).2
      ⟨⟨cacheKey o.seriesId, o.time, some ()⟩, ?_, rfl, of_decide_eq_true hlive⟩⟩
    rw [lastWith_negativeWrite, ho, Option.bind_some, FredOutcome.negativeWrite,
      Option.isNone_iff_eq_none.1 hnone]
    rfl

end Holds

/-- A series is passed over: nothing came of it less than five minutes ago, and its last success is
not less than a day old. -/
def passedOver (outcomes : List (FredOutcome F)) (now : ℚ) (seriesId : String) : Bool :=
  (latestInHistory outcomes now seriesId).isNone && failedRecently outcomes now seriesId

/-- The walk as the history has it, without caches: of the first series that is not passed over, the
latest observation is returned, or else it is asked for. -/
def FredState.walkByHistory (lookbackDays : ℤ) (s : FredState F) (call : ℕ) (chain : List String) :
    FredState F :=
  match chain.dropWhile (passedOver s.outcomes s.now) with
  | [] => s.advance call (.finished (.observed none))
  | seriesId :: rest =>
    match latestInHistory s.outcomes s.now seriesId with
    | some observation => s.advance call (.finished (.observed (some observation)))
    | none => s.resolve call ⟨seriesId, rest, lookbackDays⟩

/-- A series with a success less than a day old is answered with it. -/
theorem cachedAnswer_of_latest (h : CachesAre (fun V ↦ @Holds String V _) s) {seriesId : String}
    {obs : FredObservation F} (hlatest : latestInHistory s.outcomes s.now seriesId = some obs) :
    s.cachedAnswer seriesId = some (some obs) := by
  rw [FredState.cachedAnswer, get_observation_eq h, hlatest]

/-- Another is answered with nothing exactly when it has failed recently; that the cache of values
knows it and the cache of observations does not, never happens. -/
theorem cachedAnswer_of_none (h : CachesAre (fun V ↦ @Holds String V _) s) {seriesId : String}
    (hlatest : latestInHistory s.outcomes s.now seriesId = none) :
    s.cachedAnswer seriesId =
      if failedRecently s.outcomes s.now seriesId then some none else none := by
  rw [FredState.cachedAnswer, get_observation_eq h, get_value_eq h, isSome_get_negative_eq h,
    hlatest]
  dsimp only
  rw [Option.map_none, Option.isSome_none, if_neg fun hboth ↦ Bool.false_ne_true hboth.1]

/-- **A call walks as the history says.** -/
theorem walk_eq (h : CachesAre (fun V ↦ @Holds String V _) s) (lookbackDays : ℤ)
    (chain : List String) :
    s.walk true lookbackDays call chain = s.walkByHistory lookbackDays call chain := by
  induction chain with
  | nil => rfl
  | cons seriesId rest ih =>
    rw [FredState.walk, FredState.walkByHistory]
    rcases hlatest : latestInHistory s.outcomes s.now seriesId with - | obs
    · rw [cachedAnswer_of_none h hlatest]
      by_cases hfailed : failedRecently s.outcomes s.now seriesId = true
      · have hover : passedOver s.outcomes s.now seriesId = true := by
          rw [passedOver, hlatest, hfailed]
          rfl
        rw [if_pos hfailed, List.dropWhile_cons_of_pos hover]
        exact ih
      · have hover : ¬ passedOver s.outcomes s.now seriesId = true := by
          rw [passedOver, hlatest, eq_false_of_ne_true hfailed]
          exact Bool.false_ne_true
        rw [if_neg hfailed, List.dropWhile_cons_of_neg hover]
        dsimp only
        rw [hlatest, if_pos rfl]
    · have hover : ¬ passedOver s.outcomes s.now seriesId = true := by
        rw [passedOver, hlatest]
        exact Bool.false_ne_true
      rw [cachedAnswer_of_latest h hlatest, List.dropWhile_cons_of_neg hover]
      dsimp only
      rw [hlatest]

/-! ### What a call does -/

/-- The last attempt at a request for data brings no observation. -/
def GivesUp (attempt : ℕ) (today : ℤ) : ApiAnswer (List (SeriesRow F)) → Prop
  | .osError => maxRetries ≤ attempt
  | .otherError => True
  | .answered data => latestObservation today data = none

/-- The calls of a source with an API key do what the history says: when they start, and when a
series has brought nothing. What they ask for reaches back as far as its series needs. -/
structure FollowsHistory (s : FredState F) : Prop where
  starts_series : ∀ call seriesId lookbackDays, s.phase call = .idle →
    fredStep true s (.fetchSeriesObservation call seriesId lookbackDays) =
      some ((s.start call [seriesId]).walkByHistory lookbackDays call [seriesId])
  starts : ∀ call indicatorName lookbackDays, s.phase call = .idle →
    fredStep true s (.fetchIndicatorObservation call indicatorName lookbackDays) =
      some ((s.start call (getIndicatorSeriesChain indicatorName)).walkByHistory lookbackDays call
        (getIndicatorSeriesChain indicatorName))
  goes_on : ∀ call c attempt answer today, s.phase call = .awaitData c attempt →
    GivesUp attempt today answer →
    fredStep true s (.dataAnswer call answer today) =
      some ((s.fail c.seriesId).walkByHistory c.lookbackDays call c.rest)
  covers : ∀ r ∈ s.requests, r.Covers

theorem takeData_of_givesUp {c : FredCall} {attempt : ℕ} {today : ℤ}
    {answer : ApiAnswer (List (SeriesRow F))} (h : GivesUp attempt today answer) :
    s.takeData configured call c attempt today answer =
      (s.fail c.seriesId).walk configured c.lookbackDays call c.rest := by
  rcases answer with _ | _ | data
  · exact if_neg (Nat.not_lt.2 h)
  · rfl
  · have hnone : latestObservation today data = none := h
    rw [FredState.takeData, hnone]

/-- **While no entry is dropped, the calls do what the history says.** -/
theorem followsHistory_of_run (hrun : run (fredStep true) {} es = some s)
    (hevents : ∀ e ∈ es, ¬ e.IsEviction) : FollowsHistory s where
  starts_series := by
    intro call seriesId lookbackDays hidle
    have hstart := fredKeeps_holds.start call [seriesId] (cachesAre_holds_of_run hrun hevents)
    simp only [fredStep, hidle]
    rw [walk_eq hstart]
  starts := by
    intro call indicatorName lookbackDays hidle
    have hstart := fredKeeps_holds.start call (getIndicatorSeriesChain indicatorName)
      (cachesAre_holds_of_run hrun hevents)
    simp only [fredStep, hidle]
    rw [walk_eq hstart]
  goes_on := by
    intro call c attempt answer today hphase hanswer
    have hfail := fredKeeps_holds.fail c.seriesId (cachesAre_holds_of_run hrun hevents)
    simp only [fredStep, hphase]
    rw [takeData_of_givesUp hanswer, walk_eq hfail]
  covers := covers_of_run hrun

/-- After a failure and a minute, a second call is under way. -/
theorem followsHistory_of_run_afterFailure :
    ∃ s : FredState ℤ, run (fredStep true) {}
        [.fetchIndicatorObservation 0 "cpi_pl" 365, .infoAnswer 0 (.answered (some ⟨some " m "⟩)),
          .dataAnswer 0 .otherError 20000, .tick 60,
          .fetchIndicatorObservation 1 "cpi_pl" 365] = some s ∧ FollowsHistory s := by
  obtain ⟨s, hrun⟩ : ∃ s : FredState ℤ, run (fredStep true) {}
        [.fetchIndicatorObservation 0 "cpi_pl" 365, .infoAnswer 0 (.answered (some ⟨some " m "⟩)),
          .dataAnswer 0 .otherError 20000, .tick 60,
          .fetchIndicatorObservation 1 "cpi_pl" 365] = some s := ⟨_, rfl⟩
  exact ⟨s, hrun, followsHistory_of_run hrun (by simp [FredEvent.IsEviction])⟩

/-- Two calls of one series, started at the same moment, came to the same: they returned one value,
or they ask for the same. -/
def AgreeOn (s : FredState F) (call : ℕ) (s₁ s₂ : FredState F) : Prop :=
  s₁ = s₂ ∨ ∃ r₁ r₂ : FredResult F, r₁.value = r₂.value ∧
    s₁ = s.advance call (.finished r₁) ∧ s₂ = s.advance call (.finished r₂)

/-- **While no entry is dropped, the shortcut of `fetch_series` changes nothing.** -/
theorem fetchSeries_agrees (hrun : run (fredStep configured) {} es = some s)
    (hevents : ∀ e ∈ es, ¬ e.IsEviction) (hidle : s.phase call = .idle) (seriesId : String)
    (lookbackDays : ℤ) :
    ∃ s₁ s₂, fredStep configured s (.fetchSeries call seriesId lookbackDays) = some s₁ ∧
      fredStep configured s (.fetchSeriesObservation call seriesId lookbackDays) = some s₂ ∧
      AgreeOn (s.start call [seriesId]) call s₁ s₂ := by
  have h := cachesAre_holds_of_run hrun hevents
  have hstart : CachesAre (fun V ↦ @Holds String V _) (s.start call [seriesId]) :=
    ⟨h.value, h.observation, h.negative⟩
  simp only [fredStep, hidle]
  rcases hget : s.caches.value.get s.now (cacheKey seriesId) with - | value
  · exact ⟨_, _, rfl, rfl, .inl rfl⟩
  · -- a value in one cache is that of an observation in the other
    have hlatest := (get_value_eq h seriesId).symm.trans hget
    obtain ⟨obs, hobs, hvalue⟩ := Option.map_eq_some_iff.1 hlatest
    refine ⟨_, _, rfl, rfl, .inr ⟨.cachedValue value, .observed (some obs), ?_, rfl, ?_⟩⟩
    · exact congrArg some hvalue.symm
    · rw [FredState.walk, cachedAnswer_of_latest hstart hobs]

/-- The shortcut is taken an hour after a success. -/
theorem fetchSeries_agrees_hourLater :
    ∃ s : FredState ℤ, run (fredStep true) {}
        [.fetchSeriesObservation 0 "UNRATE" 365, .infoAnswer 0 .otherError,
          .dataAnswer 0 (.answered (some [⟨some 20000, some 4⟩])) 20040, .tick 3600] = some s ∧
      ∃ s₁ s₂, fredStep true s (.fetchSeries 1 "UNRATE" 365) = some s₁ ∧
        fredStep true s (.fetchSeriesObservation 1 "UNRATE" 365) = some s₂ ∧
        AgreeOn (s.start 1 ["UNRATE"]) 1 s₁ s₂ := by
  obtain ⟨s, hrun, hidle⟩ : ∃ s : FredState ℤ, run (fredStep true) {}
        [.fetchSeriesObservation 0 "UNRATE" 365, .infoAnswer 0 .otherError,
          .dataAnswer 0 (.answered (some [⟨some 20000, some 4⟩])) 20040, .tick 3600] = some s ∧
      s.phase 1 = .idle := ⟨_, rfl, by decide +kernel⟩
  exact ⟨s, hrun, fetchSeries_agrees hrun (by simp [FredEvent.IsEviction]) hidle "UNRATE" 365⟩

end InvestmentAssistant
