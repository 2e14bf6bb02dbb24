import InvestmentAssistant.FundamentalAnalysis.FredSource

/-!
# Runs of the FRED source

Three of the caches are written whenever something comes of a series, each in its own way
(`observationWrite`, `valueWrite`, `negativeWrite`). So they hold nothing but what the last writes
left, and nothing that the history does not say (`cachesAre_within_of_run`).

What a call returns is therefore the last success of a series of its chain, and less than a day old
(`returned_of_step`), in every interleaving and with entries dropped at any moment.
-/

namespace InvestmentAssistant

open Table Transition TtlCache

variable {F : Type}

/-! ### What a step can do -/

/-- The moves of the source. A call that waits is answered, is told to try again, or is
cancelled. -/
inductive FredMove (configured : Bool) (s : FredState F) : FredEvent F → FredState F → Prop
  | tick {seconds : ℚ} (hle : 0 ≤ seconds) :
    FredMove configured s (.tick seconds) { s with now := s.now + seconds }
  | evict (cache : FredCache) (key : String) :
    FredMove configured s (.evict cache key) { s with caches := s.caches.evict cache key }
  | start {e : FredEvent F} {call : ℕ} (chain : List String) (lookbackDays : ℤ)
    (hidle : s.phase call = .idle) :
    FredMove configured s e ((s.start call chain).walk configured lookbackDays call chain)
  | cachedValue {e : FredEvent F} {call : ℕ} {seriesId : String} {value : F}
    (hidle : s.phase call = .idle)
    (hget : s.caches.value.get s.now (cacheKey seriesId) = some value) :
    FredMove configured s e
      ((s.start call [seriesId]).advance call (.finished (.cachedValue value)))
  | retryInfo {e : FredEvent F} {call : ℕ} {c : FredCall} {attempt : ℕ}
    (hphase : s.phase call = .awaitInfo c attempt) :
    FredMove configured s e (s.advance call (.awaitInfo c (attempt + 1)))
  | infoFailed {e : FredEvent F} {call : ℕ} {c : FredCall} {attempt : ℕ}
    (hphase : s.phase call = .awaitInfo c attempt) :
    FredMove configured s e ((s.failInfo c.seriesId).request call c none)
  | infoAnswered {e : FredEvent F} {call : ℕ} {c : FredCall} {attempt : ℕ} (metadata : SeriesInfo)
    (hphase : s.phase call = .awaitInfo c attempt) :
    FredMove configured s e
      ((s.succeedInfo c.seriesId metadata).request call c (extractFrequencyShort metadata))
  | retryData {e : FredEvent F} {call : ℕ} {c : FredCall} {attempt : ℕ}
    (hphase : s.phase call = .awaitData c attempt) :
    FredMove configured s e (s.advance call (.awaitData c (attempt + 1)))
  | dataFailed {e : FredEvent F} {call : ℕ} {c : FredCall} {attempt : ℕ}
    (hphase : s.phase call = .awaitData c attempt) :
    FredMove configured s e
      ((s.fail c.seriesId).walk configured c.lookbackDays call c.rest)
  | dataAnswered {e : FredEvent F} {call : ℕ} {c : FredCall} {attempt : ℕ}
    (observation : FredObservation F) (hphase : s.phase call = .awaitData c attempt) :
    FredMove configured s e ((s.succeed c.seriesId observation).advance call
      (.finished (.observed (some observation))))
  | cancel (call : ℕ) : FredMove configured s (.cancel call) (s.advance call .cancelled)

variable {configured : Bool} {s s' : FredState F} {e : FredEvent F} {call : ℕ}

theorem fredMove_takeInfo {c : FredCall} {attempt : ℕ}
    (hphase : s.phase call = .awaitInfo c attempt) (answer : ApiAnswer SeriesInfo) :
    FredMove configured s e (s.takeInfo call c attempt answer) := by
  rcases answer with _ | _ | _ | metadata
  · rw [FredState.takeInfo]
    split
    · exact .retryInfo hphase
    · exact .infoFailed hphase
  · exact .infoFailed hphase
  · exact .infoFailed hphase
  · exact .infoAnswered metadata hphase

theorem fredMove_takeData {c : FredCall} {attempt : ℕ} (today : ℤ)
    (hphase : s.phase call = .awaitData c attempt) (answer : ApiAnswer (List (SeriesRow F))) :
    FredMove configured s e (s.takeData configured call c attempt today answer) := by
  rcases answer with _ | _ | data
  · rw [FredState.takeData]
    split
    · exact .retryData hphase
    · exact .dataFailed hphase
  · exact .dataFailed hphase
  · rw [FredState.takeData]
    split
    · exact .dataFailed hphase
    · exact .dataAnswered _ hphase

/-- **A step is a move.** -/
theorem fredMove_of_step (hstep : fredStep configured s e = some s') :
    FredMove configured s e s' := by
  cases e with
  | tick seconds =>
    rw [fredStep] at hstep
    split at hstep
    · next hle => exact Option.some.inj hstep ▸ .tick hle
    · cases hstep
  | evict cache key => exact Option.some.inj hstep ▸ .evict cache key
  | fetchSeriesObservation call seriesId lookbackDays =>
    simp only [fredStep] at hstep
    split at hstep
    · next hidle => exact Option.some.inj hstep ▸ .start _ _ hidle
    · cases hstep
  | fetchSeries call seriesId lookbackDays =>
    simp only [fredStep] at hstep
    split at hstep
    · next hidle =>
      split at hstep
      · next hget => exact Option.some.inj hstep ▸ .cachedValue hidle hget
      · exact Option.some.inj hstep ▸ .start _ _ hidle
    · cases hstep
  | fetchIndicatorObservation call indicatorName lookbackDays =>
    simp only [fredStep] at hstep
    split at hstep
    · next hidle => exact Option.some.inj hstep ▸ .start _ _ hidle
    · cases hstep
  | infoAnswer call answer =>
    simp only [fredStep] at hstep
    split at hstep
    · next hphase => exact Option.some.inj hstep ▸ fredMove_takeInfo hphase answer
    · cases hstep
  | dataAnswer call answer today =>
    simp only [fredStep] at hstep
    split at hstep
    · next hphase => exact Option.some.inj hstep ▸ fredMove_takeData today hphase answer
    · cases hstep
  | cancel call =>
    simp only [fredStep] at hstep
    split at hstep
    · exact Option.some.inj hstep ▸ .cancel call
    · exact Option.some.inj hstep ▸ .cancel call
    · cases hstep

/-- A property of states that the source's own actions keep. -/
structure FredKeeps (Inv : FredState F → Prop) : Prop where
  advance : ∀ {s} call phase, Inv s → Inv (s.advance call phase)
  start : ∀ {s} call chain, Inv s → Inv (s.start call chain)
  fail : ∀ {s} seriesId, Inv s → Inv (s.fail seriesId)
  succeed : ∀ {s} seriesId observation, Inv s → Inv (s.succeed seriesId observation)
  failInfo : ∀ {s} seriesId, Inv s → Inv (s.failInfo seriesId)
  succeedInfo : ∀ {s} seriesId metadata, Inv s → Inv (s.succeedInfo seriesId metadata)
  request : ∀ {s} call c frequencyShort, Inv s → Inv (s.request call c frequencyShort)
  tick : ∀ {s} {seconds : ℚ}, 0 ≤ seconds → Inv s → Inv { s with now := s.now + seconds }

namespace FredKeeps

variable {Inv : FredState F → Prop}

theorem resolve (h : FredKeeps Inv) (c : FredCall) (hs : Inv s) : Inv (s.resolve call c) := by
  rw [FredState.resolve]
  split
  · exact h.request _ _ _ hs
  · split
    · exact h.request _ _ _ hs
    · exact h.advance _ _ hs

theorem walk (h : FredKeeps Inv) (lookbackDays : ℤ) (chain : List String) (hs : Inv s) :
    Inv (s.walk configured lookbackDays call chain) := by
  induction chain generalizing s with
  | nil => exact h.advance _ _ hs
  | cons seriesId rest ih =>
    rw [FredState.walk]
    split
    · exact h.advance _ _ hs
    · exact ih hs
    · split
      · exact h.resolve _ hs
      · exact ih (h.fail _ hs)

/-- **What the actions keep, every step keeps**, if it is kept when an entry is dropped. -/
theorem step (h : FredKeeps Inv)
    (hevict : ∀ cache key, e = .evict cache key →
      Inv { s with caches := s.caches.evict cache key })
    (hs : Inv s) (hstep : fredStep configured s e = some s') : Inv s' := by
  cases fredMove_of_step hstep with
  | tick hle => exact h.tick hle hs
  | evict cache key => exact hevict cache key rfl
  | start chain lookbackDays => exact h.walk _ _ (h.start _ _ hs)
  | cachedValue => exact h.advance _ _ (h.start _ _ hs)
  | retryInfo => exact h.advance _ _ hs
  | infoFailed => exact h.request _ _ _ (h.failInfo _ hs)
  | infoAnswered metadata => exact h.request _ _ _ (h.succeedInfo _ _ hs)
  | retryData => exact h.advance _ _ hs
  | dataFailed => exact h.walk _ _ (h.fail _ hs)
  | dataAnswered observation => exact h.advance _ _ (h.succeed _ _ hs)
  | cancel => exact h.advance _ _ hs

/-- **What the actions and the evictions keep holds of every run.** -/
theorem run (h : FredKeeps Inv)
    (hevict : ∀ {s} cache key, Inv s → Inv { s with caches := s.caches.evict cache key })
    (h0 : Inv {}) {es : List (FredEvent F)}
    (hrun : Transition.run (fredStep configured) {} es = some s) : Inv s :=
  invariant_run (fun hs hstep ↦ h.step (fun cache key _ ↦ hevict cache key hs) hs hstep) h0 hrun

end FredKeeps

/-! ### The history -/

/-- The last that came of a series. -/
def lastOutcome (outcomes : List (FredOutcome F)) (seriesId : String) : Option (FredOutcome F) :=
  lastWith FredOutcome.seriesId seriesId outcomes

/-- The last observation that came of a series. -/
def lastSuccess (outcomes : List (FredOutcome F)) (seriesId : String) : Option (FredOutcome F) :=
  lastWith FredOutcome.seriesId seriesId (outcomes.filter fun o ↦ o.observation.isSome)

/-- The last observation of a series, while it is less than a day old. -/
def latestInHistory (outcomes : List (FredOutcome F)) (now : ℚ) (seriesId : String) :
    Option (FredObservation F) :=
  (lastSuccess outcomes seriesId).bind fun o ↦
    if now < o.time + cacheTtlSeconds then o.observation else none

/-- What the cache of observations is told of an outcome. -/
def FredOutcome.observationWrite (o : FredOutcome F) : Option (Write String (FredObservation F)) :=
  o.observation.map fun obs ↦ ⟨observationCacheKey o.seriesId, o.time, some obs⟩

/-- What the cache of values is told of an outcome. -/
def FredOutcome.valueWrite (o : FredOutcome F) : Option (Write String F) :=
  o.observation.map fun obs ↦ ⟨cacheKey o.seriesId, o.time, some obs.value⟩

/-- What the negative cache is told of an outcome. -/
def FredOutcome.negativeWrite (o : FredOutcome F) : Option (Write String Unit) :=
  some ⟨cacheKey o.seriesId, o.time, if o.observation.isSome then none else some ()⟩

theorem cacheKey_inj {a b : String} : cacheKey a = cacheKey b ↔ a = b :=
  String.append_right_inj _

theorem observationCacheKey_inj {a b : String} :
    observationCacheKey a = observationCacheKey b ↔ a = b :=
  String.append_right_inj _

section SuccessWrites

variable {V : Type} {key : String → String} {value : FredObservation F → V}
  {write : FredOutcome F → Option (Write String V)} {outcomes : List (FredOutcome F)}
  {seriesId : String}

/-- Where a write is made of every success, the last one for a series is made of its last. -/
theorem lastWith_successWrite (hkey : ∀ {a b : String}, key a = key b ↔ a = b)
    (hwrite : ∀ o, write o =
      o.observation.map fun obs ↦ ⟨key o.seriesId, o.time, some (value obs)⟩) :
    lastWith Write.key (key seriesId) (outcomes.filterMap write) =
      (lastSuccess outcomes seriesId).bind write := by
  rw [lastSuccess, lastWith_filterMap FredOutcome.seriesId seriesId]
  · congr 2
    refine List.filter_congr fun o _ ↦ ?_
    rw [hwrite, Option.isSome_map]
  · intro o w hw
    rw [hwrite] at hw
    obtain ⟨obs, -, rfl⟩ := Option.map_eq_some_iff.1 hw
    exact hkey

/-- **What the last write says, while it is live, is the latest in the history.** -/
theorem exists_liveWrite_iff (hkey : ∀ {a b : String}, key a = key b ↔ a = b)
    (hwrite : ∀ o, write o =
      o.observation.map fun obs ↦ ⟨key o.seriesId, o.time, some (value obs)⟩)
    {now : ℚ} {v : V} :
    (∃ w, lastWith Write.key (key seriesId) (outcomes.filterMap write) = some w ∧
        w.value = some v ∧ now < w.time + cacheTtlSeconds) ↔
      (latestInHistory outcomes now seriesId).map value = some v := by
  rw [lastWith_successWrite hkey hwrite, latestInHistory]
  constructor
  · rintro ⟨w, hw, hvalue, hlive⟩
    obtain ⟨o, ho, hw⟩ := Option.bind_eq_some_iff.1 hw
    rw [hwrite] at hw
    obtain ⟨obs, hobs, rfl⟩ := Option.map_eq_some_iff.1 hw
    rw [ho, Option.bind_some, if_pos hlive, hobs]
    exact hvalue
  · intro hvalue
    obtain ⟨obs, hobs, rfl⟩ := Option.map_eq_some_iff.1 hvalue
    obtain ⟨o, ho, hlive⟩ := Option.bind_eq_some_iff.1 hobs
    split at hlive
    · next hlt =>
      rw [ho, Option.bind_some, hwrite, hlive]
      exact ⟨_, rfl, rfl, hlt⟩
    · cases hlive

end SuccessWrites

theorem lastWith_negativeWrite (outcomes : List (FredOutcome F)) (seriesId : String) :
    lastWith Write.key (cacheKey seriesId) (outcomes.filterMap FredOutcome.negativeWrite) =
      (lastOutcome outcomes seriesId).bind FredOutcome.negativeWrite := by
  rw [lastOutcome, lastWith_filterMap FredOutcome.seriesId seriesId]
  · congr 2
    exact List.filter_eq_self.2 fun _ _ ↦ rfl
  · intro o w hw
    obtain rfl := Option.some.inj hw
    exact cacheKey_inj

/-! ### The caches and the history -/

/-- A relation between what was written to a cache and what it holds. -/
abbrev CacheRelation := ∀ V : Type, ℚ → List (Write String V) → TtlCache String V → Prop

/-- The three caches stand in a relation to what came of the series so far. -/
structure CachesAre (R : CacheRelation) (s : FredState F) : Prop where
  value : R F cacheTtlSeconds (s.outcomes.filterMap FredOutcome.valueWrite) s.caches.value
  observation : R _ cacheTtlSeconds (s.outcomes.filterMap FredOutcome.observationWrite)
    s.caches.observation
  negative : R Unit negativeCacheTtlSeconds (s.outcomes.filterMap FredOutcome.negativeWrite)
    s.caches.negative

/-- Nothing came of a series later than now. -/
def HistoryIsPast (s : FredState F) : Prop :=
  ∀ o ∈ s.outcomes, o.time ≤ s.now

/-- **The actions of the source keep the caches in step with the history.** -/
theorem fredKeeps_cachesAre {R : CacheRelation}
    (hset : ∀ V ttl writes cache now k v, R V ttl writes cache →
      R V ttl (writes ++ [⟨k, now, some v⟩]) (cache.set ttl now k v))
    (hpop : ∀ V ttl writes cache now k, R V ttl writes cache →
      R V ttl (writes ++ [⟨k, now, none⟩]) (cache.pop k)) :
    FredKeeps (CachesAre R : FredState F → Prop) where
  advance _ _ h := ⟨h.value, h.observation, h.negative⟩
  start _ _ h := ⟨h.value, h.observation, h.negative⟩
  failInfo _ h := ⟨h.value, h.observation, h.negative⟩
  succeedInfo _ _ h := ⟨h.value, h.observation, h.negative⟩
  request _ _ _ h := ⟨h.value, h.observation, h.negative⟩
  tick _ h := ⟨h.value, h.observation, h.negative⟩
  fail := by
    intro s seriesId h
    refine ⟨?_, ?_, ?_⟩
    all_goals simp only [FredState.fail, List.filterMap_append]
    · exact (List.append_nil _).symm ▸ h.value
    · exact (List.append_nil _).symm ▸ h.observation
    · exact hset _ _ _ _ _ _ _ h.negative
  succeed := by
    intro s seriesId observation h
    refine ⟨?_, ?_, ?_⟩
    all_goals simp only [FredState.succeed, List.filterMap_append]
    · exact hset _ _ _ _ _ _ _ h.value
    · exact hset _ _ _ _ _ _ _ h.observation
    · exact hpop _ _ _ _ _ _ h.negative

theorem fredKeeps_historyIsPast : FredKeeps (HistoryIsPast : FredState F → Prop) where
  advance _ _ h := h
  start _ _ h := h
  failInfo _ h := h
  succeedInfo _ _ h := h
  request _ _ _ h := h
  tick hle h o ho := (h o ho).trans (le_add_of_nonneg_right hle)
  fail := by
    intro s seriesId h o ho
    rcases List.mem_append.1 ho with ho | ho
    · exact h o ho
    · rw [List.mem_singleton.1 ho]
      exact le_refl s.now
  succeed := by
    intro s seriesId observation h o ho
    rcases List.mem_append.1 ho with ho | ho
    · exact h o ho
    · rw [List.mem_singleton.1 ho]
      exact le_refl s.now

/-! ### Every interleaving -/

variable {es : List (FredEvent F)}

theorem fredKeeps_within :
    FredKeeps (CachesAre (fun V ↦ @Within String V _) : FredState F → Prop) :=
  fredKeeps_cachesAre (fun _ _ _ _ now k v h ↦ within_set h now k v)
    fun _ _ _ _ now k h ↦ within_pop h now k

theorem cachesAre_within_evict (cache : FredCache) (key : String)
    (h : CachesAre (fun V ↦ @Within String V _) s) :
    CachesAre (fun V ↦ @Within String V _) { s with caches := s.caches.evict cache key } := by
  cases cache with
  | value => exact ⟨within_evict h.value key, h.observation, h.negative⟩
  | observation => exact ⟨h.value, within_evict h.observation key, h.negative⟩
  | negative => exact ⟨h.value, h.observation, within_evict h.negative key⟩
  | seriesInfo => exact ⟨h.value, h.observation, h.negative⟩
  | seriesInfoNegative => exact ⟨h.value, h.observation, h.negative⟩

theorem cachesAre_start {R : CacheRelation} (hempty : ∀ V ttl, R V ttl [] ∅) :
    CachesAre R ({} : FredState F) :=
  ⟨hempty _ _, hempty _ _, hempty _ _⟩

/-- **The caches hold nothing but the history**, whatever the interleaving and the evictions. -/
theorem cachesAre_within_of_run (hrun : run (fredStep configured) {} es = some s) :
    CachesAre (fun V ↦ @Within String V _) s :=
  fredKeeps_within.run cachesAre_within_evict
    (cachesAre_start fun _ _ ↦ within_of_holds holds_empty) hrun

theorem historyIsPast_of_run (hrun : run (fredStep configured) {} es = some s) :
    HistoryIsPast s :=
  fredKeeps_historyIsPast.run (fun _ _ h ↦ h) (fun _ ho ↦ absurd ho List.not_mem_nil) hrun

/-- An observation that is found is the last success of its series. -/
theorem lastSuccess_of_observation (h : CachesAre (fun V ↦ @Within String V _) s)
    {seriesId : String} {obs : FredObservation F}
    (hget : s.caches.observation.get s.now (observationCacheKey seriesId) = some obs) :
    latestInHistory s.outcomes s.now seriesId = some obs := by
  have hobs : (latestInHistory s.outcomes s.now seriesId).map id = some obs :=
    (exists_liveWrite_iff observationCacheKey_inj fun _ ↦ rfl).1 (get_of_within h.observation hget)
  rwa [Option.map_id] at hobs

/-- A value that is found is that of the last success of its series. -/
theorem lastSuccess_of_value (h : CachesAre (fun V ↦ @Within String V _) s)
    {seriesId : String} {value : F}
    (hget : s.caches.value.get s.now (cacheKey seriesId) = some value) :
    (latestInHistory s.outcomes s.now seriesId).map FredObservation.value = some value :=
  (exists_liveWrite_iff cacheKey_inj fun _ ↦ rfl).1 (get_of_within h.value hget)

/-! ### The requests -/

/-- A request is made in the units of its series and reaches back as far as its series needs. -/
structure FredRequest.Covers (r : FredRequest) : Prop where
  units : r.units = seriesYoyUnits.lookup r.seriesId
  manual : ∀ days, seriesLookbackDays.lookup r.seriesId = some days → days ≤ r.lookbackDays
  change : r.units ≠ none → 540 ≤ r.lookbackDays

theorem le_effectiveLookback {seriesId : String} (lookbackDays : ℤ)
    {frequencyShort : Option String} {days : ℤ}
    (h : days ∈ lookbackCandidates seriesId frequencyShort) :
    days ≤ effectiveLookback seriesId lookbackDays frequencyShort := by
  rw [effectiveLookback, List.foldl_max_eq_max (List.ne_nil_of_mem h)]
  exact le_max_of_le_right (List.le_max_of_mem h)

theorem covers_request (c : FredCall) (frequencyShort : Option String) :
    FredRequest.Covers ⟨c.seriesId, effectiveLookback c.seriesId c.lookbackDays frequencyShort,
      seriesYoyUnits.lookup c.seriesId⟩ where
  units := rfl
  manual days hdays := by
    refine le_effectiveLookback _ (List.mem_append_left _ (List.mem_append_left _ ?_))
    exact Option.mem_toList.2 hdays
  change hunits := by
    refine le_effectiveLookback _ (List.mem_append_right _ ?_)
    rw [if_pos (Option.isSome_iff_ne_none.2 hunits)]
    exact List.mem_singleton_self _

theorem fredKeeps_covers :
    FredKeeps (fun s : FredState F ↦ ∀ r ∈ s.requests, r.Covers) where
  advance _ _ h := h
  start _ _ h := h
  fail _ h := h
  succeed _ _ h := h
  failInfo _ h := h
  succeedInfo _ _ h := h
  tick _ h := h
  request := by
    intro s call c frequencyShort h r hr
    rcases List.mem_append.1 hr with hr | hr
    · exact h r hr
    · exact List.mem_singleton.1 hr ▸ covers_request c frequencyShort

/-- **Every request reaches back as far as its series needs.** -/
theorem covers_of_run (hrun : run (fredStep configured) ({} : FredState F) es = some s) :
    ∀ r ∈ s.requests, r.Covers :=
  fredKeeps_covers.run (fun _ _ h ↦ h) (fun _ hr ↦ absurd hr List.not_mem_nil) hrun

/-! ### The series of a call -/

/-- The series a suspended call is busy with and those it has still to try. -/
def FredPhase.todo : FredPhase F → List String
  | .awaitInfo c _ | .awaitData c _ => c.seriesId :: c.rest
  | .idle | .finished _ | .cancelled => []

/-- A call moves on, to the end of a chain of series. -/
def MovesOn (s s' : FredState F) (call : ℕ) (chain : List String) : Prop :=
  s'.chain = s.chain ∧
    ∃ phase, s'.phase = Function.update s.phase call phase ∧ phase.todo <:+ chain

/-- What a call has still to try is the end of its chain. -/
def TodoInChain (s : FredState F) : Prop :=
  ∀ call, (s.phase call).todo <:+ s.chain call

variable {c : FredCall} {lookbackDays : ℤ} {chain : List String}

theorem phase_advance (s : FredState F) (call : ℕ) (phase : FredPhase F) :
    (s.advance call phase).phase call = phase :=
  Function.update_self ..

theorem movesOn_advance {phase : FredPhase F} (h : phase.todo <:+ chain) :
    MovesOn s (s.advance call phase) call chain :=
  ⟨rfl, phase, rfl, h⟩

theorem movesOn_request (s : FredState F) (c : FredCall) (frequencyShort : Option String) :
    MovesOn s (s.request call c frequencyShort) call (c.seriesId :: c.rest) :=
  ⟨rfl, .awaitData c 1, rfl, List.suffix_rfl⟩

theorem movesOn_resolve (s : FredState F) (c : FredCall) :
    MovesOn s (s.resolve call c) call (c.seriesId :: c.rest) := by
  rw [FredState.resolve]
  split
  · exact movesOn_request s c _
  · split
    · exact movesOn_request s c _
    · exact movesOn_advance List.suffix_rfl

theorem MovesOn.mono {chain' : List String} (h : MovesOn s s' call chain) (hle : chain <:+ chain') :
    MovesOn s s' call chain' := by
  obtain ⟨hchain, phase, hphase, htodo⟩ := h
  exact ⟨hchain, phase, hphase, htodo.trans hle⟩

theorem movesOn_walk (s : FredState F) (chain : List String) :
    MovesOn s (s.walk configured lookbackDays call chain) call chain := by
  induction chain generalizing s with
  | nil => exact movesOn_advance List.suffix_rfl
  | cons seriesId rest ih =>
    rw [FredState.walk]
    split
    · exact movesOn_advance (List.nil_suffix)
    · exact (ih s).mono (List.suffix_cons _ _)
    · split
      · exact movesOn_resolve s _
      · exact (ih (s.fail seriesId)).mono (List.suffix_cons _ _)

theorem TodoInChain.suffix (h : TodoInChain s) {phase : FredPhase F}
    (hphase : s.phase call = phase) : phase.todo <:+ s.chain call :=
  hphase ▸ h call

theorem TodoInChain.movesOn (h : TodoInChain s) (hmoves : MovesOn s s' call chain)
    (hle : chain <:+ s.chain call) : TodoInChain s' := by
  obtain ⟨hchain, phase, hphase, htodo⟩ := hmoves
  intro other
  rw [hchain, hphase]
  by_cases hcall : other = call
  · rw [hcall, Function.update_self]
    exact htodo.trans hle
  · rw [Function.update_of_ne hcall]
    exact h other

/-- A call that is started has nothing to do yet. -/
theorem TodoInChain.start (h : TodoInChain s) (hidle : s.phase call = .idle) (chain : List String) :
    TodoInChain (s.start call chain) := by
  intro other
  show (s.phase other).todo <:+ Function.update s.chain call chain other
  by_cases hcall : other = call
  · rw [hcall, hidle]
    exact List.nil_suffix
  · rw [Function.update_of_ne hcall]
    exact h other

theorem TodoInChain.walk_start (h : TodoInChain s) (hidle : s.phase call = .idle)
    (chain : List String) :
    TodoInChain ((s.start call chain).walk configured lookbackDays call chain) := by
  refine (h.start hidle chain).movesOn (movesOn_walk _ chain) ?_
  show chain <:+ Function.update s.chain call chain call
  rw [Function.update_self]

theorem todoInChain_step (h : TodoInChain s) (hstep : fredStep configured s e = some s') :
    TodoInChain s' := by
  cases fredMove_of_step hstep with
  | tick => exact h
  | evict => exact h
  | start chain lookbackDays hidle => exact h.walk_start hidle chain
  | cachedValue hidle =>
    exact (h.start hidle _).movesOn (movesOn_advance List.nil_suffix) List.suffix_rfl
  | retryInfo hphase =>
    have htodo := h.suffix hphase
    exact h.movesOn (movesOn_advance List.suffix_rfl) htodo
  | infoFailed hphase => exact h.movesOn (movesOn_request (s.failInfo _) _ _) (h.suffix hphase)
  | infoAnswered metadata hphase =>
    exact h.movesOn (movesOn_request (s.succeedInfo _ _) _ _) (h.suffix hphase)
  | retryData hphase =>
    have htodo := h.suffix hphase
    exact h.movesOn (movesOn_advance List.suffix_rfl) htodo
  | dataFailed hphase =>
    exact h.movesOn (movesOn_walk (s.fail _) _) ((List.suffix_cons _ _).trans (h.suffix hphase))
  | dataAnswered observation hphase =>
    exact h.movesOn ⟨rfl, .finished _, rfl, List.nil_suffix⟩ (h.suffix hphase)
  | cancel => exact h.movesOn (movesOn_advance List.nil_suffix) List.suffix_rfl

theorem todoInChain_start : TodoInChain ({} : FredState F) :=
  fun _ ↦ List.suffix_rfl

theorem todoInChain_of_run (hrun : run (fredStep configured) {} es = some s) : TodoInChain s :=
  invariant_run todoInChain_step todoInChain_start hrun

/-! ### What a call returns -/

/-- The value a call returns, if any. -/
def FredResult.value : FredResult F → Option F
  | .cachedValue value => some value
  | .observed observation => observation.map FredObservation.value

theorem cachedAnswer_eq_some_some {seriesId : String} {obs : FredObservation F}
    (h : s.cachedAnswer seriesId = some (some obs)) :
    s.caches.observation.get s.now (observationCacheKey seriesId) = some obs := by
  rw [FredState.cachedAnswer] at h
  split at h
  · next hget => rw [hget, Option.some.inj h]
  · dsimp only at h
    split at h
    · cases h
    · split at h <;> cases h

/-- A call that asks for data or metadata has not returned. -/
theorem resolve_ne_finished (s : FredState F) (c : FredCall) (result : FredResult F) :
    (s.resolve call c).phase call ≠ .finished result := by
  rw [FredState.resolve]
  split
  · show Function.update s.phase call _ call ≠ _
    rw [Function.update_self]
    exact fun h ↦ by cases h
  · split
    · show Function.update s.phase call _ call ≠ _
      rw [Function.update_self]
      exact fun h ↦ by cases h
    · rw [phase_advance]
      exact fun h ↦ by cases h

/-- What a call returns at the end of its walk is in the cache of observations. -/
theorem walk_finished {result : FredResult F} (chain : List String)
    (h : (s.walk configured lookbackDays call chain).phase call = .finished result) :
    result = .observed none ∨ ∃ seriesId ∈ chain, ∃ obs, result = .observed (some obs) ∧
      (s.walk configured lookbackDays call chain).caches.observation.get
        (s.walk configured lookbackDays call chain).now (observationCacheKey seriesId) =
          some obs := by
  induction chain generalizing s with
  | nil =>
    rw [FredState.walk, phase_advance] at h
    exact .inl (FredPhase.finished.inj h).symm
  | cons seriesId rest ih =>
    rw [FredState.walk] at h ⊢
    split at h
    · next obs hcached =>
      rw [phase_advance] at h
      exact .inr ⟨seriesId, List.mem_cons_self .., obs, (FredPhase.finished.inj h).symm,
        cachedAnswer_eq_some_some hcached⟩
    · refine (ih h).imp_right ?_
      rintro ⟨id, hid, hfound⟩
      exact ⟨id, List.mem_cons_of_mem _ hid, hfound⟩
    · split at h
      · exact absurd h (resolve_ne_finished s _ result)
      · next hconfigured =>
        rw [if_neg hconfigured]
        refine (ih h).imp_right ?_
        rintro ⟨id, hid, hfound⟩
        exact ⟨id, List.mem_cons_of_mem _ hid, hfound⟩

/-- The call whose phase is new is the one that moved. -/
theorem eq_mover {mover : ℕ} {phase phase' : FredPhase F}
    (hphase : s'.phase = Function.update s.phase mover phase) (hnew : s.phase call ≠ phase')
    (h : s'.phase call = phase') : call = mover := by
  by_contra hne
  rw [hphase, Function.update_of_ne hne] at h
  exact hnew h

/-- A call whose new phase is another one has not returned. -/
theorem ne_finished_of_moved {mover : ℕ} {phase : FredPhase F} {result : FredResult F}
    (hphase : s'.phase = Function.update s.phase mover phase)
    (hnew : s.phase call ≠ .finished result) (hne : phase ≠ .finished result) :
    s'.phase call ≠ .finished result := by
  intro h
  obtain rfl := eq_mover hphase hnew h
  rw [hphase, Function.update_self] at h
  exact hne h

/-- A value that a call returns is in a cache, under a series of its chain. -/
theorem found_of_step (htodo : TodoInChain s) (hstep : fredStep configured s e = some s')
    {result : FredResult F} (hnew : s.phase call ≠ .finished result)
    (h : s'.phase call = .finished result) :
    result = .observed none ∨
      (∃ seriesId ∈ s'.chain call, ∃ value, result = .cachedValue value ∧
        s'.caches.value.get s'.now (cacheKey seriesId) = some value) ∨
      ∃ seriesId ∈ s'.chain call, ∃ obs, result = .observed (some obs) ∧
        s'.caches.observation.get s'.now (observationCacheKey seriesId) = some obs := by
  cases fredMove_of_step hstep with
  | tick => exact absurd h hnew
  | evict => exact absurd h hnew
  | @start _ mover chain lookbackDays hidle =>
    have hmoves : MovesOn (s.start mover chain)
        ((s.start mover chain).walk configured lookbackDays mover chain) mover chain :=
      movesOn_walk _ _
    obtain ⟨hchain, phase, hphase, -⟩ := hmoves
    obtain rfl := eq_mover hphase hnew h
    refine (walk_finished chain h).imp_right fun ⟨seriesId, hmem, hfound⟩ ↦
      .inr ⟨seriesId, ?_, hfound⟩
    rw [hchain]
    show seriesId ∈ Function.update s.chain call chain call
    rwa [Function.update_self]
  | @cachedValue _ mover seriesId value hidle hget =>
    obtain rfl := eq_mover (s := s) rfl hnew h
    rw [phase_advance] at h
    refine .inr (.inl ⟨seriesId, ?_, value, (FredPhase.finished.inj h).symm, hget⟩)
    show seriesId ∈ Function.update s.chain call [seriesId] call
    rw [Function.update_self]
    exact List.mem_singleton_self _
  | retryInfo =>
    exact absurd h (ne_finished_of_moved (s := s) rfl hnew fun heq ↦ by cases heq)
  | infoFailed =>
    exact absurd h (ne_finished_of_moved (s := s) rfl hnew fun heq ↦ by cases heq)
  | infoAnswered =>
    exact absurd h (ne_finished_of_moved (s := s) rfl hnew fun heq ↦ by cases heq)
  | retryData =>
    exact absurd h (ne_finished_of_moved (s := s) rfl hnew fun heq ↦ by cases heq)
  | @dataFailed _ mover c attempt hphase =>
    have hmoves : MovesOn (s.fail c.seriesId)
        ((s.fail c.seriesId).walk configured c.lookbackDays mover c.rest) mover c.rest :=
      movesOn_walk _ _
    obtain ⟨hchain, phase, hmoved, -⟩ := hmoves
    obtain rfl := eq_mover hmoved hnew h
    refine (walk_finished c.rest h).imp_right fun ⟨seriesId, hmem, hfound⟩ ↦
      .inr ⟨seriesId, ?_, hfound⟩
    rw [hchain]
    exact (htodo.suffix hphase).subset (List.mem_cons_of_mem _ hmem)
  | @dataAnswered _ mover c attempt observation hphase =>
    obtain rfl := eq_mover (s := s) rfl hnew h
    rw [phase_advance] at h
    have hmem : c.seriesId ∈ s.chain call := (htodo.suffix hphase).subset (List.mem_cons_self ..)
    refine .inr (.inr ⟨c.seriesId, hmem, observation, (FredPhase.finished.inj h).symm, ?_⟩)
    have hlive : s.now < s.now + cacheTtlSeconds := by
      rw [cacheTtlSeconds]
      linarith
    refine get_eq_some_iff.2 ⟨_, ?_, hlive⟩
    exact (lookup_set ..).trans (if_pos rfl)
  | cancel =>
    exact absurd h (ne_finished_of_moved (s := s) rfl hnew fun heq ↦ by cases heq)

/-- **A value that a call returns is that of the last success of a series of its chain, less than a
day old.** -/
theorem returned_of_step (hrun : run (fredStep configured) {} es = some s)
    (hstep : fredStep configured s e = some s') {result : FredResult F}
    (hnew : s.phase call ≠ .finished result) (h : s'.phase call = .finished result) {value : F}
    (hvalue : result.value = some value) :
    ∃ seriesId ∈ s'.chain call, ∃ success obs, lastSuccess s'.outcomes seriesId = some success ∧
      success.observation = some obs ∧ obs.value = value ∧
      (result = .cachedValue value ∨ result = .observed (some obs)) ∧
      success.time ≤ s'.now ∧ s'.now < success.time + 86400 := by
  have hrun' : run (fredStep configured) {} (es ++ [e]) = some s' :=
    run_concat_eq_some_iff.2 ⟨s, hrun, hstep⟩
  have hwithin := cachesAre_within_of_run hrun'
  -- what is found is the latest of the history, and that is a success less than a day old
  have hlatest {seriesId : String} {obs : FredObservation F}
      (hobs : latestInHistory s'.outcomes s'.now seriesId = some obs) :
      ∃ success, lastSuccess s'.outcomes seriesId = some success ∧
        success.observation = some obs ∧ success.time ≤ s'.now ∧
        s'.now < success.time + 86400 := by
    obtain ⟨success, hsuccess, hlive⟩ := Option.bind_eq_some_iff.1 hobs
    split at hlive
    · next hlt =>
      have hmem := (mem_of_lastWith_eq_some hsuccess).1
      exact ⟨success, hsuccess, hlive, historyIsPast_of_run hrun' _ (List.mem_filter.1 hmem).1, hlt⟩
    · cases hlive
  rcases found_of_step (todoInChain_of_run hrun) hstep hnew h with
    rfl | ⟨seriesId, hmem, v, rfl, hget⟩ | ⟨seriesId, hmem, obs, rfl, hget⟩
  · cases hvalue
  · obtain ⟨obs, hobs, hv⟩ := Option.map_eq_some_iff.1 (lastSuccess_of_value hwithin hget)
    obtain ⟨success, hsuccess, hanswer, hpast, hlive⟩ := hlatest hobs
    obtain rfl : v = value := Option.some.inj hvalue
    exact ⟨seriesId, hmem, success, obs, hsuccess, hanswer, hv, .inl rfl, hpast, hlive⟩
  · obtain ⟨success, hsuccess, hanswer, hpast, hlive⟩ :=
      hlatest (lastSuccess_of_observation hwithin hget)
    exact ⟨seriesId, hmem, success, obs, hsuccess, hanswer, Option.some.inj hvalue, .inr rfl,
      hpast, hlive⟩

/-- A series without metadata is asked for, and an hour later the indicator is answered with it. -/
theorem returned_of_step_hourLater :
    ∃ s s' : FredState ℤ,
      run (fredStep true) {}
        [.fetchSeriesObservation 0 "UNRATE" 365, .infoAnswer 0 .otherError,
          .dataAnswer 0 (.answered (some [⟨some 20000, some 4⟩, ⟨some 20031, none⟩])) 20040,
          .tick 3600] = some s ∧
      fredStep true s (.fetchIndicatorObservation 1 "unemployment_us" 365) = some s' ∧
      ∃ seriesId ∈ s'.chain 1, ∃ success obs, lastSuccess s'.outcomes seriesId = some success ∧
        success.observation = some obs ∧ obs.value = 4 ∧
        (FredResult.observed (some ⟨(4 : ℤ), 20000, "fred", "pct_yoy"⟩) = .cachedValue 4 ∨
          FredResult.observed (some ⟨4, 20000, "fred", "pct_yoy"⟩) = .observed (some obs)) ∧
        success.time ≤ s'.now ∧ s'.now < success.time + 86400 := by
  obtain ⟨s, s', hrun, hstep, hnew, hreturned⟩ : ∃ s s' : FredState ℤ,
      run (fredStep true) {}
        [.fetchSeriesObservation 0 "UNRATE" 365, .infoAnswer 0 .otherError,
          .dataAnswer 0 (.answered (some [⟨some 20000, some 4⟩, ⟨some 20031, none⟩])) 20040,
          .tick 3600] = some s ∧
      fredStep true s (.fetchIndicatorObservation 1 "unemployment_us" 365) = some s' ∧
      s.phase 1 ≠ .finished (.observed (some ⟨4, 20000, "fred", "pct_yoy"⟩)) ∧
      s'.phase 1 = .finished (.observed (some ⟨4, 20000, "fred", "pct_yoy"⟩)) :=
    ⟨_, _, rfl, rfl, by decide +kernel, by decide +kernel⟩
  exact ⟨s, s', hrun, hstep, returned_of_step hrun hstep hnew hreturned rfl⟩

end InvestmentAssistant
