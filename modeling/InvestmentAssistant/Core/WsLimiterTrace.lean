import InvestmentAssistant.Core.WsLimiterRuns

/-!
# What the in-process store keeps of released connections

While Redis stays away, `_memory` and `_memory_conn_ids` are kept in step by `_acquire_memory`,
which also drops what has expired, and by `_release_memory`, which returns early when the IP has no
map left.

A released connection is forgotten exactly when its IP still has a map
(`notMem_memoryConnIds_release_iff`). So a run in which this is always so leaves nothing behind
(`no_trace_of_keepsEntry`); `late_release_leaves_trace` is a run where it is not.
-/

namespace InvestmentAssistant

open Transition WebSocketConnectionLimiter

namespace LimiterWorld

variable {s : LimiterSettings} {w : LimiterWorld}

/-! ### The invariant -/

/-- Redis is not reached. -/
def OnMemory : LimiterEvent → Prop
  | .wait _ => True
  | .acquire fate _ _ _ => fate = .unreachable
  | .release fate _ _ => fate = .unreachable

instance (e : LimiterEvent) : Decidable (OnMemory e) := by
  cases e <;> unfold OnMemory <;> infer_instance

/-- A call names the IP its connection belongs to. -/
def OfOwner (owner : String → String) : LimiterEvent → Prop
  | .wait _ => True
  | .acquire _ clientIp connId _ => clientIp = owner connId
  | .release _ clientIp connId => clientIp = owner connId

/-- A connection that the limiter tracks in memory is released while its IP still has a map. -/
def KeepsEntry (w : LimiterWorld) : LimiterEvent → Prop
  | .release _ clientIp connId =>
    connId ∈ w.limiter.memoryConnIds → w.limiter.memory.lookup clientIp ≠ none
  | _ => True

/-- The invariant of a limiter on its own: what it holds are connections that were granted and not
released, in the map of their IP, and it tracks no others. -/
structure Traced (owner : String → String) (w : LimiterWorld) : Prop where
  tracked : ∀ id ∈ w.limiter.memoryConnIds, ∃ g ∈ w.grants, g.connId = id
  held : ∀ ip connections id expiry, w.limiter.memory.lookup ip = some connections →
    connections.lookup id = some expiry → ip = owner id ∧ id ∈ w.limiter.memoryConnIds

variable {owner : String → String}

/-- A limiter that holds nothing. -/
theorem traced_initial (now : ℚ) (redis : Table String RedisHash) :
    Traced owner (initial now redis) :=
  ⟨fun id hid ↦ absurd hid (Finset.notMem_empty id), fun _ _ _ _ h ↦ nomatch h⟩

/-- `_acquire_memory` tracks what it registers. -/
theorem Traced.acquireMemory (h : Traced owner w) {connId : String} (now : ℚ) (expiry : ℚ) :
    Traced owner (LimiterWorld.record (w.limiter.acquireMemory s now (owner connId) connId).1
      ⟨owner connId, connId, .memory, expiry⟩
      { w with
        now
        limiter := (w.limiter.acquireMemory s now (owner connId) connId).2 }) := by
  have hunexpired : ∀ id expiry,
      (w.limiter.unexpiredConnections now (owner connId)).lookup id = some expiry →
        owner connId = owner id ∧ id ∈ w.limiter.memoryConnIds := by
    intro id expiry hlookup
    rw [unexpiredConnections, Table.lookup_filter] at hlookup
    have hmem := (Option.filter_eq_some_iff.1 hlookup).1
    rcases hmap : w.limiter.memory.lookup (owner connId) with - | connections
    · rw [hmap] at hmem
      cases hmem
    · rw [hmap] at hmem
      exact h.held _ _ _ _ hmap hmem
  obtain hcase | ⟨-, hcase⟩ := acquireMemory_cases s now (owner connId) connId w.limiter
  · rw [hcase]
    refine ⟨h.tracked, fun ip connections id expiry hmap₀ hlookup ↦ ?_⟩
    have hmap : (w.limiter.memory.insert (owner connId) _).lookup ip = some connections := hmap₀
    by_cases hip : ip = owner connId
    · subst hip
      rw [AList.lookup_insert] at hmap
      obtain rfl := Option.some.inj hmap
      exact hunexpired id expiry hlookup
    · rw [AList.lookup_insert_ne hip] at hmap
      exact h.held _ _ _ _ hmap hlookup
  · rw [hcase]
    refine ⟨fun id hid ↦ ?_, fun ip connections id expiry hmap₀ hlookup ↦ ?_⟩
    · obtain rfl | hid := Finset.mem_insert.1 hid
      · exact ⟨_, List.mem_append_right _ (List.mem_singleton_self _), rfl⟩
      · obtain ⟨g, hg, hgid⟩ := h.tracked id hid
        exact ⟨g, List.mem_append_left _ hg, hgid⟩
    · have hmap : (w.limiter.memory.insert (owner connId) _).lookup ip = some connections := hmap₀
      by_cases hip : ip = owner connId
      · subst hip
        rw [AList.lookup_insert] at hmap
        obtain rfl := Option.some.inj hmap
        by_cases hid : id = connId
        · subst hid
          exact ⟨rfl, Finset.mem_insert_self _ _⟩
        · rw [AList.lookup_insert_ne hid] at hlookup
          exact (hunexpired id expiry hlookup).imp_right Finset.mem_insert_of_mem
      · rw [AList.lookup_insert_ne hip] at hmap
        exact (h.held _ _ _ _ hmap hlookup).imp_right Finset.mem_insert_of_mem

/-- A release that finds the map of its IP leaves nothing of the connection. -/
theorem Traced.release (h : Traced owner w) {connId : String}
    (hkeep : connId ∈ w.limiter.memoryConnIds → w.limiter.memory.lookup (owner connId) ≠ none) :
    Traced owner (w.release .unreachable (owner connId) connId) := by
  have htracked : ∀ id ∈ w.limiter.memoryConnIds, id ≠ connId →
      ∃ g ∈ withoutConnection (owner connId) connId w.grants, g.connId = id := by
    intro id hid hne
    obtain ⟨g, hg, rfl⟩ := h.tracked id hid
    exact ⟨g, mem_withoutConnection.2 ⟨hg, Or.inr hne⟩, rfl⟩
  unfold LimiterWorld.release
  dsimp only
  by_cases hmem : connId ∈ w.limiter.memoryConnIds
  · obtain ⟨connections, hmap⟩ := Option.ne_none_iff_exists'.1 (hkeep hmem)
    rw [if_pos hmem, releaseMemory, hmap]
    refine ⟨fun id hid ↦ ?_, fun ip connections' id expiry hmap' hlookup ↦ ?_⟩
    · obtain ⟨hne, hid'⟩ := Finset.mem_erase.1 hid
      exact htracked id hid' hne
    · have hold : ∃ connections₀, w.limiter.memory.lookup ip = some connections₀ ∧
          connections₀.lookup id = some expiry ∧ id ≠ connId := by
        by_cases hip : ip = owner connId
        · subst hip
          dsimp only at hmap'
          split at hmap'
          · rw [AList.lookup_erase] at hmap'
            cases hmap'
          · rw [AList.lookup_insert] at hmap'
            obtain rfl := Option.some.inj hmap'
            have hne : id ≠ connId := by
              rintro rfl
              rw [AList.lookup_erase] at hlookup
              cases hlookup
            rw [AList.lookup_erase_ne hne] at hlookup
            exact ⟨connections, hmap, hlookup, hne⟩
        · have hother : w.limiter.memory.lookup ip = some connections' := by
            dsimp only at hmap'
            split at hmap'
            · rwa [AList.lookup_erase_ne hip] at hmap'
            · rwa [AList.lookup_insert_ne hip] at hmap'
          refine ⟨connections', hother, hlookup, ?_⟩
          rintro rfl
          exact hip (h.held _ _ _ _ hother hlookup).1
      obtain ⟨connections₀, hmap₀, hlookup₀, hne⟩ := hold
      exact (h.held _ _ _ _ hmap₀ hlookup₀).imp_right fun hid ↦ Finset.mem_erase.2 ⟨hne, hid⟩
  · rw [if_neg hmem]
    exact ⟨fun id hid ↦ htracked id hid (ne_of_mem_of_not_mem hid hmem), h.held⟩

/-- Every step of a limiter on its own keeps the trace, if it keeps the entry it releases. -/
theorem Traced.step {w' : LimiterWorld} {e : LimiterEvent} (h : Traced owner w)
    (hguard : KeepsEntry w e ∧ OnMemory e ∧ OfOwner owner e) (hstep : w.step s e = some w') :
    Traced owner w' := by
  obtain ⟨hkeep, hmemory, howner⟩ := hguard
  rcases e with seconds | ⟨fate, clientIp, connId, delay⟩ | ⟨fate, clientIp, connId⟩
  · obtain ⟨-, heq⟩ := Option.ite_none_right_eq_some.1 hstep
    obtain rfl := Option.some.inj heq
    exact ⟨h.tracked, h.held⟩
  · obtain ⟨-, heq⟩ := Option.ite_none_right_eq_some.1 hstep
    obtain rfl := Option.some.inj heq
    obtain rfl : fate = .unreachable := hmemory
    obtain rfl : clientIp = owner connId := howner
    exact h.acquireMemory (w.now + delay) (w.now + delay + s.ttlSeconds)
  · obtain rfl := Option.some.inj hstep
    obtain rfl : fate = .unreachable := hmemory
    obtain rfl : clientIp = owner connId := howner
    exact h.release hkeep

/-- The guard is what a release needs: a tracked connection is forgotten exactly when its IP still
has a map. -/
theorem notMem_memoryConnIds_release_iff {fate : RedisFate} {clientIp connId : String}
    (hmem : connId ∈ w.limiter.memoryConnIds) :
    connId ∉ (w.release fate clientIp connId).limiter.memoryConnIds ↔
      w.limiter.memory.lookup clientIp ≠ none := by
  unfold LimiterWorld.release
  dsimp only
  rw [if_pos hmem, releaseMemory]
  rcases w.limiter.memory.lookup clientIp with - | connections
  · exact iff_of_false (not_not.2 hmem) (not_not.2 rfl)
  · exact iff_of_true (Finset.notMem_erase _ _) (by simp)

/-- **Released connections leave no trace when their IP still has a map.** In every run without
Redis in which each connection id belongs to one IP and every tracked connection is released while
its IP has a map in `_memory`: once all granted connections are released, no id is in
`_memory_conn_ids` or in any map. -/
theorem no_trace_of_keepsEntry {now : ℚ} {redis : Table String RedisHash} {es : List LimiterEvent}
    (hmemory : ∀ e ∈ es, OnMemory e) (howner : ∀ e ∈ es, OfOwner owner e)
    (hkeep : AllSteps (LimiterWorld.step s) KeepsEntry (initial now redis) es)
    (h : run (LimiterWorld.step s) (initial now redis) es = some w) (hreleased : w.grants = [])
    (id : String) :
    id ∉ w.limiter.memoryConnIds ∧
      ∀ ip connections, w.limiter.memory.lookup ip = some connections →
        connections.lookup id = none := by
  have hguard : AllSteps (LimiterWorld.step s)
      (fun w e ↦ KeepsEntry w e ∧ OnMemory e ∧ OfOwner owner e) (initial now redis) es :=
    hkeep.and_of_mem fun e he ↦ ⟨hmemory e he, howner e he⟩
  have htraced : Traced owner w :=
    invariant_run_of_guard Traced.step (traced_initial now redis) hguard h
  have hnone : id ∉ w.limiter.memoryConnIds := by
    intro hid
    obtain ⟨g, hg, -⟩ := htraced.tracked id hid
    rw [hreleased] at hg
    exact absurd hg List.not_mem_nil
  refine ⟨hnone, fun ip connections hmap ↦ ?_⟩
  by_contra hsome
  obtain ⟨expiry, hlookup⟩ := Option.ne_none_iff_exists'.1 hsome
  exact hnone (htraced.held ip connections id expiry hmap hlookup).2

/-- A connection expires and is released afterwards. -/
def expiredAndReleased : List LimiterEvent :=
  [.acquire .unreachable "203.0.113.7" "a" 0, .wait 301, .release .unreachable "203.0.113.7" "a"]

/-- Nothing is left of it. -/
theorem no_trace_expiredAndReleased :
    ∃ w, run (LimiterWorld.step (lua51 5 300)) (initial 0 ∅) expiredAndReleased = some w ∧
      w.grants = [] ∧ "a" ∉ w.limiter.memoryConnIds ∧
        ∀ ip connections, w.limiter.memory.lookup ip = some connections →
          connections.lookup "a" = none := by
  have hmemory : ∀ e ∈ expiredAndReleased, OnMemory e := by decide
  have howner : ∀ e ∈ expiredAndReleased, OfOwner (fun _ ↦ "203.0.113.7") e := by
    simp [expiredAndReleased, OfOwner]
  have hkeep : AllSteps (LimiterWorld.step (lua51 5 300)) KeepsEntry (initial 0 ∅)
      expiredAndReleased := by
    refine ⟨trivial, fun w hw ↦ ⟨trivial, fun w' hw' ↦ ⟨fun _ ↦ ?_, fun _ _ ↦ trivial⟩⟩⟩
    obtain rfl := Option.some.inj hw
    obtain rfl := Option.some.inj hw'
    decide +kernel
  have hrun : ∃ w, run (LimiterWorld.step (lua51 5 300)) (initial 0 ∅) expiredAndReleased = some w ∧
      w.grants = [] := ⟨_, rfl, by decide +kernel⟩
  obtain ⟨w, hw, hreleased⟩ := hrun
  exact ⟨w, hw, hreleased, no_trace_of_keepsEntry hmemory howner hkeep hw hreleased "a"⟩

/-- A connection expires, a later one takes its place and is released, and then the first one is. -/
def lateRelease : List LimiterEvent :=
  [.acquire .unreachable "203.0.113.7" "a" 0, .wait 301, .acquire .unreachable "203.0.113.7" "b" 0,
    .release .unreachable "203.0.113.7" "b", .release .unreachable "203.0.113.7" "a"]

/-- **A late release leaves a trace.** Both connections are released, the map of the IP is gone, and
the id of the first one stays. -/
theorem late_release_leaves_trace :
    ∃ w, run (LimiterWorld.step (lua51 5 300)) (initial 0 ∅) lateRelease = some w ∧
      w.grants = [] ∧ w.limiter.memory.lookup "203.0.113.7" = none ∧
        w.limiter.memoryConnIds = {"a"} :=
  ⟨_, rfl, by decide +kernel, by decide +kernel, by decide +kernel⟩

end LimiterWorld

end InvestmentAssistant
