import InvestmentAssistant.DataAcquisition.RedisCache
import InvestmentAssistant.Foundation.TtlCache

/-!
# The Redis cache with expiry

A set of `RedisCache` sends a time to live along (`setex`), and the in-process fallback lets its
entries expire after the same time; either may drop an entry earlier to make room. No caller gives a
time to live of its own, so one is enough for a cache.

A get returns nothing but what the last call that reached its store left there, less than the time
to live ago, and it returns that unless an entry was dropped (`expiringGet_after_run`).
-/

namespace InvestmentAssistant

open Table

/-- The two stores of a `RedisCache`, with the times at which their entries expire. -/
structure ExpiringStores (V : Type) where
  redis : TtlCache String String := ∅
  fallback : TtlCache String V := ∅

section Calls

variable {V : Type} (codec : JsonCodec V) (keyPrefix : String) (ttl : ℚ)
  (stores : ExpiringStores V) (availability : Availability) (now : ℚ)

/-- `RedisCache.get`. -/
def expiringGet (key : String) : Option V :=
  match availability with
  | .up => (stores.redis.get now (buildKey keyPrefix key)).bind codec.loads
  | _ => stores.fallback.get now key

/-- `RedisCache.set`. -/
def expiringSet (key : String) (value : V) : ExpiringStores V :=
  let stored := stores.fallback.set ttl now key value
  match availability with
  | .uninitialised => { stores with fallback := stored }
  | availability =>
    match codec.dumps value with
    | none => { stores with fallback := stored }
    | some serialized =>
      let sent := stores.redis.set ttl now (buildKey keyPrefix key) serialized
      match availability with
      | .up => { stores with redis := sent }
      | .failing true => { redis := sent, fallback := stored }
      | _ => { stores with fallback := stored }

/-- `RedisCache.invalidate`. -/
def expiringInvalidate (key : String) : ExpiringStores V where
  redis := if availability.takesEffect then stores.redis.pop (buildKey keyPrefix key)
    else stores.redis
  fallback := stores.fallback.pop key

end Calls

/-! ### Runs -/

section Runs

variable {V : Type} (codec : JsonCodec V) (keyPrefix : String) (ttl : ℚ)

/-- What happens to the stores: a call, or an entry dropped to make room. -/
inductive StoreEvent (V : Type)
  | call (e : CacheEvent V) (time : ℚ)
  | dropRedis (redisKey : String)
  | dropFallback (key : String)

/-- The stores after an event. -/
def expiringStep (stores : ExpiringStores V) : StoreEvent V → ExpiringStores V
  | .call e time =>
    match e.call with
    | .set key value => expiringSet codec keyPrefix ttl stores e.availability time key value
    | .invalidate key => expiringInvalidate keyPrefix stores e.availability key
    | .get _ => stores
  | .dropRedis redisKey => { stores with redis := stores.redis.pop redisKey }
  | .dropFallback key => { stores with fallback := stores.fallback.pop key }

/-- The stores after a list of events, both empty at the start. -/
def expiringAfter (events : List (StoreEvent V)) : ExpiringStores V :=
  events.foldl (expiringStep codec keyPrefix ttl) {}

/-- The entry is dropped by the store, not by a call. -/
def StoreEvent.IsDrop : StoreEvent V → Prop
  | .call _ _ => False
  | _ => True

/-- A call that reaches a store, with its time. -/
def StoreEvent.reaching (backend : Backend) : StoreEvent V → Option (CacheEvent V × ℚ)
  | .call e time => if e.reaches codec backend then some (e, time) else none
  | _ => none

/-- The last call of a run on a key that reached a store, with its time. -/
def lastReachingAt (backend : Backend) (key : String) (events : List (StoreEvent V)) :
    Option (CacheEvent V × ℚ) :=
  lastWith (fun reached ↦ reached.1.key) key (events.filterMap (StoreEvent.reaching codec backend))

/-- What the last call that reached a store left there, while it is younger than the time to
live. -/
def leftThere (backend : Backend) (key : String) (events : List (StoreEvent V)) (now : ℚ) :
    Option V :=
  (lastReachingAt codec backend key events).bind fun reached ↦
    if now < reached.2 + ttl then reached.1.leaves codec backend else none

/-- The write of a call to Redis. -/
def redisWrite (reached : CacheEvent V × ℚ) : TtlCache.Write String String :=
  ⟨buildKey keyPrefix reached.1.key, reached.2, reached.1.redisText codec⟩

/-- The write of a call to the fallback. -/
def fallbackWrite (reached : CacheEvent V × ℚ) : TtlCache.Write String V :=
  ⟨reached.1.key, reached.2, reached.1.fallbackValue⟩

variable {codec keyPrefix ttl}

/-- **A call writes to each store it reaches, and to no other.** -/
theorem expiringStep_call (stores : ExpiringStores V) (e : CacheEvent V) (time : ℚ) :
    expiringStep codec keyPrefix ttl stores (.call e time) =
      { redis := if e.reaches codec .redis then
          stores.redis.write ttl (redisWrite codec keyPrefix (e, time)) else stores.redis
        fallback := if e.reaches codec .fallback then
          stores.fallback.write ttl (fallbackWrite (e, time)) else stores.fallback } := by
  obtain ⟨call, availability⟩ := e
  cases call with
  | set key value =>
    cases hdumps : codec.dumps value <;> rcases availability with _ | ⟨_ | _⟩ | _ <;>
      simp [expiringStep, expiringSet, CacheEvent.reaches, CacheEvent.redisText, redisWrite,
        fallbackWrite, CacheEvent.fallbackValue, CacheEvent.key, Availability.takesEffect, hdumps,
        TtlCache.write]
  | invalidate key => rfl
  | get key => rfl

/-! ### The stores and their writes -/

variable (codec keyPrefix) in
/-- The writes of a run to Redis. -/
def redisWrites (events : List (StoreEvent V)) : List (TtlCache.Write String String) :=
  (events.filterMap (StoreEvent.reaching codec .redis)).map (redisWrite codec keyPrefix)

variable (codec) in
/-- The writes of a run to the fallback. -/
def fallbackWrites (events : List (StoreEvent V)) : List (TtlCache.Write String V) :=
  (events.filterMap (StoreEvent.reaching codec .fallback)).map fallbackWrite

/-- A relation between what was written to a store and what it holds. -/
abbrev StoreRelation := ∀ W : Type, List (TtlCache.Write String W) → TtlCache String W → Prop

variable (codec keyPrefix) in
/-- Both stores stand in a relation to their writes. -/
structure StoresAre (R : StoreRelation) (events : List (StoreEvent V)) (stores : ExpiringStores V) :
    Prop where
  redis : R String (redisWrites codec keyPrefix events) stores.redis
  fallback : R V (fallbackWrites codec events) stores.fallback

/-- One more event adds its write, if it is a call that reaches the store. -/
theorem filterMap_reaching_concat (backend : Backend) (events : List (StoreEvent V))
    (e : StoreEvent V) :
    (events ++ [e]).filterMap (StoreEvent.reaching codec backend) =
      events.filterMap (StoreEvent.reaching codec backend) ++
        (e.reaching codec backend).toList := by
  rw [List.filterMap_append]
  cases h : e.reaching codec backend <;> simp [h]

/-- **A relation that writes keep holds after a run**, if it is kept when an entry is dropped. -/
theorem storesAre_after {R : StoreRelation} (hempty : ∀ W, R W [] ∅)
    (hwrite : ∀ W writes cache w, R W writes cache → R W (writes ++ [w]) (cache.write ttl w))
    (events : List (StoreEvent V))
    (hdrop : ∀ e ∈ events, e.IsDrop → ∀ W writes cache k, R W writes cache →
      R W writes (cache.pop k)) :
    StoresAre codec keyPrefix R events (expiringAfter codec keyPrefix ttl events) := by
  induction events using List.reverseRecOn with
  | nil => exact ⟨hempty _, hempty _⟩
  | append_singleton events e ih =>
    obtain ⟨hredis, hfallback⟩ := ih fun e' he' ↦ hdrop e' (List.mem_append_left _ he')
    have hlast := hdrop e (List.mem_append_right _ (List.mem_singleton_self e))
    have hstep : expiringAfter codec keyPrefix ttl (events ++ [e]) =
        expiringStep codec keyPrefix ttl (expiringAfter codec keyPrefix ttl events) e := by
      rw [expiringAfter, List.foldl_append]
      rfl
    rw [hstep]
    cases e with
    | call e time =>
      rw [expiringStep_call]
      constructor
      · rw [redisWrites, filterMap_reaching_concat, List.map_append, ← redisWrites,
          StoreEvent.reaching]
        split
        · exact hwrite _ _ _ _ hredis
        · exact (List.append_nil _).symm ▸ hredis
      · rw [fallbackWrites, filterMap_reaching_concat, List.map_append, ← fallbackWrites,
          StoreEvent.reaching]
        split
        · exact hwrite _ _ _ _ hfallback
        · exact (List.append_nil _).symm ▸ hfallback
    | dropRedis redisKey =>
      constructor
      · rw [redisWrites, filterMap_reaching_concat, List.map_append, ← redisWrites]
        exact (List.append_nil _).symm ▸ hlast trivial _ _ _ redisKey hredis
      · rw [fallbackWrites, filterMap_reaching_concat, List.map_append, ← fallbackWrites]
        exact (List.append_nil _).symm ▸ hfallback
    | dropFallback key =>
      constructor
      · rw [redisWrites, filterMap_reaching_concat, List.map_append, ← redisWrites]
        exact (List.append_nil _).symm ▸ hredis
      · rw [fallbackWrites, filterMap_reaching_concat, List.map_append, ← fallbackWrites]
        exact (List.append_nil _).symm ▸ hlast trivial _ _ _ key hfallback

/-! ### What a get returns -/

variable (codec keyPrefix) in
theorem lastWith_redisWrites (key : String) (events : List (StoreEvent V)) :
    lastWith TtlCache.Write.key (buildKey keyPrefix key) (redisWrites codec keyPrefix events) =
      (lastReachingAt codec .redis key events).map (redisWrite codec keyPrefix) := by
  rw [redisWrites, lastWith_map]
  exact congrArg _ (lastWith_congr fun reached _ ↦ buildKey_inj keyPrefix)

variable (codec) in
theorem lastWith_fallbackWrites (key : String) (events : List (StoreEvent V)) :
    lastWith TtlCache.Write.key key (fallbackWrites codec events) =
      (lastReachingAt codec .fallback key events).map fallbackWrite := by
  rw [fallbackWrites, lastWith_map]
  rfl

/-- **What a get returns is what the last call that reached its store left there**, less than the
time to live ago. -/
theorem leftThere_of_expiringGet {events : List (StoreEvent V)} {stores : ExpiringStores V}
    (h : StoresAre codec keyPrefix (fun _ ↦ TtlCache.Within ttl) events stores)
    {availability : Availability} {now : ℚ} {key : String} {v : V}
    (hget : expiringGet codec keyPrefix stores availability now key = some v) :
    leftThere codec ttl availability.backend key events now = some v := by
  have hfallback (hget : stores.fallback.get now key = some v) :
      leftThere codec ttl .fallback key events now = some v := by
    obtain ⟨w, hw, hvalue, hlive⟩ := TtlCache.get_of_within h.fallback hget
    rw [lastWith_fallbackWrites] at hw
    obtain ⟨reached, hreached, rfl⟩ := Option.map_eq_some_iff.1 hw
    have hlive : now < reached.2 + ttl := hlive
    rw [leftThere, hreached, Option.bind_some, if_pos hlive, ← leaves_fallback]
    exact hvalue
  cases availability with
  | up =>
    obtain ⟨text, htext, hloads⟩ := Option.bind_eq_some_iff.1 hget
    obtain ⟨w, hw, hvalue, hlive⟩ := TtlCache.get_of_within h.redis htext
    rw [lastWith_redisWrites] at hw
    obtain ⟨reached, hreached, rfl⟩ := Option.map_eq_some_iff.1 hw
    have hlive : now < reached.2 + ttl := hlive
    show leftThere codec ttl .redis key events now = some v
    rw [leftThere, hreached, Option.bind_some, if_pos hlive, ← leaves_redis]
    exact Option.bind_eq_some_iff.2 ⟨text, hvalue, hloads⟩
  | failing applied => exact hfallback hget
  | uninitialised => exact hfallback hget

/-- And where the stores hold all that was left there, a get returns it. -/
theorem expiringGet_of_leftThere {events : List (StoreEvent V)} {stores : ExpiringStores V}
    (h : StoresAre codec keyPrefix (fun _ ↦ TtlCache.Holds ttl) events stores)
    {availability : Availability} {now : ℚ} {key : String} {v : V}
    (hleft : leftThere codec ttl availability.backend key events now = some v) :
    expiringGet codec keyPrefix stores availability now key = some v := by
  obtain ⟨reached, hreached, hleaves⟩ := Option.bind_eq_some_iff.1 hleft
  split at hleaves
  · next hlive =>
    have hfallback (hreached : lastReachingAt codec .fallback key events = some reached)
        (hleaves : reached.1.leaves codec .fallback = some v) :
        stores.fallback.get now key = some v := by
      rw [← leaves_fallback] at hleaves
      have hw := lastWith_fallbackWrites codec key events
      rw [hreached] at hw
      exact (TtlCache.get_of_holds h.fallback now key v).2 ⟨_, hw, hleaves, hlive⟩
    cases availability with
    | up =>
      change reached.1.leaves codec .redis = some v at hleaves
      rw [← leaves_redis] at hleaves
      obtain ⟨text, htext, hloads⟩ := Option.bind_eq_some_iff.1 hleaves
      have hreached : lastReachingAt codec .redis key events = some reached := hreached
      have hw := lastWith_redisWrites codec keyPrefix key events
      rw [hreached] at hw
      exact Option.bind_eq_some_iff.2 ⟨text,
        (TtlCache.get_of_holds h.redis now _ text).2 ⟨_, hw, htext, hlive⟩, hloads⟩
    | failing applied => exact hfallback hreached hleaves
    | uninitialised => exact hfallback hreached hleaves
  · cases hleaves

/-- **The cache with expiry after any run.** A get returns nothing but what the last set or
invalidation of the key that reached its store left there, less than the time to live ago; and it
does return that, unless a store has dropped an entry. -/
theorem expiringGet_after_run (codec : JsonCodec V) (keyPrefix : String) (ttl : ℚ)
    (events : List (StoreEvent V)) (availability : Availability) (now : ℚ) (key : String) :
    (∀ v, expiringGet codec keyPrefix (expiringAfter codec keyPrefix ttl events) availability now
        key = some v → leftThere codec ttl availability.backend key events now = some v) ∧
      ((∀ e ∈ events, ¬ e.IsDrop) →
        expiringGet codec keyPrefix (expiringAfter codec keyPrefix ttl events) availability now
          key = leftThere codec ttl availability.backend key events now) := by
  have hwithin : StoresAre codec keyPrefix (fun _ ↦ TtlCache.Within ttl) events
      (expiringAfter codec keyPrefix ttl events) :=
    storesAre_after (fun _ ↦ TtlCache.within_of_holds TtlCache.holds_empty)
      (fun _ _ _ w h ↦ TtlCache.within_write h w) events
      fun _ _ _ _ _ _ k h ↦ TtlCache.within_evict h k
  refine ⟨fun v hget ↦ leftThere_of_expiringGet hwithin hget, fun hkeeps ↦ ?_⟩
  have hholds : StoresAre codec keyPrefix (fun _ ↦ TtlCache.Holds ttl) events
      (expiringAfter codec keyPrefix ttl events) :=
    storesAre_after (fun _ ↦ TtlCache.holds_empty) (fun _ _ _ w h ↦ TtlCache.holds_write h w) events
      fun e he hdrop ↦ absurd hdrop (hkeeps e he)
  exact Option.ext fun v ↦
    ⟨leftThere_of_expiringGet hwithin, expiringGet_of_leftThere hholds⟩

end Runs

end InvestmentAssistant
