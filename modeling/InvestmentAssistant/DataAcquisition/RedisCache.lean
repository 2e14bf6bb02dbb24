import InvestmentAssistant.Foundation.KeyedTable

/-!
# The Redis cache and its fallback

`RedisCache` keeps values as JSON text in Redis and falls back to an in-process `InMemoryCache` when
Redis cannot be used. There are two stores, then, and every call decides on its own which of them it
goes to: a set writes to one of them, a get reads one of them, an invalidation deletes from both
when it can. Expiry and eviction are left out, and with them the `ttl` argument.

A failing Redis command may have taken effect on the server all the same (`Availability.failing`).
JSON is a parameter (`JsonCodec`): encoding fails for a value that is not serialisable, decoding
fails for a corrupted text.

Each store by itself is a plain last-write-wins table for the calls that reach it
(`CacheEvent.reaches`), so a get returns what the last call that reached *its* store left
(`get_after_run`). When the last set or invalidation of the key is such a call, nothing superseded
is ever returned.
-/

namespace InvestmentAssistant

open Table

/-! ### The cache -/

/-- `json.dumps` and `json.loads`: `none` where they raise. -/
structure JsonCodec (V : Type) where
  dumps : V → Option String
  loads : String → Option V

/-- What becomes of a Redis command. -/
inductive Availability
  /-- The command succeeds. -/
  | up
  /-- The command raises, after taking effect or without. -/
  | failing (applied : Bool)
  /-- There is no client. -/
  | uninitialised
  deriving DecidableEq, Repr

/-- The two stores of a `RedisCache`. -/
structure CacheStores (V : Type) where
  redis : Table String String := ∅
  fallback : Table String V := ∅

/-- `_build_key`. -/
def buildKey (keyPrefix key : String) : String :=
  if keyPrefix ≠ "" then "ia:" ++ keyPrefix ++ ":" ++ key else "ia:" ++ key

section Calls

variable {V : Type} (codec : JsonCodec V) (keyPrefix : String) (stores : CacheStores V)
  (availability : Availability)

/-- `RedisCache.get`; `none` is a returned `None`. -/
def cacheGet (key : String) : Option V :=
  match availability with
  | .uninitialised => stores.fallback.lookup key
  | .failing _ => stores.fallback.lookup key
  | .up =>
    match stores.redis.lookup (buildKey keyPrefix key) with
    | some value => codec.loads value
    | none => none

/-- `RedisCache.set`. -/
def cacheSet (key : String) (value : V) : CacheStores V :=
  let stored := put stores.fallback key (some value)
  match availability with
  | .uninitialised => { stores with fallback := stored }
  | availability =>
    match codec.dumps value with
    | none => { stores with fallback := stored }
    | some serialized =>
      let sent := put stores.redis (buildKey keyPrefix key) (some serialized)
      match availability with
      | .up => { stores with redis := sent }
      | .failing true => { redis := sent, fallback := stored }
      | _ => { stores with fallback := stored }

/-- `RedisCache.invalidate`. -/
def cacheInvalidate (key : String) : CacheStores V :=
  let deleted := put stores.redis (buildKey keyPrefix key) none
  { redis :=
      match availability with
      | .up => deleted
      | .failing true => deleted
      | _ => stores.redis
    fallback := put stores.fallback key none }

end Calls

/-! ### Runs -/

/-- A call that may change the stores. -/
inductive CacheCall (V : Type)
  | set (key : String) (value : V)
  | invalidate (key : String)
  | get (key : String)
  deriving DecidableEq

/-- A call, and what becomes of Redis in it. -/
structure CacheEvent (V : Type) where
  call : CacheCall V
  availability : Availability
  deriving DecidableEq

/-- The key of a call. -/
def CacheEvent.key {V : Type} (e : CacheEvent V) : String :=
  match e.call with
  | .set key _ => key
  | .invalidate key => key
  | .get key => key

variable {V : Type} (codec : JsonCodec V) (keyPrefix : String)

/-- The stores after a call. -/
def cacheStep (stores : CacheStores V) (e : CacheEvent V) : CacheStores V :=
  match e.call with
  | .set key value => cacheSet codec keyPrefix stores e.availability key value
  | .invalidate key => cacheInvalidate keyPrefix stores e.availability key
  | .get _ => stores

/-- The stores after a list of calls, both empty at the start. -/
def storesAfter (events : List (CacheEvent V)) : CacheStores V :=
  events.foldl (cacheStep codec keyPrefix) {}

/-! ### Which calls reach which store -/

/-- The store a call reads or falls back to. -/
inductive Backend
  | redis
  | fallback
  deriving DecidableEq, Repr

/-- The store a get reads. -/
def Availability.backend : Availability → Backend
  | .up => .redis
  | _ => .fallback

/-- The command takes effect on the Redis server. -/
def Availability.takesEffect : Availability → Bool
  | .up => true
  | .failing applied => applied
  | .uninitialised => false

/-- The call writes to, or deletes from, the store. -/
def CacheEvent.reaches (backend : Backend) (e : CacheEvent V) : Bool :=
  match e.call, backend with
  | .set _ value, .redis => e.availability.takesEffect && (codec.dumps value).isSome
  | .set _ value, .fallback => e.availability != .up || (codec.dumps value).isNone
  | .invalidate _, .redis => e.availability.takesEffect
  | .invalidate _, .fallback => true
  | .get _, _ => false

/-- The call is a set or an invalidation. -/
def CacheEvent.isWrite (e : CacheEvent V) : Bool :=
  match e.call with
  | .get _ => false
  | _ => true

/-- What a get on the store returns when this call was the last to reach it. -/
def CacheEvent.leaves (backend : Backend) (e : CacheEvent V) : Option V :=
  match e.call, backend with
  | .set _ value, .redis => (codec.dumps value).bind codec.loads
  | .set _ value, .fallback => some value
  | _, _ => none

/-- The text a call leaves in Redis. -/
def CacheEvent.redisText (e : CacheEvent V) : Option String :=
  match e.call with
  | .set _ value => codec.dumps value
  | _ => none

/-- The value a call leaves in the fallback. -/
def CacheEvent.fallbackValue (e : CacheEvent V) : Option V :=
  match e.call with
  | .set _ value => some value
  | _ => none

/-- **A call writes to each store it reaches, and to no other.** -/
theorem cacheStep_eq (stores : CacheStores V) (e : CacheEvent V) :
    cacheStep codec keyPrefix stores e =
      { redis := if e.reaches codec .redis then
          put stores.redis (buildKey keyPrefix e.key) (e.redisText codec) else stores.redis
        fallback := if e.reaches codec .fallback then
          put stores.fallback e.key e.fallbackValue else stores.fallback } := by
  obtain ⟨call, availability⟩ := e
  cases call with
  | set key value =>
    cases hdumps : codec.dumps value <;> rcases availability with _ | ⟨_ | _⟩ | _ <;>
      simp [cacheStep, cacheSet, CacheEvent.reaches, CacheEvent.redisText,
        CacheEvent.fallbackValue, CacheEvent.key, Availability.takesEffect, hdumps]
  | invalidate key =>
    rcases availability with _ | ⟨_ | _⟩ | _ <;> rfl
  | get key => rfl

/-- The stores after a run are the writes that reached them. -/
theorem storesAfter_eq (events : List (CacheEvent V)) :
    storesAfter codec keyPrefix events =
      { redis := writeAll (fun e ↦ buildKey keyPrefix e.key) (CacheEvent.redisText codec) ∅
          (events.filter (CacheEvent.reaches codec .redis))
        fallback := writeAll CacheEvent.key CacheEvent.fallbackValue ∅
          (events.filter (CacheEvent.reaches codec .fallback)) } := by
  induction events using List.reverseRecOn with
  | nil => rfl
  | append_singleton events e ih =>
    have hstep : storesAfter codec keyPrefix (events ++ [e]) =
        cacheStep codec keyPrefix (storesAfter codec keyPrefix events) e := by
      rw [storesAfter, List.foldl_append]
      rfl
    rw [hstep, ih, cacheStep_eq, List.filter_append, List.filter_append, writeAll_append,
      writeAll_append]
    congr 1
    · cases h : e.reaches codec .redis <;> simp [h, writeAll]
    · cases h : e.reaches codec .fallback <;> simp [h, writeAll]

/-! ### What a get returns -/

/-- The last call of a run on a key that reached a store. -/
def lastReaching (backend : Backend) (key : String) (events : List (CacheEvent V)) :
    Option (CacheEvent V) :=
  lastWith CacheEvent.key key (events.filter (CacheEvent.reaches codec backend))

/-- The last set or invalidation of a key in a run. -/
def lastWrite (key : String) (events : List (CacheEvent V)) : Option (CacheEvent V) :=
  lastWith CacheEvent.key key (events.filter CacheEvent.isWrite)

/-- Keys of Redis are told apart as keys of the cache. -/
theorem buildKey_inj {k k' : String} : buildKey keyPrefix k = buildKey keyPrefix k' ↔ k = k' := by
  unfold buildKey
  split
  · exact String.append_right_inj _
  · exact String.append_right_inj _

/-- A call that reaches a store is a set or an invalidation. -/
theorem isWrite_of_reaches {backend : Backend} {e : CacheEvent V}
    (h : e.reaches codec backend = true) : e.isWrite = true := by
  obtain ⟨call, availability⟩ := e
  cases call with
  | set key value => rfl
  | invalidate key => rfl
  | get key => cases backend <;> exact nomatch h

/-- The Redis text a call leaves decodes to what it leaves. -/
theorem leaves_redis (e : CacheEvent V) :
    (e.redisText codec).bind codec.loads = e.leaves codec .redis := by
  obtain ⟨call, availability⟩ := e
  cases call <;> rfl

theorem leaves_fallback (e : CacheEvent V) : e.fallbackValue = e.leaves codec .fallback := by
  obtain ⟨call, availability⟩ := e
  cases call <;> rfl

/-- A get returns what the last call that reached its store left. -/
theorem cacheGet_storesAfter (events : List (CacheEvent V)) (key : String)
    (availability : Availability) :
    cacheGet codec keyPrefix (storesAfter codec keyPrefix events) availability key =
      (lastReaching codec availability.backend key events).bind
        (CacheEvent.leaves codec availability.backend) := by
  have hredis : ((storesAfter codec keyPrefix events).redis.lookup (buildKey keyPrefix key)).bind
      codec.loads = (lastReaching codec .redis key events).bind
        (CacheEvent.leaves codec .redis) := by
    -- the keys of Redis single out the same calls as those of the cache
    have hkeys : lastWith (fun e : CacheEvent V ↦ buildKey keyPrefix e.key)
        (buildKey keyPrefix key) (events.filter (CacheEvent.reaches codec .redis)) =
          lastReaching codec .redis key events :=
      lastWith_congr fun e _ ↦ buildKey_inj keyPrefix
    rw [storesAfter_eq]
    show (AList.lookup _ (writeAll _ _ ∅ _)).bind _ = _
    rw [lookup_writeAll, hkeys]
    cases lastReaching codec .redis key events with
    | none => rfl
    | some e => exact leaves_redis codec e
  have hfallback : (storesAfter codec keyPrefix events).fallback.lookup key =
      (lastReaching codec .fallback key events).bind (CacheEvent.leaves codec .fallback) := by
    rw [storesAfter_eq]
    show AList.lookup _ (writeAll _ _ ∅ _) = _
    rw [lookup_writeAll, lastReaching]
    cases lastWith CacheEvent.key key (events.filter (CacheEvent.reaches codec .fallback)) with
    | none => rfl
    | some e => exact leaves_fallback codec e
  cases availability with
  | up =>
    refine Eq.trans ?_ hredis
    show (match (storesAfter codec keyPrefix events).redis.lookup (buildKey keyPrefix key) with
      | some value => codec.loads value
      | none => none) = _
    cases (storesAfter codec keyPrefix events).redis.lookup (buildKey keyPrefix key) <;> rfl
  | failing applied => exact hfallback
  | uninitialised => exact hfallback

/-- **Each store is last-write-wins, and a get reads one of them.** For every run of calls on any
keys, with Redis succeeding, failing or missing at each call: a get returns what the last set or
invalidation of the key that reached its store left. If the last set or invalidation of the key at
all is one of these, the get returns its value — through JSON, if the store is Redis — or nothing
after an invalidation, and never a superseded one. -/
theorem get_after_run (events : List (CacheEvent V)) (key : String) (availability : Availability) :
    cacheGet codec keyPrefix (storesAfter codec keyPrefix events) availability key =
        (lastReaching codec availability.backend key events).bind
          (CacheEvent.leaves codec availability.backend) ∧
      ∀ e, lastWrite key events = some e → e.reaches codec availability.backend = true →
        cacheGet codec keyPrefix (storesAfter codec keyPrefix events) availability key =
          e.leaves codec availability.backend := by
  refine ⟨cacheGet_storesAfter codec keyPrefix events key availability, fun e hlast hreaches ↦ ?_⟩
  have hreaching : lastReaching codec availability.backend key events = some e := by
    -- only writes reach a store
    have hfilter : (events.filter CacheEvent.isWrite).filter
        (CacheEvent.reaches codec availability.backend) =
          events.filter (CacheEvent.reaches codec availability.backend) := by
      rw [List.filter_filter]
      refine List.filter_congr fun e _ ↦ ?_
      cases h : e.reaches codec availability.backend with
      | true => rw [isWrite_of_reaches codec h]; rfl
      | false => rfl
    rw [lastReaching, ← hfilter]
    exact lastWith_filter_of_last hlast hreaches
  rw [cacheGet_storesAfter, hreaching]
  rfl

/-! ### An outage and two sets -/

/-- Texts between quotation marks. -/
def quotingCodec : JsonCodec String where
  dumps := fun value ↦ some ("\"" ++ value ++ "\"")
  loads := fun text ↦ some (String.ofList (text.toList.drop 1).dropLast)

/-- A set after the outage is what a get returns. -/
theorem get_after_recovery :
    cacheGet quotingCodec "" (storesAfter quotingCodec ""
      [⟨.set "k" "old", .failing false⟩, ⟨.set "k" "new", .up⟩]) .up "k" = some "new" :=
  ((get_after_run quotingCodec "" [⟨.set "k" "old", .failing false⟩, ⟨.set "k" "new", .up⟩] "k"
    .up).2 ⟨.set "k" "new", .up⟩ (by decide) (by decide)).trans (by decide)

/-- A set that Redis misses is superseded by the one before it, and so is an invalidation. -/
theorem get_after_outage_is_superseded :
    cacheGet quotingCodec "" (storesAfter quotingCodec ""
        [⟨.set "k" "old", .up⟩, ⟨.set "k" "new", .failing false⟩]) .up "k" = some "old" ∧
      cacheGet quotingCodec "" (storesAfter quotingCodec ""
        [⟨.set "k" "old", .up⟩, ⟨.invalidate "k", .uninitialised⟩]) .up "k" = some "old" := by
  decide

end InvestmentAssistant
