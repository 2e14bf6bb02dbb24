import InvestmentAssistant.Core.WsConnectionLimiter
import InvestmentAssistant.Foundation.Transition

/-!
# Runs of the connection limiter

One worker acquires and releases connections while time passes and Redis comes and goes. What
becomes of a script is part of the event: it is answered, it is not reached, or it runs and its
reply is lost. The connections granted and not yet released are recorded beside the state (`Grant`);
one is open until it expires.

Each store bounds what it has granted itself, so an IP has at most twice the cap of open connections
(`card_openConnections_le`), and it can have that many (`ten_connections_at_cap_five`).
-/

namespace InvestmentAssistant

open Transition

namespace WebSocketConnectionLimiter

/-- `_build_key`. -/
def buildWsKey (clientIp : String) : String :=
  "ia:ws:conn:" ++ clientIp

theorem buildWsKey_inj {ip ip' : String} : buildWsKey ip = buildWsKey ip' ↔ ip = ip' := by
  rw [buildWsKey, buildWsKey, ← String.toList_inj, String.toList_append, String.toList_append,
    List.append_cancel_left_eq, String.toList_inj]

end WebSocketConnectionLimiter

open WebSocketConnectionLimiter

/-! ### The system -/

/-- What becomes of a script call. -/
inductive RedisFate
  | answered
  | unreachable
  | replyLost
  deriving DecidableEq, Repr

/-- Where a connection was granted. -/
inductive GrantStore
  | redis
  | memory
  deriving DecidableEq, Repr

/-- A connection that was granted and not released. -/
structure Grant where
  clientIp : String
  connId : String
  store : GrantStore
  expiry : ℚ
  deriving DecidableEq

/-- The clock, both stores, and the connections granted so far. -/
structure LimiterWorld where
  now : ℚ
  redis : Table String RedisHash
  limiter : WebSocketConnectionLimiter
  grants : List Grant

/-- What happens. A call to `acquire` takes `delay` seconds. -/
inductive LimiterEvent
  | wait (seconds : ℚ)
  | acquire (fate : RedisFate) (clientIp connId : String) (delay : ℚ)
  | release (fate : RedisFate) (clientIp connId : String)
  deriving DecidableEq, Repr

namespace LimiterWorld

variable (s : LimiterSettings)

/-- The limiter `__init__` builds, beside a Redis server that may be in use. -/
def initial (now : ℚ) (redis : Table String RedisHash) : LimiterWorld where
  now := now
  redis := redis
  limiter := {}
  grants := []

/-- What a script finds under the key of an IP: an expired key is gone. -/
def redisValue (w : LimiterWorld) (clientIp : String) : RedisValue :=
  (w.redis.lookup (buildWsKey clientIp)).filter fun hash ↦
    hash.deadline.all fun deadline ↦ decide (w.now < deadline)

/-- A script leaves a value under the key of an IP. -/
def setRedisValue (clientIp : String) (value : RedisValue) (w : LimiterWorld) : LimiterWorld :=
  { w with redis := Table.put w.redis (buildWsKey clientIp) value }

/-- The answer of the acquire script, unless the call fails. -/
def callAcquireScript (fate : RedisFate) (clientIp connId : String) (w : LimiterWorld) :
    Option ℤ × LimiterWorld :=
  let (result, value) := acquireScript s w.now connId (w.redisValue clientIp)
  match fate with
  | .answered => (result.toOption, w.setRedisValue clientIp value)
  | .unreachable => (none, w)
  | .replyLost => (none, w.setRedisValue clientIp value)

/-- Record a connection, if it is granted. -/
def record (granted : Bool) (g : Grant) (w : LimiterWorld) : LimiterWorld :=
  { w with grants := if granted then w.grants ++ [g] else w.grants }

/-- `acquire`. -/
def acquire (fate : RedisFate) (clientIp connId : String) (delay : ℚ) (w : LimiterWorld) :
    Bool × LimiterWorld :=
  let expiry := w.now + s.ttlSeconds
  match w.callAcquireScript s fate clientIp connId with
  | (some result, w) =>
    let granted := decide (result ≠ 0)
    (granted, { w with now := w.now + delay }.record granted ⟨clientIp, connId, .redis, expiry⟩)
  | (none, w) =>
    let now := w.now + delay
    let (granted, limiter) := w.limiter.acquireMemory s now clientIp connId
    (granted, { w with now, limiter }.record granted
      ⟨clientIp, connId, .memory, now + s.ttlSeconds⟩)

/-- The grants that are left when a connection is released. -/
def withoutConnection (clientIp connId : String) (grants : List Grant) : List Grant :=
  grants.filter fun g ↦ decide ¬ (g.clientIp = clientIp ∧ g.connId = connId)

/-- `release`. -/
def release (fate : RedisFate) (clientIp connId : String) (w : LimiterWorld) : LimiterWorld :=
  let w := { w with grants := withoutConnection clientIp connId w.grants }
  if connId ∈ w.limiter.memoryConnIds then
    { w with limiter := w.limiter.releaseMemory clientIp connId }
  else
    match fate with
    | .unreachable => w
    | _ => w.setRedisValue clientIp (releaseScript connId (w.redisValue clientIp))

/-- One step. Time does not run backwards. -/
def step (w : LimiterWorld) : LimiterEvent → Option LimiterWorld
  | .wait seconds => if 0 ≤ seconds then some { w with now := w.now + seconds } else none
  | .acquire fate clientIp connId delay =>
    if 0 ≤ delay then some (w.acquire s fate clientIp connId delay).2 else none
  | .release fate clientIp connId => some (w.release fate clientIp connId)

/-! ### Open connections -/

/-- The connections of an IP that a store has granted and that are neither released nor expired. -/
def live (w : LimiterWorld) (store : GrantStore) (clientIp : String) : Finset String :=
  ((w.grants.filter fun g ↦
    decide (g.store = store ∧ g.clientIp = clientIp ∧ w.now ≤ g.expiry)).map Grant.connId).toFinset

/-- The open connections of an IP. -/
def openConnections (w : LimiterWorld) (clientIp : String) : Finset String :=
  w.live .redis clientIp ∪ w.live .memory clientIp

/-- What a store holds of an IP. -/
def table (w : LimiterWorld) : GrantStore → String → ConnectionTable
  | .redis, clientIp => RedisValue.fields (w.redis.lookup (buildWsKey clientIp))
  | .memory, clientIp => (w.limiter.memory.lookup clientIp).getD ∅

variable {s}

theorem mem_live {w : LimiterWorld} {store : GrantStore} {ip id : String} :
    id ∈ w.live store ip ↔
      ∃ g ∈ w.grants, g.store = store ∧ g.clientIp = ip ∧ w.now ≤ g.expiry ∧ g.connId = id := by
  simp only [live, List.mem_toFinset, List.mem_map, List.mem_filter, decide_eq_true_eq, and_assoc]

/-- A grant that a table still holds, under the connection's id and with no earlier expiry. -/
def HeldIn (t : ConnectionTable) (g : Grant) : Prop :=
  ∃ expiry, t.lookup g.connId = some expiry ∧ g.expiry ≤ expiry

/-- What a store holds bounds what it has granted. -/
theorem card_live_le_size {w : LimiterWorld} {store : GrantStore} {ip : String}
    {t : ConnectionTable}
    (h : ∀ g ∈ w.grants, g.store = store → g.clientIp = ip → w.now ≤ g.expiry → HeldIn t g) :
    (w.live store ip).card ≤ Table.size t := by
  rw [Table.size_eq_card]
  refine Finset.card_le_card fun id hid ↦ ?_
  obtain ⟨g, hg, hstore, hip, hnow, rfl⟩ := mem_live.1 hid
  obtain ⟨expiry, hlookup, -⟩ := h g hg hstore hip hnow
  exact Table.mem_keySet.2 ⟨expiry, hlookup⟩

/-- Later, with no new grants of this store and IP, no more connections are live. -/
theorem live_subset {w w' : LimiterWorld} {store : GrantStore} {ip : String}
    (hnow : w.now ≤ w'.now)
    (hgrants : ∀ g ∈ w'.grants, g.store = store → g.clientIp = ip → g ∈ w.grants) :
    w'.live store ip ⊆ w.live store ip := by
  intro id hid
  obtain ⟨g, hg, hstore, hip, hle, rfl⟩ := mem_live.1 hid
  exact mem_live.2 ⟨g, hgrants g hg hstore hip, hstore, hip, hnow.trans hle, rfl⟩

/-! ### What the operations do to the stores -/

/-- An unexpired entry survives the acquire script, or is renewed by it. -/
theorem lookup_acquireScript {now : ℚ} (connId : String) {id : String} {key : RedisValue}
    {expiry : ℚ}
    (h : (RedisValue.fields key).lookup id = some expiry) (hle : now ≤ expiry) :
    ∃ expiry', (RedisValue.fields (acquireScript s now connId key).2).lookup id = some expiry' ∧
      (expiry' = expiry ∨ expiry' = now + s.ttlSeconds) := by
  have hkept : (RedisValue.fields (unexpired now key)).lookup id = some expiry := by
    rw [lookup_unexpired, h, Option.filter, if_pos (decide_eq_true hle)]
  obtain hrun | hrun | ⟨-, hrun⟩ := acquireScript_cases s now connId key
  · rw [hrun]
    exact ⟨expiry, h, Or.inl rfl⟩
  · rw [hrun]
    exact ⟨expiry, hkept, Or.inl rfl⟩
  · simp only [hrun, RedisValue.fields_expire, RedisValue.lookup_fields_hset]
    split
    · exact ⟨_, rfl, Or.inr rfl⟩
    · exact ⟨expiry, hkept, Or.inl rfl⟩

/-- The deadline of a key stays, or is renewed. -/
theorem deadline_acquireScript {now : ℚ} {connId : String} {key : RedisValue} {hash : RedisHash}
    (h : (acquireScript s now connId key).2 = some hash) :
    (∃ old, key = some old ∧ hash.deadline = old.deadline) ∨
      hash.deadline = some (now + (s.ttlSeconds + keyExpireBufferSeconds)) := by
  have hunexpired : ∀ {hash}, unexpired now key = some hash →
      ∃ old, key = some old ∧ hash.deadline = old.deadline := by
    intro hash h
    unfold unexpired at h
    split at h
    · exact ⟨hash, h, rfl⟩
    · exact RedisValue.deadline_of_hdel h
  obtain hrun | hrun | ⟨-, hrun⟩ := acquireScript_cases s now connId key
  · rw [hrun] at h
    exact Or.inl ⟨hash, h, rfl⟩
  · rw [hrun] at h
    exact Or.inl (hunexpired h)
  · simp only [hrun] at h
    exact Or.inr (RedisValue.deadline_of_expire h)

/-- The release script takes its own connection only. -/
theorem lookup_releaseScript {connId id : String} {key : RedisValue} (h : id ≠ connId) :
    (RedisValue.fields (releaseScript connId key)).lookup id =
      (RedisValue.fields key).lookup id := by
  have hdel : (RedisValue.fields (RedisValue.hdel [connId] key)).lookup id =
      (RedisValue.fields key).lookup id := by
    rw [RedisValue.lookup_fields_hdel, if_neg (by simpa using h)]
  dsimp only [releaseScript]
  split
  · next hempty =>
    rw [← hdel, Table.size_eq_zero_iff.1 hempty id]
    rfl
  · exact hdel

/-- The release script keeps the deadline of the key. -/
theorem deadline_releaseScript {connId : String} {key : RedisValue} {hash : RedisHash}
    (h : releaseScript connId key = some hash) :
    ∃ old, key = some old ∧ hash.deadline = old.deadline := by
  dsimp only [releaseScript] at h
  split at h
  · exact nomatch h
  · exact RedisValue.deadline_of_hdel h

/-- An unexpired connection survives `_acquire_memory`, or is renewed by it. -/
theorem lookup_acquireMemory {now : ℚ} (clientIp connId : String) {ip id : String}
    {l : WebSocketConnectionLimiter} {expiry : ℚ}
    (h : ((l.memory.lookup ip).getD ∅).lookup id = some expiry) (hle : now ≤ expiry) :
    ∃ expiry', (((l.acquireMemory s now clientIp connId).2.memory.lookup ip).getD ∅).lookup id =
      some expiry' ∧ (expiry' = expiry ∨ expiry' = now + s.ttlSeconds) := by
  by_cases hip : ip = clientIp
  · subst hip
    have hkept : (l.unexpiredConnections now ip).lookup id = some expiry := by
      rw [unexpiredConnections, Table.lookup_filter, h, Option.filter,
        if_pos (decide_eq_true hle)]
    obtain hrun | ⟨-, hrun⟩ := acquireMemory_cases s now ip connId l
    · simp only [hrun, AList.lookup_insert]
      exact ⟨expiry, hkept, Or.inl rfl⟩
    · simp only [hrun, AList.lookup_insert, Option.getD_some]
      by_cases hid : id = connId
      · subst hid
        exact ⟨_, AList.lookup_insert _, Or.inr rfl⟩
      · exact ⟨expiry, (AList.lookup_insert_ne hid).trans hkept, Or.inl rfl⟩
  · obtain hrun | ⟨-, hrun⟩ := acquireMemory_cases s now clientIp connId l
    · simp only [hrun, AList.lookup_insert_ne hip]
      exact ⟨expiry, h, Or.inl rfl⟩
    · simp only [hrun, AList.lookup_insert_ne hip]
      exact ⟨expiry, h, Or.inl rfl⟩

/-- `_release_memory` takes its own connection only. -/
theorem lookup_releaseMemory {clientIp ip connId id : String} {l : WebSocketConnectionLimiter}
    (h : ip ≠ clientIp ∨ id ≠ connId) :
    (((l.releaseMemory clientIp connId).memory.lookup ip).getD ∅).lookup id =
      ((l.memory.lookup ip).getD ∅).lookup id := by
  rw [releaseMemory]
  rcases hentry : l.memory.lookup clientIp with - | connections
  · rfl
  by_cases hip : ip = clientIp
  · subst hip
    have hid : id ≠ connId := h.resolve_left (not_not.2 rfl)
    have herase : (connections.erase connId).lookup id = connections.lookup id :=
      AList.lookup_erase_ne hid
    dsimp only
    rw [hentry]
    split
    · next hempty =>
      rw [AList.lookup_erase, Option.getD_some, ← herase, Table.size_eq_zero_iff.1 hempty id]
      rfl
    · rw [AList.lookup_insert]
      exact herase
  · dsimp only
    split
    · rw [AList.lookup_erase_ne hip]
    · rw [AList.lookup_insert_ne hip]

/-! ### The cap -/

/-- The invariant of the limiter: a store holds every live connection it has granted, and has
granted no more than the cap. -/
structure Capped (s : LimiterSettings) (w : LimiterWorld) : Prop where
  expiry_le : ∀ g ∈ w.grants, g.expiry ≤ w.now + s.ttlSeconds
  held : ∀ g ∈ w.grants, w.now ≤ g.expiry → HeldIn (w.table g.store g.clientIp) g
  deadline : ∀ g ∈ w.grants, g.store = .redis → w.now ≤ g.expiry →
    ∀ hash, w.redis.lookup (buildWsKey g.clientIp) = some hash → ∀ d ∈ hash.deadline, g.expiry < d
  card_le : ∀ store ip, (w.live store ip).card ≤ s.maxConnections

variable {w : LimiterWorld}

/-- A limiter that has granted nothing. -/
theorem capped_initial (now : ℚ) (redis : Table String RedisHash) :
    Capped s (initial now redis) :=
  ⟨fun _ hg ↦ absurd hg List.not_mem_nil, fun _ hg ↦ absurd hg List.not_mem_nil,
    fun _ hg ↦ absurd hg List.not_mem_nil, fun _ _ ↦ Nat.zero_le _⟩

/-- Time passes. -/
theorem Capped.later (h : Capped s w) {t : ℚ} (ht : w.now ≤ t) : Capped s { w with now := t } where
  expiry_le g hg := (h.expiry_le g hg).trans (add_le_add_left ht _)
  held g hg hnow := h.held g hg (ht.trans hnow)
  deadline g hg hstore hnow := h.deadline g hg hstore (ht.trans hnow)
  card_le store ip := by
    refine le_trans (Finset.card_le_card ?_) (h.card_le store ip)
    exact live_subset ht fun g hg _ _ ↦ hg

/-- The stores change, but keep what they have granted and what is not released. -/
theorem Capped.keep (h : Capped s w) {redis : Table String RedisHash}
    {limiter : WebSocketConnectionLimiter} (grants : List Grant)
    (hgrants : ∀ g ∈ grants, g ∈ w.grants)
    (hheld : ∀ g ∈ grants, w.now ≤ g.expiry →
      HeldIn (table { w with redis, limiter, grants } g.store g.clientIp) g)
    (hdeadline : ∀ g ∈ grants, g.store = .redis → w.now ≤ g.expiry →
      ∀ hash, redis.lookup (buildWsKey g.clientIp) = some hash →
        ∀ d ∈ hash.deadline, g.expiry < d) :
    Capped s { w with redis, limiter, grants } where
  expiry_le g hg := h.expiry_le g (hgrants g hg)
  held := hheld
  deadline := hdeadline
  card_le store ip := by
    refine le_trans (Finset.card_le_card ?_) (h.card_le store ip)
    exact live_subset le_rfl fun g hg _ _ ↦ hgrants g hg

/-- A connection is recorded which its store holds beside no more than the cap. -/
theorem Capped.record (h : Capped s w) {g₀ : Grant} (hexpiry : g₀.expiry ≤ w.now + s.ttlSeconds)
    (hheld : HeldIn (w.table g₀.store g₀.clientIp) g₀)
    (hdeadline : g₀.store = .redis → ∀ hash, w.redis.lookup (buildWsKey g₀.clientIp) = some hash →
      ∀ d ∈ hash.deadline, g₀.expiry < d)
    (hsize : Table.size (w.table g₀.store g₀.clientIp) ≤ s.maxConnections) :
    Capped s (w.record true g₀) := by
  have hmem : ∀ {g}, g ∈ (w.record true g₀).grants → g ∈ w.grants ∨ g = g₀ := by
    intro g hg
    exact (List.mem_append.1 hg).imp_right List.mem_singleton.1
  have hheld' : ∀ g ∈ (w.record true g₀).grants, w.now ≤ g.expiry →
      HeldIn (w.table g.store g.clientIp) g := by
    intro g hg hnow
    obtain hg | rfl := hmem hg
    · exact h.held g hg hnow
    · exact hheld
  refine ⟨fun g hg ↦ ?_, hheld', fun g hg hstore hnow ↦ ?_, fun store ip ↦ ?_⟩
  · obtain hg | rfl := hmem hg
    · exact h.expiry_le g hg
    · exact hexpiry
  · obtain hg | rfl := hmem hg
    · exact h.deadline g hg hstore hnow
    · exact hdeadline hstore
  · by_cases hnew : g₀.store = store ∧ g₀.clientIp = ip
    · obtain ⟨rfl, rfl⟩ := hnew
      refine le_trans (card_live_le_size fun g hg hstore hip hnow ↦ ?_) hsize
      have hg' := hheld' g hg hnow
      rwa [hstore, hip] at hg'
    · refine le_trans (Finset.card_le_card ?_) (h.card_le store ip)
      refine live_subset le_rfl fun g hg hstore hip ↦ (hmem hg).resolve_right ?_
      rintro rfl
      exact hnew ⟨hstore, hip⟩

/-! ### One step keeps the cap -/

/-- What is under the key of an IP after a write to a key. -/
theorem lookup_setRedisValue (clientIp ip : String) (value : RedisValue) :
    (w.setRedisValue clientIp value).redis.lookup (buildWsKey ip) =
      if ip = clientIp then value else w.redis.lookup (buildWsKey ip) := by
  rw [setRedisValue, Table.lookup_put]
  simp only [buildWsKey_inj]

/-- The key of a live connection has not expired. -/
theorem Capped.redisValue_eq (h : Capped s w) {g : Grant} (hg : g ∈ w.grants)
    (hstore : g.store = .redis) (hnow : w.now ≤ g.expiry) :
    w.redisValue g.clientIp = w.redis.lookup (buildWsKey g.clientIp) := by
  rw [redisValue]
  rcases hvalue : w.redis.lookup (buildWsKey g.clientIp) with - | hash
  · rfl
  rw [Option.filter, if_pos]
  rcases hdeadline : hash.deadline with - | d
  · rfl
  · exact decide_eq_true (hnow.trans_lt (h.deadline g hg hstore hnow hash hvalue d hdeadline))

/-- A script that keeps the live connections of its key, or renews them, keeps the cap. -/
theorem Capped.setRedisValue (h : Capped s w) (clientIp : String) {value : RedisValue}
    (grants : List Grant) (hgrants : ∀ g ∈ grants, g ∈ w.grants)
    (hvalue : ∀ g ∈ grants, g.clientIp = clientIp → w.now ≤ g.expiry →
      HeldIn (RedisValue.fields (w.redisValue clientIp)) g → HeldIn (RedisValue.fields value) g)
    (hdeadline : ∀ hash, value = some hash →
      (∃ old, w.redisValue clientIp = some old ∧ hash.deadline = old.deadline) ∨
        hash.deadline = some (w.now + (s.ttlSeconds + keyExpireBufferSeconds))) :
    Capped s ({ w with grants }.setRedisValue clientIp value) := by
  have hkey (ip : String) : (Table.put w.redis (buildWsKey clientIp) value).lookup (buildWsKey ip) =
      if ip = clientIp then value else w.redis.lookup (buildWsKey ip) :=
    lookup_setRedisValue clientIp ip value
  refine h.keep grants hgrants (fun g hg hnow ↦ ?_) fun g hg hstore hnow hash hhash ↦ ?_
  · have hheld := h.held g (hgrants g hg) hnow
    rcases hstore : g.store with - | -
    · rw [hstore] at hheld
      show HeldIn (RedisValue.fields ((Table.put w.redis _ value).lookup _)) g
      rw [hkey]
      split
      · next hip =>
        refine hvalue g hg hip hnow ?_
        rw [← hip, h.redisValue_eq (hgrants g hg) hstore hnow]
        exact hheld
      · exact hheld
    · rw [hstore] at hheld
      exact hheld
  · have hold := h.deadline g (hgrants g hg) hstore hnow
    rw [hkey] at hhash
    split at hhash
    · next hip =>
      obtain ⟨old, hvalue', hd⟩ | hd := hdeadline hash hhash
      · rw [hd]
        rw [← hip, h.redisValue_eq (hgrants g hg) hstore hnow] at hvalue'
        exact hold old hvalue'
      · rintro d hd'
        rw [hd, Option.mem_some_iff] at hd'
        have hle := h.expiry_le g (hgrants g hg)
        have hbuffer : keyExpireBufferSeconds = 60 := rfl
        linarith
    · exact hold hash hhash

/-- A change of the in-memory maps that keeps the live connections, or renews them, keeps the
cap. -/
theorem Capped.setMemory (h : Capped s w) {limiter : WebSocketConnectionLimiter}
    (grants : List Grant) (hgrants : ∀ g ∈ grants, g ∈ w.grants)
    (hmemory : ∀ g ∈ grants, w.now ≤ g.expiry →
      HeldIn ((w.limiter.memory.lookup g.clientIp).getD ∅) g →
        HeldIn ((limiter.memory.lookup g.clientIp).getD ∅) g) :
    Capped s { w with limiter, grants } := by
  refine h.keep grants hgrants (fun g hg hnow ↦ ?_) fun g hg ↦ h.deadline g (hgrants g hg)
  have hheld := h.held g (hgrants g hg) hnow
  rcases hstore : g.store with - | -
  · rw [hstore] at hheld
    exact hheld
  · rw [hstore] at hheld
    exact hmemory g hg hnow hheld

/-- The connections that are left when one is released are others. -/
theorem mem_withoutConnection {clientIp connId : String} {grants : List Grant} {g : Grant} :
    g ∈ withoutConnection clientIp connId grants ↔
      g ∈ grants ∧ (g.clientIp ≠ clientIp ∨ g.connId ≠ connId) := by
  rw [withoutConnection, List.mem_filter, decide_eq_true_iff, not_and_or]

/-- A release keeps the cap, whichever store it reaches. -/
theorem Capped.release (h : Capped s w) (fate : RedisFate) (clientIp connId : String) :
    Capped s (w.release fate clientIp connId) := by
  have hleft : ∀ g ∈ withoutConnection clientIp connId w.grants,
      g ∈ w.grants ∧ (g.clientIp ≠ clientIp ∨ g.connId ≠ connId) :=
    fun g hg ↦ mem_withoutConnection.1 hg
  have hscript : Capped s ({ w with
      grants := withoutConnection clientIp connId w.grants }.setRedisValue clientIp
        (releaseScript connId (w.redisValue clientIp))) := by
    refine h.setRedisValue clientIp _ (fun g hg ↦ (hleft g hg).1) (fun g hg hip _ ↦ ?_)
      fun hash hhash ↦
      Or.inl (deadline_releaseScript hhash)
    rintro ⟨expiry, hlookup, hle⟩
    have hid : g.connId ≠ connId := (hleft g hg).2.resolve_left (not_not.2 hip)
    exact ⟨expiry, (lookup_releaseScript hid).trans hlookup, hle⟩
  unfold LimiterWorld.release
  dsimp only
  split
  · refine h.setMemory _ (fun g hg ↦ (hleft g hg).1) fun g hg _ ↦ ?_
    rintro ⟨expiry, hlookup, hle⟩
    exact ⟨expiry, (lookup_releaseMemory (hleft g hg).2).trans hlookup, hle⟩
  · split
    · exact h.keep _ (fun g hg ↦ (hleft g hg).1) (fun g hg ↦ h.held g (hleft g hg).1)
        fun g hg ↦ h.deadline g (hleft g hg).1
    · exact hscript

/-- The acquire script keeps the cap, whether or not its reply arrives. -/
theorem Capped.setRedisValue_acquireScript (h : Capped s w) (clientIp connId : String) :
    Capped s (w.setRedisValue clientIp
      (acquireScript s w.now connId (w.redisValue clientIp)).2) := by
  refine h.setRedisValue clientIp w.grants (fun g hg ↦ hg) (fun g hg _ hnow ↦ ?_)
    fun hash hhash ↦ deadline_acquireScript hhash
  rintro ⟨expiry, hlookup, hle⟩
  obtain ⟨expiry', hlookup', rfl | rfl⟩ :=
    lookup_acquireScript (s := s) connId hlookup (hnow.trans hle)
  · exact ⟨_, hlookup', hle⟩
  · exact ⟨_, hlookup', h.expiry_le g hg⟩

/-- A connection the acquire script grants is in the hash, beside no more than the cap. -/
theorem Capped.record_redis (h : Capped s w) {clientIp connId : String} {result : ℤ} {delay : ℚ}
    (hdelay : 0 ≤ delay) {value : RedisValue}
    (hrun : acquireScript s w.now connId (w.redisValue clientIp) = (.ok result, value))
    (hresult : result ≠ 0) :
    Capped s (LimiterWorld.record true ⟨clientIp, connId, .redis, w.now + s.ttlSeconds⟩
      { w.setRedisValue clientIp value with now := w.now + delay }) := by
  have hkept := h.setRedisValue_acquireScript clientIp connId
  rw [hrun] at hkept
  have hvalue : (w.setRedisValue clientIp value).redis.lookup (buildWsKey clientIp) = value := by
    rw [lookup_setRedisValue, if_pos rfl]
  -- the script has answered and not refused, so it registered the connection
  obtain hcase | hcase | ⟨hfree, hcase⟩ :=
    acquireScript_cases s w.now connId (w.redisValue clientIp)
  · exact nomatch (congrArg Prod.fst (hrun.symm.trans hcase))
  · exact absurd (Except.ok.inj (congrArg Prod.fst (hrun.symm.trans hcase))) hresult
  have hreg : value = RedisValue.expire (w.now + (s.ttlSeconds + keyExpireBufferSeconds))
      (RedisValue.hset connId (w.now + s.ttlSeconds) (unexpired w.now (w.redisValue clientIp))) :=
    congrArg Prod.snd (hrun.symm.trans hcase)
  refine (hkept.later (t := w.now + delay) (le_add_of_nonneg_right hdelay)).record ?_ ?_ ?_ ?_
  · show w.now + s.ttlSeconds ≤ w.now + delay + s.ttlSeconds
    linarith
  · show HeldIn (RedisValue.fields ((w.setRedisValue clientIp value).redis.lookup _)) _
    rw [hvalue]
    refine ⟨w.now + s.ttlSeconds, ?_, le_rfl⟩
    rw [hreg, RedisValue.fields_expire, RedisValue.lookup_fields_hset, if_pos rfl]
  · intro _ hash hhash d hd
    rw [hvalue, hreg] at hhash
    rw [RedisValue.deadline_of_expire hhash, Option.mem_some_iff] at hd
    have hbuffer : keyExpireBufferSeconds = 60 := rfl
    show w.now + s.ttlSeconds < d
    linarith
  · show Table.size (RedisValue.fields ((w.setRedisValue clientIp value).redis.lookup _)) ≤ _
    rw [hvalue, hreg, RedisValue.fields_expire]
    have hfields : ∀ id, (RedisValue.fields (RedisValue.hset connId (w.now + s.ttlSeconds)
        (unexpired w.now (w.redisValue clientIp)))).lookup id =
          ((RedisValue.fields (unexpired w.now (w.redisValue clientIp))).insert connId
            (w.now + s.ttlSeconds)).lookup id := fun id ↦ RedisValue.fields_ofFields _ _ id
    rw [Table.size_congr hfields]
    exact (Table.size_insert_le _ _ _).trans hfree

/-- `_acquire_memory` keeps the cap. -/
theorem Capped.acquireMemory (h : Capped s w) (clientIp connId : String) :
    Capped s { w with limiter := (w.limiter.acquireMemory s w.now clientIp connId).2 } := by
  refine h.setMemory w.grants (fun g hg ↦ hg) fun g hg hnow ↦ ?_
  rintro ⟨expiry, hlookup, hle⟩
  obtain ⟨expiry', hlookup', rfl | rfl⟩ :=
    lookup_acquireMemory (s := s) clientIp connId hlookup (hnow.trans hle)
  · exact ⟨_, hlookup', hle⟩
  · exact ⟨_, hlookup', h.expiry_le g hg⟩

/-- A connection `_acquire_memory` grants is in the map, beside no more than the cap. -/
theorem Capped.record_memory (h : Capped s w) {clientIp connId : String}
    (hgranted : (w.limiter.acquireMemory s w.now clientIp connId).1 = true) :
    Capped s (LimiterWorld.record true ⟨clientIp, connId, .memory, w.now + s.ttlSeconds⟩
      { w with limiter := (w.limiter.acquireMemory s w.now clientIp connId).2 }) := by
  obtain hcase | ⟨hfree, hcase⟩ := acquireMemory_cases s w.now clientIp connId w.limiter
  · rw [hcase] at hgranted
    exact nomatch hgranted
  have htable : (((w.limiter.acquireMemory s w.now clientIp connId).2.memory.lookup
      clientIp).getD ∅) = (w.limiter.unexpiredConnections w.now clientIp).insert connId
        (w.now + s.ttlSeconds) := by
    rw [hcase, AList.lookup_insert, Option.getD_some]
  refine (h.acquireMemory clientIp connId).record le_rfl ?_ (fun hstore ↦ nomatch hstore) ?_
  · show HeldIn
      (((w.limiter.acquireMemory s w.now clientIp connId).2.memory.lookup clientIp).getD ∅) _
    rw [htable]
    exact ⟨w.now + s.ttlSeconds, AList.lookup_insert _, le_rfl⟩
  · show Table.size (((w.limiter.acquireMemory s w.now clientIp connId).2.memory.lookup
      clientIp).getD ∅) ≤ _
    rw [htable]
    exact (Table.size_insert_le _ _ _).trans hfree

/-- The fallback of `acquire` keeps the cap. -/
theorem Capped.fallback (h : Capped s w) (clientIp connId : String) :
    Capped s (LimiterWorld.record (w.limiter.acquireMemory s w.now clientIp connId).1
      ⟨clientIp, connId, .memory, w.now + s.ttlSeconds⟩
      { w with limiter := (w.limiter.acquireMemory s w.now clientIp connId).2 }) := by
  rcases hgranted : (w.limiter.acquireMemory s w.now clientIp connId).1 with - | -
  · exact h.acquireMemory clientIp connId
  · exact h.record_memory hgranted

/-- What the caller of the acquire script learns of it, and what it leaves. -/
theorem callAcquireScript_cases (s : LimiterSettings) (fate : RedisFate) (clientIp connId : String)
    (w : LimiterWorld) :
    w.callAcquireScript s fate clientIp connId = (none, w) ∨
      (∃ result, fate = .answered ∧
        (acquireScript s w.now connId (w.redisValue clientIp)).1 = .ok result ∧
        w.callAcquireScript s fate clientIp connId = (some result, w.setRedisValue clientIp
          (acquireScript s w.now connId (w.redisValue clientIp)).2)) ∨
      w.callAcquireScript s fate clientIp connId = (none, w.setRedisValue clientIp
        (acquireScript s w.now connId (w.redisValue clientIp)).2) := by
  rcases hrun : acquireScript s w.now connId (w.redisValue clientIp) with ⟨result, value⟩
  rcases fate with - | - | -
  · rcases result with e | n
    · exact Or.inr (Or.inr (by simp only [callAcquireScript, hrun]; rfl))
    · exact Or.inr (Or.inl ⟨n, rfl, rfl, by simp only [callAcquireScript, hrun]; rfl⟩)
  · exact Or.inl (by simp only [callAcquireScript])
  · exact Or.inr (Or.inr (by simp only [callAcquireScript, hrun]))

/-- An acquisition keeps the cap, whichever store decides it. -/
theorem Capped.acquire (h : Capped s w) (fate : RedisFate) (clientIp connId : String) {delay : ℚ}
    (hdelay : 0 ≤ delay) : Capped s (w.acquire s fate clientIp connId delay).2 := by
  have hlater {w' : LimiterWorld} (h' : Capped s w') : Capped s { w' with now := w'.now + delay } :=
    h'.later (le_add_of_nonneg_right hdelay)
  unfold LimiterWorld.acquire
  obtain hcall | ⟨result, -, hresult, hcall⟩ | hcall :=
    callAcquireScript_cases s fate clientIp connId w
  · rw [hcall]
    exact (hlater h).fallback clientIp connId
  · rw [hcall]
    by_cases hzero : result = 0
    · subst hzero
      exact hlater (h.setRedisValue_acquireScript clientIp connId)
    · have hgranted : decide (result ≠ 0) = true := decide_eq_true hzero
      simp only [hgranted]
      exact h.record_redis hdelay (Prod.ext hresult rfl) hzero
  · rw [hcall]
    exact (hlater (h.setRedisValue_acquireScript clientIp connId)).fallback clientIp connId

/-- **Every step keeps the cap.** -/
theorem Capped.step {w' : LimiterWorld} {e : LimiterEvent} (h : Capped s w)
    (hstep : w.step s e = some w') : Capped s w' := by
  rcases e with seconds | ⟨fate, clientIp, connId, delay⟩ | ⟨fate, clientIp, connId⟩
  · obtain ⟨hseconds, heq⟩ := Option.ite_none_right_eq_some.1 hstep
    obtain rfl := Option.some.inj heq
    exact h.later (le_add_of_nonneg_right hseconds)
  · obtain ⟨hdelay, heq⟩ := Option.ite_none_right_eq_some.1 hstep
    obtain rfl := Option.some.inj heq
    exact h.acquire fate clientIp connId hdelay
  · obtain rfl := Option.some.inj hstep
    exact h.release fate clientIp connId

/-- **Each store keeps to the cap, and so an IP to twice the cap.** For every server, every sequence
of calls and whatever becomes of their scripts, the live connections that one store has granted to
an IP are never more than the cap, and the open connections of the IP never more than twice the
cap. -/
theorem card_openConnections_le {now : ℚ} {redis : Table String RedisHash} {es : List LimiterEvent}
    (h : run (LimiterWorld.step s) (initial now redis) es = some w) (ip : String) :
    (∀ store, (w.live store ip).card ≤ s.maxConnections) ∧
      (w.openConnections ip).card ≤ 2 * s.maxConnections := by
  have hcapped : Capped s w := invariant_run Capped.step (capped_initial now redis) h
  refine ⟨fun store ↦ hcapped.card_le store ip, ?_⟩
  have hredis := hcapped.card_le .redis ip
  have hmemory := hcapped.card_le .memory ip
  have hunion : (w.openConnections ip).card ≤ (w.live .redis ip).card + (w.live .memory ip).card :=
    Finset.card_union_le _ _
  omega

/-- Five connections are granted by Redis and, when it is lost, five more by the limiter itself. -/
def tenCalls : List LimiterEvent :=
  ["a", "b", "c", "d", "e"].map (fun id ↦ .acquire .answered "203.0.113.7" id 0) ++
    ["f", "g", "h", "i", "j"].map fun id ↦ .acquire .unreachable "203.0.113.7" id 0

/-- **Twice the cap is reached.** -/
theorem ten_connections_at_cap_five :
    ∃ w, run (LimiterWorld.step (lua51 5 300)) (initial 0 ∅) tenCalls = some w ∧
      (w.openConnections "203.0.113.7").card = 10 :=
  ⟨_, rfl, by decide +kernel⟩

/-- The bound at that run. -/
theorem card_openConnections_tenCalls :
    ∃ w, run (LimiterWorld.step (lua51 5 300)) (initial 0 ∅) tenCalls = some w ∧
      (∀ store, (w.live store "203.0.113.7").card ≤ 5) ∧
        (w.openConnections "203.0.113.7").card ≤ 2 * 5 := by
  have hrun : ∃ w, run (LimiterWorld.step (lua51 5 300)) (initial 0 ∅) tenCalls = some w :=
    ⟨_, rfl⟩
  obtain ⟨w, hw⟩ := hrun
  exact ⟨w, hw, card_openConnections_le hw "203.0.113.7"⟩

end LimiterWorld

end InvestmentAssistant
