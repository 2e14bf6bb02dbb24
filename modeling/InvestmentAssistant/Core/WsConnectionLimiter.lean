import InvestmentAssistant.Foundation.KeyedTable

/-!
# The WebSocket connection limiter

`WebSocketConnectionLimiter` bounds the connections of one client IP. Its state lives in Redis, in
one hash per IP that two Lua scripts change, and falls back to two maps of its own when Redis cannot
be used. The scripts are embedded command by command: a hash without fields does not exist, and
`table.unpack` is a function only where the interpreter has one, which Lua 5.1 has not.

Both stores make the same decision and keep the same connections, with one exception: the acquire
script needs `table.unpack` to delete what has expired, so in Lua 5.1 it raises as soon as something
has (`scriptsAgree_iff`).
-/

namespace InvestmentAssistant

/-- The connections of one client IP: connection id to absolute expiry. -/
abbrev ConnectionTable := Table String ℚ

/-- `_KEY_EXPIRE_BUFFER_SECONDS`. -/
def keyExpireBufferSeconds : ℚ := 60

/-- The settings of a limiter, and whether the Lua interpreter of its Redis server has
`table.unpack`. -/
structure LimiterSettings where
  maxConnections : ℕ
  ttlSeconds : ℤ
  tableUnpack : Bool
  deriving DecidableEq, Repr

/-- A Redis server with Lua 5.1, whose `table` library has no `unpack`. -/
def lua51 (maxConnections : ℕ) (ttlSeconds : ℤ) : LimiterSettings where
  maxConnections := maxConnections
  ttlSeconds := ttlSeconds
  tableUnpack := false

/-! ### Redis hashes -/

/-- A hash, with the time its key expires. A hash without fields does not exist. -/
structure RedisHash where
  fields : ConnectionTable
  deadline : Option ℚ
  nonempty : Table.size fields ≠ 0

/-- The value of a key: a hash, or nothing. -/
abbrev RedisValue := Option RedisHash

namespace RedisValue

/-- The fields of a value; a missing key has none. -/
def fields : RedisValue → ConnectionTable
  | none => ∅
  | some hash => hash.fields

/-- The value with these fields: nothing, when there are none. -/
def ofFields (fields : ConnectionTable) (deadline : Option ℚ) : RedisValue :=
  if h : Table.size fields ≠ 0 then some ⟨fields, deadline, h⟩ else none

/-- `HGETALL`, as pairs of a field and its value. -/
def hgetall (key : RedisValue) : List (String × ℚ) :=
  (fields key).entries.map fun e ↦ (e.1, e.2)

/-- `HLEN`. -/
def hlen (key : RedisValue) : ℕ :=
  Table.size (fields key)

/-- `HDEL`: a hash that loses its last field is deleted. -/
def hdel (names : List String) (key : RedisValue) : RedisValue :=
  key.bind fun hash ↦ ofFields (Table.eraseAll names hash.fields) hash.deadline

/-- `HSET`. -/
def hset (name : String) (value : ℚ) (key : RedisValue) : RedisValue :=
  ofFields ((fields key).insert name value) (key.bind RedisHash.deadline)

/-- `EXPIRE`, with the time it comes to. -/
def expire (deadline : ℚ) (key : RedisValue) : RedisValue :=
  key.map fun hash ↦ { hash with deadline := some deadline }

@[simp]
theorem fields_ofFields (t : ConnectionTable) (deadline : Option ℚ) (id : String) :
    (fields (ofFields t deadline)).lookup id = t.lookup id := by
  unfold ofFields
  split
  · rfl
  · next h => exact (Table.size_eq_zero_iff.1 (not_not.1 h) id).symm

@[simp]
theorem lookup_fields_hdel (names : List String) (key : RedisValue) (id : String) :
    (fields (hdel names key)).lookup id = if id ∈ names then none else (fields key).lookup id := by
  rcases key with - | hash
  · exact (ite_self none).symm
  · show (fields (ofFields _ _)).lookup id = _
    rw [fields_ofFields, Table.lookup_eraseAll]
    rfl

@[simp]
theorem lookup_fields_hset (name : String) (value : ℚ) (key : RedisValue) (id : String) :
    (fields (hset name value key)).lookup id =
      if id = name then some value else (fields key).lookup id := by
  rw [hset, fields_ofFields]
  exact Table.lookup_put _ _ _ (some value)

@[simp]
theorem fields_expire (deadline : ℚ) (key : RedisValue) :
    fields (expire deadline key) = fields key := by
  cases key <;> rfl

theorem deadline_of_expire {deadline : ℚ} {key : RedisValue} {hash : RedisHash}
    (h : expire deadline key = some hash) : hash.deadline = some deadline := by
  obtain ⟨old, -, rfl⟩ := Option.map_eq_some_iff.1 h
  rfl

theorem deadline_of_hdel {names : List String} {key : RedisValue} {hash : RedisHash}
    (h : hdel names key = some hash) : ∃ old, key = some old ∧ hash.deadline = old.deadline := by
  obtain ⟨old, hold, hfields⟩ := Option.bind_eq_some_iff.1 h
  refine ⟨old, hold, ?_⟩
  unfold ofFields at hfields
  split at hfields
  · rw [← Option.some.inj hfields]
  · exact nomatch hfields

theorem mem_hgetall {key : RedisValue} {id : String} {expiry : ℚ} :
    (id, expiry) ∈ hgetall key ↔ (fields key).lookup id = some expiry := by
  rw [hgetall, List.mem_map, ← Option.mem_def, AList.mem_lookup_iff]
  constructor
  · rintro ⟨⟨id', expiry'⟩, hmem, heq⟩
    obtain ⟨rfl, rfl⟩ := Prod.mk.inj heq
    exact hmem
  · intro h
    exact ⟨⟨id, expiry⟩, h, rfl⟩

/-- Nothing is stored under a key exactly when it has no fields. -/
theorem eq_none_iff {key : RedisValue} : key = none ↔ ∀ id, (fields key).lookup id = none := by
  rcases key with - | hash
  · exact iff_of_true rfl fun _ ↦ rfl
  · exact iff_of_false (by simp) fun h ↦ hash.nonempty (Table.size_eq_zero_iff.2 h)

end RedisValue

/-! ### The scripts -/

/-- A script that calls a field that is `nil`. -/
inductive ScriptError
  | nilCall (field : String)
  deriving DecidableEq, Repr

/-- The entries the acquire script deletes. -/
def expiredFields (now : ℚ) (key : RedisValue) : List String :=
  ((RedisValue.hgetall key).filter fun e ↦ decide (e.2 < now)).map Prod.fst

/-- `_ACQUIRE_LUA` once the expired entries are gone. -/
def acquireUnexpired (maxConn : ℕ) (connId : String) (expiry deadline : ℚ) (key : RedisValue) :
    ℤ × RedisValue :=
  if maxConn ≤ RedisValue.hlen key then (0, key)
  else (1, RedisValue.expire deadline (RedisValue.hset connId expiry key))

/-- `_ACQUIRE_LUA`: its result and the value it leaves under the key. -/
def acquireScript (s : LimiterSettings) (now : ℚ) (connId : String) (key : RedisValue) :
    Except ScriptError ℤ × RedisValue :=
  let acquire (key : RedisValue) : Except ScriptError ℤ × RedisValue :=
    let (result, key) := acquireUnexpired s.maxConnections connId (now + s.ttlSeconds)
      (now + (s.ttlSeconds + keyExpireBufferSeconds)) key
    (.ok result, key)
  let expired := expiredFields now key
  if expired = [] then acquire key
  else if s.tableUnpack then acquire (RedisValue.hdel expired key)
  else (.error (.nilCall "unpack"), key)

/-- `_RELEASE_LUA`. -/
def releaseScript (connId : String) (key : RedisValue) : RedisValue :=
  let key := RedisValue.hdel [connId] key
  if RedisValue.hlen key = 0 then none else key

/-! ### The in-process store -/

/-- The limiter's own state: `_memory` and `_memory_conn_ids`. -/
structure WebSocketConnectionLimiter where
  memory : Table String ConnectionTable := ∅
  memoryConnIds : Finset String := ∅

namespace WebSocketConnectionLimiter

/-- `_acquire_memory`, with the clock it reads. -/
def acquireMemory (s : LimiterSettings) (now : ℚ) (clientIp connId : String)
    (l : WebSocketConnectionLimiter) : Bool × WebSocketConnectionLimiter :=
  let connections := (l.memory.lookup clientIp).getD ∅
  let connections := Table.filter (fun expiry ↦ decide (now ≤ expiry)) connections
  if s.maxConnections ≤ Table.size connections then
    (false, { l with memory := l.memory.insert clientIp connections })
  else
    let connections := connections.insert connId (now + s.ttlSeconds)
    (true,
      { memory := l.memory.insert clientIp connections
        memoryConnIds := insert connId l.memoryConnIds })

/-- The connections of an IP that have not expired. -/
def unexpiredConnections (now : ℚ) (clientIp : String) (l : WebSocketConnectionLimiter) :
    ConnectionTable :=
  Table.filter (fun expiry ↦ decide (now ≤ expiry)) ((l.memory.lookup clientIp).getD ∅)

/-- **What `_acquire_memory` does**: it refuses, or registers. -/
theorem acquireMemory_cases (s : LimiterSettings) (now : ℚ) (clientIp connId : String)
    (l : WebSocketConnectionLimiter) :
    l.acquireMemory s now clientIp connId =
        (false, { l with
          memory := l.memory.insert clientIp (l.unexpiredConnections now clientIp) }) ∨
      Table.size (l.unexpiredConnections now clientIp) < s.maxConnections ∧
        l.acquireMemory s now clientIp connId =
          (true,
            { memory := l.memory.insert clientIp
                ((l.unexpiredConnections now clientIp).insert connId (now + s.ttlSeconds))
              memoryConnIds := insert connId l.memoryConnIds }) := by
  rcases le_or_gt s.maxConnections (Table.size (l.unexpiredConnections now clientIp)) with
    hfull | hfree
  · exact Or.inl (if_pos hfull)
  · exact Or.inr ⟨hfree, if_neg hfree.not_ge⟩

/-- `_release_memory`. -/
def releaseMemory (clientIp connId : String) (l : WebSocketConnectionLimiter) :
    WebSocketConnectionLimiter :=
  match l.memory.lookup clientIp with
  | none => l
  | some connections =>
    let connections := connections.erase connId
    { memory :=
        if Table.size connections = 0 then l.memory.erase clientIp
        else l.memory.insert clientIp connections
      memoryConnIds := l.memoryConnIds.erase connId }

end WebSocketConnectionLimiter

/-! ### What a script leaves of the expired entries -/

/-- The value under the key once the expired entries are gone. -/
def unexpired (now : ℚ) (key : RedisValue) : RedisValue :=
  if expiredFields now key = [] then key else RedisValue.hdel (expiredFields now key) key

theorem mem_expiredFields {now : ℚ} {key : RedisValue} {id : String} :
    id ∈ expiredFields now key ↔
      ∃ expiry, (RedisValue.fields key).lookup id = some expiry ∧ expiry < now := by
  rw [expiredFields, List.mem_map]
  constructor
  · rintro ⟨⟨id', expiry⟩, hmem, rfl⟩
    obtain ⟨hget, hlt⟩ := List.mem_filter.1 hmem
    exact ⟨expiry, RedisValue.mem_hgetall.1 hget, of_decide_eq_true hlt⟩
  · rintro ⟨expiry, hlookup, hlt⟩
    exact ⟨(id, expiry),
      List.mem_filter.2 ⟨RedisValue.mem_hgetall.2 hlookup, decide_eq_true hlt⟩, rfl⟩

/-- Nothing is deleted when nothing has expired. -/
theorem expiredFields_eq_nil_iff {now : ℚ} {key : RedisValue} :
    expiredFields now key = [] ↔
      ∀ id expiry, (RedisValue.fields key).lookup id = some expiry → now ≤ expiry := by
  rw [List.eq_nil_iff_forall_not_mem]
  refine forall_congr' fun id ↦ ?_
  rw [mem_expiredFields]
  push Not
  rfl

/-- What is left are the entries that have not expired. -/
theorem lookup_unexpired (now : ℚ) (key : RedisValue) (id : String) :
    (RedisValue.fields (unexpired now key)).lookup id =
      ((RedisValue.fields key).lookup id).filter fun expiry ↦ decide (now ≤ expiry) := by
  have hdel : (RedisValue.fields (unexpired now key)).lookup id =
      if id ∈ expiredFields now key then none else (RedisValue.fields key).lookup id := by
    unfold unexpired
    split
    · next h => simp [h]
    · exact RedisValue.lookup_fields_hdel _ _ _
  rw [hdel]
  rcases hlookup : (RedisValue.fields key).lookup id with - | expiry
  · exact ite_self none
  · have hiff : id ∈ expiredFields now key ↔ ¬ now ≤ expiry := by
      rw [mem_expiredFields, hlookup, not_le]
      simp
    by_cases hle : now ≤ expiry
    · rw [if_neg fun hmem ↦ hiff.1 hmem hle, Option.filter, if_pos (decide_eq_true hle)]
    · rw [if_pos (hiff.2 hle), Option.filter, if_neg (by simpa using hle)]

/-- A script that can delete what has expired decides on what is left. -/
theorem acquireScript_eq {s : LimiterSettings} {now : ℚ} {key : RedisValue} (connId : String)
    (h : expiredFields now key = [] ∨ s.tableUnpack = true) :
    acquireScript s now connId key =
      let left := acquireUnexpired s.maxConnections connId (now + s.ttlSeconds)
        (now + (s.ttlSeconds + keyExpireBufferSeconds)) (unexpired now key)
      (.ok left.1, left.2) := by
  unfold acquireScript unexpired
  by_cases hexpired : expiredFields now key = []
  · simp only [hexpired, ↓reduceIte]
  · simp only [hexpired, h.resolve_left hexpired, ↓reduceIte]

/-- A script without `table.unpack` fails as soon as something has expired. -/
theorem acquireScript_eq_error {s : LimiterSettings} {now : ℚ} {key : RedisValue} (connId : String)
    (h : expiredFields now key ≠ []) (hunpack : s.tableUnpack = false) :
    acquireScript s now connId key = (.error (.nilCall "unpack"), key) := by
  simp [acquireScript, h, hunpack]

/-- **What the acquire script does**: it fails and changes nothing, refuses, or registers. -/
theorem acquireScript_cases (s : LimiterSettings) (now : ℚ) (connId : String) (key : RedisValue) :
    acquireScript s now connId key = (.error (.nilCall "unpack"), key) ∨
      acquireScript s now connId key = (.ok 0, unexpired now key) ∨
      RedisValue.hlen (unexpired now key) < s.maxConnections ∧
        acquireScript s now connId key =
          (.ok 1, RedisValue.expire (now + (s.ttlSeconds + keyExpireBufferSeconds))
            (RedisValue.hset connId (now + s.ttlSeconds) (unexpired now key))) := by
  by_cases hunpack : expiredFields now key = [] ∨ s.tableUnpack = true
  · right
    rw [acquireScript_eq connId hunpack, acquireUnexpired]
    rcases le_or_gt s.maxConnections (RedisValue.hlen (unexpired now key)) with hfull | hfree
    · exact Or.inl (by rw [if_pos hfull])
    · exact Or.inr ⟨hfree, by rw [if_neg hfree.not_ge]⟩
  · obtain ⟨hexpired, hnounpack⟩ := not_or.1 hunpack
    exact Or.inl (acquireScript_eq_error connId hexpired (Bool.eq_false_iff.2 hnounpack))

/-! ### Agreement of the two stores -/

/-- Redis and the limiter hold the same connections of a client IP. -/
structure SameConnections (key : RedisValue) (entry : Option ConnectionTable) : Prop where
  none_iff : key = none ↔ entry = none
  lookup : ∀ id, (RedisValue.fields key).lookup id = (entry.getD ∅).lookup id

/-- Every map of connections is one that both stores can hold. -/
theorem sameConnections_ofFields (m : ConnectionTable) (deadline : Option ℚ) :
    SameConnections (RedisValue.ofFields m deadline)
      (if Table.size m = 0 then none else some m) := by
  unfold RedisValue.ofFields
  by_cases h : Table.size m = 0
  · rw [dif_neg (not_not.2 h), if_pos h]
    exact ⟨iff_of_true rfl rfl, fun _ ↦ rfl⟩
  · rw [dif_pos h, if_neg h]
    exact ⟨iff_of_false (by simp) (by simp), fun _ ↦ rfl⟩

section Agreement

variable (s : LimiterSettings) (now : ℚ) (clientIp connId : String) (key : RedisValue)
  (l : WebSocketConnectionLimiter)

/-- The acquire script runs without an error, makes the decision of `_acquire_memory` and leaves the
same connections. -/
def AcquireAgrees : Prop :=
  ∃ result key', acquireScript s now connId key = (.ok result, key') ∧
    decide (result ≠ 0) = (l.acquireMemory s now clientIp connId).1 ∧
    SameConnections key' ((l.acquireMemory s now clientIp connId).2.memory.lookup clientIp)

/-- The release script leaves the connections `_release_memory` leaves. -/
def ReleaseAgrees : Prop :=
  SameConnections (releaseScript connId key)
    ((l.releaseMemory clientIp connId).memory.lookup clientIp)

variable {s now clientIp connId key l}

/-- **The acquire script agrees** where it can delete what has expired. -/
theorem acquireAgrees_of_unpack (hcap : 0 < s.maxConnections)
    (h : SameConnections key (l.memory.lookup clientIp))
    (hunpack : expiredFields now key = [] ∨ s.tableUnpack = true) :
    AcquireAgrees s now clientIp connId key l := by
  set connections := Table.filter (fun expiry ↦ decide (now ≤ expiry))
    ((l.memory.lookup clientIp).getD ∅) with hconnections
  have hsame : ∀ id, (RedisValue.fields (unexpired now key)).lookup id = connections.lookup id := by
    intro id
    rw [lookup_unexpired, h.lookup, hconnections, Table.lookup_filter]
  have hlen : RedisValue.hlen (unexpired now key) = Table.size connections := Table.size_congr hsame
  rw [AcquireAgrees, acquireScript_eq connId hunpack, acquireUnexpired, hlen,
    WebSocketConnectionLimiter.acquireMemory, ← hconnections]
  by_cases hfull : s.maxConnections ≤ Table.size connections
  · simp only [hfull, ↓reduceIte]
    refine ⟨0, unexpired now key, rfl, rfl, ?_, ?_⟩
    · -- a full table has entries, so neither store has dropped the IP
      rw [AList.lookup_insert, RedisValue.eq_none_iff, ← Table.size_eq_zero_iff]
      exact iff_of_false (by rw [← RedisValue.hlen, hlen]; omega) (by simp)
    · rw [AList.lookup_insert]
      exact hsame
  · simp only [hfull, ↓reduceIte]
    refine ⟨1, _, rfl, rfl, ?_, ?_⟩
    · rw [AList.lookup_insert, RedisValue.eq_none_iff]
      refine iff_of_false (fun hnone ↦ ?_) (by simp)
      have hnew := hnone connId
      rw [RedisValue.fields_expire, RedisValue.lookup_fields_hset, if_pos rfl] at hnew
      exact nomatch hnew
    · intro id
      rw [AList.lookup_insert, RedisValue.fields_expire, RedisValue.lookup_fields_hset, hsame]
      exact (Table.lookup_put connections connId id (some _)).symm

/-- **The release script always agrees.** -/
theorem releaseAgrees (h : SameConnections key (l.memory.lookup clientIp)) :
    ReleaseAgrees clientIp connId key l := by
  rcases hentry : l.memory.lookup clientIp with - | connections
  · have hkey : key = none := h.none_iff.2 hentry
    subst hkey
    rw [ReleaseAgrees, WebSocketConnectionLimiter.releaseMemory, hentry]
    simp only [hentry]
    exact ⟨iff_of_true rfl rfl, fun _ ↦ rfl⟩
  · have hsame : ∀ id, (RedisValue.fields (RedisValue.hdel [connId] key)).lookup id =
        (connections.erase connId).lookup id := by
      intro id
      rw [RedisValue.lookup_fields_hdel, h.lookup, hentry]
      simp only [List.mem_singleton]
      exact (Table.lookup_put connections connId id none).symm
    have hlen : RedisValue.hlen (RedisValue.hdel [connId] key) =
        Table.size (connections.erase connId) := Table.size_congr hsame
    rw [ReleaseAgrees, releaseScript, WebSocketConnectionLimiter.releaseMemory, hentry]
    simp only [hlen]
    by_cases hempty : Table.size (connections.erase connId) = 0
    · simp only [hempty, ↓reduceIte, AList.lookup_erase]
      exact ⟨iff_of_true rfl rfl, fun _ ↦ rfl⟩
    · simp only [hempty, ↓reduceIte, AList.lookup_insert]
      refine ⟨iff_of_false (fun hnone ↦ hempty ?_) (by simp), hsame⟩
      rw [← hlen]
      exact Table.size_eq_zero_iff.2 (RedisValue.eq_none_iff.1 hnone)

/-- **In Lua 5.1 the scripts agree exactly when nothing has expired.** For every map of connections
that both stores hold, every clock reading, every positive cap and every connection id, the two
scripts run without an error and do what `_acquire_memory` and `_release_memory` do if and only if
the map has no entry that expired before the reading. -/
theorem scriptsAgree_iff {cap : ℕ} {ttl : ℤ} (hcap : 0 < cap)
    (h : SameConnections key (l.memory.lookup clientIp)) :
    AcquireAgrees (lua51 cap ttl) now clientIp connId key l ∧ ReleaseAgrees clientIp connId key l ↔
      ∀ id expiry, (RedisValue.fields key).lookup id = some expiry → now ≤ expiry := by
  rw [← expiredFields_eq_nil_iff]
  constructor
  · rintro ⟨⟨result, key', hrun, -⟩, -⟩
    by_contra hexpired
    rw [acquireScript_eq_error connId hexpired rfl] at hrun
    exact nomatch (congrArg Prod.fst hrun)
  · intro hexpired
    exact ⟨acquireAgrees_of_unpack hcap h (Or.inl hexpired), releaseAgrees h⟩

end Agreement

/-- One connection, which expires at 300 seconds. -/
def oneConnection : ConnectionTable :=
  AList.singleton "a" 300

/-- A limiter that holds it in memory. -/
def oneConnectionLimiter : WebSocketConnectionLimiter where
  memory := AList.singleton "203.0.113.7" oneConnection
  memoryConnIds := {"a"}

/-- Before the connection has expired the stores agree. -/
theorem scriptsAgree_before_expiry :
    AcquireAgrees (lua51 5 300) 100 "203.0.113.7" "b" (RedisValue.ofFields oneConnection none)
        oneConnectionLimiter ∧
      ReleaseAgrees "203.0.113.7" "b" (RedisValue.ofFields oneConnection none)
        oneConnectionLimiter := by
  refine (scriptsAgree_iff (by decide) (sameConnections_ofFields oneConnection none)).2 ?_
  intro id expiry h
  rw [RedisValue.fields_ofFields, oneConnection, ← Option.mem_def, AList.mem_lookup_iff] at h
  obtain ⟨-, hexpiry⟩ := Sigma.mk.inj (List.mem_singleton.1 h)
  rw [eq_of_heq hexpiry]
  decide +kernel

/-- Once it has expired, `_acquire_memory` grants a connection and the script raises. -/
theorem script_raises_after_expiry :
    SameConnections (RedisValue.ofFields oneConnection none)
        (oneConnectionLimiter.memory.lookup "203.0.113.7") ∧
      (oneConnectionLimiter.acquireMemory (lua51 5 300) 400 "203.0.113.7" "b").1 = true ∧
      (acquireScript (lua51 5 300) 400 "b" (RedisValue.ofFields oneConnection none)).1 =
        .error (.nilCall "unpack") ∧
      ¬ AcquireAgrees (lua51 5 300) 400 "203.0.113.7" "b" (RedisValue.ofFields oneConnection none)
        oneConnectionLimiter := by
  have herror : (acquireScript (lua51 5 300) 400 "b" (RedisValue.ofFields oneConnection none)).1 =
      .error (.nilCall "unpack") := by decide +kernel
  refine ⟨sameConnections_ofFields oneConnection none, by decide +kernel, herror, ?_⟩
  rintro ⟨result, key', hrun, -⟩
  rw [hrun] at herror
  exact nomatch herror

end InvestmentAssistant
