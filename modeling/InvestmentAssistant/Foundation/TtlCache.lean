import InvestmentAssistant.Foundation.KeyedTable

/-!
# Caches whose entries expire

An entry is a value with the time from which on it is gone. A cache of bounded size may in addition
drop an entry at any moment to make room, so a cache is compared with what its writes left in an
unbounded one (`held`): it holds nothing else (`Within`), and it holds all of it (`Holds`) as long
as nothing is dropped.

A write gives a key a value or takes it away, so the last write to a key decides what is found
under it (`get_of_within`, `get_of_holds`).
-/

open Table

/-- The entries of a cache: a value and the time at which it expires. -/
abbrev TtlCache (K V : Type) := Table K (V × ℚ)

namespace TtlCache

variable {K V : Type} [DecidableEq K]

/-- The value of a key, if it is there and has not expired. -/
def get (cache : TtlCache K V) (now : ℚ) (k : K) : Option V :=
  (cache.lookup k).bind fun entry ↦ if now < entry.2 then some entry.1 else none

/-- A write to a key: a value, or none where the key is taken away. -/
structure Write (K V : Type) where
  key : K
  time : ℚ
  value : Option V

/-- What a write leaves, for a time to live. -/
def Write.entry (ttl : ℚ) (w : Write K V) : Option (V × ℚ) :=
  w.value.map fun v ↦ (v, w.time + ttl)

/-- A value is set. -/
def set (ttl now : ℚ) (cache : TtlCache K V) (k : K) (v : V) : TtlCache K V :=
  cache.insert k (v, now + ttl)

/-- A key is taken away, on request or to make room. -/
def pop (cache : TtlCache K V) (k : K) : TtlCache K V :=
  cache.erase k

/-- A write is performed. -/
def write (ttl : ℚ) (cache : TtlCache K V) (w : Write K V) : TtlCache K V :=
  match w.value with
  | some v => set ttl w.time cache w.key v
  | none => pop cache w.key

/-- What an unbounded cache holds after a list of writes. -/
def held (ttl : ℚ) (writes : List (Write K V)) (k : K) : Option (V × ℚ) :=
  (lastWith Write.key k writes).bind (Write.entry ttl)

/-- The cache holds nothing but what the writes left. -/
def Within (ttl : ℚ) (writes : List (Write K V)) (cache : TtlCache K V) : Prop :=
  ∀ k entry, cache.lookup k = some entry → held ttl writes k = some entry

/-- The cache holds what the writes left. -/
def Holds (ttl : ℚ) (writes : List (Write K V)) (cache : TtlCache K V) : Prop :=
  ∀ k, cache.lookup k = held ttl writes k

variable {ttl now : ℚ} {writes : List (Write K V)} {cache : TtlCache K V}

theorem held_concat (ttl : ℚ) (writes : List (Write K V)) (w : Write K V) (k : K) :
    held ttl (writes ++ [w]) k = if w.key = k then w.entry ttl else held ttl writes k := by
  rw [held, lastWith_concat]
  split <;> rfl

theorem within_of_holds (h : Holds ttl writes cache) : Within ttl writes cache :=
  fun k _ hentry ↦ (h k).symm.trans hentry

theorem holds_empty : Holds ttl [] (∅ : TtlCache K V) :=
  fun _ ↦ rfl

/-! ### Writes -/

theorem lookup_set (ttl now : ℚ) (cache : TtlCache K V) (k k' : K) (v : V) :
    (set ttl now cache k v).lookup k' = if k = k' then some (v, now + ttl)
      else cache.lookup k' := by
  split
  · next h => rw [← h, set, AList.lookup_insert]
  · next h => rw [set, AList.lookup_insert_ne (Ne.symm h)]

theorem lookup_pop (cache : TtlCache K V) (k k' : K) :
    (pop cache k).lookup k' = if k = k' then none else cache.lookup k' := by
  split
  · next h => rw [← h, pop, AList.lookup_erase]
  · next h => rw [pop, AList.lookup_erase_ne (Ne.symm h)]

/-- A key is taken away, and nothing is added. -/
theorem of_lookup_pop {k k' : K} {entry : V × ℚ} (h : (pop cache k).lookup k' = some entry) :
    cache.lookup k' = some entry := by
  rw [lookup_pop] at h
  split at h
  · cases h
  · exact h

theorem holds_set (h : Holds ttl writes cache) (now : ℚ) (k : K) (v : V) :
    Holds ttl (writes ++ [⟨k, now, some v⟩]) (set ttl now cache k v) := by
  intro k'
  rw [lookup_set, held_concat, h k']
  rfl

theorem holds_pop (h : Holds ttl writes cache) (now : ℚ) (k : K) :
    Holds ttl (writes ++ [⟨k, now, none⟩]) (pop cache k) := by
  intro k'
  rw [lookup_pop, held_concat, h k']
  rfl

theorem within_set (h : Within ttl writes cache) (now : ℚ) (k : K) (v : V) :
    Within ttl (writes ++ [⟨k, now, some v⟩]) (set ttl now cache k v) := by
  intro k' entry hentry
  rw [lookup_set] at hentry
  rw [held_concat]
  split
  · next heq => rwa [if_pos heq] at hentry
  · next hne =>
    rw [if_neg hne] at hentry
    exact h k' entry hentry

theorem within_pop (h : Within ttl writes cache) (now : ℚ) (k : K) :
    Within ttl (writes ++ [⟨k, now, none⟩]) (pop cache k) := by
  intro k' entry hentry
  rw [lookup_pop] at hentry
  rw [held_concat]
  split
  · next heq => rwa [if_pos heq] at hentry
  · next hne =>
    rw [if_neg hne] at hentry
    exact h k' entry hentry

theorem holds_write (h : Holds ttl writes cache) (w : Write K V) :
    Holds ttl (writes ++ [w]) (write ttl cache w) := by
  obtain ⟨k, now, v | _⟩ := w
  · exact holds_pop h now k
  · exact holds_set h now k _

theorem within_write (h : Within ttl writes cache) (w : Write K V) :
    Within ttl (writes ++ [w]) (write ttl cache w) := by
  obtain ⟨k, now, v | _⟩ := w
  · exact within_pop h now k
  · exact within_set h now k _

/-- What a write leaves was there, or is its value. -/
theorem of_lookup_write {w : Write K V} {k : K} {entry : V × ℚ}
    (h : (write ttl cache w).lookup k = some entry) :
    cache.lookup k = some entry ∨ k = w.key ∧ w.entry ttl = some entry := by
  obtain ⟨key, now, v | v⟩ := w
  · exact .inl (of_lookup_pop h)
  · rw [write, lookup_set] at h
    split at h
    · next heq => exact .inr ⟨heq.symm, h⟩
    · exact .inl h

/-- An entry may be dropped at any moment. -/
theorem within_evict (h : Within ttl writes cache) (k : K) : Within ttl writes (pop cache k) :=
  fun k' entry hentry ↦ h k' entry (of_lookup_pop hentry)

/-! ### Reads -/

theorem get_eq_some_iff {k : K} {v : V} :
    get cache now k = some v ↔ ∃ expires, cache.lookup k = some (v, expires) ∧ now < expires := by
  rw [get, Option.bind_eq_some_iff]
  constructor
  · rintro ⟨entry, hentry, hlive⟩
    split at hlive
    · next hlt =>
      obtain rfl := Option.some.inj hlive
      exact ⟨entry.2, hentry, hlt⟩
    · cases hlive
  · rintro ⟨expires, hentry, hlt⟩
    exact ⟨(v, expires), hentry, if_pos hlt⟩

theorem held_eq_some_iff {k : K} {v : V} {expires : ℚ} :
    held ttl writes k = some (v, expires) ↔
      ∃ w, lastWith Write.key k writes = some w ∧ w.value = some v ∧ w.time + ttl = expires := by
  rw [held, Option.bind_eq_some_iff]
  refine exists_congr fun w ↦ and_congr_right fun _ ↦ ?_
  rw [Write.entry, Option.map_eq_some_iff]
  constructor
  · rintro ⟨v', hv', heq⟩
    obtain ⟨rfl, rfl⟩ := Prod.mk.inj heq
    exact ⟨hv', rfl⟩
  · rintro ⟨hv, rfl⟩
    exact ⟨v, hv, rfl⟩

/-- **What is found was put there by the last write**, less than the time to live ago. -/
theorem get_of_within (h : Within ttl writes cache) {k : K} {v : V}
    (hget : get cache now k = some v) :
    ∃ w, lastWith Write.key k writes = some w ∧ w.value = some v ∧ now < w.time + ttl := by
  obtain ⟨expires, hentry, hlive⟩ := get_eq_some_iff.1 hget
  obtain ⟨w, hw, hv, rfl⟩ := held_eq_some_iff.1 (h k _ hentry)
  exact ⟨w, hw, hv, hlive⟩

/-- **Where nothing was dropped, the last write decides what is found.** -/
theorem get_of_holds (h : Holds ttl writes cache) (now : ℚ) (k : K) (v : V) :
    get cache now k = some v ↔
      ∃ w, lastWith Write.key k writes = some w ∧ w.value = some v ∧ now < w.time + ttl := by
  refine ⟨get_of_within (within_of_holds h), ?_⟩
  rintro ⟨w, hw, hv, hlive⟩
  rw [get_eq_some_iff]
  exact ⟨_, (h k).trans (held_eq_some_iff.2 ⟨w, hw, hv, rfl⟩), hlive⟩

end TtlCache
