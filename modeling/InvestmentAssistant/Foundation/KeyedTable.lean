import Mathlib.Data.List.AList
import Mathlib.Data.List.Sort
import Mathlib.Tactic

/-!
# Tables with one row per key

A table is a finite map from keys to rows, and what is done to it is a list of writes: each puts a
row under a key or deletes the one there. Reading such a history needs no induction over the table:

* `lookup_writeAll` — after a list of writes a key holds what the *last* write to it left
  (`lastWith`), or what it held before when there was none. Everything about overwriting, order and
  interference follows from this and from how `lastWith` distributes over `++`.
* `keySet`, `filter` — the keys that hold a row, and the part of a table whose rows meet a
  condition, again described by lookups alone; so tables are counted by comparing sets of keys.
* `slice` — the rows of one group of a table keyed by a group and an ordered key, in the order of
  the key, as a `SELECT … WHERE … ORDER BY` gives them. It is determined by what the lookups say
  (`eq_slice_of_mem_iff`), so a listing is compared with a history through lookups alone.
-/

/-- A finite map from keys to rows. -/
abbrev Table (K V : Type*) := AList fun _ : K ↦ V

namespace Table

variable {K V W : Type*} [DecidableEq K]

/-! ### Writes -/

/-- Put a row under a key, or delete the one there. -/
def put (t : Table K V) (k : K) : Option V → Table K V
  | some v => t.insert k v
  | none => t.erase k

/-- A write changes its own key only. -/
theorem lookup_put (t : Table K V) (k k' : K) (v : Option V) :
    (put t k v).lookup k' = if k' = k then v else t.lookup k' := by
  cases v with
  | some v =>
    show (t.insert k v).lookup k' = _
    split
    · next h => rw [h, AList.lookup_insert]
    · next h => exact AList.lookup_insert_ne h
  | none =>
    show (t.erase k).lookup k' = _
    split
    · next h => rw [h, AList.lookup_erase]
    · next h => exact AList.lookup_erase_ne h

variable (key : W → K) (val : W → Option V)

/-- Perform a list of writes, first to last. -/
def writeAll (t : Table K V) (ws : List W) : Table K V :=
  ws.foldl (fun t w ↦ put t (key w) (val w)) t

/-- The last of a list of writes that goes to a key. -/
def lastWith (k : K) (ws : List W) : Option W :=
  ws.reverse.find? fun w ↦ decide (key w = k)

theorem writeAll_append (t : Table K V) (ws ws' : List W) :
    writeAll key val t (ws ++ ws') = writeAll key val (writeAll key val t ws) ws' :=
  List.foldl_append

/-- Writing piece by piece is writing the pieces together. -/
theorem foldl_writeAll (t : Table K V) (pieces : List (List W)) :
    pieces.foldl (writeAll key val) t = writeAll key val t pieces.flatten :=
  List.foldl_flatten.symm

/-- A later list of writes is consulted first. -/
theorem lastWith_append (k : K) (ws ws' : List W) :
    lastWith key k (ws ++ ws') = (lastWith key k ws').or (lastWith key k ws) := by
  rw [lastWith, List.reverse_append, List.find?_append]
  rfl

theorem lastWith_concat (k : K) (ws : List W) (w : W) :
    lastWith key k (ws ++ [w]) = if key w = k then some w else lastWith key k ws := by
  rw [lastWith_append]
  by_cases h : key w = k
  · simp [lastWith, h]
  · simp [lastWith, h]

variable {key}

theorem mem_of_lastWith_eq_some {k : K} {ws : List W} {w : W} (h : lastWith key k ws = some w) :
    w ∈ ws ∧ key w = k := by
  have hkey := List.find?_some (p := fun w ↦ decide (key w = k)) h
  exact ⟨List.mem_reverse.1 (List.mem_of_find?_eq_some h), of_decide_eq_true hkey⟩

theorem lastWith_eq_none_iff {k : K} {ws : List W} :
    lastWith key k ws = none ↔ ∀ w ∈ ws, key w ≠ k := by
  simp [lastWith]

/-- Every write has a last one to its key. -/
theorem exists_lastWith_of_mem {ws : List W} {w : W} (h : w ∈ ws) :
    ∃ w', lastWith key (key w) ws = some w' := by
  refine Option.ne_none_iff_exists'.1 fun hnone ↦ ?_
  exact lastWith_eq_none_iff.1 hnone w h rfl

/-- Two keys that single out the same writes have the same last write. -/
theorem lastWith_congr {K' : Type*} [DecidableEq K'] {key' : W → K'} {k : K} {k' : K'}
    {ws : List W} (h : ∀ w ∈ ws, key w = k ↔ key' w = k') :
    lastWith key k ws = lastWith key' k' ws := by
  refine List.find?_congr fun w hw ↦ ?_
  exact decide_eq_decide.2 (h w (List.mem_reverse.1 hw))

theorem lastWith_map {X : Type*} (f : X → W) (k : K) (xs : List X) :
    lastWith key k (xs.map f) = (lastWith (fun x ↦ key (f x)) k xs).map f := by
  rw [lastWith, ← List.map_reverse, List.find?_map]
  rfl

/-- The last write that comes of a list of events is that of the last event with one to the key. -/
theorem lastWith_filterMap {X K' : Type*} [DecidableEq K'] {f : X → Option W} (keyX : X → K')
    {k : K} (k' : K') (h : ∀ x w, f x = some w → (key w = k ↔ keyX x = k')) (xs : List X) :
    lastWith key k (xs.filterMap f) =
      (lastWith keyX k' (xs.filter fun x ↦ (f x).isSome)).bind f := by
  induction xs using List.reverseRecOn with
  | nil => rfl
  | append_singleton xs x ih =>
    rw [List.filterMap_append, List.filter_append]
    rcases hx : f x with - | w
    · simp [hx, ih]
    · rw [List.filterMap_cons_some hx, List.filter_cons_of_pos (by simp [hx]), List.filterMap_nil,
        List.filter_nil, lastWith_concat, lastWith_concat, ih]
      by_cases hk : key w = k
      · rw [if_pos hk, if_pos ((h x w hx).1 hk), Option.bind_some, hx]
      · rw [if_neg hk, if_neg (hk ∘ (h x w hx).2)]

/-- Writes to other keys may be dropped. -/
theorem lastWith_filter {p : W → Bool} {k : K} {ws : List W}
    (h : ∀ w ∈ ws, key w = k → p w = true) :
    lastWith key k (ws.filter p) = lastWith key k ws := by
  rw [lastWith, ← List.filter_reverse, List.find?_filter]
  refine List.find?_congr fun w hw ↦ ?_
  by_cases hk : key w = k
  · simp [hk, h w (List.mem_reverse.1 hw) hk]
  · simp [hk]

/-- If the last write to a key is among those kept, it is the last of them. -/
theorem lastWith_filter_of_last {p : W → Bool} {k : K} {ws : List W} {w : W}
    (h : lastWith key k ws = some w) (hp : p w = true) :
    lastWith key k (ws.filter p) = some w := by
  obtain ⟨hkey, before, later, hws, hlater⟩ := List.find?_eq_some_iff_append.1 h
  rw [lastWith, ← List.filter_reverse, List.find?_filter, List.find?_eq_some_iff_append]
  refine ⟨by simp [hp, hkey], before, later, hws, fun a ha ↦ ?_⟩
  have hne : key a ≠ k := by simpa using hlater a ha
  simp [hne]

variable (key)

/-- **What a key holds after a list of writes**: what the last write to it left, or what it held
before. -/
theorem lookup_writeAll (t : Table K V) (ws : List W) (k : K) :
    (writeAll key val t ws).lookup k =
      match lastWith key k ws with
      | some w => val w
      | none => t.lookup k := by
  induction ws using List.reverseRecOn with
  | nil => rfl
  | append_singleton ws w ih =>
    rw [writeAll_append, lastWith_concat]
    show (put _ (key w) (val w)).lookup k = _
    rw [lookup_put, ih]
    by_cases h : key w = k
    · simp [h]
    · simp [h, Ne.symm h]

/-! ### Keys and parts -/

/-- The keys that hold a row. -/
def keySet (t : Table K V) : Finset K :=
  t.keys.toFinset

/-- The number of rows. -/
def size (t : Table K V) : ℕ :=
  t.keys.length

/-- The part of a table whose rows meet a condition. -/
def filter (p : V → Bool) (t : Table K V) : Table K V :=
  ⟨t.entries.filter fun e ↦ p e.2, t.nodupKeys.sublist List.filter_sublist⟩

theorem size_eq_card (t : Table K V) : size t = (keySet t).card :=
  (List.toFinset_card_of_nodup t.keys_nodup).symm

theorem mem_keySet {t : Table K V} {k : K} : k ∈ keySet t ↔ ∃ v, t.lookup k = some v := by
  rw [keySet, List.mem_toFinset, ← AList.mem_keys, ← AList.lookup_isSome, Option.isSome_iff_exists]

/-- A table with the same lookups has the same keys. -/
theorem keySet_congr {t t' : Table K V} (h : ∀ k, t.lookup k = t'.lookup k) :
    keySet t = keySet t' := by
  ext k
  rw [mem_keySet, mem_keySet, h]

theorem size_congr {t t' : Table K V} (h : ∀ k, t.lookup k = t'.lookup k) : size t = size t' := by
  rw [size_eq_card, size_eq_card, keySet_congr h]

theorem size_eq_zero_iff {t : Table K V} : size t = 0 ↔ ∀ k, t.lookup k = none := by
  rw [size_eq_card, Finset.card_eq_zero, Finset.eq_empty_iff_forall_notMem]
  refine forall_congr' fun k ↦ ?_
  rw [mem_keySet, ← Option.ne_none_iff_exists', not_not]

/-- A row of a part is a row that meets the condition. -/
theorem lookup_filter (p : V → Bool) (t : Table K V) (k : K) :
    (filter p t).lookup k = (t.lookup k).filter p := by
  refine Option.ext fun v ↦ ?_
  rw [Option.filter_eq_some_iff, ← Option.mem_def, ← Option.mem_def, AList.mem_lookup_iff,
    AList.mem_lookup_iff]
  exact List.mem_filter

/-- One more row makes a table larger by one at most. -/
theorem size_insert_le (t : Table K V) (k : K) (v : V) : size (t.insert k v) ≤ size t + 1 := by
  have hkeys : (t.insert k v).keys = k :: t.keys.erase k := AList.keys_insert t
  rw [size, hkeys, List.length_cons, size]
  exact Nat.succ_le_succ (List.erase_sublist.length_le)

/-- Delete the rows of several keys. -/
def eraseAll (ks : List K) (t : Table K V) : Table K V :=
  ks.foldl (fun t k ↦ t.erase k) t

theorem lookup_eraseAll (ks : List K) (t : Table K V) (k : K) :
    (eraseAll ks t).lookup k = if k ∈ ks then none else t.lookup k := by
  induction ks generalizing t with
  | nil => rfl
  | cons a ks ih =>
    show (eraseAll ks (t.erase a)).lookup k = _
    rw [ih]
    by_cases hmem : k ∈ ks
    · simp [hmem]
    by_cases ha : k = a
    · subst ha
      simp [AList.lookup_erase]
    · simp [hmem, ha, AList.lookup_erase_ne ha]

end Table

/-! ### Ordered listings -/

namespace Table

variable {G T V : Type*} [DecidableEq G] [LinearOrder T]

/-- The rows of one group, in the order of the key within the group. -/
def slice (t : Table (G × T) V) (g : G) : List (T × V) :=
  ((t.entries.filter fun e ↦ decide (e.1.1 = g)).map fun e ↦ (e.1.2, e.2)).insertionSort
    fun a b ↦ a.1 ≤ b.1

/-- A listing holds what the lookups give. -/
theorem mem_slice {t : Table (G × T) V} {g : G} {k : T} {v : V} :
    (k, v) ∈ slice t g ↔ t.lookup (g, k) = some v := by
  rw [slice, List.mem_insertionSort, List.mem_map, ← Option.mem_def, AList.mem_lookup_iff]
  constructor
  · rintro ⟨⟨⟨g', k'⟩, v'⟩, he, heq⟩
    obtain ⟨hmem, hg⟩ := List.mem_filter.1 he
    obtain rfl : g' = g := of_decide_eq_true hg
    obtain ⟨rfl, rfl⟩ := Prod.mk.inj heq
    exact hmem
  · intro h
    exact ⟨⟨(g, k), v⟩, List.mem_filter.2 ⟨h, decide_eq_true rfl⟩, rfl⟩

/-- **A listing is strictly ordered**: one row per key, in the order of the keys. -/
theorem pairwise_slice (t : Table (G × T) V) (g : G) :
    (slice t g).Pairwise fun a b ↦ a.1 < b.1 := by
  have hnodup : ((slice t g).map Prod.fst).Nodup := by
    have hperm := (List.perm_insertionSort (fun a b : T × V ↦ a.1 ≤ b.1)
      ((t.entries.filter fun e ↦ decide (e.1.1 = g)).map fun e ↦ (e.1.2, e.2))).map Prod.fst
    refine hperm.nodup_iff.2 ?_
    rw [List.map_map]
    -- within one group, entries with equal second keys have equal keys
    have hkeys : (t.entries.filter fun e ↦ decide (e.1.1 = g)).Pairwise
        fun a b ↦ a.1 ≠ b.1 := by
      have hk : t.entries.Pairwise fun a b ↦ a.1 ≠ b.1 := List.pairwise_map.1 t.keys_nodup
      exact hk.filter _
    refine List.pairwise_map.2 (hkeys.imp_of_mem ?_)
    intro a b ha hb hne heq
    have hga : a.1.1 = g := of_decide_eq_true (List.mem_filter.1 ha).2
    have hgb : b.1.1 = g := of_decide_eq_true (List.mem_filter.1 hb).2
    exact hne (Prod.ext (hga.trans hgb.symm) heq)
  have hsorted : (slice t g).Pairwise fun a b ↦ a.1 ≤ b.1 :=
    List.pairwise_insertionSort (fun a b : T × V ↦ a.1 ≤ b.1) _
  exact hsorted.imp₂ (fun _ _ hle hne ↦ lt_of_le_of_ne hle hne) (List.pairwise_map.1 hnodup)

/-- Two strictly ordered lists with the same elements are equal. -/
theorem eq_of_pairwise_of_mem_iff {α β : Type*} [Preorder β] {f : α → β} {l l' : List α}
    (h : l.Pairwise fun a b ↦ f a < f b) (h' : l'.Pairwise fun a b ↦ f a < f b)
    (hmem : ∀ a, a ∈ l ↔ a ∈ l') : l = l' := by
  have hnodup : ∀ {m : List α}, (m.Pairwise fun a b ↦ f a < f b) → m.Nodup := fun hm ↦
    hm.imp fun hlt heq ↦ (lt_irrefl _ (heq ▸ hlt)).elim
  refine ((List.perm_ext_iff_of_nodup (hnodup h) (hnodup h')).2 hmem).eq_of_pairwise ?_ h h'
  intro a b _ _ hab hba
  exact (lt_asymm hab hba).elim

/-- **A listing is determined by the lookups.** -/
theorem eq_slice_of_mem_iff {t : Table (G × T) V} {g : G} {l : List (T × V)}
    (hl : l.Pairwise fun a b ↦ a.1 < b.1)
    (hmem : ∀ k v, (k, v) ∈ l ↔ t.lookup (g, k) = some v) : l = slice t g :=
  eq_of_pairwise_of_mem_iff hl (pairwise_slice t g) fun ⟨k, v⟩ ↦ (hmem k v).trans mem_slice.symm

/-- Listings of tables that agree on a group are equal. -/
theorem slice_congr {t t' : Table (G × T) V} {g : G}
    (h : ∀ k, t.lookup (g, k) = t'.lookup (g, k)) : slice t g = slice t' g := by
  refine eq_slice_of_mem_iff (pairwise_slice t g) fun k v ↦ ?_
  rw [mem_slice, h]

end Table
