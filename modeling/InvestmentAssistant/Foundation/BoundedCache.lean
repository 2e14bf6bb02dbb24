import Mathlib.Tactic

/-!
# Caches of bounded size

A bounded cache gives back what was put into it, unless it had to make room. Which entry then goes
is the policy's business, so a cache is known by its lookups and by three laws (`BoundedCache`): a
key that is set is there, a set changes no other key except by evicting it, and setting a key that
is there needs no room.

`lruCache` is the cache that evicts the entry not set for the longest time. A full one loses exactly
that entry (`get_lruCache_set_full`).
-/

/-- A cache of values under keys, by its lookups and its assignments. -/
structure BoundedCache (K V : Type) where
  State : Type
  get : State → K → Option V
  set : State → K → V → State
  /-- A key that is set is there. -/
  get_set_self : ∀ s k v, get (set s k v) k = some v
  /-- Another key is left alone or evicted. -/
  get_set_of_ne : ∀ s k v k', k' ≠ k →
    get (set s k v) k' = get s k' ∨ get (set s k v) k' = none
  /-- A key that is there takes no further room. -/
  get_set_of_hit : ∀ s k v k', get s k ≠ none → k' ≠ k → get (set s k v) k' = get s k'

namespace BoundedCache

variable {K V : Type}

/-- Two states that no lookup tells apart. -/
def SameEntries (cache : BoundedCache K V) (s s' : cache.State) : Prop :=
  ∀ k, cache.get s' k = cache.get s k

/-- **A set goes unnoticed exactly when it sets what is there.** -/
theorem sameEntries_set_iff (cache : BoundedCache K V) (s : cache.State) (k : K) (v : V) :
    cache.SameEntries s (cache.set s k v) ↔ cache.get s k = some v := by
  constructor
  · intro h
    rw [← h k, cache.get_set_self]
  · intro h k'
    by_cases hk : k' = k
    · rw [hk, cache.get_set_self, h]
    · exact cache.get_set_of_hit s k v k' (h ▸ Option.some_ne_none v) hk

section Lru

variable [DecidableEq K]

/-- The entry of a key, the one set last. -/
def entryOf (entries : List (K × V)) (k : K) : Option V :=
  (entries.find? fun e ↦ decide (e.1 = k)).map Prod.snd

/-- Put an entry at the front; a new one takes the place of the last when the cache is full. -/
def setEntry (maxsize : ℕ) (entries : List (K × V)) (k : K) (v : V) : List (K × V) :=
  if (entryOf entries k).isSome then (k, v) :: entries.filter fun e ↦ decide (e.1 ≠ k)
  else if entries.length < maxsize then (k, v) :: entries
  else (k, v) :: entries.dropLast

theorem entryOf_cons_self (entries : List (K × V)) (k : K) (v : V) :
    entryOf ((k, v) :: entries) k = some v := by
  simp [entryOf]

theorem entryOf_cons_of_ne {k k' : K} (h : k' ≠ k) (entries : List (K × V)) (v : V) :
    entryOf ((k, v) :: entries) k' = entryOf entries k' := by
  simp [entryOf, Ne.symm h]

theorem entryOf_filter_of_ne {k k' : K} (h : k' ≠ k) (entries : List (K × V)) :
    entryOf (entries.filter fun e ↦ decide (e.1 ≠ k)) k' = entryOf entries k' := by
  rw [entryOf, entryOf, List.find?_filter]
  congr 1
  refine List.find?_congr fun e _ ↦ ?_
  by_cases he : e.1 = k'
  · simp [he, h]
  · simp [he]

theorem entryOf_dropLast (entries : List (K × V)) (k : K) :
    entryOf entries.dropLast k = entryOf entries k ∨ entryOf entries.dropLast k = none := by
  rcases hfind : entries.dropLast.find? fun e ↦ decide (e.1 = k) with - | e
  · exact .inr (by rw [entryOf, hfind]; rfl)
  · have hwhole : (entries.find? fun e ↦ decide (e.1 = k)) = some e :=
      List.IsPrefix.find?_eq_some (List.dropLast_prefix entries) hfind
    exact .inl (by rw [entryOf, entryOf, hfind, hwhole])

/-- The cache that evicts the entry not set for the longest time. -/
def lruCache (K V : Type) [DecidableEq K] (maxsize : ℕ) : BoundedCache K V where
  State := List (K × V)
  get := entryOf
  set := setEntry maxsize
  get_set_self s k v := by
    rw [setEntry]
    split
    · exact entryOf_cons_self _ k v
    · split <;> exact entryOf_cons_self _ k v
  get_set_of_ne s k v k' h := by
    rw [setEntry]
    split
    · rw [entryOf_cons_of_ne h, entryOf_filter_of_ne h]
      exact .inl rfl
    · split
      · exact .inl (entryOf_cons_of_ne h s v)
      · rw [entryOf_cons_of_ne h]
        exact entryOf_dropLast s k'
  get_set_of_hit s k v k' hhit h := by
    rw [setEntry, if_pos (Option.isSome_iff_ne_none.2 hhit), entryOf_cons_of_ne h,
      entryOf_filter_of_ne h]

/-- **A full cache loses its last entry** to a new key. -/
theorem get_lruCache_set_full {maxsize : ℕ} {entries : List (K × V)} {k k' : K} (v : V) {v' : V}
    (hfull : maxsize ≤ entries.length + 1) (hnew : entryOf (entries ++ [(k', v')]) k = none)
    (hlast : entryOf entries k' = none) :
    (lruCache K V maxsize).get ((lruCache K V maxsize).set (entries ++ [(k', v')]) k v) k' =
      none := by
  have hne : k' ≠ k := by
    rintro rfl
    rw [entryOf, Option.map_eq_none_iff, List.find?_eq_none] at hnew
    exact hnew (k', v') (List.mem_append_right _ (List.mem_singleton.2 rfl)) (decide_eq_true rfl)
  have hlength : ¬ (entries ++ [(k', v')]).length < maxsize := by
    rw [List.length_append, List.length_singleton]
    exact not_lt.2 hfull
  show entryOf (setEntry _ _ k v) k' = none
  rw [setEntry, hnew, Option.isSome_none, if_neg Bool.false_ne_true, if_neg hlength,
    List.dropLast_concat, entryOf_cons_of_ne hne, hlast]

/-- The entries of a list in which each value stands under a key of its own. -/
theorem entryOf_map {ι : Type} [DecidableEq ι] {key : ι → K} (hkey : Function.Injective key)
    (val : ι → V) (indices : List ι) (i : ι) :
    entryOf (indices.map fun i ↦ (key i, val i)) (key i) =
      if i ∈ indices then some (val i) else none := by
  induction indices with
  | nil => rfl
  | cons j indices ih =>
    rw [List.map_cons]
    by_cases h : i = j
    · rw [h, entryOf_cons_self, if_pos (List.mem_cons_self ..)]
    · rw [entryOf_cons_of_ne (hkey.ne h), ih]
      simp [h]

end Lru

end BoundedCache
