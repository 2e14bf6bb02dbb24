import Mathlib.Data.List.Basic

/-!
# Dictionaries in the order of their keys

A dictionary is a list of keys with their values, read with `List.lookup`. Setting a key that is
there already replaces its value in place, and a new key goes to the end.

What a dictionary was built from is then described by lookups alone: setting a key changes what that
key gives and no other (`lookup_setItem`), so keys that are not set keep what they gave
(`lookup_setItems_of_ne`).
-/

namespace Dictionary

variable {K V : Type*} [DecidableEq K]

/-! ### Reading -/

theorem lookup_cons_ite (key k : K) (value : V) (d : List (K × V)) :
    ((key, value) :: d).lookup k = if k = key then some value else d.lookup k := by
  rcases eq_or_ne k key with rfl | hne
  · rw [if_pos rfl, List.lookup_cons, beq_self_eq_true]
  · rw [if_neg hne, List.lookup_cons, beq_false_of_ne hne]

/-- What a key gives is there under that key. -/
theorem mem_of_lookup_eq_some {d : List (K × V)} {k : K} {v : V} (h : d.lookup k = some v) :
    (k, v) ∈ d := by
  obtain ⟨before, after, rfl, -⟩ := List.lookup_eq_some_iff.1 h
  exact List.mem_append_right before (List.mem_cons_self ..)

/-! ### Setting -/

/-- `d[key] = value`. -/
def setItem (d : List (K × V)) (key : K) (value : V) : List (K × V) :=
  match d with
  | [] => [(key, value)]
  | e :: d => if e.1 = key then (key, value) :: d else e :: setItem d key value

/-- Set the keys of a list to its values, one after the other. -/
def setItems (d items : List (K × V)) : List (K × V) :=
  items.foldl (fun d e ↦ setItem d e.1 e.2) d

/-- A dictionary display `{key: value, …}`. -/
def dictOf (items : List (K × V)) : List (K × V) :=
  setItems [] items

/-- **Setting a key** changes what that key gives, and no other. -/
theorem lookup_setItem (d : List (K × V)) (key k : K) (value : V) :
    (setItem d key value).lookup k = if k = key then some value else d.lookup k := by
  induction d with
  | nil => exact lookup_cons_ite key k value []
  | cons e d ih =>
    rw [setItem]
    split
    · next heq =>
      rw [lookup_cons_ite, ← Prod.eta e, lookup_cons_ite, heq]
      split
      · rfl
      · rfl
    · next hne =>
      rw [← Prod.eta e, lookup_cons_ite, lookup_cons_ite, ih]
      split
      · next hk => rw [if_neg (hk ▸ hne)]
      · rfl

/-- Setting other keys leaves a key alone. -/
theorem lookup_setItems_of_ne {items : List (K × V)} {k : K} (h : ∀ e ∈ items, e.1 ≠ k)
    (d : List (K × V)) : (setItems d items).lookup k = d.lookup k := by
  rw [setItems]
  induction items generalizing d with
  | nil => rfl
  | cons e items ih =>
    obtain ⟨hne, hitems⟩ := List.forall_mem_cons.1 h
    rw [List.foldl_cons, ih hitems, lookup_setItem, if_neg hne.symm]

end Dictionary
