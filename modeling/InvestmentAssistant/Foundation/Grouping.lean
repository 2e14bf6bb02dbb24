import Mathlib.Data.List.Induction
import Mathlib.Data.List.Nodup
import InvestmentAssistant.Foundation.Dictionary

/-!
# Grouping a list by a key

A dictionary that collects, under the key of each element of a list, the elements with this key. The
keys are in the order in which they first occur.

So the groups are described without the loop: a key has a group when an element has the key, and the
group is the part of the list with the key (`mem_groupBy_iff`); no key has two groups
(`nodup_keys_groupBy`).
-/

namespace Grouping

open Dictionary

variable {K V α : Type*} [DecidableEq K]

/-! ### Keys of a dictionary -/

theorem map_fst_setItem (d : List (K × V)) (key : K) (value : V) :
    (setItem d key value).map Prod.fst =
      if key ∈ d.map Prod.fst then d.map Prod.fst else d.map Prod.fst ++ [key] := by
  induction d with
  | nil => rfl
  | cons e d ih =>
    rw [setItem, List.map_cons]
    by_cases h : e.1 = key
    · rw [if_pos h, if_pos (List.mem_cons.2 (.inl h.symm)), List.map_cons, h]
    · rw [if_neg h, List.map_cons, ih]
      simp only [List.mem_cons, or_iff_right (Ne.symm h)]
      split <;> rfl

theorem nodup_keys_setItem {d : List (K × V)} (h : (d.map Prod.fst).Nodup) (key : K) (value : V) :
    ((setItem d key value).map Prod.fst).Nodup := by
  rw [map_fst_setItem]
  split
  · exact h
  · next hkey =>
    rw [← List.concat_eq_append]
    exact h.concat hkey

/-- Where keys are unique, an entry is what its key gives. -/
theorem mem_iff_lookup_eq_some {d : List (K × V)} (h : (d.map Prod.fst).Nodup) {k : K} {v : V} :
    (k, v) ∈ d ↔ d.lookup k = some v := by
  refine ⟨fun hmem ↦ ?_, mem_of_lookup_eq_some⟩
  induction d with
  | nil => exact absurd hmem List.not_mem_nil
  | cons e d ih =>
    obtain ⟨hnotMem, hnodup⟩ := List.nodup_cons.1 h
    rw [← Prod.eta e, lookup_cons_ite]
    rcases List.mem_cons.1 hmem with heq | hmem
    · rw [← heq, if_pos rfl]
    · have hne : k ≠ e.1 := fun heq ↦ hnotMem (heq ▸ List.mem_map_of_mem (f := Prod.fst) hmem)
      rw [if_neg hne]
      exact ih hnodup hmem

/-! ### Groups -/

variable (key : α → K)

/-- One element goes behind the others with its key. -/
def addToGroup (groups : List (K × List α)) (a : α) : List (K × List α) :=
  setItem groups (key a) ((groups.lookup (key a)).getD [] ++ [a])

/-- The groups of a list. -/
def groupBy (as : List α) : List (K × List α) :=
  as.foldl (addToGroup key) []

variable {key}

theorem groupBy_concat (as : List α) (a : α) :
    groupBy key (as ++ [a]) = addToGroup key (groupBy key as) a :=
  List.foldl_concat ..

/-- **No key has two groups.** -/
theorem nodup_keys_groupBy (as : List α) : ((groupBy key as).map Prod.fst).Nodup := by
  induction as using List.reverseRecOn with
  | nil => exact List.nodup_nil
  | append_singleton as a ih =>
    rw [groupBy_concat]
    exact nodup_keys_setItem ih _ _

theorem lookup_groupBy (as : List α) (k : K) :
    ((groupBy key as).lookup k).getD [] = as.filter (key · = k) ∧
      ((groupBy key as).lookup k ≠ some []) := by
  induction as using List.reverseRecOn with
  | nil => exact ⟨rfl, fun h ↦ nomatch h⟩
  | append_singleton as a ih =>
    rw [groupBy_concat, addToGroup, lookup_setItem, List.filter_append]
    by_cases h : k = key a
    · subst h
      rw [if_pos rfl, Option.getD_some, ih.1]
      exact ⟨by simp, by simp⟩
    · rw [if_neg h, ih.1]
      exact ⟨by simp [Ne.symm h], ih.2⟩

/-- **The groups of a list** are its parts with the same key. -/
theorem mem_groupBy_iff {as : List α} {k : K} {group : List α} :
    (k, group) ∈ groupBy key as ↔ group = as.filter (key · = k) ∧ group ≠ [] := by
  obtain ⟨hfilter, hne⟩ := @lookup_groupBy _ _ _ key as k
  rw [mem_iff_lookup_eq_some (nodup_keys_groupBy as), ← hfilter]
  rcases hlookup : (groupBy key as).lookup k with - | g
  · exact iff_of_false (fun h ↦ nomatch h) fun h ↦ h.2 h.1
  · rw [hlookup] at hne
    rw [Option.some.injEq, Option.getD_some]
    constructor
    · rintro rfl
      exact ⟨rfl, fun h ↦ hne (congrArg some h)⟩
    · exact fun h ↦ h.1.symm

end Grouping
