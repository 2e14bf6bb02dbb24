import Mathlib.Data.List.Sort
import Mathlib.Tactic

/-!
# A stable sort is a concatenation of classes

Sorting by a key, with elements of equal keys left in their order, gathers the elements of each key:
the sorted list is the concatenation of the classes of the keys in increasing order
(`insertionSort_eq_classes`). So what comes before what can be read off the list of keys. What comes
first is the earliest element of the least key (`head?_insertionSort_eq_some_iff`).
-/

namespace StableSort

section Classes

variable {α K : Type*} [DecidableEq K] {key : α → K}

/-- The elements with a given key, in their order. -/
def keyClass (key : α → K) (xs : List α) (k : K) : List α :=
  xs.filter fun x ↦ decide (key x = k)

/-- The classes of a list of keys, one after the other. -/
def classes (key : α → K) (ks : List K) (xs : List α) : List α :=
  ks.flatMap (keyClass key xs)

theorem classes_nil (xs : List α) : classes key [] xs = [] := rfl

theorem classes_cons (k : K) (ks : List K) (xs : List α) :
    classes key (k :: ks) xs = keyClass key xs k ++ classes key ks xs := rfl

theorem classes_append (ks ks' : List K) (xs : List α) :
    classes key (ks ++ ks') xs = classes key ks xs ++ classes key ks' xs :=
  List.flatMap_append

@[simp]
theorem mem_keyClass {xs : List α} {k : K} {x : α} :
    x ∈ keyClass key xs k ↔ x ∈ xs ∧ key x = k := by
  simp [keyClass]

theorem mem_classes {ks : List K} {xs : List α} {x : α} :
    x ∈ classes key ks xs ↔ x ∈ xs ∧ key x ∈ ks := by
  simp [classes, and_comm]

theorem keyClass_cons_self (x : α) (xs : List α) :
    keyClass key (x :: xs) (key x) = x :: keyClass key xs (key x) :=
  List.filter_cons_of_pos (decide_eq_true rfl)

theorem keyClass_cons_of_ne {x : α} {k : K} (h : key x ≠ k) (xs : List α) :
    keyClass key (x :: xs) k = keyClass key xs k :=
  List.filter_cons_of_neg (by simpa using h)

/-- A new element does not show in the classes of other keys. -/
theorem classes_cons_of_notMem {x : α} {ks : List K} (h : key x ∉ ks) (xs : List α) :
    classes key ks (x :: xs) = classes key ks xs := by
  refine List.flatMap_congr fun k hk ↦ keyClass_cons_of_ne ?_ xs
  rintro rfl
  exact h hk

end Classes

variable {α K : Type*} [LinearOrder K] {key : α → K}

/-- An element goes behind all those it is not to precede. -/
theorem orderedInsert_append {r : α → α → Prop} [DecidableRel r] {x : α} {l : List α}
    (h : ∀ y ∈ l, ¬ r x y) (l' : List α) :
    (l ++ l').orderedInsert r x = l ++ l'.orderedInsert r x := by
  induction l with
  | nil => rfl
  | cons y l ih =>
    obtain ⟨hy, hl⟩ := List.forall_mem_cons.1 h
    rw [List.cons_append, List.orderedInsert_of_not_le _ _ hy, ih hl, List.cons_append]

/-- An element goes in front of a list of which it is to precede every element. -/
theorem orderedInsert_of_forall {r : α → α → Prop} [DecidableRel r] {x : α} {l : List α}
    (h : ∀ y ∈ l, r x y) : l.orderedInsert r x = x :: l := by
  rcases l with - | ⟨y, l⟩
  · rfl
  · exact List.orderedInsert_cons_of_le _ _ (h y (List.mem_cons_self ..))

/-- Inserting an element puts it at the front of its own class. -/
theorem orderedInsert_classes {ks : List K} (hks : ks.Pairwise (· < ·)) {x : α} (hx : key x ∈ ks)
    (xs : List α) :
    (classes key ks xs).orderedInsert (fun a b ↦ key a ≤ key b) x = classes key ks (x :: xs) := by
  induction ks with
  | nil => exact absurd hx List.not_mem_nil
  | cons k ks ih =>
    obtain ⟨hlt, hks'⟩ := List.pairwise_cons.1 hks
    by_cases hk : key x = k
    · subst hk
      -- the key of `x` is the least one left, so `x` precedes everything
      have hnot : key x ∉ ks := fun h ↦ lt_irrefl _ (hlt _ h)
      have hle : ∀ y ∈ classes key (key x :: ks) xs, key x ≤ key y := by
        intro y hy
        rcases List.mem_cons.1 (mem_classes.1 hy).2 with h | h
        · exact h.ge
        · exact (hlt _ h).le
      have hrest : classes key ks (x :: xs) = classes key ks xs := classes_cons_of_notMem hnot xs
      rw [orderedInsert_of_forall hle, classes_cons, classes_cons, keyClass_cons_self, hrest,
        List.cons_append]
    · have hmem : key x ∈ ks := (List.mem_cons.1 hx).resolve_left hk
      have hbefore : ∀ y ∈ keyClass key xs k, ¬ key x ≤ key y := by
        intro y hy
        rw [(mem_keyClass.1 hy).2]
        exact (hlt _ hmem).not_ge
      rw [classes_cons, classes_cons, orderedInsert_append hbefore, ih hks' hmem,
        keyClass_cons_of_ne hk]

/-- **A stable sort by a key gathers the classes**, in the order of the keys. -/
theorem insertionSort_eq_classes {ks : List K} (hks : ks.Pairwise (· < ·)) {xs : List α}
    (hxs : ∀ x ∈ xs, key x ∈ ks) :
    xs.insertionSort (fun a b ↦ key a ≤ key b) = classes key ks xs := by
  induction xs with
  | nil =>
    symm
    exact List.flatMap_eq_nil_iff.2 fun k _ ↦ rfl
  | cons x xs ih =>
    obtain ⟨hx, hxs'⟩ := List.forall_mem_cons.1 hxs
    rw [List.insertionSort_cons, ih hxs', orderedInsert_classes hks hx]

/-! ### The first element -/

/-- The earliest element of `xs` whose key is the least. -/
def EarliestLeast (key : α → K) (xs : List α) (x : α) : Prop :=
  ∃ before after, xs = before ++ x :: after ∧
    (∀ y ∈ before, key x < key y) ∧ ∀ y ∈ after, key x ≤ key y

theorem not_earliestLeast_nil (x : α) : ¬EarliestLeast key [] x := by
  rintro ⟨before, after, h, -⟩
  exact absurd h.symm (by simp)

/-- Either the new element in front is the least, or an element of a smaller key behind it. -/
theorem earliestLeast_cons_iff {a x : α} {xs : List α} :
    EarliestLeast key (a :: xs) x ↔
      x = a ∧ (∀ y ∈ xs, key a ≤ key y) ∨ key x < key a ∧ EarliestLeast key xs x := by
  constructor
  · rintro ⟨before, after, hsplit, hbefore, hafter⟩
    rcases before with - | ⟨b, before⟩
    · obtain ⟨rfl, rfl⟩ := List.cons.inj hsplit
      exact .inl ⟨rfl, hafter⟩
    · obtain ⟨rfl, hxs⟩ := List.cons.inj hsplit
      obtain ⟨hb, hbefore⟩ := List.forall_mem_cons.1 hbefore
      exact .inr ⟨hb, before, after, hxs, hbefore, hafter⟩
  · rintro (⟨rfl, hle⟩ | ⟨hlt, before, after, rfl, hbefore, hafter⟩)
    · exact ⟨[], xs, rfl, fun y hy ↦ absurd hy List.not_mem_nil, hle⟩
    · exact ⟨a :: before, after, rfl, List.forall_mem_cons.2 ⟨hlt, hbefore⟩, hafter⟩

/-- **A stable sort puts the earliest of the least first.** -/
theorem head?_insertionSort_eq_some_iff {xs : List α} {x : α} :
    (xs.insertionSort fun a b ↦ key a ≤ key b).head? = some x ↔ EarliestLeast key xs x := by
  induction xs with
  | nil => exact iff_of_false (fun h ↦ nomatch h) (not_earliestLeast_nil x)
  | cons a xs ih =>
    have hmem (y : α) : y ∈ xs.insertionSort (fun a b ↦ key a ≤ key b) ↔ y ∈ xs :=
      (List.perm_insertionSort _ _).mem_iff
    have hsorted : (xs.insertionSort fun a b ↦ key a ≤ key b).Pairwise fun a b ↦ key a ≤ key b :=
      List.pairwise_insertionSort _ _
    rw [earliestLeast_cons_iff, ← ih, List.insertionSort_cons]
    -- the new element is compared with the first of the others only
    rcases hxs : xs.insertionSort (fun a b ↦ key a ≤ key b) with - | ⟨m, ms⟩
    · rw [hxs] at hmem
      have hempty : ∀ y ∈ xs, key a ≤ key y := fun y hy ↦ nomatch (hmem y).2 hy
      simp only [List.orderedInsert_nil, List.head?_cons, List.head?_nil, reduceCtorEq, and_false,
        or_false, Option.some.injEq]
      exact ⟨fun h ↦ ⟨h.symm, hempty⟩, fun h ↦ h.1.symm⟩
    · rw [hxs] at hmem hsorted
      have hleast : ∀ y ∈ xs, key m ≤ key y := by
        intro y hy
        rcases List.mem_cons.1 ((hmem y).2 hy) with rfl | hy
        · exact le_rfl
        · exact (List.pairwise_cons.1 hsorted).1 y hy
      have hm : m ∈ xs := (hmem m).1 (List.mem_cons_self ..)
      rcases le_or_gt (key a) (key m) with hle | hlt
      · have hfirst : (m :: ms).orderedInsert (fun a b ↦ key a ≤ key b) a = a :: m :: ms :=
          List.orderedInsert_cons_of_le _ _ hle
        rw [hfirst, List.head?_cons, List.head?_cons]
        constructor
        · intro h
          exact .inl ⟨(Option.some.inj h).symm, fun y hy ↦ hle.trans (hleast y hy)⟩
        · rintro (⟨rfl, -⟩ | ⟨hlt, h⟩)
          · rfl
          · obtain rfl := Option.some.inj h
            exact absurd hle hlt.not_ge
      · have hbehind : (m :: ms).orderedInsert (fun a b ↦ key a ≤ key b) a =
            m :: ms.orderedInsert (fun a b ↦ key a ≤ key b) a :=
          List.orderedInsert_of_not_le _ _ hlt.not_ge
        rw [hbehind, List.head?_cons, List.head?_cons]
        constructor
        · intro h
          obtain rfl := Option.some.inj h
          exact .inr ⟨hlt, rfl⟩
        · rintro (⟨rfl, hall⟩ | ⟨-, h⟩)
          · exact absurd (hall m hm) hlt.not_ge
          · exact h

end StableSort
