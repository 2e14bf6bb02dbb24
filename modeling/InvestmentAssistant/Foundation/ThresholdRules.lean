import Mathlib.Algebra.Order.Group.Defs
import Mathlib.Order.Monotone.Basic
import Mathlib.Tactic

/-!
# Rating a reading by thresholds

A reading is rated by the first of a list of rules that applies to it: a rule applies below its
threshold, or above it. Two facts about such lists need no case analysis of the readings:

* `antitone_rate`, `monotone_rate` — the rating follows the order of the readings if each rule is
  extreme among those after it, whatever the thresholds are (`Descending`).
* `rate_turn` — the rating commutes with turning the scale around, if that exchanges a group of
  lower rules with a group of upper ones and the two groups do not overlap (`Separate`).
-/

/-- The side of its threshold a rule applies to. -/
inductive ThresholdSide
  | below
  | above
  deriving DecidableEq, Repr

/-- The other side. -/
def ThresholdSide.other : ThresholdSide → ThresholdSide
  | .below => .above
  | .above => .below

/-- A rule gives a value to the readings on one side of its threshold. -/
structure ThresholdRule (α β : Type*) where
  side : ThresholdSide
  threshold : α
  value : β
  deriving DecidableEq

namespace ThresholdRule

section Rate

variable {α β : Type*} [LinearOrder α]

/-- The rule applies to a reading. -/
def Applies (r : ThresholdRule α β) (x : α) : Prop :=
  match r.side with
  | .below => x < r.threshold
  | .above => r.threshold < x

instance (r : ThresholdRule α β) (x : α) : Decidable (r.Applies x) :=
  match h : r.side with
  | .below => decidable_of_iff (x < r.threshold) (by rw [Applies, h])
  | .above => decidable_of_iff (r.threshold < x) (by rw [Applies, h])

/-- The value of the first rule that applies, or a default. -/
def rate (default : β) : List (ThresholdRule α β) → α → β
  | [], _ => default
  | r :: rules, x => if r.Applies x then r.value else rate default rules x

variable {default : β} {r : ThresholdRule α β} {rules lower upper : List (ThresholdRule α β)}
  {x y : α}

theorem rate_of_applies (h : r.Applies x) : rate default (r :: rules) x = r.value :=
  if_pos h

theorem rate_of_not_applies (h : ¬ r.Applies x) :
    rate default (r :: rules) x = rate default rules x :=
  if_neg h

/-- A reading gets the default or the value of a rule. -/
theorem rate_mem (default : β) (rules : List (ThresholdRule α β)) (x : α) :
    rate default rules x ∈ default :: rules.map value := by
  induction rules with
  | nil => exact List.mem_singleton_self default
  | cons r rules ih =>
    by_cases h : r.Applies x
    · rw [rate_of_applies h]
      exact List.mem_cons_of_mem _ (List.mem_cons_self ..)
    · rw [rate_of_not_applies h, List.map_cons]
      exact List.cons_subset_cons default (List.subset_cons_self ..) ih

/-! ### Order -/

/-- A value is not beyond that of the rule: not above it, if the rule is for low readings, and not
below it, if it is for high ones. -/
def Bounds [LE β] (r : ThresholdRule α β) (b : β) : Prop :=
  match r.side with
  | .below => b ≤ r.value
  | .above => r.value ≤ b

instance [LE β] [DecidableLE β] (r : ThresholdRule α β) (b : β) : Decidable (r.Bounds b) :=
  match h : r.side with
  | .below => decidable_of_iff (b ≤ r.value) (by rw [Bounds, h])
  | .above => decidable_of_iff (r.value ≤ b) (by rw [Bounds, h])

/-- Each rule bounds the default and the values of the rules after it. -/
def Descending [LE β] (default : β) : List (ThresholdRule α β) → Prop
  | [] => True
  | r :: rules => (∀ b ∈ default :: rules.map value, r.Bounds b) ∧ Descending default rules

instance decidableDescending [LE β] [DecidableLE β] (default : β) :
    ∀ rules : List (ThresholdRule α β), Decidable (Descending default rules)
  | [] => .isTrue trivial
  | _ :: rules =>
    have := decidableDescending default rules
    inferInstanceAs (Decidable (_ ∧ _))

/-- **A higher reading is not rated higher.** -/
theorem antitone_rate [Preorder β] (h : Descending default rules) :
    Antitone (rate default rules) := by
  induction rules with
  | nil => exact fun _ _ _ ↦ le_refl default
  | cons r rules ih =>
    obtain ⟨side, t, b⟩ := r
    obtain ⟨hbounds, hrest⟩ := h
    intro x y hxy
    cases side with
    | below =>
      by_cases hy : y < t
      · rw [rate_of_applies (show Applies ⟨.below, t, b⟩ x from hxy.trans_lt hy),
          rate_of_applies (show Applies ⟨.below, t, b⟩ y from hy)]
      · rw [rate_of_not_applies (show ¬ Applies ⟨.below, t, b⟩ y from hy)]
        by_cases hx : x < t
        · rw [rate_of_applies (show Applies ⟨.below, t, b⟩ x from hx)]
          exact hbounds _ (rate_mem default rules y)
        · rw [rate_of_not_applies (show ¬ Applies ⟨.below, t, b⟩ x from hx)]
          exact ih hrest hxy
    | above =>
      by_cases hx : t < x
      · rw [rate_of_applies (show Applies ⟨.above, t, b⟩ x from hx),
          rate_of_applies (show Applies ⟨.above, t, b⟩ y from hx.trans_le hxy)]
      · rw [rate_of_not_applies (show ¬ Applies ⟨.above, t, b⟩ x from hx)]
        by_cases hy : t < y
        · rw [rate_of_applies (show Applies ⟨.above, t, b⟩ y from hy)]
          exact hbounds _ (rate_mem default rules x)
        · rw [rate_of_not_applies (show ¬ Applies ⟨.above, t, b⟩ y from hy)]
          exact ih hrest hxy

/-- The rule with its value changed. -/
def mapValue {γ : Type*} (f : β → γ) (r : ThresholdRule α β) : ThresholdRule α γ :=
  ⟨r.side, r.threshold, f r.value⟩

/-- A change of the values changes the rating. -/
theorem rate_mapValue {γ : Type*} (f : β → γ) (x : α) :
    rate (f default) (rules.map (mapValue f)) x = f (rate default rules x) := by
  induction rules with
  | nil => rfl
  | cons r rules ih =>
    by_cases h : r.Applies x
    · have h' : (r.mapValue f).Applies x := h
      rw [rate_of_applies h, List.map_cons, rate_of_applies h']
      rfl
    · have h' : ¬ (r.mapValue f).Applies x := h
      rw [rate_of_not_applies h, List.map_cons, rate_of_not_applies h', ih]

/-- **A higher reading is not rated lower**, if the values are in order the other way around. -/
theorem monotone_rate [Preorder β]
    (h : Descending (OrderDual.toDual default) (rules.map (mapValue OrderDual.toDual))) :
    Monotone (rate default rules) := by
  intro x y hxy
  have hle := antitone_rate h hxy
  rw [rate_mapValue, rate_mapValue] at hle
  exact OrderDual.toDual_le_toDual.1 hle

/-! ### Turning the scale around -/

/-- The rule for the scale turned around. -/
def reflect (turn : α → α) (r : ThresholdRule α β) : ThresholdRule α β :=
  ⟨r.side.other, turn r.threshold, r.value⟩

theorem applies_reflect {turn : α → α} (hturn : StrictAnti turn) (r : ThresholdRule α β) (x : α) :
    (r.reflect turn).Applies (turn x) ↔ r.Applies x := by
  obtain ⟨side, t, b⟩ := r
  cases side with
  | below => exact StrictAnti.lt_iff_gt hturn
  | above => exact StrictAnti.lt_iff_gt hturn

/-- Rules and scale are turned around together. -/
theorem rate_map_reflect {turn : α → α} (hturn : StrictAnti turn) (x : α) :
    rate default (rules.map (reflect turn)) (turn x) = rate default rules x := by
  induction rules with
  | nil => rfl
  | cons r rules ih =>
    by_cases h : r.Applies x
    · rw [rate_of_applies h, List.map_cons, rate_of_applies ((applies_reflect hturn r x).2 h)]
      rfl
    · have h' : ¬ (r.reflect turn).Applies (turn x) := fun h' ↦ h ((applies_reflect hturn r x).1 h')
      rw [rate_of_not_applies h, List.map_cons, rate_of_not_applies h', ih]

/-- Rules of which none applies can be left out. -/
theorem rate_append_of_none (h : ∀ r ∈ lower, ¬ r.Applies x) :
    rate default (lower ++ upper) x = rate default upper x := by
  induction lower with
  | nil => rfl
  | cons r lower ih =>
    obtain ⟨hr, hrest⟩ := List.forall_mem_cons.1 h
    rw [List.cons_append, rate_of_not_applies hr, ih hrest]

theorem rate_append_of_none_right (h : ∀ r ∈ upper, ¬ r.Applies x) :
    rate default (lower ++ upper) x = rate default lower x := by
  induction lower with
  | nil => rw [List.nil_append, ← List.append_nil upper, rate_append_of_none h]
  | cons r lower ih => rw [List.cons_append, rate, rate, ih]

/-- Each rule of one list applies below its threshold, each of the other above its own, and the
readings they apply to do not overlap. -/
def Separate (lower upper : List (ThresholdRule α β)) : Prop :=
  ∀ r ∈ lower, ∀ r' ∈ upper, r.side = .below ∧ r'.side = .above ∧ r.threshold ≤ r'.threshold

instance (lower upper : List (ThresholdRule α β)) : Decidable (Separate lower upper) :=
  inferInstanceAs (Decidable (∀ r ∈ lower, ∀ r' ∈ upper, _ ∧ _))

/-- Rules that do not overlap may be tried in either order. -/
theorem rate_append_comm (h : Separate lower upper) (x : α) :
    rate default (lower ++ upper) x = rate default (upper ++ lower) x := by
  by_cases hlower : ∃ r ∈ lower, r.Applies x
  · obtain ⟨r, hr, happlies⟩ := hlower
    have hupper : ∀ r' ∈ upper, ¬ r'.Applies x := by
      intro r' hr' happlies'
      obtain ⟨hbelow, habove, hle⟩ := h r hr r' hr'
      rw [Applies, hbelow] at happlies
      rw [Applies, habove] at happlies'
      exact absurd (happlies.trans_le hle) happlies'.asymm
    rw [rate_append_of_none hupper, rate_append_of_none_right hupper]
  · have hnone : ∀ r ∈ lower, ¬ r.Applies x := fun r hr happlies ↦ hlower ⟨r, hr, happlies⟩
    rw [rate_append_of_none hnone, rate_append_of_none_right hnone]

/-- **A balanced scale.** If the upper rules are the lower ones turned around, with flipped values,
then a reading turned around has the flipped rating. -/
theorem rate_turn {turn : α → α} (hturn : StrictAnti turn) (hinv : Function.Involutive turn)
    {flip : β → β} (hflip : Function.Involutive flip) (hdefault : flip default = default)
    (hseparate : Separate lower upper)
    (hupper : upper = lower.map fun r ↦ (r.reflect turn).mapValue flip) (x : α) :
    rate default (lower ++ upper) (turn x) = flip (rate default (lower ++ upper) x) := by
  have hlower : upper.map (fun r ↦ (r.reflect turn).mapValue flip) = lower := by
    rw [hupper, List.map_map]
    refine (List.map_congr_left fun r _ ↦ ?_).trans (List.map_id _)
    obtain ⟨side, t, b⟩ := r
    have hside : side.other.other = side := by cases side <;> rfl
    show ThresholdRule.mk side.other.other (turn (turn t)) (flip (flip b)) = _
    rw [hside, hinv, hflip]
    rfl
  have hturned : (lower ++ upper).map (fun r ↦ (r.reflect turn).mapValue flip) =
      upper ++ lower := by
    rw [List.map_append, ← hupper, hlower]
  have hcompose : (lower ++ upper).map (fun r ↦ (r.reflect turn).mapValue flip) =
      ((lower ++ upper).map (reflect turn)).map (mapValue flip) := by
    rw [List.map_map]
    rfl
  calc rate default (lower ++ upper) (turn x)
      = rate default (upper ++ lower) (turn x) := rate_append_comm hseparate _
    _ = rate (flip default)
          (((lower ++ upper).map (reflect turn)).map (mapValue flip)) (turn x) := by
        rw [← hcompose, hturned, hdefault]
    _ = flip (rate default (lower ++ upper) x) := by rw [rate_mapValue, rate_map_reflect hturn]

end Rate

end ThresholdRule
