import Mathlib.Tactic

/-!
# Runs of a transition system

A system is a step function `σ → ε → Option σ`: the state after an event, or `none` where the event
cannot happen. Concurrent parties are one system whose events name the party, so the runs are
exactly the interleavings, and what holds of every run holds of every interleaving.

* `invariant_run` — what every step preserves holds throughout every run.
* `invariant_run_of_guard` — the same where steps preserve it only under a condition on the state
  and the event, for the runs whose steps all meet the condition (`AllSteps`).
* `forall_prefix_iff_allSteps` — where the condition is also necessary, step by step, a property
  holds throughout a run exactly when all its steps meet the condition.
* `invariant_history` — the same where the invariant speaks of the events so far, for instance of
  whether some step has met a condition (`SomeStep`).
* `exists_run_final` — where every step costs something and only final states have no step, every
  run can be completed.
* `exists_take_final` — where every event can happen in a state that is not final, and costs
  something, every sequence of events comes to a final state.
-/

namespace Transition

variable {σ ε : Type*} (step : σ → ε → Option σ)

/-- The state after a list of events, if each of them can happen. -/
def run : σ → List ε → Option σ
  | s, [] => some s
  | s, e :: es => (step s e).bind fun s' ↦ run s' es

/-- Every step of a run meets a condition on the state before it and the event. -/
def AllSteps (guard : σ → ε → Prop) : σ → List ε → Prop
  | _, [] => True
  | s, e :: es => guard s e ∧ ∀ s', step s e = some s' → AllSteps guard s' es

/-- Some step of a run meets a condition on the state before it and the event. -/
def SomeStep (P : σ → ε → Prop) : σ → List ε → Prop
  | _, [] => False
  | s, e :: es => P s e ∨ ∃ s', step s e = some s' ∧ SomeStep P s' es

/-- A condition that can be decided can be decided along a run. -/
instance decidableAllSteps (guard : σ → ε → Prop) [∀ s e, Decidable (guard s e)] :
    ∀ (s : σ) (es : List ε), Decidable (AllSteps step guard s es)
  | _, [] => .isTrue trivial
  | s, e :: es =>
    match hs : step s e with
    | none => decidable_of_iff (guard s e)
        ⟨fun h ↦ ⟨h, fun _ hs' ↦ nomatch hs.symm.trans hs'⟩, And.left⟩
    | some t =>
      have := decidableAllSteps guard t es
      decidable_of_iff (guard s e ∧ AllSteps step guard t es)
        (and_congr_right fun _ ↦ ⟨fun h _ hs' ↦ Option.some.inj (hs.symm.trans hs') ▸ h,
          fun h ↦ h t hs⟩)

variable {step}

theorem run_cons_eq_some_iff {s s'' : σ} {e : ε} {es : List ε} :
    run step s (e :: es) = some s'' ↔ ∃ s', step s e = some s' ∧ run step s' es = some s'' :=
  Option.bind_eq_some_iff

/-- A run of one event is a step. -/
theorem run_singleton (s : σ) (e : ε) : run step s [e] = step s e :=
  Option.bind_fun_some _

/-- A run of two lists of events is a run of the second after the first. -/
theorem run_append (s : σ) (es es' : List ε) :
    run step s (es ++ es') = (run step s es).bind fun s' ↦ run step s' es' := by
  induction es generalizing s with
  | nil => rfl
  | cons e es ih =>
    rw [List.cons_append, run, run, Option.bind_assoc]
    congr 1
    funext s'
    exact ih s'

/-- **The guarded invariant rule.** -/
theorem invariant_run_of_guard {guard : σ → ε → Prop} {Inv : σ → Prop}
    (hstep : ∀ {s e s'}, Inv s → guard s e → step s e = some s' → Inv s') {s s' : σ} {es : List ε}
    (h0 : Inv s) (hguard : AllSteps step guard s es) (h : run step s es = some s') : Inv s' := by
  induction es generalizing s with
  | nil =>
    obtain rfl := Option.some.inj h
    exact h0
  | cons e es ih =>
    obtain ⟨t, ht, hrun⟩ := run_cons_eq_some_iff.1 h
    obtain ⟨hg, hrest⟩ := hguard
    exact ih (hstep h0 hg ht) (hrest t ht) hrun

/-- A condition that always holds is met by every step. -/
theorem allSteps_of_forall {guard : σ → ε → Prop} (h : ∀ s e, guard s e) (s : σ) (es : List ε) :
    AllSteps step guard s es := by
  induction es generalizing s with
  | nil => trivial
  | cons e es ih => exact ⟨h s e, fun s' _ ↦ ih s'⟩

/-- A condition on the events alone may be added to that on the steps. -/
theorem AllSteps.and_of_mem {guard : σ → ε → Prop} {P : ε → Prop} {s : σ} {es : List ε}
    (h : AllSteps step guard s es) (hP : ∀ e ∈ es, P e) :
    AllSteps step (fun s e ↦ guard s e ∧ P e) s es := by
  induction es generalizing s with
  | nil => trivial
  | cons e es ih =>
    obtain ⟨he, hes⟩ := List.forall_mem_cons.1 hP
    exact ⟨⟨h.1, he⟩, fun s' hs' ↦ ih (h.2 s' hs') hes⟩

/-- **The invariant rule.** -/
theorem invariant_run {Inv : σ → Prop}
    (hstep : ∀ {s e s'}, Inv s → step s e = some s' → Inv s') {s s' : σ} {es : List ε}
    (h0 : Inv s) (h : run step s es = some s') : Inv s' := by
  have htrue : AllSteps step (fun _ _ ↦ True) s es := allSteps_of_forall (fun _ _ ↦ trivial) s es
  exact invariant_run_of_guard (fun hs _ ↦ hstep hs) h0 htrue h

/-- **The rule of the exact guard.** Where a step keeps a property just when it meets the guard, the
property holds throughout a run just when every step does. -/
theorem forall_prefix_iff_allSteps {guard : σ → ε → Prop} {Inv P : σ → Prop}
    (hinv : ∀ {s e s'}, Inv s → step s e = some s' → Inv s')
    (hstep : ∀ {s e s'}, Inv s → P s → step s e = some s' → (P s' ↔ guard s e))
    (hnone : ∀ {s e}, step s e = none → guard s e) {s : σ} (h0 : Inv s) (hP : P s) (es : List ε) :
    (∀ es' t, es' <+: es → run step s es' = some t → P t) ↔ AllSteps step guard s es := by
  induction es generalizing s with
  | nil =>
    refine iff_of_true (fun es' t hprefix ht ↦ ?_) trivial
    obtain rfl := List.prefix_nil.1 hprefix
    exact Option.some.inj ht ▸ hP
  | cons e es ih =>
    -- a run that begins with `e` is a run of the rest from where `e` leads
    have hcons : (∀ es' t, es' <+: e :: es → run step s es' = some t → P t) ↔
        ∀ s', step s e = some s' → ∀ es' t, es' <+: es → run step s' es' = some t → P t := by
      constructor
      · intro hall s' hs' es' t hprefix ht
        exact hall (e :: es') t (List.cons_prefix_cons.2 ⟨rfl, hprefix⟩)
          (run_cons_eq_some_iff.2 ⟨s', hs', ht⟩)
      · intro hall es' t hprefix ht
        cases es' with
        | nil => exact Option.some.inj ht ▸ hP
        | cons e' es' =>
          obtain ⟨rfl, hrest⟩ := List.cons_prefix_cons.1 hprefix
          obtain ⟨s', hs', ht⟩ := run_cons_eq_some_iff.1 ht
          exact hall s' hs' es' t hrest ht
    rw [hcons, AllSteps]
    constructor
    · intro hall
      refine ⟨?_, fun s' hs' ↦ ?_⟩
      · cases hs' : step s e with
        | none => exact hnone hs'
        | some s' => exact (hstep h0 hP hs').1 (hall s' hs' [] s' List.nil_prefix rfl)
      · exact (ih (hinv h0 hs') (hall s' hs' [] s' List.nil_prefix rfl)).1 (hall s' hs')
    · rintro ⟨hguard, hrest⟩ s' hs'
      exact (ih (hinv h0 hs') ((hstep h0 hP hs').2 hguard)).2 (hrest s' hs')

/-- One more event. -/
theorem run_concat_eq_some_iff {s s'' : σ} {es : List ε} {e : ε} :
    run step s (es ++ [e]) = some s'' ↔ ∃ s', run step s es = some s' ∧ step s' e = some s'' := by
  rw [run_append, Option.bind_eq_some_iff]
  refine exists_congr fun s' ↦ and_congr_right fun _ ↦ ?_
  rw [run_cons_eq_some_iff]
  exact ⟨fun ⟨_, hs, h⟩ ↦ Option.some.inj h ▸ hs, fun h ↦ ⟨s'', h, rfl⟩⟩

/-- Some step of a longer run meets the condition when one of the run does, or the last one. -/
theorem someStep_concat {P : σ → ε → Prop} {s s' : σ} {es : List ε} {e : ε}
    (h : run step s es = some s') :
    SomeStep step P s (es ++ [e]) ↔ SomeStep step P s es ∨ P s' e := by
  induction es generalizing s with
  | nil =>
    obtain rfl := Option.some.inj h
    show (P s e ∨ ∃ t, step s e = some t ∧ False) ↔ False ∨ P s e
    simp
  | cons a es ih =>
    obtain ⟨t, ht, hrun⟩ := run_cons_eq_some_iff.1 h
    show (P s a ∨ ∃ t, step s a = some t ∧ SomeStep step P t (es ++ [e])) ↔
      (P s a ∨ ∃ t, step s a = some t ∧ SomeStep step P t es) ∨ P s' e
    simp [ht, ih hrun, or_assoc]

/-- **The invariant rule with a history.** -/
theorem invariant_history {Inv : List ε → σ → Prop} {s s' : σ} {es : List ε}
    (hstep : ∀ {es t e t'}, run step s es = some t → Inv es t → step t e = some t' →
      Inv (es ++ [e]) t')
    (h0 : Inv [] s) (h : run step s es = some s') : Inv es s' := by
  induction es using List.reverseRecOn generalizing s' with
  | nil =>
    obtain rfl := Option.some.inj h
    exact h0
  | append_singleton es e ih =>
    obtain ⟨t, hrun, ht⟩ := run_concat_eq_some_iff.1 h
    exact hstep hrun (ih hrun) ht

/-- **The completion rule.** Where every step costs something and a state that is not final has a
step, every state leads to a final one. -/
theorem exists_run_final {Inv Final : σ → Prop} {cost : σ → ℕ}
    (hinv : ∀ {s e s'}, Inv s → step s e = some s' → Inv s')
    (hcost : ∀ {s e s'}, Inv s → step s e = some s' → cost s' < cost s)
    (hprogress : ∀ {s}, Inv s → ¬ Final s → ∃ e s', step s e = some s') {s : σ} (h0 : Inv s) :
    ∃ es t, run step s es = some t ∧ Final t := by
  induction hn : cost s using Nat.strong_induction_on generalizing s with
  | _ n ih =>
    by_cases hfinal : Final s
    · exact ⟨[], s, rfl, hfinal⟩
    · obtain ⟨e, s', hs'⟩ := hprogress h0 hfinal
      obtain ⟨es, t, ht, hend⟩ := ih (cost s') (hn ▸ hcost h0 hs') (hinv h0 hs') rfl
      exact ⟨e :: es, t, run_cons_eq_some_iff.2 ⟨s', hs', ht⟩, hend⟩

/-- **The rule of enough events.** Where each event can happen in a state that is not final, and
costs something, every sequence of events leads to a final state. -/
theorem exists_take_final {Final : σ → Prop} {cost : σ → ℕ}
    (hstep : ∀ s e, ¬ Final s → ∃ s', step s e = some s' ∧ cost s' < cost s) (events : ℕ → ε)
    (s : σ) : ∃ n t, run step s ((List.range n).map events) = some t ∧ Final t := by
  induction hn : cost s using Nat.strong_induction_on generalizing s events with
  | _ n ih =>
    by_cases hfinal : Final s
    · exact ⟨0, s, rfl, hfinal⟩
    · obtain ⟨s', hs', hlt⟩ := hstep s (events 0) hfinal
      obtain ⟨m, t, ht, hend⟩ := ih (cost s') (hn ▸ hlt) (fun i ↦ events (i + 1)) s' rfl
      refine ⟨m + 1, t, ?_, hend⟩
      rw [List.range_succ_eq_map, List.map_cons, List.map_map]
      exact run_cons_eq_some_iff.2 ⟨s', hs', ht⟩

end Transition
