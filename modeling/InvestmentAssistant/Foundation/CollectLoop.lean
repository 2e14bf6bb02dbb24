import Mathlib.Data.List.Basic

/-!
# Loops that collect

A loop over a list that asks something of each element, and either fails, passes the element over,
or takes in what it yields. What is asked does not depend on what has been taken in.

Such a loop returns exactly when every element returns (`returns_collect_iff`), and then it has
taken in the yields of the elements, in order (`collect_eq_ok`).
-/

namespace CollectLoop

variable {ε α β σ : Type}

/-- A computation that does not fail. -/
def Returns (x : Except ε α) : Prop :=
  ∃ a, x = .ok a

@[simp] theorem returns_ok (a : α) : Returns (.ok a : Except ε α) := ⟨a, rfl⟩

@[simp] theorem not_returns_error (e : ε) : ¬ Returns (.error e : Except ε α) :=
  fun ⟨_, h⟩ ↦ nomatch h

theorem returns_bind_iff {x : Except ε α} {f : α → Except ε β} :
    Returns (x >>= f) ↔ ∃ a, x = .ok a ∧ Returns (f a) := by
  rcases x with e | a
  · exact iff_of_false (not_returns_error e) fun ⟨_, h, _⟩ ↦ nomatch h
  · exact ⟨fun h ↦ ⟨a, rfl, h⟩, fun ⟨_, h, hf⟩ ↦ Except.ok.inj h ▸ hf⟩

theorem returns_map_iff {x : Except ε α} {f : α → β} : Returns (f <$> x) ↔ Returns x := by
  rcases x with e | a
  · exact iff_of_false (not_returns_error e) (not_returns_error e)
  · exact iff_of_true (returns_ok (f a)) (returns_ok a)

/-- What an element yields, if it returns. -/
def yields (f : α → Except ε (Option β)) (a : α) : Option β :=
  match f a with
  | .ok b => b
  | .error _ => none

/-- The loop. -/
def collect (f : α → Except ε (Option β)) (take : σ → β → σ) : σ → List α → Except ε σ
  | s, [] => .ok s
  | s, a :: as =>
    match f a with
    | .error e => .error e
    | .ok none => collect f take s as
    | .ok (some b) => collect f take (take s b) as

variable {f : α → Except ε (Option β)} {take : σ → β → σ}

/-- **What a loop has taken in**, when every element returns. -/
theorem collect_eq_ok {as : List α} (h : ∀ a ∈ as, Returns (f a)) (s : σ) :
    collect f take s as = .ok ((as.filterMap (yields f)).foldl take s) := by
  induction as generalizing s with
  | nil => rfl
  | cons a as ih =>
    obtain ⟨b, hb⟩ := h a (List.mem_cons_self ..)
    have ih := ih fun a ha ↦ h a (List.mem_cons_of_mem _ ha)
    have hyields : yields f a = b := by rw [yields, hb]
    rw [collect, hb, List.filterMap_cons, hyields]
    rcases b with - | b
    · exact ih s
    · exact ih (take s b)

/-- A loop over encoded elements has taken in what they encode. -/
theorem collect_map_eq_ok {γ : Type} {g : γ → α} {h : γ → Option β} {cs : List γ}
    (hf : ∀ c ∈ cs, f (g c) = .ok (h c)) (s : σ) :
    collect f take s (cs.map g) = .ok ((cs.filterMap h).foldl take s) := by
  have hreturns : ∀ a ∈ cs.map g, Returns (f a) := by
    intro a ha
    obtain ⟨c, hc, rfl⟩ := List.mem_map.1 ha
    exact ⟨h c, hf c hc⟩
  have hyields : cs.filterMap (yields f ∘ g) = cs.filterMap h :=
    List.filterMap_congr fun c hc ↦ by rw [Function.comp_apply, yields, hf c hc]
  rw [collect_eq_ok hreturns, List.filterMap_map, hyields]

/-- **A loop returns exactly when every element does.** -/
theorem returns_collect_iff {as : List α} {s : σ} :
    Returns (collect f take s as) ↔ ∀ a ∈ as, Returns (f a) := by
  refine ⟨fun h ↦ ?_, fun h ↦ ⟨_, collect_eq_ok h s⟩⟩
  induction as generalizing s with
  | nil => exact fun a ha ↦ absurd ha List.not_mem_nil
  | cons a as ih =>
    rw [collect] at h
    split at h
    · exact absurd h (not_returns_error _)
    · next ha => exact List.forall_mem_cons.2 ⟨⟨_, ha⟩, ih h⟩
    · next ha => exact List.forall_mem_cons.2 ⟨⟨_, ha⟩, ih h⟩

end CollectLoop
