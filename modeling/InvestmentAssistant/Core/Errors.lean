import Mathlib.Tactic

/-!
# Raised exceptions

The exceptions the modelled code raises, catches or lets through, by class, with their message where
one is built. Fallible code is `Except PyException`, and a handler is a predicate on the class, as
an `except` clause is.
-/

namespace InvestmentAssistant

/-- An exception instance. -/
inductive PyException
  | valueError (message : String)
  | typeError (message : String)
  | runtimeError (message : String)
  | zeroDivisionError
  | indexError
  | validationError
  | verificationError
  | verifyMismatchError
  | httpException (statusCode : ℕ) (detail : String)
  | other (message : String)
  deriving DecidableEq, Repr

/-- A completed computation chained to another is a completed computation of the second. -/
theorem bind_eq_ok_iff {ε α β : Type} {x : Except ε α} {f : α → Except ε β} {b : β} :
    (x >>= f) = .ok b ↔ ∃ a, x = .ok a ∧ f a = .ok b := by
  rcases x with e | a
  · exact ⟨fun h ↦ (nomatch h), fun ⟨_, h, _⟩ ↦ (nomatch h)⟩
  · exact ⟨fun h ↦ ⟨a, rfl, h⟩, fun ⟨_, h, hf⟩ ↦ Except.ok.inj h ▸ hf⟩

/-- A completed computation with its result changed is a completed computation. -/
theorem exists_of_map_eq_ok {ε α β : Type} {x : Except ε α} {f : α → β} {b : β}
    (h : x.map f = .ok b) : ∃ a, x = .ok a ∧ f a = b := by
  rcases x with e | a
  · cases h
  · exact ⟨a, rfl, Except.ok.inj h⟩

/-- **A completed loop keeps what its passes keep.** -/
theorem foldlM_induction {ε α β : Type} {P : α → Prop} {f : α → β → Except ε α} {xs : List β}
    (hstep : ∀ a, ∀ x ∈ xs, ∀ b, P a → f a x = .ok b → P b) {a b : α} (ha : P a)
    (h : xs.foldlM f a = .ok b) : P b := by
  induction xs generalizing a with
  | nil =>
    obtain rfl := Except.ok.inj h
    exact ha
  | cons x xs ih =>
    rw [List.foldlM_cons] at h
    obtain ⟨c, hc, h⟩ := bind_eq_ok_iff.1 h
    have hcons : P c := hstep a x (List.mem_cons_self ..) c ha hc
    exact ih (fun a y hy ↦ hstep a y (List.mem_cons_of_mem _ hy)) hcons h

/-- **A completed pass over a list** built its results from the elements, one by one. -/
theorem mapM_eq_ok_iff {α β : Type} {f : α → Except PyException β} {xs : List α} {ys : List β} :
    xs.mapM f = .ok ys ↔ List.Forall₂ (fun x y ↦ f x = .ok y) xs ys := by
  induction xs generalizing ys with
  | nil =>
    rw [List.mapM_nil, List.forall₂_nil_left_iff]
    exact ⟨fun h ↦ (Except.ok.inj h).symm, fun h ↦ congrArg _ h.symm⟩
  | cons x xs ih =>
    rw [List.mapM_cons, bind_eq_ok_iff, List.forall₂_cons_left_iff]
    constructor
    · rintro ⟨y, hy, h⟩
      obtain ⟨zs, hzs, h⟩ := bind_eq_ok_iff.1 h
      exact ⟨y, zs, hy, ih.1 hzs, (Except.ok.inj h).symm⟩
    · rintro ⟨y, zs, hy, hzs, rfl⟩
      exact ⟨y, hy, bind_eq_ok_iff.2 ⟨zs, ih.2 hzs, rfl⟩⟩

/-- What stands in relation to a list element by element comes from its elements. -/
theorem exists_mem_of_forall₂ {α β : Type} {R : α → β → Prop} {xs : List α} {ys : List β}
    (h : List.Forall₂ R xs ys) {y : β} (hy : y ∈ ys) : ∃ x ∈ xs, R x y := by
  induction h with
  | nil => exact absurd hy List.not_mem_nil
  | cons hxy _ ih =>
    obtain rfl | hy := List.mem_cons.1 hy
    · exact ⟨_, List.mem_cons_self .., hxy⟩
    · obtain ⟨x, hx, hR⟩ := ih hy
      exact ⟨x, List.mem_cons_of_mem _ hx, hR⟩

/-- A pass over a list completes when each of its calls returns. -/
theorem exists_mapM_eq_ok {α β : Type} {f : α → Except PyException β} {xs : List α}
    (h : ∀ x ∈ xs, ∃ y, f x = .ok y) : ∃ ys, xs.mapM f = .ok ys := by
  induction xs with
  | nil => exact ⟨[], rfl⟩
  | cons x xs ih =>
    obtain ⟨y, hy⟩ := h x (List.mem_cons_self ..)
    obtain ⟨ys, hys⟩ := ih fun x hx ↦ h x (List.mem_cons_of_mem _ hx)
    exact ⟨y :: ys, mapM_eq_ok_iff.2 (.cons hy (mapM_eq_ok_iff.1 hys))⟩

end InvestmentAssistant
