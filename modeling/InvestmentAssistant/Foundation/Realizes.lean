import Mathlib.Tactic

/-!
# Computations that realise an outcome

A computation with state and exceptions, `ExceptT ε (StateM σ) α`, may end as a plain `Except ε α`
does and use its state only to keep a record on the way. `Realizes pre x o post err` says that it
does: from every state of `pre`, `x` ends with the outcome `o`, in a state of `post` when `o` is a
value and in one of `err` when `o` is an exception.

The rules follow the program: `bind` composes the outcomes along with the computations, and a step
that only changes the state (`Realizes.step`) leaves the outcome of what follows as it is. So a
proof goes through a program statement by statement, and its exits are dealt with in one place,
`err`.

What every step keeps, the computation keeps however it ends (`Preserves`); its rules follow the
program in the same way, and need not know the outcome.
-/

section Definitions

variable {σ ε α : Type}

/-- A computation with state and exceptions. -/
abbrev Stateful (σ ε α : Type) := ExceptT ε (StateM σ) α

/-- The outcome of a computation and the state after it. -/
def Stateful.exec (x : Stateful σ ε α) (s : σ) : Except ε α × σ :=
  x.run.run s

/-- A call whose outcome is known: it returns or raises, and leaves the state alone. -/
def Stateful.call (o : Except ε α) : Stateful σ ε α :=
  ExceptT.mk (pure o)

/-- A change of the state. -/
def Stateful.update (f : σ → σ) : Stateful σ ε Unit :=
  modify f

/-- The exceptions that `handler` does not answer pass through. -/
def Stateful.handle (x : Stateful σ ε α) (handler : ε → Option (Stateful σ ε α)) : Stateful σ ε α :=
  tryCatch x fun e ↦ (handler e).getD (throw e)

/-- The computation ends with the outcome `o`, in a state of `post` or of `err`. -/
def Realizes (pre : σ → Prop) (x : Stateful σ ε α) (o : Except ε α) (post : α → σ → Prop)
    (err : σ → Prop) : Prop :=
  ∀ s, pre s → (x.exec s).1 = o ∧
    (∀ a, o = .ok a → post a (x.exec s).2) ∧ ∀ e, o = .error e → err (x.exec s).2

end Definitions

namespace Stateful

variable {σ ε α β : Type}

/-- A chained computation runs from the state the first one leaves. -/
theorem exec_bind_of_ok {x : Stateful σ ε α} {f : α → Stateful σ ε β} {s s' : σ} {a : α}
    (h : x.exec s = (.ok a, s')) : (x >>= f).exec s = (f a).exec s' := by
  have hx : StateT.run x.run s = (.ok a, s') := h
  show StateT.run (x >>= f).run s = StateT.run (f a).run s'
  rw [ExceptT.run_bind, StateT.run_bind, hx]
  rfl

/-- An exception ends a chain. -/
theorem exec_bind_of_error {x : Stateful σ ε α} {f : α → Stateful σ ε β} {s s' : σ} {e : ε}
    (h : x.exec s = (.error e, s')) : (x >>= f).exec s = (.error e, s') := by
  have hx : StateT.run x.run s = (.error e, s') := h
  show StateT.run (x >>= f).run s = _
  rw [ExceptT.run_bind, StateT.run_bind, hx]
  rfl

/-- A handler looks at what the computation ends with. -/
theorem run_handle (x : Stateful σ ε α) (handler : ε → Option (Stateful σ ε α)) :
    (x.handle handler).run = x.run >>= fun
      | .ok a => pure (.ok a)
      | .error e => ((handler e).getD (throw e)).run := rfl

/-- A value passes a handler by. -/
theorem exec_handle_of_ok {x : Stateful σ ε α} {handler : ε → Option (Stateful σ ε α)} {s s' : σ}
    {a : α} (h : x.exec s = (.ok a, s')) : (x.handle handler).exec s = (.ok a, s') := by
  have hx : StateT.run x.run s = (.ok a, s') := h
  show StateT.run (x.handle handler).run s = _
  rw [run_handle, StateT.run_bind, hx]
  rfl

/-- An exception goes to its handler, if it has one. -/
theorem exec_handle_of_error {x : Stateful σ ε α} {handler : ε → Option (Stateful σ ε α)}
    {s s' : σ} {e : ε} (h : x.exec s = (.error e, s')) :
    (x.handle handler).exec s = ((handler e).getD (throw e)).exec s' := by
  have hx : StateT.run x.run s = (.error e, s') := h
  show StateT.run (x.handle handler).run s = _
  rw [run_handle, StateT.run_bind, hx]
  rfl

end Stateful

namespace Realizes

open Stateful

variable {σ ε α β : Type} {pre err err' : σ → Prop} {post : α → σ → Prop} {post' : β → σ → Prop}

/-- The run of a computation whose outcome is a value. -/
theorem exec_of_ok {x : Stateful σ ε α} {a : α} (h : Realizes pre x (.ok a) post err) {s : σ}
    (hs : pre s) : ∃ s', x.exec s = (.ok a, s') ∧ post a s' :=
  ⟨(x.exec s).2, Prod.ext (h s hs).1 rfl, (h s hs).2.1 a rfl⟩

/-- The run of a computation whose outcome is an exception. -/
theorem exec_of_error {x : Stateful σ ε α} {e : ε} (h : Realizes pre x (.error e) post err) {s : σ}
    (hs : pre s) : ∃ s', x.exec s = (.error e, s') ∧ err s' :=
  ⟨(x.exec s).2, Prod.ext (h s hs).1 rfl, (h s hs).2.2 e rfl⟩

/-- **The rule of consequence.** -/
theorem mono {x : Stateful σ ε α} {o : Except ε α} {post'' : α → σ → Prop}
    (h : Realizes pre x o post err) (hpost : ∀ a, o = .ok a → ∀ s, post a s → post'' a s)
    (herr : ∀ e, o = .error e → ∀ s, err s → err' s) : Realizes pre x o post'' err' :=
  fun s hs ↦ ⟨(h s hs).1, fun a ha ↦ hpost a ha _ ((h s hs).2.1 a ha),
    fun e he ↦ herr e he _ ((h s hs).2.2 e he)⟩

/-- A precondition with a witness. -/
theorem of_exists {ι : Type} {pre : ι → σ → Prop} {x : Stateful σ ε α} {o : Except ε α}
    (h : ∀ i, Realizes (pre i) x o post err) : Realizes (fun s ↦ ∃ i, pre i s) x o post err :=
  fun s ⟨i, hs⟩ ↦ h i s hs

/-- `pure` returns. -/
theorem pure {a : α} (h : ∀ s, pre s → post a s) :
    Realizes pre (Pure.pure a : Stateful σ ε α) (.ok a) post err :=
  fun s hs ↦ ⟨rfl, fun _ ha ↦ Except.ok.inj ha ▸ h s hs, fun _ he ↦ nomatch he⟩

/-- `throw` raises. -/
theorem throw {e : ε} (h : ∀ s, pre s → err s) :
    Realizes pre (MonadExcept.throw e : Stateful σ ε α) (.error e) post err :=
  fun s hs ↦ ⟨rfl, fun _ ha ↦ (nomatch ha), fun _ _ ↦ h s hs⟩

/-- A change of the state. -/
theorem update {f : σ → σ} {post : Unit → σ → Prop} (h : ∀ s, pre s → post () (f s)) :
    Realizes pre (Stateful.update f : Stateful σ ε Unit) (.ok ()) post err :=
  fun s hs ↦ ⟨rfl, fun _ _ ↦ h s hs, fun _ he ↦ nomatch he⟩

/-- A call keeps the state. -/
theorem call {o : Except ε α} (hpost : ∀ a, o = .ok a → ∀ s, pre s → post a s)
    (herr : ∀ e, o = .error e → ∀ s, pre s → err s) :
    Realizes pre (Stateful.call o : Stateful σ ε α) o post err :=
  fun s hs ↦ ⟨rfl, fun a ha ↦ hpost a ha s hs, fun e he ↦ herr e he s hs⟩

/-- **The rule of sequence.** The outcomes compose as the computations do. -/
theorem bind {x : Stateful σ ε α} {f : α → Stateful σ ε β} {o : Except ε α} {g : α → Except ε β}
    (hx : Realizes pre x o post err)
    (hf : ∀ a, o = .ok a → Realizes (post a) (f a) (g a) post' err) :
    Realizes pre (x >>= f) (o >>= g) post' err := by
  intro s hs
  cases o with
  | error e =>
    obtain ⟨s', hrun, hs'⟩ := hx.exec_of_error hs
    rw [exec_bind_of_error hrun]
    exact ⟨rfl, fun _ h ↦ (nomatch h), fun _ _ ↦ hs'⟩
  | ok a =>
    obtain ⟨s', hrun, hs'⟩ := hx.exec_of_ok hs
    rw [exec_bind_of_ok hrun]
    exact hf a rfl s' hs'

/-- A computation whose value is returned by what follows it. -/
theorem bind_return {x : Stateful σ ε α} {f : α → Stateful σ ε α} {o : Except ε α}
    {post'' : α → σ → Prop} (hx : Realizes pre x o post err)
    (hf : ∀ a, o = .ok a → Realizes (post a) (f a) (.ok a) post'' err) :
    Realizes pre (x >>= f) o post'' err := by
  have hbind : Realizes pre (x >>= f) (o >>= Except.ok) post'' err := hx.bind hf
  -- returning the value again changes no outcome
  have hreturn : (o >>= Except.ok) = o := by cases o <;> rfl
  rwa [hreturn] at hbind

/-- A step that returns nothing leaves the outcome to what follows it. -/
theorem step {mid : σ → Prop} {x : Stateful σ ε Unit} {y : Stateful σ ε β} {o : Except ε β}
    (hx : Realizes pre x (.ok ()) (fun _ ↦ mid) err) (hy : Realizes mid y o post' err) :
    Realizes pre (x >>= fun _ ↦ y) o post' err := by
  have hbind : Realizes pre (x >>= fun _ ↦ y) (Except.ok () >>= fun _ ↦ o) post' err :=
    hx.bind fun _ _ ↦ hy
  exact hbind

/-- **The rule of branches.** -/
theorem ite {c : Prop} [Decidable c] {x y : Stateful σ ε α} {o o' : Except ε α}
    (hpos : c → Realizes pre x o post err) (hneg : ¬c → Realizes pre y o' post err) :
    Realizes pre (if c then x else y) (if c then o else o') post err := by
  split
  · next h => exact hpos h
  · next h => exact hneg h

/-- **The rule of handlers.** An exception gives way to the outcome of its handler. -/
theorem handle {x : Stateful σ ε α} {handler : ε → Option (Stateful σ ε α)} {o : Except ε α}
    {g : ε → Except ε α} (hx : Realizes pre x o post err)
    (hh : ∀ e, o = .error e →
      Realizes err ((handler e).getD (MonadExcept.throw e)) (g e) post err') :
    Realizes pre (x.handle handler) (tryCatch o g) post err' := by
  intro s hs
  cases o with
  | ok a =>
    obtain ⟨s', hrun, hs'⟩ := hx.exec_of_ok hs
    rw [exec_handle_of_ok hrun]
    exact ⟨rfl, fun _ ha ↦ Except.ok.inj ha ▸ hs', fun _ he ↦ nomatch he⟩
  | error e =>
    obtain ⟨s', hrun, hs'⟩ := hx.exec_of_error hs
    rw [exec_handle_of_error hrun]
    exact hh e rfl s' hs'

end Realizes

/-! ### Invariants of a computation -/

/-- However the computation ends, it keeps `Inv`. -/
def Preserves {σ ε α : Type} (Inv : σ → Prop) (x : Stateful σ ε α) : Prop :=
  ∀ s, Inv s → Inv (x.exec s).2

namespace Preserves

open Stateful

variable {σ ε α β : Type} {Inv : σ → Prop}

theorem pure {a : α} : Preserves Inv (Pure.pure a : Stateful σ ε α) :=
  fun _ hs ↦ hs

theorem call {o : Except ε α} : Preserves Inv (Stateful.call o : Stateful σ ε α) :=
  fun _ hs ↦ hs

theorem update {f : σ → σ} (h : ∀ s, Inv s → Inv (f s)) :
    Preserves Inv (Stateful.update f : Stateful σ ε Unit) :=
  h

theorem bind {x : Stateful σ ε α} {f : α → Stateful σ ε β} (hx : Preserves Inv x)
    (hf : ∀ a, Preserves Inv (f a)) : Preserves Inv (x >>= f) := by
  intro s hs
  have hs' : Inv (x.exec s).2 := hx s hs
  rcases hrun : x.exec s with ⟨e | a, s'⟩
  · rw [exec_bind_of_error hrun]
    rwa [hrun] at hs'
  · rw [exec_bind_of_ok hrun]
    rw [hrun] at hs'
    exact hf a s' hs'

theorem ite {c : Prop} [Decidable c] {x y : Stateful σ ε α} (hx : Preserves Inv x)
    (hy : Preserves Inv y) : Preserves Inv (if c then x else y) := by
  split
  · exact hx
  · exact hy

theorem handle {x : Stateful σ ε α} {handler : ε → Option (Stateful σ ε α)} (hx : Preserves Inv x)
    (hh : ∀ e y, handler e = some y → Preserves Inv y) : Preserves Inv (x.handle handler) := by
  intro s hs
  have hs' : Inv (x.exec s).2 := hx s hs
  rcases hrun : x.exec s with ⟨e | a, s'⟩
  · rw [exec_handle_of_error hrun]
    rw [hrun] at hs'
    cases hy : handler e with
    | none => exact hs'
    | some y => exact hh e y hy s' hs'
  · rw [exec_handle_of_ok hrun]
    rwa [hrun] at hs'

end Preserves

/-! ### Outcomes that are values -/

/-- The outcome is a value, and one of `post`. -/
def Delivers {ε α : Type} (o : Except ε α) (post : α → Prop) : Prop :=
  ∃ a, o = .ok a ∧ post a

namespace Delivers

variable {ε α β : Type} {o : Except ε α} {post : α → Prop} {post' : β → Prop}

theorem ok {a : α} (h : post a) : Delivers (.ok a : Except ε α) post :=
  ⟨a, rfl, h⟩

theorem bind {f : α → Except ε β} (ho : Delivers o post) (hf : ∀ a, post a → Delivers (f a) post') :
    Delivers (o >>= f) post' := by
  obtain ⟨a, rfl, ha⟩ := ho
  exact hf a ha

/-- A value of which nothing more is needed. -/
theorem bind_any {f : α → Except ε β} (ho : Delivers o fun _ ↦ True)
    (hf : ∀ a, Delivers (f a) post') : Delivers (o >>= f) post' :=
  ho.bind fun a _ ↦ hf a

end Delivers
