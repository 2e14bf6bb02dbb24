import Mathlib.Data.List.Basic
import Mathlib.Data.List.Infix

/-!
# Self-delimiting codes

A code is self-delimiting when one can tell where a code word ends, whatever follows it: two texts
that begin with code words agree only if the code words do, and the rest does (`SelfDelimiting`).

Such codes are put together from smaller ones: one after another (`SelfDelimiting.append`), behind a
fixed text (`SelfDelimiting.behind`), and any number of them up to a closing mark that no code word
begins with (`SelfDelimiting.closed`). A self-delimiting code is injective.
-/

variable {α β γ : Type*}

/-- Texts that begin with code words agree only if the code words and the rests agree. -/
def SelfDelimiting (encode : α → List γ) : Prop :=
  ∀ ⦃a b : α⦄ ⦃s t : List γ⦄, encode a ++ s = encode b ++ t → a = b ∧ s = t

/-- The code words of a list, up to a closing mark. -/
def encodeUntil (close : List γ) (encode : α → List γ) : List α → List γ
  | [] => close
  | a :: as => encode a ++ encodeUntil close encode as

namespace SelfDelimiting

variable {encode : α → List γ} {encode' : β → List γ}

/-- A code none of whose words is the beginning of another. -/
theorem of_forall_eq (h : ∀ a b, encode a <+: encode b → a = b) : SelfDelimiting encode := by
  intro a b s t heq
  have hab : a = b := by
    have hprefix : encode a <+: encode b ++ t := ⟨s, heq⟩
    rcases List.prefix_or_prefix_of_prefix hprefix (List.prefix_append _ _) with hle | hle
    · exact h a b hle
    · exact (h b a hle).symm
  subst hab
  exact ⟨rfl, List.append_cancel_left heq⟩

theorem injective (h : SelfDelimiting encode) : Function.Injective encode := fun a b heq ↦
  (@h a b [] [] (by rw [heq])).1

/-- A code word behind a fixed text. -/
theorem behind (h : SelfDelimiting encode) (lead : List γ) :
    SelfDelimiting fun a ↦ lead ++ encode a := by
  intro a b s t heq
  rw [List.append_assoc, List.append_assoc] at heq
  exact h (List.append_cancel_left heq)

/-- One code word after another. -/
theorem append (h : SelfDelimiting encode) (h' : SelfDelimiting encode') :
    SelfDelimiting fun p : α × β ↦ encode p.1 ++ encode' p.2 := by
  rintro ⟨a, b⟩ ⟨a', b'⟩ s t heq
  rw [List.append_assoc, List.append_assoc] at heq
  obtain ⟨rfl, hrest⟩ := h heq
  obtain ⟨rfl, rfl⟩ := h' hrest
  exact ⟨rfl, rfl⟩

/-- **Any number of code words, up to a mark that none of them begins with.** -/
theorem closed (h : SelfDelimiting encode) {close : List γ}
    (hclose : ∀ a s t, encode a ++ s ≠ close ++ t) :
    SelfDelimiting (encodeUntil close encode) := by
  intro as
  induction as with
  | nil =>
    rintro (- | ⟨b, bs⟩) s t heq
    · exact ⟨rfl, List.append_cancel_left heq⟩
    · rw [encodeUntil, encodeUntil, List.append_assoc] at heq
      exact absurd heq.symm (hclose b _ _)
  | cons a as ih =>
    rintro (- | ⟨b, bs⟩) s t heq
    · rw [encodeUntil, encodeUntil, List.append_assoc] at heq
      exact absurd heq (hclose a _ _)
    · rw [encodeUntil, encodeUntil, List.append_assoc, List.append_assoc] at heq
      obtain ⟨rfl, hrest⟩ := h heq
      obtain ⟨rfl, rfl⟩ := ih hrest
      exact ⟨rfl, rfl⟩

end SelfDelimiting
