import Mathlib.Data.List.DropRight
import InvestmentAssistant.Foundation.CharClass

/-!
# Text as a list of characters

What a reader of separated fields does with a text: it splits it at a separator and strips the
blanks around the pieces.
-/

namespace Text

/-- `strip()`: without the blanks at both ends. -/
def strip (text : List Char) : List Char :=
  (text.dropWhile CharClass.isBlank).rdropWhile CharClass.isBlank

/-- A stripped text has no blanks to strip. -/
theorem strip_strip (text : List Char) : strip (strip text) = strip text := by
  have hhead : ∀ c ∈ (strip text).head?, CharClass.isBlank c = false := by
    intro c hc
    -- what is left begins as the text without its leading blanks does
    obtain ⟨rest, hrest⟩ := List.rdropWhile_prefix CharClass.isBlank
      (text.dropWhile CharClass.isBlank)
    have hfirst := List.head?_dropWhile_not CharClass.isBlank text
    rw [← hrest, List.head?_append] at hfirst
    change (strip text).head? = some c at hc
    rw [strip] at hc
    rw [hc] at hfirst
    simpa using hfirst
  have hdrop : (strip text).dropWhile CharClass.isBlank = strip text := by
    rcases hstrip : strip text with - | ⟨c, rest⟩
    · rfl
    · rw [hstrip] at hhead
      exact List.dropWhile_cons_of_neg (by rw [hhead c rfl]; exact Bool.false_ne_true)
  rw [strip, hdrop, strip, List.rdropWhile_idempotent]

/-- Stripping takes blanks away and nothing else. -/
theorem mem_strip_of_mem {text : List Char} {c : Char} (h : c ∈ text)
    (hc : CharClass.isBlank c = false) : c ∈ strip text := by
  have hblank : CharClass.isBlank c ≠ true := Bool.eq_false_iff.1 hc
  rw [← List.takeWhile_append_dropWhile (p := CharClass.isBlank) (l := text)] at h
  have hdrop := (List.mem_append.1 h).resolve_left (mt List.mem_takeWhile_imp hblank)
  rw [← List.rdropWhile_append_rtakeWhile (p := CharClass.isBlank)
    (l := text.dropWhile CharClass.isBlank)] at hdrop
  exact (List.mem_append.1 hdrop).resolve_right (mt List.mem_rtakeWhile_imp hblank)

/-- And puts nothing in. -/
theorem mem_of_mem_strip {text : List Char} {c : Char} (h : c ∈ strip text) : c ∈ text :=
  (List.dropWhile_sublist _).mem ((List.rdropWhile_prefix _ _).mem h)

/-- A text that neither begins nor ends with a blank has nothing to strip. -/
theorem strip_eq_self_of_ends {text : List Char}
    (hhead : ∀ c ∈ text.head?, CharClass.isBlank c = false)
    (hlast : ∀ c ∈ text.getLast?, CharClass.isBlank c = false) : strip text = text := by
  have hdrop : text.dropWhile CharClass.isBlank = text := by
    refine List.dropWhile_eq_self_iff.2 fun hl ↦ ?_
    rw [hhead _ (List.head?_eq_getElem? .. ▸ List.getElem?_eq_getElem hl)]
    exact Bool.false_ne_true
  rw [strip, hdrop]
  refine List.rdropWhile_eq_self_iff.2 fun hl ↦ ?_
  rw [hlast _ (List.getLast?_eq_some_getLast hl)]
  exact Bool.false_ne_true

/-- A stripped text does not end with a blank. -/
theorem isBlank_getLast?_strip {text : List Char} {c : Char} (h : c ∈ (strip text).getLast?) :
    CharClass.isBlank c = false := by
  have hne : strip text ≠ [] := by
    intro hnil
    rw [hnil] at h
    cases h
  rw [List.getLast?_eq_some_getLast hne, Option.mem_some_iff] at h
  exact h ▸ Bool.eq_false_iff.2 (List.rdropWhile_last_not _ _ hne)

/-- A text without blanks has nothing to strip. -/
theorem strip_eq_self {text : List Char} (h : ∀ c ∈ text, CharClass.isBlank c = false) :
    strip text = text :=
  strip_eq_self_of_ends (fun c hc ↦ h c (List.mem_of_head? hc))
    fun c hc ↦ h c (List.mem_of_getLast? hc)

/-- The first piece of a text begins as the text does. -/
theorem exists_splitOn_cons {α : Type} [DecidableEq α] {c sep : α} (hc : c ≠ sep) (text : List α) :
    ∃ piece pieces, (c :: text).splitOn sep = (c :: piece) :: pieces := by
  obtain ⟨piece, pieces, h⟩ := List.exists_cons_of_ne_nil (List.splitOn_ne_nil sep text)
  refine ⟨piece, pieces, ?_⟩
  rw [List.splitOn_cons_eq_if_modifyHead, if_neg (by simpa using hc), h]
  rfl

/-- A character is a separator or stands in one of the pieces. -/
theorem mem_splitOn {α : Type} [DecidableEq α] {sep c : α} {text : List α} (h : c ∈ text) :
    c = sep ∨ ∃ piece ∈ text.splitOn sep, c ∈ piece := by
  induction text with
  | nil => exact absurd h List.not_mem_nil
  | cons a text ih =>
    obtain ⟨piece, pieces, hsplit⟩ := List.exists_cons_of_ne_nil (List.splitOn_ne_nil sep text)
    rw [List.splitOn_cons_eq_if_modifyHead]
    rw [hsplit] at ih ⊢
    by_cases ha : (a == sep) = true
    · rw [if_pos ha]
      rcases List.mem_cons.1 h with rfl | h
      · exact .inl (beq_iff_eq.1 ha)
      · refine (ih h).imp_right fun hmem ↦ ?_
        obtain ⟨q, hq, hc⟩ := hmem
        exact ⟨q, List.mem_cons_of_mem _ hq, hc⟩
    · rw [if_neg ha, List.modifyHead_cons]
      rcases List.mem_cons.1 h with rfl | h
      · exact .inr ⟨_, List.mem_cons_self .., List.mem_cons_self ..⟩
      · refine (ih h).imp_right fun hmem ↦ ?_
        obtain ⟨q, hq, hc⟩ := hmem
        rcases List.mem_cons.1 hq with rfl | hq
        · exact ⟨_, List.mem_cons_self .., List.mem_cons_of_mem _ hc⟩
        · exact ⟨q, List.mem_cons_of_mem _ hq, hc⟩

/-- Between pieces stand separators only. -/
theorem mem_intercalate {α : Type} {sep c : α} {pieces : List (List α)}
    (h : c ∈ [sep].intercalate pieces) : c = sep ∨ ∃ piece ∈ pieces, c ∈ piece := by
  induction pieces with
  | nil => exact absurd h List.not_mem_nil
  | cons piece pieces ih =>
    rcases pieces with - | ⟨next, pieces⟩
    · rw [List.intercalate_singleton] at h
      exact .inr ⟨piece, List.mem_singleton_self piece, h⟩
    · rw [List.intercalate_cons_cons, List.append_assoc, List.mem_append, List.mem_append,
        List.mem_singleton] at h
      rcases h with h | h | h
      · exact .inr ⟨piece, List.mem_cons_self .., h⟩
      · exact .inl h
      · refine (ih h).imp_right fun hmem ↦ ?_
        obtain ⟨q, hq, hc⟩ := hmem
        exact ⟨q, List.mem_cons_of_mem _ hq, hc⟩

/-- No separator stands in a piece. -/
theorem sep_notMem_of_mem_splitOn {α : Type} [DecidableEq α] {sep : α} {text piece : List α}
    (h : piece ∈ text.splitOn sep) : sep ∉ piece := by
  induction text generalizing piece with
  | nil =>
    rw [List.splitOn_nil, List.mem_singleton] at h
    rw [h]
    exact List.not_mem_nil
  | cons a text ih =>
    obtain ⟨first, pieces, hsplit⟩ := List.exists_cons_of_ne_nil (List.splitOn_ne_nil sep text)
    rw [List.splitOn_cons_eq_if_modifyHead] at h
    rw [hsplit] at ih h
    split at h
    · rcases List.mem_cons.1 h with rfl | h
      · exact List.not_mem_nil
      · exact ih h
    · next ha =>
      rw [List.modifyHead_cons] at h
      rcases List.mem_cons.1 h with rfl | h
      · intro hmem
        rcases List.mem_cons.1 hmem with heq | hmem
        · exact ha (beq_iff_eq.2 heq.symm)
        · exact ih (List.mem_cons_self ..) hmem
      · exact ih (List.mem_cons_of_mem _ h)

end Text
