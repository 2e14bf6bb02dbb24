import InvestmentAssistant.Core.Models
import InvestmentAssistant.Foundation.KeywordSearch

/-!
# Reading a price back from a description

The two decoders of a level price. Both search the description for a keyword followed by a number;
the entry calculation also accepts the keyword `Level`. A composed description whose text before the
keyword is quiet is decoded to the printed price by both (`search_of_text`).
-/

namespace InvestmentAssistant

open Decimal KeywordSearch CharClass

/-- The keywords of `_PRICE_RE`. -/
def priceRe : List (List Char) :=
  ["at".toList, "Level".toList, "level".toList]

/-- The keyword of `_SR_PRICE_RE`. -/
def srPriceRe : List (List Char) :=
  ["at".toList]

/-- `_extract_price_from_description`. -/
def extractPriceFromDescription (description : String) : Option ℚ :=
  (search priceRe description.toList).map readDecimal

/-- `_extract_sr_prices`: price and whether it is a resistance. -/
def extractSrPrices (patterns : List PatternDetection) : List (ℚ × Bool) :=
  patterns.filterMap fun p ↦
    (search srPriceRe p.description.toList).map fun number ↦ (readDecimal number, !p.bullish)

/-! ### Composed descriptions -/

variable {description : String} {lead rest : List Char} {d : ℕ} {x : ℚ}

/-- What is quiet for the entry calculation is quiet for the other decoder. -/
theorem quiet_srPriceRe (h : Quiet priceRe lead) : Quiet srPriceRe lead := by
  intro s hs hne w hw
  refine h s hs hne w ?_
  rw [List.mem_singleton.1 hw]
  exact List.mem_cons_self ..

/-- The first characters of the keywords. -/
theorem heads_of_mem_priceRe {w : List Char} (hw : w ∈ priceRe) :
    ∃ a l, w = a :: l ∧ (a = 'a' ∨ a = 'L' ∨ a = 'l') := by
  simp only [priceRe, List.mem_cons, List.not_mem_nil, or_false] at hw
  rcases hw with rfl | rfl | rfl
  · exact ⟨'a', ['t'], by decide, .inl rfl⟩
  · exact ⟨'L', ['e', 'v', 'e', 'l'], by decide, .inr (.inl rfl)⟩
  · exact ⟨'l', ['e', 'v', 'e', 'l'], by decide, .inr (.inr rfl)⟩

/-- No keyword starts with a digit. -/
theorem quiet_of_digits (h : ∀ c ∈ lead, c = '-' ∨ c = '.' ∨ ∃ k < 10, c = Nat.digitChar k) :
    Quiet priceRe lead := by
  refine quiet_of_heads fun c hc w hw ↦ ?_
  obtain ⟨a, l, hal, ha⟩ := heads_of_mem_priceRe hw
  refine ⟨a, l, hal, ?_⟩
  rcases h c hc with rfl | rfl | ⟨k, hk, rfl⟩
  · rcases ha with rfl | rfl | rfl <;> decide
  · rcases ha with rfl | rfl | rfl <;> decide
  · rcases ha with rfl | rfl | rfl <;> interval_cases k <;> decide

/-- A printed natural number contains no keyword. -/
theorem quiet_toString (n : ℕ) : Quiet priceRe (toString n).toList := by
  refine quiet_of_digits fun c hc ↦ .inr (.inr ?_)
  rw [Nat.toString_eq_repr, Nat.toList_repr] at hc
  exact exists_of_mem_toDigits hc

/-- A number printed with decimals contains no keyword. -/
theorem quiet_formatFixed (d : ℕ) (x : ℚ) : Quiet priceRe (formatFixed d x).toList := by
  refine quiet_of_digits fun c hc ↦ ?_
  rw [formatFixed, String.toList_ofList, List.mem_append, fixedText, List.mem_append,
    List.mem_cons] at hc
  rcases hc with hc | hc | rfl | hc
  · split at hc
    · exact .inl (List.mem_singleton.1 hc)
    · exact absurd hc List.not_mem_nil
  · exact .inr (.inr (exists_of_mem_toDigits hc))
  · exact .inr (.inl rfl)
  · exact .inr (.inr (exists_of_mem_fracDigits hc))

/-- **A composed description is decoded to the printed price**, by both searches. -/
theorem search_of_text (hx : 0 ≤ x) (hlead : Quiet priceRe lead)
    (hrest : ∀ c ∈ rest.head?, isDecimalDigit c = false)
    (htext : description.toList =
      lead ++ ("at".toList ++ ' ' :: ((formatFixed d x).toList ++ rest))) :
    (search priceRe description.toList).map readDecimal = some (roundTo d x) ∧
      (search srPriceRe description.toList).map readDecimal = some (roundTo d x) := by
  have hat : "at".toList ≠ [] := by decide
  have hvalue := readDecimal_formatFixed (d := d) hx
  rw [toList_formatFixed hx] at htext hvalue
  rw [htext, priceRe, search_keyword_fixedText hat hlead _ _ hrest, srPriceRe,
    search_keyword_fixedText hat (quiet_srPriceRe hlead) _ _ hrest, Option.map_some, hvalue]
  exact ⟨rfl, rfl⟩

end InvestmentAssistant
