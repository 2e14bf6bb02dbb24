import InvestmentAssistant.StrategyGenerator.PriceExtraction

/-!
# Entry points

`calculateEntryPoints` proposes an entry at the market price, one at the nearest level of support or
resistance and one at the nearest Fibonacci level. A level is read back from the description of its
pattern; the first entry is always at the market price (`head?_calculateEntryPoints`).
-/

namespace InvestmentAssistant

open Decimal

/-- `_RELIABILITY_STARS`, with a single star for any other reliability. -/
def reliabilityStars : ℕ → String
  | 1 => "★"
  | 2 => "★★"
  | 3 => "★★★"
  | _ => "★"

/-- `_format_confirming_patterns`. -/
def formatConfirmingPatterns (confirming : List PatternDetection) : String :=
  if confirming = [] then ""
  else
    let parts := confirming.map fun p ↦ s!"{p.patternType} {reliabilityStars p.reliability}"
    "Potwierdzone: " ++ String.intercalate ", " parts

/-- One entry scenario. -/
structure EntryPoint where
  type : String
  price : ℚ
  condition : String
  deriving DecidableEq, Repr

/-- A level a trade would rather enter at than at the market price. -/
def favourable (currentPrice : ℚ) : Direction → ℚ → Bool
  | .long, level => level < currentPrice
  | .short, level => currentPrice < level

/-- The levels of the patterns on the favourable side. -/
def candidateLevels (currentPrice : ℚ) (direction : Direction) (patterns : List PatternDetection) :
    List ℚ :=
  (patterns.filterMap fun p ↦ extractPriceFromDescription p.description).filter
    (favourable currentPrice direction)

/-- The candidate closest to the market price: the highest below it or the lowest above it. -/
def nearestLevel (direction : Direction) (candidates : List ℚ) : Option ℚ :=
  match direction with
  | .long => candidates.max?
  | .short => candidates.min?

/-- `_find_conservative_sr_entry`. -/
def findConservativeSrEntry (currentPrice : ℚ) (direction : Direction)
    (srPatterns : List PatternDetection) : Option EntryPoint :=
  (nearestLevel direction (candidateLevels currentPrice direction srPatterns)).map fun best ↦
    { type := "conservative"
      price := best
      condition := match direction with
        | .long => s!"Wejscie przy odbiciu od wsparcia {formatFixed 5 best}"
        | .short => s!"Wejscie przy odbiciu od oporu {formatFixed 5 best}" }

/-- `_find_conservative_fib_entry`. -/
def findConservativeFibEntry (currentPrice : ℚ) (direction : Direction)
    (fibPatterns : List PatternDetection) : Option EntryPoint :=
  (nearestLevel direction (candidateLevels currentPrice direction fibPatterns)).map fun best ↦
    { type := "conservative_fib"
      price := best
      condition := s!"Wejscie przy poziomie Fibonacci {formatFixed 5 best}" }

/-- The entry at the market price. -/
def aggressiveEntry (currentPrice : ℚ) (direction : Direction) : EntryPoint where
  type := "aggressive"
  price := currentPrice
  condition := match direction with
    | .long => s!"Wejscie po cenie rynkowej {formatFixed 5 currentPrice} (long)"
    | .short => s!"Wejscie po cenie rynkowej {formatFixed 5 currentPrice} (short)"

/-- `_with_confirming`: the confirming patterns are named after the condition. -/
def EntryPoint.withConfirming (suffix : String) (entry : EntryPoint) : EntryPoint :=
  if suffix = "" then entry else { entry with condition := s!"{entry.condition}. {suffix}" }

/-- `calculate_entry_points`. -/
def calculateEntryPoints (ohlcv : List OHLCVData) (direction : Direction)
    (supportResistance fibonacciLevels confirmingPatterns : List PatternDetection) :
    List EntryPoint :=
  match ohlcv.getLast? with
  | none => []
  | some last =>
    let currentPrice := last.close
    let suffix := formatConfirmingPatterns confirmingPatterns
    (aggressiveEntry currentPrice direction ::
      ((findConservativeSrEntry currentPrice direction supportResistance).toList ++
        (findConservativeFibEntry currentPrice direction fibonacciLevels).toList)).map
      (EntryPoint.withConfirming suffix)

/-! ### Prices of the entries -/

variable {ohlcv : List OHLCVData} {last : OHLCVData} {direction : Direction}
  {supportResistance fibonacciLevels confirmingPatterns : List PatternDetection}

@[simp]
theorem EntryPoint.price_withConfirming (suffix : String) (entry : EntryPoint) :
    (entry.withConfirming suffix).price = entry.price := by
  unfold EntryPoint.withConfirming
  split <;> rfl

/-- The first entry is at the market price. -/
theorem head?_calculateEntryPoints (hlast : ohlcv.getLast? = some last) :
    (calculateEntryPoints ohlcv direction supportResistance fibonacciLevels
      confirmingPatterns).head?.map EntryPoint.price = some last.close := by
  rw [calculateEntryPoints, hlast]
  show some (EntryPoint.price (EntryPoint.withConfirming _ _)) = _
  rw [EntryPoint.price_withConfirming]
  rfl

end InvestmentAssistant
