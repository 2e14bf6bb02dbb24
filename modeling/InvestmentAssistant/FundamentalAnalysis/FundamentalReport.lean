import InvestmentAssistant.Core.Models
import InvestmentAssistant.Foundation.Decimal
import InvestmentAssistant.Foundation.Dictionary

/-!
# The result of a fundamental analysis

An analyzer returns its score together with the indicators it was computed from, a dictionary, and a
summary.
-/

namespace InvestmentAssistant

open Decimal

/-! ### Indicators -/

/-- The value of an indicator: `float | str | None`. -/
inductive IndicatorEntry
  | number (q : ℚ)
  | text (s : String)
  | missing
  deriving DecidableEq, Repr

/-- A number that may be missing. -/
def IndicatorEntry.ofOption : Option ℚ → IndicatorEntry
  | some q => .number q
  | none => .missing

/-! ### Reports -/

/-- `FundamentalData` as the analyzers build it. -/
structure FundamentalReport extends FundamentalData where
  indicators : List (String × IndicatorEntry)
  summary : String

/-- `f"{x:+.df}"`: with its sign. -/
def formatSigned (d : ℕ) (x : ℚ) : String :=
  (if x < 0 then "" else "+") ++ formatFixed d x

/-- The direction a summary names, for a score beyond the threshold on one side or within it. -/
def directionLabel (threshold score : ℚ) : String :=
  if threshold < score then "bycza"
  else if score < -threshold then "niedzwiedzia"
  else "neutralna"

end InvestmentAssistant
