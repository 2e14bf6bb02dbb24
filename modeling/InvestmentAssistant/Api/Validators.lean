import InvestmentAssistant.Core.Errors
import InvestmentAssistant.Foundation.CharClass

/-!
# Validation of request values

The patterns end in `$`, which also matches before a line feed at the end of the value. So a symbol
may have one after its two to twenty characters, a period after its unit, and an identifier after
its thirty-six. The digits of a period are those of any script.
-/

namespace InvestmentAssistant

/-- `[A-Za-z0-9/\-]`. -/
def isSymbolChar (c : Char) : Bool :=
  c.isAlphanum || c == '/' || c == '-'

/-- A value without the line feed that `$` passes over. -/
def patternBody (value : String) : List Char :=
  if value.toList.getLast? = some '\n' then value.toList.dropLast else value.toList

/-- `SYMBOL_PATTERN.match`: `^[A-Za-z0-9/\-]{2,20}$`. -/
def SymbolValid (symbol : String) : Prop :=
  (∀ c ∈ patternBody symbol, isSymbolChar c = true) ∧
    2 ≤ (patternBody symbol).length ∧ (patternBody symbol).length ≤ 20

instance (symbol : String) : Decidable (SymbolValid symbol) :=
  decidable_of_iff ((patternBody symbol).all isSymbolChar = true ∧
    2 ≤ (patternBody symbol).length ∧ (patternBody symbol).length ≤ 20)
    (and_congr_left' List.all_eq_true)

/-- `validate_symbol`. -/
def validateSymbol (symbol : String) : Except PyException Unit :=
  if SymbolValid symbol then .ok () else .error (.httpException 400 "Invalid symbol format")

/-- `[dymDYM]`. -/
def isPeriodUnit (c : Char) : Bool :=
  c == 'd' || c == 'y' || c == 'm' || c == 'D' || c == 'Y' || c == 'M'

/-- `PERIOD_PATTERN.match`: `^\d{1,4}[dymDYM]$`. -/
def PeriodValid (period : String) : Prop :=
  (∀ c ∈ (patternBody period).dropLast, CharClass.isDecimalDigit c = true) ∧
    (1 ≤ (patternBody period).dropLast.length ∧ (patternBody period).dropLast.length ≤ 4) ∧
    (patternBody period).getLast?.any isPeriodUnit = true

instance (period : String) : Decidable (PeriodValid period) :=
  decidable_of_iff ((patternBody period).dropLast.all CharClass.isDecimalDigit = true ∧
    (1 ≤ (patternBody period).dropLast.length ∧ (patternBody period).dropLast.length ≤ 4) ∧
    (patternBody period).getLast?.any isPeriodUnit = true)
    (and_congr_left' List.all_eq_true)

/-- `validate_period`. -/
def validatePeriod (period : String) : Except PyException Unit :=
  if PeriodValid period then .ok ()
  else .error (.httpException 400 "Invalid period format (e.g. 30d, 6m, 1y)")

/-- A character of an identifier at a place of its template: `x` stands for `[0-9a-f]`, `y` for
`[89ab]`, and every other character for itself. -/
def matchesUuidPlace (place c : Char) : Bool :=
  if place == 'x' then c.isDigit || ('a' ≤ c && c ≤ 'f')
  else if place == 'y' then c == '8' || c == '9' || c == 'a' || c == 'b'
  else c == place

/-- `UUID4_PATTERN.match`. -/
def AnalysisIdValid (analysisId : String) : Prop :=
  List.Forall₂ (fun place c ↦ matchesUuidPlace place c = true)
    "xxxxxxxx-xxxx-4xxx-yxxx-xxxxxxxxxxxx".toList (patternBody analysisId)

instance (analysisId : String) : Decidable (AnalysisIdValid analysisId) :=
  inferInstanceAs (Decidable (List.Forall₂ _ _ _))

/-- `validate_analysis_id`. -/
def validateAnalysisId (analysisId : String) : Except PyException Unit :=
  if AnalysisIdValid analysisId then .ok ()
  else .error (.httpException 400 "Invalid analysis ID format")

end InvestmentAssistant
