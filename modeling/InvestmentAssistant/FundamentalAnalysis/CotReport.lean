import InvestmentAssistant.Core.InstrumentClassifier
import InvestmentAssistant.FundamentalAnalysis.JsonValues

/-!
# The report on the commitments of traders

`fetchCotReport` reads the long and short positions of three kinds of traders from the latest record
of a response, and their changes from the record before it. A position that is missing, or false,
counts as zero. Whatever raises on the way is caught, and there is no report.

Numbers of a response are integers or fractions, and what is computed with them keeps the kind: the
difference of two integers is an integer, and a fraction makes the other operand a fraction, which
an integer out of the range of floats refuses (`PyNumber.clash`). The subtractions are where the
reading can fail last, so a report is there exactly when no two of the numbers clash
(`report_eq_ok_iff`).
-/

namespace InvestmentAssistant

/-! ### Numbers of two kinds -/

/-- A number of the host language: an `int` or a `float`. -/
inductive PyNumber
  | int (n : ℤ)
  | float (x : ℚ)
  deriving DecidableEq, Repr

namespace PyNumber

/-- The number, of whatever kind. -/
def value : PyNumber → ℚ
  | .int n => n
  | .float x => x

/-- `isinstance(a, int)`. -/
def isInt : PyNumber → Bool
  | .int _ => true
  | .float _ => false

/-- An integer that is too large to be a `float`. -/
def tooLarge : PyNumber → Bool
  | .int n => decide (FloatOverflow n)
  | .float _ => false

/-- One of the two is a fraction, and the other one is too large to become one. -/
def clash (a b : PyNumber) : Bool :=
  a.isInt != b.isInt && (a.tooLarge || b.tooLarge)

/-- The difference, of the kind that `a - b` has. -/
def diff : PyNumber → PyNumber → PyNumber
  | .int m, .int n => .int (m - n)
  | a, b => .float (a.value - b.value)

/-- The sum, of the kind that `a + b` has. -/
def sum : PyNumber → PyNumber → PyNumber
  | .int m, .int n => .int (m + n)
  | a, b => .float (a.value + b.value)

/-- `a - b`. -/
def sub (a b : PyNumber) : Except PyException PyNumber :=
  if clash a b then .error overflowError else .ok (diff a b)

/-- `a + b`. -/
def add (a b : PyNumber) : Except PyException PyNumber :=
  if clash a b then .error overflowError else .ok (sum a b)

/-- `a / b`; the quotient of two integers has to be in the range of floats. -/
def trueDiv (a b : PyNumber) : Except PyException ℚ :=
  if b.value = 0 then .error .zeroDivisionError
  else if clash a b || a.isInt && b.isInt && decide (2 ^ 1024 - 2 ^ 970 ≤ |a.value / b.value|) then
    .error overflowError
  else .ok (a.value / b.value)

/-- `f"{a:+d}"`. -/
def formatD : PyNumber → Except PyException String
  | .int n => .ok ((if n < 0 then "" else "+") ++ toString n)
  | .float _ => .error (.valueError "Unknown format code 'd' for object of type 'float'")

/-- What a field declared as `float` makes of the number. -/
def asFloat (a : PyNumber) : Except PyException ℚ :=
  if a.tooLarge then .error .validationError else .ok a.value

variable {a b : PyNumber}

@[simp] theorem value_diff : (diff a b).value = a.value - b.value := by
  cases a <;> cases b <;> simp [diff, value]

@[simp] theorem value_sum : (sum a b).value = a.value + b.value := by
  cases a <;> cases b <;> simp [sum, value]

@[simp] theorem isInt_diff : (diff a b).isInt = (a.isInt && b.isInt) := by
  cases a <;> cases b <;> rfl

@[simp] theorem isInt_sum : (sum a b).isInt = (a.isInt && b.isInt) := by
  cases a <;> cases b <;> rfl

theorem sub_eq_ok_iff {c : PyNumber} : sub a b = .ok c ↔ clash a b = false ∧ c = diff a b := by
  rw [sub]
  cases h : clash a b with
  | true => exact iff_of_false (by simp) (by simp)
  | false => simp [eq_comm]

/-- Only an integer is printed as one. -/
theorem returns_formatD_iff : CollectLoop.Returns a.formatD ↔ a.isInt = true := by
  cases a with
  | int n => exact iff_of_true (CollectLoop.returns_ok _) rfl
  | float x => exact iff_of_false (CollectLoop.not_returns_error _) Bool.false_ne_true

end PyNumber

/-! ### Reading a response -/

/-- The members of a decoded object. -/
abbrev JsonRecord := List (String × Json ℚ)

/-- `bool(value)`. -/
def isTruthy : Json ℚ → Bool
  | .null => false
  | .bool b => b
  | .int n => decide (n ≠ 0)
  | .float x => decide (x ≠ 0)
  | .str s => decide (s ≠ "")
  | .list items => !items.isEmpty
  | .dict members => !members.isEmpty

/-- `record.get(key, 0) or 0`. -/
def getOrZero (record : JsonRecord) (key : String) : Json ℚ :=
  match record.lookup key with
  | some value => if isTruthy value then value else .int 0
  | none => .int 0

/-- A value that can be subtracted; a truth value counts as an integer. -/
def numberOf : Json ℚ → Except PyException PyNumber
  | .int n => .ok (.int n)
  | .float x => .ok (.float x)
  | .bool b => .ok (.int (if b then 1 else 0))
  | _ => .error (.typeError "unsupported operand type(s) for -")

/-- The members of what has to be an object. -/
def recordOf (value : Json ℚ) : Except PyException JsonRecord :=
  match value.dict? with
  | some members => .ok members
  | none => .error attributeError

/-- The long and the short position of one kind of traders. -/
structure Positions where
  long : PyNumber
  short : PyNumber
  deriving DecidableEq, Repr

/-- The two positions of a record under their keys. -/
def readPositions (record : JsonRecord) (longKey shortKey : String) :
    Except PyException Positions := do
  let long ← numberOf (getOrZero record longKey)
  let short ← numberOf (getOrZero record shortKey)
  return ⟨long, short⟩

/-- The positions of the week before that are read. -/
structure PreviousWeek where
  nonCommercial : Positions
  commercial : Positions
  deriving DecidableEq, Repr

/-- What is read from the latest record and the one before it. -/
structure CotWeeks where
  date : Option (Json ℚ)
  commercial : Positions
  nonCommercial : Positions
  nonReportable : Positions
  previous : Option PreviousWeek

/-- The week before, if there is a record for it and it is not empty. -/
def readPrevious : List (Json ℚ) → Except PyException (Option PreviousWeek)
  | [] => return none
  | previous :: _ =>
    if isTruthy previous then do
      let record ← recordOf previous
      let nonCommercial ← readPositions record "nonCommercialLong" "nonCommercialShort"
      let commercial ← readPositions record "commercialLong" "commercialShort"
      return some { nonCommercial, commercial }
    else return none

/-- The weeks of a response; only a list that is not empty has any. -/
def readWeeks : Json ℚ → Except PyException (Option CotWeeks)
  | .list (latest :: rest) => do
    let record ← recordOf latest
    let commercial ← readPositions record "commercialLong" "commercialShort"
    let nonCommercial ← readPositions record "nonCommercialLong" "nonCommercialShort"
    let nonReportable ← readPositions record "nonReportableLong" "nonReportableShort"
    let previous ← readPrevious rest
    return some
      { date := record.lookup "date"
        commercial
        nonCommercial
        nonReportable
        previous }
  | _ => return none

/-! ### The report -/

/-- The result of `fetch_cot_report`. -/
structure CotReport where
  date : Option (Json ℚ)
  commercialLong : PyNumber
  commercialShort : PyNumber
  netCommercial : PyNumber
  nonCommercialLong : PyNumber
  nonCommercialShort : PyNumber
  netNonCommercial : PyNumber
  nonReportableLong : PyNumber
  nonReportableShort : PyNumber
  netNonReportable : PyNumber
  netNonCommercialChange : Option PyNumber
  netCommercialChange : Option PyNumber

/-- The difference of two positions. -/
def Positions.subtract (p : Positions) : Except PyException PyNumber :=
  p.long.sub p.short

/-- The report on the weeks that were read. -/
def CotWeeks.report (w : CotWeeks) : Except PyException CotReport := do
  let netCommercial ← w.commercial.subtract
  let netNonCommercial ← w.nonCommercial.subtract
  let netNonReportable ← w.nonReportable.subtract
  let (netNonCommercialChange, netCommercialChange) ←
    match w.previous with
    | none => pure (none, none)
    | some previous => do
      let prevNetNc ← previous.nonCommercial.subtract
      let changeNc ← netNonCommercial.sub prevNetNc
      let prevNetC ← previous.commercial.subtract
      let changeC ← netCommercial.sub prevNetC
      pure (some changeNc, some changeC)
  return {
    date := w.date
    commercialLong := w.commercial.long
    commercialShort := w.commercial.short
    netCommercial
    nonCommercialLong := w.nonCommercial.long
    nonCommercialShort := w.nonCommercial.short
    netNonCommercial
    nonReportableLong := w.nonReportable.long
    nonReportableShort := w.nonReportable.short
    netNonReportable
    netNonCommercialChange
    netCommercialChange }

/-- The path of the report on a symbol. -/
def cotPath (symbol : String) : String :=
  "/v4/commitment_of_traders_report/" ++ upper symbol

/-- `fetch_cot_report`; whatever is raised is caught. -/
def fetchCotReport (get : String → Except PyException (Json ℚ)) (symbol : String) :
    Option CotReport :=
  match get (cotPath symbol) with
  | .error _ => none
  | .ok data =>
    match readWeeks data with
    | .ok (some weeks) => weeks.report.toOption
    | _ => none

/-! ### When there is a report -/

namespace Positions

/-- The net position. -/
def net (p : Positions) : PyNumber :=
  .diff p.long p.short

/-- The two positions cannot be subtracted. -/
def clash (p : Positions) : Bool :=
  PyNumber.clash p.long p.short

theorem subtract_eq_ok_iff {p : Positions} {c : PyNumber} :
    p.subtract = .ok c ↔ p.clash = false ∧ c = p.net := by
  rw [subtract, PyNumber.sub_eq_ok_iff]
  rfl

end Positions

namespace CotWeeks

/-- No subtraction mixes a fraction with an integer that is too large for one. -/
structure Reported (w : CotWeeks) : Prop where
  commercial : w.commercial.clash = false
  nonCommercial : w.nonCommercial.clash = false
  nonReportable : w.nonReportable.clash = false
  previous : ∀ p ∈ w.previous,
    (p.nonCommercial.clash = false ∧
        PyNumber.clash w.nonCommercial.net p.nonCommercial.net = false) ∧
      p.commercial.clash = false ∧ PyNumber.clash w.commercial.net p.commercial.net = false

/-- The report with all its differences. -/
def differences (w : CotWeeks) : CotReport where
  date := w.date
  commercialLong := w.commercial.long
  commercialShort := w.commercial.short
  netCommercial := w.commercial.net
  nonCommercialLong := w.nonCommercial.long
  nonCommercialShort := w.nonCommercial.short
  netNonCommercial := w.nonCommercial.net
  nonReportableLong := w.nonReportable.long
  nonReportableShort := w.nonReportable.short
  netNonReportable := w.nonReportable.net
  netNonCommercialChange := w.previous.map fun p ↦ .diff w.nonCommercial.net p.nonCommercial.net
  netCommercialChange := w.previous.map fun p ↦ .diff w.commercial.net p.commercial.net

/-- **A report is there exactly when every subtraction is possible**, and has all differences. -/
theorem report_eq_ok_iff {w : CotWeeks} {r : CotReport} :
    w.report = .ok r ↔ w.Reported ∧ r = w.differences := by
  rcases w with ⟨date, commercial, nonCommercial, nonReportable, - | p⟩
  · simp only [report, bind_eq_ok_iff, Positions.subtract_eq_ok_iff]
    constructor
    · rintro ⟨_, ⟨hc, rfl⟩, _, ⟨hn, rfl⟩, _, ⟨hr, rfl⟩, _, h, hreport⟩
      cases h
      cases hreport
      exact ⟨⟨hc, hn, hr, by simp⟩, rfl⟩
    · rintro ⟨h, rfl⟩
      exact ⟨_, ⟨h.commercial, rfl⟩, _, ⟨h.nonCommercial, rfl⟩, _, ⟨h.nonReportable, rfl⟩, _, rfl,
        rfl⟩
  · simp only [report, bind_eq_ok_iff, Positions.subtract_eq_ok_iff, PyNumber.sub_eq_ok_iff]
    constructor
    · rintro ⟨_, ⟨hc, rfl⟩, _, ⟨hn, rfl⟩, _, ⟨hr, rfl⟩, _, ⟨hpn, rfl⟩, _, ⟨hcn, rfl⟩, _, ⟨hpc, rfl⟩,
        _, ⟨hcc, rfl⟩, _, h, hreport⟩
      cases h
      cases hreport
      refine ⟨⟨hc, hn, hr, fun q hq ↦ ?_⟩, rfl⟩
      obtain rfl := Option.some.inj hq
      exact ⟨⟨hpn, hcn⟩, hpc, hcc⟩
    · rintro ⟨h, rfl⟩
      obtain ⟨⟨hpn, hcn⟩, hpc, hcc⟩ := h.previous p rfl
      exact ⟨_, ⟨h.commercial, rfl⟩, _, ⟨h.nonCommercial, rfl⟩, _, ⟨h.nonReportable, rfl⟩, _,
        ⟨hpn, rfl⟩, _, ⟨hcn, rfl⟩, _, ⟨hpc, rfl⟩, _, ⟨hcc, rfl⟩, _, rfl, rfl⟩

end CotWeeks

/-- The weeks that are read from a response, if they can be read. -/
def cotWeeks (response : Except PyException (Json ℚ)) : Option CotWeeks :=
  match response with
  | .error _ => none
  | .ok data =>
    match readWeeks data with
    | .ok weeks => weeks
    | .error _ => none

/-- The report is that of the weeks of the response. -/
theorem fetchCotReport_eq_some_iff {get : String → Except PyException (Json ℚ)} {symbol : String}
    {r : CotReport} : fetchCotReport get symbol = some r ↔
      ∃ w, cotWeeks (get (cotPath symbol)) = some w ∧ w.Reported ∧ r = w.differences := by
  unfold fetchCotReport cotWeeks
  rcases get (cotPath symbol) with e | data
  · exact iff_of_false (by simp) (by simp)
  dsimp only
  rcases readWeeks data with e | - | w
  · exact iff_of_false (by simp) (by simp)
  · exact iff_of_false (by simp) (by simp)
  · simp only [Option.some.injEq, exists_eq_left', ← CotWeeks.report_eq_ok_iff]
    rcases w.report with e | r'
    · exact iff_of_false (by simp [Except.toOption]) (by simp)
    · simp [Except.toOption]

end InvestmentAssistant
