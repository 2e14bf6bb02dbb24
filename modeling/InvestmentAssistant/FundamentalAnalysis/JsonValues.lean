import InvestmentAssistant.Core.Errors
import InvestmentAssistant.Foundation.CollectLoop
import InvestmentAssistant.Foundation.IntText

/-!
# Decoded JSON values

A decoded payload is a value of the host language, and any member of it may have any type. What the
decoders do with one is to look a member up, to test its type and its truth, to print it and to
convert it to a number.

Floats are a parameter (`FloatOps`): the decoders are about which conversions and divisions raise,
not about rounding. An integer converts to a float unless it is too large for one (`FloatOverflow`).
-/

namespace InvestmentAssistant

open CollectLoop

/-- Floats: how a text is read as one, and what is computed with them. -/
structure FloatOps (F : Type) where
  /-- `float(text)`; `none` is the `ValueError`. -/
  ofText : String → Option F
  /-- `float(n)` of an integer in range. -/
  ofInt : ℤ → F
  /-- `math.isfinite`. -/
  isfinite : F → Bool
  /-- `math.isclose(value, 0.0, abs_tol=1e-12)`. -/
  iscloseToZero : F → Bool
  /-- `value == 0.0`. -/
  isZero : F → Bool
  sub : F → F → F
  mul : F → F → F
  /-- The quotient by a value that is not zero. -/
  div : F → F → F
  one : F
  hundred : F
  iscloseToZero_of_isZero : ∀ v, isZero v = true → iscloseToZero v = true

/-- A value of a decoded payload. -/
inductive Json (F : Type)
  | null
  | bool (b : Bool)
  | int (n : ℤ)
  | float (x : F)
  | str (s : String)
  | list (items : List (Json F))
  | dict (members : List (String × Json F))

/-- The runtime of the decoders: its floats, how it prints what is neither a text nor an integer nor
a truth value, and its JSON decoder. -/
structure PyRuntime (F : Type) extends FloatOps F where
  /-- `str` of a float, a list or a dictionary. -/
  repr : Json F → String
  /-- `httpx.Response(200, text=text).json()`. -/
  decodeJson : String → Except PyException (Json F)

/-- The integers that `float` refuses: they would be rounded to two to the power of 1024. -/
def FloatOverflow (n : ℤ) : Prop :=
  2 ^ 1024 - 2 ^ 970 ≤ |n|

instance (n : ℤ) : Decidable (FloatOverflow n) :=
  inferInstanceAs (Decidable (_ ≤ _))

/-- The `OverflowError` of `float`. -/
def overflowError : PyException :=
  .other "OverflowError: int too large to convert to float"

/-- The `AttributeError` of `.get` on what is no dictionary. -/
def attributeError : PyException :=
  .other "AttributeError: object has no attribute 'get'"

/-- `except ValueError`. -/
def PyException.isValueError : PyException → Bool
  | .valueError _ => true
  | _ => false

variable {F : Type} (runtime : PyRuntime F)

namespace Json

/-- `isinstance(value, dict)`, with the members. -/
def dict? : Json F → Option (List (String × Json F))
  | .dict members => some members
  | _ => none

/-- `isinstance(value, list)`, with the items. -/
def list? : Json F → Option (List (Json F))
  | .list items => some items
  | _ => none

/-- `bool(value)`. -/
def truthy : Json F → Bool
  | .null => false
  | .bool b => b
  | .int n => n != 0
  | .float x => !runtime.isZero x
  | .str s => s != ""
  | .list items => !items.isEmpty
  | .dict members => !members.isEmpty

/-- `str(value)`. A decoded integer has at most 4300 digits, so that it can be printed. -/
def text : Json F → String
  | .str s => s
  | .int n => toString n
  | .bool true => "True"
  | .bool false => "False"
  | .null => "None"
  | value => runtime.repr value

/-- `str(value or "")` of a member that may be missing. -/
def textOrEmpty (value : Option (Json F)) : String :=
  match value with
  | some value => if value.truthy runtime then value.text runtime else ""
  | none => ""

/-- `a or b` of members that may be missing. -/
def orElse (a b : Option (Json F)) : Option (Json F) :=
  match a with
  | some value => if value.truthy runtime then some value else b
  | none => b

/-- `float(value)` inside `except (TypeError, ValueError)`: the exceptions that are caught give
nothing. -/
def float? : Json F → Except PyException (Option F)
  | .float x => .ok (some x)
  | .int n => if FloatOverflow n then .error overflowError else .ok (some (runtime.ofInt n))
  | .bool b => .ok (some (runtime.ofInt (if b then 1 else 0)))
  | .str s => .ok (runtime.ofText s)
  | .null | .list _ | .dict _ => .ok none

/-- `float` raises something else on an integer out of range only. -/
theorem returns_float?_iff (value : Json F) :
    Returns (value.float? runtime) ↔ ∀ n, value = .int n → ¬ FloatOverflow n := by
  cases value with
  | int n =>
    rw [float?]
    split
    · next h => exact iff_of_false (not_returns_error _) fun hall ↦ hall n rfl h
    · next h => exact iff_of_true (returns_ok _) fun m hm ↦ Json.int.inj hm ▸ h
  | _ => exact iff_of_true (returns_ok _) fun _ h ↦ nomatch h

end Json

/-- A decoded payload that is an object; a `ValueError` of the decoder is caught. -/
def decodeObject (payload : String) : Except PyException (Option (List (String × Json F))) :=
  match runtime.decodeJson payload with
  | .ok decoded => .ok decoded.dict?
  | .error e => if e.isValueError then .ok none else .error e

end InvestmentAssistant
