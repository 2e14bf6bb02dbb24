import InvestmentAssistant.DataAcquisition.FallbackChain
import InvestmentAssistant.FundamentalAnalysis.JsonValues

/-!
# Candles from records

Twelve Data and FMP answer with a list of records, the newest first. Both providers read a candle
from each record and turn the list round. Twelve Data's wants every record to be readable, and FMP's
passes over a record whose date cannot be read.

Whatever a payload is made of, a provider that has candles of it has read them from a list, one for
each record that is not passed over (`exists_items_of_candlesOf`). So a list that begins with the
newest record gives candles in the order of time (`chronological_candlesOf`).
-/

namespace InvestmentAssistant

open CollectLoop

/-- The runtime of the providers: `datetime.fromisoformat` gives the reading of a text, and none is
its `ValueError`. -/
structure ProviderRuntime extends PyRuntime ℚ where
  fromisoformat : String → Option ℤ

/-! ### Looking into a payload -/

namespace Json

variable {F : Type}

/-- `type(value).__name__`. -/
def typeName : Json F → String
  | .null => "NoneType"
  | .bool _ => "bool"
  | .int _ => "int"
  | .float _ => "float"
  | .str _ => "str"
  | .list _ => "list"
  | .dict _ => "dict"

/-- `value[key]`. -/
def subscript (key : String) : Json F → Except PyException (Json F)
  | .dict members =>
    match members.lookup key with
    | some member => .ok member
    | none => .error (.other s!"KeyError: '{key}'")
  | .str _ => .error (.typeError "string indices must be integers, not 'str'")
  | .list _ => .error (.typeError "list indices must be integers or slices, not str")
  | value => .error (.typeError s!"'{value.typeName}' object is not subscriptable")

/-- `value.get(key, default)`. -/
def getMember (value : Json F) (key : String) (default : Json F) : Except PyException (Json F) :=
  match value with
  | .dict members => .ok ((members.lookup key).getD default)
  | _ => .error attributeError

/-- `value == text`. -/
def equalsText (text : String) : Json F → Bool
  | .str s => s == text
  | _ => false

/-- `key in value`. -/
def containsKey (key : String) : Json F → Except PyException Bool
  | .dict members => .ok (members.lookup key).isSome
  | .list items => .ok (items.any (equalsText key))
  | .str s => .ok (decide (key.toList <:+: s.toList))
  | value => .error (.typeError s!"argument of type '{value.typeName}' is not iterable")

/-- What `for item in value` goes through. -/
def elements : Json F → Except PyException (List (Json F))
  | .list items => .ok items
  | .dict members => .ok (members.map fun member ↦ .str member.1)
  | .str s => .ok (s.toList.map fun c ↦ .str (String.singleton c))
  | value => .error (.typeError s!"'{value.typeName}' object is not iterable")

/-- `float(value)`. -/
def toFloat (ops : FloatOps F) : Json F → Except PyException F
  | .float x => .ok x
  | .int n => if FloatOverflow n then .error overflowError else .ok (ops.ofInt n)
  | .bool b => .ok (ops.ofInt (if b then 1 else 0))
  | .str s =>
    match ops.ofText s with
    | some x => .ok x
    | none => .error (.valueError s!"could not convert string to float: '{s}'")
  | value => .error (.typeError
      s!"float() argument must be a string or a real number, not '{value.typeName}'")

/-- `value == n`. -/
def equalsInt (n : ℤ) : Json ℚ → Bool
  | .int m => m == n
  | .float x => x == n
  | .bool b => (if b then 1 else 0) == n
  | _ => false

end Json

/-! ### Records -/

section Records

variable (runtime : ProviderRuntime)

/-- `datetime.fromisoformat(value).replace(tzinfo=UTC)`. -/
def isoTimestamp : Json ℚ → Except PyException DateTime
  | .str s =>
    match runtime.fromisoformat s with
    | some reading => .ok ⟨reading, some 0⟩
    | none => .error (.valueError s!"Invalid isoformat string: '{s}'")
  | _ => .error (.typeError "fromisoformat: argument must be str")

/-- `float(item[key])`. -/
def price (item : Json ℚ) (key : String) : Except PyException ℚ :=
  item.subscript key >>= Json.toFloat runtime.toFloatOps

/-- The candle of a record whose timestamp has been read. -/
def candleAtTimestamp (item : Json ℚ) (timestamp : DateTime) : Except PyException OHLCVData := do
  let open_ ← price runtime item "open"
  let high ← price runtime item "high"
  let low ← price runtime item "low"
  let close ← price runtime item "close"
  let volume ← item.getMember "volume" (.int 0) >>= Json.toFloat runtime.toFloatOps
  return { timestamp, open_, high, low, close, volume }

/-- The loop over the records, and `result.reverse()`. -/
def candlesOf (candle : Json ℚ → Except PyException (Option OHLCVData)) (items : Json ℚ) :
    Except PyException (List OHLCVData) := do
  let result ← collect candle (fun result c ↦ result ++ [c]) [] (← items.elements)
  return result.reverse

namespace TwelveDataProvider

/-- The reading of a record. -/
def itemTimestamp (item : Json ℚ) : Except PyException DateTime :=
  item.subscript "datetime" >>= isoTimestamp runtime

/-- The body of the loop. -/
def itemCandle (item : Json ℚ) : Except PyException (Option OHLCVData) :=
  some <$> (itemTimestamp runtime item >>= candleAtTimestamp runtime item)

/-- The check of `data["code"]`. -/
def raiseForCode (data : Json ℚ) : Except PyException Unit := do
  if ← data.containsKey "code" then
    let code ← data.subscript "code"
    if code.equalsInt 200 then return ()
    else
      let msg ← data.getMember "message" (.str "Unknown error")
      throw (.runtimeError s!"Twelve Data error: {msg.text runtime.toPyRuntime}")
  else return ()

/-- What `fetch_ohlcv` makes of the payload. -/
def parseResponse (data : Json ℚ) : Except PyException (List OHLCVData) := do
  raiseForCode runtime data
  let values ← data.getMember "values" (.list [])
  if values.truthy runtime.toPyRuntime then candlesOf (itemCandle runtime) values else return []

end TwelveDataProvider

namespace FMPProvider

/-- The reading of a record. -/
def itemTimestamp (item : Json ℚ) : Except PyException DateTime :=
  item.getMember "date" (.str "") >>= isoTimestamp runtime

/-- The body of the loop: a date that cannot be read is passed over, one that is no text is not. -/
def itemCandle (item : Json ℚ) : Except PyException (Option OHLCVData) :=
  match itemTimestamp runtime item with
  | .ok ts => some <$> candleAtTimestamp runtime item ts
  | .error e => if e.isValueError then .ok none else .error e

/-- The `items` of `_parse_response`. -/
def responseItems (data : Json ℚ) (timeframe : DataTimeframe) : Json ℚ :=
  if timeframe = .d1 then
    match data with
    | .dict members => (members.lookup "historical").getD (.list [])
    | _ => .list []
  else
    match data with
    | .list items => .list items
    | _ => .list []

/-- `_parse_response`. -/
def parseResponse (data : Json ℚ) (timeframe : DataTimeframe) :
    Except PyException (List OHLCVData) :=
  let items := responseItems data timeframe
  if items.truthy runtime.toPyRuntime then candlesOf (itemCandle runtime) items else .ok []

end FMPProvider

end Records

/-! ### Order -/

/-- The candles are in the order of time, one at each instant. -/
def Chronological (candles : List OHLCVData) : Prop :=
  candles.Pairwise fun a b ↦ a.timestamp.instant < b.timestamp.instant

/-- The newest record comes first: where two records can be read, the earlier is the later one. -/
def NewestFirst (timestamp : Json ℚ → Except PyException DateTime) (items : List (Json ℚ)) : Prop :=
  items.Pairwise fun a b ↦ ∀ s t, timestamp a = .ok s → timestamp b = .ok t → t.instant < s.instant

/-- The candle of a record is read behind its timestamp, and no text is a record. -/
structure ReadsRecords (timestamp : Json ℚ → Except PyException DateTime)
    (candle : Json ℚ → Except PyException (Option OHLCVData)) : Prop where
  timestamp_eq : ∀ item c, candle item = .ok (some c) → timestamp item = .ok c.timestamp
  not_text : ∀ s, ¬ Returns (candle (.str s))

section Order

variable {runtime : ProviderRuntime} {timestamp : Json ℚ → Except PyException DateTime}
  {candle : Json ℚ → Except PyException (Option OHLCVData)} {items : Json ℚ}
  {candles : List OHLCVData}

theorem timestamp_candleAtTimestamp {item : Json ℚ} {ts : DateTime} {c : OHLCVData}
    (h : candleAtTimestamp runtime item ts = .ok c) : c.timestamp = ts := by
  obtain ⟨open_, -, h⟩ := bind_eq_ok_iff.1 h
  obtain ⟨high, -, h⟩ := bind_eq_ok_iff.1 h
  obtain ⟨low, -, h⟩ := bind_eq_ok_iff.1 h
  obtain ⟨close, -, h⟩ := bind_eq_ok_iff.1 h
  obtain ⟨volume, -, h⟩ := bind_eq_ok_iff.1 h
  rw [← Except.ok.inj h]

theorem TwelveDataProvider.readsRecords :
    ReadsRecords (itemTimestamp runtime) (itemCandle runtime) where
  timestamp_eq item c h := by
    obtain ⟨c', hc', hc⟩ := exists_of_map_eq_ok h
    obtain ⟨ts, hts, hc'⟩ := bind_eq_ok_iff.1 hc'
    rw [← Option.some.inj hc, timestamp_candleAtTimestamp hc']
    exact hts
  not_text s := not_returns_error _

theorem FMPProvider.readsRecords :
    ReadsRecords (itemTimestamp runtime) (itemCandle runtime) where
  timestamp_eq item c h := by
    rw [itemCandle] at h
    split at h
    · next ts hts =>
      obtain ⟨c', hc', hc⟩ := exists_of_map_eq_ok h
      rw [← Option.some.inj hc, timestamp_candleAtTimestamp hc']
      exact hts
    · split at h <;> exact nomatch h
  not_text s := not_returns_error _

/-- The loop of records keeps what they yield, in order. -/
theorem foldl_append_singleton {α : Type} (as result : List α) :
    as.foldl (fun result a ↦ result ++ [a]) result = result ++ as := by
  rw [List.foldl_append_eq_append, ← List.flatMap_def, List.flatMap_singleton']

theorem candlesOf_list_eq_ok_iff {records : List (Json ℚ)} :
    candlesOf candle (.list records) = .ok candles ↔
      (∀ item ∈ records, Returns (candle item)) ∧
        candles = (records.filterMap (yields candle)).reverse := by
  show (collect candle (fun result c ↦ result ++ [c]) [] records).map List.reverse = _ ↔ _
  constructor
  · intro h
    obtain ⟨result, hresult, rfl⟩ := exists_of_map_eq_ok h
    have hall := returns_collect_iff.1 ⟨result, hresult⟩
    rw [collect_eq_ok hall, foldl_append_singleton] at hresult
    exact ⟨hall, by rw [← Except.ok.inj hresult, List.nil_append]⟩
  · rintro ⟨hall, rfl⟩
    rw [collect_eq_ok hall, foldl_append_singleton]
    rfl

/-- **Candles come from a list of records**, one for each record that is not passed over. -/
theorem exists_items_of_candlesOf (hreads : ReadsRecords timestamp candle)
    (h : candlesOf candle items = .ok candles) (hne : candles ≠ []) :
    ∃ records, items = .list records ∧ (∀ item ∈ records, Returns (candle item)) ∧
      candles = (records.filterMap (yields candle)).reverse := by
  -- the elements of anything but a list are texts, and the loop raises at the first of them
  have htexts {texts : List String} (hcollect : ∃ result,
      collect candle (fun result c ↦ result ++ [c]) [] (texts.map Json.str) = .ok result ∧
        result.reverse = candles) : False := by
    obtain ⟨result, hresult, rfl⟩ := hcollect
    rcases texts with - | ⟨s, texts⟩
    · exact hne (by rw [← Except.ok.inj hresult, List.reverse_nil])
    · exact hreads.not_text s (returns_collect_iff.1 ⟨result, hresult⟩ _ (List.mem_cons_self ..))
  have hmap {elements : List (Json ℚ)} (hitems : items.elements = .ok elements) :
      ∃ result, collect candle (fun result c ↦ result ++ [c]) [] elements = .ok result ∧
        result.reverse = candles := by
    rw [candlesOf, hitems] at h
    exact exists_of_map_eq_ok h
  cases items with
  | list records => exact ⟨records, rfl, candlesOf_list_eq_ok_iff.1 h⟩
  | dict members =>
    refine absurd (hmap rfl) fun hcollect ↦ @htexts (members.map Prod.fst) ?_
    rw [List.map_map]
    exact hcollect
  | str s =>
    refine absurd (hmap rfl) fun hcollect ↦ @htexts (s.toList.map String.singleton) ?_
    rw [List.map_map]
    exact hcollect
  | null => exact nomatch h
  | bool b => exact nomatch h
  | int n => exact nomatch h
  | float x => exact nomatch h

theorem chronological_nil : Chronological [] :=
  List.Pairwise.nil

/-- **A list that begins with its newest record gives candles in the order of time.** -/
theorem chronological_candlesOf (hreads : ReadsRecords timestamp candle)
    (hnewest : ∀ records, items = .list records → NewestFirst timestamp records)
    (h : candlesOf candle items = .ok candles) : Chronological candles := by
  by_cases hne : candles = []
  · rw [hne]
    exact chronological_nil
  obtain ⟨records, hitems, -, rfl⟩ := exists_items_of_candlesOf hreads h hne
  rw [Chronological, List.pairwise_reverse, List.pairwise_filterMap]
  refine (hnewest records hitems).imp fun hlt c hc c' hc' ↦ ?_
  have hyields {item : Json ℚ} {c : OHLCVData} (hc : yields candle item = some c) :
      timestamp item = .ok c.timestamp := by
    rw [yields] at hc
    split at hc
    · next hitem => exact hreads.timestamp_eq _ _ (hc ▸ hitem)
    · cases hc
  exact hlt _ _ (hyields hc) (hyields hc')

end Order

end InvestmentAssistant
