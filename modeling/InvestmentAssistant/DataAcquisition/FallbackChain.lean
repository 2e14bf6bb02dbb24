import Mathlib.Data.String.Basic
import InvestmentAssistant.DataAcquisition.MultiTimeframe
import InvestmentAssistant.Foundation.StableSort

/-!
# The provider fallback chain

`FallbackChainManager` sorts its providers by priority and asks them one after the other, until one
has candles. The documented order is `PRIMARY`, `SECONDARY`, `TERTIARY`, `FALLBACK`; the sort
compares the *values* of the enumeration, which are strings.

The order of the strings puts `FALLBACK` first (`chain_eq`). So a fetch follows the documented order
exactly when its providers do not mix `FALLBACK` with another priority
(`followsFallbackOrder_iff`).
-/

namespace InvestmentAssistant

open StableSort

/-- `DataProviderPriority`. -/
inductive DataProviderPriority
  | primary
  | secondary
  | tertiary
  | fallback
  deriving DecidableEq, Repr

/-- The value of a priority. -/
def DataProviderPriority.value : DataProviderPriority → String
  | .primary => "primary"
  | .secondary => "secondary"
  | .tertiary => "tertiary"
  | .fallback => "fallback"

/-- Different priorities have different values. -/
theorem DataProviderPriority.value_inj {a b : DataProviderPriority} :
    a.value = b.value ↔ a = b := by
  cases a <;> cases b <;> decide

/-- `TimeframeLike`. -/
inductive TimeframeLike
  | ofTimeframe (timeframe : Timeframe)
  | ofDataTimeframe (timeframe : DataTimeframe)

/-- `normalize_data_timeframe`. -/
def normalizeDataTimeframe : TimeframeLike → DataTimeframe
  | .ofDataTimeframe timeframe => timeframe
  | .ofTimeframe timeframe => .fromPublic timeframe

/-- The value of a data time frame. -/
def DataTimeframe.value : DataTimeframe → String
  | .m15 => "M15"
  | .h1 => "H1"
  | .h4 => "H4"
  | .d1 => "D1"
  | .w1 => "W1"

/-- A market data provider. An exception stands for its text, which is all the chain uses. -/
structure DataProvider where
  name : String
  priority : DataProviderPriority
  fetchOhlcv : String → DataTimeframe → String → Except String (List OHLCVData)

/-- `DataProviderError`. -/
structure DataProviderError where
  message : String
  deriving DecidableEq, Repr

/-- What one fetch did: the providers it called, in order, and how it ended. -/
structure ChainFetch where
  called : List DataProvider
  result : Except DataProviderError (List OHLCVData)

namespace FallbackChainManager

/-- The chain `__init__` builds: the providers sorted by the value of their priority. -/
def chain (providers : List DataProvider) : List DataProvider :=
  providers.insertionSort fun p q ↦ p.priority.value ≤ q.priority.value

variable (symbol : String) (dataTimeframe : DataTimeframe) (period : String)

/-- The message of a fetch in which every provider failed. -/
def allFailed (errors : List String) : DataProviderError where
  message := s!"All providers failed for {symbol}/{dataTimeframe.value}/{period}: " ++
    "; ".intercalate errors

/-- The loop of `fetch_ohlcv`, with the errors so far. -/
def tryProviders : List DataProvider → List String → ChainFetch
  | [], errors => ⟨[], .error (allFailed symbol dataTimeframe period errors)⟩
  | provider :: rest, errors =>
    let next (error : String) : ChainFetch :=
      let later := tryProviders rest (errors ++ [s!"{provider.name}: {error}"])
      ⟨provider :: later.called, later.result⟩
    match provider.fetchOhlcv symbol dataTimeframe period with
    | .ok [] => next "empty response"
    | .ok (candle :: candles) => ⟨[provider], .ok (candle :: candles)⟩
    | .error exc => next exc

/-- `fetch_ohlcv`. -/
def fetchOhlcv (providers : List DataProvider) (timeframe : TimeframeLike) : ChainFetch :=
  tryProviders symbol (normalizeDataTimeframe timeframe) period (chain providers) []

/-! ### The loop -/

/-- The provider has candles for this request. -/
def Succeeds (provider : DataProvider) : Prop :=
  ∃ candle candles, provider.fetchOhlcv symbol dataTimeframe period = .ok (candle :: candles)

/-- What it is to ask the providers of a list in turn, up to the first that succeeds. -/
structure TriesInOrder (order : List DataProvider) (fetch : ChainFetch) : Prop where
  /-- The providers are called in this order. -/
  called_prefix : fetch.called <+: order
  /-- No provider is called after one that succeeded. -/
  stops : ∀ p ∈ fetch.called.dropLast, ¬ Succeeds symbol dataTimeframe period p
  /-- The result is the one of the first provider that succeeds. -/
  returns : ∀ data, fetch.result = .ok data → data ≠ [] ∧ ∃ before p after,
    order = before ++ p :: after ∧ p.fetchOhlcv symbol dataTimeframe period = .ok data ∧
      ∀ q ∈ before, ¬ Succeeds symbol dataTimeframe period q
  /-- The fetch raises exactly when no provider succeeds. -/
  raises : (∃ e, fetch.result = .error e) ↔ ∀ p ∈ order, ¬ Succeeds symbol dataTimeframe period p

variable {symbol dataTimeframe period}

/-- One provider without candles in front of the others. -/
theorem TriesInOrder.cons {order : List DataProvider} {fetch : ChainFetch} {p : DataProvider}
    (hp : ¬ Succeeds symbol dataTimeframe period p)
    (h : TriesInOrder symbol dataTimeframe period order fetch) :
    TriesInOrder symbol dataTimeframe period (p :: order) ⟨p :: fetch.called, fetch.result⟩ where
  called_prefix := List.cons_prefix_cons.2 ⟨rfl, h.called_prefix⟩
  stops q hq := by
    rcases hcalled : fetch.called with - | ⟨c, cs⟩
    · rw [hcalled] at hq
      exact absurd hq List.not_mem_nil
    · rw [hcalled, List.dropLast_cons_cons, ← hcalled] at hq
      obtain rfl | hq := List.mem_cons.1 hq
      · exact hp
      · exact h.stops q hq
  returns data hdata := by
    obtain ⟨hne, before, q, after, rfl, hq, hbefore⟩ := h.returns data hdata
    exact ⟨hne, p :: before, q, after, rfl, hq, List.forall_mem_cons.2 ⟨hp, hbefore⟩⟩
  raises := by
    rw [List.forall_mem_cons, ← h.raises]
    exact (and_iff_right hp).symm

/-- A provider with candles ends the loop. -/
theorem triesInOrder_of_succeeds {p : DataProvider} {candle : OHLCVData} {candles : List OHLCVData}
    (hp : p.fetchOhlcv symbol dataTimeframe period = .ok (candle :: candles))
    (rest : List DataProvider) :
    TriesInOrder symbol dataTimeframe period (p :: rest) ⟨[p], .ok (candle :: candles)⟩ where
  called_prefix := List.prefix_append [p] rest
  stops q hq := absurd hq List.not_mem_nil
  returns data hdata := by
    obtain rfl := Except.ok.inj hdata
    exact ⟨List.cons_ne_nil _ _, [], p, rest, rfl, hp, fun q hq ↦ absurd hq List.not_mem_nil⟩
  raises :=
    ⟨fun ⟨_, he⟩ ↦ (nomatch he), fun h ↦ absurd ⟨candle, candles, hp⟩ (h p (List.mem_cons_self ..))⟩

/-- The loop tries its providers in order. -/
theorem triesInOrder_tryProviders (providers : List DataProvider) (errors : List String) :
    TriesInOrder symbol dataTimeframe period providers
      (tryProviders symbol dataTimeframe period providers errors) := by
  induction providers generalizing errors with
  | nil =>
    refine ⟨List.prefix_rfl, fun p hp ↦ absurd hp List.not_mem_nil, fun data h ↦ (nomatch h), ?_⟩
    exact ⟨fun _ p hp ↦ absurd hp List.not_mem_nil, fun _ ↦ ⟨_, rfl⟩⟩
  | cons p rest ih =>
    rw [tryProviders]
    rcases hp : p.fetchOhlcv symbol dataTimeframe period with exc | (- | ⟨candle, candles⟩)
    · refine (ih _).cons ?_
      rintro ⟨candle, candles, h⟩
      rw [hp] at h
      exact nomatch h
    · refine (ih _).cons ?_
      rintro ⟨candle, candles, h⟩
      rw [hp] at h
      exact nomatch h
    · exact triesInOrder_of_succeeds hp rest

/-- The first provider of the list is called. -/
theorem head?_called_tryProviders (providers : List DataProvider) (errors : List String) :
    (tryProviders symbol dataTimeframe period providers errors).called.head? =
      providers.head? := by
  rcases providers with - | ⟨p, rest⟩
  · rfl
  · rw [tryProviders]
    split <;> rfl

/-! ### The order -/

/-- The documented order of the priorities. -/
def fallbackOrder : List DataProviderPriority :=
  [.primary, .secondary, .tertiary, .fallback]

/-- The providers in the documented order, those of one priority in the order they were given. -/
def documentedOrder (providers : List DataProvider) : List DataProvider :=
  classes DataProvider.priority fallbackOrder providers

/-- A fetch follows the documented order. -/
def FollowsFallbackOrder (providers : List DataProvider) (symbol : String)
    (timeframe : TimeframeLike)
    (period : String) : Prop :=
  TriesInOrder symbol (normalizeDataTimeframe timeframe) period (documentedOrder providers)
    (fetchOhlcv symbol period providers timeframe)

/-- **The sort compares strings**, so `FALLBACK` comes first. -/
theorem chain_eq (providers : List DataProvider) :
    chain providers = classes DataProvider.priority [.fallback, .primary, .secondary, .tertiary]
      providers := by
  have hmem : ∀ p ∈ providers,
      p.priority.value ∈ ["fallback", "primary", "secondary", "tertiary"] := by
    rintro p -
    rcases p.priority <;> decide
  have hclass (c : DataProviderPriority) : keyClass (fun p : DataProvider ↦ p.priority.value)
      providers c.value = keyClass DataProvider.priority providers c :=
    List.filter_congr fun p _ ↦ decide_eq_decide.2 DataProviderPriority.value_inj
  rw [chain, insertionSort_eq_classes (by decide) hmem]
  simp only [classes_cons, classes_nil, ← hclass, DataProviderPriority.value]

/-- The chain is in the documented order when `FALLBACK` is not mixed with other priorities. -/
theorem chain_eq_documentedOrder {providers : List DataProvider}
    (h : (∀ p ∈ providers, p.priority ≠ .fallback) ∨ ∀ p ∈ providers, p.priority = .fallback) :
    chain providers = documentedOrder providers := by
  have hnil {c : DataProviderPriority} (hc : ∀ p ∈ providers, p.priority ≠ c) :
      keyClass DataProvider.priority providers c = [] :=
    List.filter_eq_nil_iff.2 fun p hp ↦ by simpa using hc p hp
  simp only [chain_eq, documentedOrder, fallbackOrder, classes_cons, classes_nil]
  obtain hnone | hall := h
  · simp only [hnil hnone, List.nil_append]
  · have hother {c : DataProviderPriority} (hc : c ≠ .fallback) :
        keyClass DataProvider.priority providers c = [] :=
      hnil fun p hp heq ↦ hc (heq.symm.trans (hall p hp))
    rw [hother (c := .primary) (by decide), hother (c := .secondary) (by decide),
      hother (c := .tertiary) (by decide)]
    rfl

/-- The first provider called has priority `FALLBACK` when there is one with it. -/
theorem head_called_fallback {providers : List DataProvider} {timeframe : TimeframeLike}
    {p : DataProvider} (hp : p ∈ providers) (hpri : p.priority = .fallback) :
    ∃ q, (fetchOhlcv symbol period providers timeframe).called.head? = some q ∧
      q.priority = .fallback := by
  have hmem : p ∈ keyClass DataProvider.priority providers .fallback := mem_keyClass.2 ⟨hp, hpri⟩
  obtain ⟨q, qs, hq⟩ := List.exists_cons_of_ne_nil (List.ne_nil_of_mem hmem)
  refine ⟨q, ?_, ?_⟩
  · rw [fetchOhlcv, head?_called_tryProviders, chain_eq, classes_cons, hq]
    rfl
  · exact (mem_keyClass.1 (hq ▸ List.mem_cons_self ..)).2

/-- The first provider of the documented order has another priority when there is one. -/
theorem head_documentedOrder {providers : List DataProvider} {p : DataProvider}
    (hp : p ∈ providers) (hpri : p.priority ≠ .fallback) :
    ∃ q, (documentedOrder providers).head? = some q ∧ q.priority ≠ .fallback := by
  have hsplit : documentedOrder providers =
      classes DataProvider.priority [.primary, .secondary, .tertiary] providers ++
        classes DataProvider.priority [.fallback] providers := by
    rw [documentedOrder, ← classes_append]
    rfl
  have hmem : p ∈ classes DataProvider.priority [.primary, .secondary, .tertiary] providers := by
    refine mem_classes.2 ⟨hp, ?_⟩
    revert hpri
    rcases p.priority <;> decide
  obtain ⟨q, qs, hq⟩ := List.exists_cons_of_ne_nil (List.ne_nil_of_mem hmem)
  have hqmem := (mem_classes.1 (hq ▸ List.mem_cons_self ..)).2
  refine ⟨q, ?_, ?_⟩
  · rw [hsplit, hq]
    rfl
  · intro hfallback
    rw [hfallback] at hqmem
    exact absurd hqmem (by decide)

/-- **The documented order is followed exactly when `FALLBACK` stands alone.** For every list of
providers, whatever each of them answers to the request, the fetch asks them in the documented order
if and only if none of them has the priority `FALLBACK`, or all of them have it. -/
theorem followsFallbackOrder_iff (providers : List DataProvider) (symbol : String)
    (timeframe : TimeframeLike) (period : String) :
    FollowsFallbackOrder providers symbol timeframe period ↔
      (∀ p ∈ providers, p.priority ≠ .fallback) ∨ ∀ p ∈ providers, p.priority = .fallback := by
  constructor
  · intro h
    by_contra hmixed
    push Not at hmixed
    obtain ⟨⟨p, hp, hpri⟩, ⟨q, hq, hqri⟩⟩ := hmixed
    -- the first call goes to a provider of priority `FALLBACK`, the documented one does not
    obtain ⟨a, ha, hfallback⟩ :
        ∃ q, (fetchOhlcv symbol period providers timeframe).called.head? = some q ∧
          q.priority = .fallback := head_called_fallback hp hpri
    obtain ⟨b, hb, hother⟩ := head_documentedOrder hq hqri
    obtain ⟨rest, hrest⟩ := h.called_prefix
    rw [← hrest, List.head?_append, ha] at hb
    obtain rfl := Option.some.inj hb
    exact hother hfallback
  · intro h
    rw [FollowsFallbackOrder, ← chain_eq_documentedOrder h]
    exact triesInOrder_tryProviders _ _

/-! ### A fallback provider beside a primary one -/

/-- A provider that answers every request with one candle. -/
def answering (name : String) (priority : DataProviderPriority) : DataProvider where
  name := name
  priority := priority
  fetchOhlcv _ _ _ := .ok
    [{ timestamp := ⟨0, none⟩, open_ := 1, high := 2, low := 1, close := 2 }]

/-- The fallback provider answers, and the primary one is never asked. -/
theorem fallback_is_tried_first :
    (fetchOhlcv "EURUSD" "30d" [answering "main" .primary, answering "backup" .fallback]
        (.ofTimeframe .h1)).called.map DataProvider.name = ["backup"] ∧
      ¬ FollowsFallbackOrder [answering "main" .primary, answering "backup" .fallback] "EURUSD"
        (.ofTimeframe .h1) "30d" := by
  refine ⟨by decide, fun h ↦ ?_⟩
  obtain ⟨rest, hrest⟩ := h.called_prefix
  have hnames : ("backup" :: rest.map DataProvider.name) = ["main", "backup"] :=
    congrArg (List.map DataProvider.name) hrest
  exact absurd (List.cons.inj hnames).1 (by decide)

end FallbackChainManager

end InvestmentAssistant
