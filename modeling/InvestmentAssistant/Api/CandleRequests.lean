import InvestmentAssistant.Api.Validators
import InvestmentAssistant.DataAcquisition.FallbackChain

/-!
# Requests for the candles of a symbol

The endpoints for patterns and for technical analysis begin alike: they check the symbol and the
period, fetch the candles through the provider chain, and answer over them. A request is refused for
its symbol, for its period, or because every provider failed (`RefusesCandles`); the chain returns
no empty list, so none is refused for a lack of candles.
-/

namespace InvestmentAssistant

/-- What an endpoint asks the provider chain for. -/
structure CandleRequest where
  symbol : String
  timeframe : Timeframe
  period : String

/-- The candles of a request, from the providers of the chain. -/
def CandleRequest.fetch (request : CandleRequest) (chain : List DataProvider) : ChainFetch :=
  FallbackChainManager.fetchOhlcv request.symbol request.period chain
    (.ofTimeframe request.timeframe)

/-- An endpoint that answers over the candles of a request. -/
def withCandles {α : Type} (request : CandleRequest) (chain : List DataProvider)
    (answer : List OHLCVData → Except PyException α) : Except PyException α := do
  validateSymbol request.symbol
  validatePeriod request.period
  match (request.fetch chain).result with
  | .error _ => throw (.httpException 502 "Unable to fetch market data from any provider")
  | .ok ohlcv =>
    if ohlcv = [] then throw (.httpException 404 "No data returned for the given symbol")
    else answer ohlcv

/-- A request is refused with an exception. -/
def RefusesCandles (request : CandleRequest) (chain : List DataProvider) (e : PyException) : Prop :=
  ¬ SymbolValid request.symbol ∧ e = .httpException 400 "Invalid symbol format" ∨
    SymbolValid request.symbol ∧ ¬ PeriodValid request.period ∧
      e = .httpException 400 "Invalid period format (e.g. 30d, 6m, 1y)" ∨
    SymbolValid request.symbol ∧ PeriodValid request.period ∧
      (∃ failure, (request.fetch chain).result = .error failure) ∧
      e = .httpException 502 "Unable to fetch market data from any provider"

/-- A request gets candles. -/
structure GetsCandles (request : CandleRequest) (chain : List DataProvider)
    (ohlcv : List OHLCVData) : Prop where
  symbol : SymbolValid request.symbol
  period : PeriodValid request.period
  fetched : (request.fetch chain).result = .ok ohlcv

section Cases

variable {α : Type} {request : CandleRequest} {chain : List DataProvider}
  {answer : List OHLCVData → Except PyException α} {ohlcv : List OHLCVData} {e : PyException}

theorem GetsCandles.ne_nil (h : GetsCandles request chain ohlcv) : ohlcv ≠ [] :=
  ((FallbackChainManager.triesInOrder_tryProviders _ _).returns ohlcv h.fetched).1

theorem withCandles_of_getsCandles (h : GetsCandles request chain ohlcv) :
    withCandles request chain answer = answer ohlcv := by
  rw [withCandles, validateSymbol, if_pos h.symbol, validatePeriod, if_pos h.period, h.fetched]
  exact if_neg h.ne_nil

theorem withCandles_of_refuses (h : RefusesCandles request chain e) :
    withCandles request chain answer = .error e := by
  rcases h with ⟨hsymbol, rfl⟩ | ⟨hsymbol, hperiod, rfl⟩ |
    ⟨hsymbol, hperiod, ⟨failure, hfetch⟩, rfl⟩
  · rw [withCandles, validateSymbol, if_neg hsymbol]
    rfl
  · rw [withCandles, validateSymbol, if_pos hsymbol, validatePeriod, if_neg hperiod]
    rfl
  · rw [withCandles, validateSymbol, if_pos hsymbol, validatePeriod, if_pos hperiod, hfetch]
    rfl

/-- A request is refused or gets candles. -/
theorem refuses_or_getsCandles (request : CandleRequest) (chain : List DataProvider) :
    (∃ e, RefusesCandles request chain e) ∨ ∃ ohlcv, GetsCandles request chain ohlcv := by
  by_cases hsymbol : SymbolValid request.symbol
  · by_cases hperiod : PeriodValid request.period
    · rcases hfetch : (request.fetch chain).result with failure | ohlcv
      · exact .inl ⟨_, .inr (.inr ⟨hsymbol, hperiod, ⟨failure, hfetch⟩, rfl⟩)⟩
      · exact .inr ⟨ohlcv, hsymbol, hperiod, hfetch⟩
    · exact .inl ⟨_, .inr (.inl ⟨hsymbol, hperiod, rfl⟩)⟩
  · exact .inl ⟨_, .inl ⟨hsymbol, rfl⟩⟩

/-- **A request ends in an exception** when it is refused, or when the answer raises. -/
theorem withCandles_eq_error_iff : withCandles request chain answer = .error e ↔
    RefusesCandles request chain e ∨
      ∃ ohlcv, GetsCandles request chain ohlcv ∧ answer ohlcv = .error e := by
  constructor
  · intro h
    rcases refuses_or_getsCandles request chain with ⟨e', hrefuses⟩ | ⟨ohlcv, hgets⟩
    · rw [withCandles_of_refuses hrefuses] at h
      exact .inl (Except.error.inj h ▸ hrefuses)
    · exact .inr ⟨ohlcv, hgets, (withCandles_of_getsCandles hgets).symm.trans h⟩
  · rintro (hrefuses | ⟨ohlcv, hgets, h⟩)
    · exact withCandles_of_refuses hrefuses
    · exact (withCandles_of_getsCandles hgets).trans h

/-- **A request is answered** when it gets candles and the answer returns. -/
theorem withCandles_eq_ok_iff {a : α} : withCandles request chain answer = .ok a ↔
    ∃ ohlcv, GetsCandles request chain ohlcv ∧ answer ohlcv = .ok a := by
  constructor
  · intro h
    rcases refuses_or_getsCandles request chain with ⟨e', hrefuses⟩ | ⟨ohlcv, hgets⟩
    · rw [withCandles_of_refuses hrefuses] at h
      cases h
    · exact ⟨ohlcv, hgets, (withCandles_of_getsCandles hgets).symm.trans h⟩
  · rintro ⟨ohlcv, hgets, h⟩
    exact (withCandles_of_getsCandles hgets).trans h

end Cases

end InvestmentAssistant
