import InvestmentAssistant.Api.ValidatorGrammar
import InvestmentAssistant.Core.InstrumentClassifier

/-!
# The tickers of the providers

Each provider has a table of the tickers under which it knows the application's symbols; a symbol
that is not in the table is sent as it is. When one provider fails, the next one is asked for the
same symbol under its own ticker.

Three instruments have more than one symbol, and all three tables know this (`instrumentOf`). So two
symbols have the same ticker exactly when they name the same instrument, unless one of them spells a
ticker that the table gives to another symbol (`tickerOf_eq_iff`, `exists_of_spellsTicker`).
Yahoo's tickers cannot be spelled by a symbol that the application accepts. Twelve Data knows crude
oil by the name of a share.
-/

namespace InvestmentAssistant

/-! ### The tables -/

namespace TwelveDataProvider

/-- `forex_pairs`. -/
def forexPairs : List String :=
  ["EURUSD", "GBPUSD", "USDJPY", "USDCHF", "AUDUSD", "USDCAD", "NZDUSD", "EURGBP", "EURJPY",
    "GBPJPY", "AUDCAD", "AUDCHF", "AUDJPY", "CADJPY", "CHFJPY", "EURCHF", "EURAUD", "EURCAD",
    "GBPCAD", "GBPCHF", "AUDNZD", "NZDJPY", "NZDCAD", "NZDCHF", "EURNZD", "GBPNZD", "AUDPLN",
    "CADPLN", "CHFPLN", "EURPLN", "GBPPLN", "JPYPLN", "USDPLN"]

/-- `commodity_map`. -/
def commodityMap : List (String × String) :=
  [("GOLD", "XAU/USD"), ("XAUUSD", "XAU/USD"), ("SILVER", "XAG/USD"), ("XAGUSD", "XAG/USD"),
    ("OIL", "CL"), ("WTIUSD", "CL"), ("OILWTI", "CL"), ("BRENT", "BZ"), ("NATGAS", "NG"),
    ("COFFEE", "KC"), ("COPPER", "HG"), ("PLATINUM", "PL"), ("PALLADIUM", "PA")]

/-- `index_map`. -/
def indexMap : List (String × String) :=
  [("US500", "SPX"), ("US30", "DJI"), ("US100", "IXIC"), ("DE40", "DAX"), ("UK100", "FTSE"),
    ("JP225", "NI225"), ("W20", "WIG20")]

/-- `f"{key[:3]}/{key[3:]}"`. -/
def slashed (key : String) : String :=
  String.ofList (key.toList.take 3 ++ '/' :: key.toList.drop 3)

/-- `_map_symbol`. -/
def mapSymbol (symbol : String) : String :=
  let key := slashlessSymbol symbol
  if key ∈ forexPairs then slashed key
  else
    match commodityMap.lookup key with
    | some ticker => ticker
    | none => (indexMap.lookup key).getD key

/-- The three tables in one. -/
def symbolMap : List (String × String) :=
  (forexPairs.map fun key ↦ (key, slashed key)) ++ commodityMap ++ indexMap

end TwelveDataProvider

namespace FMPProvider

/-- `SYMBOL_MAP`. -/
def symbolMap : List (String × String) :=
  [("EURUSD", "EURUSD"), ("GBPUSD", "GBPUSD"), ("USDJPY", "USDJPY"), ("USDCHF", "USDCHF"),
    ("AUDUSD", "AUDUSD"), ("USDCAD", "USDCAD"), ("NZDUSD", "NZDUSD"), ("EURGBP", "EURGBP"),
    ("EURJPY", "EURJPY"), ("GBPJPY", "GBPJPY"), ("AUDCAD", "AUDCAD"), ("AUDCHF", "AUDCHF"),
    ("AUDJPY", "AUDJPY"), ("CADJPY", "CADJPY"), ("CHFJPY", "CHFJPY"), ("EURCHF", "EURCHF"),
    ("EURAUD", "EURAUD"), ("EURCAD", "EURCAD"), ("GBPCAD", "GBPCAD"), ("GBPCHF", "GBPCHF"),
    ("AUDNZD", "AUDNZD"), ("NZDJPY", "NZDJPY"), ("NZDCAD", "NZDCAD"), ("NZDCHF", "NZDCHF"),
    ("EURNZD", "EURNZD"), ("GBPNZD", "GBPNZD"), ("AUDPLN", "AUDPLN"), ("CADPLN", "CADPLN"),
    ("CHFPLN", "CHFPLN"), ("EURPLN", "EURPLN"), ("GBPPLN", "GBPPLN"), ("JPYPLN", "JPYPLN"),
    ("USDPLN", "USDPLN"), ("GOLD", "XAUUSD"), ("XAUUSD", "XAUUSD"), ("SILVER", "XAGUSD"),
    ("XAGUSD", "XAGUSD"), ("OIL", "CLUSD"), ("WTIUSD", "CLUSD"), ("OILWTI", "CLUSD"),
    ("BRENT", "BZUSD"), ("NATGAS", "NGUSD"), ("COFFEE", "KCUSD"), ("COPPER", "HGUSD"),
    ("PLATINUM", "PLUSD"), ("PALLADIUM", "PAUSD"), ("US500", "^GSPC"), ("US30", "^DJI"),
    ("US100", "^IXIC"), ("W20", "WIG20")]

/-- `_map_symbol`. -/
def mapSymbol (symbol : String) : String :=
  (symbolMap.lookup (slashlessSymbol symbol)).getD (slashlessSymbol symbol)

end FMPProvider

/-- The providers of the chain. -/
inductive MarketDataSource
  | yfinance
  | twelveData
  | fmp
  deriving DecidableEq, Repr

/-- The table of a provider. -/
def MarketDataSource.tickers : MarketDataSource → List (String × String)
  | .yfinance => symbolMap
  | .twelveData => TwelveDataProvider.symbolMap
  | .fmp => FMPProvider.symbolMap

/-- The `_map_symbol` of a provider. -/
def MarketDataSource.mapSymbol : MarketDataSource → String → String
  | .yfinance => InvestmentAssistant.mapSymbol
  | .twelveData => TwelveDataProvider.mapSymbol
  | .fmp => FMPProvider.mapSymbol

/-! ### Tables of tickers -/

/-- The symbols of an instrument that has more than one, and the one it goes by here. -/
def instrumentAliases : List (String × String) :=
  [("XAUUSD", "GOLD"), ("XAGUSD", "SILVER"), ("WTIUSD", "OIL"), ("OILWTI", "OIL")]

/-- The instrument that a key names. -/
def instrumentOf (key : String) : String :=
  (instrumentAliases.lookup key).getD key

section Tables

variable {table : List (String × String)} {a b : String}

/-- The ticker of a key. -/
def tickerOf (table : List (String × String)) (key : String) : String :=
  (table.lookup key).getD key

/-- The key is not in the table, but is the ticker of one that is. -/
def SpellsTicker (table : List (String × String)) (key : String) : Prop :=
  table.lookup key = none ∧ ∃ e ∈ table, e.2 = key

/-- A table that knows instruments by their tickers: all symbols of an instrument have its ticker,
different instruments have different ones, and each instrument with several symbols is there. -/
structure TickerTable (table : List (String × String)) : Prop where
  lookup_instrumentOf : ∀ e ∈ table, table.lookup (instrumentOf e.1) = some e.2
  nodup_tickers : ((table.filter fun e ↦ instrumentOf e.1 = e.1).map Prod.snd).Nodup
  isSome_alias : ∀ e ∈ instrumentAliases, (table.lookup e.1).isSome = true ∧
    (table.lookup e.2).isSome = true

theorem instrumentOf_instrumentOf (key : String) :
    instrumentOf (instrumentOf key) = instrumentOf key := by
  rcases h : instrumentAliases.lookup key with - | instrument
  · rw [instrumentOf, instrumentOf, h, Option.getD_none, h, Option.getD_none]
  · have hall : ∀ e ∈ instrumentAliases, instrumentOf e.2 = e.2 := by decide
    rw [instrumentOf.eq_def key, h, Option.getD_some]
    exact hall _ (Dictionary.mem_of_lookup_eq_some h)

/-- A key that is not in the table is the only one of its instrument. -/
theorem TickerTable.eq_of_lookup_eq_none (h : TickerTable table) (ha : table.lookup a = none)
    (heq : instrumentOf a = instrumentOf b) : a = b := by
  have haliases {key instrument : String} (hkey : instrumentAliases.lookup key = some instrument) :
      (table.lookup key).isSome = true ∧ (table.lookup instrument).isSome = true :=
    h.isSome_alias _ (Dictionary.mem_of_lookup_eq_some hkey)
  rcases hla : instrumentAliases.lookup a with - | instrument
  · rcases hlb : instrumentAliases.lookup b with - | instrument
    · rwa [instrumentOf, instrumentOf, hla, hlb] at heq
    · rw [instrumentOf, instrumentOf, hla, hlb] at heq
      have hsome := (haliases hlb).2
      rw [show instrument = a from heq.symm, ha] at hsome
      exact nomatch hsome
  · have hsome := (haliases hla).1
    rw [ha] at hsome
    exact nomatch hsome

/-- Keys in the table have the same ticker exactly when they name the same instrument. -/
theorem TickerTable.lookup_eq_iff (h : TickerTable table) {v w : String}
    (ha : table.lookup a = some v) (hb : table.lookup b = some w) :
    v = w ↔ instrumentOf a = instrumentOf b := by
  have hva := h.lookup_instrumentOf _ (Dictionary.mem_of_lookup_eq_some ha)
  have hwb := h.lookup_instrumentOf _ (Dictionary.mem_of_lookup_eq_some hb)
  constructor
  · rintro rfl
    have hmem {key : String} (hkey : table.lookup (instrumentOf key) = some v) :
        (instrumentOf key, v) ∈ table.filter fun e ↦ instrumentOf e.1 = e.1 :=
      List.mem_filter.2 ⟨Dictionary.mem_of_lookup_eq_some hkey,
        decide_eq_true (instrumentOf_instrumentOf key)⟩
    exact (Prod.mk.inj (List.inj_on_of_nodup_map h.nodup_tickers (hmem hva) (hmem hwb) rfl)).1
  · intro heq
    rw [heq] at hva
    exact Option.some.inj (hva.symm.trans hwb)

/-- A key in the table and one that is not have different tickers, unless the latter spells one. -/
theorem TickerTable.tickerOf_ne (h : TickerTable table) {v : String} (ha : table.lookup a = some v)
    (hb : table.lookup b = none) (hspells : ¬ SpellsTicker table b) :
    tickerOf table a ≠ tickerOf table b ∧ instrumentOf a ≠ instrumentOf b := by
  constructor
  · intro heq
    rw [tickerOf, tickerOf, ha, hb] at heq
    exact hspells ⟨hb, (a, v), Dictionary.mem_of_lookup_eq_some ha, heq⟩
  · intro heq
    have hab := h.eq_of_lookup_eq_none hb heq.symm
    rw [← hab, hb] at ha
    exact nomatch ha

/-- **The tickers are those of the instruments**, for keys that spell no ticker. -/
theorem TickerTable.tickerOf_eq_iff (h : TickerTable table) (ha : ¬ SpellsTicker table a)
    (hb : ¬ SpellsTicker table b) :
    tickerOf table a = tickerOf table b ↔ instrumentOf a = instrumentOf b := by
  rcases hla : table.lookup a with - | v <;> rcases hlb : table.lookup b with - | w
  · rw [tickerOf, tickerOf, hla, hlb]
    exact ⟨fun heq ↦ congrArg instrumentOf heq, fun heq ↦ h.eq_of_lookup_eq_none hla heq⟩
  · obtain ⟨hticker, hinstrument⟩ := h.tickerOf_ne hlb hla ha
    exact iff_of_false hticker.symm hinstrument.symm
  · obtain ⟨hticker, hinstrument⟩ := h.tickerOf_ne hla hlb hb
    exact iff_of_false hticker hinstrument
  · rw [tickerOf, tickerOf, hla, hlb]
    exact h.lookup_eq_iff hla hlb

/-- A key that spells a ticker is taken for another instrument. -/
theorem TickerTable.exists_of_spellsTicker (h : TickerTable table) (hb : SpellsTicker table b) :
    ∃ e ∈ table, table.lookup e.1 = some b ∧ instrumentOf e.1 ≠ instrumentOf b := by
  obtain ⟨hnone, e, he, rfl⟩ := hb
  have hlookup := h.lookup_instrumentOf e he
  refine ⟨(instrumentOf e.1, e.2), Dictionary.mem_of_lookup_eq_some hlookup, hlookup, fun heq ↦ ?_⟩
  have hkey : e.2 = instrumentOf e.1 := h.eq_of_lookup_eq_none hnone heq.symm
  rw [← hkey, hnone] at hlookup
  exact nomatch hlookup

end Tables

/-! ### The tables of the providers -/

theorem tickerTable_tickers (source : MarketDataSource) : TickerTable source.tickers := by
  cases source <;> constructor <;> decide +kernel

theorem slashlessSymbol_of_mem_tickers (source : MarketDataSource) :
    ∀ e ∈ source.tickers, slashlessSymbol e.1 = e.1 := by
  cases source <;> decide +kernel

theorem TwelveDataProvider.mapSymbol_eq (symbol : String) :
    mapSymbol symbol = tickerOf symbolMap (slashlessSymbol symbol) := by
  have hforex : ∀ (keys : List String) (key : String),
      (keys.map fun k ↦ (k, slashed k)).lookup key =
        if key ∈ keys then some (slashed key) else none := by
    intro keys key
    induction keys with
    | nil => rfl
    | cons k keys ih =>
      rw [List.map_cons, Dictionary.lookup_cons_ite, ih]
      by_cases h : key = k
      · rw [if_pos h, if_pos (List.mem_cons.2 (.inl h)), h]
      · simp only [if_neg h, List.mem_cons, or_iff_right h]
  rw [mapSymbol, tickerOf, symbolMap, List.lookup_append, List.lookup_append, hforex]
  split
  · rfl
  · cases commodityMap.lookup (slashlessSymbol symbol) <;> rfl

theorem MarketDataSource.mapSymbol_eq (source : MarketDataSource) (symbol : String) :
    source.mapSymbol symbol = tickerOf source.tickers (slashlessSymbol symbol) := by
  cases source with
  | yfinance => rfl
  | twelveData => exact TwelveDataProvider.mapSymbol_eq symbol
  | fmp => rfl

/-- Two symbols name the same instrument. -/
def NamesSameInstrument (s t : String) : Prop :=
  instrumentOf (slashlessSymbol s) = instrumentOf (slashlessSymbol t)

/-- On a set of symbols a provider tells instruments apart as the application does: two symbols have
the same ticker exactly when they name the same instrument. -/
def TellsApart (source : MarketDataSource) (symbols : Set String) : Prop :=
  ∀ s ∈ symbols, ∀ t ∈ symbols,
    source.mapSymbol s = source.mapSymbol t ↔ NamesSameInstrument s t

variable {source : MarketDataSource} {symbols : Set String}

theorem tellsApart_of_not_spellsTicker
    (h : ∀ s ∈ symbols, ¬ SpellsTicker source.tickers (slashlessSymbol s)) :
    TellsApart source symbols := by
  intro s hs t ht
  rw [source.mapSymbol_eq, source.mapSymbol_eq]
  exact (tickerTable_tickers source).tickerOf_eq_iff (h s hs) (h t ht)

/-- A symbol that spells a ticker is taken for one of the table. -/
theorem not_spellsTicker_of_tellsApart (htable : ∀ e ∈ source.tickers, e.1 ∈ symbols)
    (h : TellsApart source symbols) :
    ∀ s ∈ symbols, ¬ SpellsTicker source.tickers (slashlessSymbol s) := by
  intro s hs hspells
  obtain ⟨e, he, hlookup, hne⟩ := (tickerTable_tickers source).exists_of_spellsTicker hspells
  have hkey := slashlessSymbol_of_mem_tickers source e he
  have hticker : source.mapSymbol e.1 = source.mapSymbol s := by
    rw [source.mapSymbol_eq, source.mapSymbol_eq, hkey, tickerOf, tickerOf, hlookup, hspells.1]
    rfl
  have hsame := (h e.1 (htable e he) s hs).1 hticker
  rw [NamesSameInstrument, hkey] at hsame
  exact hne hsame

/-! ### Accepted symbols -/

theorem symbolValid_of_mem_tickers (source : MarketDataSource) :
    ∀ e ∈ source.tickers, SymbolValid e.1 := by
  cases source <;> decide +kernel

/-- The character cannot stand in an accepted symbol, nor become one that can. -/
def isMarkChar (c : Char) : Bool :=
  !c.isAlpha && !isSymbolChar c && c != '\n'

theorem exists_isMarkChar :
    ∀ e ∈ symbolMap, e.2.toList.any isMarkChar = true := by
  have hall : (symbolMap.all fun e ↦ e.2.toList.any isMarkChar) = true := by decide +kernel
  exact List.all_eq_true.1 hall

/-- No accepted symbol spells a ticker of Yahoo's. -/
theorem not_spellsTicker_symbolMap {s : String} (h : SymbolValid s) :
    ¬ SpellsTicker symbolMap (slashlessSymbol s) := by
  rintro ⟨-, e, he, hticker⟩
  obtain ⟨c, hc, hmark⟩ := List.any_eq_true.1 (exists_isMarkChar e he)
  simp only [isMarkChar, Bool.and_eq_true, Bool.not_eq_true', bne_iff_ne] at hmark
  obtain ⟨⟨halpha, hsymbol⟩, hfeed⟩ := hmark
  rw [hticker, slashlessSymbol, removeChar, String.toList_ofList] at hc
  have hupper := List.mem_of_mem_filter hc
  rw [upper, String.toList_ofList, List.mem_map] at hupper
  obtain ⟨c', hc', hupper⟩ := hupper
  obtain rfl := (CharClass.toUpper_eq_iff halpha).1 hupper
  rcases h.of_mem hc' with haccepted | heq
  · rw [hsymbol] at haccepted
    exact nomatch haccepted
  · exact hfeed heq

/-- **Where a provider tells instruments apart**: on a set of symbols that has those of its table,
exactly when no symbol of the set spells one of its tickers. Yahoo does so on all accepted
symbols. -/
theorem tellsApart_iff (htable : ∀ e ∈ source.tickers, e.1 ∈ symbols) :
    (TellsApart source symbols ↔
      ∀ s ∈ symbols, ¬ SpellsTicker source.tickers (slashlessSymbol s)) ∧
    TellsApart .yfinance {s | SymbolValid s} :=
  ⟨⟨not_spellsTicker_of_tellsApart htable, tellsApart_of_not_spellsTicker⟩,
    tellsApart_of_not_spellsTicker fun _ ↦ not_spellsTicker_symbolMap⟩

/-- Twelve Data does not: an oil future and a share have one ticker. -/
theorem not_tellsApart_twelveData : ¬ TellsApart .twelveData {s | SymbolValid s} := by
  have hcl : SymbolValid "CL" := by decide
  intro h
  refine (tellsApart_iff (symbolValid_of_mem_tickers .twelveData)).1.1 h "CL" hcl ?_
  exact ⟨by decide +kernel, ("OIL", "CL"), by decide +kernel, by decide⟩

end InvestmentAssistant
