import InvestmentAssistant.Api.Validators
import InvestmentAssistant.DataAcquisition.OhlcvCache
import InvestmentAssistant.DataAcquisition.FallbackChain
import InvestmentAssistant.Foundation.Dictionary

/-!
# One instrument under several spellings

`classify_instrument` reads a symbol without regard to case, slashes and hyphens. The modules that
use the symbol afterwards each normalise it in their own way: the Yahoo ticker and the region of an
index keep the hyphens, the COT symbol keeps hyphens and slashes, and the candle store keeps the
spelling.

The tables these modules look symbols up in have normal keys and values, so two spellings that
classify alike get the same answer exactly when the module's own key for them is the same
(`getD_lookup_eq_iff`). Taken together the modules treat two spellings as one instrument only if
they are identical (`same_instrument_iff`).

Accepted symbols are ASCII, and so is the upper case here.
-/

namespace InvestmentAssistant

/-! ### Spellings -/

/-- `symbol.upper()` on letters of ASCII, which are the only ones that a valid symbol has. -/
def upper (symbol : String) : String :=
  String.ofList (symbol.toList.map Char.toUpper)

/-- `symbol.replace(c, "")`. -/
def removeChar (c : Char) (symbol : String) : String :=
  String.ofList (symbol.toList.filter (· ≠ c))

/-- `FOREX_PAIRS`. -/
def forexPairs : List String :=
  ["EURUSD", "GBPUSD", "USDJPY", "USDCHF", "AUDUSD", "USDCAD", "EURGBP", "EURJPY", "GBPJPY",
    "NZDUSD", "AUDCAD", "AUDCHF", "AUDJPY", "CADJPY", "CHFJPY", "EURCHF", "EURAUD", "EURCAD",
    "GBPCAD", "GBPCHF", "AUDNZD", "NZDJPY", "NZDCAD", "NZDCHF", "EURNZD", "GBPNZD", "AUDPLN",
    "CADPLN", "CHFPLN", "EURPLN", "GBPPLN", "JPYPLN", "USDPLN"]

/-- `COMMODITY_SYMBOLS`. -/
def commoditySymbols : List String :=
  ["GOLD", "XAUUSD", "SILVER", "XAGUSD", "OIL", "WTIUSD", "OILWTI", "BRENT", "NATGAS", "COFFEE",
    "COPPER", "PLATINUM", "PALLADIUM"]

/-- `INDEX_SYMBOLS`. -/
def indexSymbols : List String :=
  ["US500", "US30", "US100", "SPX", "NDX", "DJI", "DE40", "DAX", "EU50", "UK100", "FTSE", "JP225",
    "NIKKEI", "AU200", "CA60", "FR40", "W20"]

/-- The symbol as `classify_instrument` reads it. -/
def cleanSymbol (symbol : String) : String :=
  removeChar '-' (removeChar '/' (upper symbol))

/-- `classify_instrument`. -/
def classifyInstrument (symbol : String) : Option InstrumentType :=
  let clean := cleanSymbol symbol
  if clean ∈ forexPairs then some .forex
  else if clean ∈ commoditySymbols then some .commodity
  else if clean ∈ indexSymbols then some .index
  else if clean.toList.length = 6 ∧ clean.toList.all Char.isAlpha then some .forex
  else none

/-! ### The consumers -/

/-- `SYMBOL_MAP` of the Yahoo provider. -/
def symbolMap : List (String × String) :=
  [("EURUSD", "EURUSD=X"), ("GBPUSD", "GBPUSD=X"), ("USDJPY", "USDJPY=X"), ("USDCHF", "USDCHF=X"),
    ("AUDUSD", "AUDUSD=X"), ("USDCAD", "USDCAD=X"), ("NZDUSD", "NZDUSD=X"),
    ("EURGBP", "EURGBP=X"), ("EURJPY", "EURJPY=X"), ("GBPJPY", "GBPJPY=X"),
    ("AUDCAD", "AUDCAD=X"), ("AUDCHF", "AUDCHF=X"), ("AUDJPY", "AUDJPY=X"),
    ("CADJPY", "CADJPY=X"), ("CHFJPY", "CHFJPY=X"), ("EURCHF", "EURCHF=X"),
    ("EURAUD", "EURAUD=X"), ("EURCAD", "EURCAD=X"), ("GBPCAD", "GBPCAD=X"),
    ("GBPCHF", "GBPCHF=X"), ("AUDNZD", "AUDNZD=X"), ("NZDJPY", "NZDJPY=X"),
    ("NZDCAD", "NZDCAD=X"), ("NZDCHF", "NZDCHF=X"), ("EURNZD", "EURNZD=X"),
    ("GBPNZD", "GBPNZD=X"), ("AUDPLN", "AUDPLN=X"), ("CADPLN", "CADPLN=X"),
    ("CHFPLN", "CHFPLN=X"), ("EURPLN", "EURPLN=X"), ("GBPPLN", "GBPPLN=X"),
    ("JPYPLN", "JPYPLN=X"), ("USDPLN", "USDPLN=X"), ("GOLD", "GC=F"), ("XAUUSD", "GC=F"),
    ("SILVER", "SI=F"), ("XAGUSD", "SI=F"), ("OIL", "CL=F"), ("WTIUSD", "CL=F"),
    ("OILWTI", "CL=F"), ("BRENT", "BZ=F"), ("NATGAS", "NG=F"), ("COFFEE", "KC=F"),
    ("COPPER", "HG=F"), ("PLATINUM", "PL=F"), ("PALLADIUM", "PA=F"), ("US500", "^GSPC"),
    ("US30", "^DJI"), ("US100", "^IXIC"), ("DE40", "^GDAXI"), ("UK100", "^FTSE"),
    ("JP225", "^N225"), ("FR40", "^FCHI"), ("W20", "WIG20.WA")]

/-- The key of `_map_symbol` and of `analyze_index`. -/
def slashlessSymbol (symbol : String) : String :=
  removeChar '/' (upper symbol)

/-- `_map_symbol`: a symbol that is not in the map is used directly. -/
def mapSymbol (symbol : String) : String :=
  (symbolMap.lookup (slashlessSymbol symbol)).getD (slashlessSymbol symbol)

/-- `INDEX_REGION_MAP`. -/
def indexRegionMap : List (String × String) :=
  [("US500", "US"), ("US30", "US"), ("US100", "US"), ("SPX", "US"), ("NDX", "US"), ("DJI", "US"),
    ("DE40", "EU"), ("DAX", "EU"), ("EU50", "EU"), ("FR40", "EU"), ("UK100", "UK"),
    ("FTSE", "UK"), ("JP225", "JP"), ("NIKKEI", "JP"), ("AU200", "AU"), ("CA60", "CA"),
    ("W20", "PL")]

/-- The region `analyze_index` finds. -/
def indexRegion (symbol : String) : Option String :=
  indexRegionMap.lookup (slashlessSymbol symbol)

/-- `COMMODITY_COT_MAP`. -/
def commodityCotMap : List (String × String) :=
  [("GOLD", "GC"), ("XAUUSD", "GC"), ("SILVER", "SI"), ("XAGUSD", "SI"), ("OIL", "CL"),
    ("WTIUSD", "CL"), ("BRENT", "BZ"), ("NATGAS", "NG"), ("COPPER", "HG"), ("PLATINUM", "PL"),
    ("PALLADIUM", "PA")]

/-- The COT symbol `analyze_commodity` asks for. -/
def cotSymbol (symbol : String) : String :=
  (commodityCotMap.lookup (upper symbol)).getD (upper symbol)

/-- The key of a symbol's candles in the OHLCV store: the symbol as it was given. -/
def storeKey (symbol : String) (timeframe : DataTimeframe) : String × String :=
  (symbol, timeframe.value)

/-- The candles of a symbol are those under its key. -/
theorem getCachedOhlcv_eq_slice (db : OhlcvTable) (symbol : String) (timeframe : DataTimeframe) :
    getCachedOhlcv db symbol timeframe.value =
      (Table.slice db (storeKey symbol timeframe)).map fun row ↦ row.2.candle row.1 :=
  rfl

/-! ### Tables with normal keys -/

section Tables

variable {table : List (String × String)} {normal : String → String} {a b : String}

/-- A table that looks up normal keys, gives normal values, and changes every key. -/
structure NormalTable (normal : String → String) (table : List (String × String)) : Prop where
  key : ∀ e ∈ table, normal e.1 = e.1
  value : ∀ e ∈ table, normal e.2 = e.2
  ne : ∀ e ∈ table, e.1 ≠ e.2

/-- Keys with the same normal form that are both found are the same key. -/
theorem eq_of_lookup (htable : ∀ e ∈ table, normal e.1 = e.1) (hnormal : normal a = normal b)
    {v w : String} (ha : table.lookup a = some v) (hb : table.lookup b = some w) : a = b := by
  have hkeyA : normal a = a := htable (a, v) (Dictionary.mem_of_lookup_eq_some ha)
  have hkeyB : normal b = b := htable (b, w) (Dictionary.mem_of_lookup_eq_some hb)
  rw [← hkeyA, hnormal, hkeyB]

/-- A key that is found does not get another one, with the same normal form, as its value. -/
theorem ne_of_lookup (htable : NormalTable normal table) (hnormal : normal a = normal b)
    {v : String} (ha : table.lookup a = some v) : v ≠ b := by
  rintro rfl
  have hmem : (a, v) ∈ table := Dictionary.mem_of_lookup_eq_some ha
  have hkey : normal a = a := htable.key _ hmem
  have hvalue : normal v = v := htable.value _ hmem
  rw [hkey, hvalue] at hnormal
  exact htable.ne _ hmem hnormal

/-- **Two keys with the same normal form have the same value exactly when they are the same key**,
where a key that is not found is its own value. -/
theorem getD_lookup_eq_iff (htable : NormalTable normal table) (hnormal : normal a = normal b) :
    (table.lookup a).getD a = (table.lookup b).getD b ↔ a = b := by
  refine ⟨fun h ↦ ?_, fun h ↦ h ▸ rfl⟩
  rcases ha : table.lookup a with - | v <;> rcases hb : table.lookup b with - | w
  · rwa [ha, hb] at h
  · rw [ha, hb] at h
    exact absurd h.symm (ne_of_lookup htable hnormal.symm hb)
  · rw [ha, hb] at h
    exact absurd h (ne_of_lookup htable hnormal ha)
  · exact eq_of_lookup htable.key hnormal ha hb

end Tables

theorem normalTable_symbolMap : NormalTable (removeChar '-') symbolMap := by
  constructor <;> decide +kernel

theorem normalTable_commodityCotMap :
    NormalTable (fun symbol ↦ removeChar '-' (removeChar '/' symbol)) commodityCotMap := by
  constructor <;> decide +kernel

/-! ### One instrument, several meanings -/

/-- Every consumer treats the two symbols as the same instrument. -/
structure SameInstrument (a b : String) : Prop where
  ticker : mapSymbol a = mapSymbol b
  region : indexRegion a = indexRegion b
  cot : cotSymbol a = cotSymbol b
  store : ∀ timeframe, storeKey a timeframe = storeKey b timeframe

variable {a b : String}

theorem mapSymbol_eq_iff (h : cleanSymbol a = cleanSymbol b) :
    mapSymbol a = mapSymbol b ↔ slashlessSymbol a = slashlessSymbol b :=
  getD_lookup_eq_iff normalTable_symbolMap h

theorem cotSymbol_eq_iff (h : cleanSymbol a = cleanSymbol b) :
    cotSymbol a = cotSymbol b ↔ upper a = upper b :=
  getD_lookup_eq_iff normalTable_commodityCotMap h

theorem indexRegion_eq_iff (h : cleanSymbol a = cleanSymbol b) :
    indexRegion a = indexRegion b ↔
      slashlessSymbol a = slashlessSymbol b ∨ indexRegion a = none ∧ indexRegion b = none := by
  have hkeys : ∀ e ∈ indexRegionMap, removeChar '-' e.1 = e.1 := by decide +kernel
  constructor
  · intro hregion
    rcases ha : indexRegion a with - | region
    · exact .inr ⟨rfl, hregion ▸ ha⟩
    · exact .inl (eq_of_lookup hkeys h ha (hregion ▸ ha))
  · rintro (hsame | ⟨ha, hb⟩)
    · rw [indexRegion, hsame, indexRegion]
    · rw [ha, hb]

theorem storeKey_eq_iff {timeframe : DataTimeframe} :
    storeKey a timeframe = storeKey b timeframe ↔ a = b :=
  ⟨fun h ↦ (Prod.mk.inj h).1, fun h ↦ h ▸ rfl⟩

/-- The store has the same candles for two symbols, whatever is in it, only if it has one key for
both. -/
theorem getCachedOhlcv_eq_iff {timeframe : DataTimeframe} :
    (∀ db, getCachedOhlcv db a timeframe.value = getCachedOhlcv db b timeframe.value) ↔
      storeKey a timeframe = storeKey b timeframe := by
  constructor
  · intro h
    by_contra hne
    -- a store with one candle, of the first symbol
    let row : CacheRow := ⟨0, 0, 0, 0, 0, 0⟩
    let db : OhlcvTable := AList.insert (storeKey a timeframe, 0) row ∅
    have hlookup : db.lookup (storeKey a timeframe, 0) = some row := AList.lookup_insert ∅
    have hmem : row.candle 0 ∈ getCachedOhlcv db a timeframe.value := by
      rw [getCachedOhlcv_eq_slice]
      exact List.mem_map.2 ⟨(0, row), Table.mem_slice.2 hlookup, rfl⟩
    rw [h db, getCachedOhlcv_eq_slice] at hmem
    obtain ⟨⟨timestamp, row'⟩, hrow, -⟩ := List.mem_map.1 hmem
    have hkey : (storeKey b timeframe, timestamp) ≠ (storeKey a timeframe, 0) :=
      fun heq ↦ hne (Prod.mk.inj heq).1.symm
    rw [Table.mem_slice, AList.lookup_insert_ne hkey, AList.lookup_empty] at hrow
    cases hrow
  · intro h db
    rw [getCachedOhlcv_eq_slice, getCachedOhlcv_eq_slice, h]

/-- **When two spellings are one instrument.** For two symbols that `classify_instrument` reads
alike: the ticker is the same exactly when they are the same up to case and slashes; the region
likewise, or when neither has one; the COT symbol when they are the same up to case; the store key,
and with it the candles of any store, when they are identical; and so every consumer agrees exactly
when they are identical. -/
theorem same_instrument_iff (h : cleanSymbol a = cleanSymbol b) :
    (mapSymbol a = mapSymbol b ↔ slashlessSymbol a = slashlessSymbol b) ∧
    (indexRegion a = indexRegion b ↔
      slashlessSymbol a = slashlessSymbol b ∨ indexRegion a = none ∧ indexRegion b = none) ∧
    (cotSymbol a = cotSymbol b ↔ upper a = upper b) ∧
    (∀ timeframe, storeKey a timeframe = storeKey b timeframe ↔ a = b) ∧
    (∀ timeframe : DataTimeframe,
      (∀ db, getCachedOhlcv db a timeframe.value = getCachedOhlcv db b timeframe.value) ↔ a = b) ∧
    (SameInstrument a b ↔ a = b) := by
  refine ⟨mapSymbol_eq_iff h, indexRegion_eq_iff h, cotSymbol_eq_iff h, fun _ ↦ storeKey_eq_iff,
    fun _ ↦ getCachedOhlcv_eq_iff.trans storeKey_eq_iff, ?_⟩
  constructor
  · exact fun hsame ↦ storeKey_eq_iff.1 (hsame.store .h1)
  · rintro rfl
    exact ⟨rfl, rfl, rfl, fun _ ↦ rfl⟩

/-- `EUR/USD` and `EURUSD` have one ticker and no region, but two COT symbols and two store keys. -/
theorem same_instrument_slash :
    mapSymbol "EUR/USD" = mapSymbol "EURUSD" ∧ indexRegion "EUR/USD" = indexRegion "EURUSD" ∧
      cotSymbol "EUR/USD" ≠ cotSymbol "EURUSD" ∧ ¬ SameInstrument "EUR/USD" "EURUSD" := by
  obtain ⟨hticker, hregion, hcot, -, -, hsame⟩ :=
    same_instrument_iff (show cleanSymbol "EUR/USD" = cleanSymbol "EURUSD" by decide +kernel)
  refine ⟨hticker.2 (by decide +kernel), hregion.2 (.inl (by decide +kernel)), ?_, ?_⟩
  · exact fun h ↦ absurd (hcot.1 h) (by decide +kernel)
  · exact fun h ↦ absurd (hsame.1 h) (by decide +kernel)

/-- `DE-40` and `DE40` are both accepted and classified as one index, whose ticker and region are
found under the second spelling only; gold written `XAU/USD` is not asked for under its COT
symbol. -/
theorem spellings_mean_different_instruments :
    SymbolValid "DE-40" ∧ SymbolValid "DE40" ∧ cleanSymbol "DE-40" = cleanSymbol "DE40" ∧
      classifyInstrument "DE-40" = some .index ∧ classifyInstrument "DE40" = some .index ∧
      mapSymbol "DE-40" = "DE-40" ∧ mapSymbol "DE40" = "^GDAXI" ∧
      indexRegion "DE-40" = none ∧ indexRegion "DE40" = some "EU" ∧
    SymbolValid "XAU/USD" ∧ SymbolValid "XAUUSD" ∧ cleanSymbol "XAU/USD" = cleanSymbol "XAUUSD" ∧
      cotSymbol "XAU/USD" = "XAU/USD" ∧ cotSymbol "XAUUSD" = "GC" ∧
      storeKey "XAU/USD" .h1 ≠ storeKey "XAUUSD" .h1 := by
  decide +kernel

end InvestmentAssistant
