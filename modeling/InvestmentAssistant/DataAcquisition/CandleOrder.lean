import InvestmentAssistant.DataAcquisition.Providers
import InvestmentAssistant.FundamentalAnalysis.CpiDecoders

/-!
# The order of the candles an analysis gets

The candles of an analysis come out of the cache, from the chain of providers, or from the cache
after a provider has failed, and up to four time frames are fetched at once. Nothing on this way
sorts what a provider returns, and the analysis takes the last candle for the newest.

Where the answers from outside are in the order that the providers expect, the candles are in the
order of time in every bundle of every concurrent fetch (`bundle_inOrder`): whichever queries,
sessions or providers fail, whatever others write in between, and in whatever order the tasks end.
-/

namespace InvestmentAssistant

open FallbackChainManager Transition

/-! ### The layers of a fetch -/

section Layers

variable {symbol period : String} {candles : List OHLCVData}

/-- The chain hands the candles of a provider on. -/
theorem chronological_of_chain {providers : List DataProvider} (h : ∀ p ∈ providers, p.InOrder)
    {timeframe : TimeframeLike}
    (hfetch : (fetchOhlcv symbol period providers timeframe).returned = .ok candles) :
    Chronological candles := by
  have htries := @triesInOrder_tryProviders symbol (normalizeDataTimeframe timeframe) period
    (chain providers) []
  rw [ChainFetch.returned, fetchOhlcv] at hfetch
  rcases hresult : (tryProviders symbol (normalizeDataTimeframe timeframe) period (chain providers)
    []).result with e | data
  · rw [hresult] at hfetch
    cases hfetch
  · rw [hresult] at hfetch
    obtain rfl : data = candles := Except.ok.inj hfetch
    obtain ⟨-, before, p, after, horder, hp, -⟩ := htries.returns data hresult
    have hmem : p ∈ chain providers := by
      rw [horder]
      exact List.mem_append_right before (List.mem_cons_self ..)
    exact h p ((List.perm_insertionSort _ providers).mem_iff.1 hmem) _ _ _ _ hp

/-- The cache lists its candles in the order of their readings, which have no offset. -/
theorem chronological_getCachedOhlcv (db : OhlcvTable) (symbol timeframe : String) :
    Chronological (getCachedOhlcv db symbol timeframe) := by
  have hinstant : ∀ c ∈ getCachedOhlcv db symbol timeframe,
      c.timestamp.instant = c.timestamp.wall := by
    intro c hc
    rw [cachedAt_wall (mem_getCachedOhlcv_iff.1 hc)]
    exact sub_zero _
  refine (pairwise_getCachedOhlcv db symbol timeframe).imp_of_mem fun {a b} ha hb hlt ↦ ?_
  rw [hinstant a ha, hinstant b hb]
  exact hlt

theorem chronological_cached {session : Session} {faults : DbFaults} {timeframe : String}
    (h : session.cached faults symbol timeframe = .ok candles) : Chronological candles := by
  rw [Session.cached] at h
  split at h
  · rw [← Except.ok.inj h]
    exact chronological_getCachedOhlcv ..
  · cases h

section ReadThrough

variable {faults : DbFaults} {clock : ℕ → ℤ} {session : Session} {timeframe : String}
  {fetched : Except PyException (List OHLCVData)}

theorem chronological_fullFetch (h : ∀ cs, fetched = .ok cs → Chronological cs)
    (hresult : (fullFetch faults clock session symbol timeframe fetched).1 = .ok candles) :
    Chronological candles := by
  rcases fetched with e | cs
  · cases hresult
  · rw [fullFetch] at hresult
    split at hresult
    · rw [← Except.ok.inj hresult]
      exact h cs rfl
    · split at hresult
      · rw [← Except.ok.inj hresult]
        exact h cs rfl
      · cases hresult

theorem chronological_fullRefetch (h : ∀ cs, fetched = .ok cs → Chronological cs)
    (hresult : (fullRefetch faults clock session symbol timeframe fetched).1 = .ok candles) :
    Chronological candles := by
  rcases fetched with e | cs
  · cases hresult
  · rw [fullRefetch] at hresult
    split at hresult
    · exact chronological_cached hresult
    · split at hresult
      · rw [← Except.ok.inj hresult]
        exact h cs rfl
      · cases hresult

/-- Reading through the cache returns the cache or what was fetched. -/
theorem chronological_getOhlcv {now : ℤ} {fetchFn : FetchFn}
    (h : ∀ cs, fetchFn symbol timeframe period = .ok cs → Chronological cs)
    (hresult : (getOhlcv faults now clock session symbol timeframe period fetchFn).1 =
      .ok candles) : Chronological candles := by
  rw [getOhlcv] at hresult
  split at hresult
  · cases hresult
  · cases hresult
  · dsimp only at hresult
    split at hresult
    · exact chronological_fullFetch h hresult
    · exact chronological_fullRefetch h hresult
    · exact chronological_cached hresult

end ReadThrough

/-- A session hands on what its body returns. -/
theorem exists_body_of_withSession {α : Type} {faults : SessionFaults} {db : OhlcvTable}
    {body : Session → Except PyException α × Session} {a : α}
    (h : (withSession faults db body).1 = .ok a) : (body (.start db)).1 = .ok a := by
  rw [withSession] at h
  split at h
  · cases h
  · dsimp only at h
    split at h
    · cases h
    · exact h

/-- The providers of a fetch, for the cache service and for the direct request, give candles in the
order of time. -/
structure FetchSurroundings.ProvidersInOrder (world : FetchSurroundings) : Prop where
  service : ∀ p ∈ world.serviceProviders, p.InOrder
  direct : ∀ p ∈ world.directProviders, p.InOrder

/-- **What one fetch returns is in the order of time**, whichever of its layers it comes from. -/
theorem chronological_fetchSingleTimeframe {world : FetchSurroundings}
    (h : world.ProvidersInOrder) {timeframe : DataTimeframe}
    (hresult : world.fetchSingleTimeframe symbol timeframe period = .ok candles) :
    Chronological candles := by
  have hservice : ∀ cs,
      serviceFetch world.serviceProviders symbol timeframe.value period = .ok cs →
        Chronological cs := by
    intro cs hcs
    obtain ⟨t, -, hchain⟩ := bind_eq_ok_iff.1 hcs
    exact chronological_of_chain h.service hchain
  rw [FetchSurroundings.fetchSingleTimeframe] at hresult
  split at hresult
  · next hread =>
    rw [← Except.ok.inj hresult]
    exact chronological_getOhlcv hservice (exists_body_of_withSession hread)
  · split at hresult
    · next hdirect =>
      rw [← Except.ok.inj hresult]
      exact chronological_of_chain h.direct hdirect
    · split at hresult
      · next hcache =>
        rw [← Except.ok.inj hresult]
        exact chronological_cached (exists_body_of_withSession hcache)
      · cases hresult

end Layers

/-! ### The application's providers -/

/-- The surroundings of a fetch, with the providers that `build_fallback_chain` makes: as the market
answers the cache service, and as it answers the direct request. -/
def FetchSurroundings.withMarket (world : FetchSurroundings) (runtime : ProviderRuntime)
    (text : PyException → String) (settings : ProviderKeys) (service direct : MarketWorld) :
    FetchSurroundings :=
  { world with
    serviceProviders := buildFallbackChain runtime text settings service
    directProviders := buildFallbackChain runtime text settings direct }

/-- The tasks of a concurrent fetch, each with its own surroundings and its own market. -/
def marketTasks (world : DataTimeframe → FetchSurroundings) (runtime : ProviderRuntime)
    (text : PyException → String) (settings : ProviderKeys)
    (service direct : DataTimeframe → MarketWorld) (symbol period : String) : FetchTasks :=
  singleTimeframeTasks (fun timeframe ↦
    (world timeframe).withMarket runtime text settings (service timeframe) (direct timeframe))
    symbol period text

section Bundle

variable {plan : AnalysisTimeframePlan} {world : DataTimeframe → FetchSurroundings}
  {runtime : ProviderRuntime} {text : PyException → String} {settings : ProviderKeys}
  {service direct : DataTimeframe → MarketWorld} {symbol period : String}

theorem chronological_candles (hservice : ∀ t, AnswersInOrder runtime (service t))
    (hdirect : ∀ t, AnswersInOrder runtime (direct t)) (timeframe : DataTimeframe) :
    Chronological
      ((marketTasks world runtime text settings service direct symbol period).candles
        timeframe) := by
  rw [FetchTasks.candles]
  split
  · next candles hcandles =>
    exact chronological_fetchSingleTimeframe
      ⟨fun _ ↦ inOrder_of_mem_buildFallbackChain (hservice timeframe),
        fun _ ↦ inOrder_of_mem_buildFallbackChain (hdirect timeframe)⟩ hcandles
  · exact chronological_nil

/-- **The candles of an analysis.** In every run of a concurrent fetch that returns a bundle, over
any table, any failures and any answers of the markets in the expected order: the candles of every
time frame are in the order of time, there are some of the main one, and of the time frames of the
plan only those without an error have candles. -/
theorem bundle_inOrder (hservice : ∀ t, AnswersInOrder runtime (service t))
    (hdirect : ∀ t, AnswersInOrder runtime (direct t)) {events : List FetchEvent} {s : FetchState}
    (hrun : run (fetchStep plan
      (marketTasks world runtime text settings service direct symbol period)) (.start plan) events =
        some s)
    {bundle : MultiTimeframeFetchBundle} (hresult : s.result = some (.ok bundle)) :
    (∀ timeframe, Chronological (bundle.get timeframe)) ∧ bundle.get plan.mainTimeframe ≠ [] ∧
      ∀ timeframe ∈ plan.mentionedTimeframes,
        bundle.get timeframe = [] ↔ ∃ error, bundle.errors.lookup timeframe = some error := by
  obtain ⟨-, hmain, hbundle⟩ := (fetchInv_of_run hrun).of_ok hresult
  refine ⟨fun timeframe ↦ ?_, ?_, fun timeframe hmentioned ↦ ?_⟩
  · rw [MultiTimeframeFetchBundle.get, (hbundle timeframe).1]
    split
    · exact chronological_candles hservice hdirect timeframe
    · exact chronological_nil
  · have hrequired : plan.mainTimeframe ∈ plan.requiredTimeframes := by
      obtain ⟨others, hothers⟩ := plan.exists_requiredTimeframes_eq_cons
      rw [hothers]
      exact List.mem_cons_self ..
    rw [MultiTimeframeFetchBundle.get, (hbundle plan.mainTimeframe).1, if_pos hrequired,
      Option.getD_some, FetchTasks.candles]
    split
    · next candles hcandles =>
      rintro rfl
      exact fetchSingleTimeframe_ne_nil _ _ _ _ hcandles
    · next exc hexc => exact absurd ⟨exc, hexc⟩ hmain
  · exact candles_eq_nil_iff_errors hrun hresult
      (AnalysisTimeframePlan.mem_requiredTimeframes.2 hmentioned)

end Bundle

/-! ### A fetch while Yahoo is down -/

/-- A record of Twelve Data with one price. -/
def flatRecord (datetime price : String) : Json ℚ :=
  .dict [("datetime", .str datetime), ("open", .str price), ("high", .str price),
    ("low", .str price), ("close", .str price)]

/-- An answer of Twelve Data with two days. -/
def twoDaysText : String :=
  "\x7b\"values\": [" ++
    "\x7b\"datetime\": \"2024-01-03\", \"open\": \"7\", \"high\": \"7\", " ++
      "\"low\": \"7\", \"close\": \"7\"\x7d, " ++
    "\x7b\"datetime\": \"2024-01-02\", \"open\": \"5\", \"high\": \"5\", " ++
      "\"low\": \"5\", \"close\": \"5\"\x7d]\x7d"

/-- The members of the answer. -/
def twoDaysPayload : List (String × Json ℚ) :=
  [("values", .list [flatRecord "2024-01-03" "7", flatRecord "2024-01-02" "5"])]

/-- A decoder that can read the answer. -/
def decodeTwoDays (text : String) : Except PyException (Json ℚ) :=
  if text = twoDaysText then .ok (.dict twoDaysPayload) else .error (.valueError "invalid JSON")

/-- A runtime with this decoder. -/
def twoDaysRuntime : ProviderRuntime where
  toPyRuntime := { exactRuntime with decodeJson := decodeTwoDays }
  fromisoformat text :=
    if text = "2024-01-03" then some 1704240000000000
    else if text = "2024-01-02" then some 1704153600000000
    else none

/-- Yahoo and FMP cannot be reached, and Twelve Data answers. -/
def yahooDown : MarketWorld where
  history _ _ _ := .error (.other "YFRateLimitError")
  twelveData _ := .ok ⟨200, twoDaysText, ""⟩
  fmp _ := .error (.other "ConnectError")
  today := 0
  twelveDataLimiter := .create 0
  fmpLimiter := .create 0

theorem eq_of_decodeTwoDays {text : String} {data : Json ℚ} (h : decodeTwoDays text = .ok data) :
    data = .dict twoDaysPayload := by
  rw [decodeTwoDays] at h
  split at h
  · exact (Except.ok.inj h).symm
  · exact nomatch h

theorem answersInOrder_yahooDown : AnswersInOrder twoDaysRuntime yahooDown where
  history _ _ _ _ h := nomatch h
  twelveData request response members records hget hdata hlookup := by
    obtain rfl := Json.dict.inj (eq_of_decodeTwoDays hdata)
    obtain rfl := Json.list.inj (Option.some.inj hlookup)
    refine List.pairwise_pair.2 fun s t hs ht ↦ ?_
    rw [← Except.ok.inj hs, ← Except.ok.inj ht]
    decide
  fmpDaily _ _ _ _ h := nomatch h
  fmpIntraday _ _ _ h := nomatch h

/-- The daily candles of Twelve Data come in the order of time. -/
theorem bundle_inOrder_yahooDown :
    let tasks := marketTasks (fun _ ↦ ⟨∅, [], {}, {}, 0, fun _ ↦ 0, [], id, {}, {}⟩) twoDaysRuntime
      (fun _ ↦ "") ⟨"key", ""⟩ (fun _ ↦ yahooDown) (fun _ ↦ yahooDown) "EURUSD" "30d"
    let plan := resolveAnalysisTimeframes .d1
    ∃ s bundle, run (fetchStep plan tasks) (.start plan) [.taskEnds .d1, .taskEnds .w1,
        .taskEnds .h1, .taskEnds .m15, .resume, .resume, .resume, .resume, .resume] = some s ∧
      s.result = some (.ok bundle) ∧ Chronological (bundle.get .d1) ∧ bundle.get .d1 ≠ [] := by
  intro tasks plan
  have hreturns : ((run (fetchStep plan tasks) (.start plan) [.taskEnds .d1, .taskEnds .w1,
      .taskEnds .h1, .taskEnds .m15, .resume, .resume, .resume, .resume, .resume]).bind
        fun s ↦ s.result.bind Except.toOption).isSome = true := by
    decide +kernel
  obtain ⟨bundle, hbundle⟩ := Option.isSome_iff_exists.1 hreturns
  obtain ⟨s, hs, hbundle⟩ := Option.bind_eq_some_iff.1 hbundle
  obtain ⟨result, hresult, hbundle⟩ := Option.bind_eq_some_iff.1 hbundle
  cases result with
  | error e => exact nomatch hbundle
  | ok b =>
    obtain rfl := Option.some.inj hbundle
    obtain ⟨hordered, hmain, -⟩ := bundle_inOrder (fun _ ↦ answersInOrder_yahooDown)
      (fun _ ↦ answersInOrder_yahooDown) hs hresult
    exact ⟨s, b, hs, hresult, hordered .d1, hmain⟩

end InvestmentAssistant
