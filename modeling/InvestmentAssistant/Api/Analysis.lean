import InvestmentAssistant.Foundation.Transition
import InvestmentAssistant.Orchestration.StatusTrace

/-!
# Requests for an analysis

`get_analysis` answers with the status of an analysis until it is completed, and with its report
from then on. The report is looked for in the result cache — in Redis or in the fallback, whichever
the moment allows — and then in the database row; what the row gives is put back into the cache.

The pipeline and any number of requests run concurrently. A request is suspended at every call it
awaits, and each call is an event of its own (`RetrievalEvent`), with what becomes of it; the
pipeline goes through the effects of its run (`AnalysisPipeline.effects`), one at an event. So the
runs of `retrievalStep` are all interleavings, with Redis and the database failing and recovering at
any moment. The cache is shared with other analyses, whose calls go to other keys.
-/

namespace InvestmentAssistant

/-! ### The representations of a report -/

/-- How a report is written and read: `model_dump(mode="json")` and `model_validate` for the cache,
`model_dump_json` and `model_validate_json` for the row. -/
structure ReportFormat (Report V : Type) where
  modelDump : Report → V
  modelValidate : V → Option Report
  modelDumpJson : Report → String
  modelValidateJson : String → Option Report

/-- The report can be read back from everything it is written as. -/
structure ReportFormat.RoundTrips {Report V : Type} (format : ReportFormat Report V)
    (codec : JsonCodec V) (r : Report) : Prop where
  validate_dump : format.modelValidate (format.modelDump r) = some r
  validate_json : ((codec.dumps (format.modelDump r)).bind codec.loads).bind format.modelValidate =
    some r
  dumpJson_ne_empty : format.modelDumpJson r ≠ ""
  validate_dumpJson : format.modelValidateJson (format.modelDumpJson r) = some r

/-- The prefix of the keys of `_analysis_results`. -/
def analysisResultPrefix : String := "analysis:result"

/-! ### The system -/

/-- What a request is answered with. -/
inductive Response (Report : Type)
  | report (r : Report)
  | status (status : AnalysisStatus)
  | notFound
  deriving DecidableEq

/-- Where a request is. -/
inductive RequestPhase (Report : Type)
  | idle
  /-- Waits for the cache. -/
  | reading (status : AnalysisStatus)
  /-- Removes an invalid entry from the cache. -/
  | invalidating (status : AnalysisStatus)
  /-- Waits for the database. -/
  | loading (status : AnalysisStatus)
  /-- Puts the report back into the cache. -/
  | refilling (r : Report)
  | responded (response : Response Report)

/-- What is left of the pipeline, the stores, and the requests. The cache is kept as the calls that
were made on it. -/
structure RetrievalState (Report V : Type) where
  pending : List (PipelineEffect Report)
  /-- The entry of `analysis_tasks`. -/
  status : Option AnalysisStatus := none
  cacheCalls : List (CacheEvent V) := []
  /-- `result_json` of the row. -/
  row : Option String := none
  phase : ℕ → RequestPhase Report := fun _ ↦ .idle

/-- The events of the pipeline, of the requests, and of other analyses. -/
inductive RetrievalEvent (V : Type)
  | pipeline
  | other (e : CacheEvent V)
  | start (request : ℕ)
  | readCache (request : ℕ) (availability : Availability)
  | invalidate (request : ℕ) (availability : Availability)
  | loadRow (request : ℕ) (readable : Bool)
  /-- The command of a refill takes effect before its answer is there. -/
  | refillTakesEffect (request : ℕ)
  | refill (request : ℕ) (availability : Availability)

section System

variable {Report V : Type} (format : ReportFormat Report V) (codec : JsonCodec V)
  (analysisId : String)

namespace RetrievalState

/-- A request moves on. -/
def advance (s : RetrievalState Report V) (request : ℕ) (phase : RequestPhase Report) :
    RetrievalState Report V :=
  { s with phase := Function.update s.phase request phase }

/-- A call on the cache. -/
def call (s : RetrievalState Report V) (e : CacheEvent V) : RetrievalState Report V :=
  { s with cacheCalls := s.cacheCalls ++ [e] }

/-- The stores of the cache. -/
def stores (s : RetrievalState Report V) : CacheStores V :=
  storesAfter codec analysisResultPrefix s.cacheCalls

end RetrievalState

/-- The `set` on `_analysis_results`. -/
def cacheReportEvent (r : Report) (availability : Availability) : CacheEvent V :=
  ⟨.set analysisId (format.modelDump r), availability⟩

/-- What the pipeline does next. -/
def applyEffect (s : RetrievalState Report V) : PipelineEffect Report → RetrievalState Report V
  | .published status => { s with status := some status }
  | .rowStored r => { s with row := some (format.modelDumpJson r) }
  | .reportCached r availability => s.call (cacheReportEvent format analysisId r availability)

/-- `_load_report_from_db`. -/
def loadReportFromDb (row : Option String) (readable : Bool) : Option Report :=
  if readable then
    row.bind fun resultJson ↦
      if resultJson ≠ "" then format.modelValidateJson resultJson else none
  else none

/-- The beginning of `get_analysis`, up to its first wait. -/
def startRequest (status : Option AnalysisStatus) : RequestPhase Report :=
  match status with
  | none => .responded .notFound
  | some status =>
    if status.status = .completed then .reading status else .responded (.status status)

/-- One step of the pipeline, of a request, or of another analysis. -/
def retrievalStep (s : RetrievalState Report V) :
    RetrievalEvent V → Option (RetrievalState Report V)
  | .pipeline =>
    match s.pending with
    | effect :: pending => some (applyEffect format analysisId { s with pending } effect)
    | [] => none
  | .other e => if e.key = analysisId then none else some (s.call e)
  | .start request =>
    match s.phase request with
    | .idle => some (s.advance request (startRequest s.status))
    | _ => none
  | .readCache request availability =>
    match s.phase request with
    | .reading status =>
      match cacheGet codec analysisResultPrefix (s.stores codec) availability analysisId with
      | some cached =>
        match format.modelValidate cached with
        | some r => some (s.advance request (.responded (.report r)))
        | none => some (s.advance request (.invalidating status))
      | none => some (s.advance request (.loading status))
    | _ => none
  | .invalidate request availability =>
    match s.phase request with
    | .invalidating status =>
      some ((s.call ⟨.invalidate analysisId, availability⟩).advance request (.loading status))
    | _ => none
  | .loadRow request readable =>
    match s.phase request with
    | .loading status =>
      match loadReportFromDb format s.row readable with
      | some r => some (s.advance request (.refilling r))
      | none => some (s.advance request (.responded (.status status)))
    | _ => none
  | .refillTakesEffect request =>
    match s.phase request with
    | .refilling r => some (s.call (cacheReportEvent format analysisId r .up))
    | _ => none
  | .refill request availability =>
    match s.phase request with
    | .refilling r =>
      some ((s.call (cacheReportEvent format analysisId r availability)).advance request
        (.responded (.report r)))
    | _ => none

end System

/-- Before an analysis is created. -/
def retrievalStart {Report : Type} (V : Type) (p : AnalysisPipeline)
    (calls : PipelineCalls Report) : RetrievalState Report V where
  pending := p.effects calls

end InvestmentAssistant
