import AnalyticsClient.Choice
import AnalyticsClient.Duration

/-! What the service reports about a query after its last row. -/

namespace AnalyticsClient

/-- Measurements of a query's execution. -/
structure QueryMetrics where
  elapsedTime : Duration
  executionTime : Duration
  resultCount : UInt64
  resultSize : UInt64
  mutationCount : UInt64
  sortCount : UInt64
  errorCount : UInt64
  warningCount : UInt64
deriving DecidableEq

/-- Something odd about a query that did not make it fail. -/
structure QueryWarning where
  code : UInt64
  message : String
deriving DecidableEq

/-- The report on a query. -/
structure QueryMetadata where
  requestId : String
  clientContextId : String
  status : QueryStatus
  /-- The shape of the rows. -/
  signature : Option Json
  /-- What profiling found. -/
  profile : Option Json
  metrics : Option QueryMetrics
  warnings : List QueryWarning
deriving DecidableEq

namespace QueryMetrics

/-- Metrics as a plain value. -/
def encode (metrics : QueryMetrics) : Json :=
  .ofMembers [("elapsed_time", metrics.elapsedTime.encode),
    ("execution_time", metrics.executionTime.encode),
    ("result_count", .nat metrics.resultCount.toNat),
    ("result_size", .nat metrics.resultSize.toNat),
    ("mutation_count", .nat metrics.mutationCount.toNat),
    ("sort_count", .nat metrics.sortCount.toNat), ("error_count", .nat metrics.errorCount.toNat),
    ("warning_count", .nat metrics.warningCount.toNat)]

/-- The fields of metrics. -/
def fields {σ : Type} [Wire.Source σ] : Wire.Fields σ QueryMetrics :=
  QueryMetrics.mk <$> .required "elapsed_time" Duration.decode
    <*> .required "execution_time" Duration.decode <*> .required "result_count" Wire.u64
    <*> .required "result_size" Wire.u64 <*> .required "mutation_count" Wire.u64
    <*> .required "sort_count" Wire.u64 <*> .required "error_count" Wire.u64
    <*> .required "warning_count" Wire.u64

/-- Reads metrics. -/
def decode {σ : Type} [Wire.Source σ] : Wire.Decoder σ QueryMetrics :=
  fields.readOpen "struct QueryMetrics"

end QueryMetrics

namespace QueryWarning

/-- A warning as a plain value. -/
def encode (warning : QueryWarning) : Json :=
  .ofMembers [("code", .nat warning.code.toNat), ("message", .str warning.message)]

/-- The fields of a warning. -/
def fields {σ : Type} [Wire.Source σ] : Wire.Fields σ QueryWarning :=
  QueryWarning.mk <$> .required "code" Wire.u64 <*> .required "message" Wire.string

/-- Reads a warning. -/
def decode {σ : Type} [Wire.Source σ] : Wire.Decoder σ QueryWarning :=
  fields.readOpen "struct QueryWarning"

end QueryWarning

namespace QueryMetadata

/-- A report that says no more than how the query ended. -/
def bare (requestId clientContextId : String) (status : QueryStatus) : QueryMetadata :=
  ⟨requestId, clientContextId, status, none, none, none, []⟩

/-- The report with measurements. -/
def withMetrics (metadata : QueryMetadata) (metrics : QueryMetrics) : QueryMetadata :=
  { metadata with metrics := some metrics }

/-- The report with one more warning. -/
def withWarning (metadata : QueryMetadata) (warning : QueryWarning) : QueryMetadata :=
  { metadata with warnings := metadata.warnings ++ [warning] }

/-- A report as a plain value. -/
def encode (metadata : QueryMetadata) : Json :=
  .ofFields [("request_id", some (.str metadata.requestId)),
    ("client_context_id", some (.str metadata.clientContextId)),
    ("status", some (Choice.encode metadata.status)), ("signature", metadata.signature),
    ("profile", metadata.profile), ("metrics", metadata.metrics.map QueryMetrics.encode),
    ("warnings", some (.arr (metadata.warnings.map QueryWarning.encode)))]

/-- The fields of a report. -/
def fields {σ : Type} [Wire.JsonSource σ] : Wire.Fields σ QueryMetadata :=
  QueryMetadata.mk <$> .required "request_id" Wire.string
    <*> .required "client_context_id" Wire.string <*> .required "status" Choice.decode
    <*> .perhaps "signature" Wire.json <*> .perhaps "profile" Wire.json
    <*> .perhaps "metrics" QueryMetrics.decode
    <*> .withDefault "warnings" [] (Wire.list QueryWarning.decode)

/-- Reads a report. -/
def decode {σ : Type} [Wire.JsonSource σ] : Wire.Decoder σ QueryMetadata :=
  fields.readOpen "struct QueryMetadata"

end QueryMetadata

end AnalyticsClient
