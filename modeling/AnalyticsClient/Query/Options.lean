import AnalyticsClient.Choice
import AnalyticsClient.Duration
import AnalyticsClient.Mutation.State

/-! How a query is to be executed: the options as callers write them, and the options understood. -/

namespace AnalyticsClient

/-- The options of a query. -/
structure QueryOptions where
  scanConsistency : Option ScanConsistency
  /-- The writes that the query has to see. -/
  consistentWith : MutationState
  profile : Option ProfileMode
  timeout : Option Duration
  /-- Whether the statement is not worth preparing. -/
  adhoc : Bool
  clientContextId : Option String
  readOnly : Bool
  metrics : Bool
  flexIndex : Bool
  maxParallelism : Option UInt32
  scanCap : Option UInt32
  scanWait : Option Duration
  pipelineBatch : Option UInt32
  pipelineCap : Option UInt32
  queryContext : Option String
  positionalParameters : List Json
  namedParameters : Dict Json
  /-- Parameters that are passed on as they are. -/
  raw : Dict Json
deriving DecidableEq

/-- One option of a query, as a caller sets it. -/
inductive QuerySetting where
  | scanConsistency (consistency : ScanConsistency)
  | mutations (state : MutationState)
  | profile (mode : ProfileMode)
  | timeout (timeout : Duration)
  | clientContextId (id : String)
  | metrics (wanted : Bool)
  | readOnly (wanted : Bool)
  /-- One more positional parameter. -/
  | positional (value : Json)
  /-- A named parameter under its dollar name. -/
  | named (name : String) (value : Json)
  /-- A named parameter under the name as it stands. -/
  | namedAsIs (name : String) (value : Json)
  /-- A parameter that is passed on as it is. -/
  | raw (name : String) (value : Json)
deriving DecidableEq

/-- A name with a dollar sign in front; one that is there is not doubled. -/
def dollarName (name : String) : String :=
  match name.toList with
  | '$' :: _ => name
  | _ => "$" ++ name

namespace QueryOptions

instance : Inhabited QueryOptions where
  default :=
    { scanConsistency := none, consistentWith := .empty, profile := none, timeout := none
      adhoc := true, clientContextId := none, readOnly := false, metrics := false
      flexIndex := false, maxParallelism := none, scanCap := none, scanWait := none
      pipelineBatch := none, pipelineCap := none, queryContext := none
      positionalParameters := [], namedParameters := ∅, raw := ∅ }

/-- The options with one of them set. -/
def set (options : QueryOptions) : QuerySetting → QueryOptions
  | .scanConsistency consistency => { options with scanConsistency := some consistency }
  | .mutations state => { options with consistentWith := state }
  | .profile mode => { options with profile := some mode }
  | .timeout timeout => { options with timeout := some timeout }
  | .clientContextId id => { options with clientContextId := some id }
  | .metrics wanted => { options with metrics := wanted }
  | .readOnly wanted => { options with readOnly := wanted }
  | .positional value =>
    { options with positionalParameters := options.positionalParameters ++ [value] }
  | .named name value =>
    { options with namedParameters := options.namedParameters.insert (dollarName name) value }
  | .namedAsIs name value =>
    { options with namedParameters := options.namedParameters.insert name value }
  | .raw name value => { options with raw := options.raw.insert name value }

/-- The options with several of them set, one after the other. -/
def setAll (options : QueryOptions) (settings : List QuerySetting) : QueryOptions :=
  settings.foldl set options

end QueryOptions

/-- The options of a query as a caller writes them: choices as texts, tokens as plain values and
times in milliseconds. -/
structure RawQueryOptions where
  scanConsistency : Option String
  consistentWith : List Json
  profile : Option String
  timeoutMs : Option UInt64
  adhoc : Option Bool
  clientContextId : Option String
  readOnly : Option Bool
  metrics : Option Bool
  flexIndex : Option Bool
  maxParallelism : Option UInt32
  scanCap : Option UInt32
  scanWaitMs : Option UInt64
  pipelineBatch : Option UInt32
  pipelineCap : Option UInt32
  queryContext : Option String
  positionalParameters : List Json
  namedParameters : Dict Json
  raw : Dict Json
deriving DecidableEq

namespace RawQueryOptions

instance : Inhabited RawQueryOptions :=
  ⟨⟨none, [], none, none, none, none, none, none, none, none, none, none, none, none, none, [],
    ∅, ∅⟩⟩

/-- Raw options as a plain value, null where there are none. -/
def encode (options : RawQueryOptions) : Json :=
  .ofMembers [("scan_consistency", .orNull (options.scanConsistency.map .str)),
    ("consistent_with", .arr options.consistentWith),
    ("profile", .orNull (options.profile.map .str)), ("timeout_ms", word64 options.timeoutMs),
    ("adhoc", flag options.adhoc),
    ("client_context_id", .orNull (options.clientContextId.map .str)),
    ("read_only", flag options.readOnly), ("metrics", flag options.metrics),
    ("flex_index", flag options.flexIndex), ("max_parallelism", word32 options.maxParallelism),
    ("scan_cap", word32 options.scanCap), ("scan_wait_ms", word64 options.scanWaitMs),
    ("pipeline_batch", word32 options.pipelineBatch), ("pipeline_cap", word32 options.pipelineCap),
    ("query_context", .orNull (options.queryContext.map .str)),
    ("positional_parameters", .arr options.positionalParameters),
    ("named_parameters", .ofDict id options.namedParameters), ("raw", .ofDict id options.raw)]
where
  flag (value : Option Bool) : Json := .orNull (value.map .bool)
  word32 (value : Option UInt32) : Json := .orNull (value.map fun word => .nat word.toNat)
  word64 (value : Option UInt64) : Json := .orNull (value.map fun word => .nat word.toNat)

/-- The fields of raw options. -/
def fields {σ : Type} [Wire.JsonSource σ] : Wire.Fields σ RawQueryOptions :=
  RawQueryOptions.mk <$> .perhaps "scan_consistency" Wire.string
    <*> .withDefault "consistent_with" [] (Wire.list Wire.json) <*> .perhaps "profile" Wire.string
    <*> .perhaps "timeout_ms" Wire.u64 <*> .perhaps "adhoc" Wire.bool
    <*> .perhaps "client_context_id" Wire.string <*> .perhaps "read_only" Wire.bool
    <*> .perhaps "metrics" Wire.bool <*> .perhaps "flex_index" Wire.bool
    <*> .perhaps "max_parallelism" Wire.u32 <*> .perhaps "scan_cap" Wire.u32
    <*> .perhaps "scan_wait_ms" Wire.u64 <*> .perhaps "pipeline_batch" Wire.u32
    <*> .perhaps "pipeline_cap" Wire.u32 <*> .perhaps "query_context" Wire.string
    <*> .withDefault "positional_parameters" [] (Wire.list Wire.json)
    <*> .withDefault "named_parameters" ∅ (Wire.dict Wire.json)
    <*> .withDefault "raw" ∅ (Wire.dict Wire.json)

/-- Reads raw options. -/
def decode {σ : Type} [Wire.JsonSource σ] : Wire.Decoder σ RawQueryOptions :=
  fields.readClosed "struct RawQueryOptions"

/-- Understands a choice that may be missing. -/
def choose {α : Type} [Choice α] : Option String → Outcome (Option α)
  | none => .ok none
  | some value => (Choice.parse value).map some

/-- The options that raw ones stand for, or the first fault: of the scan consistency, the profile
mode or the tokens. -/
def resolve (options : RawQueryOptions) : Outcome QueryOptions := do
  let scanConsistency ← choose options.scanConsistency
  let profile ← choose options.profile
  let consistentWith ← MutationState.ofCaller options.consistentWith
  return {
    scanConsistency, consistentWith, profile
    timeout := options.timeoutMs.map .ofMillis
    adhoc := options.adhoc.getD true
    clientContextId := options.clientContextId
    readOnly := options.readOnly.getD false
    metrics := options.metrics.getD false
    flexIndex := options.flexIndex.getD false
    maxParallelism := options.maxParallelism
    scanCap := options.scanCap
    scanWait := options.scanWaitMs.map .ofMillis
    pipelineBatch := options.pipelineBatch
    pipelineCap := options.pipelineCap
    queryContext := options.queryContext
    positionalParameters := options.positionalParameters
    namedParameters := options.namedParameters.mapKeys dollarName
    raw := options.raw }

end RawQueryOptions

end AnalyticsClient
