import AnalyticsClient.Query.Options

/-! Queries as the engine gets them, and the ids that requests go by. -/

namespace AnalyticsClient

/-- A supply of ids that are given to requests without one. -/
structure IdSupply where
  /-- All ids, in the order in which they are drawn. -/
  id : Nat → String
  /-- How many were drawn. -/
  drawn : Nat

/-- Draws an id. -/
def IdSupply.draw (supply : IdSupply) : String × IdSupply :=
  (supply.id supply.drawn, { supply with drawn := supply.drawn + 1 })

/-- A query with every choice made. -/
structure QueryRequest where
  statement : String
  clientContextId : String
  timeout : Duration
  /-- None leaves the choice to the service. -/
  scanConsistency : Option ScanConsistency
  mutationState : List MutationToken
  profile : ProfileMode
  adhoc : Bool
  readOnly : Bool
  metrics : Bool
  flexIndex : Bool
  maxParallelism : Option UInt32
  scanCap : Option UInt32
  scanWait : Option Duration
  pipelineBatch : Option UInt32
  pipelineCap : Option UInt32
  queryContext : Option String
  positionalParameters : List Json
  /-- All names start with a dollar sign. -/
  namedParameters : Dict Json
  raw : Dict Json
deriving DecidableEq

namespace QueryRequest

/-- The request for a statement under an id. -/
def build (statement id : String) (options : QueryOptions) (defaultTimeout : Duration) :
    QueryRequest where
  statement := statement
  clientContextId := id
  timeout := options.timeout.getD defaultTimeout
  scanConsistency := options.scanConsistency
  mutationState := options.consistentWith.tokens
  profile := options.profile.getD default
  adhoc := options.adhoc
  readOnly := options.readOnly
  metrics := options.metrics
  flexIndex := options.flexIndex
  maxParallelism := options.maxParallelism
  scanCap := options.scanCap
  scanWait := options.scanWait
  pipelineBatch := options.pipelineBatch
  pipelineCap := options.pipelineCap
  queryContext := options.queryContext
  positionalParameters := options.positionalParameters
  namedParameters := options.namedParameters.mapKeys dollarName
  raw := options.raw

/-- The request for a statement. An id is drawn only if the options have none. -/
def make (statement : String) (options : QueryOptions) (defaultTimeout : Duration)
    (supply : IdSupply) : QueryRequest × IdSupply :=
  match options.clientContextId with
  | some id => (build statement id options defaultTimeout, supply)
  | none =>
    let (id, supply) := supply.draw
    (build statement id options defaultTimeout, supply)

end QueryRequest

end AnalyticsClient
