import AnalyticsClient.Choice
import AnalyticsClient.Operation.Output

/-! What a client tells its log. -/

namespace AnalyticsClient

/-- An event worth a line in the log. -/
inductive LogEvent where
  /-- A management operation goes to the engine. -/
  | submitting (operation : Operation) (clientContextId : String) (timeoutMs : UInt64)
  /-- A management operation ended well. -/
  | completed (operation : Operation) (clientContextId : String)
  /-- The engine answered with another kind of output than the operation is due. -/
  | wrongKind (operation : Operation) (clientContextId : String) (output : OutputKind)
  /-- A management operation failed. -/
  | failed (operation : Operation) (clientContextId : String) (error : Error)
  /-- The engine gave up an operation without an answer. -/
  | released (label : String)
  /-- A query goes to the engine. -/
  | submittingQuery (clientContextId : String) (timeoutMs : UInt64)
      (scanConsistency : Option ScanConsistency) (tokens : Nat)
  /-- The rows of a query ended with its metadata. -/
  | streamCompleted (clientContextId : String) (rows : Nat) (status : QueryStatus)
  /-- The rows of a query ended with an error. -/
  | streamFailed (clientContextId : String) (rows : Nat) (error : EngineError)
  /-- The rows of a query ended with nothing. -/
  | streamCutShort (clientContextId : String) (rows : Nat)
  /-- The caller wants no more rows. -/
  | streamClosed (clientContextId : String) (rows : Nat)
deriving DecidableEq

namespace LogEvent

/-- How grave an event is. -/
inductive Level where
  | debug
  | warn
deriving DecidableEq, Repr

/-- The name of a level. -/
def Level.name : Level → String
  | .debug => "DEBUG"
  | .warn => "WARN"

/-- How grave an event is. -/
def level : LogEvent → Level
  | .submitting .. | .completed .. | .submittingQuery .. | .streamCompleted ..
  | .streamClosed .. => .debug
  | .wrongKind .. | .failed .. | .released .. | .streamFailed .. | .streamCutShort .. => .warn

/-- The part of the client that an event comes from. -/
def target : LogEvent → String
  | .submitting .. | .completed .. | .wrongKind .. | .failed .. | .released .. =>
    "cbbridge::dispatch"
  | .submittingQuery .. | .streamCompleted .. | .streamFailed .. | .streamCutShort ..
  | .streamClosed .. => "cbbridge::query"

/-- The message of an event. -/
def message : LogEvent → String
  | .submitting .. => "submitting analytics management operation"
  | .completed .. => "analytics management operation completed"
  | .wrongKind .. => "engine replied with an output of the wrong kind"
  | .failed .. => "analytics management operation failed"
  | .released .. => "completion dropped by engine without a reply"
  | .submittingQuery .. => "submitting query"
  | .streamCompleted .. => "query stream completed"
  | .streamFailed .. => "query stream failed"
  | .streamCutShort .. => "query stream ended without metadata"
  | .streamClosed .. => "query stream closed by caller"

/-- The name of a scan consistency that may be left to the service. -/
def consistencyText : Option ScanConsistency → String
  | none => "None"
  | some consistency => "Some(" ++ Choice.name consistency ++ ")"

/-- What an event tells beside its message, each value as a text. -/
def details : LogEvent → List (String × String)
  | .submitting operation id timeoutMs =>
    [("operation", operation.name), ("client_context_id", id),
      ("timeout_ms", toString timeoutMs.toNat)]
  | .completed operation id => [("operation", operation.name), ("client_context_id", id)]
  | .wrongKind operation id output =>
    [("operation", operation.name), ("client_context_id", id), ("output", output.name)]
  | .failed operation id error =>
    [("operation", operation.name), ("client_context_id", id), ("error", error.message)]
  | .released label => [("operation", label)]
  | .submittingQuery id timeoutMs consistency tokens =>
    [("client_context_id", id), ("timeout_ms", toString timeoutMs.toNat),
      ("scan_consistency", consistencyText consistency), ("tokens", toString tokens)]
  | .streamCompleted id rows status =>
    [("client_context_id", id), ("rows", toString rows), ("status", Choice.text status)]
  | .streamFailed id rows error =>
    [("client_context_id", id), ("rows", toString rows), ("error", error.describe)]
  | .streamCutShort id rows | .streamClosed id rows =>
    [("client_context_id", id), ("rows", toString rows)]

end LogEvent

/-- A world in which events can be logged. -/
class Logging (ω : Type) where
  /-- The world after an event was logged. -/
  log : LogEvent → ω → ω

end AnalyticsClient
