/-! Why an operation fails: faults of the caller, of the engine and of the configuration. -/

namespace AnalyticsClient

/-- The kinds of failure that the engine reports. -/
inductive EngineErrorKind where
  | timeout
  | network
  | server
  | protocol
  | dropped
  | internal
deriving DecidableEq, Repr

namespace EngineErrorKind

/-- All kinds, in the order of their declaration. -/
def all : List EngineErrorKind := [.timeout, .network, .server, .protocol, .dropped, .internal]

/-- The written name of a kind. -/
def text : EngineErrorKind → String
  | .timeout => "timeout"
  | .network => "network"
  | .server => "server"
  | .protocol => "protocol"
  | .dropped => "dropped"
  | .internal => "internal"

end EngineErrorKind

/-- A failure reported by the engine, or made up where the engine failed to report. -/
structure EngineError where
  kind : EngineErrorKind
  message : String
  /-- What the engine adds, such as the id of the request. -/
  context : Option String
deriving DecidableEq

namespace EngineError

/-- An answer that does not fit its question. -/
def protocol (message : String) : EngineError := ⟨.protocol, message, none⟩

/-- An answer that never came. -/
def dropped (message : String) : EngineError := ⟨.dropped, message, none⟩

/-- The error with a context. -/
def withContext (error : EngineError) (context : String) : EngineError :=
  { error with context := some context }

/-- The message of an engine error. -/
def describe (error : EngineError) : String :=
  error.kind.text ++ " error: " ++ error.message

end EngineError

/-- The reasons for which an operation has no result. -/
inductive Error where
  | unrecognizedOperation (operation : String)
  | invalidEnumString (kind value : String)
  | malformedMutationToken (index : UInt64) (reason : String)
  | invalidArguments (operation reason : String)
  | engine (error : EngineError)
  | alreadyQueried
  | config (reason : String)
deriving DecidableEq

namespace Error

/-- The name of the kind of error. -/
def name : Error → String
  | .unrecognizedOperation _ => "UnrecognizedOperation"
  | .invalidEnumString _ _ => "InvalidEnumString"
  | .malformedMutationToken _ _ => "MalformedMutationToken"
  | .invalidArguments _ _ => "InvalidArguments"
  | .engine _ => "Engine"
  | .alreadyQueried => "AlreadyQueried"
  | .config _ => "Config"

/-- The message of an error. -/
def message : Error → String
  | .unrecognizedOperation operation => "unrecognized operation: " ++ operation
  | .invalidEnumString kind value => "invalid " ++ kind ++ " type " ++ value
  | .malformedMutationToken index reason =>
    "malformed mutation token at index " ++ toString index.toNat ++ ": " ++ reason
  | .invalidArguments operation reason =>
    "invalid arguments for " ++ operation ++ ": " ++ reason
  | .engine error => "engine failure: " ++ error.describe
  | .alreadyQueried => "query result has already been iterated"
  | .config reason => "configuration error: " ++ reason

/-- Whether the caller's input is at fault, so that nothing was sent to the engine. -/
def isValidation : Error → Bool
  | .unrecognizedOperation _ | .invalidEnumString _ _ | .malformedMutationToken _ _
  | .invalidArguments _ _ => true
  | .engine _ | .alreadyQueried | .config _ => false

/-- The kind of an engine failure. -/
def engineKind? : Error → Option EngineErrorKind
  | .engine error => some error.kind
  | _ => none

end Error

/-- A value, or the reason why there is none. -/
abbrev Outcome (α : Type) := Except Error α

end AnalyticsClient
