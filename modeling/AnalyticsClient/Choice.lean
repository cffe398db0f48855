import AnalyticsClient.Error
import AnalyticsClient.Wire.Source

/-! Enumerations whose members are written as fixed texts. -/

namespace AnalyticsClient

/-- A type with finitely many members, each written as a text of its own. -/
class Choice (α : Type) where
  /-- What the enumeration is called in messages. -/
  kind : String
  /-- The members in order. -/
  all : List α
  /-- The written form of a member. -/
  text : α → String
  /-- The name of a member. -/
  name : α → String

namespace Choice

variable {α : Type} [Choice α]

/-- The member with a written form. -/
def parse? (value : String) : Option α := (all : List α).find? fun member => text member = value

/-- The member with a written form, or the error that there is none. -/
def parse (value : String) : Outcome α :=
  match parse? value with
  | some member => .ok member
  | none => .error (.invalidEnumString (kind α) value)

/-- Reads a member from its written form. -/
def decode {σ : Type} [Wire.Source σ] : Wire.Decoder σ α := fun source => do
  let value ← Wire.string source
  match parse? value with
  | some member => return member
  | none => .error (.unknownChoice (kind α) value)

/-- A member in its written form. -/
def encode (member : α) : Json := .str (text member)

end Choice

/-- Whether a query may see data older than the latest changes. -/
inductive ScanConsistency where
  | notBounded
  | requestPlus
deriving DecidableEq, Repr

instance : Choice ScanConsistency where
  kind := "scan consistency"
  all := [.notBounded, .requestPlus]
  text
    | .notBounded => "not_bounded"
    | .requestPlus => "request_plus"
  name
    | .notBounded => "NotBounded"
    | .requestPlus => "RequestPlus"

instance : Inhabited ScanConsistency := ⟨.notBounded⟩

/-- How much of a query's execution is measured. -/
inductive ProfileMode where
  | off
  | phases
  | timings
deriving DecidableEq, Repr

instance : Choice ProfileMode where
  kind := "profile mode"
  all := [.off, .phases, .timings]
  text
    | .off => "off"
    | .phases => "phases"
    | .timings => "timings"
  name
    | .off => "Off"
    | .phases => "Phases"
    | .timings => "Timings"

instance : Inhabited ProfileMode := ⟨.off⟩

/-- How a query stands or ended. -/
inductive QueryStatus where
  | running
  | success
  | errors
  | completed
  | stopped
  | timeout
  | closed
  | fatal
  | aborted
  | unknown
deriving DecidableEq, Repr

instance : Choice QueryStatus where
  kind := "query status"
  all := [.running, .success, .errors, .completed, .stopped, .timeout, .closed, .fatal, .aborted,
    .unknown]
  text
    | .running => "running"
    | .success => "success"
    | .errors => "errors"
    | .completed => "completed"
    | .stopped => "stopped"
    | .timeout => "timeout"
    | .closed => "closed"
    | .fatal => "fatal"
    | .aborted => "aborted"
    | .unknown => "unknown"
  name
    | .running => "Running"
    | .success => "Success"
    | .errors => "Errors"
    | .completed => "Completed"
    | .stopped => "Stopped"
    | .timeout => "Timeout"
    | .closed => "Closed"
    | .fatal => "Fatal"
    | .aborted => "Aborted"
    | .unknown => "Unknown"

/-- The status that the engine writes, unknown if it writes none of them. -/
def QueryStatus.ofEngine (value : String) : QueryStatus := (Choice.parse? value).getD .unknown

/-- The kinds of service that a link leads to. -/
inductive LinkType where
  | couchbaseRemote
  | s3External
  | azureBlobExternal
deriving DecidableEq, Repr

instance : Choice LinkType where
  kind := "analytics link"
  all := [.couchbaseRemote, .s3External, .azureBlobExternal]
  text
    | .couchbaseRemote => "couchbase"
    | .s3External => "s3"
    | .azureBlobExternal => "azureblob"
  name
    | .couchbaseRemote => "CouchbaseRemote"
    | .s3External => "S3External"
    | .azureBlobExternal => "AzureBlobExternal"

/-- How much of the traffic over a link is encrypted. -/
inductive EncryptionLevel where
  | none
  | half
  | full
deriving DecidableEq, Repr

instance : Choice EncryptionLevel where
  kind := "analytics encryption level"
  all := [.none, .half, .full]
  text
    | .none => "none"
    | .half => "half"
    | .full => "full"
  name
    | .none => "None"
    | .half => "Half"
    | .full => "Full"

instance : Inhabited EncryptionLevel := ⟨.none⟩

end AnalyticsClient
