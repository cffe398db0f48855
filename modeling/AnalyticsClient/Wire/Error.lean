import AnalyticsClient.Error
import AnalyticsClient.Wire.Variants

/-! The plain form of errors. -/

namespace AnalyticsClient

open Wire (Decoder Fields Fault Payload)

variable {σ : Type} [Wire.Source σ]

namespace EngineErrorKind

/-- A kind as a plain value. -/
def encode (kind : EngineErrorKind) : Json := .str kind.text

/-- Reads a kind of engine error. -/
def decode : Decoder σ EngineErrorKind :=
  let known := all.map text
  Wire.variant known fun name payload =>
    match all.find? fun kind => kind.text = name with
    | some kind => payload.unit.map fun _ => kind
    | none => .error (.unknownVariant name known)

end EngineErrorKind

namespace EngineError

/-- An engine error as a plain value. -/
def encode (error : EngineError) : Json :=
  .ofFields [("kind", some error.kind.encode), ("message", some (.str error.message)),
    ("context", error.context.map .str)]

/-- The fields of an engine error. -/
def fields : Fields σ EngineError :=
  EngineError.mk <$> .required "kind" EngineErrorKind.decode <*> .required "message" Wire.string
    <*> .perhaps "context" Wire.string

/-- Reads an engine error. -/
def decode : Decoder σ EngineError := fields.readOpen "struct EngineError"

end EngineError

namespace Error

/-- The names of the kinds of error, in the order of their declaration. -/
def names : List String :=
  ["UnrecognizedOperation", "InvalidEnumString", "MalformedMutationToken", "InvalidArguments",
    "Engine", "AlreadyQueried", "Config"]

/-- An error as a plain value. -/
def encode (error : Error) : Json :=
  match error with
  | .unrecognizedOperation operation => variant [("operation", .str operation)]
  | .invalidEnumString kind value => variant [("kind", .str kind), ("value", .str value)]
  | .malformedMutationToken index reason =>
    variant [("index", .nat index.toNat), ("reason", .str reason)]
  | .invalidArguments operation reason =>
    variant [("operation", .str operation), ("reason", .str reason)]
  | .engine inner => .obj [(error.name, inner.encode)]
  | .alreadyQueried => .str error.name
  | .config reason => variant [("reason", .str reason)]
where
  variant (members : List (String × Json)) : Json :=
    .obj [(error.name, .ofMembers members)]

/-- Reads an error. -/
def decode : Decoder σ Error :=
  Wire.variant names fun name payload =>
    let content (fields : Fields σ Error) : Except Fault Error :=
      payload.fields ("struct variant Error::" ++ name) fields
    match name with
    | "UnrecognizedOperation" =>
      content (.unrecognizedOperation <$> .required "operation" Wire.string)
    | "InvalidEnumString" =>
      content (.invalidEnumString <$> .required "kind" Wire.string
        <*> .required "value" Wire.string)
    | "MalformedMutationToken" =>
      content (.malformedMutationToken <$> .required "index" Wire.size
        <*> .required "reason" Wire.string)
    | "InvalidArguments" =>
      content (.invalidArguments <$> .required "operation" Wire.string
        <*> .required "reason" Wire.string)
    | "Engine" => (payload.value EngineError.decode).map .engine
    | "AlreadyQueried" => payload.unit.map fun _ => .alreadyQueried
    | "Config" => content (.config <$> .required "reason" Wire.string)
    | _ => .error (.unknownVariant name names)

/-- Reads a value or an engine error in its stead. -/
def decodeResult {α : Type} (read : Decoder σ α) : Decoder σ (Except EngineError α) :=
  let known := ["Ok", "Err"]
  Wire.variant known fun name payload =>
    match name with
    | "Ok" => (payload.value read).map .ok
    | "Err" => (payload.value EngineError.decode).map .error
    | _ => .error (.unknownVariant name known)

end Error

end AnalyticsClient
