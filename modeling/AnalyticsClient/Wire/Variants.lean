import AnalyticsClient.Wire.Fields

/-! Variants: a value that is one of several named kinds, each with a content of its own. -/

namespace AnalyticsClient.Wire

/-- What stands beside the name of a variant. -/
inductive Payload (σ : Type) where
  /-- The name stood alone. -/
  | bare
  | content (source : σ)

variable {σ α : Type} [Source σ]

/-- Goes on with a variant if its name is known. -/
def named (known : List String) (name : String) (payload : Payload σ)
    (go : String → Payload σ → Except Fault α) : Except Fault α :=
  if name ∈ known then go name payload else .error (.unknownVariant name known)

/-- Reads the name of a variant alone, or a record whose only member has that name. -/
def variant (known : List String) (go : String → Payload σ → Except Fault α) : Decoder σ α :=
  fun source =>
    match Source.view source, Source.style σ with
    | .str name, _ => named known name .bare go
    | .unreadable _ asVariant, _ => .error asVariant
    | .record [] stop _, .text => do
      atEnd stop
      .error (.cut .malformed)
    | .record ((name, content) :: _) _ surplus, .text => do
      let value ← named known name (.content content) go
      -- The record is closed only after its content was read.
      atEnd surplus
      return value
    | _, .text => .error (.cut .malformed)
    | .record [(name, content)] _ _, _ => named known name (.content content) go
    | .record _ _ _, _ => .error (.wrongValue .record "map with a single key")
    | other, _ => unexpected "string or map" other

namespace Payload

/-- The content of a variant that has none: nothing, or null. -/
def unit : Payload σ → Except Fault Unit
  | .bare => .ok ()
  | .content source =>
    match Source.view source with
    | .null => .ok ()
    | other => unexpected "unit" other

/-- The content of a variant that holds one value. -/
def value (read : Decoder σ α) : Payload σ → Except Fault α
  | .bare => .error (.wrongType .bareVariant "newtype variant")
  | .content source => read source

/-- The content of a variant that holds named fields. -/
def fields (what : String) (fields : Fields σ α) : Payload σ → Except Fault α
  | .bare => .error (.wrongType .bareVariant "struct variant")
  | .content source =>
    match Source.view source, Source.style σ with
    -- A text is read as a record whatever it holds, and fails as one.
    | .record _ _ _, _ | _, .text => fields.readOpen what source
    | other, _ => unexpected "struct variant" other

end Payload

end AnalyticsClient.Wire
