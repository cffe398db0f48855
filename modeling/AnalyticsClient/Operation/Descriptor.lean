import AnalyticsClient.Duration
import AnalyticsClient.Operation.Kind

/-! Descriptors: operations as callers describe them, their arguments not yet understood. -/

namespace AnalyticsClient

/-- An operation with its arguments as a plain value. -/
structure Descriptor where
  operation : Operation
  arguments : Json
  /-- How long the operation may take; none leaves it to the configuration. -/
  timeout : Option Duration
deriving DecidableEq

namespace Descriptor

/-- A descriptor of nothing. -/
instance : Inhabited Descriptor := ⟨.unknown, .null, none⟩

/-- A descriptor as a plain value; its timeout is written in whole milliseconds. -/
def encode (descriptor : Descriptor) : Json :=
  .ofFields [("operation_type", some descriptor.operation.encode),
    ("arguments", some descriptor.arguments),
    ("timeout", descriptor.timeout.map fun timeout => .nat timeout.millisWord.toNat)]

/-- The fields of a descriptor. -/
def fields {σ : Type} [Wire.JsonSource σ] : Wire.Fields σ Descriptor :=
  Descriptor.mk <$> .withDefault "operation_type" .unknown Operation.decode
    <*> .withDefault "arguments" .null Wire.json
    <*> .perhaps "timeout" fun source => (Wire.u64 source).map Duration.ofMillis

/-- Reads a descriptor. -/
def decode {σ : Type} [Wire.JsonSource σ] : Wire.Decoder σ Descriptor :=
  fields.readOpen "struct OperationDescriptor"

end Descriptor

end AnalyticsClient
