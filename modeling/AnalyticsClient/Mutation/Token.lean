import AnalyticsClient.Error
import AnalyticsClient.Wire.Fields

/-! Mutation tokens: the places of single writes in the history of their partitions. -/

namespace AnalyticsClient

/-- The place of one write. -/
structure MutationToken where
  /-- The partition that the write fell into. -/
  partitionId : UInt16
  partitionUuid : UInt64
  /-- The number of the write within its partition. -/
  sequenceNumber : UInt64
  bucketName : String
deriving DecidableEq

namespace MutationToken

/-- A token as a plain value. -/
def encode (token : MutationToken) : Json :=
  .ofMembers [("partition_id", .nat token.partitionId.toNat),
    ("partition_uuid", .nat token.partitionUuid.toNat),
    ("sequence_number", .nat token.sequenceNumber.toNat), ("bucket_name", .str token.bucketName)]

/-- The fields of a token. -/
def fields {σ : Type} [Wire.Source σ] : Wire.Fields σ MutationToken :=
  MutationToken.mk <$> .required "partition_id" Wire.u16 <*> .required "partition_uuid" Wire.u64
    <*> .required "sequence_number" Wire.u64 <*> .required "bucket_name" Wire.string

/-- Reads a token in its plain form. -/
def decode {σ : Type} [Wire.Source σ] : Wire.Decoder σ MutationToken :=
  fields.readOpen "struct MutationToken"

/-- A token as a caller hands it over, its partition not yet checked. -/
structure Claimed where
  partitionId : UInt64
  partitionUuid : UInt64
  sequenceNumber : UInt64
  bucketName : String

/-- The fields of a token that a caller hands over. -/
def Claimed.fields {σ : Type} [Wire.Source σ] : Wire.Fields σ Claimed :=
  Claimed.mk <$> .required "partition_id" Wire.u64 <*> .required "partition_uuid" Wire.u64
    <*> .required "sequence_number" Wire.u64 <*> .required "bucket_name" Wire.string

/-- The token that a caller hands over in the place `index`. -/
def ofCaller (index : UInt64) (given : Json) : Outcome MutationToken :=
  match Claimed.fields.readOpen "struct RawToken" given with
  | .error fault => .error (.malformedMutationToken index fault.message)
  | .ok claimed =>
    if claimed.partitionId.toNat ≥ UInt16.size then
      .error (.malformedMutationToken index
        ("field `partition_id` out of range: " ++ toString claimed.partitionId.toNat))
    else if claimed.bucketName.isEmpty then
      .error (.malformedMutationToken index "field `bucket_name` must not be empty")
    else
      .ok ⟨claimed.partitionId.toUInt16, claimed.partitionUuid, claimed.sequenceNumber,
        claimed.bucketName⟩

end MutationToken

end AnalyticsClient
