import AnalyticsClient.Wire.Fields

/-! The datasets and indexes that the analytics service keeps. -/

namespace AnalyticsClient

/-- A dataset, filled from a bucket over a link. -/
structure Dataset where
  datasetName : String
  dataverseName : String
  linkName : String
  bucketName : String
deriving DecidableEq

namespace Dataset

/-- A dataset as a plain value. -/
def encode (dataset : Dataset) : Json :=
  .ofMembers [("dataset_name", .str dataset.datasetName),
    ("dataverse_name", .str dataset.dataverseName), ("link_name", .str dataset.linkName),
    ("bucket_name", .str dataset.bucketName)]

/-- The fields of a dataset. -/
def fields {σ : Type} [Wire.Source σ] : Wire.Fields σ Dataset :=
  Dataset.mk <$> .required "dataset_name" Wire.string <*> .required "dataverse_name" Wire.string
    <*> .required "link_name" Wire.string <*> .required "bucket_name" Wire.string

/-- Reads a dataset. -/
def decode {σ : Type} [Wire.Source σ] : Wire.Decoder σ Dataset :=
  fields.readOpen "struct AnalyticsDataset"

end Dataset

/-- An index over a dataset. -/
structure Index where
  name : String
  datasetName : String
  dataverseName : String
  isPrimary : Bool
deriving DecidableEq

namespace Index

/-- An index as a plain value. -/
def encode (index : Index) : Json :=
  .ofMembers [("name", .str index.name), ("dataset_name", .str index.datasetName),
    ("dataverse_name", .str index.dataverseName), ("is_primary", .bool index.isPrimary)]

/-- The fields of an index. -/
def fields {σ : Type} [Wire.Source σ] : Wire.Fields σ Index :=
  Index.mk <$> .required "name" Wire.string <*> .required "dataset_name" Wire.string
    <*> .required "dataverse_name" Wire.string <*> .withDefault "is_primary" false Wire.bool

/-- Reads an index. -/
def decode {σ : Type} [Wire.Source σ] : Wire.Decoder σ Index :=
  fields.readOpen "struct AnalyticsIndex"

end Index

end AnalyticsClient
