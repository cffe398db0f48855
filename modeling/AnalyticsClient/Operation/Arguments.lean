import AnalyticsClient.Catalog.Link

/-! The arguments of the management operations: what each takes, how it is written, read and
checked. -/

namespace AnalyticsClient

open Wire (Decoder Fields)

/-- A dataverse to be made. -/
structure CreateDataverse where
  dataverseName : String
  ignoreIfExists : Bool
deriving DecidableEq

/-- A dataset to be made. -/
structure CreateDataset where
  datasetName : String
  bucketName : String
  dataverseName : Option String
  condition : Option String
  ignoreIfExists : Bool
deriving DecidableEq

/-- An index to be made over some fields, each with its type. -/
structure CreateIndex where
  indexName : String
  datasetName : String
  dataverseName : Option String
  fields : Dict String
  ignoreIfExists : Bool
deriving DecidableEq

/-- A dataverse to be removed. -/
structure DropDataverse where
  dataverseName : String
  ignoreIfNotExists : Bool
deriving DecidableEq

/-- A dataset to be removed. -/
structure DropDataset where
  datasetName : String
  dataverseName : Option String
  ignoreIfNotExists : Bool
deriving DecidableEq

/-- An index to be removed. -/
structure DropIndex where
  indexName : String
  datasetName : String
  dataverseName : Option String
  ignoreIfNotExists : Bool
deriving DecidableEq

/-- A link to be made or replaced. -/
structure LinkChange where
  link : Link
deriving DecidableEq

/-- A link to be connected. -/
structure LinkConnect where
  dataverseName : Option String
  linkName : Option String
  force : Bool
deriving DecidableEq

/-- The links to be listed. -/
structure LinkListing where
  dataverseName : Option String
  linkName : Option String
  linkType : Option LinkType
deriving DecidableEq

/-- A link to be disconnected. -/
structure LinkDisconnect where
  dataverseName : Option String
  linkName : Option String
deriving DecidableEq

/-- A link to be removed. -/
structure DropLink where
  linkName : String
  dataverseName : String
deriving DecidableEq

variable {σ : Type} [Wire.Source σ]

namespace CreateDataverse

/-- The arguments as a plain value. -/
def encode (args : CreateDataverse) : Json :=
  .ofMembers [("dataverse_name", .str args.dataverseName),
    ("ignore_if_exists", .bool args.ignoreIfExists)]

/-- The fields of the arguments. -/
def layout : Fields σ CreateDataverse :=
  CreateDataverse.mk <$> .required "dataverse_name" Wire.string
    <*> .withDefault "ignore_if_exists" false Wire.bool

/-- Reads the arguments. -/
def decode : Decoder σ CreateDataverse := layout.readClosed "struct CreateDataverseArgs"

/-- Fails with the first argument that is wrong. -/
def validate (args : CreateDataverse) : Except Defect Unit :=
  requireText "dataverse_name" args.dataverseName

end CreateDataverse

namespace CreateDataset

/-- The arguments as a plain value. -/
def encode (args : CreateDataset) : Json :=
  .ofFields [("dataset_name", some (.str args.datasetName)),
    ("bucket_name", some (.str args.bucketName)),
    ("dataverse_name", args.dataverseName.map .str), ("condition", args.condition.map .str),
    ("ignore_if_exists", some (.bool args.ignoreIfExists))]

/-- The fields of the arguments. -/
def layout : Fields σ CreateDataset :=
  CreateDataset.mk <$> .required "dataset_name" Wire.string <*> .required "bucket_name" Wire.string
    <*> .perhaps "dataverse_name" Wire.string <*> .perhaps "condition" Wire.string
    <*> .withDefault "ignore_if_exists" false Wire.bool

/-- Reads the arguments. -/
def decode : Decoder σ CreateDataset := layout.readClosed "struct CreateDatasetArgs"

/-- Fails with the first argument that is wrong. -/
def validate (args : CreateDataset) : Except Defect Unit := do
  requireText "dataset_name" args.datasetName
  requireText "bucket_name" args.bucketName
  requireTextIfGiven "dataverse_name" args.dataverseName

end CreateDataset

namespace CreateIndex

/-- The arguments as a plain value. -/
def encode (args : CreateIndex) : Json :=
  .ofFields [("index_name", some (.str args.indexName)),
    ("dataset_name", some (.str args.datasetName)),
    ("dataverse_name", args.dataverseName.map .str),
    ("fields", some (.ofDict .str args.fields)),
    ("ignore_if_exists", some (.bool args.ignoreIfExists))]

/-- The fields of the arguments. -/
def layout : Fields σ CreateIndex :=
  CreateIndex.mk <$> .required "index_name" Wire.string <*> .required "dataset_name" Wire.string
    <*> .perhaps "dataverse_name" Wire.string <*> .required "fields" (Wire.dict Wire.string)
    <*> .withDefault "ignore_if_exists" false Wire.bool

/-- Reads the arguments. -/
def decode : Decoder σ CreateIndex := layout.readClosed "struct CreateIndexArgs"

/-- Fails with the first argument that is wrong. -/
def validate (args : CreateIndex) : Except Defect Unit := do
  requireText "index_name" args.indexName
  requireText "dataset_name" args.datasetName
  requireTextIfGiven "dataverse_name" args.dataverseName
  if args.fields.entries.isEmpty then .error .noFields

end CreateIndex

namespace DropDataverse

/-- The arguments as a plain value. -/
def encode (args : DropDataverse) : Json :=
  .ofMembers [("dataverse_name", .str args.dataverseName),
    ("ignore_if_not_exists", .bool args.ignoreIfNotExists)]

/-- The fields of the arguments. -/
def layout : Fields σ DropDataverse :=
  DropDataverse.mk <$> .required "dataverse_name" Wire.string
    <*> .withDefault "ignore_if_not_exists" false Wire.bool

/-- Reads the arguments. -/
def decode : Decoder σ DropDataverse := layout.readClosed "struct DropDataverseArgs"

/-- Fails with the first argument that is wrong. -/
def validate (args : DropDataverse) : Except Defect Unit :=
  requireText "dataverse_name" args.dataverseName

end DropDataverse

namespace DropDataset

/-- The arguments as a plain value. -/
def encode (args : DropDataset) : Json :=
  .ofFields [("dataset_name", some (.str args.datasetName)),
    ("dataverse_name", args.dataverseName.map .str),
    ("ignore_if_not_exists", some (.bool args.ignoreIfNotExists))]

/-- The fields of the arguments. -/
def layout : Fields σ DropDataset :=
  DropDataset.mk <$> .required "dataset_name" Wire.string <*> .perhaps "dataverse_name" Wire.string
    <*> .withDefault "ignore_if_not_exists" false Wire.bool

/-- Reads the arguments. -/
def decode : Decoder σ DropDataset := layout.readClosed "struct DropDatasetArgs"

/-- Fails with the first argument that is wrong. -/
def validate (args : DropDataset) : Except Defect Unit := do
  requireText "dataset_name" args.datasetName
  requireTextIfGiven "dataverse_name" args.dataverseName

end DropDataset

namespace DropIndex

/-- The arguments as a plain value. -/
def encode (args : DropIndex) : Json :=
  .ofFields [("index_name", some (.str args.indexName)),
    ("dataset_name", some (.str args.datasetName)),
    ("dataverse_name", args.dataverseName.map .str),
    ("ignore_if_not_exists", some (.bool args.ignoreIfNotExists))]

/-- The fields of the arguments. -/
def layout : Fields σ DropIndex :=
  DropIndex.mk <$> .required "index_name" Wire.string <*> .required "dataset_name" Wire.string
    <*> .perhaps "dataverse_name" Wire.string
    <*> .withDefault "ignore_if_not_exists" false Wire.bool

/-- Reads the arguments. -/
def decode : Decoder σ DropIndex := layout.readClosed "struct DropIndexArgs"

/-- Fails with the first argument that is wrong. -/
def validate (args : DropIndex) : Except Defect Unit := do
  requireText "index_name" args.indexName
  requireText "dataset_name" args.datasetName
  requireTextIfGiven "dataverse_name" args.dataverseName

end DropIndex

namespace LinkChange

/-- The arguments as a plain value. -/
def encode (args : LinkChange) : Json := .obj [("link", args.link.encode)]

/-- The fields of the arguments. -/
def layout {σ : Type} [Wire.JsonSource σ] : Fields σ LinkChange :=
  LinkChange.mk <$> .required "link" Link.decode

/-- Reads the arguments. -/
def decode {σ : Type} [Wire.JsonSource σ] : Decoder σ LinkChange :=
  layout.readClosed "struct LinkArgs"

/-- Fails with what the link lacks. -/
def validate (args : LinkChange) : Except Defect Unit := args.link.validate

end LinkChange

namespace LinkConnect

/-- No link named and no force. -/
instance : Inhabited LinkConnect := ⟨none, none, false⟩

/-- The arguments as a plain value. -/
def encode (args : LinkConnect) : Json :=
  .ofFields [("dataverse_name", args.dataverseName.map .str), ("link_name", args.linkName.map .str),
    ("force", some (.bool args.force))]

/-- The fields of the arguments. -/
def layout : Fields σ LinkConnect :=
  LinkConnect.mk <$> .perhaps "dataverse_name" Wire.string <*> .perhaps "link_name" Wire.string
    <*> .withDefault "force" false Wire.bool

/-- Reads the arguments. -/
def decode : Decoder σ LinkConnect := layout.readClosed "struct LinkConnectArgs"

/-- Fails with the first argument that is wrong. -/
def validate (args : LinkConnect) : Except Defect Unit := do
  requireTextIfGiven "dataverse_name" args.dataverseName
  requireTextIfGiven "link_name" args.linkName

end LinkConnect

namespace LinkListing

/-- Every link. -/
instance : Inhabited LinkListing := ⟨none, none, none⟩

/-- The arguments as a plain value. -/
def encode (args : LinkListing) : Json :=
  .ofFields [("dataverse_name", args.dataverseName.map .str), ("link_name", args.linkName.map .str),
    ("link_type", args.linkType.map Choice.encode)]

/-- The fields of the arguments. -/
def layout : Fields σ LinkListing :=
  LinkListing.mk <$> .perhaps "dataverse_name" Wire.string <*> .perhaps "link_name" Wire.string
    <*> .perhaps "link_type" Choice.decode

/-- Reads the arguments. -/
def decode : Decoder σ LinkListing := layout.readClosed "struct GetAllLinksArgs"

/-- Fails with the first argument that is wrong; a link is named within its dataverse only. -/
def validate (args : LinkListing) : Except Defect Unit := do
  if args.linkName.isSome && args.dataverseName.isNone then
    .error .linkWithoutDataverse
  requireTextIfGiven "dataverse_name" args.dataverseName
  requireTextIfGiven "link_name" args.linkName

end LinkListing

namespace LinkDisconnect

/-- No link named. -/
instance : Inhabited LinkDisconnect := ⟨none, none⟩

/-- The arguments as a plain value. -/
def encode (args : LinkDisconnect) : Json :=
  .ofFields [("dataverse_name", args.dataverseName.map .str), ("link_name", args.linkName.map .str)]

/-- The fields of the arguments. -/
def layout : Fields σ LinkDisconnect :=
  LinkDisconnect.mk <$> .perhaps "dataverse_name" Wire.string <*> .perhaps "link_name" Wire.string

/-- Reads the arguments. -/
def decode : Decoder σ LinkDisconnect := layout.readClosed "struct LinkDisconnectArgs"

/-- Fails with the first argument that is wrong. -/
def validate (args : LinkDisconnect) : Except Defect Unit := do
  requireTextIfGiven "dataverse_name" args.dataverseName
  requireTextIfGiven "link_name" args.linkName

end LinkDisconnect

namespace DropLink

/-- The arguments as a plain value. -/
def encode (args : DropLink) : Json :=
  .ofMembers [("link_name", .str args.linkName), ("dataverse_name", .str args.dataverseName)]

/-- The fields of the arguments. -/
def layout : Fields σ DropLink :=
  DropLink.mk <$> .required "link_name" Wire.string <*> .required "dataverse_name" Wire.string

/-- Reads the arguments. -/
def decode : Decoder σ DropLink := layout.readClosed "struct DropLinkArgs"

/-- Fails with the first argument that is wrong. -/
def validate (args : DropLink) : Except Defect Unit := do
  requireText "link_name" args.linkName
  requireText "dataverse_name" args.dataverseName

end DropLink

end AnalyticsClient
