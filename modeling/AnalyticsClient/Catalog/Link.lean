import AnalyticsClient.Defect
import AnalyticsClient.Wire.Fields

/-! Links from the analytics service to the services that it reads data from. -/

namespace AnalyticsClient

/-- A link to another cluster. -/
structure CouchbaseLink where
  dataverse : String
  name : String
  hostname : String
  encryption : EncryptionLevel
  certificate : Option String
  clientCertificate : Option String
  clientKey : Option String
  username : Option String
  password : Option String
deriving DecidableEq

/-- A link to a bucket in an S3 store. -/
structure S3Link where
  dataverse : String
  name : String
  accessKeyId : String
  secretAccessKey : String
  region : String
  sessionToken : Option String
  serviceEndpoint : Option String
deriving DecidableEq

/-- A link to an Azure blob store. -/
structure AzureBlobLink where
  dataverse : String
  name : String
  connectionString : Option String
  accountName : Option String
  accountKey : Option String
  sharedAccessSignature : Option String
  blobEndpoint : Option String
  endpointSuffix : Option String
deriving DecidableEq

/-- A link of one of the kinds. -/
inductive Link where
  | couchbase (link : CouchbaseLink)
  | s3 (link : S3Link)
  | azureBlob (link : AzureBlobLink)
deriving DecidableEq

namespace Link

/-- The kind of a link. -/
def linkType : Link → LinkType
  | .couchbase _ => .couchbaseRemote
  | .s3 _ => .s3External
  | .azureBlob _ => .azureBlobExternal

/-- The dataverse that a link belongs to. -/
def dataverse : Link → String
  | .couchbase link => link.dataverse
  | .s3 link => link.dataverse
  | .azureBlob link => link.dataverse

/-- The name of a link within its dataverse. -/
def name : Link → String
  | .couchbase link => link.name
  | .s3 link => link.name
  | .azureBlob link => link.name

/-- Whether a credential is given and not the empty text. -/
def isGiven (credential : Option String) : Bool :=
  match credential with
  | some text => !text.isEmpty
  | none => false

/-- Fails unless a link to a cluster has the credentials that its encryption level takes. -/
def validateCouchbase (link : CouchbaseLink) : Except Defect Unit := do
  requireText "hostname" link.hostname
  -- Half of a pair is as good as nothing.
  let hasPassword := isGiven link.username && isGiven link.password
  let hasCertificate := isGiven link.clientCertificate && isGiven link.clientKey
  match link.encryption with
  | .none | .half =>
    if !hasPassword then .error (.passwordMissing link.encryption)
  | .full =>
    if !isGiven link.certificate then .error .certificateMissing
    -- Exactly one of the two ways to log in.
    if hasPassword == hasCertificate then .error .loginUnclear

/-- Fails unless a link to an S3 store has its three keys. -/
def validateS3 (link : S3Link) : Except Defect Unit := do
  requireText "access_key_id" link.accessKeyId
  requireText "secret_access_key" link.secretAccessKey
  requireText "region" link.region

/-- Fails unless a link to an Azure blob store has one of the three ways to log in. -/
def validateAzureBlob (link : AzureBlobLink) : Except Defect Unit :=
  if isGiven link.connectionString
      || (isGiven link.accountName
        && (isGiven link.accountKey || isGiven link.sharedAccessSignature)) then .ok ()
  else .error .azureLoginMissing

/-- Fails with what a link lacks. -/
def validate (link : Link) : Except Defect Unit := do
  requireText "dataverse" link.dataverse
  requireText "name" link.name
  match link with
  | .couchbase link => validateCouchbase link
  | .s3 link => validateS3 link
  | .azureBlob link => validateAzureBlob link

/-- A link as a plain value, its kind among its members. -/
def encode (link : Link) : Json :=
  match link with
  | .couchbase it =>
    tagged it.dataverse it.name [("hostname", some (.str it.hostname)),
      ("encryption", some (Choice.encode it.encryption)),
      ("certificate", it.certificate.map .str),
      ("client_certificate", it.clientCertificate.map .str),
      ("client_key", it.clientKey.map .str), ("username", it.username.map .str),
      ("password", it.password.map .str)]
  | .s3 it =>
    tagged it.dataverse it.name [("access_key_id", some (.str it.accessKeyId)),
      ("secret_access_key", some (.str it.secretAccessKey)), ("region", some (.str it.region)),
      ("session_token", it.sessionToken.map .str),
      ("service_endpoint", it.serviceEndpoint.map .str)]
  | .azureBlob it =>
    tagged it.dataverse it.name [("connection_string", it.connectionString.map .str),
      ("account_name", it.accountName.map .str), ("account_key", it.accountKey.map .str),
      ("shared_access_signature", it.sharedAccessSignature.map .str),
      ("blob_endpoint", it.blobEndpoint.map .str),
      ("endpoint_suffix", it.endpointSuffix.map .str)]
where
  tagged (dataverse name : String) (rest : List (String × Option Json)) : Json :=
    .ofFields (("type", some (Choice.encode link.linkType)) :: ("dataverse", some (.str dataverse))
      :: ("name", some (.str name)) :: rest)

section Reading

open Wire (Decoder Fields Fault)

variable {σ : Type} [Wire.Source σ]

/-- The fields of a link to a cluster. -/
def couchbaseFields : Fields σ CouchbaseLink :=
  CouchbaseLink.mk <$> .required "dataverse" Wire.string <*> .required "name" Wire.string
    <*> .required "hostname" Wire.string <*> .withDefault "encryption" default Choice.decode
    <*> .perhaps "certificate" Wire.string <*> .perhaps "client_certificate" Wire.string
    <*> .perhaps "client_key" Wire.string <*> .perhaps "username" Wire.string
    <*> .perhaps "password" Wire.string

/-- The fields of a link to an S3 store. -/
def s3Fields : Fields σ S3Link :=
  S3Link.mk <$> .required "dataverse" Wire.string <*> .required "name" Wire.string
    <*> .required "access_key_id" Wire.string <*> .required "secret_access_key" Wire.string
    <*> .required "region" Wire.string <*> .perhaps "session_token" Wire.string
    <*> .perhaps "service_endpoint" Wire.string

/-- The fields of a link to an Azure blob store. -/
def azureBlobFields : Fields σ AzureBlobLink :=
  AzureBlobLink.mk <$> .required "dataverse" Wire.string <*> .required "name" Wire.string
    <*> .perhaps "connection_string" Wire.string <*> .perhaps "account_name" Wire.string
    <*> .perhaps "account_key" Wire.string <*> .perhaps "shared_access_signature" Wire.string
    <*> .perhaps "blob_endpoint" Wire.string <*> .perhaps "endpoint_suffix" Wire.string

/-- Reads the kind of a link. -/
def decodeTag : Decoder σ LinkType := fun source =>
  match Wire.Source.view source with
  | .str value =>
    match Choice.parse? value with
    | some linkType => .ok linkType
    | none => .error (.unknownVariant value ((Choice.all : List LinkType).map Choice.text))
  | other => Wire.unexpected "variant identifier" other

/-- Reads the rest of a link once its kind is known. -/
def decodeAs (linkType : LinkType) (rest : Json) : Except Fault Link :=
  match linkType with
  | .couchbaseRemote =>
    (couchbaseFields.readOpen "struct CouchbaseRemoteLink" (Wire.Aside.mk rest)).map .couchbase
  | .s3External => (s3Fields.readOpen "struct S3ExternalLink" (Wire.Aside.mk rest)).map .s3
  | .azureBlobExternal =>
    (azureBlobFields.readOpen "struct AzureBlobExternalLink" (Wire.Aside.mk rest)).map .azureBlob

end Reading

section Decoding

open Wire (Decoder Fault)

variable {σ : Type} [Wire.JsonSource σ]

/-- Goes through the members of a link: its kind is read, and the others are set aside. -/
def readTagged (stop : Option Fault) (tag : Option LinkType) :
    List (String × σ) → Except Fault (Option LinkType × List (String × Json))
  | [] => do
    Wire.atEnd stop
    return (tag, [])
  | ("type", source) :: rest => do
    if tag.isSome then .error (.duplicateField "type")
    let linkType ← decodeTag source
    readTagged stop (some linkType) rest
  | (name, source) :: rest => do
    let value ← Wire.JsonSource.setAside source
    let (tag, others) ← readTagged stop tag rest
    return (tag, (name, value) :: others)

/-- Reads a link: an object whose member `type` tells its kind, or a list that starts with it. -/
def decode : Decoder σ Link := fun source =>
  match Wire.Source.view source with
  | .record members stop _ => do
    let (tag, others) ← readTagged stop none members
    match tag with
    | none => .error (.missingField "type")
    | some linkType => decodeAs linkType (.obj others)
  | .list [] stop => do
    Wire.atEnd stop
    .error (.missingField "type")
  | .list (tag :: items) stop => do
    let linkType ← decodeTag tag
    let others ← Wire.readItems Wire.JsonSource.setAside items
    Wire.atEnd stop
    decodeAs linkType (.arr others)
  | other => Wire.unexpected "internally tagged enum AnalyticsLink" other

end Decoding

end Link

end AnalyticsClient
