import AnalyticsClient.Duration
import AnalyticsClient.Error

/-! The configuration of a client. -/

namespace AnalyticsClient

/-- How the rows of queries are passed on. -/
structure StreamConfig where
  /-- How many rows may wait between the engine and a slow reader. -/
  rowBuffer : UInt64
deriving DecidableEq

/-- The timeouts of operations that have none of their own, and how rows are passed on. -/
structure Config where
  managementTimeoutMs : UInt64
  queryTimeoutMs : UInt64
  stream : StreamConfig
deriving DecidableEq

instance : Inhabited StreamConfig := ⟨⟨64⟩⟩

instance : Inhabited Config := ⟨⟨75000, 75000, default⟩⟩

namespace StreamConfig

/-- A stream configuration as a plain value. -/
def encode (config : StreamConfig) : Json := .obj [("row_buffer", .nat config.rowBuffer.toNat)]

/-- The fields of a stream configuration. -/
def fields {σ : Type} [Wire.Source σ] : Wire.Fields σ StreamConfig :=
  StreamConfig.mk <$> .withDefault "row_buffer" (default : StreamConfig).rowBuffer Wire.size

/-- Reads a stream configuration. -/
def decode {σ : Type} [Wire.Source σ] : Wire.Decoder σ StreamConfig :=
  fields.readOpen "struct StreamConfig"

end StreamConfig

namespace Config

/-- The greatest row buffer. -/
def maxRowBuffer : UInt64 := 1048576

/-- The ways in which a configuration is out of range. -/
inductive Defect where
  | managementTimeoutZero
  | queryTimeoutZero
  | rowBufferZero
  | rowBufferTooLarge (rowBuffer : UInt64)
deriving DecidableEq

/-- The text of a defect. -/
def Defect.reason : Defect → String
  | .managementTimeoutZero => "management_timeout_ms must be greater than 0"
  | .queryTimeoutZero => "query_timeout_ms must be greater than 0"
  | .rowBufferZero => "stream.row_buffer must be greater than 0"
  | .rowBufferTooLarge rowBuffer =>
    "stream.row_buffer must be at most " ++ toString maxRowBuffer.toNat ++ ", got "
      ++ toString rowBuffer.toNat

/-- The first defect of a configuration. -/
def defect? (config : Config) : Option Defect :=
  if config.managementTimeoutMs = 0 then some .managementTimeoutZero
  else if config.queryTimeoutMs = 0 then some .queryTimeoutZero
  else if config.stream.rowBuffer = 0 then some .rowBufferZero
  else if maxRowBuffer < config.stream.rowBuffer then
    some (.rowBufferTooLarge config.stream.rowBuffer)
  else none

/-- Fails with the first defect of a configuration. -/
def validate (config : Config) : Outcome Unit :=
  match config.defect? with
  | some defect => .error (.config defect.reason)
  | none => .ok ()

/-- The timeout of management operations that have none of their own. -/
def managementTimeout (config : Config) : Duration := .ofMillis config.managementTimeoutMs

/-- The timeout of queries that have none of their own. -/
def queryTimeout (config : Config) : Duration := .ofMillis config.queryTimeoutMs

/-- The number of rows that may wait: the row buffer, brought into its range. -/
def capacity (config : Config) : Nat :=
  -- A configuration that was never checked gets a buffer that works, too.
  min (max config.stream.rowBuffer.toNat 1) maxRowBuffer.toNat

/-- A configuration as a plain value. -/
def encode (config : Config) : Json :=
  .ofMembers [("management_timeout_ms", .nat config.managementTimeoutMs.toNat),
    ("query_timeout_ms", .nat config.queryTimeoutMs.toNat), ("stream", config.stream.encode)]

/-- The fields of a configuration. -/
def fields {σ : Type} [Wire.Source σ] : Wire.Fields σ Config :=
  Config.mk
    <$> .withDefault "management_timeout_ms" (default : Config).managementTimeoutMs Wire.u64
    <*> .withDefault "query_timeout_ms" (default : Config).queryTimeoutMs Wire.u64
    <*> .withDefault "stream" default StreamConfig.decode

/-- Reads a configuration. -/
def decode {σ : Type} [Wire.Source σ] : Wire.Decoder σ Config :=
  fields.readOpen "struct ClientConfig"

/-- The layout of a configuration in debugging output. -/
def debugText (config : Config) : String :=
  "ClientConfig \x7b management_timeout_ms: " ++ toString config.managementTimeoutMs.toNat
    ++ ", query_timeout_ms: " ++ toString config.queryTimeoutMs.toNat
    ++ ", stream: StreamConfig \x7b row_buffer: " ++ toString config.stream.rowBuffer.toNat
    ++ " \x7d \x7d"

end Config

end AnalyticsClient
