import AnalyticsClient.Config.Basic
import AnalyticsClient.Toml.Document

/-! Configurations in TOML. -/

namespace AnalyticsClient.Config

/-- The default configuration, explained to those who edit it. -/
def defaultToml : String :=
  "# cbbridge client configuration\n"
    ++ "#\n"
    ++ "# Timeout for analytics management operations, in milliseconds.\n"
    ++ "# Applies when an operation does not carry its own timeout.\n"
    ++ "management_timeout_ms = 75000\n"
    ++ "\n"
    ++ "# Timeout for queries, in milliseconds.\n"
    ++ "# Applies when the query options do not set one.\n"
    ++ "query_timeout_ms = 75000\n"
    ++ "\n"
    ++ "[stream]\n"
    ++ "# Rows buffered between the engine and the caller.\n"
    ++ "# A full buffer makes the engine wait for the caller to catch up.\n"
    ++ "row_buffer = 64\n"

/-- The reasons for which a text is no configuration, or a configuration has no text. -/
inductive TomlFault where
  /-- The text is not TOML. -/
  | malformed
  /-- The text is TOML of another kind. -/
  | unfit (fault : Wire.Fault)
  /-- A number is beyond the greatest one of TOML. -/
  | outOfRange

/-- The text of a fault. -/
def TomlFault.reason : TomlFault → String
  | .malformed => "failed to parse config: (syntax)"
  | .unfit fault => "failed to parse config: " ++ fault.messageWith Binary64.renderPositional
  | .outOfRange => "failed to serialize config: out-of-range value for u64 type"

/-- Reads a configuration, its ranges not yet checked. -/
def readToml (text : String) : Except TomlFault Config :=
  match Toml.parse? text with
  | none => .error .malformed
  | some table => (decode (Toml.Value.table .header table)).mapError .unfit

/-- The configuration of a text, if the text is one and within its ranges. -/
def ofToml (text : String) : Outcome Config :=
  match readToml text with
  | .error fault => .error (.config fault.reason)
  | .ok config => config.validate.map fun _ => config

/-- The text of a configuration. -/
def toToml (config : Config) : Except TomlFault String :=
  let numbers := [config.managementTimeoutMs, config.queryTimeoutMs, config.stream.rowBuffer]
  -- Whole numbers of TOML are signed words of 64 bits.
  if numbers.any fun number => 0x8000000000000000 ≤ number.toNat then .error .outOfRange
  else
    .ok ("management_timeout_ms = " ++ toString config.managementTimeoutMs.toNat ++ "\n"
      ++ "query_timeout_ms = " ++ toString config.queryTimeoutMs.toNat ++ "\n"
      ++ "\n"
      ++ "[stream]\n"
      ++ "row_buffer = " ++ toString config.stream.rowBuffer.toNat ++ "\n")

end AnalyticsClient.Config
