import AnalyticsClient.Choice
import AnalyticsClient.Text.Blank

/-! What can be wrong with links and arguments that were read without a fault. -/

namespace AnalyticsClient

/-- The reasons for which a link or the arguments of an operation are refused. -/
inductive Defect where
  /-- A text that must say something is blank. -/
  | blank (field : String)
  /-- An index over no field at all. -/
  | noFields
  /-- A link is named without its dataverse. -/
  | linkWithoutDataverse
  /-- The encryption level takes a user name and a password. -/
  | passwordMissing (level : EncryptionLevel)
  /-- Full encryption takes a certificate. -/
  | certificateMissing
  /-- Full encryption takes exactly one of the two ways to log in. -/
  | loginUnclear
  /-- No way to log in to an Azure blob store is given. -/
  | azureLoginMissing
deriving DecidableEq

namespace Defect

/-- The text of a defect. -/
def reason : Defect → String
  | .blank field => "`" ++ field ++ "` must not be empty"
  | .noFields => "`fields` must name at least one field"
  | .linkWithoutDataverse => "`link_name` requires `dataverse_name`"
  | .passwordMissing level =>
    "encryption level `" ++ Choice.text level ++ "` requires username and password"
  | .certificateMissing => "encryption level `full` requires a certificate"
  | .loginUnclear =>
    "encryption level `full` requires either username and password or client certificate and key"
  | .azureLoginMissing =>
    "azure blob link requires a connection string, or an account name with an account key or "
      ++ "shared access signature"

end Defect

/-- Fails if a text is blank. -/
def requireText (field value : String) : Except Defect Unit :=
  if Text.isBlankText value then .error (.blank field) else .ok ()

/-- Fails if a text is given and blank. -/
def requireTextIfGiven (field : String) : Option String → Except Defect Unit
  | some value => requireText field value
  | none => .ok ()

end AnalyticsClient
