import AnalyticsClient.Number.Shortest
import AnalyticsClient.Text.Quoted
import AnalyticsClient.Wire.Position

/-! What can be wrong with a plain value that is read as a typed one. -/

namespace AnalyticsClient.Wire

/-- How a text stops being readable. -/
inductive Cut where
  /-- A character stands where it must not, or a number or nesting is beyond its limit. -/
  | malformed
  /-- The text ends too early. -/
  | endOfText
deriving DecidableEq

/-- The outside of a plain value, as a message names it. -/
inductive Shape where
  | null
  | bool (value : Bool)
  | int (value : Int)
  | float (value : Binary64)
  | str (value : String)
  | list
  | record
  /-- The name of a variant without the content that the variant needs. -/
  | bareVariant
deriving DecidableEq

/-- The reasons for which a plain value is not accepted. -/
inductive Fault where
  | wrongType (found : Shape) (expected : String)
  | wrongValue (found : Shape) (expected : String)
  | wrongLength (count : Nat) (expected : String)
  | missingField (name : String)
  | duplicateField (name : String)
  | unknownField (name : String) (known : List String)
  | unknownVariant (name : String) (known : List String)
  /-- A text that is no member of the named enumeration. -/
  | unknownChoice (kind value : String)
  /-- A span of time beyond the greatest one. -/
  | durationOverflow
  | cut (cut : Cut)
deriving DecidableEq

/-- A name between backquotes. -/
def backquoted (name : String) : String := "`" ++ name ++ "`"

/-- The name of a shape; `layout` writes floating point numbers. -/
def Shape.describe (layout : Binary64 → String) : Shape → String
  | .null => "null"
  | .bool value => "boolean " ++ backquoted (if value then "true" else "false")
  | .int value => "integer " ++ backquoted (toString value)
  | .float value => "floating point " ++ backquoted (layout value)
  | .str value => "string " ++ Text.quoted value
  | .list => "sequence"
  | .record => "map"
  | .bareVariant => "unit variant"

/-- The choice among names: one alone, two with "or", more after "one of". -/
def oneOf : List String → String
  | [] => ""
  | [a] => backquoted a
  | [a, b] => backquoted a ++ " or " ++ backquoted b
  | names => "one of " ++ ", ".intercalate (names.map backquoted)

namespace Fault

/-- The message of a fault; `layout` writes floating point numbers. -/
def messageWith (layout : Binary64 → String) : Fault → String
  | .wrongType found expected =>
    "invalid type: " ++ found.describe layout ++ ", expected " ++ expected
  | .wrongValue found expected =>
    "invalid value: " ++ found.describe layout ++ ", expected " ++ expected
  | .wrongLength count expected =>
    "invalid length " ++ toString count ++ ", expected " ++ expected
  | .missingField name => "missing field " ++ backquoted name
  | .duplicateField name => "duplicate field " ++ backquoted name
  | .unknownField name known =>
    "unknown field " ++ backquoted name ++ ", expected " ++ oneOf known
  | .unknownVariant name known =>
    "unknown variant " ++ backquoted name ++ ", expected " ++ oneOf known
  | .unknownChoice kind value => "invalid " ++ kind ++ " type " ++ value
  | .durationOverflow => "overflow deserializing Duration"
  | .cut .malformed => "malformed text"
  | .cut .endOfText => "unexpected end of text"

/-- The message of a fault found in a JSON value. -/
def message (fault : Fault) : String := Position.settle (fault.messageWith Binary64.render)

/-- The message of a fault found in JSON text, without the place in the text. -/
def messageInText (fault : Fault) : String := Position.drop (fault.messageWith Binary64.render)

end Fault

end AnalyticsClient.Wire
