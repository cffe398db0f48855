import AnalyticsClient.Json.Basic
import AnalyticsClient.Number.Shortest

/-! JSON text without any blanks between its parts. -/

namespace AnalyticsClient.Json

/-- The four digits of a control character's number. -/
def controlDigits (c : Char) : List Char :=
  let digits := Nat.toDigits 16 c.val.toNat
  List.replicate (4 - digits.length) '0' ++ digits

/-- One character of a JSON string: marks, backslashes and control characters are escaped. -/
def escapeChar (c : Char) : List Char :=
  if c = '"' then ['\\', '"']
  else if c = '\\' then ['\\', '\\']
  else if c = '\n' then ['\\', 'n']
  else if c = '\r' then ['\\', 'r']
  else if c = '\t' then ['\\', 't']
  else if c = '\x08' then ['\\', 'b']
  else if c = '\x0c' then ['\\', 'f']
  -- The other control characters have no letter of their own.
  else if c.val < 0x20 then '\\' :: 'u' :: controlDigits c
  else [c]

/-- A JSON string. -/
def renderString (text : String) : String :=
  "\"" ++ String.ofList (text.toList.flatMap escapeChar) ++ "\""

mutual

/-- The text of a value. -/
def render : Json → String
  | .null => "null"
  | .bool value => if value then "true" else "false"
  | .int value => toString value
  | .float value => value.render
  | .str value => renderString value
  | .arr items => "[" ++ ",".intercalate (renderItems items) ++ "]"
  | .obj members => "\x7b" ++ ",".intercalate (renderMembers members) ++ "\x7d"

/-- The texts of some values. -/
def renderItems : List Json → List String
  | [] => []
  | item :: rest => item.render :: renderItems rest

/-- The texts of some members, each a name and a value with a colon between them. -/
def renderMembers : List (String × Json) → List String
  | [] => []
  | (name, value) :: rest => (renderString name ++ ":" ++ value.render) :: renderMembers rest

end

end AnalyticsClient.Json
