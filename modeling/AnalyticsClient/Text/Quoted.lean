import AnalyticsClient.Text.Printable

/-! Quoted text: how a text is shown in a message, so that its ends and odd characters are seen. -/

namespace AnalyticsClient.Text

/-- The digits of a number in base sixteen, lower case, without leading zeros. -/
def hexDigits (n : Nat) : List Char :=
  Nat.toDigits 16 n

/-- A character by number: its code point in braces after a backslash. -/
def numbered (c : Char) : List Char :=
  ['\\', 'u', '\x7b'] ++ hexDigits c.val.toNat ++ ['\x7d']

/-- One character of a quoted text. -/
def quoteChar (c : Char) : List Char :=
  if c = '"' then ['\\', '"']
  else if c = '\\' then ['\\', '\\']
  else if c = '\n' then ['\\', 'n']
  else if c = '\r' then ['\\', 'r']
  else if c = '\t' then ['\\', 't']
  else if c = '\x00' then ['\\', '0']
  else if c.val < 0x20 then numbered c
  else if c.val < 0x7F then [c]
  else if isNumbered c then numbered c
  else [c]

/-- The text between quotation marks, with its marks, backslashes and unseen characters escaped. -/
def quoted (text : String) : String :=
  String.ofList ('"' :: (text.toList.flatMap quoteChar ++ ['"']))

end AnalyticsClient.Text
