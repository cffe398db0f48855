import AnalyticsClient.Json.Draft
import AnalyticsClient.Json.Number

/-! The reading of JSON text: one pass makes a draft, and typed values are read from the draft. -/

namespace AnalyticsClient.Json

open Wire (Cut Fault Decoder)

/-- The deepest nesting of lists and objects that is read. -/
def deepestNesting : Nat := 127

/-- The characters that may stand between the parts of a text. -/
def isSeparator (c : Char) : Bool := c = ' ' || c = '\n' || c = '\t' || c = '\r'

/-- The text from its first character that is no separator. -/
def afterSeparators (cs : List Char) : List Char := cs.dropWhile isSeparator

/-- A cut at the place where `cs` is left: the end of the text, or a character that cannot be. -/
def cutAt : List Char → Cut
  | [] => .endOfText
  | _ :: _ => .malformed

/-- The number that four hexadecimal digits stand for. -/
def hexValue? (digits : List Char) : Option Nat :=
  digits.foldlM (fun made c =>
    if '0' ≤ c ∧ c ≤ '9' then some (made * 16 + (c.toNat - '0'.toNat))
    else if 'a' ≤ c ∧ c ≤ 'f' then some (made * 16 + (c.toNat - 'a'.toNat + 10))
    else if 'A' ≤ c ∧ c ≤ 'F' then some (made * 16 + (c.toNat - 'A'.toNat + 10))
    else none) 0

/-- The character that a letter after a backslash stands for. -/
def escaped? (c : Char) : Option Char :=
  if c = '"' ∨ c = '\\' ∨ c = '/' then some c
  else if c = 'b' then some '\x08'
  else if c = 'f' then some '\x0c'
  else if c = 'n' then some '\n'
  else if c = 'r' then some '\r'
  else if c = 't' then some '\t'
  else none

/-- How the reading of a string ends. -/
inductive StringEnd where
  /-- The text of the string and what follows it. -/
  | closed (text : String) (rest : List Char)
  /-- A string that is no text, and what follows it. -/
  | unpaired (rest : List Char)
  /-- No closing mark was reached; the cuts on reading and on passing over. -/
  | cut (onRead onSkip : Cut)

/-- Collects the characters of a string. -/
structure Collected where
  /-- The characters so far, the last first. -/
  chars : List Char
  /-- The first half of a surrogate pair whose second half is due. -/
  half : Option Nat
  /-- Whether a half stood alone. -/
  unpaired : Bool

namespace Collected

/-- Whether a half stood alone, now that something else than a second half follows. -/
def broken (made : Collected) : Bool := made.unpaired || made.half.isSome

/-- Appends a character. -/
def push (made : Collected) (c : Char) : Collected :=
  ⟨c :: made.chars, none, made.broken⟩

/-- Appends a number of sixteen bits, which may be half a character. -/
def pushUnit (made : Collected) (unit : Nat) : Collected :=
  -- A second half completes the first one, and without that stands alone.
  if 0xDC00 ≤ unit ∧ unit < 0xE000 then
    match made.half with
    | some first =>
      ⟨Char.ofNat (0x10000 + (first - 0xD800) * 0x400 + (unit - 0xDC00)) :: made.chars, none,
        made.unpaired⟩
    | none => ⟨made.chars, none, true⟩
  -- A first half makes no character until the second one is there.
  else if 0xD800 ≤ unit ∧ unit < 0xDC00 then ⟨made.chars, some unit, made.broken⟩
  else made.push (Char.ofNat unit)

/-- The end of a string at a cut. -/
def cutWith (made : Collected) (cut : Cut) : StringEnd :=
  .cut (if made.unpaired then .malformed else cut) cut

/-- The end of a string at its closing mark. -/
def close (made : Collected) (rest : List Char) : StringEnd :=
  if made.broken then .unpaired rest else .closed (String.ofList made.chars.reverse) rest

end Collected

/-- Reads a string up to its closing mark. -/
def readString (made : Collected) : List Char → StringEnd
  | [] => made.cutWith .endOfText
  | c :: rest =>
    if c = '"' then made.close rest
    else if c = '\\' then
      match rest with
      | [] => made.cutWith .endOfText
      | letter :: rest =>
        if letter = 'u' then
          match rest with
          | a :: b :: c :: d :: more =>
            match hexValue? [a, b, c, d] with
            | some unit => readString (made.pushUnit unit) more
            | none => made.cutWith .malformed
          -- Four bytes have to be there before they are looked at.
          | short =>
            made.cutWith (if (String.ofList short).utf8ByteSize < 4 then .endOfText else .malformed)
        else
          match escaped? letter with
          | some c => readString (made.push c) rest
          | none => made.cutWith .malformed
    -- A control character has to be escaped.
    else if c.val < 0x20 then made.cutWith .malformed
    else readString (made.push c) rest

/-- A draft and what follows it, which is nothing when the reading stopped inside. -/
abbrev Reading := Draft × Option (List Char)

/-- A value of which only some characters are there. -/
def brokenOff (cut : Cut) : Reading := (.broken cut cut .malformed, none)

/-- Reads the rest of a word that stands for a value. -/
def readWord (value : Draft) : List Char → List Char → Reading
  | [], rest => (value, some rest)
  | _ :: _, [] => brokenOff .endOfText
  | expected :: more, c :: rest =>
    if c = expected then readWord value more rest else brokenOff .malformed

/-- A number that lacks a digit: passing over it never takes it for the end of the text. -/
def digitDue (rest : List Char) : Reading := (.broken (cutAt rest) .malformed .malformed, none)

/-- The value of a numeral. -/
def finishNumber (numeral : Numeral) (rest : List Char) : Reading :=
  match numeral.value? with
  | some (.int value) => (.int value, some rest)
  | some (.float value) => (.float value, some rest)
  -- The number is beyond every finite one.
  | _ => (.valueless, some rest)

/-- Reads the exponent of a number, if there is one. -/
def readPower (numeral : Numeral) (cs : List Char) : Reading :=
  match cs with
  | mark :: rest =>
    if mark = 'e' ∨ mark = 'E' then
      let (negative, rest) := match rest with
        | '+' :: rest => (false, rest)
        | '-' :: rest => (true, rest)
        | rest => (false, rest)
      let digits := rest.takeWhile Char.isDigit
      let rest := rest.dropWhile Char.isDigit
      if digits.isEmpty then digitDue rest
      else finishNumber { numeral with power := some (negative, digits) } rest
    -- What follows is no part of the number.
    else finishNumber numeral cs
  | [] => finishNumber numeral []

/-- Reads what follows the digits before the point. -/
def readFraction (numeral : Numeral) (cs : List Char) : Reading :=
  match cs with
  | '.' :: rest =>
    let digits := rest.takeWhile Char.isDigit
    let rest := rest.dropWhile Char.isDigit
    if digits.isEmpty then digitDue rest
    else readPower { numeral with fraction := some digits } rest
  | rest => readPower numeral rest

/-- Reads a number after its sign. -/
def readNumber (negative : Bool) (cs : List Char) : Reading :=
  let digits := cs.takeWhile Char.isDigit
  let rest := cs.dropWhile Char.isDigit
  match digits with
  | [] => digitDue rest
  -- A zero at the front stands alone.
  | '0' :: _ :: _ => brokenOff .malformed
  | _ => readFraction ⟨negative, digits, none, none⟩ rest

/-- Wraps a list or object that is nested too deep. -/
def limited (depth : Nat) (draft : Draft) : Draft :=
  if depth < deepestNesting then draft else .deep draft

mutual

/-- Reads a value; `depth` lists and objects are open around it. -/
def readValue (depth : Nat) : (turns : Nat) → List Char → Reading
  | 0, _ => brokenOff .malformed
  | turns + 1, cs =>
    match afterSeparators cs with
    | [] => (.broken .endOfText .endOfText .endOfText, none)
    | c :: rest =>
      if c = 'n' then readWord .null ['u', 'l', 'l'] rest
      else if c = 't' then readWord (.bool true) ['r', 'u', 'e'] rest
      else if c = 'f' then readWord (.bool false) ['a', 'l', 's', 'e'] rest
      else if c = '"' then
        match readString ⟨[], none, false⟩ rest with
        | .closed text rest => (.str text, some rest)
        | .unpaired rest => (.valueless, some rest)
        | .cut onRead onSkip => (.broken onRead onSkip onRead, none)
      else if c = '-' then readNumber true rest
      else if c.isDigit then readNumber false (c :: rest)
      else if c = '[' then
        let (items, stop, rest) := readItems (depth + 1) true turns rest
        (limited depth (.list items stop), rest)
      else if c = '\x7b' then
        let (members, stop, rest) := readMembers (depth + 1) true turns rest
        (limited depth (.record members stop), rest)
      else brokenOff .malformed
termination_by structural turns => turns

/-- Reads the items of a list up to its closing bracket; `first` before any of them. -/
def readItems (depth : Nat) (first : Bool) :
    (turns : Nat) → List Char → List Draft × Option Cut × Option (List Char)
  | 0, _ => ([], some .malformed, none)
  | turns + 1, cs =>
    match afterSeparators cs with
    | [] => ([], some .endOfText, none)
    | ']' :: rest => ([], none, some rest)
    | c :: rest =>
      -- Only the first one comes without a comma.
      let start := if first then some (c :: rest) else if c = ',' then some rest else none
      match start with
      | none => ([], some .malformed, none)
      | some cs =>
        -- After a comma an item is due, and what stands there instead is a broken item.
        match readValue depth turns cs with
        | (item, some rest) =>
          let (items, stop, rest) := readItems depth false turns rest
          (item :: items, stop, rest)
        | (item, none) => ([item], none, none)
termination_by structural turns => turns

/-- Reads the members of an object up to its closing brace; `first` before any of them. -/
def readMembers (depth : Nat) (first : Bool) :
    (turns : Nat) → List Char → List (Key × Draft) × Option Cut × Option (List Char)
  | 0, _ => ([], some .malformed, none)
  | turns + 1, cs =>
    match afterSeparators cs with
    | [] => ([], some .endOfText, none)
    | '\x7d' :: rest => ([], none, some rest)
    | c :: rest =>
      let start := if first then some (c :: rest) else if c = ',' then some rest else none
      match start with
      | none => ([], some .malformed, none)
      | some cs =>
        match afterSeparators cs with
        | '"' :: rest =>
          match readString ⟨[], none, false⟩ rest with
          | .closed text rest => readMember depth turns (.name text) rest
          | .unpaired rest => readMember depth turns .unpaired rest
          | .cut onRead onSkip => ([(.absent onRead onSkip, .null)], none, none)
        -- Something else than a string stands where a name is due.
        | other => ([(.absent (cutAt other) (cutAt other), .null)], none, none)
termination_by structural turns => turns

/-- Reads a member after its name. -/
def readMember (depth : Nat) : (turns : Nat) → Key → List Char →
    List (Key × Draft) × Option Cut × Option (List Char)
  | 0, key, _ => ([(key, .broken .malformed .malformed .malformed)], none, none)
  | turns + 1, key, cs =>
    match afterSeparators cs with
    | ':' :: rest =>
      match readValue depth turns rest with
      | (value, some rest) =>
        let (members, stop, rest) := readMembers depth false turns rest
        ((key, value) :: members, stop, rest)
      | (value, none) => ([(key, value)], none, none)
    | other =>
      let cut := cutAt other
      ([(key, .broken cut cut cut)], none, none)
termination_by structural turns => turns

end

/-- The draft of a text and what follows its value. -/
def draft (text : String) : Reading :=
  -- Every turn but one in three takes a character away.
  readValue 0 (3 * text.length + 3) text.toList

/-- Reads a typed value from a text that holds nothing else. -/
def decodeText {α : Type} (read : Decoder Draft α) (text : String) : Except Fault α := do
  let (value, rest) := draft text
  let made ← read value
  -- What was read is at fault before anything that follows it.
  match rest with
  | none => return made
  | some rest => if (afterSeparators rest).isEmpty then return made else .error (.cut .malformed)

/-- Reads a JSON value from a text that holds nothing else. -/
def parse (text : String) : Except Fault Json := decodeText Wire.json text

end AnalyticsClient.Json
