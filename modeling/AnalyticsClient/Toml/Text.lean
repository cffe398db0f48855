import AnalyticsClient.Toml.Scalar

/-! TOML strings and keys. -/

namespace AnalyticsClient.Toml

/-- The blanks within a line. -/
def isSpace (c : Char) : Bool := c = ' ' || c = '\t'

/-- What follows the blanks. -/
def afterSpaces (cs : List Char) : List Char := cs.dropWhile isSpace

/-- Whether a character may stand in a comment or a string as itself: no control character other
than a tab. -/
def isPlain (c : Char) : Bool := c = '\t' || (0x20 ≤ c.val && c.val ≠ 0x7F)

/-- What follows the end of a line, if one is there. -/
def afterNewline? : List Char → Option (List Char)
  | '\n' :: rest => some rest
  | '\r' :: '\n' :: rest => some rest
  | _ => none

/-- What follows a comment, if one is there; the end of the line stays. -/
def afterComment : List Char → List Char
  | '#' :: rest => rest.dropWhile isPlain
  | cs => cs

/-- The character of a code point that is given in hexadecimal digits. -/
def charOfHex? (digits : List Char) : Option Char := do
  let code := ofDigits 16 (← digits.mapM (digitValue? 16))
  if code.isValidChar then return Char.ofNat code else none

/-- The character of an escape that is a single letter. -/
def escaped? (c : Char) : Option Char :=
  if c = 'b' then some '\x08'
  else if c = 't' then some '\t'
  else if c = 'n' then some '\n'
  else if c = 'f' then some '\x0c'
  else if c = 'r' then some '\r'
  else if c = '"' ∨ c = '\\' then some c
  else none

/-- Reads an escape after its backslash. -/
def readEscape : List Char → Option (Char × List Char)
  | 'u' :: a :: b :: c :: d :: rest => (charOfHex? [a, b, c, d]).map (·, rest)
  | 'U' :: a :: b :: c :: d :: e :: f :: g :: h :: rest =>
    (charOfHex? [a, b, c, d, e, f, g, h]).map (·, rest)
  | c :: rest => (escaped? c).map (·, rest)
  | [] => none

/-- Reads a string of one line up to its mark; `escapes` if a backslash opens an escape. -/
def readLine (mark : Char) (escapes : Bool) :
    (turns : Nat) → List Char → List Char → Option (String × List Char)
  | 0, _, _ => none
  | turns + 1, made, cs =>
    match cs with
    | [] => none
    | c :: rest =>
      if c = mark then some (String.ofList made.reverse, rest)
      else if c = '\\' ∧ escapes then do
        let (c, rest) ← readEscape rest
        readLine mark escapes turns (c :: made) rest
      else if isPlain c then readLine mark escapes turns (c :: made) rest
      else none

/-- What follows the blanks and line ends after a backslash at the end of a line. -/
def afterLineBreak? (cs : List Char) : Option (List Char) := do
  let rest ← afterNewline? (afterSpaces cs)
  let left := rest.dropWhile fun c => isSpace c || c = '\n' || c = '\r'
  -- A carriage return counts only in front of a line feed.
  let passed := rest.take (rest.length - left.length)
  if loneReturn passed then none else return left
where
  loneReturn : List Char → Bool
    | [] => false
    | '\r' :: '\n' :: rest => loneReturn rest
    | c :: rest => c = '\r' || loneReturn rest

/-- The marks that a run of them at the end of a string adds to it, three of them closing it. -/
def closingMarks (mark : Char) (cs : List Char) : Option (List Char × List Char) :=
  let run := (cs.takeWhile (· = mark)).length
  if run < 3 then none
  else
    -- Up to two more marks belong to the string itself.
    let extra := min (run - 3) 2
    some (List.replicate extra mark, cs.drop (3 + extra))

/-- Reads a string of several lines up to its three marks. -/
def readLines (mark : Char) (escapes : Bool) :
    (turns : Nat) → List Char → List Char → Option (String × List Char)
  | 0, _, _ => none
  | turns + 1, made, cs =>
    match closingMarks mark cs with
    | some (extra, rest) => some (String.ofList (made.reverse ++ extra), rest)
    | none =>
      match afterNewline? cs with
      | some rest => readLines mark escapes turns ('\n' :: made) rest
      | none =>
        match cs with
        | [] => none
        | c :: rest =>
          -- A backslash at the end of a line leaves out the break and the blanks after it.
          if c = '\\' ∧ escapes then
            match afterLineBreak? rest with
            | some rest => readLines mark escapes turns made rest
            | none => do
              let (c, rest) ← readEscape rest
              readLines mark escapes turns (c :: made) rest
          else if isPlain c then readLines mark escapes turns (c :: made) rest
          else none

/-- Reads a string of one line, if one starts here. -/
def readQuoted : List Char → Option (String × List Char)
  | '"' :: rest => readLine '"' true (rest.length + 1) [] rest
  | '\'' :: rest => readLine '\'' false (rest.length + 1) [] rest
  | _ => none

/-- Reads a string of any form; a line end right after three opening marks is left out. -/
def readString : List Char → Option (String × List Char)
  | '"' :: '"' :: '"' :: rest =>
    let rest := (afterNewline? rest).getD rest
    readLines '"' true (rest.length + 1) [] rest
  | '\'' :: '\'' :: '\'' :: rest =>
    let rest := (afterNewline? rest).getD rest
    readLines '\'' false (rest.length + 1) [] rest
  | cs => readQuoted cs

/-- The characters of a key without quotation marks. -/
def isBare (c : Char) : Bool := c.isAlphanum || c = '_' || c = '-'

/-- Reads one part of a key. -/
def readKeyPart (cs : List Char) : Option (String × List Char) :=
  match readQuoted cs with
  | some found => some found
  | none =>
    let bare := cs.takeWhile isBare
    if bare.isEmpty then none else some (String.ofList bare, cs.dropWhile isBare)

/-- Reads the parts of a key with points between them, blanks around each left aside. -/
def readKeyParts : (turns : Nat) → List Char → Option (List String × List Char)
  | 0, _ => none
  | turns + 1, cs => do
    let (part, rest) ← readKeyPart (afterSpaces cs)
    match afterSpaces rest with
    | '.' :: rest => do
      let (parts, rest) ← readKeyParts turns rest
      return (part :: parts, rest)
    | rest => return ([part], rest)

/-- The greatest depth of nesting, in values and in keys. -/
def deepestNesting : Nat := 79

/-- Reads a key, which has at least one part. -/
def readKey (cs : List Char) : Option ((List String × String) × List Char) := do
  let (parts, rest) ← readKeyParts (cs.length + 1) cs
  if deepestNesting < parts.length then none
  else
    match parts.getLast? with
    | some last => return ((parts.dropLast, last), rest)
    | none => none

end AnalyticsClient.Toml
