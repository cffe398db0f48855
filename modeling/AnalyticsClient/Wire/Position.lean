/-! Places in a text, as they stand at the end of messages. -/

namespace AnalyticsClient.Wire

/-- A place in a text. -/
structure Position where
  line : Nat
  column : Nat
deriving DecidableEq

namespace Position

/-- A place as it is put behind a message. -/
def describe (position : Position) : String :=
  " at line " ++ toString position.line ++ " column " ++ toString position.column

/-- The word of 64 bits that decimal digits make. -/
def word? (digits : List Char) : Option Nat :=
  let value := digits.foldl (fun made c => made * 10 + (c.toNat - '0'.toNat)) 0
  if digits.isEmpty ∨ UInt64.size ≤ value then none else some value

/-- The digits at the end of a text, and what stands before them and before an introducing word;
all texts have their last character first. -/
def lastNumber? (introduction : String) (reversed : List Char) : Option (Nat × List Char) := do
  let digits := reversed.takeWhile Char.isDigit
  let value ← word? digits.reverse
  let introducing := introduction.toList.reverse
  let before := reversed.dropWhile Char.isDigit
  if introducing.isPrefixOf before then some (value, before.drop introducing.length) else none

/-- The place at the end of a message, and the message before it. -/
def split? (message : String) : Option (String × Position) := do
  let (column, before) ← lastNumber? " column " message.toList.reverse
  let (line, before) ← lastNumber? " at line " before
  return (String.ofList before.reverse, ⟨line, column⟩)

/-- A message that is no part of a text: a place at its end is written anew, and the line 0 is no
place. -/
def settle (message : String) : String :=
  match split? message with
  | some (before, position) => if position.line = 0 then before else before ++ position.describe
  | none => message

/-- A message without the place at its end. -/
def drop (message : String) : String :=
  match split? message with
  | some (before, _) => before
  | none => message

end Position

end AnalyticsClient.Wire
