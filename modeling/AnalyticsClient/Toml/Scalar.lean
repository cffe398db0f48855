import AnalyticsClient.Toml.Value

/-! The TOML values that are single words: truth values, numbers, dates and times. -/

namespace AnalyticsClient.Toml

/-- The value of a digit in a base up to sixteen. -/
def digitValue? (base : Nat) (c : Char) : Option Nat :=
  let value? : Option Nat :=
    if '0' ≤ c ∧ c ≤ '9' then some (c.toNat - '0'.toNat)
    else if 'a' ≤ c ∧ c ≤ 'f' then some (c.toNat - 'a'.toNat + 10)
    else if 'A' ≤ c ∧ c ≤ 'F' then some (c.toNat - 'A'.toNat + 10)
    else none
  value?.filter (· < base)

/-- The digits of a word in which single underscores may stand between two digits. -/
def plainDigits? (base : Nat) : List Char → Option (List Nat)
  | [] => none
  | [c] => (digitValue? base c).map fun value => [value]
  -- The underscore has to have a digit on either side.
  | c :: '_' :: rest => do
    let value ← digitValue? base c
    let later ← plainDigits? base rest
    return value :: later
  | c :: rest => do
    let value ← digitValue? base c
    let later ← plainDigits? base rest
    return value :: later

/-- The number of a list of digits. -/
def ofDigits (base : Nat) (digits : List Nat) : Nat :=
  digits.foldl (fun made digit => made * base + digit) 0

/-- Decimal digits without a needless zero at the front. -/
def wholeDigits? (cs : List Char) : Option (List Nat) := do
  let digits ← plainDigits? 10 cs
  match digits with
  | 0 :: _ :: _ => none
  | _ => return digits

/-- Splits a sign off; true for minus. -/
def splitSign : List Char → Bool × List Char
  | '+' :: rest => (false, rest)
  | '-' :: rest => (true, rest)
  | cs => (false, cs)

/-- A whole number that fits a signed word of 64 bits. -/
def asWord? (value : Int) : Option Value :=
  if -0x8000000000000000 ≤ value ∧ value < 0x8000000000000000 then some (.int value) else none

/-- Reads a whole number. -/
def readInteger? : List Char → Option Value
  | '0' :: 'x' :: rest => do asWord? (ofDigits 16 (← plainDigits? 16 rest))
  | '0' :: 'o' :: rest => do asWord? (ofDigits 8 (← plainDigits? 8 rest))
  | '0' :: 'b' :: rest => do asWord? (ofDigits 2 (← plainDigits? 2 rest))
  | cs => do
    let (negative, cs) := splitSign cs
    let size := ofDigits 10 (← wholeDigits? cs)
    asWord? (if negative then -size else size)

/-- The number of 64 bits nearest to `digits * 10 ^ power`, the digits read as one number. -/
def nearest (digits : List Nat) (power : Int) : Binary64 :=
  let digits := digits.dropWhile (· == 0)
  let places := digits.length + power
  -- Beyond these limits only zero and infinity are left, and huge powers are never computed.
  if digits.isEmpty ∨ places < -330 then .ofNat 0
  else if 310 < places then .ofFloat (1.0 / 0.0)
  else .ofFloat (Float.ofScientific (ofDigits 10 digits) (decide (power < 0)) power.natAbs)

/-- Reads the exponent of a number, which may start with zeros. -/
def readExponent? (cs : List Char) : Option Int := do
  let (negative, cs) := splitSign cs
  let size := ofDigits 10 (← plainDigits? 10 cs)
  return if negative then -size else size

/-- Whether a character opens an exponent. -/
def isExponentMark (c : Char) : Bool := c = 'e' || c = 'E'

/-- Reads a number with a fraction or an exponent or both, or one of the two that are not finite.
A number too great for 64 bits is refused, but not one that is too small. -/
def readFloat? (cs : List Char) : Option Value := do
  let (negative, cs) := splitSign cs
  let signed (x : Binary64) : Value := .float (if negative then x.neg else x)
  -- Two words stand for the numbers that have no digits.
  if cs = ['i', 'n', 'f'] then return signed (.ofFloat (1.0 / 0.0))
  if cs = ['n', 'a', 'n'] then return signed (.ofFloat (0.0 / 0.0))
  let mantissa := cs.takeWhile fun c => !isExponentMark c
  let whole := mantissa.takeWhile (· != '.')
  let wholeDigits ← wholeDigits? whole
  let fractionDigits ←
    match mantissa.dropWhile (· != '.') with
    | [] => some []
    | _ :: fraction => plainDigits? 10 fraction
  -- A number without a fraction needs an exponent, or it is a whole number.
  let exponent ←
    match cs.dropWhile fun c => !isExponentMark c with
    | [] => if fractionDigits.isEmpty then none else some 0
    | _ :: exponent => readExponent? exponent
  -- Each digit after the point takes one off the exponent.
  let value := nearest (wholeDigits ++ fractionDigits) (exponent - fractionDigits.length)
  if value.isFinite ∨ negative then return signed value else none

/-- The number of exactly so many decimal digits. -/
def fixedDigits? (count : Nat) (cs : List Char) : Option Nat :=
  if cs.length = count then (cs.mapM (digitValue? 10)).map (ofDigits 10) else none

/-- The number of days in a month. -/
def daysIn (year month : Nat) : Nat :=
  if month = 2 then if year % 4 = 0 ∧ (year % 100 ≠ 0 ∨ year % 400 = 0) then 29 else 28
  else if month = 4 ∨ month = 6 ∨ month = 9 ∨ month = 11 then 30
  else 31

/-- Whether a word is a date that exists. -/
def isDate (cs : List Char) : Bool :=
  match fixedDigits? 4 (cs.take 4), cs.drop 4 with
  | some year, '-' :: a :: b :: '-' :: day =>
    match fixedDigits? 2 [a, b], fixedDigits? 2 day with
    | some month, some day =>
      1 ≤ month && month ≤ 12 && 1 ≤ day && day ≤ daysIn year month
    | _, _ => false
  | _, _ => false

/-- Whether a word is a time of day; its seconds may be sixty and have a fraction. -/
def isTime : List Char → Bool
  | a :: b :: ':' :: c :: d :: ':' :: e :: f :: fraction =>
    match fixedDigits? 2 [a, b], fixedDigits? 2 [c, d], fixedDigits? 2 [e, f] with
    | some hour, some minute, some second =>
      hour ≤ 23 && minute ≤ 59 && second ≤ 60 &&
        match fraction with
        | [] => true
        | '.' :: digits => !digits.isEmpty && digits.all Char.isDigit
        | _ => false
    | _, _, _ => false
  | _ => false

/-- Whether a word is a distance from universal time. -/
def isOffset : List Char → Bool
  | ['Z'] | ['z'] => true
  | [sign, a, b, ':', c, d] =>
    (sign = '+' || sign = '-') &&
      match fixedDigits? 2 [a, b], fixedDigits? 2 [c, d] with
      | some hour, some minute => hour ≤ 23 && minute ≤ 59
      | _, _ => false
  | _ => false

/-- Whether a word is a time of day with or without an offset. -/
def isTimeWithOffset (cs : List Char) : Bool :=
  let endsTime (c : Char) : Bool := c = 'Z' || c = 'z' || c = '+' || c = '-'
  let offset := cs.dropWhile fun c => !endsTime c
  isTime (cs.takeWhile fun c => !endsTime c) && (offset.isEmpty || isOffset offset)

/-- Reads a date, a time or both. -/
def readMoment? (cs : List Char) : Option Value :=
  let date := cs.take 10
  let valid :=
    isTime cs || isDate cs ||
      match cs.drop 10 with
      | mark :: time =>
        (mark = 'T' || mark = 't' || mark = ' ') && isDate date && isTimeWithOffset time
      | [] => false
  if valid then some (.moment (String.ofList cs)) else none

/-- Reads a value that is a single word. -/
def readWord? (cs : List Char) : Option Value :=
  if cs = ['t', 'r', 'u', 'e'] then some (.bool true)
  else if cs = ['f', 'a', 'l', 's', 'e'] then some (.bool false)
  -- What starts like a whole number may be a date or a fraction.
  else readMoment? cs <|> readFloat? cs <|> readInteger? cs

end AnalyticsClient.Toml
