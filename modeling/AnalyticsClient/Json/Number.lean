import AnalyticsClient.Json.Basic

/-! The value of a JSON number: whole numbers of 64 bits exactly, anything else in binary floating
point by one product or quotient with a power of ten. -/

namespace AnalyticsClient.Json

/-- The greatest unsigned word of 64 bits. -/
def greatestWord : Nat := 0xFFFFFFFFFFFFFFFF

/-- The number that a digit stands for. -/
def digitValue (c : Char) : Nat := c.toNat - '0'.toNat

/-- Appends digits to a number while it stays a word, and tells which digits are left. -/
def absorb : Nat → List Char → Nat × List Char
  | made, [] => (made, [])
  | made, c :: rest =>
    let next := made * 10 + digitValue c
    if next ≤ greatestWord then absorb next rest else (made, c :: rest)

/-- The number written by a list of digits. -/
def digitsValue (digits : List Char) : Nat :=
  digits.foldl (fun made c => made * 10 + digitValue c) 0

/-- Scales a number by a power of ten, in steps of at most `10 ^ 308`; none if it grows beyond
every finite number. -/
def scale : Nat → Binary64 → Int → Option Binary64
  | 0, x, _ => some x
  | turns + 1, x, power =>
    if power.natAbs ≤ 308 then
      if power < 0 then some (x.div (.powTen power.natAbs))
      else
        let product := x.mul (.powTen power.natAbs)
        if product.isFinite then some product else none
    else if x.isZero then some x
    else if 0 ≤ power then none
    -- A third step of this size leaves nothing of any word.
    else scale turns (x.div (.powTen 308)) (power + 308)

/-- The parts of a written number. -/
structure Numeral where
  negative : Bool
  /-- The digits before the point. -/
  whole : List Char
  /-- The digits after the point, if there is one. -/
  fraction : Option (List Char)
  /-- The sign and the digits of the exponent, if there is one; true for a negative one. -/
  power : Option (Bool × List Char)

namespace Numeral

/-- Gives a magnitude the sign of the numeral. -/
def signed (numeral : Numeral) (x : Binary64) : Binary64 :=
  if numeral.negative then x.neg else x

/-- The value in floating point; none if it is beyond every finite number. -/
def float? (numeral : Numeral) : Option Binary64 :=
  -- Digits beyond the first that do not fit a word count only by their places.
  let (start, dropped) := absorb 0 numeral.whole
  let fraction := numeral.fraction.getD []
  let (made, ignored) := absorb start fraction
  let place : Int := dropped.length - (fraction.length - ignored.length : Nat)
  let value : Option Binary64 :=
    match numeral.power with
    | none => scale 5 (.ofNat made) place
    | some (negative, digits) =>
      let size := digitsValue digits
      -- An exponent beyond these limits leaves only zero, or nothing at all.
      if 0x80000000 ≤ size then
        if made ≠ 0 ∧ ¬ negative then none else some (.ofNat 0)
      else scale 5 (.ofNat made) (if negative then place - size else place + size)
  value.map numeral.signed

/-- The value; none if it is beyond every finite number. -/
def value? (numeral : Numeral) : Option Json :=
  let size := digitsValue numeral.whole
  if numeral.fraction.isNone ∧ numeral.power.isNone ∧ size ≤ greatestWord then
    if ¬ numeral.negative then some (.int size)
    -- Negative zero and what lies below the least signed word are no whole numbers here.
    else if size = 0 ∨ 0x8000000000000000 < size then some (.float (numeral.signed (.ofNat size)))
    else some (.int (-size))
  else numeral.float?.map .float

end Numeral

end AnalyticsClient.Json
