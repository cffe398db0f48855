import AnalyticsClient.Number.Binary64

/-! The shortest decimal that reads back as a given binary number, and its two layouts. -/

namespace AnalyticsClient

/-- A decimal number `digits * 10 ^ exponent`. -/
structure Decimal where
  /-- All digits, read as one natural number. -/
  digits : Nat
  /-- The power of ten that the last digit counts. -/
  exponent : Int
deriving DecidableEq

namespace Decimal

/-- The same number with its trailing zeros moved into the exponent, within a number of turns. -/
def stripped : Nat → Decimal → Decimal
  | 0, d => d
  | turns + 1, d =>
    if d.digits ≠ 0 ∧ d.digits % 10 = 0 then stripped turns ⟨d.digits / 10, d.exponent + 1⟩ else d

end Decimal

namespace Binary64

/-- The reals that round to a positive finite number, on the grid of a quarter of its last place:
the lower end, the number itself and the upper end. -/
structure Interval where
  lower : Nat
  middle : Nat
  upper : Nat
  /-- The ends belong to the interval when the significand is even. -/
  closed : Bool
  /-- The power of two that the three ends count. -/
  exponent : Int

/-- The interval of a number: half a place on both sides, a quarter below a power of two. -/
def interval (x : Binary64) : Interval :=
  let m := x.significand
  { lower := if x.fraction = 0 ∧ 1 < x.exponentBits then 4 * m - 1 else 4 * m - 2
    middle := 4 * m
    upper := 4 * m + 2
    closed := m % 2 == 0
    exponent := x.exponent - 2 }

/-- The better of the two neighbours of the number on the grid of `10 ^ place`, if one of them lies
in the interval: the nearer one, and the even one when both are equally near. -/
def hit? (i : Interval) (place : Int) : Option Nat :=
  -- Both sides are multiplied out, so that every comparison is between natural numbers.
  let unit := Nat.pow 2 (-i.exponent).toNat * Nat.pow 10 place.toNat
  let scale := Nat.pow 2 i.exponent.toNat * Nat.pow 10 (-place).toNat
  let inside (d : Nat) : Bool :=
    if i.closed then i.lower * scale ≤ d * unit && d * unit ≤ i.upper * scale
    else i.lower * scale < d * unit && d * unit < i.upper * scale
  -- The two neighbours of the number on the grid.
  let below := i.middle * scale / unit
  let above := below + 1
  match inside below, inside above with
  | false, false => none
  | true, false => some below
  | false, true => some above
  | true, true =>
    let short := i.middle * scale - below * unit
    let excess := above * unit - i.middle * scale
    if short < excess then some below
    else if excess < short then some above
    else if below % 2 = 0 then some below else some above

/-- The first hit on ever finer grids, within a number of turns. -/
def search (i : Interval) : Nat → Int → Decimal
  | 0, place => ⟨i.middle, place⟩
  | turns + 1, place =>
    match hit? i place with
    | some d => ⟨d, place⟩
    | none => search i turns (place - 1)

/-- The decimal with the fewest digits that rounds to a finite number, the sign left aside; of
those, the nearest to it. -/
def shortest (x : Binary64) : Decimal :=
  if x.isZero then ⟨0, 0⟩
  else
    -- The first grid is coarser than the number, and seventeen digits always suffice.
    let size := (x.significand.log2 : Int) + 1 + x.exponent
    (search x.interval 25 (size * 30103 / 100000 + 2)).stripped 25

/-- A run of zeros. -/
def zeros (n : Nat) : List Char := List.replicate n '0'

/-- Positional layout: all digits around a point, and at least one digit after it. -/
def positional (d : Decimal) : List Char :=
  let digits := (toString d.digits).toList
  let point := (digits.length : Int) + d.exponent
  if 0 ≤ d.exponent then digits ++ zeros d.exponent.toNat ++ ['.', '0']
  else if 0 < point then digits.take point.toNat ++ '.' :: digits.drop point.toNat
  else ['0', '.'] ++ zeros (-point).toNat ++ digits

/-- Scientific layout: one digit before the point, no point after a single digit, and the exponent
with its sign. -/
def scientific (d : Decimal) : List Char :=
  let digits := (toString d.digits).toList
  let power := (digits.length : Int) + d.exponent - 1
  let body := match digits with
    | first :: second :: rest => first :: '.' :: second :: rest
    | _ => digits
  let sign := if power < 0 then '-' else '+'
  body ++ 'e' :: sign :: (toString power.natAbs).toList

/-- A finite number, positional from `1e-5` up to below `1e16` and scientific elsewhere. -/
def render (x : Binary64) : String :=
  let d := x.shortest
  let point := ((toString d.digits).length : Int) + d.exponent
  let body :=
    if x.isZero then ['0', '.', '0']
    else if -5 < point ∧ point ≤ 16 then positional d
    else scientific d
  String.ofList (if x.isNegative then '-' :: body else body)

/-- Any number, always positional; the three that are not finite have names. -/
def renderPositional (x : Binary64) : String :=
  if x.isNaN then "NaN"
  else
    let body := if x.isFinite then positional x.shortest else ['i', 'n', 'f']
    String.ofList (if x.isNegative then '-' :: body else body)

end Binary64

end AnalyticsClient
