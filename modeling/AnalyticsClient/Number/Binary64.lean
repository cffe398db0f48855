/-! Binary floating point numbers of 64 bits, told apart by their bits. -/

namespace AnalyticsClient

/-- A number of 64 bits: a sign bit, eleven exponent bits and fifty-two fraction bits. -/
structure Binary64 where
  /-- The bits as one word, the sign bit highest. -/
  bits : UInt64
deriving DecidableEq

namespace Binary64

/-- The bits of a machine number. -/
def ofFloat (x : Float) : Binary64 := ⟨x.toBits⟩

/-- The machine number with these bits. -/
def toFloat (x : Binary64) : Float := Float.ofBits x.bits

/-- Whether the sign bit is set, which it is for negative zero as well. -/
def isNegative (x : Binary64) : Bool := x.bits >>> 63 == 1

/-- The eleven exponent bits. -/
def exponentBits (x : Binary64) : Nat := (x.bits >>> 52 &&& 0x7FF).toNat

/-- The fifty-two fraction bits. -/
def fraction (x : Binary64) : Nat := (x.bits &&& 0xFFFFFFFFFFFFF).toNat

/-- Infinities and numbers that are not numbers have all exponent bits set. -/
def isFinite (x : Binary64) : Bool := x.exponentBits != 0x7FF

/-- All exponent bits are set and the fraction is not zero. -/
def isNaN (x : Binary64) : Bool := x.exponentBits == 0x7FF && x.fraction != 0

/-- Zero of either sign. -/
def isZero (x : Binary64) : Bool := x.exponentBits == 0 && x.fraction == 0

/-- A finite number is `significand * 2 ^ exponent` up to its sign. -/
def significand (x : Binary64) : Nat :=
  if x.exponentBits = 0 then x.fraction else x.fraction + 0x10000000000000

/-- The power of two that the significand counts. -/
def exponent (x : Binary64) : Int := (max x.exponentBits 1 : Nat) - 1075

/-- The number with its sign bit turned over. -/
def neg (x : Binary64) : Binary64 := ⟨x.bits ^^^ 0x8000000000000000⟩

/-- A natural number, rounded to the nearest number of 64 bits. -/
def ofNat (n : Nat) : Binary64 := ofFloat (Float.ofNat n)

/-- A power of ten, rounded to the nearest number of 64 bits. -/
def powTen (k : Nat) : Binary64 := ofFloat (Float.ofScientific 1 false k)

/-- The rounded product. -/
def mul (x y : Binary64) : Binary64 := ofFloat (x.toFloat * y.toFloat)

/-- The rounded quotient. -/
def div (x y : Binary64) : Binary64 := ofFloat (x.toFloat / y.toFloat)

end Binary64

end AnalyticsClient
