/-!
# Binary floating-point numbers

Numbers in the binary interchange formats: a sign, an exponent field and a fraction field. Two
numbers are compared through an integer that grows with the number; a number that is not a number
has no order to any other. Fractions of natural numbers are rounded to the nearest number of a
format, a tie to the one whose last bit is zero.
-/

namespace Sift.Number

/-- A binary interchange format. -/
structure Format where
  exponentBits : Nat
  fractionBits : Nat

namespace Format

/-- The number of bits without the sign. -/
def magnitudeBits (f : Format) : Nat := f.exponentBits + f.fractionBits

/-- The exponent of the last fraction bit of the smallest numbers. -/
def leastExponent (f : Format) : Int := 2 - Nat.pow 2 (f.exponentBits - 1) - f.fractionBits

/-- The bits of infinity, which stands above all finite numbers. -/
def infinityBits (f : Format) : Nat :=
  (Nat.pow 2 f.exponentBits - 1) * Nat.pow 2 f.fractionBits

/-- The format of 32 bits. -/
def single : Format := ⟨8, 23⟩

/-- The format of 64 bits. -/
def double : Format := ⟨11, 52⟩

end Format

/-- A number of a binary format: its sign and its other bits. -/
structure Binary (f : Format) where
  negative : Bool
  magnitude : BitVec f.magnitudeBits
  deriving DecidableEq

/-- Numbers of 64 bits. -/
abbrev Binary64 := Binary Format.double

namespace Binary

variable {f : Format}

/-- The number with the given sign and the given other bits. -/
def ofMagnitude (f : Format) (negative : Bool) (magnitude : Nat) : Binary f :=
  ⟨negative, BitVec.ofNat _ magnitude⟩

/-- Zero. -/
def zero (f : Format) (negative : Bool) : Binary f := ofMagnitude f negative 0

/-- Infinity. -/
def infinity (f : Format) (negative : Bool) : Binary f := ofMagnitude f negative f.infinityBits

/-- The value that is not a number. -/
def nan (f : Format) : Binary f :=
  ofMagnitude f false (f.infinityBits + Nat.pow 2 (f.fractionBits - 1))

/-- Whether the value is not a number. -/
def isNaN (x : Binary f) : Bool := f.infinityBits < x.magnitude.toNat

/-- Whether the value is one of the two infinities. -/
def isInfinite (x : Binary f) : Bool := x.magnitude.toNat == f.infinityBits

/-- Whether the value is a number other than the infinities. -/
def isFinite (x : Binary f) : Bool := x.magnitude.toNat < f.infinityBits

/-- All the bits of the value, the sign first. -/
def toNat (x : Binary f) : Nat :=
  x.negative.toNat * Nat.pow 2 f.magnitudeBits + x.magnitude.toNat

/-- An integer that grows with the number; both zeros have the same. -/
def rank (x : Binary f) : Int := if x.negative then -x.magnitude.toNat else x.magnitude.toNat

/-- The order of two values, if both are numbers. -/
def compare? (x y : Binary f) : Option Ordering :=
  if x.isNaN || y.isNaN then none else some (compare x.rank y.rank)

/-- The exponent field. -/
def exponentField (x : Binary f) : Nat := x.magnitude.toNat / Nat.pow 2 f.fractionBits

/-- The fraction field. -/
def fractionField (x : Binary f) : Nat := x.magnitude.toNat % Nat.pow 2 f.fractionBits

/-- The factor `m` of a finite number `m * 2 ^ e`, with the leading bit that is not stored. -/
def significand (x : Binary f) : Nat :=
  if x.exponentField = 0 then x.fractionField else Nat.pow 2 f.fractionBits + x.fractionField

/-- The exponent `e` of a finite number `m * 2 ^ e`. -/
def exponent (x : Binary f) : Int := f.leastExponent + (x.exponentField - 1 : Nat)

end Binary

/-- The quotient rounded to the nearest natural number, a tie to the even one. -/
def roundQuotient (num den : Nat) : Nat :=
  let q := num / den
  let twice := 2 * (num % den)
  if twice < den then q else if den < twice then q + 1 else q + q % 2

/-- The fraction `num / den` divided by `base ^ e`. -/
def scaleDown (base : Nat) (num den : Nat) (e : Int) : Nat × Nat :=
  if 0 ≤ e then (num, den * base.pow e.toNat) else (num * base.pow (-e).toNat, den)

/-- The greatest `k` for which `2 ^ k` is at most `num / den`. -/
def floorLog2 (num den : Nat) : Int :=
  let k : Int := num.log2 - den.log2
  let (n, d) := scaleDown 2 num den k
  if d ≤ n then k else k - 1

/-- The number of a format that is nearest to a fraction; one that is too large becomes infinity. -/
def Binary.ofRatio (f : Format) (negative : Bool) (num den : Nat) : Binary f :=
  if num = 0 then .zero f negative
  else
    let e := max (floorLog2 num den - f.fractionBits) f.leastExponent
    let (n, d) := scaleDown 2 num den e
    let magnitude := (e - f.leastExponent).toNat * Nat.pow 2 f.fractionBits + roundQuotient n d
    if f.infinityBits ≤ magnitude then .infinity f negative else .ofMagnitude f negative magnitude

/-- The number of a format that is nearest to an integer. -/
def Binary.ofInt (f : Format) (n : Int) : Binary f := .ofRatio f (n < 0) n.natAbs 1

/-- The number of one format that is nearest to a number of another. -/
def Binary.convert {f : Format} (g : Format) (x : Binary f) : Binary g :=
  if x.isNaN then .nan g
  else if x.isInfinite then .infinity g x.negative
  else
    let (num, den) := scaleDown 2 x.significand 1 (-x.exponent)
    .ofRatio g x.negative num den

end Sift.Number
