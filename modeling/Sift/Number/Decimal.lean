import Sift.Number.Binary
import Sift.Number.Integer
import Sift.Text.Occurrence

/-!
# Reading decimal numbers

A decimal number is an optional sign, digits with an optional point among or beside them, and an
optional power of ten; or a sign and a name of infinity or of the value that is not a number, in any
case of letters. What is read is rounded once, to the nearest number of the wanted format.
-/

namespace Sift.Number
open Text

/-- The digits at the start of a text, and the rest. -/
def splitDigits (cs : List Char) : List Char × List Char :=
  (cs.takeWhile Char.isDigit, cs.dropWhile Char.isDigit)

/-- The value of a run of digits; an empty run is zero. -/
def digitsValue (cs : List Char) : Nat := (readDigits? cs).getD 0

/-- The power of ten written behind a number: nothing, or an `e` and a signed integer. -/
def readPower? : List Char → Option Int
  | [] => some 0
  | c :: cs =>
    if c = 'e' ∨ c = 'E' then
      match cs with
      | '-' :: ds => (readDigits? ds).map fun n => -Int.ofNat n
      | '+' :: ds => (readDigits? ds).map Int.ofNat
      | ds => (readDigits? ds).map Int.ofNat
    else none

/-- The digits and the power of ten of a number without sign. -/
def readUnsigned? (cs : List Char) : Option (Nat × Int) :=
  let (whole, rest) := splitDigits cs
  let (fraction, rest) := match rest with
    | '.' :: after => splitDigits after
    | rest => ([], rest)
  if whole = [] ∧ fraction = [] then none
  else (readPower? rest).map fun e => (digitsValue (whole ++ fraction), e - fraction.length)

/-- The number of decimal digits of a natural number. -/
def digitCount (n : Nat) : Nat := (Nat.toDigits 10 n).length

/-- The number of a format that is nearest to `digits * 10 ^ e`. Powers of ten far outside the
format's range are told by their size alone. -/
def Binary.ofDecimal (f : Format) (negative : Bool) (digits : Nat) (e : Int) : Binary f :=
  let size : Int := digitCount digits + e
  let bound : Int := Nat.pow 2 (f.exponentBits - 1) + f.fractionBits
  if digits = 0 ∨ size < -bound then .zero f negative
  else if bound < size then .infinity f negative
  else
    let (num, den) := scaleDown 10 digits 1 (-e)
    .ofRatio f negative num den

/-- The value of a name of infinity or of the value that is not a number. -/
def readName? (f : Format) (negative : Bool) (cs : List Char) : Option (Binary f) :=
  let isName (name : String) : Bool := equalIgnoringAsciiCase cs name.toList
  if isName "inf" || isName "infinity" then some (.infinity f negative)
  else if isName "nan" then some (.nan f)
  else none

/-- The number of a format that a text writes. -/
def Binary.read? (f : Format) (cs : List Char) : Option (Binary f) :=
  let (negative, rest) := match cs with
    | '-' :: rest => (true, rest)
    | '+' :: rest => (false, rest)
    | rest => (false, rest)
  match readUnsigned? rest with
  | some (digits, e) => some (.ofDecimal f negative digits e)
  | none => readName? f negative rest

end Sift.Number
