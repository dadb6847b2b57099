import Sift.Number.Shortest

/-!
# Texts of floating-point numbers

A finite number is written with its shortest decimal. A `FloatStyle` says where a power of ten is
written and whether a whole number keeps a fraction digit.
-/

namespace Sift.Number

/-- How numbers are written. -/
structure FloatStyle where
  /-- Whether a number whose first digit stands for `10 ^ k` is written with a power of ten. -/
  scientific : Int → Bool
  /-- What stands behind a whole number that is written without a power of ten. -/
  wholeMark : String

/-- Labels have no power of ten and no fraction on whole numbers. -/
def FloatStyle.label : FloatStyle := ⟨fun _ => false, ""⟩

/-- Developer views write a power of ten below `10 ^ -4` and from `10 ^ 16` on, and mark whole
numbers as floating-point ones. -/
def FloatStyle.view : FloatStyle := ⟨fun k => k < -4 || 16 ≤ k, ".0"⟩

/-- The decimal digits of a natural number. -/
def digitText (n : Nat) : String := String.ofList (Nat.toDigits 10 n)

/-- As many zeros. -/
def zeros (n : Nat) : String := String.ofList (List.replicate n '0')

/-- Drops the zeros at the end of the digits. -/
def Decimal.digitList (d : Decimal) : List Char :=
  ((Nat.toDigits 10 d.digits).reverse.dropWhile (· == '0')).reverse

/-- The text of a positive decimal. -/
def FloatStyle.decimalText (style : FloatStyle) (d : Decimal) : String :=
  let digits := d.digitList
  let point : Int := digitCount d.digits + d.exponent
  let text := String.ofList
  if style.scientific (point - 1) then
    let fraction := digits.drop 1
    text (digits.take 1) ++ (if fraction = [] then "" else "." ++ text fraction) ++
      "e" ++ (if point - 1 < 0 then "-" else "") ++ digitText (point - 1).natAbs
  else if point ≤ 0 then "0." ++ zeros (-point).toNat ++ text digits
  else if digits.length ≤ point.toNat then
    text digits ++ zeros (point.toNat - digits.length) ++ style.wholeMark
  else text (digits.take point.toNat) ++ "." ++ text (digits.drop point.toNat)

/-- The text of a number. -/
def FloatStyle.text (style : FloatStyle) {f : Format} (x : Binary f) : String :=
  let sign := if x.negative then "-" else ""
  if x.isNaN then "NaN"
  else if x.isInfinite then sign ++ "inf"
  else if x.significand = 0 then sign ++ "0" ++ style.wholeMark
  else sign ++ style.decimalText x.shortest

end Sift.Number
