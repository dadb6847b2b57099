/-!
# Integers of bounded ranges

A decimal integer is a run of ASCII digits behind at most one sign. A range without negative numbers
takes no minus sign, not even in front of a zero.
-/

namespace Sift.Number

/-- The number that a non-empty run of ASCII digits writes. -/
def readDigits? (cs : List Char) : Option Nat :=
  if cs ≠ [] ∧ cs.all Char.isDigit then
    some (cs.foldl (fun n c => 10 * n + (c.toNat - '0'.toNat)) 0)
  else none

/-- The integers from `least` to `greatest`. -/
structure IntRange where
  least : Int
  greatest : Int
  deriving DecidableEq

namespace IntRange

/-- The integers of `bits` bits in two's complement. -/
def signed (bits : Nat) : IntRange := ⟨-Nat.pow 2 (bits - 1), Nat.pow 2 (bits - 1) - 1⟩

/-- The natural numbers of `bits` bits. -/
def unsigned (bits : Nat) : IntRange := ⟨0, Nat.pow 2 bits - 1⟩

/-- The integers that filter values are made of. -/
def value : IntRange := signed 64

/-- The members of a range. -/
def Member (r : IntRange) : Type := { n : Int // r.least ≤ n ∧ n ≤ r.greatest }

/-- Members are told apart by their integers. -/
instance (r : IntRange) : DecidableEq r.Member := inferInstanceAs (DecidableEq (Subtype _))

/-- The integer as a member, if it is in range. -/
def ofInt? (r : IntRange) (n : Int) : Option r.Member :=
  if h : r.least ≤ n ∧ n ≤ r.greatest then some ⟨n, h⟩ else none

/-- The integer that a text writes, whatever its size. -/
def readInt? (r : IntRange) : List Char → Option Int
  | '+' :: cs => (readDigits? cs).map Int.ofNat
  | '-' :: cs => if r.least < 0 then (readDigits? cs).map fun n => -Int.ofNat n else none
  | cs => (readDigits? cs).map Int.ofNat

/-- The member of the range that a text writes. -/
def read? (r : IntRange) (cs : List Char) : Option r.Member := (r.readInt? cs).bind r.ofInt?

end IntRange
end Sift.Number
