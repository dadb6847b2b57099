/-!
# Tables of character ranges

A property of characters is written as an ascending list of inclusive code point ranges. A look-up
stops at the first range that begins above the character, so that a small character costs little.
-/

namespace Sift.Unicode

/-- An ascending list of inclusive code point ranges. -/
abbrev RangeTable := List (Nat × Nat)

/-- Whether a code point lies in one of the ranges. -/
def RangeTable.covers : RangeTable → Nat → Bool
  | [], _ => false
  | (first, last) :: later, n => first ≤ n && (n ≤ last || RangeTable.covers later n)

/-- Whether a character lies in one of the ranges. -/
def RangeTable.contains (table : RangeTable) (c : Char) : Bool :=
  RangeTable.covers table c.toNat

end Sift.Unicode
