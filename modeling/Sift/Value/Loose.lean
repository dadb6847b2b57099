import Sift.Comparison
import Sift.Text.Blank
import Sift.Value.Basic

/-!
# Loose reading and comparing

A text can be read as the most specific value it writes. Values of different types are compared as
numbers where both are numbers or write one, and by their labels otherwise.
-/

namespace Sift
open Number Text

/-- The truth value that a text writes, in any case of letters. -/
def readBool? (cs : List Char) : Option Bool :=
  if equalIgnoringAsciiCase cs "true".toList then some true
  else if equalIgnoringAsciiCase cs "false".toList then some false
  else none

namespace Value

variable {κ : Type}

/-- The value that a text writes: an integer if it can be, else a finite number, else a truth value,
else the text itself with the blanks around it. -/
def ofText (raw : String) : Value κ :=
  let cs := trim raw.toList
  match IntRange.value.read? cs with
  | some n => int n.val
  | none =>
    match (Binary.read? .double cs).filter Binary.isFinite with
    | some x => float x
    | none =>
      match readBool? cs with
      | some b => bool b
      | none => string raw

/-- The number that a value is, or that its text writes. -/
def numeric? : Value κ → Option Binary64
  | string s => Binary.read? .double (trim s.toList)
  | v => v.asFloat?

/-- The order of two values of any types; none where one of two numbers is not a number. -/
def looseCompare (cmp : Comparison) : Value κ → Value κ → Option Ordering
  | int a, int b => some (compare a b)
  | bool a, bool b => some (compare a b)
  | a, b =>
    match a.numeric?, b.numeric? with
    | some x, some y => x.compare? y
    | _, _ => some (cmp.compare a.label b.label)

/-- Whether two values of any types are equal in the loose order. -/
def looseEquals (cmp : Comparison) (a b : Value κ) : Bool := a.looseCompare cmp b == some .eq

/-- Whether the label of a string or host value contains that of another value; a number or a truth
value contains what it equals. -/
def looseContains (cmp : Comparison) : Value κ → Value κ → Bool
  | a@(string _), b | a@(custom _), b => cmp.contains a.label b.label
  | a, b => a.looseEquals cmp b

end Value
end Sift
