import Sift.Number.FloatText

/-!
# Values

What a filter reads from an element, and what the text of a query is read as: a string, an integer
of 64 bits, a floating-point number, a truth value, or a value of the host program's own. The last
carry the name of their type, a label, and a content of the type `κ`, which the host chooses.
-/

namespace Sift
open Number

/-- The types of values. `object` stands for all of them together. -/
inductive ValueType where
  | object
  | string
  | int
  | float
  | bool
  | custom (name : String)
  deriving DecidableEq

/-- The name of a type in messages. -/
def ValueType.name : ValueType → String
  | object => "object"
  | string => "string"
  | int => "int"
  | float => "float"
  | bool => "bool"
  | custom name => name

/-- A value of the host program's own. -/
structure CustomValue (κ : Type) where
  typeName : String
  label : String
  content : κ

/-- A value. -/
inductive Value (κ : Type) where
  | string (s : String)
  | int (n : Int)
  | float (x : Binary64)
  | bool (b : Bool)
  | custom (c : CustomValue κ)

namespace Value

variable {κ : Type}

/-- The type of a value; no value has the type `object`. -/
def type : Value κ → ValueType
  | string _ => .string
  | int _ => .int
  | float _ => .float
  | bool _ => .bool
  | custom c => .custom c.typeName

/-- No value is of the generic type. -/
theorem type_ne_object (v : Value κ) : v.type ≠ .object := by
  cases v <;> simp [type]

/-- The text of an integer. -/
def intText (n : Int) : String := (if n < 0 then "-" else "") ++ digitText n.natAbs

/-- The text that stands for a value where values of different types are compared. -/
def label : Value κ → String
  | string s => s
  | int n => intText n
  | float x => FloatStyle.label.text x
  | bool b => if b then "true" else "false"
  | custom c => c.label

/-- The text of a string value. -/
def asString? : Value κ → Option String
  | string s => some s
  | _ => none

/-- The floating-point number nearest to a value that is a number. -/
def asFloat? : Value κ → Option Binary64
  | int n => some (.ofInt .double n)
  | float x => some x
  | _ => none

/-- Whether two values are the same: of one type, and equal as numbers, truth values, strings or, if
they are the host's own, by their labels. -/
def same : Value κ → Value κ → Bool
  | string a, string b => a == b
  | int a, int b => a == b
  | float a, float b => a.compare? b == some .eq
  | bool a, bool b => a == b
  | custom a, custom b => a.typeName == b.typeName && a.label == b.label
  | _, _ => false

end Value
end Sift
