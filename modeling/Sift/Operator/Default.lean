import Sift.Operator.Basic

/-!
# The operators of every engine

Seven operators compare values of all types, strings, integers, floating-point numbers and, where
order has no say, truth values. The colon asks whether the left text contains the right one; on
numbers and truth values it asks for equality.
-/

namespace Sift

/-- The ways to compare that every engine knows. -/
inductive Relation where
  | contains
  | eq
  | ne
  | lt
  | gt
  | le
  | ge
  deriving DecidableEq

namespace Relation

/-- All relations, in the order of their registration. -/
def all : List Relation := [contains, eq, ne, lt, gt, le, ge]

/-- The token of a relation. -/
def token : Relation → String
  | contains => ":"
  | eq => "="
  | ne => "!="
  | lt => "<"
  | gt => ">"
  | le => "<="
  | ge => ">="

/-- Whether two things in the given order are in relation. Things without an order are unequal and
in no other relation. -/
def holds : Relation → Option Ordering → Bool
  | r, none => r == ne
  | contains, some o | eq, some o => o == .eq
  | ne, some o => o != .eq
  | lt, some o => o == .lt
  | gt, some o => o == .gt
  | le, some o => o != .gt
  | ge, some o => o != .lt

/-- Whether the relation makes sense of things that have no order. -/
def isEquality : Relation → Bool
  | contains | eq | ne => true
  | _ => false

variable {κ : Type}

/-- The handler for values of all types. -/
def looseHandler (r : Relation) : Handler κ :=
  .of .object .object fun a b cmp =>
    if r = contains then a.looseContains cmp b else r.holds (a.looseCompare cmp b)

/-- The handler for strings. -/
def stringHandler (r : Relation) : Handler κ :=
  .of .string .string fun a b cmp =>
    if r = contains then cmp.contains a b else r.holds (some (cmp.compare a b))

/-- The handler for integers. -/
def intHandler (r : Relation) : Handler κ :=
  .of (.integer .value) (.integer .value) fun a b _ => r.holds (some (compare a.val b.val))

/-- The handler for floating-point numbers. -/
def floatHandler (r : Relation) : Handler κ :=
  .of (.floating .double) (.floating .double) fun a b _ => r.holds (a.compare? b)

/-- The handler for truth values. -/
def boolHandler (r : Relation) : Handler κ :=
  .of .bool .bool fun a b _ => r.holds (some (compare a b))

/-- The operator of a relation. -/
def operator (r : Relation) : Operator κ where
  token := r.token
  handlers :=
    [r.looseHandler, r.stringHandler, r.intHandler, r.floatHandler] ++
      if r.isEquality then [r.boolHandler] else []

end Relation

/-- The operators that need no registration. -/
def Operator.builtin {κ : Type} : List (Operator κ) := Relation.all.map Relation.operator

end Sift
