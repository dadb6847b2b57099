import Sift.Value.Parser

/-!
# Operators

An operator is a token with handlers. A handler compares a value that a filter has read with a value
from the query; there is at most one for each pair of types. A handler for `object` on a side takes
values of every type there.
-/

namespace Sift

/-- A comparison of two values. It has no answer where a side is no member of the host type that the
handler was made for. -/
structure Handler (κ : Type) where
  left : ValueType
  right : ValueType
  answer? : Value κ → Value κ → Comparison → Option Bool

namespace Handler

variable {κ α β : Type}

/-- The handler that compares members of two host types. -/
def of (L : HostType κ α) (R : HostType κ β) (decide : α → β → Comparison → Bool) : Handler κ :=
  ⟨L.type, R.type, fun l r cmp => do return decide (← L.ofValue? l) (← R.ofValue? r) cmp⟩

/-- The answer of a handler; where it has none, the values do not match. -/
def call (h : Handler κ) (l r : Value κ) (cmp : Comparison) : Bool := (h.answer? l r cmp).getD false

/-- Whether the handler is the one for a pair of types. -/
def isFor (h : Handler κ) (left right : ValueType) : Bool := h.left == left && h.right == right

end Handler

/-- An operator: its token, and its handlers in the order of their pairs' first additions. -/
structure Operator (κ : Type) where
  token : String
  handlers : List (Handler κ)

namespace Operator

variable {κ : Type}

/-- Puts a handler in the place of the one for the same pair, or behind all others. -/
def place (h : Handler κ) : List (Handler κ) → List (Handler κ)
  | [] => [h]
  | g :: later => if g.isFor h.left h.right then h :: later else g :: place h later

/-- Adds a handler to an operator. -/
def add (o : Operator κ) (h : Handler κ) : Operator κ := { o with handlers := place h o.handlers }

/-- The handler for a pair of types. -/
def handler? (o : Operator κ) (left right : ValueType) : Option (Handler κ) :=
  o.handlers.find? (·.isFor left right)

/-- The handler that compares a value of type `left` with one of type `right`: the one for the pair,
else one that takes every left side, else one that takes all values. -/
def resolve? (o : Operator κ) (left right : ValueType) : Option (Handler κ) :=
  (o.handler? left right).or ((o.handler? .object right).or (o.handler? .object .object))

/-- Whether a handler takes values of a type on its left side. -/
def appliesTo (left : ValueType) (h : Handler κ) : Bool := h.left == left || h.left == .object

/-- Whether some handler takes values of a type on its left side. -/
def acceptsLeft (o : Operator κ) (left : ValueType) : Bool := o.handlers.any (appliesTo left)

/-- The list without what has been seen before. -/
def firstOccurrences (types : List ValueType) : List ValueType :=
  types.foldl (fun seen t => if t ∈ seen then seen else seen ++ [t]) []

/-- The types to read the value of a query as, for a filter of type `left`, in the order in which
they are tried: by their first handlers, but `object` last. -/
def rightTypes (o : Operator κ) (left : ValueType) : List ValueType :=
  let types := firstOccurrences ((o.handlers.filter (appliesTo left)).map Handler.right)
  types.filter (· ≠ .object) ++ types.filter (· = .object)

end Operator
end Sift
