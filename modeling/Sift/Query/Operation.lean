import Sift.Engine.Basic
import Sift.Query.Tree

/-!
# Operations

An operation is a clause that has been given its meaning: a filter, an operator and a value, bound
together with what decides whether an element matches.
-/

namespace Sift

/-- What decides an operation: a value read from the element and a handler, a resolver, or the
default filter. -/
inductive Decider (κ ε : Type) where
  | handler (get : ε → Option (Value κ) → Except String (Value κ)) (h : Handler κ)
  | resolver
    (resolve : ε → Option (Value κ) → String → Value κ → Comparison → Except String Bool)
  | default (decide : DefaultFilter ε)

/-- A clause with a meaning. The raw value is the value as it is written, without quotes. -/
structure Operation (κ ε : Type) where
  filter : String
  operator : String
  rawValue : String
  param? : Option (Value κ)
  value : Value κ
  comparison : Comparison
  decider : Decider κ ε

namespace Operation

variable {κ ε : Type}

/-- The failure of an operation's filter. -/
def failure (o : Operation κ ε) (reason : String) : Failure :=
  ⟨o.filter, o.operator, o.rawValue, reason⟩

/-- Whether an element matches. -/
def test (o : Operation κ ε) (x : ε) : Except Failure Bool :=
  match o.decider with
  | .handler get h =>
    match get x o.param? with
    | .ok left => .ok (h.call left o.value o.comparison)
    | .error reason => .error (o.failure reason)
  | .resolver resolve =>
    match resolve x o.param? o.operator o.value o.comparison with
    | .ok answer => .ok answer
    | .error reason => .error (o.failure reason)
  | .default decide => .ok (decide x o.filter o.operator o.rawValue)

end Operation

/-- What a query asks of an element: an operation, or a search word. -/
inductive Leaf (κ ε : Type) where
  | filter (o : Operation κ ε)
  | search (w : SearchWord)

end Sift
