import Sift.Engine.Error
import Sift.Filter.Basic
import Sift.Operator.Default
import Sift.Options.Basic

/-!
# Engines

An engine holds what queries are made of: filters over elements of type `ε`, operators, parsers of
values, and the options. It can be configured until it is sealed by its first query.
-/

namespace Sift
open Text

/-- Where the texts of an element come from that search words are looked for in. A source may have a
comparison of its own. -/
structure SearchSource (ε : Type) where
  texts : ε → List String
  comparison? : Option Comparison := none

/-- What decides the clauses of unknown filters, given the element, the token, the operator and the
value as it is written. -/
abbrev DefaultFilter (ε : Type) := ε → String → String → String → Bool

/-- An engine. Operators, parsers and custom parsers stand in the order of their registration. -/
structure Engine (κ ε : Type) where
  options : Options := {}
  filters : List (Filter κ ε) := []
  operators : List (Operator κ) := Operator.builtin
  parsers : List (ValueParser κ) := ValueParser.builtin
  customParsers : List (ValueParser κ) := []
  defaultFilter? : Option (DefaultFilter ε) := none
  searchSource? : Option (SearchSource ε) := none
  isSealed : Bool := false

namespace Engine

variable {κ ε : Type}

/-- The filter of a token, if it is registered just so. -/
def exactFilter? (e : Engine κ ε) (token : String) : Option (Filter κ ε) :=
  e.filters.find? (·.token == token)

/-- The filter of a token, as it is or in lowercase. -/
def filter? (e : Engine κ ε) (token : String) : Option (Filter κ ε) :=
  (e.exactFilter? token).or (e.exactFilter? (lowercaseString token))

/-- The operator of a token. -/
def operator? (e : Engine κ ε) (token : String) : Option (Operator κ) :=
  e.operators.find? (·.token == token)

/-- The parser of a type. -/
def parser? (e : Engine κ ε) (type : ValueType) : Option (ValueParser κ) :=
  e.parsers.find? (·.type == type)

/-- The tokens of all filters, sorted. -/
def filterTokens (e : Engine κ ε) : List String :=
  (e.filters.map Filter.token).mergeSort fun a b => decide (a ≤ b)

/-- The tokens of all operators, in the order of their registration. -/
def operatorTokens (e : Engine κ ε) : List String := e.operators.map Operator.token

end Engine
end Sift
