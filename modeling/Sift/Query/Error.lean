import Sift.Json.Reader
import Sift.Query.Site
import Sift.Value.Basic

/-!
# What can be wrong with a query text

An error has a place and a cause. Clauses of filters have causes of their own, each of which blames
one part of the clause.
-/

namespace Sift

/-- The parts of a clause such as `size(kb)>=10`. -/
inductive ClausePart where
  | token
  | param
  | operator
  | value
  deriving DecidableEq

/-- Why a clause has no meaning. -/
inductive ClauseFault where
  | unknownFilter
  | unknownOperator
  | unsupportedOperator (operator filter : String)
  | unreadableParameter (raw : String) (type : ValueType)
  | parameterRequired (filter : String)
  | parameterUnexpected (filter : String)
  | unreadableValue (raw : String)
  | noHandler (left right : ValueType) (operator : String)
  deriving DecidableEq

namespace ClauseFault

/-- The part that a fault blames. -/
def part : ClauseFault → ClausePart
  | unknownFilter => .token
  | unknownOperator => .operator
  | unsupportedOperator _ _ => .operator
  | unreadableParameter _ _ => .param
  | parameterRequired _ => .token
  | parameterUnexpected _ => .param
  | unreadableValue _ => .value
  | noHandler _ _ _ => .value

/-- The wording of a fault. -/
def message : ClauseFault → String
  | unknownFilter => "Unknown filter type"
  | unknownOperator => "Unknown filter operator"
  | unsupportedOperator operator filter =>
    "Operator \"" ++ operator ++ "\" is not supported by filter \"" ++ filter ++ "\""
  | unreadableParameter raw type =>
    "The parameter " ++ raw ++ " could not be converted to " ++ type.name
  | parameterRequired filter => "Filter \"" ++ filter ++ "\" requires a parameter"
  | parameterUnexpected filter => "Filter \"" ++ filter ++ "\" does not take a parameter"
  | unreadableValue raw =>
    "The value " ++ raw ++ " could not be converted to any of the supported handler types."
  | noHandler left right operator =>
    "No handler of type (" ++ left.name ++ ", " ++ right.name ++ ") found for operator \"" ++
      operator ++ "\""

end ClauseFault

/-- The words that join two terms. -/
inductive Connective where
  | and
  | or
  deriving DecidableEq

/-- The word of a connective. -/
def Connective.keyword : Connective → String
  | and => "and"
  | or => "or"

/-- The two sides of a connective. -/
inductive Side where
  | left
  | right
  deriving DecidableEq

/-- The word for a side. -/
def Side.name : Side → String
  | left => "left"
  | right => "right"

/-- What an error is about. A `stated` cause is known by its wording only. -/
inductive Cause where
  | unbalancedParenthesis
  | noToken
  | noSearchSource
  | clause (fault : ClauseFault)
  | missingOperand (keyword : String)
  | missingSide (side : Side) (connective : Connective)
  | termsNotCombined
  | wrongArity (node : String) (expected found : Nat)
  | stated (reason : String)
  deriving DecidableEq

/-- The wording of a cause. -/
def Cause.message : Cause → String
  | unbalancedParenthesis => "Unbalanced parenthesis"
  | noToken => "No token could be deduced"
  | noSearchSource => "Cannot use a search word without setting the search data callback"
  | clause fault => fault.message
  | missingOperand keyword => "Missing operand for \"" ++ keyword ++ "\""
  | missingSide side connective =>
    "Missing " ++ side.name ++ " operand for \"" ++ connective.keyword ++ "\""
  | termsNotCombined => "Query terms could not be combined"
  | wrongArity node expected found =>
    "\"" ++ node ++ "\" expects " ++ Number.digitText expected ++ " operand(s) but has " ++
      Number.digitText found
  | stated reason => reason

/-- An error in a query text. -/
structure QueryError where
  index : Nat
  length : Nat
  cause : Cause
  deriving DecidableEq

namespace QueryError

/-- An error about a stretch of the text; an empty stretch counts as one byte. -/
def on (span : Span) (cause : Cause) : QueryError := ⟨span.index, max span.length 1, cause⟩

/-- An error about one byte of the text. -/
def point (index : Nat) (cause : Cause) : QueryError := on ⟨index, 1⟩ cause

/-- The wording of an error and its place. Positions are words of 64 bits. -/
def message (e : QueryError) : String :=
  e.cause.message ++ " (at " ++ Number.digitText e.index ++ ".." ++
    Number.digitText ((e.index + e.length) % Nat.pow 2 64) ++ ")"

/-- A natural number of 64 bits. -/
def wordOfJson? : Json → Option Nat
  | .natural n => if n < Nat.pow 2 64 then some n else none
  | _ => none

/-- The error of its written values. Its length is taken as it is. -/
def ofValues? : Json → Json → Json → Option QueryError
  | index, length, .string (some reason) => do
    return ⟨← wordOfJson? index, ← wordOfJson? length, .stated reason⟩
  | _, _, _ => none

/-- The error that a JSON value writes, as an object or as an array of its values in order. -/
def ofJson? : Json → Option QueryError
  | .object fields => do
    ofValues? (← (← Json.field? "index" fields)) (← (← Json.field? "length" fields))
      (← (← Json.field? "reason" fields))
  | .array [index, length, reason] => ofValues? index length reason
  | _ => none

/-- The error that a JSON text writes. -/
def read? (text : String) : Option QueryError := (Json.read? text).bind ofJson?

end QueryError
end Sift
