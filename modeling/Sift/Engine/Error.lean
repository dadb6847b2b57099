import Sift.Text.Quoted
import Sift.Value.Basic

/-!
# What an engine refuses

Errors of configuring an engine and of applying a query. What is wrong with a query text is no such
error, but belongs to the query.
-/

namespace Sift
open Text

/-- What can be configured before the first query only. -/
inductive Setting where
  | filter (token : String)
  | operator (token : String)
  | handler (operator : String)
  | parser (type : ValueType)
  | defaultFilter
  | searchSource
  | validation
  | comparison
  deriving DecidableEq

/-- The words for a setting. -/
def Setting.name : Setting → String
  | filter token => "filter " ++ quoted token
  | operator token => "operator " ++ quoted token
  | handler op => "handler for operator " ++ quoted op
  | parser type => "type parser for " ++ type.name
  | defaultFilter => "default filter handler"
  | searchSource => "search data source"
  | validation => "validation flags"
  | comparison => "string comparison"

/-- A filter that failed on an element: its token, the operator and the value of its clause, and
what the filter said. -/
structure Failure where
  filter : String
  operator : String
  value : String
  reason : String
  deriving DecidableEq

/-- Why an engine or a query refuses. -/
inductive EngineError where
  | isSealed (what : Setting)
  | duplicateFilter (token : String)
  | invalidToken (token : String)
  | unknownOperator (token : String)
  | missingHandler (filter : String) (type : ValueType)
  | missingParser (type : ValueType)
  | invalidQuery (reason : String)
  | evaluation (failure : Failure)
  deriving DecidableEq

/-- The wording of an error. -/
def EngineError.message : EngineError → String
  | isSealed what => "Engine is sealed: cannot change " ++ what.name ++ " after the first parse"
  | duplicateFilter token => "Filter already registered: " ++ token
  | invalidToken token => "Invalid token: " ++ quoted token
  | unknownOperator token => "Unknown operator: " ++ token
  | missingHandler filter type =>
    "No operator handler accepts values of type " ++ type.name ++ " for filter \"" ++ filter ++ "\""
  | missingParser type => "No type parser registered for " ++ type.name
  | invalidQuery reason => "Invalid query: " ++ reason
  | evaluation failure =>
    "Filter \"" ++ failure.filter ++ "\" failed with operator \"" ++ failure.operator ++
      "\" and value \"" ++ failure.value ++ "\": " ++ failure.reason

end Sift
