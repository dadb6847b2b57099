import Sift.Options.Text
import Sift.Query.Basic
import Sift.Query.Listing

/-!
# Developer views

One-line texts of values, filters, engines and the nodes of a query, for developers to look at. A
view names the type and the fields of what it shows; texts stand between quotes.
-/

namespace Sift
open Number Text

namespace View

/-- A value of a type with named fields. -/
def fields (name : String) (fields : List (String × String)) : String :=
  name ++ " \x7b " ++ ", ".intercalate (fields.map fun (field, view) => field ++ ": " ++ view) ++
    " \x7d"

/-- A constructor with one argument. -/
def applied (name view : String) : String := name ++ "(" ++ view ++ ")"

/-- A list. -/
def list (views : List String) : String := "[" ++ ", ".intercalate views ++ "]"

/-- A map. -/
def map (entries : List (String × String)) : String :=
  "\x7b" ++ ", ".intercalate (entries.map fun (key, value) => key ++ ": " ++ value) ++ "\x7d"

/-- A value that may be missing. -/
def option {α : Type} (view : α → String) : Option α → String
  | none => "None"
  | some a => applied "Some" (view a)

/-- A truth value. -/
def bool (b : Bool) : String := if b then "true" else "false"

end View

/-- The view of a type of values. -/
def ValueType.view : ValueType → String
  | object => "Object"
  | string => "String"
  | int => "Int"
  | float => "Float"
  | bool => "Bool"
  | custom name => View.applied "Custom" (View.fields "CustomType" [("name", quoted name)])

/-- The view of a value. -/
def Value.view {κ : Type} : Value κ → String
  | string s => View.applied "String" (quoted s)
  | int n => View.applied "Int" (intText n)
  | float x => View.applied "Float" (FloatStyle.view.text x)
  | bool b => View.applied "Bool" (View.bool b)
  | custom c =>
    View.applied "Custom"
      (View.fields "CustomValue" [("type", quoted c.typeName), ("label", quoted c.label)])

/-- The view of a comparison. -/
def Comparison.view : Comparison → String
  | caseSensitive => "CaseSensitive"
  | caseInsensitive => "CaseInsensitive"

/-- The view of a set of switches. -/
def Validation.view (v : Validation) : String :=
  View.applied "ValidationFlags" (if v.bits = 0 then "0x0" else v.text)

/-- The view of options. -/
def Options.view (o : Options) : String :=
  View.fields "QueryEngineOptions"
    [("validation", o.validation.view), ("string_comparison", o.comparison.view)]

variable {κ ε : Type}

/-- The view of a value parser. -/
def ValueParser.view (p : ValueParser κ) : String :=
  View.fields "TypeParser" [("value_type", p.type.view)]

/-- The view of a handler. -/
def Handler.view (h : Handler κ) : String :=
  View.fields "OperatorHandler" [("left", h.left.view), ("right", h.right.view)]

/-- The view of an operator. -/
def Operator.view (o : Operator κ) : String :=
  let entry (h : Handler κ) := ("(" ++ h.left.view ++ ", " ++ h.right.view ++ ")", h.view)
  View.fields "FilterOperator"
    [("token", quoted o.token), ("handlers", View.map (o.handlers.map entry))]

/-- The view of a filter. -/
def Filter.view (f : Filter κ ε) : String :=
  View.fields "Filter"
    [("token", quoted f.token), ("value_type", f.type.view),
      ("param_type", View.option ValueType.view f.paramType?),
      ("supported_operators", View.list (f.operators.map quoted)),
      ("string_comparison", View.option Comparison.view f.comparison?),
      ("resolver", View.bool f.isResolver)]

/-- The view of an engine. -/
def Engine.view (e : Engine κ ε) : String :=
  View.fields "QueryEngine"
    [("options", e.options.view), ("filters", View.list (e.filterTokens.map quoted)),
      ("operators", View.list (e.operatorTokens.map quoted)),
      ("custom_parsers", View.list (e.customParsers.map ValueParser.view)),
      ("sealed", View.bool e.isSealed)]

/-- The view of an operation. -/
def Operation.view (o : Operation κ ε) : String :=
  View.fields "FilterOperation"
    [("filter", quoted o.filter), ("operator", quoted o.operator),
      ("param", View.option Value.view o.param?), ("value", o.value.view)]

/-- The view of a search word. -/
def SearchWord.view (w : SearchWord) : String :=
  View.fields "SearchNode"
    [("text", quoted (String.ofList w.text)), ("exact", View.bool w.exact)]

/-- The view of what a node of a query is. -/
def NodeKind.view : NodeKind (Leaf κ ε) → String
  | join .and => "And"
  | join .or => "Or"
  | not => "Not"
  | leaf (.filter o) => View.applied "Filter" o.view
  | leaf (.search w) => View.applied "Search" w.view

end Sift
