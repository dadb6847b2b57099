import Sift.Query.Operation

/-!
# The meaning of clauses

A clause is given its meaning by the filters, operators and parsers of an engine. Its value is read
by the first parser that can: the custom parsers, then those of the types that the operator's
handlers compare the filter with, then that of the filter's own type. Parameters and the values of
resolvers are read by parsers of their one type.
-/

namespace Sift
open Text

/-- The text between quotes at both ends, or the text itself. -/
def unquote (cs : List Char) : List Char :=
  if 2 ≤ cs.length ∧ cs.head? = some '"' ∧ cs.getLast? = some '"' then cs.tail.dropLast else cs

namespace Engine

variable {κ ε : Type}

/-- The value that a text writes for an argument: the first one that a parser reads and the argument
accepts. -/
def readArgument? (e : Engine κ ε) (a : Argument κ) (raw : String) : Option (Value κ) :=
  let parsers := e.customParsers.filter (·.type == a.type) ++ a.parser?.toList ++
    (e.parser? a.type).toList
  (parsers.filterMap (·.parse raw)).find? a.accepts

/-- The value that a text writes for an operator, for a filter of type `left`. -/
def inferValue? (e : Engine κ ε) (o : Operator κ) (left : ValueType) (raw : String) :
    Option (Value κ) :=
  let byHandlers := (o.rightTypes left).filterMap e.parser? ++ (e.parser? left).toList
  (e.customParsers ++ byHandlers).findSome? (·.parse raw)

/-- The parameter of a clause for a filter. -/
def readParam (e : Engine κ ε) (f : Filter κ ε) (token : String) (param? : Option (List Char)) :
    Except ClauseFault (Option (Value κ)) :=
  match f.param?, param? with
  | some a, some cs =>
    let raw := String.ofList (unquote (trim cs))
    match e.readArgument? a raw with
    | some v => .ok (some v)
    | none => .error (.unreadableParameter raw a.type)
  | some _, none => .error (.parameterRequired token)
  | none, some _ => .error (.parameterUnexpected token)
  | none, none => .ok none

/-- The value of a clause and what decides it. -/
def readValue (e : Engine κ ε) (f : Filter κ ε) (o : Operator κ) (raw : String) :
    Except ClauseFault (Value κ × Decider κ ε) :=
  match f.access with
  | .resolver resolve =>
    match e.readArgument? f.value raw with
    | some v => .ok (v, .resolver resolve)
    | none => .error (.unreadableValue raw)
  | .getter get =>
    match e.inferValue? o f.type raw with
    | none => .error (.unreadableValue raw)
    | some v =>
      match o.resolve? f.type v.type with
      | some h => .ok (v, .handler get h)
      | none => .error (.noHandler f.type v.type o.token)

/-- The operation of a clause of a known filter. -/
def operation (e : Engine κ ε) (f : Filter κ ε) (c : Clause) :
    Except ClauseFault (Operation κ ε) := do
  let token := lowercaseString (String.ofList c.token)
  let op := String.ofList c.operator
  let raw := String.ofList (unquote c.value)
  match e.operator? op with
  | none => .error .unknownOperator
  | some o =>
    if !f.supports op then .error (.unsupportedOperator op token)
    else
      let param? ← e.readParam f token c.param
      let (value, decider) ← e.readValue f o raw
      return ⟨token, op, raw, param?, value, f.comparison?.getD e.options.comparison, decider⟩

/-- The meaning of a clause. The clause of an unknown filter has none if the engine skips such
clauses, and else that of the default filter. -/
def readClause (e : Engine κ ε) (c : Clause) : Except ClauseFault (Option (Operation κ ε)) :=
  let token := lowercaseString (String.ofList c.token)
  match e.filter? token with
  | some f => (e.operation f c).map some
  | none =>
    if e.options.skipsUnknownFilters then .ok none
    else
      match e.defaultFilter? with
      | none => .error .unknownFilter
      | some decide =>
        let raw := String.ofList (unquote c.value)
        .ok (some ⟨token, String.ofList c.operator, raw, none, .string raw, e.options.comparison,
          .default decide⟩)

/-- The meaning of a term: a leaf, none if it is skipped, or the error that it is. -/
def readTerm (e : Engine κ ε) : Term → Except QueryError (Option (Leaf κ ε))
  | .clause c =>
    match e.readClause c with
    | .ok o? => .ok (o?.map .filter)
    | .error fault => .error (.on (c.partSpan fault.part) (.clause fault))
  | .word w =>
    if e.searchSource?.isNone && e.options.validatesFilters then
      .error (.on w.site.span .noSearchSource)
    else .ok (some (.search w))

end Engine
end Sift
