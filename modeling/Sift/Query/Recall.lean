import Sift.Query.Meaning
import Sift.Query.Outline

/-!
# Remembering types

The types that the value of a clause is read as depend on its operator and the type of its filter
only. They are worked out once for each pair and remembered, unless a custom parser has read the
value before they are asked for. Reading a term so gives what it means without a memory, as long as
the operators have the handlers that the memory stems from.
-/

namespace Sift
open Text

/-- The types to read values as, by operator and type of the filter. -/
abbrev Memory := List ((String × ValueType) × List ValueType)

namespace Engine

variable {κ ε : Type}

/-- The types to read the value of an operator as, for a filter of type `left`. -/
def candidates (e : Engine κ ε) (op : String) (left : ValueType) : List ValueType :=
  ((e.operator? op).map (·.rightTypes left)).getD []

/-- The types that are remembered. They are worked out if there are none. -/
def recallTypes (e : Engine κ ε) (op : String) (left : ValueType) :
    StateM Memory (List ValueType) := fun memory =>
  match memory.lookup (op, left) with
  | some types => (types, memory)
  | none =>
    let types := e.candidates op left
    (types, ((op, left), types) :: memory)

/-- The value that a text writes for an operator, for a filter of type `left`. -/
def recallValue? (e : Engine κ ε) (op : String) (left : ValueType) (raw : String) :
    StateM Memory (Option (Value κ)) :=
  match e.customParsers.findSome? (·.parse raw) with
  | some v => return some v
  | none => do
    let types ← e.recallTypes op left
    return (types.filterMap e.parser? ++ (e.parser? left).toList).findSome? (·.parse raw)

/-- The value of a clause and what decides it. Resolvers need no types. -/
def recallDecider (e : Engine κ ε) (f : Filter κ ε) (o : Operator κ) (raw : String) :
    StateM Memory (Except ClauseFault (Value κ × Decider κ ε)) :=
  match f.access with
  | .resolver _ => return e.readValue f o raw
  | .getter get => do
    match ← e.recallValue? o.token f.type raw with
    | none => return .error (.unreadableValue raw)
    | some v =>
      match o.resolve? f.type v.type with
      | some h => return .ok (v, .handler get h)
      | none => return .error (.noHandler f.type v.type o.token)

/-- The operation of a clause of a known filter. -/
def recallOperation (e : Engine κ ε) (f : Filter κ ε) (c : Clause) :
    StateM Memory (Except ClauseFault (Operation κ ε)) :=
  let token := lowercaseString (String.ofList c.token)
  let op := String.ofList c.operator
  let raw := String.ofList (unquote c.value)
  match e.operator? op with
  | none => return .error .unknownOperator
  | some o =>
    if !f.supports op then return .error (.unsupportedOperator op token)
    else
      match e.readParam f token c.param with
      | .error fault => return .error fault
      | .ok param? => do
        let decided ← e.recallDecider f o raw
        return decided.map fun (value, decider) =>
          ⟨token, op, raw, param?, value, f.comparison?.getD e.options.comparison, decider⟩

/-- The meaning of a clause. Only those of known filters need types. -/
def recallClause (e : Engine κ ε) (c : Clause) :
    StateM Memory (Except ClauseFault (Option (Operation κ ε))) :=
  match e.filter? (lowercaseString (String.ofList c.token)) with
  | none => return e.readClause c
  | some f => do
    let operation ← e.recallOperation f c
    return operation.map some

/-- The meaning of a term. -/
def recallTerm (e : Engine κ ε) : Term → StateM Memory (Except QueryError (Option (Leaf κ ε)))
  | .word w => return e.readTerm (.word w)
  | .clause c => do
    match ← e.recallClause c with
    | .ok o? => return .ok (o?.map .filter)
    | .error fault => return .error (.on (c.partSpan fault.part) (.clause fault))

end Engine

/-- The terms of an outline that are read before it breaks off, in order; the flag says whether it
does not. -/
def Outline.reached : Outline → List Term × Bool
  | done => ([], true)
  | broken _ => ([], false)
  | blank _ next => next.reached
  | combinator _ _ next => next.reached
  | term t next =>
    let (behind, whole) := next.reached
    (t :: behind, whole)
  | group inner next =>
    match inner.reached with
    | (within, false) => (within, false)
    | (within, true) =>
      let (behind, whole) := next.reached
      (within ++ behind, whole)

/-- The terms with their meanings. -/
def Engine.recallTerms {κ ε : Type} (e : Engine κ ε) :
    List Term → StateM Memory (List (Term × Except QueryError (Option (Leaf κ ε))))
  | [] => return []
  | t :: behind => do
    let meaning ← e.recallTerm t
    let meanings ← e.recallTerms behind
    return (t, meaning) :: meanings

end Sift
