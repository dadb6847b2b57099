import Sift.Value.Parser

/-!
# Filters

A filter is a named way to look at an element. A getter reads a value from the element, which the
handlers of an operator compare with the value of the query. A resolver answers for itself. Either
may take a parameter, which is written behind the filter's name.
-/

namespace Sift

/-- How a filter looks at elements of type `ε`. What goes wrong there has a text. -/
inductive Access (κ ε : Type) where
  | getter (get : ε → Option (Value κ) → Except String (Value κ))
  | resolver
    (resolve : ε → Option (Value κ) → String → Value κ → Comparison → Except String Bool)

/-- What a filter expects of its value or its parameter: a type, the parser of its host type, and
which values are members of the host type. -/
structure Argument (κ : Type) where
  type : ValueType
  parser? : Option (ValueParser κ)
  accepts : Value κ → Bool

/-- The expectation that a host type makes. -/
def Argument.of {κ α : Type} (h : HostType κ α) : Argument κ :=
  ⟨h.type, ValueParser.of? h, fun v => (h.ofValue? v).isSome⟩

/-- A filter over elements of type `ε`. No listed operators means all of them. -/
structure Filter (κ ε : Type) where
  token : String
  value : Argument κ
  param? : Option (Argument κ)
  access : Access κ ε
  operators : List String := []
  comparison? : Option Comparison := none

namespace Filter

variable {κ ε α π : Type}

/-- What a filter says about a value or a parameter that it cannot read. -/
def missing (noun : String) (type : ValueType) : String :=
  "expected a " ++ noun ++ " of type " ++ type.name

/-- The parameter as a member of its host type. -/
def readParam (P : HostType κ π) (param? : Option (Value κ)) : Except String π :=
  match param?.bind P.ofValue? with
  | some p => .ok p
  | none => .error (missing "parameter" P.type)

/-- The query's value as a member of its host type. -/
def readValue (V : HostType κ α) (value : Value κ) : Except String α :=
  match V.ofValue? value with
  | some v => .ok v
  | none => .error (missing "value" V.type)

/-- A filter that reads a value from every element. -/
def get (L : HostType κ α) (token : String) (read : ε → α) : Filter κ ε where
  token := token
  value := .of L
  param? := none
  access := .getter fun x _ => .ok (L.toValue (read x))

/-- A filter that may fail to read a value. -/
def tryGet (L : HostType κ α) (token : String) (read : ε → Except String α) : Filter κ ε where
  token := token
  value := .of L
  param? := none
  access := .getter fun x _ => (read x).map L.toValue

/-- A filter that reads a value with the help of a parameter. -/
def getWith (P : HostType κ π) (L : HostType κ α) (token : String) (read : ε → π → α) :
    Filter κ ε where
  token := token
  value := .of L
  param? := some (.of P)
  access := .getter fun x param? => do return L.toValue (read x (← readParam P param?))

/-- A filter that answers for itself. -/
def resolver (V : HostType κ α) (token : String) (resolve : ε → String → α → Comparison → Bool) :
    Filter κ ε where
  token := token
  value := .of V
  param? := none
  access := .resolver fun x _ op value cmp => do return resolve x op (← readValue V value) cmp

/-- A filter that answers for itself with the help of a parameter. -/
def resolverWith (P : HostType κ π) (V : HostType κ α) (token : String)
    (resolve : ε → π → String → α → Comparison → Bool) : Filter κ ε where
  token := token
  value := .of V
  param? := some (.of P)
  access := .resolver fun x param? op value cmp => do
    let p ← readParam P param?
    return resolve x p op (← readValue V value) cmp

/-- Whether a filter answers for itself. -/
def isResolver (f : Filter κ ε) : Bool :=
  match f.access with
  | .getter _ => false
  | .resolver _ => true

/-- The type of the values that a filter reads or is asked about. -/
def type (f : Filter κ ε) : ValueType := f.value.type

/-- The type of a filter's parameter. -/
def paramType? (f : Filter κ ε) : Option ValueType := f.param?.map Argument.type

/-- Whether a filter can be used with an operator. -/
def supports (f : Filter κ ε) (operator : String) : Bool :=
  f.operators.isEmpty || f.operators.contains operator

/-- The parsers that a filter brings along. -/
def parsers (f : Filter κ ε) : List (ValueParser κ) :=
  f.value.parser?.toList ++ (f.param?.bind Argument.parser?).toList

end Filter
end Sift
