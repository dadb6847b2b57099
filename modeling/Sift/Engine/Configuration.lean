import Sift.Engine.Basic

/-!
# Configuring an engine

Every change returns a new engine or says why it is refused; a sealed engine refuses them all. A
filter is taken only if the engine can make sense of its clauses: the listed operators exist, and
there is a handler or a parser for its values.
-/

namespace Sift
open Text Unicode

/-- Whether a text can be the token of a filter. -/
def isFilterToken (token : String) : Bool :=
  token ≠ "" && token.toList.all fun c => isAlphanumeric c || c == '_' || c == '.' || c == '#'

/-- Whether a text can be the token of an operator. -/
def isOperatorToken (token : String) : Bool :=
  token ≠ "" && token.toList.all fun c => !(isBlank c || c == '"' || c == '(' || c == ')')

namespace ValueParser

variable {κ : Type}

/-- Adds a parser unless there is one of its type. -/
def addMissing (parsers : List (ValueParser κ)) (p : ValueParser κ) : List (ValueParser κ) :=
  if parsers.any (·.type == p.type) then parsers else parsers ++ [p]

/-- Puts a parser in the place of the one of its type, or behind all others. -/
def place (p : ValueParser κ) : List (ValueParser κ) → List (ValueParser κ)
  | [] => [p]
  | q :: later => if q.type == p.type then p :: later else q :: place p later

end ValueParser

namespace Engine

variable {κ ε α β : Type}

/-- An engine with the given options. -/
def withOptions (options : Options) : Engine κ ε := { options }

/-- The engine as it is, unless it is sealed. -/
def unsealed (e : Engine κ ε) (what : Setting) : Except EngineError (Engine κ ε) :=
  if e.isSealed then .error (.isSealed what) else .ok e

/-- Whether values of a type can be read with the engine's parsers or the filter's own. -/
def canRead (e : Engine κ ε) (f : Filter κ ε) (type : ValueType) : Bool :=
  (e.parser? type).isSome || f.parsers.any (·.type == type)

/-- Whether an operator that the filter supports has a handler for the filter's values. -/
def canHandle (e : Engine κ ε) (f : Filter κ ε) : Bool :=
  e.operators.any fun o => f.supports o.token && o.acceptsLeft f.type

/-- Why a filter with a token in lowercase is refused, if it is. -/
def objection? (e : Engine κ ε) (f : Filter κ ε) : Option EngineError :=
  if !isFilterToken f.token then some (.invalidToken f.token)
  else if (e.exactFilter? f.token).isSome then some (.duplicateFilter f.token)
  else
    match f.operators.find? fun op => (e.operator? op).isNone with
    | some op => some (.unknownOperator op)
    | none =>
      if f.isResolver && !e.canRead f f.type then some (.missingParser f.type)
      else if !f.isResolver && !e.canHandle f then some (.missingHandler f.token f.type)
      else
        match f.paramType? with
        | none => none
        | some type => if e.canRead f type then none else some (.missingParser type)

/-- Registers a filter under its token in lowercase, and the parsers it brings along. -/
def registerFilter (e : Engine κ ε) (f : Filter κ ε) : Except EngineError (Engine κ ε) := do
  let f := { f with token := lowercaseString f.token }
  let e ← e.unsealed (.filter f.token)
  match e.objection? f with
  | some error => .error error
  | none =>
    .ok { e with
      filters := e.filters ++ [f]
      parsers := f.parsers.foldl ValueParser.addMissing e.parsers }

/-- Removes the filter of a token; the flag says whether there was one. -/
def removeFilter (e : Engine κ ε) (token : String) :
    Except EngineError (Bool × Engine κ ε) := do
  let e ← e.unsealed (.filter token)
  let lower := lowercaseString token
  .ok ((e.exactFilter? lower).isSome,
    { e with filters := e.filters.filter fun f => f.token ≠ lower })

/-- Registers an operator. One that is registered already stays as it is. -/
def registerOperator (e : Engine κ ε) (token : String) : Except EngineError (Engine κ ε) := do
  let e ← e.unsealed (.operator token)
  if !isOperatorToken token then .error (.invalidToken token)
  else if (e.operator? token).isSome then .ok e
  else .ok { e with operators := e.operators ++ [⟨token, []⟩] }

/-- Adds a handler for members of two host types to an operator, in the place of one for the same
types, and the parsers of the two host types. -/
def registerHandler (e : Engine κ ε) (op : String) (L : HostType κ α) (R : HostType κ β)
    (decide : α → β → Comparison → Bool) : Except EngineError (Engine κ ε) := do
  let e ← e.unsealed (.handler op)
  if (e.operator? op).isNone then .error (.unknownOperator op)
  else
    let handler := Handler.of L R decide
    let parsers := (ValueParser.of? L).toList ++ (ValueParser.of? R).toList
    .ok { e with
      operators := e.operators.map fun o => if o.token == op then o.add handler else o
      parsers := parsers.foldl ValueParser.addMissing e.parsers }

/-- Registers a parser that is tried on every value, and that becomes the parser of its type. -/
def registerParser (e : Engine κ ε) (h : HostType κ α) (read : String → Option α) :
    Except EngineError (Engine κ ε) := do
  let e ← e.unsealed (.parser h.type)
  let p := ValueParser.reading h read
  .ok { e with
    customParsers := ValueParser.place p e.customParsers
    parsers := ValueParser.place p e.parsers }

/-- Sets what decides the clauses of unknown filters. -/
def setDefaultFilter (e : Engine κ ε) (decide : DefaultFilter ε) :
    Except EngineError (Engine κ ε) := do
  let e ← e.unsealed .defaultFilter
  .ok { e with defaultFilter? := some decide }

/-- Sets where search words are looked for. -/
def setSearchSource (e : Engine κ ε) (source : SearchSource ε) :
    Except EngineError (Engine κ ε) := do
  let e ← e.unsealed .searchSource
  .ok { e with searchSource? := some source }

/-- Sets the validation switches. -/
def setValidation (e : Engine κ ε) (validation : Validation) :
    Except EngineError (Engine κ ε) := do
  let e ← e.unsealed .validation
  .ok { e with options.validation := validation }

/-- Sets the comparison of texts. -/
def setComparison (e : Engine κ ε) (comparison : Comparison) :
    Except EngineError (Engine κ ε) := do
  let e ← e.unsealed .comparison
  .ok { e with options.comparison := comparison }

end Engine
end Sift
