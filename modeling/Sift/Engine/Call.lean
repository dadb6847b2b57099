import Sift.Engine.Configuration

/-!
# Calls

The changes of an engine as data, so that sequences of them can be spoken of.
-/

namespace Sift
open Text

/-- A call that configures an engine. -/
inductive Call (κ ε : Type) : Type 1 where
  | registerFilter (f : Filter κ ε)
  | removeFilter (token : String)
  | registerOperator (token : String)
  | registerHandler {α β : Type} (op : String) (L : HostType κ α) (R : HostType κ β)
      (decide : α → β → Comparison → Bool)
  | registerParser {α : Type} (h : HostType κ α) (read : String → Option α)
  | setDefaultFilter (decide : DefaultFilter ε)
  | setSearchSource (source : SearchSource ε)
  | setValidation (validation : Validation)
  | setComparison (comparison : Comparison)

variable {κ ε : Type}

/-- What a call configures. -/
def Call.setting : Call κ ε → Setting
  | registerFilter f => .filter (lowercaseString f.token)
  | removeFilter token => .filter token
  | registerOperator token => .operator token
  | registerHandler op _ _ _ => .handler op
  | registerParser h _ => .parser h.type
  | setDefaultFilter _ => .defaultFilter
  | setSearchSource _ => .searchSource
  | setValidation _ => .validation
  | setComparison _ => .comparison

/-- Whether a call changes the handlers of an operator. -/
def Call.isHandler : Call κ ε → Bool
  | registerHandler _ _ _ _ => true
  | _ => false

/-- The engine after a call; the flag says whether a filter has been removed. -/
def Engine.configure (e : Engine κ ε) : Call κ ε → Except EngineError (Bool × Engine κ ε)
  | .registerFilter f => (e.registerFilter f).map (false, ·)
  | .removeFilter token => e.removeFilter token
  | .registerOperator token => (e.registerOperator token).map (false, ·)
  | .registerHandler op L R decide => (e.registerHandler op L R decide).map (false, ·)
  | .registerParser h read => (e.registerParser h read).map (false, ·)
  | .setDefaultFilter decide => (e.setDefaultFilter decide).map (false, ·)
  | .setSearchSource source => (e.setSearchSource source).map (false, ·)
  | .setValidation validation => (e.setValidation validation).map (false, ·)
  | .setComparison comparison => (e.setComparison comparison).map (false, ·)

end Sift
