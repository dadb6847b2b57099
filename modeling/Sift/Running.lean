import Sift.Engine.Call
import Sift.Graph.Build
import Sift.Query.Recall

/-!
# Running engines

An engine runs together with what it remembers. It is asked to change and to make queries of texts,
in any order; the first query seals it. An operation either gives another engine or is refused, and
gives none then: what is refused changes nothing, by the definition of `Running.configure`.
-/

namespace Sift

/-- An engine and the types that it remembers. -/
structure Running (κ ε : Type) where
  engine : Engine κ ε
  memory : Memory := []

/-- What a running engine is asked for. -/
inductive Action (κ ε : Type) : Type 1 where
  | call (c : Call κ ε)
  | parse (text : String)

/-- What a running engine answers: the flag of a call or why it is refused, or a query with its
graph. -/
inductive Answer (κ ε : Type) where
  | called (result : Except EngineError Bool)
  | parsed (query : Query κ ε) (graph? : Option (Graph (Option (Leaf κ ε))))

namespace Running

variable {κ ε : Type}

/-- A call. A handler that is added makes the engine forget. A call that is refused gives no engine,
and the one before goes on with what it remembers. -/
def configure (s : Running κ ε) (c : Call κ ε) : Except EngineError Bool × Running κ ε :=
  match s.engine.configure c with
  | .error error => (.error error, s)
  | .ok (flag, engine) => (.ok flag, ⟨engine, if c.isHandler then [] else s.memory⟩)

/-- The query of a text and its graph. The terms are read once, in order, with what is remembered. -/
def parse (s : Running κ ε) (text : String) :
    (Query κ ε × Option (Graph (Option (Leaf κ ε)))) × Running κ ε :=
  let outline := s.engine.outline text
  let recalled := (s.engine.recallTerms outline.reached.1).run s.memory
  let read t := (recalled.1.lookup t).getD (.ok none)
  let reading := outline.tree read
  let tree? := reading.result?.bind id
  let query := ⟨text, tree?.bind Tree.prune, reading.errors ++ tree?.toList.flatMap Tree.validate,
    s.engine.searchSource?, s.engine.options.comparison⟩
  ((query, (Graph.grow read outline).prune), ⟨{ s.engine with isSealed := true }, recalled.2⟩)

/-- One action. -/
def act (s : Running κ ε) : Action κ ε → Answer κ ε × Running κ ε
  | .call c =>
    let (result, s) := s.configure c
    (.called result, s)
  | .parse text =>
    let ((query, graph?), s) := s.parse text
    (.parsed query graph?, s)

/-- The answers to a sequence of actions. -/
def run (s : Running κ ε) : List (Action κ ε) → List (Answer κ ε) × Running κ ε
  | [] => ([], s)
  | action :: later =>
    let (answer, s) := s.act action
    let (answers, s) := s.run later
    (answer :: answers, s)

/-- An engine with the given options after a sequence of calls, those that it refuses among them. -/
def configured (options : Options) (calls : List (Call κ ε)) : Running κ ε :=
  calls.foldl (fun s c => (s.configure c).2) ⟨.withOptions options, []⟩

end Running
end Sift
