import Sift.Engine.Configuration
import Sift.Query.Evaluation
import Sift.Query.Meaning
import Sift.Query.Reading
import Sift.Query.Rearrangement
import Sift.Query.Validation

/-!
# Queries

A query is what an engine makes of a text: a tree, unless the text holds nothing, and the errors
found on the way. A query with errors keeps the tree of what could be read, but no element is tested
with it.
-/

namespace Sift
open Text

/-- The meaning that an engine gives to a text. Search words are looked for in the engine's source
with the engine's comparison, unless the source has its own. -/
structure Query (κ ε : Type) where
  text : String
  tree? : Option (Tree (Leaf κ ε))
  errors : List QueryError
  source? : Option (SearchSource ε)
  comparison : Comparison

namespace Engine

variable {κ ε : Type}

/-- The operators' tokens as texts. -/
def operatorTexts (e : Engine κ ε) : List (List Char) := e.operatorTokens.map String.toList

/-- The outline of a text. -/
def outline (e : Engine κ ε) (text : String) : Outline :=
  Outline.scan e.operatorTexts 0 text.toList

/-- The tree of a text with its empty leaves. -/
def reading (e : Engine κ ε) (text : String) : Recorded (Option (Tree (Option (Leaf κ ε)))) :=
  (e.outline text).tree e.readTerm

/-- The query of a text. -/
def query (e : Engine κ ε) (text : String) : Query κ ε :=
  let reading := e.reading text
  let tree? := reading.result?.bind id
  ⟨text, tree?.bind Tree.prune, reading.errors ++ tree?.toList.flatMap Tree.validate,
    e.searchSource?, e.options.comparison⟩

/-- The query of a text, and the engine sealed. -/
def parse (e : Engine κ ε) (text : String) : Query κ ε × Engine κ ε :=
  (e.query text, { e with isSealed := true })

end Engine

/-- Whether a search word matches one of an element's texts. -/
def SearchSource.finds {ε : Type} (s : SearchSource ε) (cmp : Comparison) (w : SearchWord) (x : ε) :
    Bool :=
  let cmp := s.comparison?.getD cmp
  let word := String.ofList w.text
  (s.texts x).any fun text => if w.exact then cmp.equals text word else cmp.contains text word

namespace Query

variable {κ ε : Type}

/-- Whether the text holds nothing that asks for an element. -/
def isEmpty (q : Query κ ε) : Bool := q.tree?.isNone

/-- Whether elements can be tested. -/
def isValid (q : Query κ ε) : Bool := q.errors.isEmpty && !q.isEmpty

/-- A text that the tree can be read from. -/
def identifier? (q : Query κ ε) : Option String := q.tree?.map fun t => String.ofList t.identifier

/-- The list without repetitions of neighbours. -/
def dedupSorted : List String → List String
  | a :: b :: rest => if a = b then dedupSorted (b :: rest) else a :: dedupSorted (b :: rest)
  | rest => rest

/-- The words searched for, sorted and without repetitions. -/
def searchWords (q : Query κ ε) : List String :=
  let leaves := (q.tree?.map Tree.leaves).getD []
  let words := leaves.filterMap fun
    | (_, .search w) => some (String.ofList w.text)
    | _ => none
  dedupSorted (words.mergeSort fun a b => decide (a ≤ b))

/-- The answer of a leaf for an element. Without a source no word is found. -/
def ask (q : Query κ ε) (x : ε) : Leaf κ ε → Except Failure Bool
  | .filter o => o.test x
  | .search w =>
    match q.source? with
    | none => .ok false
    | some source => .ok (source.finds q.comparison w x)

/-- The tree of a query that elements can be tested with. The first error is the reason otherwise. -/
def testable (q : Query κ ε) : Except EngineError (Tree (Leaf κ ε)) :=
  match q.errors, q.tree? with
  | error :: _, _ => .error (.invalidQuery error.message)
  | [], none => .error (.invalidQuery "empty query")
  | [], some t => .ok t

/-- What testing an element asks and answers. -/
def evaluate (q : Query κ ε) (x : ε) : Except EngineError (Evaluation (Leaf κ ε) Failure) :=
  q.testable.map fun t => t.evaluate (q.ask x)

/-- Whether an element matches. -/
def test (q : Query κ ε) (x : ε) : Except EngineError Bool := do
  match (← q.evaluate x).answer with
  | .ok b => .ok b
  | .error failure => .error (.evaluation failure)

/-- The query with its tree rearranged. -/
def rearrange (q : Query κ ε) (push swap : Bool) : Query κ ε :=
  { q with tree? := q.tree?.map (Tree.rearrange push swap) }

/-- The query with its tree rearranged again and again. -/
def rearrangeAll (q : Query κ ε) (moves : List (Bool × Bool)) : Query κ ε :=
  moves.foldl (fun q (push, swap) => q.rearrange push swap) q

end Query
end Sift
