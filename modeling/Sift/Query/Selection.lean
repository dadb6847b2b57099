import Sift.Query.Basic

/-!
# Selecting elements

A selection goes through elements and yields those that match, in order, and the errors of those
that cannot be tested. It tests no element before the next result is asked for, and goes on after an
error. What a test does beside answering does not matter to it.
-/

namespace Sift

/-- A query under way: its tree and the elements that are still to be tested. -/
structure Selection (κ ε : Type) where
  query : Query κ ε
  tree : Tree (Leaf κ ε)
  pending : List ε

namespace Selection

variable {κ ε : Type}

section Among

variable {m : Type → Type} [Monad m] (test : ε → m (Except Failure Bool))

/-- The next result among some elements, and the elements behind it. -/
def nextAmong? : List ε → m (Option (Except Failure ε × List ε))
  | [] => pure none
  | x :: rest => do
    match ← test x with
    | .ok true => pure (some (.ok x, rest))
    | .ok false => nextAmong? rest
    | .error failure => pure (some (.error failure, rest))

/-- At most `n` results among some elements, and the elements behind them. -/
def takeAmong : Nat → List ε → m (List (Except Failure ε) × List ε)
  | 0, elements => pure ([], elements)
  | n + 1, elements => do
    match ← nextAmong? test elements with
    | none => pure ([], [])
    | some (result, rest) =>
      let (results, rest) ← takeAmong n rest
      pure (result :: results, rest)

end Among

/-- The answer for one element. -/
def test (s : Selection κ ε) (x : ε) : Except Failure Bool :=
  (s.tree.evaluate (s.query.ask x)).answer

/-- At most `n` results, and the selection behind them. -/
def take (s : Selection κ ε) (n : Nat) : List (Except Failure ε) × Selection κ ε :=
  let (results, pending) := Id.run (takeAmong (fun x => pure (s.test x)) n s.pending)
  (results, { s with pending })

end Selection

namespace Query

variable {κ ε : Type}

/-- The selection among some elements. -/
def select (q : Query κ ε) (elements : List ε) : Except EngineError (Selection κ ε) :=
  q.testable.map fun tree => ⟨q, tree, elements⟩

/-- All elements that match, or the failure of the first that cannot be tested. -/
def matchesOf (q : Query κ ε) (elements : List ε) : Except EngineError (List ε) := do
  let s ← q.select elements
  match (s.take elements.length).1.mapM id with
  | .ok found => .ok found
  | .error failure => .error (.evaluation failure)

end Query
end Sift
