import Sift.Query.Combine

/-!
# From outlines to trees

The terms of an outline are given their meaning and combined, level by level. A term without a
meaning is an empty leaf. Errors are recorded in the order in which they are met: those of a level's
terms and groups from left to right, then those of its combinators. Where an outline breaks off,
reading stops without a result.
-/

namespace Sift

/-- A result, if reading went to the end, and the errors recorded on the way. -/
structure Recorded (α : Type) where
  errors : List QueryError
  result? : Option α

namespace Recorded

variable {α β : Type}

/-- A result without errors. -/
def ok (a : α) : Recorded α := ⟨[], some a⟩

/-- Puts errors in front of those of a result. -/
def behind (errors : List QueryError) (r : Recorded α) : Recorded α :=
  ⟨errors ++ r.errors, r.result?⟩

/-- Goes on with the result, if there is one. -/
def andThen (r : Recorded α) (f : α → Recorded β) : Recorded β :=
  match r.result? with
  | none => ⟨r.errors, none⟩
  | some a => (f a).behind r.errors

/-- Changes the result. -/
def map (f : α → β) (r : Recorded α) : Recorded β := ⟨r.errors, r.result?.map f⟩

end Recorded

/-- The leaf of a term and the error that it is, if any. -/
def readLeaf {α : Type} (read : Term → Except QueryError (Option α)) (t : Term) :
    Recorded (Tree (Option α)) :=
  match read t with
  | .ok a? => .ok (.leaf t.site a?)
  | .error e => ⟨[e], some (.leaf t.site none)⟩

/-- The term that a row combines to, if it is not empty. -/
def Item.combined {α : Type} (row : List (Item α)) : Recorded (Option (Tree α)) :=
  let (errors, result?) := Item.combine row
  ⟨errors, result?⟩

namespace Outline

variable {α : Type}

/-- The row of items that a level holds. A group is one term, or nothing if it is empty. -/
def row (read : Term → Except QueryError (Option α)) :
    Outline → Recorded (List (Item (Option α)))
  | done => .ok []
  | broken e => ⟨[e], none⟩
  | blank _ next => next.row read
  | combinator k s next => (next.row read).map (.combinator k s :: ·)
  | term t next => (readLeaf read t).andThen fun leaf => (next.row read).map (.term leaf :: ·)
  | group inner next =>
    ((inner.row read).andThen Item.combined).andThen fun tree? =>
      (next.row read).map (tree?.toList.map .term ++ ·)

/-- The tree of a level with its empty leaves. -/
def tree (read : Term → Except QueryError (Option α)) (o : Outline) :
    Recorded (Option (Tree (Option α))) :=
  (o.row read).andThen Item.combined

end Outline
end Sift
