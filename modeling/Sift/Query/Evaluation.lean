import Sift.Query.Tree

/-!
# Evaluating trees

A tree is evaluated from left to right. A connective whose left side settles the answer leaves its
right side alone, and a leaf that fails ends the evaluation. An evaluation tells which leaves were
asked, in order, beside its answer.
-/

namespace Sift

/-- The leaves asked, and the answer or the failure of the last of them. -/
structure Evaluation (α φ : Type) where
  asked : List α
  answer : Except φ Bool

/-- The answer of one side that settles a connective. -/
def Connective.settling : Connective → Bool
  | and => false
  | or => true

namespace Evaluation

variable {α φ : Type}

/-- Evaluates the negation. -/
def not (e : Evaluation α φ) : Evaluation α φ := ⟨e.asked, e.answer.map Bool.not⟩

/-- Evaluates a connective: the right side counts only where the left does not settle it. -/
def join (c : Connective) (l r : Evaluation α φ) : Evaluation α φ :=
  match l.answer with
  | .error _ => l
  | .ok b => if b = c.settling then l else ⟨l.asked ++ r.asked, r.answer⟩

end Evaluation

/-- The evaluation of a tree by the answers of its leaves. -/
def Tree.evaluate {α φ : Type} (ask : α → Except φ Bool) : Tree α → Evaluation α φ
  | leaf _ a => ⟨[a], ask a⟩
  | not _ t => (t.evaluate ask).not
  | join c _ l r => (l.evaluate ask).join c (r.evaluate ask)

end Sift
