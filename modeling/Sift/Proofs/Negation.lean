import Mathlib.Tactic.Lemma
import Sift.Query.Basic

/-!
# Moving negations to the leaves

Evaluations obey the laws of De Morgan in full: not only the answer or the failure is the same on
both sides, but also which leaves are asked and in what order (`Evaluation.join_dual_not`). So
moving every `not` of a tree to a leaf cannot be told by testing elements.
-/

namespace Sift

namespace Evaluation

variable {α φ : Type}

/-- Two negations cancel. -/
@[simp] theorem not_not (e : Evaluation α φ) : e.not.not = e := by
  obtain ⟨asked, answer⟩ := e
  cases answer with
  | error failure => rfl
  | ok b => simp [not, Except.map]

/-- The negation of a connective is its dual over the negated sides. -/
lemma join_dual_not (c : Connective) (l r : Evaluation α φ) :
    join c.dual l.not r.not = (join c l r).not := by
  obtain ⟨asked, answer⟩ := l
  cases answer with
  | error failure => rfl
  | ok b => cases c <;> cases b <;> rfl

end Evaluation

namespace Tree

variable {α φ : Type} (ask : α → Except φ Bool)

/-- Both kinds of moves keep the evaluation: of a tree, and of a tree under a `not`. -/
lemma evaluate_moves (t : Tree α) :
    t.pushNot.evaluate ask = t.evaluate ask ∧
      ∀ s, (t.pushNotInto s).evaluate ask = (t.evaluate ask).not := by
  induction t with
  | leaf s a => exact ⟨rfl, fun _ => rfl⟩
  | not s t ih =>
    obtain ⟨push, into⟩ := ih
    -- a `not` that is moved into a `not` goes with it
    refine ⟨into s, fun _ => ?_⟩
    rw [pushNotInto, push, evaluate, Evaluation.not_not]
  | join c s l r ihl ihr =>
    refine ⟨?_, fun s' => ?_⟩
    · rw [pushNot, evaluate, ihl.1, ihr.1, evaluate]
    · rw [pushNotInto, evaluate, ihl.2, ihr.2, Evaluation.join_dual_not, evaluate]

end Tree

namespace Query

variable {κ ε : Type}

/-- Moving every `not` to a leaf changes neither the result of testing an element nor the leaves
that are asked for it, nor their order. -/
theorem rearrange_nots_is_unobservable (q : Query κ ε) (x : ε) :
    (q.rearrange true false).evaluate x = q.evaluate x ∧
      (q.rearrange true false).test x = q.test x := by
  have same : (q.rearrange true false).evaluate x = q.evaluate x := by
    obtain ⟨text, tree?, errors, source?, comparison⟩ := q
    cases errors with
    | cons error errors => rfl
    | nil =>
      cases tree? with
      | none => rfl
      | some t => exact congrArg Except.ok (t.evaluate_moves _).1
  exact ⟨same, by rw [test, same, test]⟩

end Query

end Sift
