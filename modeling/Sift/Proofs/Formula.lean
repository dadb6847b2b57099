import Mathlib.Tactic.Lemma
import Sift.Query.Basic

/-!
# Boolean expressions

A formula is what a query tree says, without the places that its nodes come from. It has a value for
every choice of values for its atoms. The ways to write a formula as a query text in which every
connective has parentheses are those of `Renders`.
-/

namespace Sift

/-- A boolean expression over atoms. -/
inductive Formula (A : Type) where
  | atom (a : A)
  | not (f : Formula A)
  | join (c : Connective) (l r : Formula A)
  deriving DecidableEq

/-- The value of two values under a connective. -/
def Connective.value : Connective → Bool → Bool → Bool
  | and => Bool.and
  | or => Bool.or

namespace Formula

variable {A B : Type}

/-- The atoms of a formula from left to right. -/
def atoms : Formula A → List A
  | atom a => [a]
  | not f => f.atoms
  | join _ l r => l.atoms ++ r.atoms

/-- Replaces the atoms. -/
def map (g : A → B) : Formula A → Formula B
  | atom a => atom (g a)
  | not f => not (f.map g)
  | join c l r => join c (l.map g) (r.map g)

/-- The value of a formula. -/
def value (v : A → Bool) : Formula A → Bool
  | atom a => v a
  | not f => !f.value v
  | join c l r => c.value (l.value v) (r.value v)

/-- The formula without the atoms that `keep` refuses: a `not` goes with its operand, and a
connective that loses a side is replaced by the other. -/
def filter (keep : A → Bool) : Formula A → Option (Formula A)
  | atom a => if keep a then some (atom a) else none
  | not f => (f.filter keep).map not
  | join c l r =>
    match l.filter keep, r.filter keep with
    | some l, some r => some (join c l r)
    | some l, none => some l
    | none, r? => r?

/-- A formula of which every atom is kept stays as it is. -/
lemma filter_eq_some {keep : A → Bool} {f : Formula A} (h : ∀ a ∈ f.atoms, keep a = true) :
    f.filter keep = some f := by
  induction f with
  | atom a => rw [filter, if_pos (h a (by simp [atoms]))]
  | not f ih => rw [filter, ih h, Option.map_some]
  | join c l r ihl ihr =>
    have left := ihl fun a mem => h a (List.mem_append_left _ mem)
    have right := ihr fun a mem => h a (List.mem_append_right _ mem)
    rw [filter, left, right]

/-- Every atom that is kept is one of the formula. -/
lemma atoms_filter {keep : A → Bool} {f kept : Formula A} (h : f.filter keep = some kept) :
    ∀ a ∈ kept.atoms, a ∈ f.atoms ∧ keep a = true := by
  induction f generalizing kept with
  | atom a =>
    rw [filter] at h
    split at h
    · next keeps =>
      cases h
      simpa [atoms] using keeps
    · cases h
  | not f ih =>
    obtain ⟨kept', e, rfl⟩ := Option.map_eq_some_iff.1 h
    have within := ih e
    exact within
  | join c l r ihl ihr =>
    have left {kept} (e : l.filter keep = some kept) :
        ∀ a ∈ kept.atoms, a ∈ (join c l r).atoms ∧ keep a = true :=
      fun a mem => ⟨List.mem_append_left _ (ihl e a mem).1, (ihl e a mem).2⟩
    have right {kept} (e : r.filter keep = some kept) :
        ∀ a ∈ kept.atoms, a ∈ (join c l r).atoms ∧ keep a = true :=
      fun a mem => ⟨List.mem_append_right _ (ihr e a mem).1, (ihr e a mem).2⟩
    rw [filter] at h
    split at h
    · next el er =>
      cases h
      exact List.forall_mem_append.2 ⟨left el, right er⟩
    · next el er =>
      cases h
      exact left el
    · exact right h

end Formula

namespace Tree

variable {α β γ A : Type}

/-- What a tree says, given what its leaves stand for. -/
def formula (g : Site → α → β) : Tree α → Formula β
  | leaf s a => .atom (g s a)
  | not _ t => .not (t.formula g)
  | join c _ l r => .join c (l.formula g) (r.formula g)

/-- The formula of a pruned tree has the atoms of the leaves that are not empty. -/
lemma formula_prune {g : α → γ} {shape : A → List Char × Option γ} {t : Tree (Option α)}
    {f : Formula A} (same : t.formula (fun s a? => (s.source, a?.map g)) = f.map shape) :
    t.prune.map (formula fun s a => (s.source, some (g a))) =
      (f.filter fun a => (shape a).2.isSome).map (Formula.map shape) := by
  induction t generalizing f with
  | leaf s a? =>
    match f with
    | .atom a =>
      have e : (s.source, a?.map g) = shape a := Formula.atom.inj same
      cases a? with
      | none => simp [prune, Formula.filter, ← e]
      | some a => simp [prune, Formula.filter, ← e, formula, Formula.map]
  | not s t ih =>
    match f with
    | .not f =>
      have push {pruned : Option (Tree α)} {kept : Option (Formula A)}
          (e : pruned.map (formula fun s a => (s.source, some (g a))) =
            kept.map (Formula.map shape)) :
          (pruned.map (not s)).map (formula fun s a => (s.source, some (g a))) =
            (kept.map .not).map (Formula.map shape) := by
        cases pruned <;> cases kept <;> simp_all [formula, Formula.map]
      exact push (ih (Formula.not.inj same))
  | join c s l r ihl ihr =>
    match f with
    | .join d l' r' =>
      obtain ⟨rfl, el, er⟩ := Formula.join.inj same
      have ihl := ihl el
      have ihr := ihr er
      rw [prune, Formula.filter]
      -- a side is left on both sides of the equation or on neither
      generalize l.prune = pl, r.prune = pr at ihl ihr ⊢
      generalize Formula.filter _ l' = kl, Formula.filter _ r' = kr at ihl ihr ⊢
      cases pl <;> cases kl <;> cases pr <;> cases kr <;> simp_all [formula, Formula.map]

/-- An evaluation in which no leaf fails has the value of the formula. -/
lemma answer_of_formula {φ : Type} {ask : α → Except φ Bool} {v : A → Bool} {g : Site → α → β}
    {shape : A → β} {t : Tree α} {f : Formula A} (same : t.formula g = f.map shape)
    (h : ∀ s x, ∀ a ∈ f.atoms, g s x = shape a → ask x = .ok (v a)) :
    (t.evaluate ask).answer = .ok (f.value v) := by
  induction t generalizing f with
  | leaf s x =>
    match f with
    | .atom a => exact h s x a (by simp [Formula.atoms]) (Formula.atom.inj same)
  | not s t ih =>
    match f with
    | .not f =>
      rw [evaluate, Evaluation.not, ih (Formula.not.inj same) h]
      rfl
  | join c s l r ihl ihr =>
    match f with
    | .join d l' r' =>
      obtain ⟨rfl, el, er⟩ := Formula.join.inj same
      have left := ihl el fun s x a mem => h s x a (List.mem_append_left _ mem)
      have right := ihr er fun s x a mem => h s x a (List.mem_append_right _ mem)
      rw [evaluate, Evaluation.join, left, Formula.value]
      cases c <;> cases lv : l'.value v <;>
        simp [Connective.settling, Connective.value, left, right, lv]

end Tree

/-- A query with a tree and without errors is valid. -/
lemma Query.isValid_of_tree {κ ε : Type} {q : Query κ ε} {t : Tree (Leaf κ ε)}
    (errors : q.errors = []) (tree : q.tree? = some t) : q.isValid = true := by
  rw [isValid, isEmpty, errors, tree]
  rfl

/-- Testing an element evaluates the tree. -/
lemma Query.evaluate_eq {κ ε : Type} {q : Query κ ε} {t : Tree (Leaf κ ε)} {x : ε}
    (errors : q.errors = []) (tree : q.tree? = some t) :
    q.evaluate x = .ok (t.evaluate (q.ask x)) := by
  rw [Query.evaluate, testable, errors, tree]
  rfl

/-- The result of testing an element is the answer of the tree. -/
lemma Query.test_eq {κ ε : Type} {q : Query κ ε} {t : Tree (Leaf κ ε)} {x : ε}
    (errors : q.errors = []) (tree : q.tree? = some t) :
    q.test x = (t.evaluate (q.ask x)).answer.mapError .evaluation := by
  rw [test, evaluate_eq errors tree]
  cases h : (t.evaluate (q.ask x)).answer <;> simp only [bind, Except.bind, h] <;> rfl

end Sift
