import Mathlib.Logic.Basic
import Sift.Proofs.Formula
import Sift.Proofs.Negation
import Sift.Proofs.Reachable

/-!
# Answers of rearranged trees

Moving negated sides to the right changes which leaves are asked, so that a failing leaf may be
asked on one side and not on the other. But an answer that is given is the value of the tree's
formula, whatever the leaves would have said that have not been asked or have failed
(`Tree.value_of_answer`), and no rearrangement changes that value (`Tree.value_rearrange`). Where a
query fails can change only where sides are exchanged on which some leaf fails
(`Tree.answer_rearrange`).
-/

namespace Sift

/-- A value for every leaf that agrees with the answers of those that do not fail. -/
def Completes {α φ : Type} (v : α → Bool) (ask : α → Except φ Bool) : Prop :=
  ∀ {a b}, ask a = .ok b → v a = b

namespace Connective

/-- A side that settles a connective gives its value. -/
lemma value_settling (c : Connective) (b : Bool) : c.value c.settling b = c.settling := by
  cases c <;> cases b <;> rfl

/-- A side that does not settle a connective leaves its value to the other. -/
lemma value_of_ne_settling {c : Connective} {b : Bool} (h : b ≠ c.settling) (b' : Bool) :
    c.value b b' = b' := by
  cases c <;> cases b <;> first | rfl | exact absurd rfl h

/-- The sides of a connective may be exchanged, as far as values go. -/
lemma value_comm (c : Connective) (b b' : Bool) : c.value b b' = c.value b' b := by
  cases c
  · exact Bool.and_comm b b'
  · exact Bool.or_comm b b'

/-- A connective of negated sides is the negated dual. -/
lemma value_dual (c : Connective) (b b' : Bool) : c.dual.value (!b) (!b') = !c.value b b' := by
  cases c
  · exact (Bool.not_and b b').symm
  · exact (Bool.not_or b b').symm

end Connective

namespace Evaluation

variable {α φ : Type} {l r : Evaluation α φ} {b b' : Bool}

/-- A connective whose sides both have answers has the value of these as its answer. -/
lemma answer_join (c : Connective) (hl : l.answer = .ok b) (hr : r.answer = .ok b') :
    (join c l r).answer = .ok (c.value b b') := by
  simp only [join, hl]
  split
  · next settles => rw [hl, settles, c.value_settling]
  · next leaves => rw [hr, Connective.value_of_ne_settling leaves]

/-- The answer of a connective comes from those of its sides. -/
lemma answer_congr {l' r' : Evaluation α φ} (c : Connective) (hl : l'.answer = l.answer)
    (hr : r'.answer = r.answer) : (join c l' r').answer = (join c l r).answer := by
  simp only [join, hl]
  split
  · exact hl
  · split
    · exact hl
    · exact hr

/-- An answer of a connective is that of the left side alone, or that of both. -/
lemma sides_of_answer_join {c : Connective} (h : (join c l r).answer = .ok b) :
    (l.answer = .ok c.settling ∧ b = c.settling) ∨
      ∃ left, left ≠ c.settling ∧ l.answer = .ok left ∧ r.answer = .ok b := by
  simp only [join] at h
  split at h
  · next e =>
    rw [e] at h
    cases h
  · next left e =>
    split at h
    · next settles =>
      rw [e] at h
      cases h
      exact .inl ⟨by rw [e, settles], settles⟩
    · next leaves => exact .inr ⟨left, leaves, e, h⟩

end Evaluation

namespace Tree

variable {α φ : Type} {ask : α → Except φ Bool} {v : α → Bool} {t : Tree α}

/-- The value of a tree, given values for its leaves. -/
def value (v : α → Bool) (t : Tree α) : Bool := (t.formula fun _ a => a).value v

/-- An answer is the value of the tree whatever the leaves that have not been asked are. -/
lemma value_of_asked {b : Bool} (h : (t.evaluate ask).answer = .ok b)
    (agrees : ∀ a ∈ (t.evaluate ask).asked, ∀ b', ask a = .ok b' → v a = b') : t.value v = b := by
  induction t generalizing b with
  | leaf s a => exact agrees a (List.mem_singleton_self a) b h
  | not s t ih =>
    cases e : (t.evaluate ask).answer with
    | error failure =>
      rw [evaluate, Evaluation.not, e] at h
      cases h
    | ok b' =>
      rw [evaluate, Evaluation.not, e] at h
      cases h
      exact congrArg Bool.not (ih e agrees)
  | join c s l r ihl ihr =>
    have both : (join c s l r).value v = c.value (l.value v) (r.value v) := rfl
    rcases Evaluation.sides_of_answer_join h with ⟨hl, rfl⟩ | ⟨left, leaves, hl, hr⟩
    · have asked : ((join c s l r).evaluate ask).asked = (l.evaluate ask).asked := by
        rw [evaluate, Evaluation.join, hl]
        exact congrArg Evaluation.asked (if_pos rfl)
      rw [asked] at agrees
      rw [both, ihl hl agrees, c.value_settling]
    · have asked : ((join c s l r).evaluate ask).asked =
          (l.evaluate ask).asked ++ (r.evaluate ask).asked := by
        rw [evaluate, Evaluation.join, hl]
        exact congrArg Evaluation.asked (if_neg leaves)
      rw [asked] at agrees
      obtain ⟨agreesLeft, agreesRight⟩ := List.forall_mem_append.1 agrees
      rw [both, ihl hl agreesLeft, ihr hr agreesRight, Connective.value_of_ne_settling leaves]

/-- An answer is the value of the tree under every completion of its leaves' answers. -/
lemma value_of_answer (comp : Completes v ask) {b : Bool} (h : (t.evaluate ask).answer = .ok b) :
    t.value v = b :=
  value_of_asked h fun _ _ _ answer => comp answer

/-- Both kinds of moves keep the value: of a tree, and of a tree under a `not`. -/
lemma value_moves (v : α → Bool) (t : Tree α) :
    t.pushNot.value v = t.value v ∧ ∀ s, (t.pushNotInto s).value v = !t.value v := by
  induction t with
  | leaf s a => exact ⟨rfl, fun _ => rfl⟩
  | not s t ih =>
    refine ⟨ih.2 s, fun _ => ?_⟩
    exact ih.1.trans (Bool.not_not _).symm
  | join c s l r ihl ihr =>
    constructor
    · exact congrArg₂ c.value ihl.1 ihr.1
    · intro s'
      have sides := congrArg₂ c.dual.value (ihl.2 s) (ihr.2 r.newNotSite)
      exact sides.trans (c.value_dual _ _)

/-- Exchanging the sides at the root keeps the value. -/
lemma value_swapSides (v : α → Bool) (t : Tree α) : t.swapSides.value v = t.value v := by
  unfold swapSides
  split
  · split
    · exact Connective.value_comm _ _ _
    · rfl
  · rfl

/-- Exchanging sides everywhere keeps the value. -/
lemma value_swapNot (v : α → Bool) (t : Tree α) : t.swapNot.value v = t.value v := by
  induction t with
  | leaf s a => rfl
  | not s t ih => exact congrArg Bool.not ih
  | join c s l r ihl ihr => exact (value_swapSides v _).trans (congrArg₂ c.value ihl ihr)

/-- No rearrangement changes the value of a tree. -/
lemma value_rearrange (push swap : Bool) (v : α → Bool) (t : Tree α) :
    (t.rearrange push swap).value v = t.value v := by
  cases push <;> cases swap
  · rfl
  · exact value_swapNot v t
  · exact (value_moves v t).1
  · exact (value_swapNot v _).trans (value_moves v t).1

/-- Both kinds of moves keep the leaves. -/
lemma leaves_moves (t : Tree α) :
    t.pushNot.leaves = t.leaves ∧ ∀ s, (t.pushNotInto s).leaves = t.leaves := by
  induction t with
  | leaf s a => exact ⟨rfl, fun _ => rfl⟩
  | not s t ih => exact ⟨ih.2 s, fun _ => ih.1⟩
  | join c s l r ihl ihr =>
    exact ⟨congrArg₂ List.append ihl.1 ihr.1, fun s' => congrArg₂ List.append (ihl.2 _) (ihr.2 _)⟩

/-- Exchanging the sides at the root keeps the leaves, up to their order. -/
lemma leaves_swapSides (t : Tree α) : t.swapSides.leaves.Perm t.leaves := by
  unfold swapSides
  split
  · split
    · exact List.perm_append_comm
    · exact .refl _
  · exact .refl _

/-- Exchanging sides everywhere keeps the leaves, up to their order. -/
lemma leaves_swapNot (t : Tree α) : t.swapNot.leaves.Perm t.leaves := by
  induction t with
  | leaf s a => exact .refl _
  | not s t ih => exact ih
  | join c s l r ihl ihr => exact (leaves_swapSides _).trans (ihl.append ihr)

/-- A rearranged tree has the same leaves, perhaps in another order. -/
lemma leaves_rearrange (push swap : Bool) (t : Tree α) :
    (t.rearrange push swap).leaves.Perm t.leaves := by
  cases push <;> cases swap
  · exact .refl _
  · exact leaves_swapNot t
  · exact .of_eq (leaves_moves t).1
  · exact (leaves_swapNot _).trans (.of_eq (leaves_moves t).1)

/-- Whether no leaf of the tree fails. -/
def Answers (ask : α → Except φ Bool) (t : Tree α) : Prop :=
  ∀ leaf ∈ t.leaves, (ask leaf.2).isOk = true

/-- Decided leaf by leaf. -/
instance (ask : α → Except φ Bool) (t : Tree α) : Decidable (t.Answers ask) :=
  inferInstanceAs (Decidable (∀ leaf ∈ t.leaves, (ask leaf.2).isOk = true))

/-- A tree of which no leaf fails has an answer. -/
lemma answer_of_answers (h : t.Answers ask) : ∃ b, (t.evaluate ask).answer = .ok b := by
  induction t with
  | leaf s a =>
    have ok : (ask a).isOk = true := h (s, a) (by simp [leaves])
    rw [evaluate]
    cases e : ask a with
    | error failure =>
      rw [e] at ok
      cases ok
    | ok b => exact ⟨b, rfl⟩
  | not s t ih =>
    obtain ⟨b, e⟩ := ih h
    exact ⟨!b, by rw [evaluate, Evaluation.not, e]; rfl⟩
  | join c s l r ihl ihr =>
    obtain ⟨b, el⟩ := ihl fun leaf mem => h leaf (List.mem_append_left _ mem)
    obtain ⟨b', er⟩ := ihr fun leaf mem => h leaf (List.mem_append_right _ mem)
    exact ⟨_, Evaluation.answer_join c el er⟩

/-- Whether no leaf fails on sides that are exchanged. -/
def ExchangesAnswer (ask : α → Except φ Bool) : Tree α → Prop
  | leaf _ _ => True
  | not _ t => t.ExchangesAnswer ask
  | join _ _ l r =>
    l.ExchangesAnswer ask ∧ r.ExchangesAnswer ask ∧
      (l.isNot = true → r.isNot = false → l.Answers ask ∧ r.Answers ask)

/-- Exchanges can be looked for in a tree. -/
instance decidableExchangesAnswer (ask : α → Except φ Bool) :
    (t : Tree α) → Decidable (t.ExchangesAnswer ask)
  | leaf _ _ => .isTrue trivial
  | not _ t => decidableExchangesAnswer ask t
  | join _ _ l r =>
    have := decidableExchangesAnswer ask l
    have := decidableExchangesAnswer ask r
    inferInstanceAs (Decidable (l.ExchangesAnswer ask ∧ r.ExchangesAnswer ask ∧
      (l.isNot = true → r.isNot = false → l.Answers ask ∧ r.Answers ask)))

/-- A `not` stays one when sides below it are exchanged. -/
lemma isNot_swapNot (t : Tree α) : t.swapNot.isNot = t.isNot := by
  match t with
  | leaf s a => rfl
  | not s t => rfl
  | join c s l r =>
    rw [swapNot, swapSides]
    split <;> rfl

/-- Exchanging sides on which no leaf fails keeps the answer, or the failure of a leaf elsewhere. -/
lemma answer_swapNot (h : t.ExchangesAnswer ask) :
    (t.swapNot.evaluate ask).answer = (t.evaluate ask).answer := by
  induction t with
  | leaf s a => rfl
  | not s t ih => exact congrArg (Except.map Bool.not) (ih h)
  | join c s l r ihl ihr =>
    obtain ⟨hl, hr, exchange⟩ := h
    have ihl := ihl hl
    have ihr := ihr hr
    rw [swapNot, swapSides, isNot_swapNot, isNot_swapNot]
    split
    · next exchanged =>
      rw [Bool.and_eq_true, Bool.not_eq_true'] at exchanged
      obtain ⟨answersLeft, answersRight⟩ := exchange exchanged.1 exchanged.2
      obtain ⟨b, el⟩ := answer_of_answers answersLeft
      obtain ⟨b', er⟩ := answer_of_answers answersRight
      rw [evaluate, Evaluation.answer_join c (ihr.trans er) (ihl.trans el), evaluate,
        Evaluation.answer_join c el er, c.value_comm]
    · exact Evaluation.answer_congr c ihl ihr

end Tree

namespace Query

variable {κ ε : Type} {q : Query κ ε} {t : Tree (Leaf κ ε)} {x : ε}

/-- What is kept by rearranging is kept by rearranging again and again. -/
lemma rearrangeAll_induction {P : Query κ ε → Prop} (start : P q)
    (step : ∀ q push swap, P q → P (q.rearrange push swap)) (moves : List (Bool × Bool)) :
    P (q.rearrangeAll moves) := by
  unfold rearrangeAll
  induction moves generalizing q with
  | nil => exact start
  | cons move moves ih => exact ih (step q move.1 move.2 start)

/-- A query that is like another but for its tree, which has the same value and the same leaves. -/
structure Rearranged (q : Query κ ε) (t : Tree (Leaf κ ε)) (q' : Query κ ε) : Prop where
  errors : q'.errors = []
  ask : q'.ask = q.ask
  tree : ∃ t', q'.tree? = some t' ∧ (∀ v, t'.value v = t.value v) ∧ t'.leaves.Perm t.leaves

/-- Any rearranging of a query without errors gives a rearranged one. -/
lemma rearranged (errors : q.errors = []) (tree : q.tree? = some t) (moves : List (Bool × Bool)) :
    Rearranged q t (q.rearrangeAll moves) := by
  refine rearrangeAll_induction ⟨errors, rfl, t, tree, fun _ => rfl, .refl _⟩ ?_ moves
  rintro q' push swap ⟨errors', ask', t', tree', value', leaves'⟩
  refine ⟨errors', ask', t'.rearrange push swap, ?_, fun v => ?_, ?_⟩
  · rw [rearrange, tree', Option.map_some]
  · rw [Tree.value_rearrange, value']
  · exact (Tree.leaves_rearrange push swap t').trans leaves'

/-- The answer to a test is that of the tree. -/
lemma answer_of_test {b : Bool} (errors : q.errors = []) (tree : q.tree? = some t)
    (h : q.test x = .ok b) : (t.evaluate (q.ask x)).answer = .ok b := by
  rw [test_eq errors tree] at h
  cases e : (t.evaluate (q.ask x)).answer with
  | error failure =>
    rw [e] at h
    cases h
  | ok b' =>
    rw [e] at h
    cases h
    rfl

/-- A valid query has a tree and no errors. -/
lemma exists_of_isValid (valid : q.isValid = true) : q.errors = [] ∧ ∃ t, q.tree? = some t := by
  rw [isValid, Bool.and_eq_true, List.isEmpty_iff, isEmpty] at valid
  refine ⟨valid.1, Option.isSome_iff_exists.1 ?_⟩
  simpa using valid.2

/-- However often a query is rearranged, the answers for an element agree where there are any, and
there are if no leaf fails on the element. -/
theorem rearranging_keeps_answers (q : Query κ ε) (valid : q.isValid = true)
    (moves : List (Bool × Bool)) (x : ε) :
    (∀ b b', q.test x = .ok b → (q.rearrangeAll moves).test x = .ok b' → b = b') ∧
      ((∀ t ∈ q.tree?, t.Answers (q.ask x)) →
        ∃ b, q.test x = .ok b ∧ (q.rearrangeAll moves).test x = .ok b) := by
  obtain ⟨errors, t, tree⟩ := exists_of_isValid valid
  obtain ⟨errors', ask', t', tree', value', leaves'⟩ := rearranged errors tree moves
  -- leaves that fail are completed by any value
  have comp : Completes (fun leaf => (q.ask x leaf).toOption.getD false) (q.ask x) := by
    intro leaf b e
    simp only [e]
    rfl
  have agree {b b'} (h : q.test x = .ok b) (h' : (q.rearrangeAll moves).test x = .ok b') :
      b = b' := by
    have before := Tree.value_of_answer comp (answer_of_test errors tree h)
    have after := answer_of_test errors' tree' h'
    rw [ask'] at after
    rw [← before, ← Tree.value_of_answer comp after, value']
  refine ⟨fun b b' => agree, fun answers => ?_⟩
  have answers := answers t tree
  obtain ⟨b, e⟩ := Tree.answer_of_answers answers
  obtain ⟨b', e'⟩ : ∃ b', (t'.evaluate (q.ask x)).answer = .ok b' :=
    Tree.answer_of_answers fun leaf mem => answers leaf (leaves'.mem_iff.1 mem)
  have h : q.test x = .ok b := by
    rw [test_eq errors tree, e]
    rfl
  have h' : (q.rearrangeAll moves).test x = .ok b' := by
    rw [test_eq errors' tree', ask', e']
    rfl
  exact ⟨b, h, by rw [h', agree h h']⟩

/-- An engine over flags that may be missing: its filter fails where the flag is, and elements have
no texts to find words in. -/
def flagged : Engine Empty (Option Bool) where
  filters := [.tryGet .bool "flag" fun x => x.elim (.error "no flag") .ok]
  searchSource? := some { texts := fun _ => [] }

/-- The engine of the example comes about by calls. -/
lemma reachable_flagged : flagged.Reachable := by
  have registered : (Engine.withOptions {}).registerFilter
      (.tryGet .bool "flag" fun x => x.elim (.error "no flag") .ok) =
        .ok { flagged with searchSource? := none } := rfl
  exact .step (.step (.withOptions {}) (.registerFilter _ registered)) (.setSearchSource _ rfl)

/-- A negated side is exchanged, with and without a leaf that fails. -/
theorem answers_of_exchanged_sides :
    flagged.Reachable ∧ (flagged.query "-flag:true red").isValid = true ∧
      (∀ b b', (flagged.query "-flag:true red").test none = .ok b →
        ((flagged.query "-flag:true red").rearrangeAll [(false, true), (true, true)]).test none =
          .ok b' → b = b') ∧
      ∃ b, (flagged.query "-flag:true red").test (some true) = .ok b ∧
        ((flagged.query "-flag:true red").rearrangeAll [(false, true), (true, true)]).test
          (some true) = .ok b := by
  have valid : (flagged.query "-flag:true red").isValid = true := by decide +kernel
  obtain ⟨agree, _⟩ := rearranging_keeps_answers _ valid [(false, true), (true, true)] none
  obtain ⟨_, exist⟩ := rearranging_keeps_answers _ valid [(false, true), (true, true)] (some true)
  exact ⟨reachable_flagged, valid, agree, exist (by decide +kernel)⟩

/-- Whether a filter fails when an element is tested. -/
def fails (q : Query κ ε) (x : ε) : Bool :=
  match q.test x with
  | .error (.evaluation _) => true
  | _ => false

/-- A query fails on the same elements when it is rearranged, unless sides are exchanged on which a
leaf fails. -/
theorem rearranging_keeps_failures (q : Query κ ε) (valid : q.isValid = true) (push swap : Bool)
    (x : ε)
    (exchanges : swap = true → ∀ t ∈ q.tree?,
      (t.rearrange push false).ExchangesAnswer (q.ask x)) :
    (q.rearrange push swap).fails x = q.fails x := by
  obtain ⟨errors, t, tree⟩ := exists_of_isValid valid
  have tree' : (q.rearrange push swap).tree? = some (t.rearrange push swap) := by
    rw [rearrange, tree, Option.map_some]
  have pushed : ((t.rearrange push false).evaluate (q.ask x)).answer =
      (t.evaluate (q.ask x)).answer := by
    cases push
    · rfl
    · exact congrArg Evaluation.answer (t.evaluate_moves _).1
  have same : ((t.rearrange push swap).evaluate (q.ask x)).answer =
      (t.evaluate (q.ask x)).answer := by
    cases swap
    · exact pushed
    · exact (Tree.answer_swapNot (exchanges rfl t tree)).trans pushed
  have test : (q.rearrange push swap).test x = q.test x := by
    rw [test_eq (q := q.rearrange push swap) errors tree', test_eq errors tree]
    exact congrArg (Except.mapError EngineError.evaluation) same
  rw [fails, test, fails]

/-- A negation of two sides fails however it is rearranged: none of its sides is exchanged. -/
theorem failure_of_negated_sides :
    flagged.Reachable ∧ (flagged.query "-(flag:true red)").isValid = true ∧
      (flagged.query "-(flag:true red)").fails none = true ∧
      ((flagged.query "-(flag:true red)").rearrange true true).fails none = true := by
  have valid : (flagged.query "-(flag:true red)").isValid = true := by decide +kernel
  have fails : (flagged.query "-(flag:true red)").fails none = true := by decide +kernel
  have same := rearranging_keeps_failures _ valid true true none (by decide +kernel)
  exact ⟨reachable_flagged, valid, fails, same.trans fails⟩

/-- A failure is hidden when the side that fails is no longer asked. -/
theorem hidden_failure :
    flagged.Reachable ∧ (flagged.query "-flag:true red").isValid = true ∧
      (flagged.query "-flag:true red").fails none = true ∧
      ((flagged.query "-flag:true red").rearrange false true).fails none = false :=
  ⟨reachable_flagged, by decide +kernel, by decide +kernel, by decide +kernel⟩

end Query

end Sift
