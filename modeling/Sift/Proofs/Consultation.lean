import Sift.Proofs.Rearranging

/-!
# What an answer rests on

An evaluation asks leaves of the tree in their order (`Tree.sublist_asked`), and goes on only as long
as they have answers (`Tree.ends_evaluate`). To tell two leaves apart that ask the same, the leaves
are numbered, which evaluation does not see (`Tree.evaluate_numbered`). So an answer is the value of
the tree whatever is true at the places that have not been asked, and a failure is that of the leaf
asked last (`Query.test_rests_on_asked`).
-/

namespace Sift

/-- Results can be told apart. -/
instance decidableEqResult {φ α : Type} [DecidableEq φ] [DecidableEq α] :
    DecidableEq (Except φ α)
  | .ok a, .ok b => decidable_of_iff (a = b) ⟨congrArg Except.ok, Except.ok.inj⟩
  | .error a, .error b => decidable_of_iff (a = b) ⟨congrArg Except.error, Except.error.inj⟩
  | .ok _, .error _ => .isFalse nofun
  | .error _, .ok _ => .isFalse nofun

namespace Evaluation

variable {α β φ : Type} {l r : Evaluation α φ}

/-- An evaluation with other names for the leaves asked. -/
def rename (g : α → β) (e : Evaluation α φ) : Evaluation β φ := ⟨e.asked.map g, e.answer⟩

/-- Renaming what is asked does not change a negation. -/
lemma rename_not (g : α → β) (e : Evaluation α φ) : e.not.rename g = (e.rename g).not := rfl

/-- Renaming what is asked does not change a connective. -/
lemma rename_join (g : α → β) (c : Connective) (l r : Evaluation α φ) :
    (join c l r).rename g = join c (l.rename g) (r.rename g) := by
  obtain ⟨asked, answer⟩ := l
  cases answer with
  | error failure => rfl
  | ok b =>
    simp only [join, rename]
    split
    · rfl
    · rw [List.map_append]

/-- Whether an evaluation has gone on as long as leaves had answers: all leaves that it has asked
have one, or the last one fails and all others have one. -/
def Ends (ask : α → Except φ Bool) (e : Evaluation α φ) : Prop :=
  match e.answer with
  | .ok _ => ∀ a ∈ e.asked, (ask a).isOk = true
  | .error failure =>
    ∃ before last, e.asked = before ++ [last] ∧ ask last = .error failure ∧
      ∀ a ∈ before, (ask a).isOk = true

variable {ask : α → Except φ Bool} {b : Bool} {failure : φ}

/-- Where an answer is given, all that is asked answers. -/
lemma Ends.of_ok {e : Evaluation α φ} (ends : e.Ends ask) (h : e.answer = .ok b) :
    ∀ a ∈ e.asked, (ask a).isOk = true := by
  rwa [Ends, h] at ends

/-- Where an evaluation fails, the last that is asked fails, and only that. -/
lemma Ends.of_error {e : Evaluation α φ} (ends : e.Ends ask) (h : e.answer = .error failure) :
    ∃ before last, e.asked = before ++ [last] ∧ ask last = .error failure ∧
      ∀ a ∈ before, (ask a).isOk = true := by
  rwa [Ends, h] at ends

/-- A negation ends as its operand does. -/
lemma Ends.not {e : Evaluation α φ} (ends : e.Ends ask) : e.not.Ends ask := by
  obtain ⟨asked, answer⟩ := e
  cases answer with
  | error failure => exact ends
  | ok b => exact ends

/-- A right side that is asked goes on behind a left side without failures. -/
lemma Ends.join (c : Connective) (left : l.Ends ask) (right : r.Ends ask) :
    (join c l r).Ends ask := by
  unfold Evaluation.join
  split
  · exact left
  · next b answered =>
    split
    · exact left
    · have before := left.of_ok answered
      cases h : r.answer with
      | ok b =>
        show ∀ a ∈ l.asked ++ r.asked, (ask a).isOk = true
        exact List.forall_mem_append.2 ⟨before, right.of_ok h⟩
      | error failure =>
        obtain ⟨between, last, asked, fails, answers⟩ := right.of_error h
        show ∃ before last, l.asked ++ r.asked = before ++ [last] ∧ ask last = .error failure ∧
          ∀ a ∈ before, (ask a).isOk = true
        refine ⟨l.asked ++ between, last, ?_, fails, List.forall_mem_append.2 ⟨before, answers⟩⟩
        rw [asked, List.append_assoc]

end Evaluation

namespace Tree

variable {α φ : Type} {ask : α → Except φ Bool} {v : α → Bool}

/-- The tree with its leaves numbered from left to right, from a first number on. -/
def numbered (first : Nat) : Tree α → Tree (α × Nat)
  | leaf s a => leaf s (a, first)
  | not s t => not s (t.numbered first)
  | join c s l r => join c s (l.numbered first) (r.numbered (first + l.leaves.length))

/-- The value of a tree, given values for the places of its leaves, which count from zero. -/
def valueAt (v : Nat → Bool) (t : Tree α) : Bool := (t.numbered 0).value fun leaf => v leaf.2

/-- The leaves of a numbered tree are its leaves with numbers in order. -/
lemma leaves_numbered (t : Tree α) (first : Nat) :
    (t.numbered first).leaves.map Prod.snd = (t.leaves.map Prod.snd).zipIdx first := by
  induction t generalizing first with
  | leaf s a => rfl
  | not s t ih => exact ih first
  | join c s l r ihl ihr =>
    rw [numbered, leaves, leaves, List.map_append, List.map_append, List.zipIdx_append, ihl, ihr,
      List.length_map]

/-- A tree is evaluated as it is with numbers for its leaves. -/
lemma evaluate_numbered (ask : α → Except φ Bool) (t : Tree α) (first : Nat) :
    t.evaluate ask = ((t.numbered first).evaluate fun leaf => ask leaf.1).rename Prod.fst := by
  induction t generalizing first with
  | leaf s a => rfl
  | not s t ih => rw [evaluate, ih first, numbered, evaluate, Evaluation.rename_not]
  | join c s l r ihl ihr =>
    rw [evaluate, ihl first, ihr (first + l.leaves.length), numbered, evaluate,
      Evaluation.rename_join]

/-- The leaves that are asked are leaves of the tree, in their order. -/
lemma sublist_asked (ask : α → Except φ Bool) (t : Tree α) :
    (t.evaluate ask).asked.Sublist (t.leaves.map Prod.snd) := by
  induction t with
  | leaf s a => exact .refl [a]
  | not s t ih => exact ih
  | join c s l r ihl ihr =>
    rw [evaluate, leaves, List.map_append, Evaluation.join]
    have left : (l.evaluate ask).asked.Sublist (l.leaves.map Prod.snd ++ r.leaves.map Prod.snd) :=
      ihl.trans (List.sublist_append_left _ _)
    split
    · exact left
    · split
      · exact left
      · exact ihl.append ihr

/-- An evaluation ends with an answer, or with the leaf that fails. -/
lemma ends_evaluate (ask : α → Except φ Bool) (t : Tree α) : (t.evaluate ask).Ends ask := by
  induction t with
  | leaf s a =>
    rw [evaluate, Evaluation.Ends]
    cases h : ask a with
    | ok b =>
      intro a' mem
      rw [List.mem_singleton.1 mem, h]
      rfl
    | error failure => exact ⟨[], a, rfl, h, fun _ mem => absurd mem List.not_mem_nil⟩
  | not s t ih => exact ih.not
  | join c s l r ihl ihr => exact ihl.join c ihr

end Tree

/-- A failure of an operation carries the filter, the operator and the value of its clause. -/
lemma Operation.exists_of_test {κ ε : Type} {o : Operation κ ε} {x : ε} {failure : Failure}
    (h : o.test x = .error failure) : ∃ reason, failure = o.failure reason := by
  rw [test] at h
  split at h
  · split at h
    · cases h
    · next reason _ =>
      cases h
      exact ⟨reason, rfl⟩
  · split at h
    · cases h
    · next reason _ =>
      cases h
      exact ⟨reason, rfl⟩
  · cases h

namespace Query

variable {κ ε : Type} {q : Query κ ε} {t : Tree (Leaf κ ε)} {x : ε}

/-- Only a filter fails. -/
lemma exists_of_ask {leaf : Leaf κ ε} {failure : Failure} (h : q.ask x leaf = .error failure) :
    ∃ o reason, leaf = .filter o ∧ o.test x = .error (o.failure reason) ∧
      failure = o.failure reason := by
  cases leaf with
  | filter o =>
    obtain ⟨reason, rfl⟩ := Operation.exists_of_test h
    exact ⟨o, reason, rfl, h, rfl⟩
  | search w =>
    rw [ask] at h
    split at h <;> cases h

/-- A test fails as the evaluation of the tree does. -/
lemma failure_of_test {error : EngineError} (errors : q.errors = []) (tree : q.tree? = some t)
    (h : q.test x = .error error) :
    ∃ failure, (t.evaluate (q.ask x)).answer = .error failure ∧ error = .evaluation failure := by
  rw [test_eq errors tree] at h
  cases e : (t.evaluate (q.ask x)).answer with
  | ok b =>
    rw [e] at h
    cases h
  | error failure =>
    rw [e] at h
    cases h
    exact ⟨failure, rfl, rfl⟩

/-- A tree whose answer is a failure has a filter that fails so. -/
lemma exists_leaf_of_failure {failure : Failure}
    (failed : (t.evaluate (q.ask x)).answer = .error failure) :
    ∃ leaf ∈ t.leaves, ∃ o, leaf.2 = .filter o ∧ o.test x = .error failure := by
  obtain ⟨before, last, asked, fails, -⟩ := (t.ends_evaluate (q.ask x)).of_error failed
  have listed : last ∈ t.leaves.map Prod.snd := by
    apply (t.sublist_asked (q.ask x)).subset
    rw [asked]
    exact List.mem_append_right before (List.mem_singleton_self last)
  obtain ⟨leaf, mem, rfl⟩ := List.mem_map.1 listed
  obtain ⟨o, reason, filter, test, rfl⟩ := exists_of_ask fails
  exact ⟨leaf, mem, o, filter, test⟩

/-- What testing an element rests on: leaves of a tree, with their places in it. -/
structure RestsOn (q : Query κ ε) (x : ε) (t : Tree (Leaf κ ε))
    (consulted : List (Leaf κ ε × Nat)) : Prop where
  /-- They are the leaves that are asked. -/
  asked : ∃ e, q.evaluate x = .ok e ∧ e.asked = consulted.map Prod.fst
  /-- They stand in the order of their places, and no place twice. -/
  ordered : consulted.Sublist (t.leaves.map Prod.snd).zipIdx
  /-- If there is an answer, none of them has failed. -/
  answers : ∀ b, q.test x = .ok b → ∀ leaf ∈ consulted, (q.ask x leaf.1).isOk = true
  /-- The answer is the value of the tree for all values of its leaves that agree with them. -/
  value : ∀ b, q.test x = .ok b → ∀ v : Nat → Bool,
    (∀ leaf ∈ consulted, ∀ b', q.ask x leaf.1 = .ok b' → v leaf.2 = b') → t.valueAt v = b
  /-- What is refused is the failure of the last of them, a filter, and carries its token, its
  operator and its value as it is written. Those before it have not failed. -/
  failure : ∀ error, q.test x = .error error →
    ∃ before o i reason, consulted = before ++ [(.filter o, i)] ∧
      (∀ leaf ∈ before, (q.ask x leaf.1).isOk = true) ∧
      o.test x = .error ⟨o.filter, o.operator, o.rawValue, reason⟩ ∧
      error = .evaluation ⟨o.filter, o.operator, o.rawValue, reason⟩

/-- Testing an element rests on leaves of the query's tree: they are asked from left to right, they
decide the answer whatever the others are, and the last of them is the one that fails. -/
theorem test_rests_on_asked (q : Query κ ε) (valid : q.isValid = true) (x : ε) :
    ∃ t consulted, q.tree? = some t ∧ q.RestsOn x t consulted := by
  obtain ⟨errors, t, tree⟩ := exists_of_isValid valid
  -- the leaves are numbered, since equal leaves in two places may be given different values
  let ask := fun leaf : Leaf κ ε × Nat => q.ask x leaf.1
  have numbered : t.evaluate (q.ask x) = ((t.numbered 0).evaluate ask).rename Prod.fst :=
    t.evaluate_numbered (q.ask x) 0
  have answer : (t.evaluate (q.ask x)).answer = ((t.numbered 0).evaluate ask).answer :=
    congrArg Evaluation.answer numbered
  have answered {b : Bool} (h : q.test x = .ok b) :
      ((t.numbered 0).evaluate ask).answer = .ok b :=
    answer.symm.trans (answer_of_test errors tree h)
  have ends := (t.numbered 0).ends_evaluate ask
  refine ⟨t, ((t.numbered 0).evaluate ask).asked, tree, ?_⟩
  constructor
  case asked =>
    exact ⟨t.evaluate (q.ask x), evaluate_eq errors tree, congrArg Evaluation.asked numbered⟩
  case ordered =>
    rw [← Tree.leaves_numbered]
    exact Tree.sublist_asked ask _
  case answers =>
    intro b h
    exact ends.of_ok (answered h)
  case value =>
    intro b h v agrees
    exact Tree.value_of_asked (answered h) agrees
  case failure =>
    intro error h
    obtain ⟨failure, failed, rfl⟩ := failure_of_test errors tree h
    obtain ⟨before, ⟨leaf, i⟩, asked, fails, answers⟩ := ends.of_error (answer.symm.trans failed)
    obtain ⟨o, reason, rfl, test, rfl⟩ := exists_of_ask fails
    exact ⟨before, o, i, reason, asked, answers, test, rfl⟩

/-- A flag that is there settles the answer, and a missing one is the failure. -/
theorem test_rests_on_flag :
    flagged.Reachable ∧ (flagged.query "-flag:true red").isValid = true ∧
      (flagged.query "-flag:true red").test (some true) = .ok false ∧
      (∃ t consulted, (flagged.query "-flag:true red").tree? = some t ∧
        (flagged.query "-flag:true red").RestsOn (some true) t consulted) ∧
      ∃ o : Operation Empty (Option Bool),
        o.test none = .error ⟨o.filter, o.operator, o.rawValue, "no flag"⟩ ∧
        o.filter = "flag" ∧ o.operator = ":" ∧ o.rawValue = "true" := by
  have valid : (flagged.query "-flag:true red").isValid = true := by decide +kernel
  have settled : (flagged.query "-flag:true red").test (some true) = .ok false := by
    decide +kernel
  have missing : (flagged.query "-flag:true red").test none =
      .error (.evaluation ⟨"flag", ":", "true", "no flag"⟩) := by
    decide +kernel
  obtain ⟨_, _, _, rests⟩ := test_rests_on_asked _ valid none
  obtain ⟨_, o, _, reason, _, _, test, carried⟩ := rests.failure _ missing
  obtain ⟨filter, operator, value, reason⟩ := Failure.mk.inj (EngineError.evaluation.inj carried)
  refine ⟨reachable_flagged, valid, settled, test_rests_on_asked _ valid (some true), o, ?_,
    filter.symm, operator.symm, value.symm⟩
  rw [test, reason]

end Query

end Sift
