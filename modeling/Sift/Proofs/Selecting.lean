import Sift.Proofs.Consultation
import Sift.Query.Selection

/-!
# What a selection yields and tests

A selection goes on from result to result. How far it goes for some results is said once, for a test
with any effects: they are those of the elements up to the one that gives the last result
(`Selection.takeAmong_eq`). A test that writes down what it is asked about then tells which elements
are tested, and what it is told about them are the results (`Query.selection_of_elements`).
-/

namespace Sift

/-- The result that an element gives, if it gives one: itself if it matches, or why it cannot be
tested. -/
def resultOf? {ε φ : Type} (test : ε → Except φ Bool) (x : ε) : Option (Except φ ε) :=
  match test x with
  | .ok true => some (.ok x)
  | .ok false => none
  | .error failure => some (.error failure)

section UpTo

variable {ε β : Type} (result? : ε → Option β)

/-- The elements up to the one that gives the `n`-th result; all of them if there are fewer. -/
def upTo : Nat → List ε → List ε
  | 0, _ => []
  | _ + 1, [] => []
  | n + 1, x :: rest => x :: upTo (if (result? x).isSome then n else n + 1) rest

/-- What has been looked at and the rest make up all elements. -/
lemma upTo_append_drop (n : Nat) (elements : List ε) :
    upTo result? n elements ++ elements.drop (upTo result? n elements).length = elements := by
  induction elements generalizing n with
  | nil => cases n <;> rfl
  | cons x rest ih =>
    cases n with
    | zero => rfl
    | succ n => exact congrArg (x :: ·) (ih _)

/-- The elements up to the `n`-th result give just the first `n` results. -/
lemma filterMap_upTo (n : Nat) (elements : List ε) :
    (upTo result? n elements).filterMap result? = (elements.filterMap result?).take n := by
  induction elements generalizing n with
  | nil => cases n <;> rfl
  | cons x rest ih =>
    cases n with
    | zero => rfl
    | succ n =>
      rw [upTo]
      cases h : result? x with
      | none => simp [h, ih]
      | some result => simp [h, ih]

/-- Where there are fewer results, all elements are there. -/
lemma upTo_of_length_lt {n : Nat} {elements : List ε}
    (fewer : (elements.filterMap result?).length < n) : upTo result? n elements = elements := by
  induction elements generalizing n with
  | nil => cases n <;> rfl
  | cons x rest ih =>
    obtain ⟨n, rfl⟩ := Nat.exists_eq_succ_of_ne_zero (Nat.ne_zero_of_lt fewer)
    rw [upTo]
    cases h : result? x with
    | none =>
      rw [List.filterMap_cons_none h] at fewer
      exact congrArg (x :: ·) (ih fewer)
    | some result =>
      rw [List.filterMap_cons_some h, List.length_cons] at fewer
      exact congrArg (x :: ·) (ih (Nat.lt_of_succ_lt_succ fewer))

/-- Where there are as many results, the last one of the elements gives the last one of the
results. -/
lemma exists_last_of_upTo {n : Nat} {elements : List ε}
    (enough : n + 1 ≤ (elements.filterMap result?).length) :
    ∃ before x, upTo result? (n + 1) elements = before ++ [x] ∧ (result? x).isSome = true ∧
      (before.filterMap result?).length = n := by
  induction elements generalizing n with
  | nil => cases enough
  | cons x rest ih =>
    rw [upTo]
    cases h : result? x with
    | none =>
      rw [List.filterMap_cons_none h] at enough
      obtain ⟨before, y, e, gives, count⟩ := ih enough
      refine ⟨x :: before, y, congrArg (x :: ·) e, gives, ?_⟩
      rwa [List.filterMap_cons_none h]
    | some result =>
      cases n with
      | zero => exact ⟨[], x, by rw [Option.isSome_some, if_pos rfl, upTo]; rfl, by rw [h]; rfl, rfl⟩
      | succ n =>
        rw [List.filterMap_cons_some h, List.length_cons] at enough
        obtain ⟨before, y, e, gives, count⟩ := ih (Nat.le_of_succ_le_succ enough)
        refine ⟨x :: before, y, congrArg (x :: ·) e, gives, ?_⟩
        rw [List.filterMap_cons_some h, List.length_cons, count]

end UpTo

namespace Selection

variable {κ ε : Type}

/-- A test that does something for an element and then answers. -/
def noting {m : Type → Type} [Monad m] (answer : ε → Except Failure Bool) (note : ε → m Unit)
    (x : ε) : m (Except Failure Bool) := do
  note x
  return answer x

/-- A test that writes down the elements it is asked about. -/
def recording (s : Selection κ ε) : ε → StateM (List ε) (Except Failure Bool) :=
  noting s.test fun x => modify (· ++ [x])

/-- The elements that are tested for `n` results, as they are written down. -/
def tested (s : Selection κ ε) (n : Nat) : List ε :=
  ((takeAmong s.recording n s.pending).run []).2

section Among

variable (answer : ε → Except Failure Bool)
  {m : Type → Type} [Monad m] [LawfulMonad m] (note : ε → m Unit)

/-- One element is tested at a time. A result of it is one of those that are asked for. -/
lemma takeAmong_cons (n : Nat) (x : ε) (rest : List ε) :
    takeAmong (noting answer note) (n + 1) (x :: rest) = (do
      note x
      match resultOf? answer x with
      | none => takeAmong (noting answer note) (n + 1) rest
      | some result =>
        let (results, pending) ← takeAmong (noting answer note) n rest
        pure (result :: results, pending)) := by
  rw [takeAmong, nextAmong?, noting, resultOf?]
  simp only [bind_assoc, pure_bind]
  congr 1
  funext _
  match answer x with
  | .ok true => simp
  | .ok false => simp [takeAmong]
  | .error failure => simp

/-- Whatever a test does beside answering is done for the elements up to the last result, in order,
and for no others. -/
lemma takeAmong_eq (n : Nat) (elements : List ε) :
    takeAmong (noting answer note) n elements = (do
      forM (upTo (resultOf? answer) n elements) note
      pure ((upTo (resultOf? answer) n elements).filterMap (resultOf? answer),
        elements.drop (upTo (resultOf? answer) n elements).length)) := by
  induction elements generalizing n with
  | nil => cases n <;> simp [takeAmong, nextAmong?, upTo]
  | cons x rest ih =>
    cases n with
    | zero => simp [takeAmong, upTo]
    | succ n =>
      rw [takeAmong_cons, upTo]
      cases h : resultOf? answer x with
      | none => simp [ih, h]
      | some result => simp [ih, h]

end Among

variable (s : Selection κ ε) (n : Nat)

/-- What is recorded on the way are the elements, in order. -/
lemma run_forM_modify (xs seen : List ε) :
    (forM xs fun x => (modify (· ++ [x]) : StateM (List ε) Unit)).run seen =
      ((), seen ++ xs) := by
  induction xs generalizing seen with
  | nil => simp; rfl
  | cons x xs ih =>
    rw [List.forM_cons]
    exact (ih (seen ++ [x])).trans (by simp)

/-- The results of a selection, and the elements behind them. -/
lemma take_eq : s.take n =
    ((upTo (resultOf? s.test) n s.pending).filterMap (resultOf? s.test),
      { s with pending := s.pending.drop (upTo (resultOf? s.test) n s.pending).length }) := by
  have idle (xs : List ε) : forM xs (fun _ => (pure () : Id Unit)) = pure () := by
    induction xs with
    | nil => rfl
    | cons x xs ih => exact ih
  have run := takeAmong_eq s.test (fun _ => (pure () : Id Unit)) n s.pending
  rw [idle] at run
  exact congrArg (fun run => (run.1, { s with pending := run.2 })) run

/-- Writing down the elements changes nothing else. -/
lemma run_recording : (takeAmong s.recording n s.pending).run [] =
    (((s.take n).1, (s.take n).2.pending), upTo (resultOf? s.test) n s.pending) := by
  rw [recording, takeAmong_eq, take_eq, StateT.run_bind, run_forM_modify]
  rfl

/-- What a selection has tested are the elements up to the last one needed. -/
lemma tested_eq : s.tested n = upTo (resultOf? s.test) n s.pending :=
  congrArg Prod.snd (s.run_recording n)

end Selection

section Collecting

variable {ε φ ψ : Type} {elements : List ε}

/-- An error of another kind is found at the same elements. -/
lemma resultOf?_mapError (test : ε → Except φ Bool) (f : φ → ψ) (x : ε) :
    resultOf? (fun x => (test x).mapError f) x = (resultOf? test x).map (Except.mapError f) := by
  rw [resultOf?, resultOf?]
  match test x with
  | .ok true => rfl
  | .ok false => rfl
  | .error failure => rfl

/-- The results of elements that can be tested are elements. -/
lemma exists_found {test : ε → Except φ Bool} (answers : ∀ x ∈ elements, (test x).isOk = true) :
    ∃ found : List ε, elements.filterMap (resultOf? test) = found.map .ok := by
  induction elements with
  | nil => exact ⟨[], rfl⟩
  | cons x rest ih =>
    obtain ⟨answer, answers⟩ := List.forall_mem_cons.1 answers
    obtain ⟨found, e⟩ := ih answers
    match h : test x with
    | .ok true =>
      have result : resultOf? test x = some (.ok x) := by rw [resultOf?, h]
      exact ⟨x :: found, by rw [List.filterMap_cons_some result, e]; rfl⟩
    | .ok false =>
      have result : resultOf? test x = none := by rw [resultOf?, h]
      exact ⟨found, by rw [List.filterMap_cons_none result, e]⟩
    | .error failure =>
      rw [h] at answer
      cases answer

/-- Results that are all elements are collected. -/
lemma mapM_id_ok (found : List ε) : (found.map .ok : List (Except φ ε)).mapM id = .ok found := by
  induction found with
  | nil => rfl
  | cons x found ih =>
    rw [List.map_cons, List.mapM_cons, ih]
    rfl

/-- Of results that are not all elements the first failure is left. -/
lemma mapM_id_error (found : List ε) (failure : φ) (later : List (Except φ ε)) :
    ((found.map .ok : List (Except φ ε)) ++ .error failure :: later).mapM id =
      .error failure := by
  induction found with
  | nil => rfl
  | cons x found ih =>
    rw [List.map_cons, List.cons_append, List.mapM_cons, ih]
    rfl

/-- An error of another kind is the first one at the same place. -/
lemma mapM_id_mapError (f : φ → ψ) (results : List (Except φ ε)) :
    (results.map (Except.mapError f)).mapM id = (results.mapM id).mapError f := by
  induction results with
  | nil => rfl
  | cons result results ih =>
    rw [List.map_cons, List.mapM_cons, List.mapM_cons, ih]
    cases result with
    | error failure => rfl
    | ok x => cases results.mapM id <;> rfl

end Collecting

namespace Query

variable {κ ε : Type} {q : Query κ ε} {t : Tree (Leaf κ ε)}

section Select

variable (errors : q.errors = []) (tree : q.tree? = some t) (elements : List ε)
include errors tree

/-- A query that can be tested selects from all elements. -/
lemma select_eq : q.select elements = .ok ⟨q, t, elements⟩ := by
  rw [select, testable, errors, tree]
  rfl

/-- A selection comes to the result of the query for each element. -/
lemma resultOf?_test (x : ε) : (resultOf? (Selection.test ⟨q, t, elements⟩) x).map
    (Except.mapError .evaluation) = resultOf? q.test x := by
  have test : q.test = fun x => (Selection.test ⟨q, t, elements⟩ x).mapError .evaluation := by
    funext x
    exact test_eq errors tree
  rw [test, resultOf?_mapError]

/-- The results of a selection are those of the query. -/
lemma filterMap_test (xs : List ε) :
    (xs.filterMap (resultOf? (Selection.test ⟨q, t, elements⟩))).map (Except.mapError .evaluation) =
      xs.filterMap (resultOf? q.test) := by
  rw [List.map_filterMap]
  exact congrArg (xs.filterMap ·) (funext (resultOf?_test errors tree elements))

/-- All results are collected. -/
lemma matchesOf_eq : q.matchesOf elements = (elements.filterMap (resultOf? q.test)).mapM id := by
  have all : (Selection.take ⟨q, t, elements⟩ elements.length).1 =
      elements.filterMap (resultOf? (Selection.test ⟨q, t, elements⟩)) := by
    rw [Selection.take_eq]
    exact (filterMap_upTo _ _ _).trans (List.take_of_length_le (List.length_filterMap_le _ _))
  rw [← filterMap_test errors tree elements, mapM_id_mapError, matchesOf, select_eq errors tree,
    ← all]
  simp only [bind, Except.bind]
  cases (Selection.take ⟨q, t, elements⟩ elements.length).1.mapM id <;> rfl

end Select

/-- What a selection among some elements does for `n` results. -/
structure Takes (q : Query κ ε) (elements : List ε) (s : Selection κ ε) (n : Nat) : Prop where
  /-- They are the first results that the elements give: the elements that match and the reasons why
  others cannot be tested, in order. -/
  results : (s.take n).1.map (Except.mapError .evaluation) =
    (elements.filterMap (resultOf? q.test)).take n
  /-- A test that writes down what it is asked about gives the same results. -/
  recorded : ((Selection.takeAmong s.recording n elements).run []).1 =
    ((s.take n).1, (s.take n).2.pending)
  /-- Every element is tested once, in order, or is still to be tested. -/
  tested : s.tested n ++ (s.take n).2.pending = elements
  /-- For no results none is tested. -/
  start : n = 0 → s.tested n = []
  /-- Where there are `n` results, the element tested last gives the last of them. -/
  last : 0 < n → n ≤ (elements.filterMap (resultOf? q.test)).length →
    ∃ before x, s.tested n = before ++ [x] ∧ (resultOf? q.test x).isSome = true ∧
      (before.filterMap (resultOf? q.test)).length + 1 = n
  /-- Where there are fewer, all are tested. -/
  all : (elements.filterMap (resultOf? q.test)).length < n → s.tested n = elements
  /-- What is left is the selection among the other elements. -/
  behind : q.select (s.take n).2.pending = .ok (s.take n).2

/-- A query without errors selects as it is said to. -/
lemma takes (errors : q.errors = []) (tree : q.tree? = some t) (elements : List ε) (n : Nat) :
    q.Takes elements ⟨q, t, elements⟩ n := by
  have results := filterMap_test errors tree elements
  have counts (xs : List ε) : (xs.filterMap (resultOf? (Selection.test ⟨q, t, elements⟩))).length =
      (xs.filterMap (resultOf? q.test)).length := by
    rw [← results, List.length_map]
  constructor
  case results =>
    rw [← results, ← List.map_take, ← filterMap_upTo, Selection.take_eq]
  case recorded => exact congrArg Prod.fst (Selection.run_recording ⟨q, t, elements⟩ n)
  case tested =>
    rw [Selection.tested_eq, Selection.take_eq]
    exact upTo_append_drop _ n elements
  case start =>
    rintro rfl
    rw [Selection.tested_eq, upTo]
  case last =>
    intro pos enough
    obtain ⟨m, rfl⟩ := Nat.exists_eq_add_one.2 pos
    rw [← counts] at enough
    obtain ⟨before, x, e, gives, count⟩ := exists_last_of_upTo _ enough
    rw [Selection.tested_eq]
    refine ⟨before, x, e, ?_, by rw [← counts, count]⟩
    rwa [← resultOf?_test errors tree elements x, Option.isSome_map]
  case all =>
    intro fewer
    rw [← counts] at fewer
    rw [Selection.tested_eq]
    exact upTo_of_length_lt _ fewer
  case behind =>
    rw [Selection.take_eq]
    exact select_eq errors tree _

/-- A selection gives, in the order of the elements, those that match and an error for each that
cannot be tested, and tests no element behind the one that gives the last result. All results
together are the matching elements, or the first error. -/
theorem selection_of_elements (q : Query κ ε) (valid : q.isValid = true) (elements : List ε) :
    (∃ s, q.select elements = .ok s ∧ ∀ n, q.Takes elements s n) ∧
    ((∀ x ∈ elements, (q.test x).isOk = true) →
      ∃ found, elements.filterMap (resultOf? q.test) = found.map .ok ∧
        q.matchesOf elements = .ok found) ∧
    ∀ before x after error, elements = before ++ x :: after →
      (∀ y ∈ before, (q.test y).isOk = true) → q.test x = .error error →
        q.matchesOf elements = .error error := by
  obtain ⟨errors, t, tree⟩ := exists_of_isValid valid
  refine ⟨⟨_, select_eq errors tree elements, takes errors tree elements⟩, fun answers => ?_, ?_⟩
  · obtain ⟨found, e⟩ := exists_found answers
    exact ⟨found, e, by rw [matchesOf_eq errors tree, e, mapM_id_ok]⟩
  · rintro before x after error rfl answers fails
    obtain ⟨found, e⟩ := exists_found answers
    have result : resultOf? q.test x = some (.error error) := by rw [resultOf?, fails]
    rw [matchesOf_eq errors tree, List.filterMap_append, e, List.filterMap_cons_some result,
      mapM_id_error]

/-- A flag that does not match, one that is missing and one that does; for the two results of these
three no other is tested. -/
theorem selection_of_flags :
    flagged.Reachable ∧ (flagged.query "-flag:true").isValid = true ∧
      (∃ s, (flagged.query "-flag:true").select [some true, none, some false, none] = .ok s ∧
        s.tested 2 = [some true, none, some false] ∧
        ∀ n, (flagged.query "-flag:true").Takes [some true, none, some false, none] s n) ∧
      (flagged.query "-flag:true").matchesOf [some true, none, some false, none] =
        .error (.evaluation ⟨"flag", ":", "true", "no flag"⟩) ∧
      ∃ found, [some true, some false].filterMap (resultOf? (flagged.query "-flag:true").test) =
          found.map .ok ∧
        (flagged.query "-flag:true").matchesOf [some true, some false] = .ok found := by
  have valid : (flagged.query "-flag:true").isValid = true := by decide +kernel
  obtain ⟨⟨s, selected, takes⟩, -, failed⟩ :=
    selection_of_elements _ valid [some true, none, some false, none]
  have tested : ((flagged.query "-flag:true").select [some true, none, some false, none]).map
      (·.tested 2) = .ok [some true, none, some false] := by decide +kernel
  rw [selected] at tested
  have first : ((flagged.query "-flag:true").test (some true)).isOk = true := by decide +kernel
  have second : ((flagged.query "-flag:true").test (some false)).isOk = true := by decide +kernel
  have missing : (flagged.query "-flag:true").test none =
      .error (.evaluation ⟨"flag", ":", "true", "no flag"⟩) := by decide +kernel
  refine ⟨reachable_flagged, valid, ⟨s, selected, Except.ok.inj tested, takes⟩, ?_, ?_⟩
  · exact failed [some true] none _ _ rfl (by simpa using first) missing
  · exact (selection_of_elements _ valid [some true, some false]).2.1
      (by simpa using ⟨first, second⟩)

end Query

end Sift
