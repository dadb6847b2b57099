import Sift.Proofs.Identifiers
import Sift.Running

/-!
# Sealed engines

What an engine remembers is what it would work out again (`Engine.Agrees`). Reading with such a
memory gives what reading without one does, and leaves such a memory behind (`Engine.Recalls`); so
the queries of a sealed engine do not depend on what it has been asked for before
(`Running.RunsSealed.run`).
-/

namespace Sift

open Text

namespace Engine

variable {κ ε : Type} (e : Engine κ ε)

/-- Whether a memory holds nothing but what the engine's handlers say. -/
def Agrees (memory : Memory) : Prop := ∀ entry ∈ memory, entry.2 = e.candidates entry.1.1 entry.1.2

/-- Whether a computation gives a result with any memory that agrees, and leaves one that does. -/
def Recalls {α : Type} (m : StateM Memory α) (a : α) : Prop :=
  ∀ memory, e.Agrees memory → (m.run memory).1 = a ∧ e.Agrees (m.run memory).2

variable {e}

namespace Recalls

variable {α β : Type} {m : StateM Memory α} {f : α → StateM Memory β} {a : α} {b : β}

/-- What asks for nothing recalls its result. -/
lemma pure (a : α) : e.Recalls (Pure.pure a) a := fun _ agrees => ⟨rfl, agrees⟩

/-- What recalls a value and goes on with it recalls the result. -/
lemma bind (first : e.Recalls m a) (next : e.Recalls (f a) b) : e.Recalls (m >>= f) b := by
  intro memory agrees
  obtain ⟨result, agrees⟩ := first memory agrees
  have next := next _ agrees
  rwa [← result] at next

end Recalls

/-- Types that are remembered are those that would be worked out. -/
lemma recalls_recallTypes (op : String) (left : ValueType) :
    e.Recalls (e.recallTypes op left) (e.candidates op left) := by
  intro memory agrees
  change (e.recallTypes op left memory).1 = _ ∧ e.Agrees (e.recallTypes op left memory).2
  rw [recallTypes]
  cases found : memory.lookup (op, left) with
  | none => exact ⟨rfl, List.forall_mem_cons.2 ⟨rfl, agrees⟩⟩
  | some types =>
    obtain ⟨before, behind, rfl, -⟩ := List.lookup_eq_some_iff.1 found
    have mem : ((op, left), types) ∈ before ++ ((op, left), types) :: behind :=
      List.mem_append_right before List.mem_cons_self
    exact ⟨agrees _ mem, agrees⟩

/-- A value is inferred from memory as it is without. -/
lemma recalls_recallValue? {o : Operator κ} (found : e.operator? o.token = some o)
    (left : ValueType) (raw : String) :
    e.Recalls (e.recallValue? o.token left raw) (e.inferValue? o left raw) := by
  rw [recallValue?, inferValue?, List.findSome?_append]
  cases e.customParsers.findSome? (·.parse raw) with
  | some v => exact .pure _
  | none =>
    have types : e.candidates o.token left = o.rightTypes left := by rw [candidates, found]; rfl
    refine (recalls_recallTypes o.token left).bind ?_
    rw [types]
    exact .pure _

/-- A value is read with memory as it is without. -/
lemma recalls_recallDecider {o : Operator κ} (found : e.operator? o.token = some o)
    (f : Filter κ ε) (raw : String) :
    e.Recalls (e.recallDecider f o raw) (e.readValue f o raw) := by
  rw [recallDecider]
  cases access : f.access with
  | resolver resolve => exact .pure _
  | getter get =>
    refine (recalls_recallValue? found f.type raw).bind ?_
    rw [readValue, access]
    cases e.inferValue? o f.type raw with
    | none => exact .pure _
    | some v =>
      dsimp only
      cases o.resolve? f.type v.type with
      | none => exact .pure _
      | some h => exact .pure _

/-- An operation is made with memory as it is without. -/
lemma recalls_recallOperation (f : Filter κ ε) (c : Clause) :
    e.Recalls (e.recallOperation f c) (e.operation f c) := by
  rw [recallOperation, operation]
  cases found : e.operator? (String.ofList c.operator) with
  | none => exact .pure _
  | some o =>
    have token : o.token = String.ofList c.operator := by simpa using List.find?_some found
    dsimp only
    split
    · exact .pure _
    · cases e.readParam f (lowercaseString (String.ofList c.token)) c.param with
      | error fault => exact .pure _
      | ok param? =>
        refine (recalls_recallDecider (token ▸ found) f _).bind ?_
        cases e.readValue f o (String.ofList (unquote c.value)) with
        | error fault => exact .pure _
        | ok decided => exact .pure _

/-- A clause is read with memory as it is without. -/
lemma recalls_recallClause (c : Clause) : e.Recalls (e.recallClause c) (e.readClause c) := by
  rw [recallClause]
  cases found : e.filter? (lowercaseString (String.ofList c.token)) with
  | none => exact .pure _
  | some f =>
    have known : e.readClause c = (e.operation f c).map some := by rw [readClause, found]
    rw [known]
    exact (recalls_recallOperation f c).bind (.pure _)

/-- A term that is read with a memory means what it means without. -/
lemma recalls_recallTerm (t : Term) : e.Recalls (e.recallTerm t) (e.readTerm t) := by
  cases t with
  | word w => exact .pure _
  | clause c =>
    rw [recallTerm, readTerm]
    refine (recalls_recallClause c).bind ?_
    cases e.readClause c with
    | ok o? => exact .pure _
    | error fault => exact .pure _

/-- The terms of a text are read with memory as they are without. -/
lemma recalls_recallTerms (terms : List Term) :
    e.Recalls (e.recallTerms terms) (terms.map fun t => (t, e.readTerm t)) := by
  induction terms with
  | nil => exact .pure _
  | cons t behind ih => exact (recalls_recallTerm t).bind (ih.bind (.pure _))

end Engine

/-! The terms that are reached decide what an outline is read as. -/

/-- It does not matter how a reading would go on with results that it does not have. -/
lemma Recorded.andThen_congr {α β : Type} {r : Recorded α} {f g : α → Recorded β}
    (same : ∀ a, r.result? = some a → f a = g a) : r.andThen f = r.andThen g := by
  rw [andThen, andThen]
  cases result : r.result? with
  | none => rfl
  | some a => exact congrArg (behind r.errors) (same a result)

variable {α : Type} {read read' : Term → Except QueryError (Option α)} {o : Outline}

/-- Reading reaches the end of an outline if it is complete. -/
lemma Outline.reached_isComplete (o : Outline) : o.reached.2 = o.isComplete := by
  induction o with
  | done | broken => rfl
  | blank _ next ih | combinator _ _ next ih | term _ next ih => exact ih
  | group inner next ihInner ihNext =>
    rw [reached, isComplete, ← ihInner, ← ihNext]
    split <;> simp_all

/-- The terms inside a group are reached, and those behind it if the group is complete. -/
lemma Outline.forall_mem_reached_group {P : Term → Prop} {inner next : Outline}
    (all : ∀ t ∈ (group inner next).reached.1, P t) :
    (∀ t ∈ inner.reached.1, P t) ∧ (inner.isComplete = true → ∀ t ∈ next.reached.1, P t) := by
  rw [reached] at all
  rw [← reached_isComplete]
  split at all
  · next within e =>
    rw [e]
    exact ⟨all, nofun⟩
  · next within e =>
    rw [e]
    obtain ⟨within, behind⟩ := List.forall_mem_append.1 all
    exact ⟨within, fun _ => behind⟩

/-- The row of a level depends on the terms that are reached only. -/
lemma Outline.row_congr (same : ∀ t ∈ o.reached.1, read t = read' t) :
    o.row read = o.row read' := by
  induction o with
  | done | broken => rfl
  | blank _ next ih => exact ih same
  | combinator k s next ih => rw [row, row, ih same]
  | term t next ih =>
    obtain ⟨here, behind⟩ := List.forall_mem_cons.1 same
    rw [row, row, readLeaf, readLeaf, here, ih behind]
  | group inner next ihInner ihNext =>
    obtain ⟨within, behind⟩ := forall_mem_reached_group same
    rw [row, row, ihInner within]
    refine Recorded.andThen_congr fun tree? combined => ?_
    obtain ⟨row, result, -⟩ := Recorded.exists_of_andThen combined
    rw [ihNext (behind (isComplete_of_row result))]

namespace Graph

variable {g : Graph (Option α)}

/-- An outline whose nodes stand in a row has been read to its end. -/
lemma isComplete_of_plant {row : List Nat} (h : (g.plant read o).2 = some row) :
    o.isComplete = true := by
  induction o generalizing g row with
  | done => rfl
  | broken => cases h
  | blank _ next ih => exact ih h
  | combinator k s next ih | term t next ih =>
    obtain ⟨row, behind, -⟩ := Option.map_eq_some_iff.1 h
    exact ih behind
  | group inner next ihInner ihNext =>
    rw [plant] at h
    rw [Outline.isComplete, Bool.and_eq_true]
    split at h
    · cases h
    · next g' row' within =>
      split at h
      · cases h
      · obtain ⟨row, behind, -⟩ := Option.map_eq_some_iff.1 h
        exact ⟨ihInner (congrArg Prod.snd within), ihNext behind⟩

/-- The nodes of a level depend on the terms that are reached only. -/
lemma plant_congr (same : ∀ t ∈ o.reached.1, read t = read' t) :
    g.plant read o = g.plant read' o := by
  induction o generalizing g with
  | done | broken => rfl
  | blank _ next ih => exact ih same
  | combinator k s next ih => rw [plant, plant, ih same]
  | term t next ih =>
    obtain ⟨here, behind⟩ := List.forall_mem_cons.1 same
    rw [plant, plant, here, ih behind]
  | group inner next ihInner ihNext =>
    obtain ⟨within, behind⟩ := Outline.forall_mem_reached_group same
    rw [plant, plant, ihInner within]
    cases planted : g.plant read' inner with
    | mk g' row? =>
      cases row? with
      | none => rfl
      | some row =>
        have complete := isComplete_of_plant (congrArg Prod.snd planted)
        simp only [ihNext (behind complete)]

/-- The graph of an outline depends on the terms that are reached only. -/
lemma grow_congr (same : ∀ t ∈ o.reached.1, read t = read' t) : grow read o = grow read' o := by
  rw [grow, grow, plant_congr same]

end Graph

/-- A term that is reached is one of the outline. -/
lemma Outline.mem_terms_of_reached {o : Outline} {t : Term} (mem : t ∈ o.reached.1) :
    t ∈ o.terms := by
  induction o with
  | done | broken => exact mem
  | blank _ next ih | combinator _ _ next ih => exact ih mem
  | term u next ih =>
    rcases List.mem_cons.1 mem with rfl | mem
    · exact List.mem_cons_self
    · exact List.mem_cons_of_mem u (ih mem)
  | group inner next ihInner ihNext =>
    rw [reached] at mem
    split at mem
    · next within e => exact List.mem_append_left _ (ihInner (by rwa [e]))
    · next within e =>
      rcases List.mem_append.1 mem with mem | mem
      · exact List.mem_append_left _ (ihInner (by rwa [e]))
      · exact List.mem_append_right _ (ihNext mem)

/-- Engines of the same operators, source and options give a text the same query and graph if its
clauses mean the same to them. -/
lemma Engine.query_congr {κ ε : Type} {e e' : Engine κ ε} {text : String}
    (operators : e'.operators = e.operators) (source : e'.searchSource? = e.searchSource?)
    (options : e'.options = e.options)
    (clauses : ∀ c, .clause c ∈ (e.outline text).terms → e'.readClause c = e.readClause c) :
    e'.query text = e.query text ∧ e'.graph? text = e.graph? text := by
  have outline : e'.outline text = e.outline text := by
    rw [outline, outline, operatorTexts, operatorTexts, operatorTokens, operatorTokens, operators]
  have readings : ∀ t ∈ (e.outline text).reached.1, e'.readTerm t = e.readTerm t := by
    intro t mem
    cases t with
    | word w => rw [readTerm, readTerm, source, options]
    | clause c => simp only [readTerm, clauses c (Outline.mem_terms_of_reached mem)]
  constructor
  · simp only [query, reading, outline, Outline.tree, Outline.row_congr readings, source, options]
  · rw [graph?, graph?, outline, Graph.grow_congr readings]

/-- A sealed engine refuses every call. -/
lemma Engine.configure_of_isSealed {κ ε : Type} {e : Engine κ ε} (h : e.isSealed = true)
    (c : Call κ ε) : e.configure c = .error (.isSealed c.setting) := by
  have refused (what : Setting) : e.unsealed what = .error (.isSealed what) := by
    rw [unsealed, if_pos h]
  cases c with
  | registerFilter => rw [configure, registerFilter, refused]; rfl
  | removeFilter => rw [configure, removeFilter, refused]; rfl
  | registerOperator => rw [configure, registerOperator, refused]; rfl
  | registerHandler => rw [configure, registerHandler, refused]; rfl
  | registerParser => rw [configure, registerParser, refused]; rfl
  | setDefaultFilter => rw [configure, setDefaultFilter, refused]; rfl
  | setSearchSource => rw [configure, setSearchSource, refused]; rfl
  | setValidation => rw [configure, setValidation, refused]; rfl
  | setComparison => rw [configure, setComparison, refused]; rfl

namespace Running

variable {κ ε : Type} {s : Running κ ε} {e : Engine κ ε}

/-- With a memory that agrees a text has the query and the graph that it has without one. -/
lemma parse_of_agrees (agrees : s.engine.Agrees s.memory) (text : String) :
    (s.parse text).1 = (s.engine.query text, s.engine.graph? text) ∧
      s.engine.Agrees (s.parse text).2.memory := by
  obtain ⟨meanings, agrees⟩ :=
    Engine.recalls_recallTerms (s.engine.outline text).reached.1 s.memory agrees
  refine ⟨?_, agrees⟩
  have same : ∀ t ∈ (s.engine.outline text).reached.1,
      (((s.engine.recallTerms (s.engine.outline text).reached.1).run s.memory).1.lookup t).getD
        (.ok none) = s.engine.readTerm t := by
    intro t mem
    rw [meanings, List.lookup_graph _ mem]
    rfl
  have row := Outline.row_congr same
  have grown := Graph.grow_congr same
  simp only [parse, Engine.query, Engine.reading, Engine.graph?, Outline.tree, row, grown]

/-- Whether an engine runs sealed and with a memory that agrees. -/
structure RunsSealed (e : Engine κ ε) (s : Running κ ε) : Prop where
  engine : s.engine = { e with isSealed := true }
  agrees : e.Agrees s.memory

/-- What an engine answers once it is sealed. -/
def answer (e : Engine κ ε) : Action κ ε → Answer κ ε
  | .call c => .called (.error (.isSealed c.setting))
  | .parse text => .parsed (e.query text) (e.graph? text)

/-- A call changes nothing any more. -/
lemma RunsSealed.configure (h : s.RunsSealed e) (c : Call κ ε) :
    s.configure c = (.error (.isSealed c.setting), s) := by
  rw [Running.configure, Engine.configure_of_isSealed (by rw [h.engine])]

/-- A sealed engine makes the query of a text, and stays sealed. -/
lemma RunsSealed.parse (h : s.RunsSealed e) (text : String) :
    (s.parse text).1 = (e.query text, e.graph? text) ∧ (s.parse text).2.RunsSealed e := by
  obtain ⟨⟨_, memory⟩, rfl, agrees⟩ := s, h
  obtain ⟨result, agrees⟩ := parse_of_agrees (s := ⟨{ e with isSealed := true }, memory⟩) agrees text
  exact ⟨result, rfl, agrees⟩

/-- An action answers what it answers of itself and leaves the engine sealed. -/
lemma RunsSealed.act (h : s.RunsSealed e) (action : Action κ ε) :
    (s.act action).1 = answer e action ∧ (s.act action).2.RunsSealed e := by
  cases action with
  | call c =>
    rw [Running.act, h.configure]
    exact ⟨rfl, h⟩
  | parse text =>
    obtain ⟨result, h⟩ := h.parse text
    refine ⟨?_, h⟩
    rw [Running.act, answer]
    simp only [result]

/-- A sealed engine gives each answer as it would give it first. -/
lemma RunsSealed.run (h : s.RunsSealed e) (actions : List (Action κ ε)) :
    (s.run actions).1 = actions.map (answer e) ∧ (s.run actions).2.RunsSealed e := by
  induction actions generalizing s with
  | nil => exact ⟨rfl, h⟩
  | cons action later ih =>
    obtain ⟨first, h⟩ := h.act action
    obtain ⟨behind, h⟩ := ih h
    exact ⟨congrArg₂ List.cons first behind, h⟩

/-- Nothing is remembered before the first query. -/
lemma memory_configured (options : Options) (calls : List (Call κ ε)) :
    (configured options calls).memory = [] := by
  refine List.foldlRecOn (motive := fun s : Running κ ε => s.memory = []) calls _ rfl
    fun s none c _ => ?_
  rw [Running.configure]
  split
  · exact none
  · rw [none]
    exact ite_self []

/-- After an engine has been configured and has made its first query it refuses every call, which
leaves it as it is, and the query and the graph of a text are those that it would have made first,
which are those of the engine without a memory, whatever it has been asked for before. What it
remembers then are the types that its handlers ask for. -/
theorem run_after_first_query (options : Options) (calls : List (Call κ ε)) (first : String)
    (actions : List (Action κ ε)) :
    let s := configured options calls
    let later := (s.parse first).2.run actions
    later.1 = actions.map (fun
      | .call c => .called (.error (.isSealed c.setting))
      | .parse text => .parsed (s.parse text).1.1 (s.parse text).1.2) ∧
    (∀ c, later.2.configure c = (.error (.isSealed c.setting), later.2)) ∧
    (∀ text, (later.2.parse text).1 = (s.parse text).1 ∧
      (s.parse text).1 = (s.engine.query text, s.engine.graph? text)) ∧
    later.2.engine = { s.engine with isSealed := true } ∧
    ∀ op left types, ((op, left), types) ∈ later.2.memory →
      types = s.engine.candidates op left := by
  intro s later
  have agrees : s.engine.Agrees s.memory := by
    rw [memory_configured options calls]
    nofun
  have parse (text : String) : (s.parse text).1 = (s.engine.query text, s.engine.graph? text) :=
    (parse_of_agrees agrees text).1
  have start : (s.parse first).2.RunsSealed s.engine := ⟨rfl, (parse_of_agrees agrees first).2⟩
  obtain ⟨answers, h⟩ := start.run actions
  refine ⟨?_, h.configure, fun text => ⟨?_, parse text⟩, h.engine,
    fun op left types mem => h.agrees _ mem⟩
  · refine answers.trans (List.map_congr_left fun action _ => ?_)
    cases action with
    | call c => rfl
    | parse text => simp only [answer, parse]
  · rw [parse]
    exact (h.parse text).1

end Running

end Sift
