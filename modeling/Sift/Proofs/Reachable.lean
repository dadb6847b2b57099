import Mathlib.Tactic.Lemma
import Sift.Proofs.Lowercase
import Sift.Query.Basic

/-!
# Reachable engines

An engine comes about by changes that it does not refuse and by the queries that seal it. What they
can do to it is said once (`Step.change`). Whatever the changes are, the tokens of its operators stay
what an operator's token may be (`Reachable.isOperatorToken`), those of its filters what a filter's
may be (`Reachable.isFilterToken`), and its handlers compare members of two host types
(`Reachable.isMade`).
-/

namespace Sift

open Text

/-- Whether a handler compares members of two host types. -/
def Handler.IsMade {κ : Type} (h : Handler κ) : Prop :=
  ∃ (α β : Type) (L : HostType κ α) (R : HostType κ β) (decide : α → β → Comparison → Bool),
    h = .of L R decide

/-- Whether a parser reads members of a host type of its type. -/
def ValueParser.IsReading {κ : Type} (p : ValueParser κ) : Prop :=
  ∃ (α : Type) (h : HostType κ α) (read : String → Option α), p = .reading h read

/-- The parser of a host type reads members of it. -/
lemma ValueParser.isReading_of? {κ α : Type} {h : HostType κ α} {p : ValueParser κ}
    (found : of? h = some p) : p.IsReading := by
  obtain ⟨read, -, rfl⟩ := Option.map_eq_some_iff.1 found
  exact ⟨α, h, read, rfl⟩

/-- A handler is for the types of its two sides. -/
lemma Handler.isFor_iff {κ : Type} {h : Handler κ} {left right : ValueType} :
    h.isFor left right = true ↔ h.left = left ∧ h.right = right := by
  rw [isFor, Bool.and_eq_true, beq_iff_eq, beq_iff_eq]

/-- A handler takes the place of the first one for the same types, or stands behind all others. -/
lemma Operator.place_cases {κ : Type} (h : Handler κ) (handlers : List (Handler κ)) :
    (∃ before g after, handlers = before ++ g :: after ∧
      (∀ g ∈ before, ¬g.isFor h.left h.right = true) ∧ g.isFor h.left h.right = true ∧
      place h handlers = before ++ h :: after) ∨
    (∀ g ∈ handlers, ¬g.isFor h.left h.right = true) ∧ place h handlers = handlers ++ [h] := by
  induction handlers with
  | nil => exact .inr ⟨nofun, rfl⟩
  | cons g later ih =>
    rw [place]
    split
    · next same => exact .inl ⟨[], g, later, rfl, nofun, same, rfl⟩
    · next other =>
      rcases ih with ⟨before, g', after, rfl, others, same, placed⟩ | ⟨others, placed⟩
      · exact .inl ⟨g :: before, g', after, rfl, List.forall_mem_cons.2 ⟨other, others⟩, same,
          congrArg (g :: ·) placed⟩
      · exact .inr ⟨List.forall_mem_cons.2 ⟨other, others⟩, congrArg (g :: ·) placed⟩

/-- Placing a handler adds no other one. -/
lemma Operator.mem_place {κ : Type} {g h : Handler κ} {handlers : List (Handler κ)}
    (mem : g ∈ place h handlers) : g = h ∨ g ∈ handlers := by
  rcases place_cases h handlers with ⟨before, g', after, rfl, -, -, placed⟩ | ⟨-, placed⟩
  · rw [placed, List.mem_append, List.mem_cons] at mem
    rcases mem with mem | same | mem
    · exact .inr (List.mem_append_left _ mem)
    · exact .inl same
    · exact .inr (List.mem_append_right _ (List.mem_cons_of_mem g' mem))
  · rw [placed, List.mem_append, List.mem_singleton] at mem
    exact mem.symm

/-- The handlers of a relation. -/
lemma Relation.handler_cases {κ : Type} {r : Relation} {h : Handler κ}
    (mem : h ∈ r.operator.handlers) :
    h = r.looseHandler ∨ h = r.stringHandler ∨ h = r.intHandler ∨ h = r.floatHandler ∨
      h = r.boolHandler := by
  simp only [operator, List.mem_append, List.mem_cons, List.not_mem_nil, or_false] at mem
  rcases mem with (same | same | same | same) | mem
  · exact .inl same
  · exact .inr (.inl same)
  · exact .inr (.inr (.inl same))
  · exact .inr (.inr (.inr (.inl same)))
  · split at mem
    · exact .inr (.inr (.inr (.inr (List.mem_singleton.1 mem))))
    · cases mem

namespace Engine

variable {κ ε : Type}

/-- One change of an engine, or one query. -/
inductive Step (e : Engine κ ε) : Engine κ ε → Prop where
  | registerFilter {e'} (f : Filter κ ε) :
    e.registerFilter f = .ok e' →
    Step e e'
  | removeFilter {e'} (token : String) (found : Bool) :
    e.removeFilter token = .ok (found, e') →
    Step e e'
  | registerOperator {e'} (token : String) :
    e.registerOperator token = .ok e' →
    Step e e'
  | registerHandler {e' α β} (op : String) (L : HostType κ α) (R : HostType κ β)
      (decide : α → β → Comparison → Bool) :
    e.registerHandler op L R decide = .ok e' →
    Step e e'
  | registerParser {e' α} (h : HostType κ α) (read : String → Option α) :
    e.registerParser h read = .ok e' →
    Step e e'
  | setDefaultFilter {e'} (decide : DefaultFilter ε) :
    e.setDefaultFilter decide = .ok e' →
    Step e e'
  | setSearchSource {e'} (source : SearchSource ε) :
    e.setSearchSource source = .ok e' →
    Step e e'
  | setValidation {e'} (validation : Validation) :
    e.setValidation validation = .ok e' →
    Step e e'
  | setComparison {e'} (comparison : Comparison) :
    e.setComparison comparison = .ok e' →
    Step e e'
  | parse (text : String) :
    Step e (e.parse text).2

/-- The engines that can come about. -/
inductive Reachable : Engine κ ε → Prop where
  | withOptions (options : Options) :
    Reachable (.withOptions options)
  | step {e e'} :
    Reachable e →
    Step e e' →
    Reachable e'

variable {e e' : Engine κ ε}

/-- What is not refused has been done to the engine itself. -/
lemma of_unsealed {α : Type} {what : Setting} {a : α} {f : Engine κ ε → Except EngineError α}
    (h : (e.unsealed what >>= f) = .ok a) : f e = .ok a := by
  rw [unsealed] at h
  split at h
  · cases h
  · exact h

/-- A result without its flag. -/
lemma ok_of_map {r : Except EngineError (Engine κ ε)} {flag flag' : Bool}
    (h : r.map (flag, ·) = .ok (flag', e')) : r = .ok e' := by
  cases r with
  | error => cases h
  | ok => cases h; rfl

/-- A filter that is taken stands behind the others, none of which has its token. -/
lemma registerFilter_eq {f : Filter κ ε} (done : e.registerFilter f = .ok e') :
    e.exactFilter? (lowercaseString f.token) = none ∧
      e' = { e with
        filters := e.filters ++ [{ f with token := lowercaseString f.token }]
        parsers := f.parsers.foldl ValueParser.addMissing e.parsers } := by
  have done := of_unsealed done
  split at done
  · cases done
  · next unopposed =>
    cases done
    refine ⟨?_, rfl⟩
    rw [objection?] at unopposed
    split at unopposed
    · cases unopposed
    · split at unopposed
      · cases unopposed
      · next absent => simpa using absent

/-- What the changes that are not refused do: the guards that they have passed, and what becomes of
the engine. -/
inductive Change (e : Engine κ ε) : Engine κ ε → Prop where
  | addFilter (f : Filter κ ε) :
    e.objection? f = none →
    lowercaseString f.token = f.token →
    Change e { e with
      filters := e.filters ++ [f]
      parsers := f.parsers.foldl ValueParser.addMissing e.parsers }
  | removeFilter (token : String) :
    Change e { e with filters := e.filters.filter fun f => f.token ≠ token }
  | addOperator (token : String) :
    Sift.isOperatorToken token = true →
    e.operator? token = none →
    Change e { e with operators := e.operators ++ [⟨token, []⟩] }
  | addHandler (op : String) (h : Handler κ) (parsers : List (ValueParser κ)) :
    h.IsMade →
    (∀ p ∈ parsers, p.IsReading) →
    Change e { e with
      operators := e.operators.map fun o => if o.token == op then o.add h else o
      parsers := parsers.foldl ValueParser.addMissing e.parsers }
  | addParser (p : ValueParser κ) :
    p.IsReading →
    Change e { e with
      customParsers := ValueParser.place p e.customParsers
      parsers := ValueParser.place p e.parsers }
  | set (options : Options) (decide? : Option (DefaultFilter ε)) (source? : Option (SearchSource ε))
      (isSealed : Bool) :
    Change e { e with
      options := options
      defaultFilter? := decide?
      searchSource? := source?
      isSealed := isSealed }

/-- A step that is not refused changes one part of the engine, or sets values that others do not
depend on. -/
lemma Step.change (st : Step e e') : Change e e' := by
  cases st with
  | registerFilter f h =>
    have h := of_unsealed h
    split at h
    · cases h
    · next none =>
      cases h
      exact .addFilter _ none (lowercaseString_idem f.token)
  | removeFilter token found h =>
    cases of_unsealed h
    exact .removeFilter _
  | registerOperator token h =>
    have h := of_unsealed h
    split at h
    · cases h
    · next valid =>
      split at h
      · cases h
        exact .set _ _ _ _
      · next absent =>
        cases h
        exact .addOperator token (by simpa using valid) (by simpa using absent)
  | registerHandler op L R decide h =>
    have h := of_unsealed h
    split at h
    · cases h
    · cases h
      -- the host types of the two sides may both bring a parser along
      refine .addHandler _ _ _ ⟨_, _, L, R, decide, rfl⟩ fun p mem => ?_
      rcases List.mem_append.1 mem with mem | mem
      · exact ValueParser.isReading_of? (Option.mem_toList.1 mem)
      · exact ValueParser.isReading_of? (Option.mem_toList.1 mem)
  | registerParser h read done =>
    cases of_unsealed done
    exact .addParser _ ⟨_, h, read, rfl⟩
  | setDefaultFilter decide h =>
    cases of_unsealed h
    exact .set _ _ _ _
  | setSearchSource source h =>
    cases of_unsealed h
    exact .set _ _ _ _
  | setValidation validation h =>
    cases of_unsealed h
    exact .set _ _ _ _
  | setComparison comparison h =>
    cases of_unsealed h
    exact .set _ _ _ _
  | parse text => exact .set _ _ _ _

/-- A handler does not change the token of its operator. -/
lemma operatorTokens_map_add (op : String) (h : Handler κ) (operators : List (Operator κ)) :
    (operators.map fun o => if o.token == op then o.add h else o).map Operator.token =
      operators.map Operator.token := by
  rw [List.map_map]
  refine List.map_congr_left fun o _ => ?_
  rw [Function.comp]
  split <;> rfl

/-- A change leaves the tokens of the operators as they are, or adds one that it has checked. -/
lemma Change.operatorTokens (ch : Change e e') :
    e'.operatorTokens = e.operatorTokens ∨
      ∃ token, Sift.isOperatorToken token = true ∧
        e'.operatorTokens = e.operatorTokens ++ [token] := by
  cases ch with
  | addOperator token valid => exact .inr ⟨token, valid, List.map_append⟩
  | addHandler op h => exact .inl (operatorTokens_map_add op h e.operators)
  | addFilter | removeFilter | addParser | set => exact .inl rfl

/-- The tokens of the operators of a reachable engine are tokens of operators. -/
lemma Reachable.isOperatorToken (reach : e.Reachable) :
    ∀ token ∈ e.operatorTokens, Sift.isOperatorToken token = true := by
  induction reach with
  | withOptions options =>
    have all : ∀ r ∈ Relation.all, Sift.isOperatorToken r.token = true := by decide
    have tokens : (Engine.withOptions options : Engine κ ε).operatorTokens =
        Relation.all.map Relation.token := List.map_map
    rw [tokens]
    exact List.forall_mem_map.2 all
  | step _ st ih =>
    rcases st.change.operatorTokens with same | ⟨token, valid, added⟩
    · rwa [same]
    · rw [added]
      exact List.forall_mem_append.2 ⟨ih, by simpa using valid⟩

/-- Nothing is said against a filter only if its token can be one. -/
lemma isFilterToken_of_objection? {f : Filter κ ε} (h : e.objection? f = none) :
    Sift.isFilterToken f.token = true := by
  rw [objection?] at h
  split at h
  · cases h
  · next valid => simpa using valid

/-- A filter that is there after a change was there before, or is the one that has been added. -/
lemma Change.filters (ch : Change e e') {f : Filter κ ε} (mem : f ∈ e'.filters) :
    f ∈ e.filters ∨ e.objection? f = none ∧ lowercaseString f.token = f.token ∧
      e' = { e with
        filters := e.filters ++ [f]
        parsers := f.parsers.foldl ValueParser.addMissing e.parsers } := by
  cases ch with
  | addFilter added none lowercase =>
    rcases List.mem_append.1 mem with mem | mem
    · exact .inl mem
    · cases List.mem_singleton.1 mem
      exact .inr ⟨none, lowercase, rfl⟩
  | removeFilter token => exact .inl (List.mem_filter.1 mem).1
  | addOperator | addHandler | addParser | set => exact .inl mem

/-- The tokens of the filters of a reachable engine are tokens of filters. -/
lemma Reachable.isFilterToken (reach : e.Reachable) :
    ∀ f ∈ e.filters, Sift.isFilterToken f.token = true := by
  induction reach with
  | withOptions options => exact fun f mem => absurd mem List.not_mem_nil
  | step _ st ih =>
    intro f mem
    rcases st.change.filters mem with old | ⟨none, -, -⟩
    · exact ih f old
    · exact isFilterToken_of_objection? none

/-- A handler that is there after a change was there before, or compares members of two host
types. -/
lemma Change.handlers (ch : Change e e') {o : Operator κ} (mem : o ∈ e'.operators) {h : Handler κ}
    (handles : h ∈ o.handlers) : (∃ o ∈ e.operators, h ∈ o.handlers) ∨ h.IsMade := by
  cases ch with
  | addOperator token =>
    rcases List.mem_append.1 mem with mem | mem
    · exact .inl ⟨o, mem, handles⟩
    · cases List.mem_singleton.1 mem
      cases handles
  | addHandler op added parsers made =>
    obtain ⟨o, old, rfl⟩ := List.mem_map.1 mem
    split at handles
    · rcases Operator.mem_place handles with rfl | handles
      · exact .inr made
      · exact .inl ⟨o, old, handles⟩
    · exact .inl ⟨o, old, handles⟩
  | addFilter | removeFilter | addParser | set => exact .inl ⟨o, mem, handles⟩

/-- The handlers of a reachable engine compare members of two host types. -/
lemma Reachable.isMade (reach : e.Reachable) :
    ∀ o ∈ e.operators, ∀ h ∈ o.handlers, h.IsMade := by
  induction reach with
  | withOptions options =>
    intro o mem h handles
    obtain ⟨r, -, rfl⟩ := List.mem_map.1 mem
    rcases Relation.handler_cases handles with rfl | rfl | rfl | rfl | rfl <;>
      exact ⟨_, _, _, _, _, rfl⟩
  | step _ st ih =>
    intro o mem h handles
    rcases st.change.handlers mem handles with ⟨o, mem, handles⟩ | made
    · exact ih o mem h handles
    · exact made

end Engine

end Sift
