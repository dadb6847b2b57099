import Sift.Proofs.Reachable
import Sift.Proofs.Sealing

/-!
# Runs

A running engine is asked for changes and queries in any order, and refuses some of them. Whatever it
has been through, its engine is one that steps lead to (`Running.after_induction`), its filters are
those that it has been asked to register, under their tokens in lowercase (`Running.asked_after`), and
what it remembers has no say in its queries (`Running.parse_after`).
-/

namespace Sift

open Text

variable {κ ε : Type}

namespace Engine

variable {e e' : Engine κ ε}

/-- A call that is not refused is a step. -/
lemma step_of_configure {c : Call κ ε} {flag : Bool} (done : e.configure c = .ok (flag, e')) :
    Step e e' := by
  cases c with
  | registerFilter f => exact .registerFilter f (ok_of_map done)
  | removeFilter token => exact .removeFilter token flag done
  | registerOperator token => exact .registerOperator token (ok_of_map done)
  | registerHandler op L R decide => exact .registerHandler op L R decide (ok_of_map done)
  | registerParser h read => exact .registerParser h read (ok_of_map done)
  | setDefaultFilter decide => exact .setDefaultFilter decide (ok_of_map done)
  | setSearchSource source => exact .setSearchSource source (ok_of_map done)
  | setValidation validation => exact .setValidation validation (ok_of_map done)
  | setComparison comparison => exact .setComparison comparison (ok_of_map done)

/-- A filter that is there after a call was there before, or is the one that the call registers. -/
lemma filters_of_configure {c : Call κ ε} {flag : Bool} (done : e.configure c = .ok (flag, e'))
    {f : Filter κ ε} (mem : f ∈ e'.filters) :
    f ∈ e.filters ∨
      ∃ g, c = .registerFilter g ∧ f = { g with token := lowercaseString g.token } := by
  cases c with
  | registerFilter g =>
    obtain ⟨-, rfl⟩ := registerFilter_eq (ok_of_map done)
    rcases List.mem_append.1 mem with mem | mem
    · exact .inl mem
    · exact .inr ⟨g, rfl, List.mem_singleton.1 mem⟩
  | removeFilter token =>
    cases of_unsealed done
    exact .inl (List.mem_filter.1 mem).1
  | registerOperator token =>
    have done := of_unsealed (ok_of_map done)
    split at done
    · cases done
    · split at done <;> cases done <;> exact .inl mem
  | registerHandler op L R decide =>
    have done := of_unsealed (ok_of_map done)
    split at done <;> cases done
    exact .inl mem
  | registerParser | setDefaultFilter | setSearchSource | setValidation | setComparison =>
    cases of_unsealed (ok_of_map done)
    exact .inl mem

end Engine

namespace Running

/-- A running engine that has been through a sequence of actions. -/
def after (options : Options) (actions : List (Action κ ε)) : Running κ ε :=
  (run ⟨.withOptions options, []⟩ actions).2

/-- Whether a filter is one that is asked for, under its token in lowercase. -/
def Asked (actions : List (Action κ ε)) (f : Filter κ ε) : Prop :=
  ∃ g, .call (.registerFilter g) ∈ actions ∧ f = { g with token := lowercaseString g.token }

/-- What a running engine has from the start, and keeps in every call that is not refused and every
query, it has after every run. The filters are those that are asked for all along. -/
lemma run_induction {P : Running κ ε → Prop} {options : Options} {actions : List (Action κ ε)}
    (start : P ⟨.withOptions options, []⟩)
    (call : ∀ s c flag e', P s → s.engine.configure c = .ok (flag, e') →
      (∀ f ∈ e'.filters, Asked actions f) → P ⟨e', if c.isHandler then [] else s.memory⟩)
    (parse : ∀ s text, P s → (∀ f ∈ s.engine.filters, Asked actions f) → P (s.parse text).2) :
    P (after options actions) := by
  have run (later : List (Action κ ε)) (within : ∀ action ∈ later, action ∈ actions)
      (s : Running κ ε) (asked : ∀ f ∈ s.engine.filters, Asked actions f) (h : P s) :
      P (s.run later).2 := by
    induction later generalizing s with
    | nil => exact h
    | cons action later ih =>
      obtain ⟨here, behind⟩ := List.forall_mem_cons.1 within
      cases action with
      | call c =>
        show P ((s.configure c).2.run later).2
        rw [configure]
        split
        · exact ih behind s asked h
        · next flag e' done =>
          have asked : ∀ f ∈ e'.filters, Asked actions f := by
            intro f mem
            rcases Engine.filters_of_configure done mem with old | ⟨g, rfl, same⟩
            · exact asked f old
            · exact ⟨g, here, same⟩
          exact ih behind _ asked (call s c flag e' h done asked)
      | parse text => exact ih behind (s.parse text).2 asked (parse s text h asked)
  exact run actions (fun _ mem => mem) _ (fun _ mem => absurd mem List.not_mem_nil) start

/-- What an engine has from the start, and keeps in every step to an engine without filters but those
that are asked for, it has after every run. -/
lemma after_induction {P : Engine κ ε → Prop} {options : Options} {actions : List (Action κ ε)}
    (start : P (.withOptions options))
    (step : ∀ e e', P e → Engine.Step e e' → (∀ f ∈ e'.filters, Asked actions f) → P e') :
    P (after options actions).engine := by
  apply run_induction (P := fun s => P s.engine) start
  case call =>
    intro s c flag e' h done asked
    exact step s.engine e' h (Engine.step_of_configure done) asked
  case parse =>
    intro s text h asked
    exact step s.engine _ h (.parse text) asked

/-- After a run every filter is one that the run has asked for. -/
lemma asked_after (options : Options) (actions : List (Action κ ε)) :
    ∀ f ∈ (after options actions).engine.filters, Asked actions f :=
  after_induction (P := fun e => ∀ f ∈ e.filters, Asked actions f)
    (fun _ mem => absurd mem List.not_mem_nil) fun _ _ _ _ asked => asked

/-- The engine of a run is reachable. -/
lemma reachable_after (options : Options) (actions : List (Action κ ε)) :
    (after options actions).engine.Reachable :=
  after_induction (.withOptions options) fun _ _ reach st _ => reach.step st

/-- An engine that takes a call is not sealed. -/
lemma isSealed_of_configure {e e' : Engine κ ε} {c : Call κ ε} {flag : Bool}
    (done : e.configure c = .ok (flag, e')) : e.isSealed = false := by
  cases h : e.isSealed with
  | false => rfl
  | true =>
    rw [Engine.configure_of_isSealed h] at done
    cases done

/-- Nothing is remembered before the first query, and then only what the handlers say. -/
lemma agrees_after (options : Options) (actions : List (Action κ ε)) :
    (after options actions).engine.Agrees (after options actions).memory := by
  have kept : ((after options actions).engine.isSealed = false →
      (after options actions).memory = []) ∧
      (after options actions).engine.Agrees (after options actions).memory := by
    apply run_induction (P := fun s =>
      (s.engine.isSealed = false → s.memory = []) ∧ s.engine.Agrees s.memory)
    case start => exact ⟨fun _ => rfl, nofun⟩
    case call =>
      intro s c flag e' ⟨fresh, _⟩ done _
      have none : (if c.isHandler then [] else s.memory) = [] := by
        rw [fresh (isSealed_of_configure done), ite_self]
      rw [none]
      exact ⟨fun _ => rfl, nofun⟩
    case parse =>
      intro s text ⟨_, agrees⟩ _
      exact ⟨nofun, (parse_of_agrees agrees text).2⟩
  exact kept.2

/-- What has been asked for before has no say in what a text says to the engine. -/
lemma parse_after (options : Options) (actions : List (Action κ ε)) (text : String) :
    ((after options actions).parse text).1.1 = (after options actions).engine.query text :=
  congrArg Prod.fst (parse_of_agrees (agrees_after options actions) text).1

end Running

end Sift
