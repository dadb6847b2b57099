import Mathlib.Tactic.Lemma
import Sift.Query.Basic

/-!
# The operations that clauses mean

A clause that is neither refused nor skipped means an operation. What it is made of is said once
(`Engine.means_of_readClause`): a known filter and operator, a parameter and a value that have been
read for them, and what decides the values; or else the default filter. Engines that differ in their
parsers only give a clause one meaning if they read its two texts alike (`Engine.readClause_congr`).
-/

namespace Sift

open Text

namespace Engine

variable {κ ε : Type} {e : Engine κ ε}

/-- The operations that a clause can mean. -/
inductive Means (e : Engine κ ε) (c : Clause) : Operation κ ε → Prop where
  | known {f : Filter κ ε} {o : Operator κ} {param? value decider} :
    e.filter? (lowercaseString (String.ofList c.token)) = some f →
    e.operator? (String.ofList c.operator) = some o →
    f.supports (String.ofList c.operator) = true →
    e.readParam f (lowercaseString (String.ofList c.token)) c.param = .ok param? →
    e.readValue f o (String.ofList (unquote c.value)) = .ok (value, decider) →
    Means e c ⟨lowercaseString (String.ofList c.token), String.ofList c.operator,
      String.ofList (unquote c.value), param?, value, f.comparison?.getD e.options.comparison,
      decider⟩
  | unknown {decide : DefaultFilter ε} :
    e.filter? (lowercaseString (String.ofList c.token)) = none →
    e.defaultFilter? = some decide →
    Means e c ⟨lowercaseString (String.ofList c.token), String.ofList c.operator,
      String.ofList (unquote c.value), none, .string (String.ofList (unquote c.value)),
      e.options.comparison, .default decide⟩

/-- The operation of a known filter's clause. -/
lemma means_of_operation {f : Filter κ ε} {c : Clause} {o : Operation κ ε}
    (filter : e.filter? (lowercaseString (String.ofList c.token)) = some f)
    (h : e.operation f c = .ok o) : e.Means c o := by
  rw [operation] at h
  cases operator : e.operator? (String.ofList c.operator) with
  | none =>
    rw [operator] at h
    cases h
  | some op =>
    simp only [operator] at h
    split at h
    · cases h
    · next supported =>
      cases param : e.readParam f (lowercaseString (String.ofList c.token)) c.param with
      | error fault =>
        rw [param] at h
        cases h
      | ok param? =>
        cases value : e.readValue f op (String.ofList (unquote c.value)) with
        | error fault =>
          rw [param, value] at h
          cases h
        | ok decided =>
          rw [param, value] at h
          cases h
          exact .known filter operator (by simpa using supported) param value

/-- What a clause means is made of a known filter, or is what the default filter decides. -/
lemma means_of_readClause {c : Clause} {o : Operation κ ε} (h : e.readClause c = .ok (some o)) :
    e.Means c o := by
  rw [readClause] at h
  split at h
  · next f filter =>
    cases operation : e.operation f c with
    | error fault =>
      rw [operation] at h
      cases h
    | ok o' =>
      rw [operation] at h
      cases h
      exact means_of_operation filter operation
  · next unknown =>
    split at h
    · cases h
    · split at h
      · cases h
      · next decide default =>
        cases h
        exact .unknown unknown default

/-- A leaf of a clause is an operation that the clause means. -/
lemma means_of_readTerm {c : Clause} {leaf : Leaf κ ε} (h : e.readTerm (.clause c) = .ok (some leaf)) :
    ∃ o, leaf = .filter o ∧ e.Means c o := by
  rw [readTerm] at h
  split at h
  · next o? read =>
    obtain ⟨o, rfl, rfl⟩ := Option.map_eq_some_iff.1 (Except.ok.inj h)
    exact ⟨o, rfl, means_of_readClause read⟩
  · cases h

section Alike

variable {e' : Engine κ ε} {f : Filter κ ε} {c : Clause}

/-- Whether two engines read the texts of a filter's clause alike. -/
structure ReadsAlike (e e' : Engine κ ε) (f : Filter κ ε) (c : Clause) : Prop where
  param : ∀ a cs, f.param? = some a → c.param = some cs →
    e'.readArgument? a (String.ofList (unquote (trim cs))) =
      e.readArgument? a (String.ofList (unquote (trim cs)))
  resolver : f.isResolver = true →
    e'.readArgument? f.value (String.ofList (unquote c.value)) =
      e.readArgument? f.value (String.ofList (unquote c.value))
  getter : f.isResolver = false → ∀ o, e.operator? (String.ofList c.operator) = some o →
    e'.inferValue? o f.type (String.ofList (unquote c.value)) =
      e.inferValue? o f.type (String.ofList (unquote c.value))

/-- Engines that read the parameter of a clause alike give it the same meaning. -/
lemma ReadsAlike.readParam_eq (alike : ReadsAlike e e' f c) (token : String) :
    e'.readParam f token c.param = e.readParam f token c.param := by
  cases own : f.param? with
  | none => cases c.param <;> simp only [readParam, own]
  | some a =>
    cases text : c.param with
    | none => simp only [readParam, own]
    | some cs => simp only [readParam, own, alike.param a cs own text]

/-- Engines that read the value of a clause alike give it the same meaning. -/
lemma ReadsAlike.readValue_eq (alike : ReadsAlike e e' f c) {o : Operator κ}
    (operator : e.operator? (String.ofList c.operator) = some o) :
    e'.readValue f o (String.ofList (unquote c.value)) =
      e.readValue f o (String.ofList (unquote c.value)) := by
  cases access : f.access with
  | resolver resolve =>
    have resolver : f.isResolver = true := by rw [Filter.isResolver, access]
    simp only [readValue, access, alike.resolver resolver]
  | getter get =>
    have getter : f.isResolver = false := by rw [Filter.isResolver, access]
    simp only [readValue, access, alike.getter getter o operator]

/-- A clause means the same to engines that differ in nothing but how they read texts, if they read
its texts alike. -/
lemma readClause_congr
    (filter : e'.filter? (lowercaseString (String.ofList c.token)) =
      e.filter? (lowercaseString (String.ofList c.token)))
    (operators : e'.operators = e.operators) (options : e'.options = e.options)
    (default : e'.defaultFilter? = e.defaultFilter?)
    (alike : ∀ f, e.filter? (lowercaseString (String.ofList c.token)) = some f →
      ReadsAlike e e' f c) :
    e'.readClause c = e.readClause c := by
  have operator : e'.operator? (String.ofList c.operator) = e.operator? (String.ofList c.operator) := by
    rw [operator?, operator?, operators]
  rw [readClause, readClause, filter, options, default]
  cases found : e.filter? (lowercaseString (String.ofList c.token)) with
  | none => rfl
  | some f =>
    have alike := alike f found
    have same : e'.operation f c = e.operation f c := by
      rw [operation, operation, operator, alike.readParam_eq, options]
      cases known : e.operator? (String.ofList c.operator) with
      | none => rfl
      | some o => simp only [alike.readValue_eq known]
    simp only [same]

end Alike

end Engine

end Sift
