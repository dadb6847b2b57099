import Mathlib.Data.List.Nodup
import Sift.Proofs.Declarations
import Sift.Proofs.Typing

/-!
# Sound engines

The checks that a filter passes when it is registered stay passed: operators and parsers are never
taken away, a handler makes way only for one of the same types (`Operator.acceptsLeft_add`), and
tokens and types stay keys (`Engine.Keyed`). So in an engine that comes about by any calls and
queries every filter can be used (`Engine.Reachable.canUse`), and every parser reads values of its
type.
-/

namespace Sift

open Number Text

section Keys

variable {α β : Type} [DecidableEq β] {key : α → β} {table : List α} {a : α}

/-- An entry of a table is found by its key. -/
lemma find?_of_nodup (nodup : (table.map key).Nodup) (mem : a ∈ table) :
    table.find? (key · == key a) = some a := by
  induction table with
  | nil => cases mem
  | cons first later ih =>
    obtain ⟨absent, nodup⟩ := List.nodup_cons.1 nodup
    rcases List.mem_cons.1 mem with rfl | mem
    · exact List.find?_cons_of_pos (beq_self_eq_true (key a))
    · have ne : ¬(key first == key a) = true := by
        intro same
        rw [beq_iff_eq.1 same] at absent
        exact absent (List.mem_map_of_mem mem)
      exact (List.find?_cons_of_neg (p := (key · == key a)) ne).trans (ih nodup mem)

/-- An entry whose key is not found can be added. -/
lemma nodup_of_find?_none (nodup : (table.map key).Nodup)
    (absent : table.find? (key · == key a) = none) : ((table ++ [a]).map key).Nodup := by
  rw [List.map_append, List.map_singleton, ← List.concat_eq_append]
  refine List.Nodup.concat (fun mem => ?_) nodup
  obtain ⟨b, mem, same⟩ := List.mem_map.1 mem
  have found := List.find?_eq_none.1 absent b mem
  exact found (beq_iff_eq.2 same)

end Keys

variable {κ ε : Type}

namespace ValueParser

variable {p : ValueParser κ} {parsers : List (ValueParser κ)}

/-- Types stay keys when a parser is brought along. -/
lemma nodup_addMissing (nodup : (parsers.map type).Nodup) (p : ValueParser κ) :
    ((addMissing parsers p).map type).Nodup := by
  unfold addMissing
  split
  · exact nodup
  · next absent =>
    apply nodup_of_find?_none nodup
    simpa using absent

/-- Types stay keys when parsers are brought along. -/
lemma nodup_foldl_addMissing (added : List (ValueParser κ)) (nodup : (parsers.map type).Nodup) :
    ((added.foldl addMissing parsers).map type).Nodup :=
  List.foldlRecOn (motive := fun (parsers : List (ValueParser κ)) => (parsers.map type).Nodup)
    added _ nodup fun _ nodup p _ => nodup_addMissing nodup p

/-- A parser takes the place of one of its type, or stands behind the others. -/
lemma map_place (p : ValueParser κ) (parsers : List (ValueParser κ)) :
    (place p parsers).map type = parsers.map type ∨
      p.type ∉ parsers.map type ∧ (place p parsers).map type = parsers.map type ++ [p.type] := by
  induction parsers with
  | nil => exact .inr ⟨List.not_mem_nil, rfl⟩
  | cons q later ih =>
    rw [place]
    split
    · next same => exact .inl (by rw [List.map_cons, List.map_cons, beq_iff_eq.1 same])
    · next ne =>
      rcases ih with same | ⟨absent, added⟩
      · exact .inl (congrArg (q.type :: ·) same)
      · refine .inr ⟨?_, congrArg (q.type :: ·) added⟩
        rw [List.map_cons, List.mem_cons, not_or]
        exact ⟨fun same => ne (beq_iff_eq.2 same.symm), absent⟩

/-- Types stay keys when a parser is placed. -/
lemma nodup_place (nodup : (parsers.map type).Nodup) (p : ValueParser κ) :
    ((place p parsers).map type).Nodup := by
  rcases map_place p parsers with same | ⟨absent, added⟩
  · rwa [same]
  · rw [added, ← List.concat_eq_append]
    exact List.Nodup.concat absent nodup

/-- Bringing a parser along adds no other one. -/
lemma mem_of_mem_addMissing {q : ValueParser κ} (mem : q ∈ addMissing parsers p) :
    q ∈ parsers ∨ q = p := by
  unfold addMissing at mem
  split at mem
  · exact .inl mem
  · simpa using mem

/-- Bringing parsers along adds no other ones. -/
lemma mem_of_mem_foldl_addMissing {q : ValueParser κ} {added : List (ValueParser κ)}
    (mem : q ∈ added.foldl addMissing parsers) : q ∈ parsers ∨ q ∈ added := by
  induction added generalizing parsers with
  | nil => exact .inl mem
  | cons p added ih =>
    rcases ih mem with mem | mem
    · refine (mem_of_mem_addMissing mem).imp_right ?_
      rintro rfl
      exact List.mem_cons_self
    · exact .inr (List.mem_cons_of_mem p mem)

end ValueParser

namespace Operator

variable {o : Operator κ} {h : Handler κ} {left : ValueType}

/-- A handler makes way only for one of the same types. -/
lemma acceptsLeft_add (accepts : o.acceptsLeft left = true) (h : Handler κ) :
    (o.add h).acceptsLeft left = true := by
  show (place h o.handlers).any (appliesTo left) = true
  rw [acceptsLeft] at accepts
  rcases place_cases h o.handlers with ⟨before, g, after, all, -, same, placed⟩ | ⟨-, placed⟩
  · have alike : appliesTo left h = appliesTo left g := by
      rw [appliesTo, appliesTo, (Handler.isFor_iff.1 same).1]
    rw [all, List.any_append, List.any_cons] at accepts
    rwa [placed, List.any_append, List.any_cons, alike]
  · rw [placed, List.any_append, accepts, Bool.true_or]

end Operator

namespace Engine

variable {e e' : Engine κ ε} {f : Filter κ ε}

/-- Whether tokens and types are keys of the tables that they stand in. -/
structure Keyed (e : Engine κ ε) : Prop where
  filters : (e.filters.map Filter.token).Nodup
  operators : e.operatorTokens.Nodup
  parsers : (e.parsers.map ValueParser.type).Nodup

/-- What an engine has for a filter that it has taken. -/
structure CanUse (e : Engine κ ε) (f : Filter κ ε) : Prop where
  /-- The token is in lowercase. -/
  lowercase : lowercaseString f.token = f.token
  /-- The token can be one. -/
  token : isFilterToken f.token = true
  /-- The operators that it lists are there. -/
  operators : ∀ op ∈ f.operators, (e.operator? op).isSome = true
  /-- The values that it is asked about can be read. -/
  value : f.isResolver = true → (e.parser? f.type).isSome = true
  /-- The values that it reads can be compared by an operator that it supports. -/
  handler : f.isResolver = false →
    ∃ token o, e.operator? token = some o ∧ f.supports token = true ∧ o.acceptsLeft f.type = true
  /-- Its parameter can be read. -/
  param : ∀ type, f.paramType? = some type → (e.parser? type).isSome = true

/-- What a filter has passed against which nothing is said. -/
structure Unopposed (e : Engine κ ε) (f : Filter κ ε) : Prop where
  token : isFilterToken f.token = true
  absent : e.exactFilter? f.token = none
  operators : ∀ op ∈ f.operators, (e.operator? op).isSome = true
  value : f.isResolver = true → e.canRead f f.type = true
  handler : f.isResolver = false → e.canHandle f = true
  param : ∀ type, f.paramType? = some type → e.canRead f type = true

/-- A filter without an objection has passed all checks. -/
lemma unopposed_of_objection? (none : e.objection? f = none) : e.Unopposed f := by
  have token := isFilterToken_of_objection? none
  rw [objection?, token] at none
  simp only [Bool.not_true, Bool.false_eq_true, if_false] at none
  split at none
  · cases none
  · next absent =>
    split at none
    · cases none
    · next operators =>
      split at none
      · cases none
      · next value =>
        split at none
        · cases none
        · next handler =>
          refine ⟨token, by simpa using absent, ?_, ?_, ?_, ?_⟩
          · simpa [← Option.ne_none_iff_isSome] using operators
          · intro resolver
            simpa [resolver] using value
          · intro getter
            simpa [getter] using handler
          · intro type param
            simpa [param] using none

/-- Tokens and types stay keys. -/
lemma Change.keyed (ch : Change e e') (keyed : e.Keyed) : e'.Keyed := by
  cases ch with
  | addFilter f none =>
    have absent := (unopposed_of_objection? none).absent
    exact ⟨nodup_of_find?_none keyed.filters absent, keyed.operators,
      ValueParser.nodup_foldl_addMissing f.parsers keyed.parsers⟩
  | removeFilter token =>
    refine ⟨?_, keyed.operators, keyed.parsers⟩
    exact keyed.filters.sublist (List.filter_sublist.map Filter.token)
  | addOperator token valid absent =>
    exact ⟨keyed.filters, nodup_of_find?_none keyed.operators absent, keyed.parsers⟩
  | addHandler op h parsers =>
    refine ⟨keyed.filters, ?_, ValueParser.nodup_foldl_addMissing parsers keyed.parsers⟩
    rw [Engine.operatorTokens, operatorTokens_map_add]
    exact keyed.operators
  | addParser p =>
    exact ⟨keyed.filters, keyed.operators, ValueParser.nodup_place keyed.parsers p⟩
  | set => exact ⟨keyed.filters, keyed.operators, keyed.parsers⟩

/-- A parser may make way for another, but no type loses its parser. -/
lemma Change.isSome_parser? (ch : Change e e') {type : ValueType}
    (some : (e.parser? type).isSome = true) : (e'.parser? type).isSome = true := by
  obtain ⟨q, found⟩ := Option.isSome_iff_exists.1 some
  cases ch with
  | addFilter | addHandler =>
    exact Option.isSome_of_eq_some (ValueParser.find?_foldl_addMissing _ found)
  | addParser p =>
    show ((ValueParser.place p e.parsers).find? _).isSome = true
    rw [ValueParser.find?_place]
    split
    · rfl
    · exact some
  | removeFilter | addOperator | set => exact some

/-- An operator keeps its token, and accepts what it has accepted. -/
lemma Change.operator? (ch : Change e e') {token : String} {o : Operator κ}
    (found : e.operator? token = some o) :
    ∃ o', e'.operator? token = some o' ∧
      ∀ type, o.acceptsLeft type = true → o'.acceptsLeft type = true := by
  cases ch with
  | addOperator added =>
    refine ⟨o, ?_, fun _ => id⟩
    rw [Engine.operator?, List.find?_append]
    exact congrArg (Option.or · _) found
  | addHandler op h =>
    refine ⟨if o.token == op then o.add h else o, ?_, fun type accepts => ?_⟩
    · have same : ((fun o => o.token == token) ∘
          fun o : Operator κ => if o.token == op then o.add h else o) = (·.token == token) := by
        funext o
        rw [Function.comp]
        split <;> rfl
      rw [Engine.operator?, List.find?_map, same]
      exact congrArg (Option.map _) found
    · split
      · exact Operator.acceptsLeft_add accepts h
      · exact accepts
  | addFilter | removeFilter | addParser | set => exact ⟨o, found, fun _ => id⟩

/-- What an engine has for a filter it does not lose. -/
lemma CanUse.change (usable : e.CanUse f) (ch : Change e e') : e'.CanUse f := by
  constructor
  case lowercase => exact usable.lowercase
  case token => exact usable.token
  case operators =>
    intro op mem
    obtain ⟨o, found⟩ := Option.isSome_iff_exists.1 (usable.operators op mem)
    obtain ⟨o', found, -⟩ := ch.operator? found
    exact Option.isSome_of_eq_some found
  case value =>
    intro resolver
    exact ch.isSome_parser? (usable.value resolver)
  case handler =>
    intro getter
    obtain ⟨token, o, found, supports, accepts⟩ := usable.handler getter
    obtain ⟨o', found, keeps⟩ := ch.operator? found
    exact ⟨token, o', found, supports, keeps _ accepts⟩
  case param =>
    intro type param
    exact ch.isSome_parser? (usable.param type param)

/-- What can be read for a filter is read by the engine once it has the filter's parsers. -/
lemma isSome_parser?_of_canRead {type : ValueType} (reads : e.canRead f type = true) :
    ((f.parsers.foldl ValueParser.addMissing e.parsers).find? (·.type == type)).isSome = true := by
  rcases Bool.or_eq_true_iff.1 reads with own | brought
  · obtain ⟨p, found⟩ := Option.isSome_iff_exists.1 own
    exact Option.isSome_of_eq_some (ValueParser.find?_foldl_addMissing f.parsers found)
  · obtain ⟨p, mem, same⟩ := List.any_eq_true.1 brought
    rw [← beq_iff_eq.1 same]
    exact ValueParser.isSome_find?_foldl_addMissing mem

/-- A filter that is taken can be used. -/
lemma canUse_of_objection? (keyed : e.Keyed) (none : e.objection? f = none)
    (lowercase : lowercaseString f.token = f.token) :
    CanUse { e with
      filters := e.filters ++ [f]
      parsers := f.parsers.foldl ValueParser.addMissing e.parsers } f := by
  have unopposed := unopposed_of_objection? none
  constructor
  case lowercase => exact lowercase
  case token => exact unopposed.token
  case operators => exact unopposed.operators
  case value =>
    intro resolver
    exact isSome_parser?_of_canRead (unopposed.value resolver)
  case handler =>
    intro getter
    obtain ⟨o, mem, handles⟩ := List.any_eq_true.1 (unopposed.handler getter)
    obtain ⟨supports, accepts⟩ := Bool.and_eq_true_iff.1 handles
    exact ⟨o.token, o, find?_of_nodup keyed.operators mem, supports, accepts⟩
  case param =>
    intro type param
    exact isSome_parser?_of_canRead (unopposed.param type param)

/-- In an engine that comes about by calls, tokens and types are keys. -/
lemma Reachable.keyed (reach : e.Reachable) : e.Keyed := by
  induction reach with
  | withOptions options =>
    have operators : (Relation.all.map Relation.token).Nodup := by decide
    have tokens : (Engine.withOptions options : Engine κ ε).operatorTokens =
        Relation.all.map Relation.token := List.map_map
    have parsers : [ValueType.object, .string, .int, .float, .bool].Nodup := by decide
    exact ⟨List.nodup_nil, tokens ▸ operators, parsers⟩
  | step _ st ih => exact st.change.keyed ih

/-- Every filter of a reachable engine can be used. -/
lemma Reachable.canUse (reach : e.Reachable) : ∀ f ∈ e.filters, e.CanUse f := by
  induction reach with
  | withOptions options => exact fun f mem => absurd mem List.not_mem_nil
  | step reach st ih =>
    intro f mem
    rcases st.change.filters mem with old | ⟨none, lowercase, rfl⟩
    · exact (ih f old).change st.change
    · exact canUse_of_objection? reach.keyed none lowercase

/-- A parser that is there after a change was there before, reads members of a host type of its type,
or comes with a filter. -/
lemma Change.parsers (ch : Change e e') {p : ValueParser κ} (mem : p ∈ e'.parsers) :
    p ∈ e.parsers ∨ p.IsReading ∨ ∃ f ∈ e'.filters, p ∈ f.parsers := by
  cases ch with
  | addFilter f =>
    refine (ValueParser.mem_of_mem_foldl_addMissing mem).imp_right fun mem => .inr ⟨f, ?_, mem⟩
    exact List.mem_append_right _ (List.mem_singleton_self f)
  | addHandler op h parsers made reading =>
    exact (ValueParser.mem_of_mem_foldl_addMissing mem).imp_right fun mem => .inl (reading p mem)
  | addParser q reading =>
    rcases ValueParser.mem_of_mem_place mem with rfl | mem
    · exact .inr (.inl reading)
    · exact .inl mem
  | removeFilter | addOperator | set => exact .inl mem

/-- Whether all that an engine has been given can be found and used. -/
structure Sound (e : Engine κ ε) : Prop where
  /-- A filter stands under its token and can be used. -/
  filters : ∀ f ∈ e.filters, e.exactFilter? f.token = some f ∧ e.CanUse f
  /-- A parser stands under its type and reads members of a host type of that type. -/
  parsers : ∀ p ∈ e.parsers, e.parser? p.type = some p ∧ p.IsReading

end Engine

/-- The parsers that a declared filter brings along are those of its host types. -/
lemma Filter.IsDeclared.isReading {f : Filter κ ε} {d : Declaration κ ε} (declared : f.IsDeclared d)
    {p : ValueParser κ} (mem : p ∈ f.parsers) : p.IsReading := by
  obtain ⟨_, operators, comparison?, rfl⟩ := declared
  rcases List.mem_append.1 mem with mem | mem
  · have own := Option.mem_toList.1 mem
    cases d <;> exact ValueParser.isReading_of? own
  · have own := Option.mem_toList.1 mem
    cases d with
    | get | tryGet | resolver => cases own
    | getWith | resolverWith => exact ValueParser.isReading_of? own

namespace Running

variable {options : Options} {actions : List (Action κ ε)}

/-- The parsers of a run whose filters are declared read members of host types. -/
lemma isReading_after
    (declared : ∀ g, .call (.registerFilter g) ∈ actions → ∃ d, g.IsDeclared d) :
    ∀ p ∈ (after options actions).engine.parsers, p.IsReading := by
  apply after_induction (P := fun e => ∀ p ∈ e.parsers, p.IsReading)
  case start =>
    intro p mem
    obtain ⟨p?, listed, found⟩ := List.mem_filterMap.1 mem
    simp only [List.mem_cons, List.not_mem_nil, or_false] at listed
    rcases listed with rfl | rfl | rfl | rfl | rfl <;>
      exact ValueParser.isReading_of? found
  case step =>
    intro e e' ih st asked p mem
    rcases st.change.parsers mem with old | reading | ⟨f, added, brought⟩
    · exact ih p old
    · exact reading
    · obtain ⟨d, declared⟩ := (asked f added).isDeclared declared
      exact declared.isReading brought

/-- A call that is refused leaves a running engine as it is. No operation changes an engine in its
place, so this is how `configure` is defined, whatever the operations check and in which order. -/
lemma configure_of_refused {s : Running κ ε} {c : Call κ ε} {error : EngineError}
    (refused : (s.configure c).1 = .error error) : (s.configure c).2 = s := by
  unfold configure at refused ⊢
  cases done : s.engine.configure c with
  | error error => rfl
  | ok result =>
    rw [done] at refused
    cases refused

/-- After any sequence of calls and queries, refused ones among them, all that the engine has been
given can be found and used. A call that is refused leaves all as it is; this part only says how
`configure` goes on after a refusal, since an operation that is refused gives no engine. -/
theorem sound_after (options : Options) (actions : List (Action κ ε))
    (declared : ∀ g, .call (.registerFilter g) ∈ actions → ∃ d, g.IsDeclared d) :
    (after options actions).engine.Sound ∧
      ∀ c error, ((after options actions).configure c).1 = .error error →
        ((after options actions).configure c).2 = after options actions := by
  have reach := reachable_after options actions
  refine ⟨⟨fun f mem => ?_, fun p mem => ?_⟩, fun c error => configure_of_refused⟩
  · exact ⟨find?_of_nodup reach.keyed.filters mem, reach.canUse f mem⟩
  · exact ⟨find?_of_nodup reach.keyed.parsers mem, isReading_after declared p mem⟩

/-- More changes: a filter under a token that is taken, which is refused, one that is removed, one
that is added behind a handler for its values, and a query. -/
def changes : List (Action Empty (List Int)) := itemActions ++ [
  .call (.registerFilter (.get .bool "ITEM" fun xs => xs.isEmpty)),
  .call (.removeFilter "Filled"),
  .call (.registerHandler "=" (.integer (.unsigned 8)) (.integer (.unsigned 8))
    fun a b _ => a.val == b.val),
  .call (.registerFilter (.tryGet (.integer (.unsigned 8)) "Length"
    fun xs => ((IntRange.unsigned 8).ofInt? xs.length).elim (.error "long list") .ok)),
  .parse "length=2"]

/-- What is left of the changes is sound, and nothing more is changed. -/
theorem sound_after_changes :
    (after {} changes).engine.filters.map Filter.token = ["item", "length"] ∧
      (after {} changes).engine.Sound ∧
      ((after {} changes).configure (.registerOperator "~")).1 =
        .error (.isSealed (.operator "~")) ∧
      ((after {} changes).configure (.registerOperator "~")).2 = after {} changes := by
  have declared : ∀ g, .call (.registerFilter g) ∈ changes → ∃ d, g.IsDeclared d := by
    intro g mem
    rcases List.mem_append.1 mem with mem | mem
    · exact isDeclared_of_mem_itemActions mem
    · rcases mem with _ | ⟨_, _ | ⟨_, _ | ⟨_, _ | ⟨_, _ | ⟨_, ⟨⟩⟩⟩⟩⟩⟩
      · exact ⟨.get _ _, "ITEM", [], none, rfl⟩
      · exact ⟨.tryGet _ _, "Length", [], none, rfl⟩
  obtain ⟨sound, refused⟩ := sound_after {} changes declared
  have isSealed : ((after {} changes).configure (.registerOperator "~")).1 =
      .error (.isSealed (.operator "~")) := by
    decide +kernel
  exact ⟨by decide +kernel, sound, isSealed, refused _ _ isSealed⟩

end Running

end Sift
