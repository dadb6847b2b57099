import Sift.Proofs.Candidates
import Sift.Proofs.Lowercase
import Sift.Proofs.Sealing
import Sift.Proofs.Typing

/-!
# Filters do not interfere

A filter brings parsers along for the whole engine, and they stay when it is removed. But they are
for types that no other filter and no handler has to do with: the types in use have a parser
already, or there is none for them to be brought along (`Engine.Covered`). This holds of every
engine whose host types agree on the parsers of the program's own types.
-/

namespace Sift

open Text

namespace ValueParser

variable {κ α : Type} {type : ValueType} {p : ValueParser κ} {parsers added : List (ValueParser κ)}

/-- The parser of a host type is one of its type. -/
lemma type_of? {h : HostType κ α} (found : of? h = some p) : p.type = h.type := by
  obtain ⟨read, -, rfl⟩ := Option.map_eq_some_iff.1 found
  rfl

/-- Parsers of other types do not change that of a type. -/
lemma find?_foldl_addMissing_of_ne (others : ∀ q ∈ added, q.type ≠ type) :
    (added.foldl addMissing parsers).find? (·.type == type) =
      parsers.find? (·.type == type) := by
  induction added generalizing parsers with
  | nil => rfl
  | cons q added ih =>
    obtain ⟨ne, others⟩ := List.forall_mem_cons.1 others
    rw [List.foldl_cons, ih others, addMissing]
    split
    · rfl
    · simp [ne]

end ValueParser

namespace Operator

variable {κ : Type} {o : Operator κ} {left type : ValueType}

/-- A type that a value is read as is one that a handler takes on its right side. -/
lemma exists_handler_of_rightTypes (mem : type ∈ o.rightTypes left) :
    ∃ h ∈ o.handlers, h.right = type := by
  obtain ⟨h, mem, asks⟩ := mem_askedTypes.1 (mem_rightTypes.1 mem)
  exact ⟨h, mem, (asks_iff.1 asks).2⟩

end Operator

/-- The handlers of a relation are for types that every engine knows. -/
lemma Relation.right_ne_custom {κ : Type} {r : Relation} {h : Handler κ}
    (mem : h ∈ r.operator.handlers) (name : String) : h.right ≠ .custom name := by
  rcases handler_cases mem with rfl | rfl | rfl | rfl | rfl <;> nofun

section Declared

variable {κ ε α : Type} (declared : String → Option (ValueParser κ))

/-- Whether a host type that is one of the program's own has the parser declared for it, if any. -/
def HostType.Follows (h : HostType κ α) : Prop :=
  ∀ name, h.type = .custom name → ValueParser.of? h = declared name

/-- Whether an argument expects members of a host type with the parser declared for it. -/
def Argument.Follows (a : Argument κ) : Prop :=
  ∃ (α : Type) (h : HostType κ α), a = .of h ∧ h.Follows declared

/-- Whether the arguments of a filter have the parsers declared for them. -/
def Filter.Follows (f : Filter κ ε) : Prop :=
  f.value.Follows declared ∧ ∀ a ∈ f.param?, a.Follows declared

/-- Whether the host types of a call have the parsers declared for them. A custom parser need not be
the one of its type. -/
def Call.Follows : Call κ ε → Prop
  | .registerFilter f => f.Follows declared
  | .registerHandler _ L R _ => L.Follows declared ∧ R.Follows declared
  | _ => True

namespace Engine

/-- Whether a type is one that every engine knows, or that a handler or a filter has to do with. -/
def Uses (e : Engine κ ε) (type : ValueType) : Prop :=
  (∀ name, type ≠ .custom name) ∨ (∃ o ∈ e.operators, ∃ h ∈ o.handlers, h.right = type) ∨
    ∃ f ∈ e.filters, f.type = type ∨ f.paramType? = some type

/-- Whether a type has a parser, or is one of the program's own that none is declared for. -/
def Serves (e : Engine κ ε) (type : ValueType) : Prop :=
  (e.parser? type).isSome ∨ ∃ name, type = .custom name ∧ declared name = none

/-- Whether there is nothing to be brought along for the types in use. -/
def Covered (e : Engine κ ε) : Prop := ∀ type, e.Uses type → e.Serves declared type

end Engine

end Declared

section Brought

variable {κ ε α : Type} {declared : String → Option (ValueParser κ)} {p : ValueParser κ}

/-- A type of the program's own has the parser that is declared for it. -/
lemma HostType.Follows.declared_eq {h : HostType κ α} (follows : h.Follows declared)
    (found : ValueParser.of? h = some p) {name : String} (type : p.type = .custom name) :
    declared name = some p := by
  rw [← follows name (ValueParser.type_of? found ▸ type), found]

/-- What a filter brings along are declared parsers, where types of the program's own are
concerned. -/
lemma Filter.Follows.declared_eq {f : Filter κ ε} (follows : f.Follows declared) :
    ∀ p ∈ f.parsers, ∀ name, p.type = .custom name → declared name = some p := by
  have argument {a : Argument κ} (follows : a.Follows declared) :
      ∀ p ∈ a.parser?.toList, ∀ name, p.type = .custom name → declared name = some p := by
    obtain ⟨α, h, rfl, follows⟩ := follows
    exact fun p mem name => follows.declared_eq (Option.mem_toList.1 mem)
  refine List.forall_mem_append.2 ⟨argument follows.1, fun p mem => ?_⟩
  obtain ⟨a, param, brought⟩ := Option.bind_eq_some_iff.1 (Option.mem_toList.1 mem)
  exact argument (follows.2 a param) p (Option.mem_toList.2 brought)

end Brought

namespace Engine

variable {κ ε α : Type} {declared : String → Option (ValueParser κ)} {e e' : Engine κ ε}
  {type : ValueType} {added : List (ValueParser κ)}

/-- A type is served as long as no type loses its parser. -/
lemma Serves.mono (served : e.Serves declared type)
    (kept : ∀ type p, e.parser? type = some p → (e'.parser? type).isSome) :
    e'.Serves declared type := by
  refine served.imp_left fun some => ?_
  obtain ⟨p, found⟩ := Option.isSome_iff_exists.1 some
  exact kept type p found

/-- Parsers brought along leave a type alone that is served. -/
lemma Serves.find?_foldl_addMissing (served : e.Serves declared type)
    (follow : ∀ p ∈ added, ∀ name, p.type = .custom name → declared name = some p) :
    (added.foldl ValueParser.addMissing e.parsers).find? (·.type == type) = e.parser? type := by
  cases found : e.parser? type with
  | some p => exact ValueParser.find?_foldl_addMissing added found
  | none =>
    rw [Serves, found] at served
    obtain ⟨name, rfl, undeclared⟩ := served.resolve_left nofun
    refine (ValueParser.find?_foldl_addMissing_of_ne fun p mem same => ?_).trans found
    have declared := follow p mem name same
    rw [undeclared] at declared
    cases declared

section Brought

variable (parsers : e'.parsers = added.foldl ValueParser.addMissing e.parsers)
include parsers

/-- No type loses its parser when others are brought along. -/
lemma kept_of_addMissing (type : ValueType) (p : ValueParser κ) (found : e.parser? type = some p) :
    (e'.parser? type).isSome := by
  rw [parser?, parsers, ValueParser.find?_foldl_addMissing added found]
  rfl

/-- The type of a host type is served once its parser is brought along. -/
lemma serves_of_follows (covered : e.Covered declared) {h : HostType κ α}
    (follows : h.Follows declared) (brought : ∀ p, ValueParser.of? h = some p → p ∈ added) :
    e'.Serves declared h.type := by
  by_cases own : ∃ name, h.type = .custom name
  · obtain ⟨name, type⟩ := own
    cases has : declared name with
    | none => exact .inr ⟨name, type, has⟩
    | some p =>
      have found := (follows name type).trans has
      have some : (e'.parsers.find? (·.type == p.type)).isSome := by
        rw [parsers]
        exact ValueParser.isSome_find?_foldl_addMissing (brought p found)
      rw [ValueParser.type_of? found] at some
      exact .inl some
  · exact (covered h.type (.inl (not_exists.1 own))).mono (kept_of_addMissing parsers)

/-- The types of a filter are served once it has brought its parsers along. -/
lemma serves_of_filter (covered : e.Covered declared) {f : Filter κ ε} (follows : f.Follows declared)
    (own : added = f.parsers) (used : f.type = type ∨ f.paramType? = some type) :
    e'.Serves declared type := by
  subst own
  rcases used with rfl | paramType
  · obtain ⟨α, h, value, follows⟩ := follows.1
    rw [Filter.type, value]
    refine serves_of_follows parsers covered follows fun p found => List.mem_append_left _ ?_
    rw [value]
    exact Option.mem_toList.2 found
  · obtain ⟨a, param, rfl⟩ := Option.map_eq_some_iff.1 paramType
    obtain ⟨α, h, rfl, follows⟩ := follows.2 a param
    refine serves_of_follows parsers covered follows fun p found => List.mem_append_right _ ?_
    rw [param]
    exact Option.mem_toList.2 found

end Brought

/-- What is in use after a change was in use before or is served, and no type has lost its parser. -/
lemma Covered.mono (covered : e.Covered declared)
    (uses : ∀ type, e'.Uses type → e.Uses type ∨ e'.Serves declared type)
    (kept : ∀ type p, e.parser? type = some p → (e'.parser? type).isSome) :
    e'.Covered declared := by
  intro type used
  rcases uses type used with used | served
  · exact (covered type used).mono kept
  · exact served

/-- A filter that follows the declaration leaves the types in use covered. -/
lemma Covered.registerFilter (covered : e.Covered declared) {f : Filter κ ε}
    (follows : f.Follows declared) (done : e.registerFilter f = .ok e') : e'.Covered declared := by
  obtain ⟨-, rfl⟩ := registerFilter_eq done
  refine covered.mono ?_ (kept_of_addMissing rfl)
  rintro type (every | handler | ⟨g, mem, used⟩)
  · exact .inl (.inl every)
  · exact .inl (.inr (.inl handler))
  · rcases List.mem_append.1 mem with mem | mem
    · exact .inl (.inr (.inr ⟨g, mem, used⟩))
    · obtain rfl := List.mem_singleton.1 mem
      exact .inr (serves_of_filter rfl covered follows rfl used)

/-- A handler that follows the declaration leaves the types in use covered. -/
lemma Covered.registerHandler {β : Type} (covered : e.Covered declared) {op : String}
    {L : HostType κ α} {R : HostType κ β} {decide : α → β → Comparison → Bool}
    (follows : R.Follows declared) (done : e.registerHandler op L R decide = .ok e') :
    e'.Covered declared := by
  have done := of_unsealed done
  split at done
  · cases done
  · cases done
    refine covered.mono ?_ (kept_of_addMissing rfl)
    rintro type (every | ⟨o, mem, h, handler, right⟩ | filter)
    · exact .inl (.inl every)
    · obtain ⟨o, mem', rfl⟩ := List.mem_map.1 mem
      split at handler
      · rcases Operator.mem_place handler with rfl | handler
        · right
          subst right
          refine serves_of_follows rfl covered follows fun p found => List.mem_append_right _ ?_
          exact Option.mem_toList.2 found
        · exact .inl (.inr (.inl ⟨o, mem', h, handler, right⟩))
      · exact .inl (.inr (.inl ⟨o, mem', h, handler, right⟩))
    · exact .inl (.inr (.inr filter))

/-- A new operator uses no types of the program's own. -/
lemma Covered.registerOperator (covered : e.Covered declared) {token : String}
    (done : e.registerOperator token = .ok e') : e'.Covered declared := by
  have done := of_unsealed done
  split at done
  · cases done
  · split at done <;> cases done
    · exact covered
    · refine covered.mono ?_ fun type p found => Option.isSome_iff_exists.2 ⟨p, found⟩
      rintro type (every | ⟨o, mem, h, handler, right⟩ | filter)
      · exact .inl (.inl every)
      · rcases List.mem_append.1 mem with mem | mem
        · exact .inl (.inr (.inl ⟨o, mem, h, handler, right⟩))
        · rw [List.mem_singleton.1 mem] at handler
          cases handler
      · exact .inl (.inr (.inr filter))

/-- Fewer filters use fewer types. -/
lemma Covered.removeFilter (covered : e.Covered declared) {token : String} {found : Bool}
    (done : e.removeFilter token = .ok (found, e')) : e'.Covered declared := by
  cases of_unsealed done
  refine covered.mono ?_ fun type p found => Option.isSome_iff_exists.2 ⟨p, found⟩
  rintro type (every | handler | ⟨g, mem, used⟩)
  · exact .inl (.inl every)
  · exact .inl (.inr (.inl handler))
  · exact .inl (.inr (.inr ⟨g, (List.mem_filter.1 mem).1, used⟩))

/-- A type that gets a parser of its own is served. -/
lemma Covered.registerParser (covered : e.Covered declared) {h : HostType κ α}
    {read : String → Option α} (done : e.registerParser h read = .ok e') :
    e'.Covered declared := by
  cases of_unsealed done
  refine covered.mono (fun type used => .inl used) fun type p found => ?_
  rw [parser?, ValueParser.find?_place]
  split
  · rfl
  · exact Option.isSome_iff_exists.2 ⟨p, found⟩

/-- A call whose host types follow what is declared leaves the types in use covered. -/
lemma Covered.configure (covered : e.Covered declared) {c : Call κ ε} (follows : c.Follows declared)
    {flag : Bool} (done : e.configure c = .ok (flag, e')) : e'.Covered declared := by
  cases c with
  | registerFilter f => exact covered.registerFilter follows (ok_of_map done)
  | removeFilter token => exact covered.removeFilter done
  | registerOperator token => exact covered.registerOperator (ok_of_map done)
  | registerHandler op L R decide => exact covered.registerHandler follows.2 (ok_of_map done)
  | registerParser h read => exact covered.registerParser (ok_of_map done)
  | setDefaultFilter | setSearchSource | setValidation | setComparison =>
    cases of_unsealed (ok_of_map done)
    exact covered

/-- The types that an engine has to do with from the start have parsers. -/
lemma covered_withOptions (options : Options) :
    (Engine.withOptions options : Engine κ ε).Covered declared := by
  intro type used
  left
  cases type with
  | object | string | int | float | bool => rfl
  | custom name =>
    rcases used with every | ⟨o, mem, h, handler, right⟩ | ⟨f, mem, _⟩
    · exact absurd rfl (every name)
    · obtain ⟨r, -, rfl⟩ := List.mem_map.1 mem
      exact absurd right (Relation.right_ne_custom handler name)
    · cases mem

/-- The types in use by an engine that has been configured so are covered. -/
lemma covered_configured (options : Options) {calls : List (Call κ ε)}
    (follows : ∀ c ∈ calls, c.Follows declared) :
    (Running.configured options calls).engine.Covered declared := by
  refine List.foldlRecOn (motive := fun s : Running κ ε => s.engine.Covered declared) calls _
    (covered_withOptions options) fun s covered c mem => ?_
  rw [Running.configure]
  split
  · exact covered
  · next flag engine done => exact covered.configure (follows c mem) done

section Reading

variable {filters : List (Filter κ ε)} {parsers : List (ValueParser κ)}
  (same : ∀ type, e.Uses type → parsers.find? (·.type == type) = e.parser? type)
include same

/-- An argument of a type in use is read without regard to the filters that are there. -/
lemma readArgument?_of_uses {a : Argument κ} (used : e.Uses a.type) (raw : String) :
    { e with filters, parsers }.readArgument? a raw = e.readArgument? a raw := by
  have parser : { e with filters, parsers }.parser? a.type = e.parser? a.type := same a.type used
  rw [readArgument?, readArgument?, parser]

/-- A value for a type in use is inferred without regard to the filters that are there. -/
lemma inferValue?_of_uses {o : Operator κ} (mem : o ∈ e.operators) {left : ValueType}
    (used : e.Uses left) (raw : String) :
    { e with filters, parsers }.inferValue? o left raw = e.inferValue? o left raw := by
  have parser : { e with filters, parsers }.parser? left = e.parser? left := same left used
  have types : (o.rightTypes left).filterMap { e with filters, parsers }.parser? =
      (o.rightTypes left).filterMap e.parser? :=
    List.filterMap_congr fun type among =>
      same type (.inr (.inl ⟨o, mem, Operator.exists_handler_of_rightTypes among⟩))
  rw [inferValue?, inferValue?, parser, types]

/-- A clause means the same if it is one of the same filter, or of none. -/
lemma readClause_of_uses {c : Clause}
    (filter : { e with filters, parsers }.filter? (lowercaseString (String.ofList c.token)) =
      e.filter? (lowercaseString (String.ofList c.token))) :
    { e with filters, parsers }.readClause c = e.readClause c := by
  refine readClause_congr filter rfl rfl rfl fun f found => ?_
  have mem : f ∈ e.filters := by
    rcases Option.or_eq_some_iff.1 found with found | ⟨-, found⟩
    · exact List.mem_of_find?_eq_some found
    · exact List.mem_of_find?_eq_some found
  have used : e.Uses f.type := .inr (.inr ⟨f, mem, .inl rfl⟩)
  constructor
  case param =>
    intro a cs own _
    have used : e.Uses a.type := .inr (.inr ⟨f, mem, .inr (by rw [Filter.paramType?, own]; rfl)⟩)
    exact readArgument?_of_uses same used _
  case resolver =>
    intro _
    exact readArgument?_of_uses same used _
  case getter =>
    intro _ o known
    exact inferValue?_of_uses same (List.mem_of_find?_eq_some known) used _

/-- A text whose clauses are ones of the same filters, or of none, has the same query and graph. -/
lemma query_of_uses {text : String}
    (filter : ∀ c, .clause c ∈ (e.outline text).terms →
      { e with filters, parsers }.filter? (lowercaseString (String.ofList c.token)) =
        e.filter? (lowercaseString (String.ofList c.token))) :
    { e with filters, parsers }.query text = e.query text ∧
      { e with filters, parsers }.graph? text = e.graph? text :=
  query_congr rfl rfl rfl fun c mem => readClause_of_uses same (filter c mem)

end Reading

/-- The filter of a token in lowercase is registered just so, or there is none. -/
lemma filter?_lowercase (e : Engine κ ε) (token : String) :
    e.filter? (lowercaseString token) = e.exactFilter? (lowercaseString token) := by
  rw [filter?, lowercaseString_idem, Option.or_self]

/-- Filters are added only before the first query. -/
lemma isSealed_of_registerFilter {f : Filter κ ε} (done : e.registerFilter f = .ok e') :
    e.isSealed = false := by
  cases locked : e.isSealed with
  | false => rfl
  | true =>
    rw [registerFilter, unsealed, if_pos locked] at done
    cases done

section Registered

variable {f : Filter κ ε} (covered : e.Covered declared) (own : f.Follows declared)
  (done : e.registerFilter f = .ok e')
include covered own done

/-- A filter that is registered has no say in a text without clauses of it. -/
lemma query_of_registerFilter {text : String}
    (others : ∀ c, .clause c ∈ (e.outline text).terms →
      lowercaseString (String.ofList c.token) ≠ lowercaseString f.token) :
    e'.query text = e.query text ∧ e'.graph? text = e.graph? text := by
  obtain ⟨-, rfl⟩ := registerFilter_eq done
  refine query_of_uses (fun type used => (covered type used).find?_foldl_addMissing own.declared_eq)
    fun c mem => ?_
  have ne := (others c mem).symm
  rw [filter?_lowercase, filter?_lowercase, exactFilter?, exactFilter?, List.find?_append]
  simp [ne]

/-- A filter that is registered and removed leaves only parsers behind. -/
lemma query_of_removeFilter {token : String}
    (same : lowercaseString token = lowercaseString f.token) :
    ∃ e'', e'.removeFilter token = .ok (true, e'') ∧
      ∀ text, e''.query text = e.query text ∧ e''.graph? text = e.graph? text := by
  have unlocked := isSealed_of_registerFilter done
  obtain ⟨absent, rfl⟩ := registerFilter_eq done
  have others (g : Filter κ ε) (mem : g ∈ e.filters) : g.token ≠ lowercaseString f.token := by
    simpa using List.find?_eq_none.1 absent g mem
  have rest : (e.filters ++ [{ f with token := lowercaseString f.token }]).filter
      (fun g => g.token ≠ lowercaseString f.token) = e.filters := by
    rw [List.filter_append, List.filter_eq_self.2 (by simpa using others)]
    simp
  refine ⟨{ e with parsers := f.parsers.foldl ValueParser.addMissing e.parsers }, ?_, fun text => ?_⟩
  · rw [removeFilter, unsealed, if_neg (by simp [unlocked])]
    simp only [bind, Except.bind, same, rest, exactFilter?, List.find?_append]
    simp
  · exact query_of_uses
      (fun type used => (covered type used).find?_foldl_addMissing own.declared_eq) fun _ _ => rfl

end Registered

/-- With host types that agree on the parsers of the program's own types, registering a filter
changes neither query nor graph of a text without clauses of the filter, and if it is then removed,
under its token in any case of letters, those of no text. -/
theorem query_of_other_filter {declared : String → Option (ValueParser κ)} {options : Options}
    {calls : List (Call κ ε)} {f : Filter κ ε} {e' : Engine κ ε}
    (follows : ∀ c ∈ calls, c.Follows declared) (own : f.Follows declared)
    (done : (Running.configured options calls).engine.registerFilter f = .ok e') :
    let e := (Running.configured options calls).engine
    (∀ text, (∀ c, .clause c ∈ (e.outline text).terms →
        lowercaseString (String.ofList c.token) ≠ lowercaseString f.token) →
      e'.query text = e.query text ∧ e'.graph? text = e.graph? text) ∧
    ∀ token, lowercaseString token = lowercaseString f.token →
      ∃ e'', e'.removeFilter token = .ok (true, e'') ∧
        ∀ text, e''.query text = e.query text ∧ e''.graph? text = e.graph? text := by
  have covered := covered_configured options follows
  exact ⟨fun text => query_of_registerFilter covered own done,
    fun token => query_of_removeFilter covered own done⟩

/-- The two sides, as values of the program's own with a written form. -/
def sides : Enumeration Bool Bool := ⟨"Side", [("left", true), ("right", false)], id, some⟩

/-- The parser of the sides, and no other. -/
def declaredSides (name : String) : Option (ValueParser Bool) :=
  if name = "Side" then ValueParser.of? sides.hostType else none

/-- A filter of the sides beside one of truth values: its parser comes to the engine, and stays, but
`left` is no side for the other filter. -/
theorem query_of_side_filter :
    let calls : List (Call Bool Bool) := [.registerFilter (.get .bool "flag" id)]
    let f : Filter Bool Bool := .get sides.hostType "Side" id
    let e := (Running.configured {} calls).engine
    (∀ c ∈ calls, c.Follows declaredSides) ∧ f.Follows declaredSides ∧
      (e.parser? (.custom "Side")).isSome = false ∧
      ∃ e', e.registerFilter f = .ok e' ∧ (e'.parser? (.custom "Side")).isSome = true ∧
        e'.query "flag:left" = e.query "flag:left" ∧
        ∃ e'', e'.removeFilter "SIDE" = .ok (true, e'') ∧
          ∀ text, e''.query text = e.query text := by
  intro calls f e
  have follows : ∀ c ∈ calls, c.Follows declaredSides := by
    intro c mem
    obtain rfl := List.mem_singleton.1 mem
    exact ⟨⟨Bool, .bool, rfl, nofun⟩, nofun⟩
  have own : f.Follows declaredSides := by
    refine ⟨⟨Bool, sides.hostType, rfl, fun name type => ?_⟩, nofun⟩
    cases type
    rfl
  have before : (e.parser? (.custom "Side")).isSome = false := by decide +kernel
  cases done : e.registerFilter f with
  | error =>
    have taken : (e.registerFilter f).isOk = true := by decide +kernel
    rw [done] at taken
    cases taken
  | ok e' =>
    obtain ⟨other, removed⟩ := query_of_other_filter follows own done
    have terms : (e.outline "flag:left").terms =
        [.clause ⟨0, "flag".toList, none, ":".toList, "left".toList⟩] := by decide +kernel
    have same := other "flag:left" fun c mem => by
      rw [terms, List.mem_singleton] at mem
      cases mem
      decide +kernel
    obtain ⟨e'', gone, queries⟩ := removed "SIDE" (by decide +kernel)
    have after : (e'.parser? (.custom "Side")).isSome = true := by
      obtain ⟨-, rfl⟩ := registerFilter_eq done
      decide +kernel
    exact ⟨follows, own, before, e', rfl, after, same.1, e'', gone, fun text => (queries text).1⟩

end Engine

end Sift
