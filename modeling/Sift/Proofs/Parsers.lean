import Mathlib.Data.List.Find
import Sift.Proofs.Inference
import Sift.Proofs.Sealing

/-!
# Custom parsers

A custom parser is tried on every value, and it takes the place of the engine's own parser of its
type. What it does not read is read as if there were no parsers of its type at all
(`Engine.CanSpare.readClause_without`): that is what the engine without the custom parser makes of
it, too, unless the text needs the engine's own parser.
-/

namespace Sift

open Number Text

variable {κ ε α : Type}

/-- What is left of a list finds what the list finds, if the first to find it is left. -/
lemma findSome?_filter_of_find? {β γ : Type} {l : List β} {g : β → Option γ} {p : β → Bool}
    (first : ∀ b, l.find? (fun b => (g b).isSome) = some b → p b = true) :
    (l.filter p).findSome? g = l.findSome? g := by
  induction l with
  | nil => rfl
  | cons b later ih =>
    rw [List.findSome?_cons]
    cases found : g b with
    | some v =>
      have kept : p b = true := first b (List.find?_cons_of_pos (by rw [found]; rfl))
      rw [List.filter_cons_of_pos kept, List.findSome?_cons, found]
    | none =>
      have ih := ih fun b' found' => first b' <| by
        rw [List.find?_cons_of_neg (by rw [found]; exact Bool.false_ne_true), found']
      cases kept : p b with
      | true => rw [List.filter_cons_of_pos kept, List.findSome?_cons, found, ih]
      | false => rw [List.filter_cons_of_neg (by rw [kept]; exact Bool.false_ne_true), ih]

/-- A parser takes the place of the first one of its type, and leaves those of other types. -/
lemma ValueParser.filter_place (p : ValueParser κ) (parsers : List (ValueParser κ)) :
    (ValueParser.place p parsers).filter (·.type ≠ p.type) = parsers.filter (·.type ≠ p.type) := by
  have dropped (later : List (ValueParser κ)) :
      (p :: later).filter (·.type ≠ p.type) = later.filter (·.type ≠ p.type) :=
    List.filter_cons_of_neg (by simp)
  induction parsers with
  | nil => exact dropped []
  | cons q later ih =>
    rw [ValueParser.place]
    split
    · next same =>
      have same : q.type = p.type := by simpa using same
      rw [dropped, List.filter_cons_of_neg (by simp [same])]
    · rw [List.filter_cons, List.filter_cons, ih]

namespace Engine

/-- An engine without the parsers that it has for a type. -/
def without (e : Engine κ ε) (type : ValueType) : Engine κ ε :=
  { e with
    customParsers := e.customParsers.filter (·.type ≠ type)
    parsers := e.parsers.filter (·.type ≠ type) }

/-- Whether an argument is read without the parsers that an engine has for a type. -/
def Spares (e : Engine κ ε) (type : ValueType) (a : Argument κ) (raw : String) : Prop :=
  a.type = type →
    (∀ q ∈ e.customParsers, q.type = type → q.parse raw = none) ∧
    ((∃ own v, a.parser? = some own ∧ own.parse raw = some v ∧ a.accepts v = true) ∨
      ∀ q, e.parser? type = some q → q.parse raw = none)

/-- Whether the texts of a clause are read without the parsers that an engine has for a type. -/
structure CanSpare (e : Engine κ ε) (type : ValueType) (c : Clause) : Prop where
  param : ∀ f a cs, e.filter? (lowercaseString (String.ofList c.token)) = some f →
    f.param? = some a → c.param = some cs →
    e.Spares type a (String.ofList (unquote (trim cs)))
  resolver : ∀ f, e.filter? (lowercaseString (String.ofList c.token)) = some f →
    f.isResolver = true → e.Spares type f.value (String.ofList (unquote c.value))
  getter : ∀ f o q, e.filter? (lowercaseString (String.ofList c.token)) = some f →
    f.isResolver = false → e.operator? (String.ofList c.operator) = some o →
    e.valueParser? o f.type (String.ofList (unquote c.value)) = some q → q.type ≠ type

variable {e e' : Engine κ ε} {type : ValueType} {c : Clause}

/-- The parser of a type is one for it. -/
lemma type_of_parser? {p : ValueParser κ} (found : e.parser? type = some p) : p.type = type := by
  simpa using List.find?_some found

/-- An engine without the parsers of a type has none for it. -/
lemma parser?_without_self (e : Engine κ ε) (type : ValueType) :
    (e.without type).parser? type = none := by
  refine List.find?_eq_none.2 fun q mem => ?_
  have other : q.type ≠ type := of_decide_eq_true (List.mem_filter.1 mem).2
  simpa using other

/-- Parsers of other types are left. -/
lemma parser?_without_of_ne {type' : ValueType} (ne : type' ≠ type) :
    (e.without type).parser? type' = e.parser? type' := by
  rw [parser?, without, List.find?_filter]
  refine List.find?_congr fun q _ => ?_
  by_cases here : q.type = type'
  · simp [here, ne]
  · simp [here]

/-- What is left are the parsers of other types. -/
lemma parser?_without (e : Engine κ ε) (type type' : ValueType) :
    (e.without type).parser? type' = (e.parser? type').filter (·.type ≠ type) := by
  cases found : e.parser? type' with
  | none =>
    by_cases own : type' = type
    · rw [own, parser?_without_self, Option.filter_none]
    · rw [parser?_without_of_ne own, found, Option.filter_none]
  | some p =>
    have typed : p.type = type' := type_of_parser? found
    by_cases own : type' = type
    · rw [own, parser?_without_self, Option.filter_some, if_neg (by simp [typed, own])]
    · rw [parser?_without_of_ne own, found, Option.filter_some, if_pos (by simp [typed, own])]

/-- A value is tried by the parsers that are left, in their order. -/
lemma valueParsers_without (e : Engine κ ε) (type : ValueType) (o : Operator κ) (left : ValueType) :
    (e.without type).valueParsers o left = (e.valueParsers o left).filter (·.type ≠ type) := by
  have toList (p? : Option (ValueParser κ)) :
      (p?.filter (·.type ≠ type)).toList = p?.toList.filter (·.type ≠ type) := by
    cases p? with
    | none => rfl
    | some p => by_cases own : p.type = type <;> simp [own]
  have filterMap (types : List ValueType) :
      types.filterMap (e.without type).parser? =
        (types.filterMap e.parser?).filter (·.type ≠ type) := by
    rw [List.filter_filterMap]
    exact List.filterMap_congr fun type' _ => parser?_without e type type'
  rw [valueParsers, valueParsers, List.filter_append, List.filter_append, filterMap, ← toList,
    parser?_without]
  rfl

/-- A value is inferred as before, if a parser that is left reads it. -/
lemma inferValue?_without {o : Operator κ} {left : ValueType} {raw : String}
    (other : ∀ q, e.valueParser? o left raw = some q → q.type ≠ type) :
    (e.without type).inferValue? o left raw = e.inferValue? o left raw := by
  have values (e : Engine κ ε) :
      e.inferValue? o left raw = (e.valueParsers o left).findSome? (·.parse raw) := rfl
  rw [values, values, valueParsers_without]
  exact findSome?_filter_of_find? fun q found => decide_eq_true (other q found)

/-- An argument is read as before, if it can spare the parsers that are gone. -/
lemma readArgument?_without {a : Argument κ} {raw : String} (spares : e.Spares type a raw) :
    (e.without type).readArgument? a raw = e.readArgument? a raw := by
  have custom : (e.without type).customParsers.filter (·.type == a.type) =
      (e.customParsers.filter (·.type == a.type)).filter (·.type ≠ type) := by
    rw [without, List.filter_filter, List.filter_filter]
    exact List.filter_congr fun q _ => Bool.and_comm _ _
  rw [readArgument?, readArgument?, custom]
  by_cases own : a.type = type
  · obtain ⟨silent, spares⟩ := spares own
    have typed (q : ValueParser κ) (mem : q ∈ e.customParsers.filter (·.type == a.type)) :
        q ∈ e.customParsers ∧ q.type = type := by
      obtain ⟨mem, same⟩ := List.mem_filter.1 mem
      exact ⟨mem, by rw [← own]; exact eq_of_beq same⟩
    have none : (e.customParsers.filter (·.type == a.type)).filter (·.type ≠ type) = [] :=
      List.filter_eq_nil_iff.2 fun q mem => by simp [(typed q mem).2]
    have silent : (e.customParsers.filter (·.type == a.type)).filterMap (·.parse raw) = [] :=
      List.filterMap_eq_nil_iff.2 fun q mem => silent q (typed q mem).1 (typed q mem).2
    -- What is left is the parser that the argument brings, and the engine's own stands behind it.
    rw [none, own, parser?_without_self, ← own]
    simp only [List.filterMap_append, silent, List.nil_append, Option.toList_none, List.append_nil]
    rcases spares with ⟨brought, v, parser, read, accepted⟩ | rejects
    · simp [parser, read, accepted]
    · have silent : (e.parser? a.type).toList.filterMap (·.parse raw) = [] :=
        List.filterMap_eq_nil_iff.2 fun q mem => rejects q (by rw [← own]; simpa using mem)
      rw [silent, List.append_nil]
  · have kept : (e.customParsers.filter (·.type == a.type)).filter (·.type ≠ type) =
        e.customParsers.filter (·.type == a.type) := by
      refine List.filter_eq_self.2 fun q mem => ?_
      have typed : q.type = a.type := eq_of_beq (List.mem_filter.1 mem).2
      simpa [typed] using own
    rw [kept, parser?_without_of_ne own]

/-- A clause is read as before, if it can spare the parsers that are gone. -/
lemma CanSpare.readClause_without (spares : e.CanSpare type c) :
    (e.without type).readClause c = e.readClause c := by
  refine readClause_congr rfl rfl rfl rfl fun f filter => ?_
  constructor
  case param =>
    intro a cs own text
    exact readArgument?_without (spares.param f a cs filter own text)
  case resolver =>
    intro resolver
    exact readArgument?_without (spares.resolver f filter resolver)
  case getter =>
    intro getter o operator
    exact inferValue?_without fun q => spares.getter f o q filter getter operator

/-! What is registered, and what it does not read. -/

/-- Whether a way to read members of a host type fails on the value of a clause, and on the text of
its parameter if the parameter is of the type. -/
structure Unread (e : Engine κ ε) (h : HostType κ α) (read : String → Option α) (c : Clause) :
    Prop where
  value : read (String.ofList (unquote c.value)) = none
  param : ∀ f a cs, e.filter? (lowercaseString (String.ofList c.token)) = some f →
    f.param? = some a → a.type = h.type → c.param = some cs →
    read (String.ofList (unquote (trim cs))) = none

section Registered

variable {h : HostType κ α} {read : String → Option α}

/-- A parser that is registered is a custom parser and that of its type. -/
lemma registerParser_eq (done : e.registerParser h read = .ok e') :
    e' = { e with
      customParsers := ValueParser.place (.reading h read) e.customParsers
      parsers := ValueParser.place (.reading h read) e.parsers } := by
  cases of_unsealed done
  rfl

/-- Without the parsers of a type it makes no difference whether one has been registered. -/
lemma without_of_registerParser (done : e.registerParser h read = .ok e') :
    e'.without h.type = e.without h.type := by
  have custom := ValueParser.filter_place (.reading h read) e.customParsers
  have parsers := ValueParser.filter_place (.reading h read) e.parsers
  rw [ValueParser.reading] at custom parsers
  obtain rfl := registerParser_eq done
  simp only [without, ValueParser.reading, custom, parsers]

/-- The parsers of a type are those that have been registered for it. -/
lemma eq_of_registerParser (fresh : ∀ q ∈ e.customParsers, q.type ≠ h.type)
    (done : e.registerParser h read = .ok e') {q : ValueParser κ} (typed : q.type = h.type)
    (mem : q ∈ e'.customParsers ∨ e'.parser? h.type = some q) : q = .reading h read := by
  obtain rfl := registerParser_eq done
  rcases mem with mem | found
  · rcases ValueParser.mem_of_mem_place mem with rfl | mem
    · rfl
    · exact absurd typed (fresh q mem)
  · have same : (ValueParser.reading h read).type = h.type := rfl
    rw [parser?, ValueParser.find?_place, if_pos same] at found
    exact (Option.some.inj found).symm

/-- What a new parser does not read can spare the parsers of the type. -/
lemma canSpare_of_registerParser (fresh : ∀ q ∈ e.customParsers, q.type ≠ h.type)
    (done : e.registerParser h read = .ok e') (unread : e.Unread h read c) :
    e'.CanSpare h.type c := by
  have silent (q : ValueParser κ) (typed : q.type = h.type)
      (mem : q ∈ e'.customParsers ∨ e'.parser? h.type = some q) {raw : String}
      (none : read raw = none) : q.parse raw = Option.none := by
    rw [eq_of_registerParser fresh done typed mem]
    exact congrArg (Option.map h.toValue) none
  have spares {raw : String} {a : Argument κ} (none : a.type = h.type → read raw = none) :
      e'.Spares h.type a raw :=
    fun own => ⟨fun q mem typed => silent q typed (.inl mem) (none own),
      .inr fun q found => silent q (type_of_parser? found) (.inr found) (none own)⟩
  have filters : e'.filter? = e.filter? := by rw [registerParser_eq done]; rfl
  constructor
  case param =>
    intro f a cs filter param text
    rw [filters] at filter
    exact spares fun own => unread.param f a cs filter param own text
  case resolver =>
    intro f _ _
    exact spares fun _ => unread.value
  case getter =>
    intro f o q _ _ _ reads typed
    obtain ⟨v, parsed, -⟩ := exists_of_valueParser? reads
    -- A value is read by a custom parser, or by an engine's own for the operator or the filter.
    have mem : q ∈ e'.customParsers ∨ e'.parser? h.type = some q := by
      rcases List.mem_append.1 (List.mem_of_find?_eq_some reads) with mem | mem
      · exact .inl mem
      · rcases List.mem_append.1 mem with mem | mem
        · obtain ⟨type, -, found⟩ := List.mem_filterMap.1 mem
          rw [← typed, type_of_parser? found]
          exact .inr found
        · have found : e'.parser? f.type = some q := by simpa using mem
          rw [← typed, type_of_parser? found]
          exact .inr found
    rw [silent q typed mem unread.value] at parsed
    cases parsed

end Registered

/-- A custom parser takes nothing away but the engine's own parser of its type. A clause whose texts
it does not read means what it means without parsers of the type, and so what it meant before if it
can spare them; and a text of such clauses has the query that it had. -/
theorem readClause_of_registerParser {h : HostType κ α} {read : String → Option α}
    (fresh : ∀ q ∈ e.customParsers, q.type ≠ h.type) (done : e.registerParser h read = .ok e') :
    (∀ c, e.Unread h read c →
      e'.readClause c = (e.without h.type).readClause c ∧
        (e.CanSpare h.type c → e'.readClause c = e.readClause c)) ∧
    ∀ text, (∀ c, .clause c ∈ (e.outline text).terms → e.Unread h read c ∧ e.CanSpare h.type c) →
      e'.query text = e.query text ∧ e'.graph? text = e.graph? text := by
  have clauses : ∀ c, e.Unread h read c →
      e'.readClause c = (e.without h.type).readClause c ∧
        (e.CanSpare h.type c → e'.readClause c = e.readClause c) := by
    intro c unread
    -- Without parsers of the type both engines are the same, and the new one can spare its own.
    have here : e'.readClause c = (e.without h.type).readClause c := by
      rw [← without_of_registerParser done]
      exact (canSpare_of_registerParser fresh done unread).readClause_without.symm
    exact ⟨here, fun spares => here.trans spares.readClause_without⟩
  refine ⟨clauses, fun text each => ?_⟩
  have registered := registerParser_eq done
  refine query_congr (by rw [registered]) (by rw [registered]) (by rw [registered]) fun c mem => ?_
  obtain ⟨unread, spares⟩ := each c mem
  exact (clauses c unread).2 spares

/-- The integer that is written as a word. -/
def readOne (raw : String) : Option IntRange.value.Member :=
  if raw = "one" then some ⟨1, by decide⟩ else none

/-- The clause that compares with a half. -/
def withHalf : Clause := ⟨0, ['n'], none, ['='], ['0', '.', '5']⟩

/-- The integers of an engine make nothing of a half. -/
lemma canSpare_half : numbered.CanSpare .int withHalf := by
  have filter : numbered.filter? (lowercaseString (String.ofList withHalf.token)) =
      some (.get (.integer .value) "n" id) := rfl
  have operator : numbered.operator? (String.ofList withHalf.operator) =
      some Relation.eq.operator := rfl
  have reads : (numbered.valueParser? Relation.eq.operator .int "0.5").map ValueParser.type =
      some .object := by decide +kernel
  constructor
  case param =>
    intro f a cs _ _ text
    cases text
  case resolver =>
    intro f found resolver
    cases filter.symm.trans found
    cases resolver
  case getter =>
    intro f o q found _ known first typed
    cases filter.symm.trans found
    cases operator.symm.trans known
    have first : numbered.valueParser? Relation.eq.operator .int "0.5" = some q := first
    rw [first, Option.map_some, typed] at reads
    cases reads

/-- Where integers can be written as words, too, a half is compared as before. -/
theorem readClause_of_half :
    (∀ q ∈ numbered.customParsers, q.type ≠ .int) ∧
      numbered.Unread (.integer .value) readOne withHalf ∧ numbered.CanSpare .int withHalf ∧
      ∃ e', numbered.registerParser (.integer .value) readOne = .ok e' ∧
        e'.readClause withHalf = (numbered.without .int).readClause withHalf ∧
        e'.readClause withHalf = numbered.readClause withHalf ∧
        e'.query "n=0.5" = numbered.query "n=0.5" ∧ (numbered.query "n=0.5").isValid = true ∧
        (numbered.query "n=one").test ⟨1, by decide⟩ = .ok false ∧
        (e'.query "n=one").test ⟨1, by decide⟩ = .ok true := by
  have fresh : ∀ q ∈ numbered.customParsers, q.type ≠ .int := List.forall_mem_nil _
  have unread : numbered.Unread (.integer .value) readOne withHalf :=
    ⟨by decide, fun _ _ _ _ _ _ text => nomatch text⟩
  have terms : (numbered.outline "n=0.5").terms = [.clause withHalf] := by decide +kernel
  obtain ⟨e', done⟩ : ∃ e', numbered.registerParser (.integer .value) readOne = .ok e' := ⟨_, rfl⟩
  obtain ⟨clauses, queries⟩ := readClause_of_registerParser fresh done
  have same := queries "n=0.5" fun c mem => by
    rw [terms, List.mem_singleton] at mem
    cases mem
    exact ⟨unread, canSpare_half⟩
  refine ⟨fresh, unread, canSpare_half, e', done, (clauses _ unread).1,
    (clauses _ unread).2 canSpare_half, same.1, ?_⟩
  cases done
  refine ⟨?_, ?_, ?_⟩ <;> decide +kernel

/-- A parser of strings that reads none leaves the engine without one that reads them all. -/
theorem five_without_strings :
    let e : Engine Empty String := { filters := [.get .string "t" id] }
    e.Reachable ∧ (∀ q ∈ e.customParsers, q.type ≠ .string) ∧
      ∃ e', e.registerParser .string (fun _ => none) = .ok e' ∧
        (e.query "t=5").isValid = true ∧ (e'.query "t=5").isValid = true ∧
        (e.query "t=5").test "5.0" = .ok false ∧ (e'.query "t=5").test "5.0" = .ok true := by
  intro e
  have registered : (Engine.withOptions {}).registerFilter (.get .string "t" id) = .ok e := rfl
  refine ⟨.step (.withOptions {}) (.registerFilter _ registered), List.forall_mem_nil _, _, rfl, ?_⟩
  refine ⟨by decide +kernel, by decide +kernel, by decide +kernel, by decide +kernel⟩

end Engine

end Sift
