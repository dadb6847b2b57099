import Sift.Proofs.Consultation
import Sift.Proofs.Identifiers
import Sift.Proofs.Runs

/-!
# Declared filters

A filter is declared by host types: that of the values that it reads or is asked about, and that of
its parameter. The values of the query have a coarser type, which many host types share, and are read
by parsers of all sorts. But a value is taken for an argument only if it is a member of the host type
(`Engine.accepts_of_readArgument?`). So the function of the declaration is given what it expects
(`Engine.Means.decides`), and an operation fails only where that function itself does
(`Declaration.Decides.exists_of_error`).
-/

namespace Sift

open Number Text

variable {κ ε : Type}

/-- The ways to declare a filter: by host types, and by a function that looks at elements. -/
inductive Declaration (κ ε : Type) : Type 1 where
  | get {α : Type} (L : HostType κ α) (read : ε → α)
  | tryGet {α : Type} (L : HostType κ α) (read : ε → Except String α)
  | getWith {π α : Type} (P : HostType κ π) (L : HostType κ α) (read : ε → π → α)
  | resolver {α : Type} (V : HostType κ α) (resolve : ε → String → α → Comparison → Bool)
  | resolverWith {π α : Type} (P : HostType κ π) (V : HostType κ α)
      (resolve : ε → π → String → α → Comparison → Bool)

namespace Declaration

/-- The filter that is declared under a token. -/
def filter (token : String) : Declaration κ ε → Filter κ ε
  | get L read => .get L token read
  | tryGet L read => .tryGet L token read
  | getWith P L read => .getWith P L token read
  | resolver V resolve => .resolver V token resolve
  | resolverWith P V resolve => .resolverWith P V token resolve

/-- Whether an operation is decided by the function of a declaration. The function is given the
parameter and the value as members of the host types that are declared for them; what a getter reads
is compared by a handler. -/
def Decides (o : Operation κ ε) : Declaration κ ε → Prop
  | get L read =>
    o.param? = none ∧
      ∃ h : Handler κ, ∀ x, o.test x = .ok (h.call (L.toValue (read x)) o.value o.comparison)
  | tryGet L read =>
    o.param? = none ∧
      ∃ h : Handler κ, ∀ x, o.test x =
        match read x with
        | .ok a => .ok (h.call (L.toValue a) o.value o.comparison)
        | .error reason => .error (o.failure reason)
  | getWith P L read =>
    ∃ p, o.param?.bind P.ofValue? = some p ∧
      ∃ h : Handler κ, ∀ x, o.test x = .ok (h.call (L.toValue (read x p)) o.value o.comparison)
  | resolver V resolve =>
    o.param? = none ∧
      ∃ v, V.ofValue? o.value = some v ∧
        ∀ x, o.test x = .ok (resolve x o.operator v o.comparison)
  | resolverWith P V resolve =>
    ∃ p, o.param?.bind P.ofValue? = some p ∧
      ∃ v, V.ofValue? o.value = some v ∧
        ∀ x, o.test x = .ok (resolve x p o.operator v o.comparison)

end Declaration

/-- Whether a filter is one that is declared so, for some of the operators and with a comparison of
its own, perhaps. -/
def Filter.IsDeclared (f : Filter κ ε) (d : Declaration κ ε) : Prop :=
  ∃ token operators comparison?, f = { d.filter token with operators, comparison? }

/-- A filter is declared under another token, too. -/
lemma Filter.IsDeclared.withToken {f : Filter κ ε} {d : Declaration κ ε} (declared : f.IsDeclared d)
    (token : String) : IsDeclared { f with token } d := by
  obtain ⟨_, operators, comparison?, rfl⟩ := declared
  refine ⟨token, operators, comparison?, ?_⟩
  cases d <;> rfl

namespace Filter

/-- A parameter that is a member is read as it. -/
lemma readParam_of_member {π : Type} {P : HostType κ π} {param? : Option (Value κ)} {p : π}
    (member : param?.bind P.ofValue? = some p) : readParam P param? = .ok p := by
  rw [readParam, member]

/-- A value that is a member is read as it. -/
lemma readValue_of_member {α : Type} {V : HostType κ α} {value : Value κ} {v : α}
    (member : V.ofValue? value = some v) : readValue V value = .ok v := by
  rw [readValue, member]

end Filter

/-- Only a function that may fail makes an operation fail, and says why. -/
lemma Declaration.Decides.exists_of_error {d : Declaration κ ε} {o : Operation κ ε} {x : ε}
    {failure : Failure} (decides : d.Decides o) (h : o.test x = .error failure) :
    ∃ (α : Type) (L : HostType κ α) (read : ε → Except String α), d = .tryGet L read ∧
      read x = .error failure.reason := by
  cases d with
  | get L read =>
    obtain ⟨-, handler, test⟩ := decides
    cases (test x).symm.trans h
  | tryGet L read =>
    obtain ⟨-, handler, test⟩ := decides
    refine ⟨_, L, read, rfl, ?_⟩
    rw [test] at h
    split at h
    · cases h
    · next reason answer =>
      cases h
      exact answer
  | getWith P L read =>
    obtain ⟨p, -, handler, test⟩ := decides
    cases (test x).symm.trans h
  | resolver V resolve =>
    obtain ⟨-, v, -, test⟩ := decides
    cases (test x).symm.trans h
  | resolverWith P V resolve =>
    obtain ⟨p, -, v, -, test⟩ := decides
    cases (test x).symm.trans h

namespace Engine

variable {e : Engine κ ε} {f : Filter κ ε} {d : Declaration κ ε}

/-- What is read for an argument is accepted by it, whichever parser has read it. -/
lemma accepts_of_readArgument? {a : Argument κ} {raw : String} {v : Value κ}
    (h : e.readArgument? a raw = some v) : a.accepts v = true :=
  List.find?_some h

/-- What an argument accepts is a member of its host type. -/
lemma exists_of_accepts {α : Type} {h : HostType κ α} {v : Value κ}
    (accepts : (Argument.of h).accepts v = true) : ∃ a, h.ofValue? v = some a :=
  Option.isSome_iff_exists.1 accepts

/-- A filter without a parameter is given none. -/
lemma readParam_of_none {token : String} {text? : Option (List Char)} {param? : Option (Value κ)}
    (takesNone : f.param? = none) (h : e.readParam f token text? = .ok param?) : param? = none := by
  unfold readParam at h
  rw [takesNone] at h
  cases text? with
  | some text => cases h
  | none =>
    cases h
    rfl

/-- A filter with a parameter is given a member of the parameter's host type. -/
lemma readParam_of_some {π : Type} {P : HostType κ π} {token : String}
    {text? : Option (List Char)} {param? : Option (Value κ)} (takes : f.param? = some (.of P))
    (h : e.readParam f token text? = .ok param?) :
    ∃ p, param?.bind P.ofValue? = some p := by
  unfold readParam at h
  rw [takes] at h
  cases text? with
  | none => cases h
  | some text =>
    dsimp only at h
    split at h
    · next read =>
      cases h
      exact exists_of_accepts (accepts_of_readArgument? read)
    · cases h

/-- A resolver decides its clauses, with a value that has been read for it. -/
lemma readValue_of_resolver {o : Operator κ} {raw : String} {v : Value κ} {decider : Decider κ ε}
    {resolve : ε → Option (Value κ) → String → Value κ → Comparison → Except String Bool}
    (access : f.access = .resolver resolve) (h : e.readValue f o raw = .ok (v, decider)) :
    f.value.accepts v = true ∧ decider = .resolver resolve := by
  rw [readValue, access] at h
  dsimp only at h
  split at h
  · next read =>
    cases h
    exact ⟨accepts_of_readArgument? read, rfl⟩
  · cases h

/-- A getter's clauses are decided by a handler. -/
lemma readValue_of_getter {o : Operator κ} {raw : String} {v : Value κ} {decider : Decider κ ε}
    {get : ε → Option (Value κ) → Except String (Value κ)}
    (access : f.access = .getter get) (h : e.readValue f o raw = .ok (v, decider)) :
    ∃ handler, e.inferValue? o f.type raw = some v ∧ o.resolve? f.type v.type = some handler ∧
      decider = .handler get handler := by
  rw [readValue, access] at h
  dsimp only at h
  split at h
  · cases h
  · next inferred =>
    split at h
    · next handler resolved =>
      cases h
      exact ⟨handler, inferred, resolved, rfl⟩
    · cases h

/-- An operation of a declared filter is decided by the function that it is declared with. -/
lemma Means.decides {c : Clause} {o : Operation κ ε} (means : e.Means c o)
    (filter : e.filter? o.filter = some f) (declared : f.IsDeclared d) : d.Decides o := by
  cases means with
  | unknown absent _ => simp [absent] at filter
  | known found _ _ param value =>
    cases found.symm.trans filter
    obtain ⟨token, operators, comparison?, rfl⟩ := declared
    -- a getter is called by a handler, a resolver with the value; either may take a parameter
    cases d with
    | get L read =>
      obtain ⟨h, -, -, rfl⟩ := readValue_of_getter rfl value
      exact ⟨readParam_of_none rfl param, h, fun x => rfl⟩
    | tryGet L read =>
      obtain ⟨h, -, -, rfl⟩ := readValue_of_getter rfl value
      refine ⟨readParam_of_none rfl param, h, fun x => ?_⟩
      cases answer : read x with
      | ok a => simp [Operation.test, answer, Except.map]
      | error reason => simp [Operation.test, answer, Except.map]
    | getWith P L read =>
      obtain ⟨h, -, -, rfl⟩ := readValue_of_getter rfl value
      obtain ⟨p, member⟩ := readParam_of_some rfl param
      refine ⟨p, member, h, fun x => ?_⟩
      simp only [Operation.test, Filter.readParam_of_member member]
      rfl
    | resolver V resolve =>
      obtain ⟨accepted, rfl⟩ := readValue_of_resolver rfl value
      obtain ⟨v, member⟩ := exists_of_accepts accepted
      refine ⟨readParam_of_none rfl param, v, member, fun x => ?_⟩
      simp only [Operation.test, Filter.readValue_of_member member]
      rfl
    | resolverWith P V resolve =>
      obtain ⟨accepted, rfl⟩ := readValue_of_resolver rfl value
      obtain ⟨v, member⟩ := exists_of_accepts accepted
      obtain ⟨p, known⟩ := readParam_of_some rfl param
      refine ⟨p, known, v, member, fun x => ?_⟩
      simp only [Operation.test, Filter.readParam_of_member known,
        Filter.readValue_of_member member]
      rfl

/-- A filter that is found is registered. -/
lemma mem_of_filter? {token : String} (h : e.filter? token = some f) : f ∈ e.filters := by
  rcases Option.or_eq_some_iff.1 h with found | ⟨-, found⟩
  · exact List.mem_of_find?_eq_some found
  · exact List.mem_of_find?_eq_some found

/-- The default filter does not fail. -/
lemma Means.filter?_of_error {c : Clause} {o : Operation κ ε} {x : ε} {failure : Failure}
    (means : e.Means c o) (h : o.test x = .error failure) :
    ∃ f, e.filter? o.filter = some f := by
  cases means with
  | known found _ _ _ _ => exact ⟨_, found⟩
  | unknown _ _ => cases h

end Engine

namespace Running

variable {actions : List (Action κ ε)}

/-- If the filters that are registered are declared, a filter that is asked for is declared. -/
lemma Asked.isDeclared (declared : ∀ g, .call (.registerFilter g) ∈ actions → ∃ d, g.IsDeclared d)
    {f : Filter κ ε} (asked : Asked actions f) : ∃ d, f.IsDeclared d := by
  obtain ⟨g, mem, rfl⟩ := asked
  obtain ⟨d, declared⟩ := declared g mem
  exact ⟨d, declared.withToken _⟩

/-- After any sequence of calls and queries the operations of a query's filters are decided by the
functions that the filters are declared with, given members of the host types declared for them.
So nothing that is tested is refused but by a declared function that may fail. -/
theorem arguments_fit (options : Options) (actions : List (Action κ ε))
    (declared : ∀ g, .call (.registerFilter g) ∈ actions → ∃ d, g.IsDeclared d)
    (text : String) :
    let e := (after options actions).engine
    let q := ((after options actions).parse text).1.1
    (∀ t ∈ q.tree?, ∀ leaf ∈ t.leaves, ∀ o, leaf.2 = .filter o →
      ∀ f, e.filter? o.filter = some f → ∃ d, f.IsDeclared d ∧ d.Decides o) ∧
    (q.isValid = true → ∀ x error, q.test x = .error error →
      ∃ failure, error = .evaluation failure ∧
        ∃ (f : Filter κ ε) (α : Type) (L : HostType κ α) (read : ε → Except String α),
          e.filter? failure.filter = some f ∧ f.IsDeclared (.tryGet L read) ∧
          read x = .error failure.reason) := by
  intro e q
  have query : q = e.query text := parse_after options actions text
  rw [query]
  have all : ∀ f ∈ e.filters, ∃ d, f.IsDeclared d := fun f mem =>
    (asked_after options actions f mem).isDeclared declared
  constructor
  · intro t tree leaf mem o filter f found
    obtain ⟨c, means⟩ := e.exists_clause_of_leaf tree mem filter
    obtain ⟨d, declared⟩ := all f (Engine.mem_of_filter? found)
    exact ⟨d, declared, means.decides found declared⟩
  · intro valid x error h
    obtain ⟨errors, t, tree⟩ := Query.exists_of_isValid valid
    obtain ⟨failure, failed, rfl⟩ := Query.failure_of_test errors tree h
    obtain ⟨leaf, mem, o, filter, test⟩ := Query.exists_leaf_of_failure failed
    obtain ⟨c, means⟩ := e.exists_clause_of_leaf tree mem filter
    obtain ⟨f, found⟩ := means.filter?_of_error test
    obtain ⟨d, declared⟩ := all f (Engine.mem_of_filter? found)
    obtain ⟨α, L, read, rfl, answer⟩ := (means.decides found declared).exists_of_error test
    obtain ⟨reason, rfl⟩ := Operation.exists_of_test test
    exact ⟨o.failure reason, rfl, f, α, L, read, found, declared, answer⟩

/-- Two filters over lists: one for the items at an index, both of eight bits, and one that fails on
the empty list. A word is read as an integer that does not have eight bits. -/
def itemActions : List (Action Empty (List Int)) := [
  .call (.registerFilter (.resolverWith (.integer (.unsigned 8)) (.integer (.unsigned 8)) "item"
    fun xs i _ v _ => xs[i.val.toNat]? == some v.val)),
  .call (.registerFilter (.tryGet .bool "filled"
    fun xs => if xs = [] then .error "no items" else .ok true)),
  .call (.registerParser (.integer .value)
    fun raw => if raw = "many" then IntRange.value.ofInt? 300 else none)]

/-- The filters of the example are declared. -/
lemma isDeclared_of_mem_itemActions {g : Filter Empty (List Int)}
    (mem : .call (.registerFilter g) ∈ itemActions) : ∃ d, g.IsDeclared d := by
  rcases mem with _ | ⟨_, _ | ⟨_, _ | ⟨_, ⟨⟩⟩⟩⟩
  · exact ⟨.resolverWith _ _ _, "item", [], none, rfl⟩
  · exact ⟨.tryGet _ _, "filled", [], none, rfl⟩

/-- What the first filter is asked about fits, and only the second one fails. -/
theorem arguments_of_items_fit :
    let s := after {} itemActions
    let e := s.engine
    let q := (s.parse "item(1)=7 filled=true").1.1
    q.isValid = true ∧ q.test [] = .ok false ∧ q.test [5, 7] = .ok true ∧
      (s.parse "filled=true").1.1.test [] =
        .error (.evaluation ⟨"filled", "=", "true", "no items"⟩) ∧
      (s.parse "item(1)=many").1.1.isValid = false ∧
      (∀ t ∈ q.tree?, ∀ leaf ∈ t.leaves, ∀ o, leaf.2 = .filter o →
        ∀ f, e.filter? o.filter = some f → ∃ d, f.IsDeclared d ∧ d.Decides o) ∧
      ∃ (f : Filter Empty (List Int)) (α : Type) (L : HostType Empty α)
        (read : List Int → Except String α),
        e.filter? "filled" = some f ∧ f.IsDeclared (.tryGet L read) ∧
        read [] = .error "no items" := by
  intro s e q
  have declared : ∀ g, .call (.registerFilter g) ∈ itemActions → ∃ d, g.IsDeclared d :=
    fun _ => isDeclared_of_mem_itemActions
  have failed : (s.parse "filled=true").1.1.test [] =
      .error (.evaluation ⟨"filled", "=", "true", "no items"⟩) := by
    decide +kernel
  obtain ⟨-, failures⟩ := arguments_fit {} itemActions declared "filled=true"
  obtain ⟨failure, carried, f, α, L, read, found, declaration, answer⟩ :=
    failures (by decide +kernel) [] _ failed
  cases carried
  exact ⟨by decide +kernel, by decide +kernel, by decide +kernel, failed, by decide +kernel,
    (arguments_fit {} itemActions declared "item(1)=7 filled=true").1, f, α, L, read, found,
    declaration, answer⟩

end Running

end Sift
