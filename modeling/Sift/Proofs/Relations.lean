import Sift.Proofs.Inference
import Sift.Proofs.Rendering

/-!
# The six comparisons

Clauses that compare one filter with one value by `=`, `!=`, `<`, `>`, `<=` and `>=` are given their
meaning one by one: each operator has handlers of its own, and truth values have none where order is
asked for. They agree all the same (`Engine.comparisons_agree`): they read one value, and their
handlers see the two values in one order, if in any (`Relation.exists_order`).
-/

namespace Sift

open Number Text

variable {κ ε : Type}

/-! ### Truth values and loose reading -/

/-- A text that writes a truth value begins with a letter of its. -/
lemma exists_of_readBool? {cs : List Char} {b : Bool} (h : readBool? cs = some b) :
    ∃ c later, cs = c :: later ∧ (c = 't' ∨ c = 'T' ∨ c = 'f' ∨ c = 'F') := by
  cases cs with
  | nil => cases h
  | cons c later =>
    refine ⟨c, later, rfl, ?_⟩
    unfold readBool? at h
    split at h
    · next e =>
      have t : c = 't' ∨ c = 'T' :=
        eq_or_eq_of_toLower rfl (List.cons_eq_cons.1 (beq_iff_eq.1 e)).1
      rcases t with t | t <;> simp [t]
    · split at h
      · next e =>
        have f : c = 'f' ∨ c = 'F' :=
          eq_or_eq_of_toLower rfl (List.cons_eq_cons.1 (beq_iff_eq.1 e)).1
        rcases f with f | f <;> simp [f]
      · cases h

/-- What writes a truth value writes no integer. -/
lemma readInteger?_of_readBool? {cs : List Char} {b : Bool} (h : readBool? cs = some b) :
    IntRange.value.read? cs = none := by
  obtain ⟨c, later, rfl, letter⟩ := exists_of_readBool? h
  rcases letter with rfl | rfl | rfl | rfl <;>
    simp [IntRange.read?, IntRange.readInt?, readDigits?]

/-- What writes a truth value writes no floating-point number. -/
lemma readFloat?_of_readBool? {cs : List Char} {b : Bool} (h : readBool? cs = some b) :
    Binary.read? .double cs = none := by
  obtain ⟨c, later, rfl, letter⟩ := exists_of_readBool? h
  rcases letter with rfl | rfl | rfl | rfl <;>
    simp [Binary.read?, readUnsigned?, splitDigits, readName?, equalIgnoringAsciiCase]

/-- A text that writes a truth value is loosely read as it. -/
lemma Value.ofText_of_readBool? {raw : String} {b : Bool}
    (h : readBool? (trim raw.toList) = some b) : (ofText raw : Value κ) = .bool b := by
  simp only [ofText, readInteger?_of_readBool? h, readFloat?_of_readBool? h, h, Option.filter_none]

namespace Relation

variable {left right : ValueType}

/-! ### The handlers of a relation -/

/-- All relations ask for the same types, unless truth values stand at the left. -/
lemma rightTypes_operator (r : Relation) (ne : left ≠ .bool) :
    (r.operator : Operator κ).rightTypes left = (eq.operator : Operator κ).rightTypes left := by
  have others (r : Relation) : (r.operator.handlers.filter (Operator.appliesTo left)).map
      (Handler.right (κ := κ)) = [ValueType.object, .string, .int, .float].filter fun type =>
        type == left || type == .object := by
    have bool : (if r.isEquality then [r.boolHandler] else [] : List (Handler κ)).filter
        (Operator.appliesTo left) = [] := by
      refine List.filter_eq_nil_iff.2 fun h mem => ?_
      split at mem
      · cases List.mem_singleton.1 mem
        simpa [Operator.appliesTo, boolHandler, Handler.of, HostType.bool] using ne.symm
      · cases mem
    rw [operator, List.filter_append, bool, List.append_nil]
    cases left <;> rfl
  rw [Operator.rightTypes, Operator.rightTypes, others, others]

/-- Only equations ask for a truth value at the right of one. -/
lemma rightTypes_operator_bool (r : Relation) :
    (r.operator : Operator κ).rightTypes .bool =
      if r.isEquality then [.bool, .object] else [.object] := by
  cases r <;> rfl

/-- The handlers of a relation are for two values of one type. -/
lemma left_eq_right {r : Relation} {h : Handler κ} (mem : h ∈ r.operator.handlers) :
    h.left = h.right := by
  rcases handler_cases mem with rfl | rfl | rfl | rfl | rfl <;> rfl

/-- The handler of a relation for a pair of types. -/
def handlerFor (r : Relation) (left right : ValueType) : Handler κ :=
  (r.operator.resolve? left right).getD r.looseHandler

/-- The handlers of a relation are chosen by the types of both sides. -/
lemma resolve?_operator (r : Relation) (left right : ValueType) :
    (r.operator : Operator κ).resolve? left right = some (r.handlerFor left right) := by
  have loose : (r.operator : Operator κ).handler? .object .object = some r.looseHandler := rfl
  have found : ((r.operator : Operator κ).resolve? left right).isSome := by
    rw [Operator.resolve?, loose, Option.isSome_or, Option.isSome_or, Option.isSome_some,
      Bool.or_true, Bool.or_true]
  obtain ⟨h, e⟩ := Option.isSome_iff_exists.1 found
  rw [handlerFor, e, Option.getD_some]

/-- Values of two types are compared loosely. -/
lemma handlerFor_of_ne (r : Relation) (ne : left ≠ right) (specific : right ≠ .object) :
    (r.handlerFor left right : Handler κ) = r.looseHandler := by
  have none {left : ValueType} (ne : left ≠ right) :
      (r.operator : Operator κ).handler? left right = none := by
    cases found : (r.operator : Operator κ).handler? left right with
    | none => rfl
    | some h =>
      obtain ⟨mem, rfl, rfl⟩ := Operator.isFor_of_handler? found
      exact absurd (left_eq_right mem) ne
  rw [handlerFor, Operator.resolve?, none ne, none specific.symm]
  rfl

/-- The handler for any values decides by comparing them loosely. -/
lemma call_looseHandler {r : Relation} (ne : r ≠ contains) (a b : Value κ) (cmp : Comparison) :
    r.looseHandler.call a b cmp = r.holds (a.looseCompare cmp b) := by
  have answer : r.looseHandler.answer? a b cmp = some (r.holds (a.looseCompare cmp b)) :=
    congrArg some (if_neg ne)
  rw [Handler.call, answer, Option.getD_some]

/-- Integers are compared as they are. -/
lemma call_intHandler (r : Relation) (m n : IntRange.value.Member) (cmp : Comparison) :
    r.intHandler.call (.int m.val : Value κ) (.int n.val) cmp =
      r.holds (some (compare m.val n.val)) := by
  have member (n : IntRange.value.Member) : IntRange.value.ofInt? n.val = some n :=
    dif_pos n.property
  have answer : r.intHandler.answer? (.int m.val : Value κ) (.int n.val) cmp =
      some (r.holds (some (compare m.val n.val))) := by
    simp only [intHandler, Handler.of, HostType.integer, member]
    rfl
  rw [Handler.call, answer, Option.getD_some]

/-- Two values stand in one order, or in none, and every relation asks for it, whatever handler it
has for them. -/
lemma exists_order {a b : Value κ} (isOf : a.IsOf left) (value : b.IsOf .object)
    (cmp : Comparison) :
    ∃ order, ∀ r : Relation, r ≠ contains →
      (r.handlerFor left b.type).call a b cmp = r.holds order := by
  by_cases same : left = b.type
  · subst same
    have type := isOf.type_eq b.type_ne_object
    cases b with
    | string t =>
      cases a with
      | string s =>
        exact ⟨some (cmp.compare s t), fun r ne => congrArg (Option.getD · false)
          (congrArg some (if_neg ne))⟩
      | int _ | float _ | bool _ | custom _ => cases type
    | int m =>
      cases a with
      | int n =>
        exact ⟨some (compare n m), fun r _ =>
          r.call_intHandler ⟨n, isOf.inRange n rfl⟩ ⟨m, value.inRange m rfl⟩ cmp⟩
      | string _ | float _ | bool _ | custom _ => cases type
    | float y =>
      cases a with
      | float x =>
        exact ⟨(x.convert .double).compare? (y.convert .double), fun r _ => rfl⟩
      | string _ | int _ | bool _ | custom _ => cases type
    | bool y =>
      cases a with
      | bool x =>
        refine ⟨some (compare x y), fun r _ => ?_⟩
        cases r <;> rfl
      | string _ | int _ | float _ | custom _ => cases type
    | custom y =>
      refine ⟨a.looseCompare cmp (.custom y), fun r ne => ?_⟩
      rw [← call_looseHandler ne]
      cases r <;> rfl
  · -- values of different types are compared loosely, whichever handler is found for them
    refine ⟨a.looseCompare cmp b, fun r ne => ?_⟩
    rw [handlerFor_of_ne r same b.type_ne_object, call_looseHandler ne]

/-- Answers that the six comparisons can have together. -/
structure Coherent (answer : Relation → Bool) : Prop where
  ne_eq : answer ne = !answer eq
  le_eq : answer le = (answer lt || answer eq)
  ge_eq : answer ge = (answer gt || answer eq)
  lt_or_eq : (answer lt && answer eq) = false
  gt_or_eq : (answer gt && answer eq) = false
  lt_or_gt : (answer lt && answer gt) = false

/-- The relations that hold of one order are coherent. -/
lemma coherent_holds (order : Option Ordering) : Coherent fun r => r.holds order := by
  rcases order with - | - | - | - <;> constructor <;> rfl

end Relation

/-- The clause with the operator of a relation. -/
def Clause.comparing (c : Clause) (r : Relation) : Clause := { c with operator := r.token.toList }

namespace Engine

variable {e : Engine κ ε} {f : Filter κ ε}

/-- A type that every engine has a parser for is read by it, or by a custom parser. -/
lemma Reachable.exists_parser? (reach : e.Reachable) {p : ValueParser κ} {raw : String}
    (builtin : ValueParser.builtin.find? (·.type == p.type) = some p)
    (quiet : ∀ q ∈ e.customParsers, q.parse raw = none) :
    ∃ q, e.parser? p.type = some q ∧ (q = p ∨ q.parse raw = none) := by
  rcases reach.readsWith builtin with found | ⟨q, mem, found⟩
  · exact ⟨p, found, .inl rfl⟩
  · exact ⟨q, found, .inr (quiet q mem)⟩

/-- All relations read one value. Truth values are asked for by some of them only, but the others
read the same value as it is read loosely, or else by the parser of the filter's own type. -/
lemma inferValue?_operator (reach : e.Reachable) (r : Relation) (left : ValueType)
    (raw : String) :
    e.inferValue? r.operator left raw = e.inferValue? Relation.eq.operator left raw := by
  by_cases bool : left = .bool
  · subst bool
    have custom_first (others : List (ValueParser κ)) :
        (e.customParsers ++ others).findSome? (·.parse raw) =
          (e.customParsers.findSome? (·.parse raw)).or (others.findSome? (·.parse raw)) :=
      List.findSome?_append
    rw [inferValue?, inferValue?, Relation.rightTypes_operator_bool,
      Relation.rightTypes_operator_bool, custom_first, custom_first]
    cases custom : e.customParsers.findSome? (·.parse raw) with
    | some v => rfl
    | none =>
      have quiet := List.findSome?_eq_none_iff.1 custom
      obtain ⟨p, foundBool, bool⟩ := reach.exists_parser?
        (p := .reading .bool fun raw => readBool? (trim raw.toList)) rfl quiet
      obtain ⟨q, foundObject, object⟩ := reach.exists_parser?
        (p := .reading .object fun raw => some (.ofText raw)) rfl quiet
      change e.parser? .bool = some p at foundBool
      change e.parser? .object = some q at foundObject
      -- what the parser of truth values reads, the loose reading of any value reads alike, so it
      -- makes no difference which of the two is asked first
      have loosely : [q, p].findSome? (·.parse raw) = [p, q, p].findSome? (·.parse raw) := by
        cases read : p.parse raw with
        | none => simp [read]
        | some v =>
          rcases object with rfl | unread
          · rcases bool with rfl | unread
            · obtain ⟨b, readBool, rfl⟩ := Option.map_eq_some_iff.1 read
              have same : (Value.ofText raw : Value κ) = .bool b :=
                Value.ofText_of_readBool? readBool
              simp [ValueParser.reading, HostType.object, HostType.bool, readBool, same]
            · cases read.symm.trans unread
          · simp [read, unread]
      cases r.isEquality with
      | true => rfl
      | false =>
        have order : [ValueType.object].filterMap e.parser? = [q] := by simp [foundObject]
        have equality : [ValueType.bool, .object].filterMap e.parser? = [p, q] := by
          simp [foundBool, foundObject]
        have eq : Relation.eq.isEquality = true := rfl
        rw [Option.none_or, Option.none_or, if_neg Bool.false_ne_true, if_pos eq, order, equality,
          foundBool]
        exact loosely
  · rw [inferValue?, inferValue?, Relation.rightTypes_operator r bool]

/-- A clause whose parameter is at fault has that fault. -/
lemma readClause_of_readParam {c : Clause} {o : Operator κ} {fault : ClauseFault}
    (filter : e.filter? (lowercaseString (String.ofList c.token)) = some f)
    (operator : e.operator? (String.ofList c.operator) = some o)
    (supported : f.supports (String.ofList c.operator) = true)
    (param : e.readParam f (lowercaseString (String.ofList c.token)) c.param = .error fault) :
    e.readClause c = .error fault := by
  simp only [readClause, operation, filter, operator, supported, param]
  rfl

/-- What such an engine infers is a value. -/
lemma ReadsValues.isOf_of_inferValue? (values : e.ReadsValues) {o : Operator κ} {left : ValueType}
    {raw : String} {v : Value κ} (read : e.inferValue? o left raw = some v) : v.IsOf .object := by
  obtain ⟨p, mem, parsed⟩ := List.exists_of_findSome?_eq_some read
  have known {type : ValueType} (found : e.parser? type = some p) : p ∈ e.parsers :=
    List.mem_of_find?_eq_some found
  refine values p (List.mem_append.2 ?_) raw v parsed
  rcases List.mem_append.1 mem with mem | mem
  · exact .inl mem
  · rcases List.mem_append.1 mem with mem | mem
    · obtain ⟨type, -, found⟩ := List.mem_filterMap.1 mem
      exact .inr (known found)
    · exact .inr (known (Option.mem_toList.1 mem))

section Compared

variable {c : Clause} {get : ε → Option (Value κ) → Except String (Value κ)}
  {param? : Option (Value κ)} {r : Relation} {v left : Value κ} {x : ε}

/-- What is compared is tested with the handler on what the filter gives. -/
lemma test_compared (got : get x param? = .ok left) (h : Handler κ) :
    (e.compared f c get param? v h).test x =
      .ok (h.call left v (f.comparison?.getD e.options.comparison)) := by
  simp only [Operation.test, compared, got]

/-- A clause with a relation has a meaning if its value can be read. -/
lemma Poses.readTerm_eq (poses : e.Poses c f r.operator get param?)
    (read : e.inferValue? r.operator f.type (String.ofList (unquote c.value)) = some v) :
    e.readTerm (.clause c) =
      .ok (some (.filter (e.compared f c get param? v (r.handlerFor f.type v.type)))) := by
  rw [readTerm, poses.readClause_eq, read]
  simp only [Relation.resolve?_operator, Option.map_some]

/-- The query of such a clause is valid, and answers as the handler does. -/
lemma Poses.query_of_clause {text : String} (poses : e.Poses c f r.operator get param?)
    (alone : e.outline text = .term (.clause c) .done)
    (read : e.inferValue? r.operator f.type (String.ofList (unquote c.value)) = some v) :
    (e.query text).isValid = true ∧
      ∀ x left, get x param? = .ok left →
        (e.query text).test x =
          .ok ((r.handlerFor f.type v.type).call left v
            (f.comparison?.getD e.options.comparison)) := by
  obtain ⟨valid, test⟩ := query_of_operation alone (poses.readTerm_eq read)
  exact ⟨valid, fun x left got => test x _ (test_compared got _)⟩

end Compared

/-- Where the operators of the relations are as they were in the beginning, the clauses that compare
a getter's values with one value are all refused with one fault, or all have a meaning. In the second
case their answers for an element make sense together. -/
theorem comparisons_agree (reach : e.Reachable) (values : e.ReadsValues)
    (default : ∀ r : Relation, r ≠ .contains → e.operator? r.token = some r.operator) (c : Clause)
    {get : ε → Option (Value κ) → Except String (Value κ)}
    (filter : e.filter? (lowercaseString (String.ofList c.token)) = some f)
    (getter : f.access = .getter get) (typed : f.IsTyped) :
    (∃ fault, ∀ r : Relation, r ≠ .contains → f.supports r.token = true →
      e.readClause (c.comparing r) = .error fault) ∨
    ∃ (param? : Option (Value κ)) (o : Relation → Operation κ ε),
      (∀ r : Relation, r ≠ .contains → f.supports r.token = true →
        e.readClause (c.comparing r) = .ok (some (o r)) ∧ (o r).param? = param?) ∧
      ∀ x left, get x param? = .ok left →
        ∃ answer, Relation.Coherent answer ∧ ∀ r : Relation, r ≠ .contains →
          f.supports r.token = true → (o r).test x = .ok (answer r) := by
  have token (r : Relation) : String.ofList (c.comparing r).operator = r.token :=
    String.ofList_toList
  have operator {r : Relation} (ne : r ≠ .contains) :
      e.operator? (String.ofList (c.comparing r).operator) = some r.operator := by
    rw [token, default r ne]
  cases param : e.readParam f (lowercaseString (String.ofList c.token)) c.param with
  | error fault =>
    refine .inl ⟨fault, fun r ne supported => ?_⟩
    exact readClause_of_readParam (c := c.comparing r) filter (operator ne)
      (by rwa [token]) param
  | ok param? =>
    have poses {r : Relation} (ne : r ≠ .contains) (supported : f.supports r.token = true) :
        e.Poses (c.comparing r) f r.operator get param? :=
      ⟨filter, getter, operator ne, by rwa [token], param⟩
    -- all relations infer the value that the equation does
    cases value : e.inferValue? Relation.eq.operator f.type (String.ofList (unquote c.value)) with
    | none =>
      refine .inl ⟨.unreadableValue (String.ofList (unquote c.value)), fun r ne supported => ?_⟩
      have unread : e.inferValue? r.operator f.type
          (String.ofList (unquote (c.comparing r).value)) = none :=
        (inferValue?_operator reach r _ _).trans value
      rw [(poses ne supported).readClause_eq, unread]
      rfl
    | some v =>
      refine .inr ⟨param?, fun r => e.compared f (c.comparing r) get param? v
        (r.handlerFor f.type v.type), fun r ne supported => ⟨?_, rfl⟩, fun x left got => ?_⟩
      · have read : e.inferValue? r.operator f.type
            (String.ofList (unquote (c.comparing r).value)) = some v :=
          (inferValue?_operator reach r _ _).trans value
        rw [(poses ne supported).readClause_eq, read]
        simp only [Relation.resolve?_operator]
      · have isOf := typed get getter x param? left got
        obtain ⟨order, answers⟩ := Relation.exists_order isOf (values.isOf_of_inferValue? value)
          (f.comparison?.getD e.options.comparison)
        refine ⟨fun r => r.holds order, Relation.coherent_holds order, fun r ne _ => ?_⟩
        rw [test_compared got, answers r ne]

/-- An engine over truth values. -/
def truths : Engine Empty Bool where
  filters := [.get .bool "on" id]

/-- The engine of the example comes about by calls. -/
lemma reachable_truths : truths.Reachable := by
  have registered : (Engine.withOptions {}).registerFilter (.get .bool "on" id) = .ok truths := rfl
  exact .step (.withOptions {}) (.registerFilter _ registered)

/-- The filters of the example give values of their types. -/
lemma readsValues_truths : truths.ReadsValues :=
  fun _ mem raw v parsed => (ValueParser.isTyped_of_mem_builtin mem raw v parsed).object

/-- Comparisons with a truth value, which has an order only where it is compared loosely. -/
theorem comparisons_of_truth_value :
    truths.Reachable ∧ truths.ReadsValues ∧
      ∃ o : Relation → Operation Empty Bool,
        (∀ r : Relation, r ≠ .contains →
          truths.readClause ⟨0, ['o', 'n'], none, r.token.toList, "\"true\"".toList⟩ =
            .ok (some (o r))) ∧
        ∀ x, ∃ answer, Relation.Coherent answer ∧
          ∀ r : Relation, r ≠ .contains → (o r).test x = .ok (answer r) := by
  have default (r : Relation) (_ : r ≠ .contains) :
      truths.operator? r.token = some r.operator := by
    cases r <;> rfl
  have agree := comparisons_agree reachable_truths readsValues_truths default
    ⟨0, ['o', 'n'], none, [], "\"true\"".toList⟩ rfl rfl
    (Filter.isTyped_get HostType.isTyped_bool "on" id)
  rcases agree with ⟨fault, refused⟩ | ⟨param?, o, meaning, answers⟩
  · cases refused .eq (by decide) rfl
  · refine ⟨reachable_truths, readsValues_truths, o, fun r ne => (meaning r ne rfl).1, fun x => ?_⟩
    obtain ⟨answer, coherent, tests⟩ := answers x (.bool x) rfl
    exact ⟨answer, coherent, fun r ne => tests r ne rfl⟩

end Engine

end Sift
