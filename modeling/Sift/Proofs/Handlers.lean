import Sift.Proofs.Declarations
import Sift.Proofs.Relations

/-!
# What handlers are asked

A handler is chosen by the types of two values, but compares members of two host types, and a host
type need not have a member for every value of its type: eight bits do not hold every integer. Unlike
an argument, the value of a getter's clause is not asked whether it is a member of the host type on
the right. If it is one, the function of the handler is asked about all elements whose values are
members of the host type on the left. If it is none, no element matches, whatever the operator says
(`Operation.test_of_misses`).
-/

namespace Sift

open Number Text

variable {κ ε α β : Type}

namespace HostType

/-- Whether a value can stand where a host type's values are expected, but is no member of it. -/
def Misses (h : HostType κ α) (v : Value κ) : Prop :=
  (h.type = v.type ∨ h.type = .object) ∧ h.ofValue? v = none

variable {v : Value κ}

/-- A value of the type that is expected is a member, unless it is missed. -/
lemma exists_of_not_misses {h : HostType κ α} (expected : h.type = v.type ∨ h.type = .object)
    (not : ¬h.Misses v) : ∃ a, h.ofValue? v = some a := by
  cases member : h.ofValue? v with
  | none => exact absurd ⟨expected, member⟩ not
  | some a => exact ⟨a, rfl⟩

/-- Every value is a member of the generic host type. -/
lemma not_misses_object (v : Value κ) : ¬object.Misses v := by
  rintro ⟨-, missing⟩
  cases missing

/-- No value is missed by strings. -/
lemma not_misses_string (v : Value κ) : ¬string.Misses v := by
  rintro ⟨type | type, missing⟩
  · cases v with
    | string => cases missing
    | int | float | bool | custom => cases type
  · cases type

/-- No value is missed by truth values. -/
lemma not_misses_bool (v : Value κ) : ¬bool.Misses v := by
  rintro ⟨type | type, missing⟩
  · cases v with
    | bool => cases missing
    | string | int | float | custom => cases type
  · cases type

/-- No value is missed by floating-point numbers. -/
lemma not_misses_floating (f : Format) (v : Value κ) : ¬(floating f).Misses v := by
  rintro ⟨type | type, missing⟩
  · cases v with
    | float => cases missing
    | string | int | bool | custom => cases type
  · cases type

/-- The integers of a range miss those that are out of range. -/
lemma misses_integer {r : IntRange} :
    (integer r).Misses v ↔ ∃ n, v = .int n ∧ ¬(r.least ≤ n ∧ n ≤ r.greatest) := by
  constructor
  · rintro ⟨type | type, missing⟩
    · cases v with
      | int n =>
        refine ⟨n, rfl, fun within => ?_⟩
        have member : r.ofInt? n = some ⟨n, within⟩ := dif_pos within
        cases member.symm.trans missing
      | string | float | bool | custom => cases type
    · cases type
  · rintro ⟨n, rfl, out⟩
    exact ⟨.inl rfl, dif_neg out⟩

end HostType

/-- The handlers of a relation are for host types that miss no value. -/
lemma Relation.exists_of_mem_handlers {r : Relation} {h : Handler κ}
    (mem : h ∈ r.operator.handlers) :
    ∃ (α β : Type) (L : HostType κ α) (R : HostType κ β) (decide : α → β → Comparison → Bool),
      h = .of L R decide ∧ ∀ v : Value κ, v.IsOf .object → ¬R.Misses v := by
  rcases handler_cases mem with rfl | rfl | rfl | rfl | rfl
  · exact ⟨_, _, _, _, _, rfl, fun v _ => HostType.not_misses_object v⟩
  · exact ⟨_, _, _, _, _, rfl, fun v _ => HostType.not_misses_string v⟩
  · refine ⟨_, _, _, _, _, rfl, fun v isOf missed => ?_⟩
    obtain ⟨n, same, out⟩ := HostType.misses_integer.1 missed
    exact out (isOf.inRange n same)
  · exact ⟨_, _, _, _, _, rfl, fun v _ => HostType.not_misses_floating .double v⟩
  · exact ⟨_, _, _, _, _, rfl, fun v _ => HostType.not_misses_bool v⟩

namespace Handler

variable {L : HostType κ α} {R : HostType κ β} {decide : α → β → Comparison → Bool}
  {left right : Value κ}

/-- A handler decides two members as its function does. -/
lemma call_of_member {a : α} {b : β} (onLeft : L.ofValue? left = some a)
    (onRight : R.ofValue? right = some b) (cmp : Comparison) :
    (of L R decide).call left right cmp = decide a b cmp := by
  simp only [call, of, onLeft, onRight]
  rfl

/-- A handler answers no for a value that is not a member. -/
lemma call_of_none (missing : R.ofValue? right = none) (left : Value κ) (cmp : Comparison) :
    (of L R decide).call left right cmp = false := by
  simp only [call, of, missing]
  cases L.ofValue? left <;> rfl

end Handler

namespace Operation

variable {o : Operation κ ε} {get : ε → Option (Value κ) → Except String (Value κ)}
  {L : HostType κ α} {R : HostType κ β} {decide : α → β → Comparison → Bool}

/-- Whether the value is a member of the host type on the right, and the function is asked about all
elements whose values are members of the one on the left. -/
def Consults (o : Operation κ ε) (get : ε → Option (Value κ) → Except String (Value κ))
    (L : HostType κ α) (R : HostType κ β) (decide : α → β → Comparison → Bool) : Prop :=
  ∃ b, R.ofValue? o.value = some b ∧ ∀ x left a, get x o.param? = .ok left →
    L.ofValue? left = some a → o.test x = .ok (decide a b o.comparison)

/-- A handler whose host type on the right does not miss the value is asked. -/
lemma consults_of_not_misses (decided : o.decider = .handler get (.of L R decide))
    (expected : R.type = o.value.type ∨ R.type = .object) (not : ¬R.Misses o.value) :
    o.Consults get L R decide := by
  obtain ⟨b, member⟩ := HostType.exists_of_not_misses expected not
  refine ⟨b, member, fun x left a got onLeft => ?_⟩
  rw [test, decided]
  simp only [got, Handler.call_of_member onLeft member]

/-- A handler whose host type on the right misses the value lets no element match. -/
lemma test_of_misses (decided : o.decider = .handler get (.of L R decide))
    (misses : R.Misses o.value) {x : ε} {left : Value κ} (got : get x o.param? = .ok left) :
    o.test x = .ok false := by
  rw [test, decided]
  simp only [got, Handler.call_of_none misses.2]

end Operation

/-- A handler that is found is one of the operator's. -/
lemma Operator.mem_of_resolve? {o : Operator κ} {left right : ValueType} {h : Handler κ}
    (resolved : o.resolve? left right = some h) : h ∈ o.handlers := by
  rw [resolve?, Option.or_eq_some_iff, Option.or_eq_some_iff] at resolved
  rcases resolved with found | ⟨-, found | ⟨-, found⟩⟩
  · exact (isFor_of_handler? found).1
  · exact (isFor_of_handler? found).1
  · exact (isFor_of_handler? found).1

namespace Engine

variable {e : Engine κ ε}

/-- A handler that decides an operation is one of its operator's for the value that has been
inferred. -/
lemma Means.exists_of_handler {c : Clause} {o : Operation κ ε} (means : e.Means c o)
    {get : ε → Option (Value κ) → Except String (Value κ)} {h : Handler κ}
    (decided : o.decider = .handler get h) :
    ∃ op ∈ e.operators, ∃ left, e.inferValue? op left o.rawValue = some o.value ∧
      op.resolve? left o.value.type = some h := by
  cases means with
  | unknown => cases decided
  | @known f op _ _ _ _ operator _ _ value =>
    cases access : f.access with
    | getter get' =>
      obtain ⟨h', inferred, resolved, rfl⟩ := readValue_of_getter access value
      cases decided
      exact ⟨op, List.mem_of_find?_eq_some operator, f.type, inferred, resolved⟩
    | resolver resolve =>
      obtain ⟨-, rfl⟩ := readValue_of_resolver access value
      cases decided

/-- Every handler that decides an operation of a query compares members of two host types. If the one
on the right does not miss the value, the handler's function is asked about all elements that it can
be asked about; otherwise no element matches. The handlers that every engine has miss no value. -/
theorem handlers_are_consulted (reach : e.Reachable) (text : String) :
    ∀ t ∈ (e.query text).tree?, ∀ leaf ∈ t.leaves, ∀ o get h, leaf.2 = .filter o →
      o.decider = .handler get h →
      h.IsMade ∧
      (∀ (α β : Type) (L : HostType κ α) (R : HostType κ β) (decide : α → β → Comparison → Bool),
        h = .of L R decide →
          (¬R.Misses o.value → o.Consults get L R decide) ∧
          (R.Misses o.value → ∀ x left, get x o.param? = .ok left → o.test x = .ok false)) ∧
      (e.ReadsValues → ∀ r : Relation, h ∈ r.operator.handlers →
        ∃ (α β : Type) (L : HostType κ α) (R : HostType κ β)
          (decide : α → β → Comparison → Bool), h = .of L R decide ∧
          o.Consults get L R decide) := by
  intro t tree leaf mem o get h filter decided
  obtain ⟨c, means⟩ := e.exists_clause_of_leaf tree mem filter
  obtain ⟨op, known, left, inferred, resolved⟩ := means.exists_of_handler decided
  have expected := (Operator.right_of_resolve? resolved).imp_right And.right
  refine ⟨reach.isMade op known h (Operator.mem_of_resolve? resolved), ?_, fun values r builtin => ?_⟩
  · rintro α β L R decide rfl
    exact ⟨Operation.consults_of_not_misses decided expected,
      fun misses x left got => Operation.test_of_misses decided misses got⟩
  · obtain ⟨α, β, L, R, decide, rfl, none⟩ := Relation.exists_of_mem_handlers builtin
    have value := none o.value (values.isOf_of_inferValue? inferred)
    exact ⟨α, β, L, R, decide, rfl, Operation.consults_of_not_misses decided expected value⟩

/-- Integers of eight bits. -/
abbrev Byte : Type := (IntRange.unsigned 8).Member

/-- The function of the handler that tells bytes apart. -/
def differ (a b : Byte) (_ : Comparison) : Bool := decide (a ≠ b)

/-- An engine over bytes, with a handler for them in the place of the one for all integers. -/
def bytes : Engine Empty Byte where
  filters := [.get (.integer (.unsigned 8)) "n" id]
  operators := Operator.builtin.map fun o =>
    if o.token == "!=" then o.add (.of (.integer (.unsigned 8)) (.integer (.unsigned 8)) differ)
    else o

/-- The engine of the example comes about by calls. -/
lemma reachable_bytes : bytes.Reachable := by
  have filtered : (Engine.withOptions {}).registerFilter (.get (.integer (.unsigned 8)) "n" id) =
      .ok { bytes with operators := Operator.builtin } := rfl
  exact .step (.step (.withOptions {}) (.registerFilter _ filtered))
    (.registerHandler "!=" (.integer (.unsigned 8)) (.integer (.unsigned 8)) differ rfl)

/-- The filters of the example give values of their types. -/
lemma readsValues_bytes : bytes.ReadsValues :=
  fun _ mem raw v parsed => (ValueParser.isTyped_of_mem_builtin mem raw v parsed).object

/-- The value that the filter reads from a byte. -/
def readByte (n : Byte) (_ : Option (Value Empty)) : Except String (Value Empty) :=
  .ok ((HostType.integer (.unsigned 8)).toValue n)

/-- The clause that compares a byte with a number. -/
def byteClause (operator raw : String) : Clause := ⟨0, ['n'], none, operator.toList, raw.toList⟩

/-- Its operation, with the value that is read and the handler. -/
def byteOperation (operator raw : String) (n : Int) (h : Handler Empty) : Operation Empty Byte :=
  bytes.compared (.get (.integer (.unsigned 8)) "n" id) (byteClause operator raw) readByte none
    (.int n) h

/-- The handler for bytes. -/
def byteHandler : Handler Empty := .of (.integer (.unsigned 8)) (.integer (.unsigned 8)) differ

/-- A text of one clause of the example has one leaf. -/
lemma tree?_of_byteClause (text operator raw : String) (n : Int) (h : Handler Empty)
    (ne : text.toList ≠ [])
    (first : Token.first bytes.operatorTexts 0 text.toList =
      .ok ⟨.clause (byteClause operator raw), text.toList, []⟩)
    (meaning : bytes.readClause (byteClause operator raw) =
      .ok (some (byteOperation operator raw n h))) :
    (bytes.query text).tree? =
      some (.leaf (byteClause operator raw).site (.filter (byteOperation operator raw n h))) := by
  have reads : bytes.readTerm (.clause (byteClause operator raw)) =
      .ok (some (.filter (byteOperation operator raw n h))) := by
    rw [readTerm, meaning]
    rfl
  exact (query_of_term (outline_of_first ne first) reads).2

/-- The handler for bytes is asked about a number that is one, and that for all integers about any
other number, too. -/
theorem handlers_of_bytes_are_consulted :
    bytes.Reachable ∧ bytes.ReadsValues ∧ (bytes.query "n!=200").isValid = true ∧
      (byteOperation "!=" "200" 200 byteHandler).Consults readByte (.integer (.unsigned 8))
        (.integer (.unsigned 8)) differ ∧
      ∃ (α β : Type) (L : HostType Empty α) (R : HostType Empty β)
        (decide : α → β → Comparison → Bool), Relation.eq.intHandler = .of L R decide ∧
        (byteOperation "=" "300" 300 Relation.eq.intHandler).Consults readByte L R decide := by
  have unequal := tree?_of_byteClause "n!=200" "!=" "200" 200 byteHandler (by decide)
    (by decide +kernel) rfl
  have equal := tree?_of_byteClause "n=300" "=" "300" 300 Relation.eq.intHandler
    (by decide) (by decide +kernel) rfl
  have member : ¬(HostType.integer (.unsigned 8)).Misses (.int 200 : Value Empty) := by
    rw [HostType.misses_integer]
    rintro ⟨_, ⟨⟩, out⟩
    exact out (by decide)
  have builtin : Relation.eq.intHandler ∈ (Relation.eq.operator : Operator Empty).handlers := by
    simp [Relation.operator]
  obtain ⟨-, consults, -⟩ := handlers_are_consulted reachable_bytes "n!=200" _ unequal _
    List.mem_cons_self _ readByte byteHandler rfl rfl
  obtain ⟨-, -, all⟩ := handlers_are_consulted reachable_bytes "n=300" _ equal _
    List.mem_cons_self _ readByte Relation.eq.intHandler rfl rfl
  exact ⟨reachable_bytes, readsValues_bytes, by decide +kernel,
    (consults _ _ _ _ differ rfl).1 member, all readsValues_bytes .eq builtin⟩

/-- A byte does not differ from a number that is none, although the query is valid: nothing asks
the handler. -/
theorem handler_of_byte_is_not_consulted :
    bytes.Reachable ∧ (bytes.query "n!=300").isValid = true ∧
      (bytes.query "n!=300").tree? = some (.leaf (byteClause "!=" "300").site
        (.filter (byteOperation "!=" "300" 300 byteHandler))) ∧
      (byteOperation "!=" "300" 300 byteHandler).decider = .handler readByte
        (.of (.integer (.unsigned 8)) (.integer (.unsigned 8)) differ) ∧
      (HostType.integer (.unsigned 8)).ofValue?
        (byteOperation "!=" "300" 300 byteHandler).value = none ∧
      ∀ x, (bytes.query "n!=300").test x = .ok false := by
  have tree := tree?_of_byteClause "n!=300" "!=" "300" 300 byteHandler (by decide)
    (by decide +kernel) rfl
  have valid : (bytes.query "n!=300").isValid = true := by decide +kernel
  refine ⟨reachable_bytes, valid, tree, rfl, rfl, fun x => ?_⟩
  obtain ⟨errors, -⟩ := Query.exists_of_isValid valid
  rw [Query.test_eq errors tree]
  have test : (byteOperation "!=" "300" 300 byteHandler).test x = .ok false :=
    Operation.test_of_misses rfl ⟨.inl rfl, rfl⟩ rfl
  show Except.mapError _ ((byteOperation "!=" "300" 300 byteHandler).test x) = _
  rw [test]
  rfl

end Engine

end Sift
