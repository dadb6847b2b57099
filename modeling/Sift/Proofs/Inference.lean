import Sift.Proofs.Typing

/-!
# The value of a clause and its handler

The value of a clause is read with the first parser that can read it (`Engine.valueParser?`), and
the handler is chosen by the types of the two values. Where the parser is one that a handler asked
for, by the type on its right, the clause has a meaning, and the handler is one that asked
(`Engine.operation_of_candidate`). Values of all types are the exception: the value that is read has
a type of its own, and it is this type that the handler is looked up by, so that a handler for all
types on the right is taken only if it is for all types on the left.
-/

namespace Sift

open Number Text

variable {κ ε : Type}

namespace Operator

variable {o : Operator κ} {h : Handler κ} {left right : ValueType}

/-- The handler that is found for two types is one for them. -/
lemma isFor_of_handler? (found : o.handler? left right = some h) :
    h ∈ o.handlers ∧ h.left = left ∧ h.right = right := by
  have isFor := List.find?_some found
  exact ⟨List.mem_of_find?_eq_some found, Handler.isFor_iff.1 isFor⟩

/-- Where there is a handler for two types, one is found. -/
lemma exists_handler? (mem : h ∈ o.handlers) : ∃ g, o.handler? h.left h.right = some g := by
  exact Option.isSome_iff_exists.1 (List.find?_isSome.2 ⟨h, mem, Handler.isFor_iff.2 ⟨rfl, rfl⟩⟩)

/-- Where a handler asks for a type, the handler for it is the one for the pair, or else the one for
all types on the left. -/
lemma exists_resolve?_of_candidate (mem : h ∈ o.handlers)
    (applies : h.left = left ∨ h.left = .object) :
    ∃ g, o.resolve? left h.right = some g ∧
      (o.handler? left h.right).or (o.handler? .object h.right) = some g := by
  obtain ⟨g, found⟩ := exists_handler? mem
  have some : ((o.handler? left h.right).or (o.handler? .object h.right)).isSome := by
    rcases applies with e | e
    · rw [← e, found]
      rfl
    · rw [← e, found, Option.isSome_or, Option.isSome_some, Bool.or_true]
  obtain ⟨g, e⟩ := Option.isSome_iff_exists.1 some
  exact ⟨g, by rw [resolve?, ← Option.or_assoc, e, Option.some_or], e⟩

/-- The handler for a value of a type is one for this type on the right, or the one for all types on
both sides. -/
lemma right_of_resolve? (found : o.resolve? left right = some h) :
    h.right = right ∨ h.left = .object ∧ h.right = .object := by
  rw [resolve?, Option.or_eq_some_iff, Option.or_eq_some_iff] at found
  rcases found with found | ⟨-, found | ⟨-, found⟩⟩
  · exact .inl (isFor_of_handler? found).2.2
  · exact .inl (isFor_of_handler? found).2.2
  · exact .inr (isFor_of_handler? found).2

end Operator

namespace Engine

variable {e : Engine κ ε} {f : Filter κ ε} {o : Operator κ}

/-- The parsers that a value is read with, in the order in which they are tried. -/
def valueParsers (e : Engine κ ε) (o : Operator κ) (left : ValueType) : List (ValueParser κ) :=
  e.customParsers ++ ((o.rightTypes left).filterMap e.parser? ++ (e.parser? left).toList)

/-- The parser that reads a value: the first one that can. -/
def valueParser? (e : Engine κ ε) (o : Operator κ) (left : ValueType) (raw : String) :
    Option (ValueParser κ) :=
  (e.valueParsers o left).find? fun p => (p.parse raw).isSome

/-- A value is inferred by the first parser that reads its text. -/
lemma inferValue?_eq (e : Engine κ ε) (o : Operator κ) (left : ValueType) (raw : String) :
    e.inferValue? o left raw = (e.valueParser? o left raw).bind (·.parse raw) := by
  rw [inferValue?, valueParser?, ← valueParsers]
  induction e.valueParsers o left with
  | nil => rfl
  | cons p later ih => cases parsed : p.parse raw <;> simp [parsed, ih]

/-- The parser that is chosen for a value reads it. -/
lemma exists_of_valueParser? {left : ValueType} {raw : String} {p : ValueParser κ}
    (found : e.valueParser? o left raw = some p) :
    ∃ v, p.parse raw = some v ∧ e.inferValue? o left raw = some v := by
  have readable : (p.parse raw).isSome := by simpa using List.find?_some found
  obtain ⟨v, parsed⟩ := Option.isSome_iff_exists.1 readable
  exact ⟨v, parsed, by rw [inferValue?_eq, found, Option.bind_some, parsed]⟩

/-- The clause of a filter and an operator, with the value that is read and its handler. -/
def compared (e : Engine κ ε) (f : Filter κ ε) (c : Clause)
    (get : ε → Option (Value κ) → Except String (Value κ)) (param? : Option (Value κ))
    (v : Value κ) (h : Handler κ) : Operation κ ε where
  filter := lowercaseString (String.ofList c.token)
  operator := String.ofList c.operator
  rawValue := String.ofList (unquote c.value)
  param? := param?
  value := v
  comparison := f.comparison?.getD e.options.comparison
  decider := .handler get h

/-- A getter's clause that has a filter, an operator and a parameter: what is left to be found is
its value and the handler for it. -/
structure Poses (e : Engine κ ε) (c : Clause) (f : Filter κ ε) (o : Operator κ)
    (get : ε → Option (Value κ) → Except String (Value κ)) (param? : Option (Value κ)) : Prop where
  filter : e.filter? (lowercaseString (String.ofList c.token)) = some f
  getter : f.access = .getter get
  operator : e.operator? (String.ofList c.operator) = some o
  supported : f.supports (String.ofList c.operator) = true
  param : e.readParam f (lowercaseString (String.ofList c.token)) c.param = .ok param?

variable {c : Clause} {get : ε → Option (Value κ) → Except String (Value κ)}
  {param? : Option (Value κ)}

/-- What a posed clause means depends on the value that is inferred and the handler for it. -/
lemma Poses.readClause_eq (poses : e.Poses c f o get param?) :
    e.readClause c =
      match e.inferValue? o f.type (String.ofList (unquote c.value)) with
      | none => .error (.unreadableValue (String.ofList (unquote c.value)))
      | some v =>
        match o.resolve? f.type v.type with
        | some h => .ok (some (e.compared f c get param? v h))
        | none => .error (.noHandler f.type v.type o.token) := by
  simp only [readClause, operation, readValue, poses.filter, poses.getter, poses.operator,
    poses.supported, poses.param]
  cases e.inferValue? o f.type (String.ofList (unquote c.value)) with
  | none => rfl
  | some v => cases found : o.resolve? f.type v.type <;> simp [found, compared, Except.map] <;> rfl

/-- A clause has a meaning if a handler that takes the filter's values asks for the type of the
parser that reads the value: the handler for the pair of types, or else the one for all types on the
left. If it is all types that are asked for, the handler is looked up by the type of the value
itself. -/
theorem operation_of_candidate (poses : e.Poses c f o get param?) {p : ValueParser κ}
    (reads : e.valueParser? o f.type (String.ofList (unquote c.value)) = some p) (typed : p.IsTyped)
    {h : Handler κ} (mem : h ∈ o.handlers) (applies : h.left = f.type ∨ h.left = .object)
    (right : h.right = p.type) :
    ∃ v, p.parse (String.ofList (unquote c.value)) = some v ∧
      (p.type ≠ .object →
        ∃ g, (o.handler? f.type p.type).or (o.handler? .object p.type) = some g ∧
          e.readClause c = .ok (some (e.compared f c get param? v g))) ∧
      (p.type = .object →
        (h.left = .object →
          ∃ g, e.readClause c = .ok (some (e.compared f c get param? v g))) ∧
        ∀ g, e.readClause c = .ok (some (e.compared f c get param? v g)) →
          g.right = v.type ∨ g.left = .object ∧ g.right = .object) := by
  obtain ⟨v, parsed, inferred⟩ := exists_of_valueParser? reads
  have meaning {g : Handler κ} (resolved : o.resolve? f.type v.type = some g) :
      e.readClause c = .ok (some (e.compared f c get param? v g)) := by
    rw [poses.readClause_eq]
    simp only [inferred, resolved]
  -- a specific type is that of the value; a generic one says nothing about it
  refine ⟨v, parsed, fun specific => ?_, fun generic => ⟨fun left => ?_, fun g read => ?_⟩⟩
  · obtain ⟨g, resolved, first⟩ := Operator.exists_resolve?_of_candidate mem applies
    rw [right] at resolved first
    rw [← (typed _ _ parsed).type_eq specific] at resolved
    exact ⟨g, first, meaning resolved⟩
  · obtain ⟨g, found⟩ := Operator.exists_handler? mem
    rw [left, right, generic] at found
    have resolved : (o.resolve? f.type v.type).isSome := by
      rw [Operator.resolve?, found, Option.isSome_or, Option.isSome_or, Option.isSome_some,
        Bool.or_true, Bool.or_true]
    obtain ⟨g, resolved⟩ := Option.isSome_iff_exists.1 resolved
    exact ⟨g, meaning resolved⟩
  · cases resolved : o.resolve? f.type v.type with
    | none =>
      rw [poses.readClause_eq] at read
      simp only [inferred, resolved, reduceCtorEq] at read
    | some g' =>
      rw [meaning resolved] at read
      cases read
      exact Operator.right_of_resolve? resolved

/-- The handler of an operator that compares integers with values of all types. -/
def anyRight : Handler Empty := .of (.integer .value) .object fun _ _ _ => true

/-- An engine over integers, with an operator that compares them with values of all types. -/
def numbered : Engine Empty IntRange.value.Member where
  filters := [.get (.integer .value) "n" id]
  operators := Operator.builtin ++ [⟨"~", [anyRight]⟩]

/-- The engine of the example comes about by calls. -/
lemma reachable_numbered : numbered.Reachable := by
  have filtered : (Engine.withOptions {}).registerFilter (.get (.integer .value) "n" id) =
      .ok { numbered with operators := Operator.builtin } := rfl
  have extended : ({ numbered with operators := Operator.builtin } :
      Engine Empty IntRange.value.Member).registerOperator "~" =
        .ok { numbered with operators := Operator.builtin ++ [⟨"~", []⟩] } := rfl
  exact .step (.step (.step (.withOptions {}) (.registerFilter _ filtered))
    (.registerOperator "~" extended))
    (.registerHandler "~" (.integer .value) .object (fun _ _ _ => true) rfl)

/-- The clause that compares with five. -/
def withFive (operator : String) : Clause := ⟨0, ['n'], none, operator.toList, ['5']⟩

/-- The value of an equation is read for the handler of integers, and compared by it. -/
theorem operation_of_int_candidate :
    numbered.Poses (withFive "=") (.get (.integer .value) "n" id) Relation.eq.operator
        (fun n _ => .ok ((HostType.integer .value).toValue n)) none ∧
      (numbered.valueParser? Relation.eq.operator .int "5").map ValueParser.type = some .int ∧
      ∃ v g, (Relation.eq.operator.handler? .int .int).or
          (Relation.eq.operator.handler? .object .int) = some g ∧
        numbered.readClause (withFive "=") = .ok (some (numbered.compared
          (.get (.integer .value) "n" id) (withFive "=")
          (fun n _ => .ok ((HostType.integer .value).toValue n)) none v g)) := by
  have poses : numbered.Poses (withFive "=") (.get (.integer .value) "n" id) Relation.eq.operator
      (fun n _ => .ok ((HostType.integer .value).toValue n)) none :=
    ⟨rfl, rfl, rfl, rfl, rfl⟩
  have reads : numbered.valueParser? Relation.eq.operator .int "5" =
      some (.reading (.integer .value) fun raw => IntRange.value.read? (trim raw.toList)) := rfl
  have mem : Relation.eq.intHandler ∈ (Relation.eq.operator : Operator Empty).handlers := by
    simp [Relation.operator]
  obtain ⟨v, -, specific, -⟩ := operation_of_candidate poses reads
    (ValueParser.isTyped_reading HostType.isTyped_integer _) mem (.inl rfl) rfl
  obtain ⟨g, first, meaning⟩ := specific (by decide)
  exact ⟨poses, rfl, v, g, first, meaning⟩

/-- A value that is read for a handler for all types on the right does not find it. -/
theorem no_operation_of_object_candidate :
    numbered.Reachable ∧
      (numbered.valueParser? ⟨"~", [anyRight]⟩ .int "5").map ValueParser.type = some .object ∧
      (anyRight.left = .int ∧ anyRight.right = .object) ∧
      numbered.readClause (withFive "~") = .error (.noHandler .int .int "~") := by
  exact ⟨reachable_numbered, rfl, ⟨rfl, rfl⟩, rfl⟩

end Engine

end Sift
