import Mathlib.Tactic.Lemma
import Sift.Proofs.Reachable

/-!
# The types of values

Host types, parsers and getters say of which type their values are. The engine takes their word for
it: nothing checks a value that a host type of the program's own has made. The parsers that need no
registration keep their word (`ValueParser.isTyped_of_mem_builtin`). Whatever an engine goes
through, it reads a type of theirs with them or with a custom parser
(`Engine.Reachable.readsWith`).
-/

namespace Sift

open Number Text

variable {κ ε α : Type}

/-- A value that can stand where values of a type are expected. Every value can where all types are:
only its integers must be those that values are made of. -/
structure Value.IsOf (v : Value κ) (type : ValueType) : Prop where
  type_eq : type ≠ .object → v.type = type
  inRange : ∀ n, v = .int n → IntRange.value.least ≤ n ∧ n ≤ IntRange.value.greatest

namespace Value.IsOf

variable {type : ValueType}

/-- A string is a value of the type of strings. -/
lemma string (s : String) : (Value.string s : Value κ).IsOf .string := ⟨fun _ => rfl, nofun⟩

/-- A floating-point number is a value of the type of such numbers. -/
lemma float (x : Binary64) : (Value.float x : Value κ).IsOf .float := ⟨fun _ => rfl, nofun⟩

/-- A truth value is a value of the type of truth values. -/
lemma bool (b : Bool) : (Value.bool b : Value κ).IsOf .bool := ⟨fun _ => rfl, nofun⟩

/-- An integer in the range is a value of the type of integers. -/
lemma int (n : IntRange.value.Member) : (Value.int n.val : Value κ).IsOf .int :=
  ⟨fun _ => rfl, fun _ e => by cases e; exact n.property⟩

/-- A value of any type is one of all types. -/
lemma object {v : Value κ} (h : v.IsOf type) : v.IsOf .object :=
  ⟨fun ne => absurd rfl ne, h.inRange⟩

/-- What a text is loosely read as is a value. -/
lemma ofText (raw : String) : (Value.ofText raw : Value κ).IsOf .object := by
  simp only [Value.ofText]
  split
  · exact (int _).object
  · split
    · exact (float _).object
    · split
      · exact (bool _).object
      · exact (string raw).object

end Value.IsOf

/-- A host type whose members are values of its type. -/
def HostType.IsTyped (h : HostType κ α) : Prop := ∀ a, (h.toValue a).IsOf h.type

/-- A parser whose values are of its type. -/
def ValueParser.IsTyped (p : ValueParser κ) : Prop := ∀ raw v, p.parse raw = some v → v.IsOf p.type

/-- A filter whose getter, if it has one, reads values of its type. -/
def Filter.IsTyped (f : Filter κ ε) : Prop :=
  ∀ get, f.access = .getter get → ∀ x param? v, get x param? = .ok v → v.IsOf f.type

/-- An engine whose parsers read values, of whatever types. -/
def Engine.ReadsValues (e : Engine κ ε) : Prop :=
  ∀ p ∈ e.customParsers ++ e.parsers, ∀ raw v, p.parse raw = some v → v.IsOf .object

namespace HostType

/-- Members of the host type of strings have values of its type. -/
lemma isTyped_string : (string : HostType κ String).IsTyped := Value.IsOf.string

/-- Members of the host type of truth values have values of its type. -/
lemma isTyped_bool : (bool : HostType κ Bool).IsTyped := Value.IsOf.bool

/-- Members of the host types of floating-point numbers have values of their type. -/
lemma isTyped_floating (f : Format) : (floating f : HostType κ (Binary f)).IsTyped :=
  fun x => Value.IsOf.float (x.convert .double)

/-- Members of the host type of integers have values of its type. -/
lemma isTyped_integer : (integer .value : HostType κ IntRange.value.Member).IsTyped := by
  intro n
  have least : min n.val IntRange.value.greatest = n.val := Int.min_eq_left n.property.2
  have int := Value.IsOf.int (κ := κ) n
  rwa [← least] at int

end HostType

/-- A filter that reads members of a typed host type is typed. -/
lemma Filter.isTyped_get {h : HostType κ α} (typed : h.IsTyped) (token : String) (read : ε → α) :
    (get h token read : Filter κ ε).IsTyped := by
  intro _ getter x param? v got
  cases getter
  cases got
  exact typed (read x)

namespace ValueParser

/-- A parser that reads members of a typed host type is typed. -/
lemma isTyped_reading {h : HostType κ α} (typed : h.IsTyped) (read : String → Option α) :
    (reading h read).IsTyped := by
  intro raw v parsed
  obtain ⟨a, -, rfl⟩ := Option.map_eq_some_iff.1 parsed
  exact typed a

/-- The parsers that every engine has are typed. -/
lemma isTyped_of_mem_builtin {p : ValueParser κ} (mem : p ∈ builtin) : p.IsTyped := by
  have object : (reading HostType.object fun raw => some (.ofText raw) : ValueParser κ).IsTyped := by
    intro raw v parsed
    cases parsed
    exact .ofText raw
  simp only [builtin, of?, HostType.object, HostType.string, HostType.integer, HostType.floating,
    HostType.bool, Option.map_some, List.filterMap_cons, id, List.filterMap_nil, List.mem_cons,
    List.not_mem_nil, or_false] at mem
  rcases mem with rfl | rfl | rfl | rfl | rfl
  · exact object
  · exact isTyped_reading HostType.isTyped_string _
  · exact isTyped_reading HostType.isTyped_integer _
  · exact isTyped_reading (HostType.isTyped_floating _) _
  · exact isTyped_reading HostType.isTyped_bool _

variable {type : ValueType} {p q : ValueParser κ} {parsers : List (ValueParser κ)}

/-- The parser of a type stays what it is where parsers are added for the types without one. -/
lemma find?_addMissing (found : parsers.find? (·.type == type) = some p) :
    (addMissing parsers q).find? (·.type == type) = some p := by
  unfold addMissing
  split
  · exact found
  · rw [List.find?_append, found, Option.some_or]

/-- Parsers that are brought along do not take the place of one that is there. -/
lemma find?_foldl_addMissing (added : List (ValueParser κ))
    (found : parsers.find? (·.type == type) = some p) :
    (added.foldl addMissing parsers).find? (·.type == type) = some p := by
  induction added generalizing parsers with
  | nil => exact found
  | cons q added ih => exact ih (find?_addMissing found)

/-- A type has a parser once one is brought along for it. -/
lemma isSome_find?_addMissing (p : ValueParser κ) (parsers : List (ValueParser κ)) :
    ((addMissing parsers p).find? (·.type == p.type)).isSome := by
  unfold addMissing
  split
  · next some => rwa [List.find?_isSome, ← List.any_eq_true]
  · simp

/-- A type has a parser once one among others is brought along for it. -/
lemma isSome_find?_foldl_addMissing {added : List (ValueParser κ)}
    (mem : p ∈ added) :
    ((added.foldl addMissing parsers).find? (·.type == p.type)).isSome := by
  induction added generalizing parsers with
  | nil => cases mem
  | cons q added ih =>
    rw [List.foldl_cons]
    rcases List.mem_cons.1 mem with rfl | mem
    · obtain ⟨q, found⟩ := Option.isSome_iff_exists.1 (isSome_find?_addMissing p parsers)
      rw [find?_foldl_addMissing added found]
      rfl
    · exact ih mem

/-- A parser that is placed is among the parsers. -/
lemma mem_place (p : ValueParser κ) (parsers : List (ValueParser κ)) : p ∈ place p parsers := by
  induction parsers with
  | nil => exact List.mem_singleton_self p
  | cons q later ih =>
    rw [place]
    split
    · exact List.mem_cons_self
    · exact List.mem_cons_of_mem q ih

/-- Placing a parser adds no other one. -/
lemma mem_of_mem_place {q : ValueParser κ} (mem : q ∈ place p parsers) : q = p ∨ q ∈ parsers := by
  induction parsers with
  | nil => exact .inl (List.mem_singleton.1 mem)
  | cons r later ih =>
    rw [place] at mem
    split at mem
    · exact (List.mem_cons.1 mem).imp_right (List.mem_cons_of_mem r)
    · rcases List.mem_cons.1 mem with rfl | mem
      · exact .inr List.mem_cons_self
      · exact (ih mem).imp_right (List.mem_cons_of_mem r)

/-- Only a parser of the same type makes way for another. -/
lemma mem_place_of_ne (mem : q ∈ parsers) (ne : q.type ≠ p.type) : q ∈ place p parsers := by
  induction parsers with
  | nil => cases mem
  | cons r later ih =>
    rw [place]
    split
    · next same =>
      rcases List.mem_cons.1 mem with rfl | mem
      · exact absurd (beq_iff_eq.1 same) ne
      · exact List.mem_cons_of_mem p mem
    · rcases List.mem_cons.1 mem with rfl | mem
      · exact List.mem_cons_self
      · exact List.mem_cons_of_mem r (ih mem)

/-- The parser of a type is the one placed for it, and other types keep theirs. -/
lemma find?_place (p : ValueParser κ) (parsers : List (ValueParser κ)) (type : ValueType) :
    (place p parsers).find? (·.type == type) =
      if p.type = type then some p else parsers.find? (·.type == type) := by
  induction parsers with
  | nil => grind [place]
  | cons q later ih => grind [place]

end ValueParser

namespace Engine

variable {e e' : Engine κ ε}

/-- The parser that every engine has for a type, or a custom parser. -/
def ReadsWith (e : Engine κ ε) (p : ValueParser κ) : Prop :=
  e.parser? p.type = some p ∨ ∃ q ∈ e.customParsers, e.parser? p.type = some q

/-- What keeps the parsers of types that have one, and the custom parsers, keeps what values are
read with. -/
lemma ReadsWith.of_kept {p : ValueParser κ} (reads : e.ReadsWith p)
    (parsers : ∀ type q, e.parser? type = some q → e'.parser? type = some q)
    (custom : e'.customParsers = e.customParsers) : e'.ReadsWith p := by
  rcases reads with found | ⟨q, mem, found⟩
  · exact .inl (parsers _ _ found)
  · exact .inr ⟨q, custom ▸ mem, parsers _ _ found⟩

/-- A change puts a parser in the place of another only if it is a custom parser. -/
lemma ReadsWith.change {p : ValueParser κ} (reads : e.ReadsWith p) (ch : Change e e') :
    e'.ReadsWith p := by
  cases ch with
  | addFilter | addHandler =>
    exact reads.of_kept (fun _ _ => ValueParser.find?_foldl_addMissing _) rfl
  | addParser added =>
    have placed := ValueParser.find?_place added e.parsers p.type
    by_cases same : added.type = p.type
    · rw [if_pos same] at placed
      exact .inr ⟨_, ValueParser.mem_place _ _, placed⟩
    · rw [if_neg same] at placed
      rcases reads with found | ⟨q, mem, found⟩
      · exact .inl (placed.trans found)
      · have type : q.type = p.type := by simpa using List.find?_some found
        have ne : q.type ≠ added.type := fun e => same (e.symm.trans type)
        exact .inr ⟨q, ValueParser.mem_place_of_ne mem ne, placed.trans found⟩
  | removeFilter | addOperator | set => exact reads

/-- A reachable engine reads a type with the parser that every engine has for it, or with a custom
parser. -/
lemma Reachable.readsWith (reach : e.Reachable) {p : ValueParser κ}
    (builtin : ValueParser.builtin.find? (·.type == p.type) = some p) : e.ReadsWith p := by
  induction reach with
  | withOptions options => exact .inl builtin
  | step _ st ih => exact ih.change st.change

/-- Without custom parsers it is the one that every engine has. -/
lemma Reachable.parser?_of_builtin (reach : e.Reachable) (none : e.customParsers = [])
    {p : ValueParser κ} (builtin : ValueParser.builtin.find? (·.type == p.type) = some p) :
    e.parser? p.type = some p := by
  rcases reach.readsWith builtin with found | ⟨q, mem, -⟩
  · exact found
  · rw [none] at mem
    cases mem

end Engine

end Sift
