import Sift.Value.Loose

/-!
# Host types

A host type is a type of the host program whose members can be filter values. It says which type of
value they become, how they become values, which values can be read back as members, and how a
member is written in a query, if the type has a written form.
-/

namespace Sift
open Number Text

/-- How members of `α` are seen as values. -/
structure HostType (κ α : Type) where
  type : ValueType
  toValue : α → Value κ
  ofValue? : Value κ → Option α
  read? : Option (String → Option α)

namespace HostType

variable {κ α : Type}

/-- Every value, as it is. Its written form is the loose one. -/
def object : HostType κ (Value κ) := ⟨.object, id, some, some fun raw => some (.ofText raw)⟩

/-- Strings, which are written as they are. -/
def string : HostType κ String := ⟨.string, .string, Value.asString?, some some⟩

/-- Truth values. -/
def bool : HostType κ Bool where
  type := .bool
  toValue := .bool
  ofValue?
    | .bool b => some b
    | _ => none
  read? := some fun raw => readBool? (trim raw.toList)

/-- The integers of a range. One above the greatest integer value becomes that value. -/
def integer (r : IntRange) : HostType κ r.Member where
  type := .int
  toValue n := .int (min n.val IntRange.value.greatest)
  ofValue?
    | .int n => r.ofInt? n
    | _ => none
  read? := some fun raw => r.read? (trim raw.toList)

/-- The floating-point numbers of a format. They are read back from integers too. -/
def floating (f : Format) : HostType κ (Binary f) where
  type := .float
  toValue x := .float (x.convert .double)
  ofValue?
    | .float x => some (x.convert f)
    | .int n => some (.ofInt f n)
    | _ => none
  read? := some fun raw => Binary.read? f (trim raw.toList)

end HostType

/-- A type of the host program that lists its members by name. The list may leave members out, name
one twice, or give two of them one name. -/
structure Enumeration (κ α : Type) where
  name : String
  variants : List (String × α)
  wrap : α → κ
  unwrap? : κ → Option α

namespace Enumeration

variable {κ α : Type} [DecidableEq α]

/-- The first name listed for a member; empty if there is none. -/
def nameOf (e : Enumeration κ α) (a : α) : String :=
  ((e.variants.find? fun v => decide (v.2 = a)).map Prod.fst).getD ""

/-- The first member whose name is the text, up to the case of ASCII letters. -/
def ofName? (e : Enumeration κ α) (cs : List Char) : Option α :=
  (e.variants.find? fun v => equalIgnoringAsciiCase v.1.toList cs).map Prod.snd

/-- The members of an enumeration as values labelled with their names. -/
def hostType (e : Enumeration κ α) : HostType κ α where
  type := .custom e.name
  toValue a := .custom ⟨e.name, e.nameOf a, e.wrap a⟩
  ofValue?
    | .custom c => e.unwrap? c.content
    | _ => none
  read? := some fun raw => e.ofName? (trim raw.toList)

end Enumeration
end Sift
