import Sift.Value.HostType

/-!
# Value parsers

A value parser reads the text of a query as a value of one type.
-/

namespace Sift

/-- A reader of texts for one type of values. -/
structure ValueParser (κ : Type) where
  type : ValueType
  parse : String → Option (Value κ)

namespace ValueParser

variable {κ α : Type}

/-- The parser that reads members of a host type by the given function. -/
def reading (h : HostType κ α) (read : String → Option α) : ValueParser κ :=
  ⟨h.type, fun raw => (read raw).map h.toValue⟩

/-- The parser of a host type that has a written form. -/
def of? (h : HostType κ α) : Option (ValueParser κ) := h.read?.map (reading h)

/-- The parsers that need no registration. -/
def builtin : List (ValueParser κ) :=
  [of? .object, of? .string, of? (.integer .value), of? (.floating .double), of? .bool].filterMap id

end ValueParser
end Sift
