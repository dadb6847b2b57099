import Sift.Comparison

/-!
# Options

The switches that decide what parsing a query text reports, and the comparison of texts.
-/

namespace Sift

/-- A set of validation switches, kept as bits. Bits without a name are kept too. -/
structure Validation where
  bits : BitVec 8
  deriving DecidableEq

namespace Validation

/-- Search words are refused where no search source is set. -/
def validateFilters : Validation := ⟨1⟩

/-- Clauses of unknown filters are dropped without an error. -/
def skipUnknownFilters : Validation := ⟨2⟩

/-- The named switches. -/
def named : List (String × Validation) :=
  [("VALIDATE_FILTERS", validateFilters), ("SKIP_UNKNOWN_FILTERS", skipUnknownFilters)]

/-- The switches of both sets. -/
def union (a b : Validation) : Validation := ⟨a.bits ||| b.bits⟩

/-- The switches of the first set that the second lacks. -/
def diff (a b : Validation) : Validation := ⟨a.bits &&& ~~~b.bits⟩

/-- Whether the first set holds all switches of the second. -/
def includes (a b : Validation) : Bool := a.bits &&& b.bits == b.bits

end Validation

/-- What holds for all queries of an engine. -/
structure Options where
  validation : Validation := .validateFilters
  comparison : Comparison := .caseInsensitive
  deriving DecidableEq

namespace Options

/-- Whether search words are refused where no search source is set. -/
def validatesFilters (o : Options) : Bool := o.validation.includes .validateFilters

/-- Whether clauses of unknown filters are dropped without an error. -/
def skipsUnknownFilters (o : Options) : Bool := o.validation.includes .skipUnknownFilters

end Options
end Sift
