import Sift.Text.Lowercase
import Sift.Text.Occurrence

/-!
# Comparing texts

Texts are compared as they stand, or by their lowercase forms. Either way the order is that of the
code points, character by character.
-/

namespace Sift
open Text

/-- How texts are compared. -/
inductive Comparison where
  | caseSensitive
  | caseInsensitive
  deriving DecidableEq

namespace Comparison

/-- The comparison used where none is chosen. -/
instance : Inhabited Comparison := ⟨caseInsensitive⟩

/-- Whether two texts count as equal. Texts that differ in ASCII letters only are told at once. -/
def equals : Comparison → String → String → Bool
  | caseSensitive, a, b => a == b
  | caseInsensitive, a, b =>
    equalIgnoringAsciiCase a.toList b.toList || lowercase a.toList == lowercase b.toList

/-- Whether the first text contains the second. -/
def contains : Comparison → String → String → Bool
  | caseSensitive, hay, needle => occursIn needle.toList hay.toList
  | caseInsensitive, hay, needle => occursIn (lowercase needle.toList) (lowercase hay.toList)

/-- The order of two texts. -/
def compare : Comparison → String → String → Ordering
  | caseSensitive, a, b => Ord.compare a.toList b.toList
  | caseInsensitive, a, b => Ord.compare (lowercase a.toList) (lowercase b.toList)

end Comparison
end Sift
