import Sift.Unicode.Alphabetic
import Sift.Unicode.Number
import Sift.Unicode.Mark
import Sift.Unicode.Recent

/-!
# Classes of characters that names and texts are made of

Three classes: the blanks that separate terms, the characters a registered name may have, and the
class of word characters that a name in a query text may have. The last two differ on superscripts
(only the second class holds them), on combining marks (only the third does) and on the version of
Unicode: names are registered by version 17.0 and found in query texts by version 16.0.
-/

namespace Sift.Unicode

/-- The characters with the property White_Space. -/
def whiteSpace : RangeTable := [
  (0x9, 0xD), (0x20, 0x20), (0x85, 0x85), (0xA0, 0xA0), (0x1680, 0x1680), (0x2000, 0x200A),
  (0x2028, 0x2029), (0x202F, 0x202F), (0x205F, 0x205F), (0x3000, 0x3000)]

/-- Connecting punctuation such as the low line: the general category Pc. -/
def connector : RangeTable := [
  (0x5F, 0x5F), (0x203F, 0x2040), (0x2054, 0x2054), (0xFE33, 0xFE34), (0xFE4D, 0xFE4F),
  (0xFF3F, 0xFF3F)]

/-- The two characters that join or part their neighbours without showing: Join_Control. -/
def joinControl : RangeTable := [(0x200C, 0x200D)]

/-- White space of any script. -/
def isBlank (c : Char) : Bool := whiteSpace.contains c

/-- Letters and numbers of any kind. -/
def isAlphanumeric (c : Char) : Bool :=
  alphabetic.contains c || decimalNumber.contains c || letterNumber.contains c ||
    otherNumber.contains c

/-- Letters, combining marks, decimal digits, connectors and joiners, but no recent ones. -/
def isWordChar (c : Char) : Bool :=
  (alphabetic.contains c || mark.contains c || decimalNumber.contains c || connector.contains c ||
    joinControl.contains c) && !recent.contains c

end Sift.Unicode
