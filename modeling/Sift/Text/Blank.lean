import Sift.Unicode.Class

/-!
# Blanks around a text

A text is a list of characters. Readers of numbers and truth values drop the blanks at both ends.
-/

namespace Sift.Text
open Sift.Unicode

/-- The text without the blanks at its end. -/
def trimEnd (cs : List Char) : List Char := (cs.reverse.dropWhile isBlank).reverse

/-- The text without the blanks at its two ends. -/
def trim (cs : List Char) : List Char := trimEnd (cs.dropWhile isBlank)

end Sift.Text
