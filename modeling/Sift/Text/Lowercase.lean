import Sift.Unicode.Cased
import Sift.Unicode.Lowercase

/-!
# Lowercase of texts

Every character goes to its own lowercase, but a capital sigma at the end of a word goes to the
final form of the letter. A word ends there when, case-ignorable characters aside, the sigma stands
behind a cased character and not in front of one.
-/

namespace Sift.Text
open Sift.Unicode

/-- Whether the first character that is not case-ignorable exists and is cased. -/
def meetsCased (cs : List Char) : Bool :=
  match cs.dropWhile caseIgnorable.contains with
  | [] => false
  | c :: _ => cased.contains c

/-- The lowercase of a text that stands behind `before`, which is given nearest character first. -/
def lowercaseBehind (before : List Char) : List Char → List Char
  | [] => []
  | c :: after =>
    (if c = 'Σ' then [if meetsCased before && !meetsCased after then 'ς' else 'σ']
      else lowercaseChar c) ++ lowercaseBehind (c :: before) after

/-- The lowercase of a whole text. -/
def lowercase (cs : List Char) : List Char := lowercaseBehind [] cs

/-- The lowercase of a whole string. -/
def lowercaseString (s : String) : String := String.ofList (lowercase s.toList)

end Sift.Text
