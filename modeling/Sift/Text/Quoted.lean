import Sift.Unicode.DefaultIgnorable
import Sift.Unicode.GraphemeExtend
import Sift.Unicode.Mark
import Sift.Unicode.Unprintable

/-!
# Quoted texts

A text is quoted between double quotes. The quote, the backslash and the usual controls have short
escapes; any other character that cannot be seen on its own is written by its code point.
-/

namespace Sift.Text
open Sift.Unicode

/-- Whether a character is a mark that joins the one before it. The halfwidth voiced sound marks join
it too, but they are letters, which have a form of their own. -/
def isExtendingMark (c : Char) : Bool := graphemeExtend.contains c && mark.contains c

/-- Whether a character can be seen when it stands alone. -/
def isVisible (c : Char) : Bool :=
  c == ' ' || !(unprintable.contains c || defaultIgnorable.contains c || isExtendingMark c)

/-- The hexadecimal digits of a number, in small letters. -/
def hexText (n : Nat) : String := String.ofList (Nat.toDigits 16 n)

/-- A character as it stands between quotes. -/
def quotedChar (c : Char) : String :=
  match c with
  | '\x00' => "\\0"
  | '\t' => "\\t"
  | '\n' => "\\n"
  | '\r' => "\\r"
  | '"' => "\\\""
  | '\\' => "\\\\"
  | c => if isVisible c then c.toString else "\\u\x7b" ++ hexText c.toNat ++ "\x7d"

/-- A text between quotes. -/
def quoted (s : String) : String := "\"" ++ String.join (s.toList.map quotedChar) ++ "\""

end Sift.Text
