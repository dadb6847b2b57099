import Sift.Json.Reader
import Sift.Options.Basic
import Sift.Text.Blank
import Sift.Text.Quoted

/-!
# Written options

A set of switches is written as names and one hexadecimal number for the bits without a name, with
bars between them. Options are written as a JSON object, or as an array of its values in order; what
is left out has its default.
-/

namespace Sift
open Text

/-- The value of a non-empty run of hexadecimal digits, which may follow a plus sign. -/
def readHex? (cs : List Char) : Option Nat :=
  let digits := match cs with
    | '+' :: digits => digits
    | digits => digits
  if digits = [] then none
  else digits.foldl (fun n? c => do return 16 * (← n?) + (← Json.hexDigit? c)) (some 0)

namespace Validation

/-- One part of a written set: a hexadecimal number of eight bits, or a name. -/
def readPart? (cs : List Char) : Option Validation :=
  match cs with
  | '0' :: 'x' :: digits => (readHex? digits).bind fun n =>
    if n < 256 then some ⟨BitVec.ofNat 8 n⟩ else none
  | cs => (named.find? fun entry => entry.1.toList == cs).map Prod.snd

/-- The parts of a text between bars. -/
def splitBars : List Char → List (List Char)
  | [] => [[]]
  | c :: cs =>
    if c = '|' then [] :: splitBars cs
    else
      match splitBars cs with
      | part :: parts => (c :: part) :: parts
      | [] => [[c]]

/-- The set that a text writes. A blank text writes the empty set. -/
def read? (text : String) : Option Validation :=
  if trim text.toList = [] then some ⟨0⟩
  else
    (splitBars text.toList).foldl
      (fun set? part => do return (← set?).union (← readPart? (trim part))) (some ⟨0⟩)

/-- The text of a set. -/
def text (v : Validation) : String :=
  let present := named.filter fun entry => v.includes entry.2
  let unnamed := present.foldl (fun rest entry => rest.diff entry.2) v
  let number := if unnamed.bits = 0 then [] else ["0x" ++ hexText unnamed.bits.toNat]
  " | ".intercalate (present.map Prod.fst ++ number)

end Validation

namespace Comparison

/-- The written name of a comparison. -/
def name : Comparison → String
  | caseSensitive => "case_sensitive"
  | caseInsensitive => "case_insensitive"

/-- The comparison of a name. -/
def ofName? (s : String) : Option Comparison :=
  [caseSensitive, caseInsensitive].find? fun c => c.name == s

/-- A comparison is written as its name, or as an object whose only field has that name and no
value. -/
def ofJson? : Json → Option Comparison
  | .string (some s) => ofName? s
  | .object [(some s, .null)] => ofName? s
  | _ => none

end Comparison

/-- A set of switches is written as a string. -/
def Validation.ofJson? : Json → Option Validation
  | .string (some s) => read? s
  | _ => none

namespace Options

/-- A value that is read if it is there and has a default. -/
def readOr {α : Type} (default : α) (read : Json → Option α) : Option Json → Option α
  | none => some default
  | some j => read j

/-- The options of their written values. -/
def ofValues? (validation comparison : Option Json) : Option Options := do
  return {
    validation := ← readOr .validateFilters Validation.ofJson? validation
    comparison := ← readOr .caseInsensitive Comparison.ofJson? comparison }

/-- The options that a JSON value writes. -/
def ofJson? : Json → Option Options
  | .object fields => do
    ofValues? (← Json.field? "validation" fields) (← Json.field? "string_comparison" fields)
  | .array items =>
    if items.length ≤ 2 then ofValues? items[0]? items[1]? else none
  | _ => none

/-- The options that a JSON text writes. -/
def read? (text : String) : Option Options := (Json.read? text).bind ofJson?

end Options
end Sift
