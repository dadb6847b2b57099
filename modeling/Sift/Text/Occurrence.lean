/-!
# One text inside another

`occursIn needle hay` holds exactly when the needle is a contiguous part of the hay. Two texts that
differ in the case of ASCII letters only are told by `equalIgnoringAsciiCase`.
-/

namespace Sift.Text

/-- Whether `needle` begins at some character of the text, or at its end. -/
def occursIn (needle : List Char) : List Char → Bool
  | [] => needle.isEmpty
  | c :: cs => needle.isPrefixOf (c :: cs) || occursIn needle cs

/-- A text occurs in another if it is a part of it. -/
theorem occursIn_iff (needle hay : List Char) : occursIn needle hay = true ↔ needle <:+: hay := by
  induction hay with
  | nil => simp [occursIn]
  | cons c cs ih =>
    simp only [occursIn, Bool.or_eq_true, List.isPrefixOf_iff_prefix, ih, List.infix_cons_iff]

/-- Whether two texts are equal up to the case of ASCII letters. -/
def equalIgnoringAsciiCase (cs ds : List Char) : Bool :=
  cs.map Char.toLower == ds.map Char.toLower

end Sift.Text
