/-!
# Positions in a text

Positions and lengths count the bytes of the text's UTF-8 form, one to four for a character.
-/

namespace Sift.Text

/-- The number of bytes of a text's UTF-8 form. -/
def width : List Char → Nat
  | [] => 0
  | c :: cs => c.utf8Size + width cs

/-- No characters have no bytes. -/
@[simp] theorem width_nil : width [] = 0 := rfl

/-- A character adds its bytes. -/
@[simp] theorem width_cons (c : Char) (cs : List Char) :
    width (c :: cs) = c.utf8Size + width cs := rfl

/-- The bytes of two texts add up. -/
@[simp] theorem width_append (cs ds : List Char) : width (cs ++ ds) = width cs + width ds := by
  induction cs with
  | nil => simp
  | cons c cs ih =>
    rw [List.cons_append, width_cons, width_cons, ih, Nat.add_assoc]

/-- A text that is not empty has bytes. -/
theorem width_pos {cs : List Char} (h : cs ≠ []) : 0 < width cs := by
  cases cs with
  | nil => exact absurd rfl h
  | cons c cs =>
    have := c.utf8Size_pos
    simp only [width_cons]
    omega

end Sift.Text
