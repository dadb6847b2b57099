import Sift.Text.Width

/-!
# Slices

A slice of a text is given by the positions of its ends, which count bytes. It exists just if both
lie between characters of the text, or at one of its ends, and come in order.
-/

namespace Sift.Text

/-- What follows the first bytes of a text, if these are whole characters. -/
def dropBytes? : Nat → List Char → Option (List Char)
  | 0, cs => some cs
  | _ + 1, [] => none
  | n + 1, c :: cs => if c.utf8Size ≤ n + 1 then dropBytes? (n + 1 - c.utf8Size) cs else none

/-- The first bytes of a text, if these are whole characters. -/
def takeBytes? : Nat → List Char → Option (List Char)
  | 0, _ => some []
  | _ + 1, [] => none
  | n + 1, c :: cs =>
    if c.utf8Size ≤ n + 1 then (takeBytes? (n + 1 - c.utf8Size) cs).map (c :: ·) else none

/-- The slice of a text between two positions. -/
def slice? (text : List Char) (start stop : Nat) : Option (List Char) :=
  if start ≤ stop then (dropBytes? start text).bind (takeBytes? (stop - start)) else none

/-- The width of a text that begins with a character. -/
theorem exists_width_cons (c : Char) (cs : List Char) :
    ∃ n, width (c :: cs) = n + 1 ∧ c.utf8Size ≤ n + 1 ∧ n + 1 - c.utf8Size = width cs := by
  have pos := c.utf8Size_pos
  refine ⟨width (c :: cs) - 1, ?_⟩
  rw [width_cons]
  omega

/-- As many bytes as the front has can be dropped. -/
theorem dropBytes?_width (before rest : List Char) :
    dropBytes? (width before) (before ++ rest) = some rest := by
  induction before with
  | nil => rw [width_nil, dropBytes?, List.nil_append]
  | cons c before ih =>
    obtain ⟨n, size, le, left⟩ := exists_width_cons c before
    rw [size, List.cons_append, dropBytes?, if_pos le, left, ih]

/-- As many bytes as the front has can be taken. -/
theorem takeBytes?_width (cs rest : List Char) :
    takeBytes? (width cs) (cs ++ rest) = some cs := by
  induction cs with
  | nil => rw [width_nil, takeBytes?]
  | cons c cs ih =>
    obtain ⟨n, size, le, left⟩ := exists_width_cons c cs
    rw [size, List.cons_append, takeBytes?, if_pos le, left, ih, Option.map_some]

/-- What is dropped is a front of as many bytes. -/
theorem exists_of_dropBytes? {n : Nat} {cs rest : List Char} (h : dropBytes? n cs = some rest) :
    ∃ before, cs = before ++ rest ∧ n = width before := by
  fun_induction dropBytes? n cs with
  | case1 cs =>
    cases h
    exact ⟨[], rfl, rfl⟩
  | case2 => cases h
  | case3 n c cs le ih =>
    obtain ⟨before, rfl, left⟩ := ih h
    refine ⟨c :: before, rfl, ?_⟩
    rw [width_cons]
    omega
  | case4 => cases h

/-- What is taken is a front of as many bytes. -/
theorem exists_of_takeBytes? {n : Nat} {cs taken : List Char} (h : takeBytes? n cs = some taken) :
    ∃ rest, cs = taken ++ rest ∧ n = width taken := by
  fun_induction takeBytes? n cs generalizing taken with
  | case1 cs =>
    cases h
    exact ⟨cs, rfl, rfl⟩
  | case2 => cases h
  | case3 n c cs le ih =>
    obtain ⟨taken, found, rfl⟩ := Option.map_eq_some_iff.1 h
    obtain ⟨rest, rfl, left⟩ := ih found
    refine ⟨rest, rfl, ?_⟩
    rw [width_cons]
    omega
  | case4 => cases h

/-- A slice is what stands between its ends. -/
theorem slice?_eq_some_iff {text taken : List Char} {start stop : Nat} :
    slice? text start stop = some taken ↔
      ∃ before after, text = before ++ (taken ++ after) ∧ start = width before ∧
        stop = start + width taken := by
  constructor
  · intro h
    rw [slice?] at h
    split at h
    · next le =>
      obtain ⟨rest, found, taken⟩ := Option.bind_eq_some_iff.1 h
      obtain ⟨before, rfl, first⟩ := exists_of_dropBytes? found
      obtain ⟨after, rfl, length⟩ := exists_of_takeBytes? taken
      exact ⟨before, after, rfl, first, by omega⟩
    · cases h
  · rintro ⟨before, after, rfl, rfl, rfl⟩
    rw [slice?, if_pos (Nat.le_add_right _ _), dropBytes?_width, Option.bind_some,
      Nat.add_sub_cancel_left, takeBytes?_width]

/-- No slice ends inside a character. -/
example : slice? "né!".toList 1 2 = none := by decide

end Sift.Text
