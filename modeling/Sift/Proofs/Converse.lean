import Sift.Proofs.Containment

/-!
# Comparing the other way round

Two values of any types are compared in the same way from either side: as integers, as truth values,
as numbers, or by their labels. Each of these ways reverses its order when the sides are exchanged,
and so does the loose comparison (`Value.looseCompare_swap`). The handlers for values of all types
follow it: what `<` says from one side `>` says from the other (`comparing_is_mirrored`).
-/

namespace Sift

open Number Text

variable {κ : Type}

/-- The order of two numbers is reversed with them. If one of them is not a number, there is none
either way. -/
lemma Number.Binary.compare?_swap {f : Format} (x y : Binary f) :
    y.compare? x = (x.compare? y).map Ordering.swap := by
  have ranks : compare y.rank x.rank = (compare x.rank y.rank).swap := Std.OrientedCmp.eq_swap
  rw [compare?, compare?, Bool.or_comm, ranks]
  split <;> rfl

namespace Value

variable {a b : Value κ}

/-- Two integers compare the other way round when they are exchanged. -/
lemma looseCompare_swap_of_ints (cmp : Comparison) (m n : Int) :
    (int n : Value κ).looseCompare cmp (int m) =
      ((int m : Value κ).looseCompare cmp (int n)).map Ordering.swap := by
  have swap : compare n m = (compare m n).swap := Std.OrientedCmp.eq_swap
  exact congrArg some swap

/-- Two truth values compare the other way round when they are exchanged. -/
lemma looseCompare_swap_of_bools (cmp : Comparison) (x y : Bool) :
    (bool y : Value κ).looseCompare cmp (bool x) =
      ((bool x : Value κ).looseCompare cmp (bool y)).map Ordering.swap := by
  have swap : compare y x = (compare x y).swap := Std.OrientedCmp.eq_swap
  exact congrArg some swap

/-- Values that are not both numbers are compared by their labels from both sides, unless they are
truth values. -/
lemma looseCompare_swap_of_labels (other : a.numeric? = none ∨ b.numeric? = none)
    (cmp : Comparison) :
    b.looseCompare cmp a = (a.looseCompare cmp b).map Ordering.swap := by
  rcases looseCompare_of_labels other with ⟨x, y, rfl, rfl⟩ | forth
  · exact looseCompare_swap_of_bools cmp x y
  · rcases looseCompare_of_labels other.symm with ⟨y, x, rfl, rfl⟩ | back
    · exact looseCompare_swap_of_bools cmp x y
    · rw [forth, back, cmp.isTextOrder_compare.swap a.label b.label]
      rfl

/-- The order of two values is reversed with them, and there is none one way if there is none the
other. -/
lemma looseCompare_swap (cmp : Comparison) (a b : Value κ) :
    b.looseCompare cmp a = (a.looseCompare cmp b).map Ordering.swap := by
  -- Whether there is a number on each side decides the way that is taken, from either side.
  cases left : a.numeric? with
  | none => exact looseCompare_swap_of_labels (.inl left) cmp
  | some x =>
    cases right : b.numeric? with
    | none => exact looseCompare_swap_of_labels (.inr right) cmp
    | some y =>
      rcases looseCompare_of_numbers left right with ⟨m, n, rfl, rfl⟩ | forth
      · exact looseCompare_swap_of_ints cmp m n
      · rcases looseCompare_of_numbers right left with ⟨n, m, rfl, rfl⟩ | back
        · exact looseCompare_swap_of_ints cmp m n
        · rw [forth, back]
          exact Binary.compare?_swap x y

end Value

namespace Relation

/-- The relation in which the right side stands to the left. -/
def converse : Relation → Relation
  | contains => contains
  | eq => eq
  | ne => ne
  | lt => gt
  | gt => lt
  | le => ge
  | ge => le

/-- The converse of a relation holds of the reversed order. -/
lemma holds_converse (r : Relation) (order : Option Ordering) :
    r.converse.holds (order.map Ordering.swap) = r.holds order := by
  cases r <;> rcases order with - | - | - | - <;> rfl

/-- Only containment is the converse of containment. -/
lemma converse_ne {r : Relation} (ne : r ≠ contains) : r.converse ≠ contains := by
  cases r with
  | contains => exact absurd rfl ne
  | eq | ne | lt | gt | le | ge => nofun

/-- The handler of the converse answers for exchanged values as that of the relation does. -/
lemma call_looseHandler_converse {r : Relation} (ne : r ≠ contains) (a b : Value κ)
    (cmp : Comparison) : r.converse.looseHandler.call b a cmp = r.looseHandler.call a b cmp := by
  rw [call_looseHandler ne, call_looseHandler (converse_ne ne), Value.looseCompare_swap cmp a b,
    holds_converse]

end Relation

/-- However texts are compared, the order of two values is reversed when they are exchanged, and
there is none one way exactly if there is none the other; so loose equality is symmetric. And the
handlers for values of all types that every engine has for `<` and `>`, and for `<=` and `>=`, are
converses of each other, as are those for `=` and for `!=` of themselves. -/
theorem comparing_is_mirrored :
    (∀ (cmp : Comparison) (a b : Value κ),
      b.looseCompare cmp a = (a.looseCompare cmp b).map Ordering.swap ∧
      (b.looseCompare cmp a = none ↔ a.looseCompare cmp b = none) ∧
      b.looseEquals cmp a = a.looseEquals cmp b) ∧
    ∀ r : Relation, r ≠ .contains →
      ∃ h g : Handler κ, r.operator.handler? .object .object = some h ∧
        r.converse.operator.handler? .object .object = some g ∧
        ∀ a b cmp, g.call b a cmp = h.call a b cmp := by
  constructor
  · intro cmp a b
    have swap := Value.looseCompare_swap cmp a b
    refine ⟨swap, ?_, ?_⟩
    · rw [swap, Option.map_eq_none_iff]
    · rw [Value.looseEquals, Value.looseEquals, swap]
      rcases a.looseCompare cmp b with - | - | - | - <;> rfl
  · intro r ne
    exact ⟨r.looseHandler, r.converse.looseHandler, rfl, rfl,
      Relation.call_looseHandler_converse ne⟩

/-- A text that writes ten is above nine from one side, and nine below it from the other. A text
that is spelled like the value which is not a number has no order to it. -/
theorem comparing_of_ten_and_nine :
    (Value.string " 1e1 " : Value Empty).looseCompare .caseSensitive (.int 9) = some .gt ∧
      (Value.int 9 : Value Empty).looseCompare .caseSensitive (.string " 1e1 ") = some .lt ∧
      (Value.int 9 : Value Empty).looseCompare .caseSensitive (.string "-NaN") = none ∧
      (Value.string "-NaN" : Value Empty).looseCompare .caseSensitive (.int 9) = none ∧
      ∃ h g : Handler Empty, Relation.gt.operator.handler? .object .object = some h ∧
        Relation.lt.operator.handler? .object .object = some g ∧
        g.call (.int 9) (.string " 1e1 ") .caseSensitive =
          h.call (.string " 1e1 ") (.int 9) .caseSensitive := by
  obtain ⟨mirrored, handlers⟩ := comparing_is_mirrored (κ := Empty)
  have above : (Value.string " 1e1 " : Value Empty).looseCompare .caseSensitive (.int 9) =
      some .gt := by decide +kernel
  have apart : (Value.int 9 : Value Empty).looseCompare .caseSensitive (.string "-NaN") = none := by
    decide +kernel
  have below := (mirrored .caseSensitive (.string " 1e1 ") (.int 9)).1
  rw [above] at below
  obtain ⟨h, g, forth, back, converse⟩ := handlers .gt (by decide)
  exact ⟨above, below, apart, (mirrored _ _ _).2.1.2 apart, h, g, forth, back, converse _ _ _⟩

end Sift
