import Mathlib.Data.List.Induction
import Sift.Proofs.Reachable

/-!
# The types that a value is tried as

The handlers of an operator are added one after the other, in every engine that can come about
(`Engine.Reachable.exists_built`), and one for the same types as an earlier one takes its place
(`Operator.place_cases`). So it is the handler added last that compares values of two types
(`Operator.handler?_built`). But the order in which types are tried goes by the handlers that were
added first: it is the same as if none had been replaced (`Operator.askedTypes_built`).
-/

namespace Sift

variable {κ ε : Type}

/-- Whether a handler asks for values of type `right` to be compared with values of type `left`. -/
def Handler.asks (h : Handler κ) (left right : ValueType) : Bool :=
  h.isFor left right || h.isFor .object right

namespace Operator

variable {h : Handler κ} {handlers added : List (Handler κ)} {types : List ValueType}
  {left right type : ValueType} {token : String}

/-- One more type is listed unless it has been seen. -/
lemma firstOccurrences_append (types : List ValueType) (type : ValueType) :
    firstOccurrences (types ++ [type]) =
      if type ∈ firstOccurrences types then firstOccurrences types
      else firstOccurrences types ++ [type] := by
  rw [firstOccurrences, List.foldl_append]
  rfl

/-- First occurrences are those of the list. -/
lemma mem_firstOccurrences : type ∈ firstOccurrences types ↔ type ∈ types := by
  induction types using List.reverseRecOn with
  | nil => exact Iff.rfl
  | append_singleton types last ih =>
    rw [firstOccurrences_append, List.mem_append, List.mem_singleton, ← ih]
    split
    · next seen =>
      rw [iff_self_or]
      rintro rfl
      exact seen
    · rw [List.mem_append, List.mem_singleton]

/-- The types that handlers ask for, in the order in which they first do. -/
def askedTypes (left : ValueType) (handlers : List (Handler κ)) : List ValueType :=
  firstOccurrences ((handlers.filter (appliesTo left)).map Handler.right)

/-- The types that a value is tried as are those asked for, generic values last. -/
lemma rightTypes_eq (o : Operator κ) (left : ValueType) :
    o.rightTypes left = (askedTypes left o.handlers).filter (· ≠ .object) ++
      (askedTypes left o.handlers).filter (· = .object) := rfl

/-- A value is tried as the types that handlers ask for. -/
lemma mem_rightTypes {o : Operator κ} :
    right ∈ o.rightTypes left ↔ right ∈ askedTypes left o.handlers := by
  rw [rightTypes_eq, List.mem_append, List.mem_filter, List.mem_filter, ← and_or_left,
    decide_eq_true_iff, decide_eq_true_iff]
  exact and_iff_left (ne_or_eq right .object)

/-- A handler asks for its own right type, if it applies to the left one. -/
lemma asks_iff : h.asks left right = true ↔ appliesTo left h = true ∧ h.right = right := by
  simp only [Handler.asks, appliesTo, Bool.or_eq_true, Handler.isFor_iff, beq_iff_eq, or_and_right]

/-- A type is asked for if a handler asks for it. -/
lemma mem_askedTypes :
    right ∈ askedTypes left handlers ↔ ∃ h ∈ handlers, h.asks left right = true := by
  simp only [askedTypes, mem_firstOccurrences, List.mem_map, List.mem_filter, asks_iff, and_assoc]

/-- A handler at the end adds the type that it asks for, unless an earlier one has asked for it. -/
lemma askedTypes_append (left : ValueType) (handlers : List (Handler κ)) (h : Handler κ) :
    askedTypes left (handlers ++ [h]) =
      if appliesTo left h = true ∧ h.right ∉ askedTypes left handlers then
        askedTypes left handlers ++ [h.right]
      else askedTypes left handlers := by
  rw [askedTypes, List.filter_append, List.map_append]
  by_cases applies : appliesTo left h = true
  · rw [List.filter_cons_of_pos applies, List.filter_nil, List.map_singleton,
      firstOccurrences_append, ← askedTypes]
    by_cases seen : h.right ∈ askedTypes left handlers
    · rw [if_pos seen, if_neg fun new => new.2 seen]
    · rw [if_neg seen, if_pos ⟨applies, seen⟩]
  · rw [List.filter_cons_of_neg applies, List.filter_nil, List.map_nil, List.append_nil,
      ← askedTypes, if_neg fun new => applies new.1]

/-- A handler for the types of an earlier one asks for nothing new. -/
lemma askedTypes_append_of_known {g : Handler κ} (mem : g ∈ handlers)
    (same : g.isFor h.left h.right = true) (left : ValueType) :
    askedTypes left (handlers ++ [h]) = askedTypes left handlers := by
  obtain ⟨sameLeft, sameRight⟩ := Handler.isFor_iff.1 same
  rw [askedTypes_append, if_neg]
  rintro ⟨applies, new⟩
  refine new (mem_askedTypes.2 ⟨g, mem, asks_iff.2 ⟨?_, sameRight⟩⟩)
  rwa [appliesTo, sameLeft]

/-- In its place a handler asks for nothing that it would not ask for at the end. -/
lemma askedTypes_place (left : ValueType) (h : Handler κ) (handlers : List (Handler κ)) :
    askedTypes left (place h handlers) = askedTypes left (handlers ++ [h]) := by
  rcases place_cases h handlers with ⟨before, g, after, rfl, -, same, placed⟩ | ⟨-, placed⟩
  · obtain ⟨sameLeft, sameRight⟩ := Handler.isFor_iff.1 same
    have alike : appliesTo left g = appliesTo left h := by rw [appliesTo, appliesTo, sameLeft]
    have unchanged : askedTypes left (before ++ h :: after) =
        askedTypes left (before ++ g :: after) := by
      cases applies : appliesTo left h <;> simp [askedTypes, alike, applies, sameRight]
    rw [placed, unchanged, askedTypes_append_of_known (by simp) same]
  · rw [placed]

/-- The operator that has come about by adding handlers. -/
def built (token : String) (added : List (Handler κ)) : Operator κ := added.foldl add ⟨token, []⟩

/-- An operator is built from one more addition by adding it last. -/
lemma built_append (token : String) (added : List (Handler κ)) (h : Handler κ) :
    built token (added ++ [h]) = (built token added).add h := by
  rw [built, List.foldl_append]
  rfl

/-- What has been replaced does not matter for the types that are asked for. -/
lemma askedTypes_built (left : ValueType) (token : String) (added : List (Handler κ)) :
    askedTypes left (built token added).handlers = askedTypes left added := by
  induction added using List.reverseRecOn with
  | nil => rfl
  | append_singleton added h ih =>
    rw [built_append]
    show askedTypes left (place h (built token added).handlers) = _
    rw [askedTypes_place, askedTypes_append, askedTypes_append, ih]

/-- A handler that is added is the one for its types, and leaves those for other types. -/
lemma handler?_add (o : Operator κ) (h : Handler κ) (left right : ValueType) :
    (o.add h).handler? left right =
      if h.isFor left right then some h else o.handler? left right := by
  show (place h o.handlers).find? (·.isFor left right) = _
  rw [handler?]
  by_cases isFor : h.isFor left right = true
  · obtain ⟨rfl, rfl⟩ := Handler.isFor_iff.1 isFor
    rw [if_pos isFor]
    rcases place_cases h o.handlers with ⟨before, g, after, -, others, -, placed⟩ | ⟨others, placed⟩
    · rw [placed, List.find?_append, List.find?_eq_none.2 others, Option.none_or]
      exact List.find?_cons_of_pos isFor
    · rw [placed, List.find?_append, List.find?_eq_none.2 others, Option.none_or]
      exact List.find?_cons_of_pos isFor
  · have skip {later : List (Handler κ)} {g : Handler κ} (other : ¬g.isFor left right = true) :
        (g :: later).find? (·.isFor left right) = later.find? (·.isFor left right) :=
      List.find?_cons_of_neg other
    rw [if_neg isFor]
    rcases place_cases h o.handlers with ⟨before, g, after, all, -, same, placed⟩ | ⟨-, placed⟩
    · obtain ⟨sameLeft, sameRight⟩ := Handler.isFor_iff.1 same
      have other : ¬g.isFor left right = true := by
        rwa [Handler.isFor, sameLeft, sameRight]
      rw [placed, all, List.find?_append, List.find?_append, skip isFor, skip other]
    · rw [placed, List.find?_append, skip isFor, List.find?_nil, Option.or_none]

/-- The handler for two types is the one that was added last for them. -/
lemma handler?_built (token : String) (added : List (Handler κ)) (left right : ValueType) :
    (built token added).handler? left right = added.reverse.find? (·.isFor left right) := by
  induction added using List.reverseRecOn with
  | nil => rfl
  | append_singleton added h ih =>
    rw [built_append, handler?_add, ih, List.reverse_append, List.reverse_singleton,
      List.singleton_append, List.find?_cons]
    cases h.isFor left right <;> rfl

/-- There is a handler for two types once one has been added. -/
lemma isSome_handler?_built :
    ((built token added).handler? left right).isSome = true ↔
      ∃ h ∈ added, h.isFor left right = true := by
  simp only [handler?_built, List.find?_isSome, List.mem_reverse]

/-- When a type was first asked for, counted by the handlers that had been added before. -/
def firstAsked (added : List (Handler κ)) (left right : ValueType) : Nat :=
  added.findIdx (·.asks left right)

/-- A type is asked for first at a place among the additions, if it is asked for at all. -/
lemma firstAsked_lt_length :
    firstAsked added left right < added.length ↔ right ∈ askedTypes left added := by
  rw [firstAsked, List.findIdx_lt_length, mem_askedTypes]

/-- A later addition does not change who asked for a type first. -/
lemma firstAsked_append_of_mem (mem : right ∈ askedTypes left added) (h : Handler κ) :
    firstAsked (added ++ [h]) left right = firstAsked added left right := by
  rw [firstAsked, firstAsked, List.findIdx_append]
  exact if_pos (firstAsked_lt_length.2 mem)

/-- A type that nobody has asked for is asked for behind all of the others. -/
lemma length_le_firstAsked_append (new : right ∉ askedTypes left added) (h : Handler κ) :
    added.length ≤ firstAsked (added ++ [h]) left right := by
  have late : ¬added.findIdx (·.asks left right) < added.length := mt firstAsked_lt_length.1 new
  rw [firstAsked, List.findIdx_append, if_neg late]
  exact Nat.le_add_left _ _

/-- The types are listed in the order in which they were first asked for. -/
lemma pairwise_askedTypes (left : ValueType) (added : List (Handler κ)) :
    (askedTypes left added).Pairwise fun a b =>
      firstAsked added left a < firstAsked added left b := by
  induction added using List.reverseRecOn with
  | nil => exact .nil
  | append_singleton added h ih =>
    have kept : (askedTypes left added).Pairwise fun a b =>
        firstAsked (added ++ [h]) left a < firstAsked (added ++ [h]) left b := by
      refine ih.imp_of_mem fun {a b} mem mem' lt => ?_
      rwa [firstAsked_append_of_mem mem, firstAsked_append_of_mem mem']
    rw [askedTypes_append]
    split
    · next new =>
      refine List.pairwise_append.2 ⟨kept, List.pairwise_singleton _ _, fun a mem b last => ?_⟩
      cases List.mem_singleton.1 last
      calc
        firstAsked (added ++ [h]) left a = firstAsked added left a := firstAsked_append_of_mem mem h
        _ < added.length := firstAsked_lt_length.2 mem
        _ ≤ firstAsked (added ++ [h]) left h.right := length_le_firstAsked_append new.2 h
    · exact kept

end Operator

/-- The default operators are built from their own handlers. -/
lemma Relation.operator_eq_built (r : Relation) :
    (r.operator : Operator κ) = .built r.token r.operator.handlers := by
  cases r <;> rfl

/-- The operators of a reachable engine have come about by adding handlers. -/
theorem Engine.Reachable.exists_built {e : Engine κ ε} (reach : e.Reachable) :
    ∀ o ∈ e.operators, ∃ added, o = .built o.token added := by
  induction reach with
  | withOptions options =>
    intro o mem
    obtain ⟨r, -, rfl⟩ := List.mem_map.1 mem
    exact ⟨_, r.operator_eq_built⟩
  | step _ st ih =>
    cases st.change with
    | addOperator token =>
      refine List.forall_mem_append.2 ⟨ih, fun o mem => ⟨[], ?_⟩⟩
      cases List.mem_singleton.1 mem
      rfl
    | addHandler op h =>
      intro o mem
      obtain ⟨o, old, rfl⟩ := List.mem_map.1 mem
      obtain ⟨added, same⟩ := ih o old
      split
      · refine ⟨added ++ [h], ?_⟩
        rw [Operator.built_append]
        exact congrArg (Operator.add · h) same
      · exact ⟨added, same⟩
    | addFilter | removeFilter | addParser | set => exact ih

namespace Operator

/-- The types that a value is tried as are those of the handlers for its filter's type and of the
handlers for all types on the left. Each is tried once, a more specific one before `object` and
otherwise the one before that was asked for before, whatever handlers have been replaced since. A
handler for types that have one changes nothing. -/
theorem types_are_tried_in_order (token : String) (added : List (Handler κ)) (left : ValueType) :
    ((built token added).rightTypes left).Nodup ∧
    (∀ right, right ∈ (built token added).rightTypes left ↔
      ((built token added).handler? left right).isSome = true ∨
        left ≠ .object ∧ ((built token added).handler? .object right).isSome = true) ∧
    ((built token added).rightTypes left).Pairwise (fun a b =>
      a ≠ .object ∧ (b = .object ∨ firstAsked added left a < firstAsked added left b)) ∧
    ∀ h : Handler κ, ((built token added).handler? h.left h.right).isSome = true →
      ((built token added).add h).rightTypes left = (built token added).rightTypes left := by
  have ordered : ((built token added).rightTypes left).Pairwise fun a b =>
      a ≠ .object ∧ (b = .object ∨ firstAsked added left a < firstAsked added left b) := by
    have asked := pairwise_askedTypes left added
    rw [rightTypes_eq, askedTypes_built]
    refine List.pairwise_append.2 ⟨?specific, ?generic, ?apart⟩
    case specific =>
      refine (asked.filter _).imp_of_mem fun {a b} mem _ lt => ?_
      exact ⟨of_decide_eq_true (List.mem_filter.1 mem).2, .inr lt⟩
    case generic =>
      -- All types there are `object`, which was not asked for before itself.
      refine (asked.filter _).imp_of_mem fun {a b} mem mem' lt => ?_
      rw [of_decide_eq_true (List.mem_filter.1 mem).2,
        of_decide_eq_true (List.mem_filter.1 mem').2] at lt
      exact absurd lt (Nat.lt_irrefl _)
    case apart =>
      intro a mem b mem'
      exact ⟨of_decide_eq_true (List.mem_filter.1 mem).2,
        .inl (of_decide_eq_true (List.mem_filter.1 mem').2)⟩
  refine ⟨ordered.imp ?_, fun right => ?_, ordered, fun h known => ?_⟩
  · rintro a _ ⟨specific, generic | lt⟩ rfl
    · exact specific generic
    · exact Nat.lt_irrefl _ lt
  · rw [mem_rightTypes, askedTypes_built, mem_askedTypes, isSome_handler?_built,
      isSome_handler?_built]
    simp only [Handler.asks, Bool.or_eq_true, and_or_left, exists_or]
    by_cases object : left = .object
    · simp only [object, or_self, ne_eq, not_true_eq_false, false_and, or_false]
    · rw [and_iff_right object]
  · obtain ⟨g, mem, same⟩ := isSome_handler?_built.1 known
    rw [rightTypes_eq, rightTypes_eq, ← built_append, askedTypes_built, askedTypes_built,
      askedTypes_append_of_known mem same]

/-- A handler that lets all members of two host types match. -/
def anyOf {α β : Type} (L : HostType Empty α) (R : HostType Empty β) : Handler Empty :=
  .of L R fun _ _ _ => true

/-- Handlers with values of all types on either side. -/
def crossing : List (Handler Empty) :=
  [anyOf (.integer .value) .string, anyOf .object (.integer .value),
    anyOf (.integer .value) .object, anyOf .object (.floating .double)]

/-- For integers a string is tried before the rest, and still is when the handler that asked for it
has been replaced. -/
theorem types_tried_for_integers :
    (built "~" crossing).rightTypes .int = [.string, .int, .float, .object] ∧
      (built "~" crossing).rightTypes .object = [.int, .float] ∧
      ((built "~" crossing).handler? .int .string).isSome = true ∧
      ((built "~" crossing).add (anyOf (.integer .value) .string)).rightTypes .int =
        (built "~" crossing).rightTypes .int := by
  have known : ((built "~" crossing).handler? .int .string).isSome = true := rfl
  obtain ⟨-, -, -, unchanged⟩ := types_are_tried_in_order "~" crossing .int
  exact ⟨rfl, rfl, known, unchanged (anyOf (.integer .value) .string) known⟩

end Operator

end Sift
