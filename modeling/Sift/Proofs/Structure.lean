import Sift.Proofs.Clauses
import Sift.Proofs.Likeness
import Sift.Proofs.Pieces
import Sift.Proofs.Pruning
import Sift.Proofs.Recovery

/-!
# Structure without meaning

How a text falls into terms depends on which operators there are, and on nothing else of an engine:
not even on their order (`Outline.scan_congr`). How terms are combined does not depend on what they
mean (`Item.combined_map`). So engines with the same operators give a text trees of one shape, and
find the same errors of structure in it (`Engine.structure_of_operators`): no filter, parser or
option causes such an error or hides it.
-/

namespace Sift

open Text

/-- Whether a cause is about how a text is put together, and not about what a term means. -/
def Cause.isStructural : Cause → Bool
  | noToken => true
  | unbalancedParenthesis => true
  | missingOperand _ => true
  | missingSide _ _ => true
  | _ => false

/-- The errors that are about how the text is put together, in their order. -/
def structural (errors : List QueryError) : List QueryError :=
  errors.filter (·.cause.isStructural)

section Operators

variable {operators operators' : List (List Char)}
  (same : ∀ op, op ∈ operators ↔ op ∈ operators')
include same

namespace Clause

/-- The operator at a place depends only on which operators there are. -/
lemma longestStart?_congr (cs : List Char) :
    longestStart? operators cs = longestStart? operators' cs := by
  refine Option.ext fun op => ?_
  rw [longestStart?_eq_some_iff, longestStart?_eq_some_iff]
  simp only [same]

/-- The value at a place depends only on which operators there are. -/
lemma valueStart?_congr (cs : List Char) :
    valueStart? operators cs = valueStart? operators' cs := by
  have any (p : List Char → Bool) : operators.any p = operators'.any p := by
    rw [Bool.eq_iff_iff, List.any_eq_true, List.any_eq_true]
    simp only [same]
  simp only [valueStart?, any]

/-- The clause at a place depends only on which operators there are. -/
lemma first?_congr (start : Nat) (cs : List Char) :
    first? operators start cs = first? operators' start cs := by
  simp only [first?, longestStart?_congr same, valueStart?_congr same]

end Clause

/-- The token at a place depends only on which operators there are. -/
lemma Token.first_congr (start : Nat) (cs : List Char) :
    first operators start cs = first operators' start cs := by
  simp only [first, Clause.first?_congr same]

/-- The outline of a text depends on which operators there are only. -/
lemma Outline.scan_congr (start : Nat) (cs : List Char) :
    scan operators start cs = scan operators' start cs := by
  fun_induction scan operators start cs with
  | case1 => rw [scan_nil]
  | case2 start cs ne error first =>
    rw [Token.first_congr same] at first
    rw [scan_of_error ne first]
  | case3 start cs ne l first _ next e ih =>
    rw [Token.first_congr same] at first
    simp only [scan_of_first ne first, e, ← ih, next]
  | case4 start cs ne l first _ next k e ih =>
    rw [Token.first_congr same] at first
    simp only [scan_of_first ne first, e, ← ih, next]
  | case5 start cs ne l first _ next inner e _ ihNext ihInner =>
    rw [Token.first_congr same] at first
    simp only [scan_of_first ne first, e, ← ihNext, ← ihInner, next]
  | case6 start cs ne l first _ next c e ih =>
    rw [Token.first_congr same] at first
    simp only [scan_of_first ne first, e, ← ih, next]
  | case7 start cs ne l first _ next text exact e ih =>
    rw [Token.first_congr same] at first
    simp only [scan_of_first ne first, e, ← ih, next]

end Operators

section Leaves

variable {α β : Type} (f : α → β)

namespace Item

/-- The item with its leaves changed. -/
def map (f : α → β) : Item α → Item β
  | combinator k s => combinator k s
  | term t => term (t.map f)

end Item

/-- Leaves correspond to what a function makes of them, and all else to itself. -/
def Likeness.ofMap : Likeness α β where
  site s s' := s = s'
  leaf s a s' b := s = s' ∧ f a = b
  error e e' := e = e'
  site_of_leaf h := h.1
  gap hs ht := by rw [hs, ht]
  missingOperand h := by rw [h]
  missingSide side c h := by rw [h]

variable {f}

/-- A tree is like itself with its leaves changed. -/
lemma Tree.alike_map (t : Tree α) : t.Alike (.ofMap f) (t.map f) := by
  induction t with
  | leaf s a => exact .leaf ⟨rfl, rfl⟩
  | not s t ih => exact .not rfl ih
  | join c s l r ihl ihr => exact .join c rfl ihl ihr

/-- A tree that is alike is the tree with its leaves changed. -/
lemma Tree.map_eq_of_alike {t : Tree α} {t' : Tree β} (h : t.Alike (.ofMap f) t') :
    t.map f = t' := by
  induction h with
  | leaf h =>
    obtain ⟨rfl, rfl⟩ := h
    rfl
  | not site _ ih => rw [map, ih, site]
  | join c site _ _ ihl ihr => rw [map, ihl, ihr, site]

namespace Item

/-- An item is like itself with its leaves changed. -/
lemma alike_map (x : Item α) : x.Alike (.ofMap f) (x.map f) := by
  cases x with
  | combinator k s => exact .combinator k rfl
  | term t => exact .term t.alike_map

/-- How a row is combined does not depend on its leaves. -/
lemma combined_map (f : α → β) (row : List (Item α)) :
    combined (row.map (map f)) = (combined row).map (Option.map (Tree.map f)) := by
  have rows : List.Forall₂ (Alike (.ofMap f)) row (row.map (map f)) :=
    List.forall₂_map_right_iff.2 (List.forall₂_same.2 fun x _ => x.alike_map)
  have whole : ⟨(combined row).errors.map id, _⟩ = combined (row.map (map f)) :=
    (alike_combined rows).eq_map (fun _ _ same => same) fun _ _ => Tree.map_eq_of_alike
  rw [List.map_id] at whole
  exact whole.symm

end Item

end Leaves

/-- The tree with nothing at its leaves. -/
def Tree.shape {α : Type} (t : Tree α) : Tree Unit := t.map fun _ => ()

/-- The item with nothing at its leaves. -/
def Item.shape {α : Type} (x : Item α) : Item Unit := x.map fun _ => ()

/-- The shape of a tree in a row is the tree's shape in the row. -/
lemma Item.map_shape_term {α : Type} (tree? : Option (Tree α)) :
    (tree?.toList.map term).map shape = (tree?.map Tree.shape).toList.map term := by
  cases tree? <;> rfl

/-- The errors of structure, and of the result what `f` leaves of it. -/
def Recorded.sketch {α β : Type} (f : α → β) (r : Recorded α) : Recorded β :=
  ⟨structural r.errors, r.result?.map f⟩

section Sketches

variable {α β α' β' γ δ : Type} {r : Recorded α} {r' : Recorded β} {f : α → γ} {g : β → γ}
  (same : r.sketch f = r'.sketch g)

namespace Recorded

include same

/-- Two readings with the same sketch go on to the same sketch. -/
lemma sketch_andThen {next : α → Recorded α'} {next' : β → Recorded β'} {h : α' → δ} {k : β' → δ}
    (step : ∀ a b, f a = g b → (next a).sketch h = (next' b).sketch k) :
    (r.andThen next).sketch h = (r'.andThen next').sketch k := by
  obtain ⟨errors, result?⟩ := r
  obtain ⟨errors', result?'⟩ := r'
  obtain ⟨before, results⟩ := Recorded.mk.inj same
  cases result? with
  | none =>
    cases result?' with
    | none => exact congrArg (Recorded.mk · none) before
    | some b => cases results
  | some a =>
    cases result?' with
    | none => cases results
    | some b =>
      obtain ⟨behind, results⟩ := Recorded.mk.inj (step a b (Option.some.inj results))
      have errors : structural (errors ++ (next a).errors) =
          structural (errors' ++ (next' b).errors) := by
        rw [structural, List.filter_append, structural, List.filter_append]
        exact congrArg₂ (· ++ ·) before behind
      exact congrArg₂ Recorded.mk errors results

/-- Results that are changed alike have one sketch. -/
lemma sketch_map {m : α → α'} {m' : β → β'} {h : α' → δ} {k : β' → δ}
    (step : ∀ a b, f a = g b → h (m a) = k (m' b)) :
    (r.map m).sketch h = (r'.map m').sketch k := by
  obtain ⟨errors, results⟩ := Recorded.mk.inj same
  refine congrArg₂ Recorded.mk errors ?_
  rw [map, map]
  cases e : r.result? with
  | none =>
    rw [e, Option.map_none, eq_comm, Option.map_eq_none_iff] at results
    rw [results]
    rfl
  | some a =>
    rw [e, Option.map_some, eq_comm, Option.map_eq_some_iff] at results
    obtain ⟨b, e', alike⟩ := results
    rw [e']
    exact congrArg some (step a b alike.symm)

end Recorded

/-- Rows of one shape come together as trees of one shape, with the same errors. -/
lemma Item.sketch_combined {row : List (Item α)} {row' : List (Item β)}
    (same : row.map shape = row'.map shape) :
    (combined row).sketch (Option.map Tree.shape) =
      (combined row').sketch (Option.map Tree.shape) := by
  have both : (combined row).map (Option.map Tree.shape) =
      (combined row').map (Option.map Tree.shape) :=
    calc (combined row).map (Option.map Tree.shape)
        = combined (row.map shape) := (combined_map _ row).symm
      _ = combined (row'.map shape) := congrArg combined same
      _ = (combined row').map (Option.map Tree.shape) := combined_map _ row'
  obtain ⟨errors, results⟩ := Recorded.mk.inj both
  exact congrArg₂ Recorded.mk (congrArg structural errors) results

end Sketches

section Terms

variable {α β : Type} {read : Term → Except QueryError (Option α)}
  {read' : Term → Except QueryError (Option β)}

/-- A term is sketched as a leaf without errors. -/
lemma sketch_readLeaf
    (quiet : ∀ t error, read t = .error error → error.cause.isStructural = false) (t : Term) :
    (readLeaf read t).sketch Tree.shape = .ok (.leaf t.site ()) := by
  rw [readLeaf]
  cases e : read t with
  | ok a? => rfl
  | error error =>
    have none : structural [error] = [] := by simp [structural, quiet t error e]
    rw [Recorded.sketch, none]
    rfl

/-- What terms mean, and that they are refused, changes neither how a level comes together nor what
is wrong with its structure. -/
lemma Outline.sketch_row
    (quiet : ∀ t error, read t = .error error → error.cause.isStructural = false)
    (quiet' : ∀ t error, read' t = .error error → error.cause.isStructural = false)
    (o : Outline) :
    (o.row read).sketch (List.map Item.shape) = (o.row read').sketch (List.map Item.shape) := by
  induction o with
  | done => rfl
  | broken e => rfl
  | blank _ next ih => exact ih
  | combinator k s next ih =>
    refine Recorded.sketch_map ih fun row row' same => ?_
    exact congrArg (Item.combinator k s :: ·) same
  | term t next ih =>
    have leaf := (sketch_readLeaf quiet t).trans (sketch_readLeaf quiet' t).symm
    refine Recorded.sketch_andThen leaf fun leaf leaf' site => ?_
    refine Recorded.sketch_map ih fun row row' same => ?_
    exact congrArg₂ (Item.term · :: ·) site same
  | group inner next ihInner ihNext =>
    refine Recorded.sketch_andThen (Recorded.sketch_andThen ihInner fun _ _ => Item.sketch_combined)
      fun tree? tree?' inner => ?_
    refine Recorded.sketch_map ihNext fun row row' same => ?_
    rw [List.map_append, List.map_append, Item.map_shape_term, Item.map_shape_term, inner, same]

end Terms

namespace Engine

variable {κ ε κ' ε' : Type}

/-- What is wrong with the meaning of a term is not wrong with the structure. -/
lemma isStructural_of_readTerm (e : Engine κ ε) (t : Term) (error : QueryError)
    (h : e.readTerm t = .error error) : error.cause.isStructural = false := by
  rcases cases_of_readTerm h with ⟨fault, e⟩ | e <;> rw [e] <;> rfl

/-- Engines with the same operators read a text as trees of one shape or both give up, and find the
same errors of structure. -/
theorem structure_of_operators (e : Engine κ ε) (e' : Engine κ' ε')
    (same : ∀ token, token ∈ e.operatorTokens ↔ token ∈ e'.operatorTokens) (text : String) :
    ((e.reading text).result? = none ↔ (e'.reading text).result? = none) ∧
      (e.reading text).result?.map (Option.map Tree.shape) =
        (e'.reading text).result?.map (Option.map Tree.shape) ∧
      structural (e.query text).errors = structural (e'.query text).errors := by
  have texts (op : List Char) : op ∈ e.operatorTexts ↔ op ∈ e'.operatorTexts := by
    simp only [operatorTexts, List.mem_map, same]
  have outline : e.outline text = e'.outline text := Outline.scan_congr texts 0 text.toList
  have sketch : (e.reading text).sketch (Option.map Tree.shape) =
      (e'.reading text).sketch (Option.map Tree.shape) := by
    rw [reading, reading, outline]
    refine Recorded.sketch_andThen ?_ fun row row' => Item.sketch_combined
    exact Outline.sketch_row e.isStructural_of_readTerm e'.isStructural_of_readTerm _
  obtain ⟨errors, shape⟩ := Recorded.mk.inj sketch
  refine ⟨?_, shape, ?_⟩
  · rw [← Option.map_eq_none_iff, shape, Option.map_eq_none_iff]
  · rw [errors_query, errors_query, errors]

/-- Two more operators in either order, one engine that refuses the clause and the word of a text,
and one that skips the clause and takes the word: both find that three operands are missing. -/
theorem structure_of_swapped_operators :
    ∃ e e' : Engine Empty Unit,
      ((withOptions {}).registerOperator "~" >>= (·.registerOperator "~~")) = .ok e ∧
      ((withOptions { validation := .skipUnknownFilters }).registerOperator "~~" >>=
        (·.registerOperator "~")) = .ok e' ∧
      (∀ token, token ∈ e.operatorTokens ↔ token ∈ e'.operatorTokens) ∧
      (e.query "zz~~1 not and (b or)").errors.length = 5 ∧
      (structural (e.query "zz~~1 not and (b or)").errors).length = 3 ∧
      structural (e.query "zz~~1 not and (b or)").errors =
        structural (e'.query "zz~~1 not and (b or)").errors := by
  refine ⟨_, _, rfl, rfl, ?_⟩
  have same (token : String) :
      token ∈ Relation.all.map Relation.token ++ ["~", "~~"] ↔
        token ∈ Relation.all.map Relation.token ++ ["~~", "~"] :=
    (List.Perm.append_left _ (.swap _ _ _)).mem_iff
  refine ⟨same, by decide +kernel, by decide +kernel, ?_⟩
  refine (structure_of_operators _ _ ?_ _).2.2
  exact same

end Engine

end Sift
