import Sift.Proofs.Combining
import Sift.Proofs.Places
import Sift.Query.Basic

/-!
# Reading on after errors

An outline that is complete (`Outline.isComplete`) always gives a tree, whatever is wrong with its
terms and combinators: every level has a row, whose leaves are the outline's terms in order
(`row_of_isComplete`), and every row comes together. The terms of an outline stand in the text one
behind the other (`pairwise_terms_scan`).
-/

namespace Sift

open Text

namespace Outline

/-- Whether a level and the groups in it have been read to their ends. -/
def isComplete : Outline → Bool
  | done => true
  | broken _ => false
  | blank _ next => next.isComplete
  | combinator _ _ next => next.isComplete
  | term _ next => next.isComplete
  | group inner next => inner.isComplete && next.isComplete

/-- The errors that a level and the groups in it break off with. -/
def breaks : Outline → List QueryError
  | done => []
  | broken e => [e]
  | blank _ next => next.breaks
  | combinator _ _ next => next.breaks
  | term _ next => next.breaks
  | group inner next => inner.breaks ++ next.breaks

/-- A complete level has no error that it breaks off with. -/
lemma breaks_of_isComplete {o : Outline} (h : o.isComplete = true) : o.breaks = [] := by
  induction o with
  | done => rfl
  | broken => cases h
  | blank _ next ih => exact ih h
  | combinator _ _ next ih => exact ih h
  | term _ next ih => exact ih h
  | group inner next ihInner ihNext =>
    rw [isComplete, Bool.and_eq_true] at h
    rw [breaks, ihInner h.1, ihNext h.2, List.append_nil]

end Outline

namespace Recorded

variable {α β : Type} {a : α} {r : Recorded α} {f : α → Recorded β}

/-- What goes on with a result has the result of going on. -/
lemma result?_andThen (h : r.result? = some a) : (r.andThen f).result? = (f a).result? := by
  rw [andThen, h]
  rfl

/-- Without a result nothing goes on. -/
lemma result?_andThen_of_none (h : r.result? = none) : (r.andThen f).result? = none := by
  rw [andThen, h]

/-- What has gone on had a result to go on with. -/
lemma exists_of_andThen {b : β} (h : (r.andThen f).result? = some b) :
    ∃ a, r.result? = some a ∧ (f a).result? = some b := by
  unfold andThen at h
  split at h
  · cases h
  · next a e => exact ⟨a, e, h⟩

/-- The errors of going on stand behind those that were there. -/
lemma errors_andThen (h : r.result? = some a) :
    (r.andThen f).errors = r.errors ++ (f a).errors := by
  rw [andThen, h]
  rfl

/-- Without a result the errors are those that were there. -/
lemma errors_andThen_of_none (h : r.result? = none) : (r.andThen f).errors = r.errors := by
  rw [andThen, h]

/-- An error is one of what comes first, or of what goes on with its result. -/
lemma mem_errors_andThen {error : QueryError} (h : error ∈ (r.andThen f).errors) :
    error ∈ r.errors ∨ ∃ a, r.result? = some a ∧ error ∈ (f a).errors := by
  unfold andThen at h
  split at h
  · exact .inl h
  · next a e => exact (List.mem_append.1 h).imp_right fun mem => ⟨a, e, mem⟩

end Recorded

variable {α : Type} (read : Term → Except QueryError (Option α))

/-- What a term selects by, if it is neither skipped nor refused. -/
def meaning? (t : Term) : Option α :=
  match read t with
  | .ok a? => a?
  | .error _ => none

/-- A term always gives a leaf, with its meaning if it has one. -/
lemma result?_readLeaf (t : Term) :
    (readLeaf read t).result? = some (.leaf t.site (meaning? read t)) := by
  rw [readLeaf, meaning?]
  cases read t <;> rfl

/-- Every tree has a leaf. -/
lemma Tree.leaves_ne_nil (t : Tree α) : t.leaves ≠ [] := by
  induction t with
  | leaf s a => exact List.cons_ne_nil _ _
  | not s t ih => exact ih
  | join c s l r ihl ihr => exact List.append_ne_nil_of_left_ne_nil ihl _

namespace Item

/-- A row always comes together, and keeps its leaves. -/
lemma result?_combined (row : List (Item α)) : ∃ tree? : Option (Tree α),
    (combined row).result? = some tree? ∧
      tree?.toList.flatMap Tree.leaves = row.flatMap leaves := by
  obtain ⟨tree?, _, e⟩ := combine_eq row
  exact ⟨tree?, by rw [combined, e], leaves_of_combine e⟩

/-- The leaves of a tree are those of the row that it stands in alone. -/
lemma flatMap_leaves_map_term (tree? : Option (Tree α)) :
    (tree?.toList.map term).flatMap leaves = tree?.toList.flatMap Tree.leaves := by
  cases tree? <;> rfl

end Item

namespace Outline

/-- Every level of a complete outline has a row, and the row has the leaves of the terms. -/
lemma row_of_isComplete {o : Outline} (h : o.isComplete = true) :
    ∃ row, (o.row read).result? = some row ∧
      row.flatMap Item.leaves = o.terms.map fun t => (t.site, meaning? read t) := by
  induction o with
  | done => exact ⟨[], rfl, rfl⟩
  | broken => cases h
  | blank _ next ih => exact ih h
  | combinator k s next ih =>
    obtain ⟨row, e, leaves⟩ := ih h
    exact ⟨.combinator k s :: row, by simp [Outline.row, Recorded.map, e], leaves⟩
  | term t next ih =>
    obtain ⟨row, e, leaves⟩ := ih h
    refine ⟨.term (.leaf t.site (meaning? read t)) :: row, ?_, ?_⟩
    · rw [Outline.row, Recorded.result?_andThen (result?_readLeaf read t), Recorded.map, e]
      rfl
    · rw [List.flatMap_cons, leaves, terms, List.map_cons]
      rfl
  | group inner next ihInner ihNext =>
    rw [isComplete, Bool.and_eq_true] at h
    obtain ⟨row, e, leaves⟩ := ihInner h.1
    obtain ⟨row', e', leaves'⟩ := ihNext h.2
    obtain ⟨tree?, combined, same⟩ := Item.result?_combined row
    rw [← Recorded.result?_andThen e] at combined
    refine ⟨tree?.toList.map .term ++ row', ?_, ?_⟩
    · rw [Outline.row, Recorded.result?_andThen combined, Recorded.map, e']
      rfl
    · rw [List.flatMap_append, Item.flatMap_leaves_map_term, same, leaves, leaves', terms,
        List.map_append]

/-- An outline that has a row has been read to its end. -/
lemma isComplete_of_row {read : Term → Except QueryError (Option α)} {o : Outline}
    {row : List (Item (Option α))} (h : (o.row read).result? = some row) :
    o.isComplete = true := by
  induction o generalizing row with
  | done => rfl
  | broken => cases h
  | blank _ next ih => exact ih h
  | combinator k s next ih =>
    obtain ⟨row, e, _⟩ := Option.map_eq_some_iff.1 h
    exact ih e
  | term t next ih =>
    obtain ⟨leaf, _, h⟩ := Recorded.exists_of_andThen h
    obtain ⟨row, e, _⟩ := Option.map_eq_some_iff.1 h
    exact ih e
  | group inner next ihInner ihNext =>
    obtain ⟨tree?, h', h⟩ := Recorded.exists_of_andThen h
    obtain ⟨row, e, _⟩ := Recorded.exists_of_andThen h'
    obtain ⟨row', e', _⟩ := Option.map_eq_some_iff.1 h
    rw [isComplete, ihInner e, ihNext e']
    rfl

section Errors

variable {P : QueryError → Prop} {o : Outline}
  (ofTerm : ∀ {t error}, read t = .error error → P error)
  (ofRow : ∀ {row : List (Item (Option α))} {error}, error ∈ (Item.combine row).1 → P error)
include ofTerm ofRow

/-- What holds of the errors of terms, of rows and of where levels break off holds of all errors. -/
lemma forall_errors_of_breaks (ofBreak : ∀ error ∈ o.breaks, P error) :
    ∀ error ∈ (o.row read).errors, P error := by
  induction o with
  | done => nofun
  | broken => exact ofBreak
  | blank _ next ih => exact ih ofBreak
  | combinator k s next ih => exact ih ofBreak
  | term t next ih =>
    intro error mem
    rcases Recorded.mem_errors_andThen mem with mem | ⟨leaf, _, mem⟩
    · rw [readLeaf] at mem
      cases e : read t with
      | ok => simp [e, Recorded.ok] at mem
      | error error' =>
        obtain rfl : error = error' := by simpa [e] using mem
        exact ofTerm e
    · exact ih ofBreak error mem
  | group inner next ihInner ihNext =>
    obtain ⟨within, behind⟩ := List.forall_mem_append.1 ofBreak
    intro error mem
    -- the errors of the level inside, those of combining it, and those of what follows
    rcases Recorded.mem_errors_andThen mem with mem | ⟨tree?, _, mem⟩
    · rcases Recorded.mem_errors_andThen mem with mem | ⟨row, _, mem⟩
      · exact ihInner within error mem
      · exact ofRow mem
    · exact ihNext behind error mem

/-- What holds of the errors of terms and of rows holds of all errors of a complete outline. -/
lemma forall_errors_row (h : o.isComplete = true) : ∀ error ∈ (o.row read).errors, P error := by
  apply forall_errors_of_breaks read ofTerm ofRow
  rw [breaks_of_isComplete h]
  nofun

end Errors

end Outline

/-- Every node of a tree has as many children as its kind asks for. -/
lemma Tree.arity_entriesFrom {α : Type} (t : Tree α) (parent? : Option Nat) (start : Nat) :
    ∀ n ∈ t.entriesFrom parent? start, n.children.length = n.kind.arity := by
  induction t generalizing parent? start with
  | leaf s a => simp [entriesFrom, NodeKind.arity]
  | not s t ih =>
    refine List.forall_mem_cons.2 ⟨rfl, ?_⟩
    exact ih _ _
  | join c s l r ihl ihr =>
    refine List.forall_mem_cons.2 ⟨rfl, ?_⟩
    exact List.forall_mem_append.2 ⟨ihl _ _, ihr _ _⟩

/-- Nothing is wrong with a tree that has come together. -/
lemma Tree.validate_eq_nil {κ ε : Type} (t : Tree (Option (Leaf κ ε))) : t.validate = [] := by
  refine List.filterMap_eq_nil_iff.2 fun n hn => ?_
  rw [Entry.objection?, if_pos (t.arity_entriesFrom none 0 n hn)]

namespace Engine

variable {κ ε : Type}

/-- What can be wrong with a term: its clause has no meaning, or there is nowhere to search. -/
lemma cases_of_readTerm {e : Engine κ ε} {t : Term} {error : QueryError}
    (h : e.readTerm t = .error error) :
    (∃ fault, error.cause = .clause fault) ∨ error.cause = .noSearchSource := by
  match t with
  | .clause c =>
    rw [readTerm] at h
    split at h <;> cases h
    exact .inl ⟨_, rfl⟩
  | .word w =>
    rw [readTerm] at h
    split at h <;> cases h
    exact .inr rfl

/-- A term is not what does not come together. -/
lemma cause_of_readTerm {e : Engine κ ε} {t : Term} {error : QueryError}
    (h : e.readTerm t = .error error) : error.cause ≠ .termsNotCombined := by
  rcases cases_of_readTerm h with ⟨fault, e⟩ | e <;> simp [e]

/-- Looking a query's tree through once more finds nothing. -/
lemma errors_query (e : Engine κ ε) (text : String) :
    (e.query text).errors = (e.reading text).errors := by
  have none : ∀ tree? : Option (Tree (Option (Leaf κ ε))), tree?.toList.flatMap Tree.validate = [] :=
    fun tree? => List.flatMap_eq_nil_iff.2 fun t _ => t.validate_eq_nil
  rw [query, none, List.append_nil]

end Engine

end Sift
