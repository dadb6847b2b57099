import Sift.Query.Token

/-!
# The outline of a query text

Reading a text token by token gives its outline: what stands at each level, groups with their own
outlines inside. Only the registered operators have a say in it. Where no token can be read, the
outline breaks off.
-/

namespace Sift
open Text

/-- A word or phrase to search for. -/
structure SearchWord where
  text : List Char
  exact : Bool
  site : Site
  deriving DecidableEq

/-- What selects elements by itself: a clause or a search word. -/
inductive Term where
  | clause (c : Clause)
  | word (w : SearchWord)
  deriving DecidableEq

/-- Where a term comes from. -/
def Term.site : Term → Site
  | clause c => c.site
  | word w => w.site

/-- What one level of a text holds, in order. -/
inductive Outline where
  | done
  | broken (error : QueryError)
  | blank (taken : List Char) (next : Outline)
  | combinator (k : Combinator) (site : Site) (next : Outline)
  | term (t : Term) (next : Outline)
  | group (inner next : Outline)

/-- The outline of a level whose text begins at the byte position `start`. -/
def Outline.scan (operators : List (List Char)) (start : Nat) (cs : List Char) : Outline :=
  if hcs : cs = [] then .done
  else
    match ht : Token.first operators start cs with
    | .error e => .broken e
    | .ok l =>
      have := Token.rest_length_lt hcs ht
      let next := scan operators (start + width l.taken) l.rest
      match hg : l.token with
      | .blank => .blank l.taken next
      | .combinator k => .combinator k (.place start l.taken) next
      | .group inner =>
        have := Token.group_length_lt ht hg
        .group (scan operators (start + 1) inner) next
      | .clause c => .term (.clause c) next
      | .word text exact => .term (.word ⟨text, exact, .place start l.taken⟩) next
termination_by cs.length

end Sift
