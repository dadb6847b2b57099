import Sift.Query.Tree

/-!
# Rearranging trees

Two rearrangements that keep the answer of a tree. The first moves every `not` down to a leaf by the
laws of De Morgan and drops double ones. The second moves negated sides of connectives to the right.
Sites stay with the nodes: a moved connective takes that of the `not` above it, the left `not` takes
that of the connective, and the right `not` is new and stands where its operand does.
-/

namespace Sift

/-- The connective that a negation turns another into. -/
def Connective.dual : Connective → Connective
  | and => or
  | or => and

namespace Tree

variable {α : Type}

/-- Whether the root is a `not`. -/
def isNot : Tree α → Bool
  | not _ _ => true
  | _ => false

/-- The site of a new `not` in front of a tree. -/
def newNotSite (t : Tree α) : Site := ⟨t.site.span, []⟩

mutual

/-- The tree with every `not` at a leaf. -/
def pushNot : Tree α → Tree α
  | leaf s a => leaf s a
  | not s t => t.pushNotInto s
  | join c s l r => join c s l.pushNot r.pushNot

/-- The negation of a tree, by a `not` at the site `s`, with every `not` at a leaf. -/
def pushNotInto (s : Site) : Tree α → Tree α
  | leaf t a => not s (leaf t a)
  | not _ t => t.pushNot
  | join c t l r => join c.dual s (l.pushNotInto t) (r.pushNotInto r.newNotSite)

end

/-- The tree with the sides of its root exchanged, if the left one alone is negated. -/
def swapSides : Tree α → Tree α
  | join c s l r => if l.isNot && !r.isNot then join c s r l else join c s l r
  | t => t

/-- The tree with negated sides of connectives to the right of others. -/
def swapNot : Tree α → Tree α
  | leaf s a => leaf s a
  | not s t => not s t.swapNot
  | join c s l r => (join c s l.swapNot r.swapNot).swapSides

/-- Moves every `not` to a leaf, then negated sides to the right; each only if it is asked for. -/
def rearrange (push swap : Bool) (t : Tree α) : Tree α :=
  let t := if push then t.pushNot else t
  if swap then t.swapNot else t

end Tree
end Sift
