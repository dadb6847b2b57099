import Sift.Query.Listing
import Sift.Query.Operation

/-!
# Validating trees

A tree that has come together is looked through once more: every listed node must have as many
children as its kind asks for. Empty leaves are listed too.
-/

namespace Sift

variable {κ ε : Type}

namespace NodeKind

/-- The number of children that a node of a kind has. -/
def arity {α : Type} : NodeKind α → Nat
  | join _ => 2
  | not => 1
  | leaf _ => 0

/-- The word for a kind of nodes. -/
def name : NodeKind (Option (Leaf κ ε)) → String
  | join c => c.keyword
  | not => "not"
  | leaf (some (.filter _)) => "filter"
  | leaf (some (.search _)) => "search"
  | leaf none => "noop"

end NodeKind

/-- The error of a node with too few or too many children. -/
def Entry.objection? (n : Entry (Option (Leaf κ ε))) : Option QueryError :=
  if n.children.length = n.kind.arity then none
  else some (.on n.site.span (.wrongArity n.kind.name n.kind.arity n.children.length))

/-- The errors of all nodes of a tree, parents first. -/
def Tree.validate (t : Tree (Option (Leaf κ ε))) : List QueryError :=
  t.entries.filterMap Entry.objection?

end Sift
