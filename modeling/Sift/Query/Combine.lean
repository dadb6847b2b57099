import Sift.Query.Tree

/-!
# Combining terms

A level of a query text is a row of terms and combinators. Two terms side by side get an `and`
between them. Then the combinators take their operands: first `not`, from right to left, then `and`,
then `or`, each from left to right. A combinator without its operands is reported and left out.
-/

namespace Sift

/-- A term of a row, or a combinator that has no operands yet. -/
inductive Item (α : Type) where
  | combinator (k : Combinator) (site : Site)
  | term (t : Tree α)

namespace Item

variable {α : Type}

/-- Where an item comes from. -/
def site : Item α → Site
  | combinator _ s => s
  | term t => t.site

/-- Whether the item is a term. -/
def isTerm : Item α → Bool
  | combinator _ _ => false
  | term _ => true

/-- Whether the item is a connective that waits for its operands. -/
def isConnective : Item α → Bool
  | combinator (.join _) _ => true
  | _ => false

/-- The row with an `and` between a term and a next item that is no connective. -/
def insertAnd : List (Item α) → List (Item α)
  | x :: y :: rest =>
    if x.isTerm && !y.isConnective then
      x :: combinator (.join .and) (.gap x.site y.site) :: insertAnd (y :: rest)
    else x :: insertAnd (y :: rest)
  | row => row

/-- The error of a `not` without an operand, at the byte behind it. -/
def missingOperand (site : Site) : QueryError :=
  .point site.span.stop (.missingOperand (String.ofList site.source))

/-- The row in which every `not` has taken the term behind it, and the errors from right to left. -/
def applyNot : List (Item α) → List QueryError × List (Item α)
  | [] => ([], [])
  | combinator .not s :: rest =>
    match applyNot rest with
    | (errors, term t :: rest) => (errors, term (.not s t) :: rest)
    | (errors, rest) => (errors ++ [missingOperand s], rest)
  | x :: rest =>
    let (errors, rest) := applyNot rest
    (errors, x :: rest)

/-- The error of a connective that lacks an operand; it is the left one if both are missing. -/
def missingSide (c : Connective) (site : Site) (left : Option (Item α)) : QueryError :=
  .on site.span (.missingSide (if (left.map isTerm).getD false then .right else .left) c)

/-- The row behind `left`, in which every `c` has taken the terms at its sides, together with
`left`, and the errors from left to right. -/
def applyJoin (c : Connective) (left : Option (Item α)) :
    List (Item α) → List QueryError × List (Item α)
  | [] => ([], left.toList)
  | combinator (.join d) s :: rest =>
    if d = c then
      match left, rest with
      | some (term l), term r :: rest => applyJoin c (some (term (.join c s l r))) rest
      | left, rest =>
        let (errors, row) := applyJoin c left rest
        (missingSide c s left :: errors, row)
    else
      let (errors, row) := applyJoin c (some (combinator (.join d) s)) rest
      (errors, left.toList ++ row)
  | x :: rest =>
    let (errors, row) := applyJoin c (some x) rest
    (errors, left.toList ++ row)

/-- The one term that a row combines to, if it is not empty, and the errors. A row that combines to
no single term is an error of its own, and has no result. -/
def combine (row : List (Item α)) : List QueryError × Option (Option (Tree α)) :=
  let (notErrors, row) := applyNot (insertAnd row)
  let (andErrors, row) := applyJoin .and none row
  let (orErrors, row) := applyJoin .or none row
  let errors := notErrors ++ andErrors ++ orErrors
  match row with
  | [] => (errors, some none)
  | [term t] => (errors, some (some t))
  | [x] => (errors ++ [.on x.site.span .termsNotCombined], none)
  | _ :: x :: _ => (errors ++ [.on x.site.span .termsNotCombined], none)

end Item
end Sift
