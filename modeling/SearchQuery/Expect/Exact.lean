import SearchQuery.Expect.Basic

/-!
The expectation that a query is this one and no other. At every node the type is asked for and
then all that the node holds itself, and after that its children from left to right.
-/

namespace SearchQuery

open Expect

def Bound.expect (bound : Bound) (limit : Limit) : Outcome Unit := do
  limit.hasRelation bound.relation
  match bound.atom with
  | .term value => limit.isTerm value
  | .phrase value => limit.isPhrase value

def Expr.expect : Expr → Subject → Outcome Unit
  | .binary operator left right, subject => do
      let node ← subject.binary
      node.hasOperator operator.text
      node.hasImplicit operator.isImplicit
      left.expect node.leftSide
      right.expect node.rightSide
  | .not spelling operand, subject => do
      let node ← subject.negation
      node.hasOperator spelling.notText
      operand.expect node.inside
  | .term field value, subject => do
      let leaf ← subject.term
      leaf.hasField field
      leaf.hasValue value
  | .phrase field value, subject => do
      let leaf ← subject.phrase
      leaf.hasField field
      leaf.hasValue value
  | .regex field value, subject => do
      let leaf ← subject.regex
      leaf.hasField field
      leaf.hasValue value
  | .group field body, subject => do
      let node ← subject.group
      node.hasField field
      body.expect node.inside
  | .range field lower upper, subject => do
      let node ← subject.range
      node.hasField field
      lower.expect node.lowerLimit
      upper.expect node.upperLimit
  | .comparison field bound, subject => do
      let node ← subject.comparison
      node.hasField field
      bound.expect node.limit

def Query.expect (expected actual : Query) : Outcome Unit := expected.body.expect actual.subject

end SearchQuery
