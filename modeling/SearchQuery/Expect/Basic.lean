import SearchQuery.Expect.Failure
import SearchQuery.Query.Printer

/-!
Expectations on a query tree. From a node one asks for its type, which gives
access to its data and its children; every step either holds or fails with the
path to the node. Children are reached by longer paths, so a failure deep in a
tree says where it is.
-/

namespace SearchQuery.Expect

abbrev Outcome := Except Failure

structure Subject where
  path : String
  expr : Expr

structure Leaf where
  path : String
  field : String
  value : String

structure Compound where
  path : String
  operator : Connective
  left : Expr
  right : Expr

structure Negation where
  path : String
  spelling : Spelling
  operand : Expr

structure Group where
  path : String
  field : String
  body : Expr

structure Limit where
  path : String
  bound : Bound

structure Range where
  path : String
  field : String
  lower : Bound
  upper : Bound

structure Comparison where
  path : String
  field : String
  bound : Bound

def sameField (path expected actual : String) : Outcome Unit :=
  if actual = expected then .ok () else .error (.wrongField path expected actual)

def sameOperator (path expected actual : String) : Outcome Unit :=
  if actual = expected then .ok () else .error (.wrongOperator path expected actual)

def matching (path : String) (pattern : TextPattern) (actual : String) : Outcome Unit :=
  if pattern.accepts actual then .ok () else .error (.wrongValue path pattern actual)

namespace Subject

def mismatch {α : Type} (subject : Subject) (expected : String) : Outcome α :=
  .error (.wrongType subject.path expected subject.expr)

def term (subject : Subject) : Outcome Leaf :=
  match subject.expr with
  | .term field value => .ok ⟨subject.path, field, value⟩
  | _ => subject.mismatch "UnquotedTerm"

def phrase (subject : Subject) : Outcome Leaf :=
  match subject.expr with
  | .phrase field value => .ok ⟨subject.path, field, value⟩
  | _ => subject.mismatch "QuotedTerm"

def regex (subject : Subject) : Outcome Leaf :=
  match subject.expr with
  | .regex field value => .ok ⟨subject.path, field, value⟩
  | _ => subject.mismatch "RegexTerm"

def binary (subject : Subject) : Outcome Compound :=
  match subject.expr with
  | .binary operator left right => .ok ⟨subject.path, operator, left, right⟩
  | _ => subject.mismatch "BinaryExpression"

def negation (subject : Subject) : Outcome Negation :=
  match subject.expr with
  | .not spelling operand => .ok ⟨subject.path, spelling, operand⟩
  | _ => subject.mismatch "UnaryExpression"

def group (subject : Subject) : Outcome Group :=
  match subject.expr with
  | .group field body => .ok ⟨subject.path, field, body⟩
  | _ => subject.mismatch "FieldGroup"

def range (subject : Subject) : Outcome Range :=
  match subject.expr with
  | .range field lower upper => .ok ⟨subject.path, field, lower, upper⟩
  | _ => subject.mismatch "BinaryRange"

def comparison (subject : Subject) : Outcome Comparison :=
  match subject.expr with
  | .comparison field bound => .ok ⟨subject.path, field, bound⟩
  | _ => subject.mismatch "UnaryRange"

end Subject

namespace Leaf

def hasField (leaf : Leaf) (expected : String) : Outcome Unit :=
  sameField leaf.path expected leaf.field

def hasMatch (leaf : Leaf) (pattern : TextPattern) : Outcome Unit :=
  matching leaf.path pattern leaf.value

def hasValue (leaf : Leaf) (expected : String) : Outcome Unit :=
  leaf.hasMatch (.exact expected)

end Leaf

namespace Compound

def hasOperator (node : Compound) (expected : String) : Outcome Unit :=
  sameOperator node.path expected node.operator.text

def hasImplicit (node : Compound) (expected : Bool) : Outcome Unit :=
  if node.operator.isImplicit = expected then .ok ()
  else .error (.wrongImplicit node.path expected node.operator.isImplicit)

def leftSide (node : Compound) : Subject := ⟨node.path ++ ".left", node.left⟩

def rightSide (node : Compound) : Subject := ⟨node.path ++ ".right", node.right⟩

end Compound

namespace Negation

def hasOperator (node : Negation) (expected : String) : Outcome Unit :=
  sameOperator node.path expected node.spelling.notText

def inside (node : Negation) : Subject := ⟨node.path ++ ".operand", node.operand⟩

end Negation

namespace Group

def hasField (node : Group) (expected : String) : Outcome Unit :=
  sameField node.path expected node.field

def inside (node : Group) : Subject := ⟨node.path ++ ".body", node.body⟩

end Group

namespace Range

def hasField (node : Range) (expected : String) : Outcome Unit :=
  sameField node.path expected node.field

def lowerLimit (node : Range) : Limit := ⟨node.path ++ ".left", node.lower⟩

def upperLimit (node : Range) : Limit := ⟨node.path ++ ".right", node.upper⟩

end Range

namespace Comparison

def hasField (node : Comparison) (expected : String) : Outcome Unit :=
  sameField node.path expected node.field

def limit (node : Comparison) : Limit := ⟨node.path ++ ".operand", node.bound⟩

end Comparison

namespace Limit

def hasRelation (limit : Limit) (expected : Relation) : Outcome Unit :=
  if limit.bound.relation = expected then .ok ()
  else .error (.wrongRelation limit.path expected limit.bound.relation)

def isTerm (limit : Limit) (expected : String) : Outcome Unit :=
  match limit.bound.atom with
  | .term value => matching limit.path (.exact expected) value
  | .phrase value => .error (.quotedBound limit.path value)

def isPhrase (limit : Limit) (expected : String) : Outcome Unit :=
  match limit.bound.atom with
  | .phrase value => matching limit.path (.exact expected) value
  | .term value => .error (.bareBound limit.path value)

end Limit

end SearchQuery.Expect

namespace SearchQuery

def Query.subject (query : Query) : Expect.Subject := ⟨"body", query.body⟩

def Query.printsAs (query : Query) (expected : String) : Expect.Outcome Unit :=
  if query.print = expected then .ok () else .error (.wrongPrint expected query.print)

end SearchQuery
