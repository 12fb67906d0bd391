import SearchQuery.Query.Basic

/-!
The nodes of a query tree one by one: the type name and the label each is shown
with, and all of them in preorder with the path that leads to each.
-/

namespace SearchQuery

def Expr.typeName : Expr → String
  | .binary .. => "BinaryExpression"
  | .not .. => "UnaryExpression"
  | .term .. => "UnquotedTerm"
  | .phrase .. => "QuotedTerm"
  | .regex .. => "RegexTerm"
  | .group .. => "FieldGroup"
  | .range .. => "BinaryRange"
  | .comparison .. => "UnaryRange"

def Expr.label : Expr → String
  | .binary operator _ _ => if operator.isImplicit then "OR (implicit)" else operator.text
  | .not spelling _ => spelling.notText
  | .term field value => field ++ ":" ++ value
  | .phrase field value => field ++ ":\"" ++ value ++ "\""
  | .regex field value => field ++ ":" ++ value
  | .group field _ => field
  | .range field _ _ => field
  | .comparison field _ => field

def Atom.typeName : Atom → String
  | .term _ => "UnquotedTerm"
  | .phrase _ => "QuotedTerm"

def Bound.label (bound : Bound) : String :=
  bound.relation.name ++ " " ++
    match bound.atom with
    | .term value => value
    | .phrase value => "\"" ++ value ++ "\""

def Query.label (query : Query) : String := query.body.typeName

inductive Node where
  | expr (e : Expr)
  | bound (b : Bound)
  deriving DecidableEq, Repr

def Node.typeName : Node → String
  | .expr e => e.typeName
  | .bound _ => "RangeTerm"

def Node.label : Node → String
  | .expr e => e.label
  | .bound b => b.label

structure Located where
  path : String
  node : Node
  deriving DecidableEq, Repr

def Expr.nodes (path : String) : Expr → List Located
  | .binary operator left right =>
      ⟨path, .expr (.binary operator left right)⟩ ::
        (left.nodes (path ++ ".left") ++ right.nodes (path ++ ".right"))
  | .not spelling operand =>
      ⟨path, .expr (.not spelling operand)⟩ :: operand.nodes (path ++ ".operand")
  | .group field body =>
      ⟨path, .expr (.group field body)⟩ :: body.nodes (path ++ ".body")
  | .range field lower upper =>
      [⟨path, .expr (.range field lower upper)⟩, ⟨path ++ ".left", .bound lower⟩,
       ⟨path ++ ".right", .bound upper⟩]
  | .comparison field bound =>
      [⟨path, .expr (.comparison field bound)⟩, ⟨path ++ ".operand", .bound bound⟩]
  | .term field value => [⟨path, .expr (.term field value)⟩]
  | .phrase field value => [⟨path, .expr (.phrase field value)⟩]
  | .regex field value => [⟨path, .expr (.regex field value)⟩]

def Query.nodes (query : Query) : List Located := query.body.nodes "body"

end SearchQuery
