import SearchQuery.Query.Node

/-!
The outline of a query tree: one line for each node, drawn with connectors that
show which nodes are children of which.
-/

namespace SearchQuery

def labelWidth : Nat := 30

def shorten (label : String) : String :=
  if label.length ≤ labelWidth then label
  else String.ofList (label.toList.take labelWidth) ++ "..."

def connector (last : Bool) : String := if last then "└─" else "├─"

def beneath (indent : String) (last : Bool) : String :=
  indent ++ if last then "  " else "│ "

def Node.line (indent : String) (last : Bool) (node : Node) : String :=
  indent ++ connector last ++ " " ++ node.typeName ++ ": " ++ shorten node.label ++ "\n"

def Expr.lines (indent : String) (last : Bool) : Expr → List String
  | .binary operator left right =>
      (Node.expr (.binary operator left right)).line indent last ::
        (left.lines (beneath indent last) false ++ right.lines (beneath indent last) true)
  | .not spelling operand =>
      (Node.expr (.not spelling operand)).line indent last ::
        operand.lines (beneath indent last) true
  | .group field body =>
      (Node.expr (.group field body)).line indent last :: body.lines (beneath indent last) true
  | .range field lower upper =>
      [(Node.expr (.range field lower upper)).line indent last,
       (Node.bound lower).line (beneath indent last) false,
       (Node.bound upper).line (beneath indent last) true]
  | .comparison field bound =>
      [(Node.expr (.comparison field bound)).line indent last,
       (Node.bound bound).line (beneath indent last) true]
  | .term field value => [(Node.expr (.term field value)).line indent last]
  | .phrase field value => [(Node.expr (.phrase field value)).line indent last]
  | .regex field value => [(Node.expr (.regex field value)).line indent last]

def Query.outline (query : Query) : String :=
  String.join ("Query\n" :: query.body.lines "" true)

end SearchQuery
