import SearchQuery.Json.Printer
import SearchQuery.Query.Node

/-!
Query trees as JSON. Every node is an object whose first member names its type;
an operator is an object as well, with its written form as the value.
-/

namespace SearchQuery

def Connective.encode : Connective → Json
  | .and spelling =>
      .object [("type", .string "LogicalAnd"),
        ("value", .string (Connective.and spelling).text)]
  | .or spelling implicit =>
      .object [("type", .string "LogicalOr"),
        ("value", .string (Connective.or spelling implicit).text),
        ("implicit", .bool implicit)]

def Spelling.encodeNot (spelling : Spelling) : Json :=
  .object [("type", .string "LogicalNot"), ("value", .string spelling.notText)]

def Relation.encode (relation : Relation) : Json := .string relation.name

def Atom.encode (atom : Atom) : Json :=
  .object [("type", .string atom.typeName), ("value", .string atom.value)]

def Bound.encode (bound : Bound) : Json :=
  .object [("type", .string "RangeTerm"), ("operand", bound.atom.encode),
    ("operator", bound.relation.encode)]

def leafJson (type field value : String) : Json :=
  .object [("type", .string type), ("field", .string field), ("value", .string value)]

def Expr.encode : Expr → Json
  | .binary operator left right =>
      .object [("type", .string "BinaryExpression"), ("operator", operator.encode),
        ("left", left.encode), ("right", right.encode)]
  | .not spelling operand =>
      .object [("type", .string "UnaryExpression"), ("operator", spelling.encodeNot),
        ("operand", operand.encode)]
  | .term field value => leafJson "UnquotedTerm" field value
  | .phrase field value => leafJson "QuotedTerm" field value
  | .regex field value => leafJson "RegexTerm" field value
  | .group field body =>
      .object [("type", .string "FieldGroup"), ("field", .string field),
        ("body", body.encode)]
  | .range field lower upper =>
      .object [("type", .string "BinaryRange"), ("field", .string field),
        ("left", lower.encode), ("right", upper.encode)]
  | .comparison field bound =>
      .object [("type", .string "UnaryRange"), ("field", .string field),
        ("operand", bound.encode)]

def Query.encode (query : Query) : Json :=
  .object [("type", .string "Query"), ("body", query.body.encode)]

def Query.jsonText (query : Query) : String := query.encode.pretty 0

end SearchQuery
