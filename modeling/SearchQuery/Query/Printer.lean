import SearchQuery.Query.Basic

/-!
Query trees as query text. Parentheses stand only where the grammar needs them:
around the operand of a negation, around a compound left side of AND, and
around an OR on the right side of an operator.
-/

namespace SearchQuery

def fieldPart (field : String) : String :=
  if isImplicitField field then "" else field ++ ":"

/-- Double quotation marks, or single ones where the value has a double one. -/
def quoteValue (value : String) : String :=
  if '"' ∈ value.toList then "'" ++ value ++ "'" else "\"" ++ value ++ "\""

def parenthesized (needed : Bool) (text : String) : String :=
  if needed then "(" ++ text ++ ")" else text

def Connective.between (operator : Connective) : String :=
  if operator.isImplicit then " " else " " ++ operator.text ++ " "

def Atom.print : Atom → String
  | .term value => value
  | .phrase value => quoteValue value

def Relation.opening (relation : Relation) : String :=
  if relation = .ge then "[" else "\x7b"

def Relation.closing (relation : Relation) : String :=
  if relation = .le then "]" else "\x7d"

/-- How a negation begins: the word needs a blank after it, the symbol does not. -/
def Spelling.negation : Spelling → String
  | .word => "NOT "
  | .symbol => "!"

namespace Expr

def parenthesizesLeft (operator : Connective) (left : Expr) : Bool :=
  operator.isAnd && left.isBinary

def parenthesizesRight (right : Expr) : Bool := right.isOr

def print : Expr → String
  | .term field value => fieldPart field ++ value
  | .phrase field value => fieldPart field ++ quoteValue value
  | .regex field value => fieldPart field ++ value
  | .group field body => field ++ ":(" ++ body.print ++ ")"
  | .range field lower upper =>
      field ++ ":" ++ lower.relation.opening ++ lower.atom.print ++ " TO "
        ++ upper.atom.print ++ upper.relation.closing
  | .comparison field bound =>
      field ++ ":" ++ bound.relation.symbol ++ bound.atom.print
  | .not spelling operand => spelling.negation ++ "(" ++ operand.print ++ ")"
  | .binary operator left right =>
      parenthesized (parenthesizesLeft operator left) left.print ++ operator.between
        ++ parenthesized (parenthesizesRight right) right.print

end Expr

def Query.print (query : Query) : String := query.body.print

end SearchQuery
