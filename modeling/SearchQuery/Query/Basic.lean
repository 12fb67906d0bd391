import SearchQuery.Query.Operator

/-!
Query trees. Leaves and ranges carry the field they search in; a clause with no
field of its own carries the implicit field, or the default one it was read
with.
-/

namespace SearchQuery

def implicitField : String := "*"

def isImplicitField (field : String) : Bool := field = implicitField

inductive Atom where
  | term (value : String)
  | phrase (value : String)
  deriving DecidableEq, Repr

def Atom.value : Atom → String
  | .term value => value
  | .phrase value => value

def Atom.isQuoted : Atom → Bool
  | .term _ => false
  | .phrase _ => true

structure Bound where
  atom : Atom
  relation : Relation
  deriving DecidableEq, Repr

/-- An expression of a query. The value of a phrase has no quotation marks, the
value of a regex keeps its slashes. -/
inductive Expr where
  | binary (operator : Connective) (left right : Expr)
  | not (spelling : Spelling) (operand : Expr)
  | term (field value : String)
  | phrase (field value : String)
  | regex (field value : String)
  | group (field : String) (body : Expr)
  | range (field : String) (lower upper : Bound)
  | comparison (field : String) (bound : Bound)
  deriving DecidableEq, Repr

namespace Expr

def field? : Expr → Option String
  | .binary .. | .not .. => none
  | .term field _ | .phrase field _ | .regex field _ => some field
  | .group field _ | .range field _ _ | .comparison field _ => some field

def value? : Expr → Option String
  | .term _ value | .phrase _ value | .regex _ value => some value
  | _ => none

def isLeaf : Expr → Bool
  | .term .. | .phrase .. | .regex .. => true
  | _ => false

def isBinary : Expr → Bool
  | .binary .. => true
  | _ => false

def isOr : Expr → Bool
  | .binary operator _ _ => operator.isOr
  | _ => false

end Expr

structure Query where
  body : Expr
  deriving DecidableEq, Repr

end SearchQuery
