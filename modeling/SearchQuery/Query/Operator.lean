/-!
Operators of a query. A boolean operator remembers whether it was written as a
word or as a symbol, and a range bound carries one of four inequalities.
-/

namespace SearchQuery

inductive Spelling where
  | word
  | symbol
  deriving DecidableEq, Repr

instance : Inhabited Spelling := ⟨.word⟩

def Spelling.of (text : String) : Spelling :=
  match text.toList with
  | [] => .symbol
  | c :: _ => if c.isAlpha then .word else .symbol

/-- The operator between two clauses. An implicit OR stands for two clauses
next to each other with no operator written. -/
inductive Connective where
  | and (spelling : Spelling)
  | or (spelling : Spelling) (implicit : Bool)
  deriving DecidableEq, Repr

namespace Connective

def explicitOr (spelling : Spelling) : Connective := .or spelling false

def implicitOr : Connective := .or .word true

def text : Connective → String
  | .and .word => "AND"
  | .and .symbol => "&&"
  | .or .word _ => "OR"
  | .or .symbol _ => "||"

def isAnd : Connective → Bool
  | .and _ => true
  | .or _ _ => false

def isOr : Connective → Bool
  | .and _ => false
  | .or _ _ => true

def isImplicit : Connective → Bool
  | .and _ => false
  | .or _ implicit => implicit

end Connective

def Spelling.notText : Spelling → String
  | .word => "NOT"
  | .symbol => "!"

inductive Relation where
  | ge
  | gt
  | le
  | lt
  deriving DecidableEq, Repr

namespace Relation

def ofSymbol? (symbol : String) : Option Relation :=
  if symbol = ">" then some gt
  else if symbol = ">=" then some ge
  else if symbol = "<" then some lt
  else if symbol = "<=" then some le
  else none

def ofOpening (bracket : String) : Relation := if bracket = "[" then ge else gt

def ofClosing (bracket : String) : Relation := if bracket = "]" then le else lt

def name : Relation → String
  | ge => "ge"
  | gt => "gt"
  | le => "le"
  | lt => "lt"

def symbol : Relation → String
  | ge => ">="
  | gt => ">"
  | le => "<="
  | lt => "<"

def isInclusive : Relation → Bool
  | ge | le => true
  | gt | lt => false

theorem ofSymbol_symbol (relation : Relation) :
    ofSymbol? relation.symbol = some relation := by
  cases relation <;> decide

end Relation

end SearchQuery
