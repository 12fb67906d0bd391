import SearchQuery.Expect.TextPattern
import SearchQuery.Query.Node
import SearchQuery.Text.Quoted

/-!
Why an expectation on a query fails, and how that is told. The reason names the
path to the node; where two values of one kind were compared, both are shown
after it.
-/

namespace SearchQuery

inductive Failure where
  | wrongType (path expected : String) (found : Expr)
  | wrongPrint (expected actual : String)
  | wrongField (path expected actual : String)
  | wrongOperator (path expected actual : String)
  | wrongImplicit (path : String) (expected actual : Bool)
  | wrongRelation (path : String) (expected actual : Relation)
  | wrongValue (path : String) (pattern : TextPattern) (actual : String)
  | quotedBound (path value : String)
  | bareBound (path value : String)
  deriving DecidableEq, Repr

def Relation.capitalized : Relation → String
  | .ge => "Ge"
  | .gt => "Gt"
  | .le => "Le"
  | .lt => "Lt"

def showBool (b : Bool) : String := if b then "true" else "false"

namespace Failure

def instead (path what expected actual : String) : String :=
  path ++ ": Expected " ++ what ++ " '" ++ expected ++ "', but got '" ++ actual ++ "'"

def reason : Failure → String
  | wrongType path expected found =>
      path ++ ": Expected " ++ expected ++ ", found " ++ found.typeName ++ " ("
        ++ found.label ++ ")"
  | wrongPrint expected actual =>
      "Expected query to print as '" ++ expected ++ "', but got '" ++ actual ++ "'"
  | wrongField path expected actual => instead path "field" expected actual
  | wrongOperator path expected actual => instead path "operator" expected actual
  | wrongImplicit path expected actual =>
      path ++ ": Expected implicit=" ++ showBool expected ++ ", but got implicit="
        ++ showBool actual
  | wrongRelation path expected actual =>
      instead path "range operator" expected.name actual.name
  | wrongValue path pattern actual =>
      path ++ ": Expected value to " ++ pattern.describe ++ ", but got '" ++ actual ++ "'"
  | quotedBound path value =>
      path ++ ": Expected UnquotedTerm bound, found QuotedTerm \"" ++ value ++ "\""
  | bareBound path value =>
      path ++ ": Expected QuotedTerm bound, found UnquotedTerm " ++ value

def compared? : Failure → Option (String × String)
  | wrongPrint expected actual => some (Text.quoted actual, Text.quoted expected)
  | wrongField _ expected actual => some (Text.quoted actual, Text.quoted expected)
  | wrongOperator _ expected actual => some (Text.quoted actual, Text.quoted expected)
  | wrongImplicit _ expected actual => some (showBool actual, showBool expected)
  | wrongRelation _ expected actual => some (actual.capitalized, expected.capitalized)
  | wrongType .. | wrongValue .. | quotedBound .. | bareBound .. => none

def message (failure : Failure) : String :=
  match failure.compared? with
  | none => failure.reason
  | some (actual, expected) =>
      "assertion `left == right` failed: " ++ failure.reason ++ "\n  left: " ++ actual
        ++ "\n right: " ++ expected

end Failure

end SearchQuery
