import SearchQuery.Token.Basic
import SearchQuery.Token.LexError

/-!
Why a query cannot be read. Every error knows the byte offset it was raised at;
the wording of each is given once, here.
-/

namespace SearchQuery

inductive Expected where
  | token (kind : TokenKind)
  | oneOf (kinds : List TokenKind)
  | endOfInput
  deriving DecidableEq, Repr

def Expected.describe : Expected → String
  | .token kind => kind.name
  | .oneOf kinds => "one of " ++ ", ".intercalate (kinds.map TokenKind.name)
  | .endOfInput => "end of input"

inductive GrammarError where
  | unexpectedToken (expected : Expected) (found : Token) (offset : Nat)
  | unexpectedEnd (expected : Expected) (offset : Nat)
  | missingValue (field : String) (offset : Nat)
  | fieldInRange (offset : Nat)
  | tooDeep (limit offset : Nat)
  deriving DecidableEq, Repr

namespace GrammarError

def offset : GrammarError → Nat
  | unexpectedToken _ _ offset => offset
  | unexpectedEnd _ offset => offset
  | missingValue _ offset => offset
  | fieldInRange offset => offset
  | tooDeep _ offset => offset

def message : GrammarError → String
  | unexpectedToken expected found offset =>
      "Unexpected token at offset " ++ toString offset ++ "; expected: " ++ expected.describe
        ++ ", actual: " ++ found.kind.name ++ " (" ++ Text.quoted found.text ++ ")"
  | unexpectedEnd expected offset =>
      "Unexpected end of input at offset " ++ toString offset ++ "; expected: "
        ++ expected.describe
  | missingValue field offset =>
      "Fielded term detected, but no term provided for field " ++ Text.quoted field
        ++ " at offset " ++ toString offset
  | fieldInRange offset =>
      "Fielded term detected inside of range at offset " ++ toString offset
  | tooDeep limit offset =>
      "Query nests deeper than " ++ toString limit ++ " levels at offset " ++ toString offset

end GrammarError

inductive ParseError where
  | lexical (error : LexError)
  | grammatical (error : GrammarError)
  deriving DecidableEq, Repr

namespace ParseError

def offset : ParseError → Nat
  | lexical error => error.offset
  | grammatical error => error.offset

def isLexical : ParseError → Bool
  | lexical _ => true
  | grammatical _ => false

def cause : ParseError → String
  | lexical error => error.message
  | grammatical error => error.message

def message : ParseError → String
  | lexical error => "Lexical error: " ++ error.message
  | grammatical error => "Syntax error: " ++ error.message

end ParseError

end SearchQuery
