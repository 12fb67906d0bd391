import SearchQuery.Text.Quoted

/-!
Tokens of the query language. A token is its kind and the exact text it was
read from; the grammar decides by the kind and reads the text only where it
carries data (names, values, bracket shapes, operator spellings).
-/

namespace SearchQuery

inductive TokenKind where
  | logicalAnd
  | logicalOr
  | logicalNot
  | identifier
  | quotedString
  | regex
  | fieldSeparator
  | prefixOperator
  | tilde
  | groupOpen
  | groupClose
  | rangeOpen
  | rangeClose
  | rangeTo
  | relationalOperator
  | whitespace
  deriving DecidableEq, Repr

namespace TokenKind

def name : TokenKind → String
  | logicalAnd => "LogicalAnd"
  | logicalOr => "LogicalOr"
  | logicalNot => "LogicalNot"
  | identifier => "Identifier"
  | quotedString => "QuotedString"
  | regex => "Regex"
  | fieldSeparator => "FieldSeparator"
  | prefixOperator => "PrefixOperator"
  | tilde => "Tilde"
  | groupOpen => "GroupOpen"
  | groupClose => "GroupClose"
  | rangeOpen => "RangeOpen"
  | rangeClose => "RangeClose"
  | rangeTo => "RangeTo"
  | relationalOperator => "RelationalOperator"
  | whitespace => "Whitespace"

def all : List TokenKind :=
  [logicalAnd, logicalOr, logicalNot, identifier, quotedString, regex, fieldSeparator,
   prefixOperator, tilde, groupOpen, groupClose, rangeOpen, rangeClose, rangeTo,
   relationalOperator, whitespace]

def ofName? (text : String) : Option TokenKind := all.find? fun kind => kind.name = text

def isAtom : TokenKind → Bool
  | identifier | quotedString => true
  | _ => false

theorem ofName_name (kind : TokenKind) : ofName? kind.name = some kind := by
  cases kind <;> decide

end TokenKind

structure Token where
  kind : TokenKind
  text : String
  deriving DecidableEq, Repr

def Token.describe (token : Token) : String :=
  token.kind.name ++ "(" ++ Text.quoted token.text ++ ")"

structure SpannedToken where
  token : Token
  start : Nat
  stop : Nat
  deriving DecidableEq, Repr

def SpannedToken.kind (spanned : SpannedToken) : TokenKind := spanned.token.kind

def SpannedToken.text (spanned : SpannedToken) : String := spanned.token.text

end SearchQuery
