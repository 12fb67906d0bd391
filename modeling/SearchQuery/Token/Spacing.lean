import SearchQuery.Token.Basic

/-!
Writing a list of tokens as text again. One blank separates two tokens unless
one of them is a bracket or operator that stands close to its neighbour.
-/

namespace SearchQuery

namespace TokenKind

def joinsPrevious : TokenKind → Bool
  | fieldSeparator | groupClose | rangeClose | tilde => true
  | _ => false

def joinsNext : TokenKind → Bool
  | fieldSeparator | groupOpen | rangeOpen | prefixOperator => true
  | _ => false

end TokenKind

def separator (before after : TokenKind) : String :=
  if before.joinsNext || after.joinsPrevious then "" else " "

def joinTokens : List Token → String
  | [] => ""
  | [token] => token.text
  | first :: second :: rest =>
      first.text ++ separator first.kind second.kind ++ joinTokens (second :: rest)

end SearchQuery
