import SearchQuery.Text.Quoted

/-!
The one way scanning can fail: no lexical rule applies at some character.
-/

namespace SearchQuery

structure LexError where
  offset : Nat
  found : Char
  deriving DecidableEq, Repr

def LexError.message (error : LexError) : String :=
  "Unexpected character " ++ Text.quotedChar error.found ++ " at offset "
    ++ toString error.offset

end SearchQuery
