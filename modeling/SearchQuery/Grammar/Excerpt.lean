import SearchQuery.Text.Offset

/-!
The query around an error: the query on a line of its own and a caret below the
character at the offset.
-/

namespace SearchQuery

/-- The number of characters the caret is moved to the right. An offset past the
end means the end; an offset inside a character is taken as it is. -/
def caretColumn (source : String) (offset : Nat) : Nat :=
  let inside := min offset (Text.byteLength source.toList)
  (Text.column? source.toList inside).getD inside

def excerpt (source : String) (offset : Nat) : String :=
  ">> " ++ source ++ "\n   " ++ String.ofList (List.replicate (caretColumn source offset) ' ')
    ++ "^\n"

end SearchQuery
