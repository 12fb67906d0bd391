/-!
The text between the quotation marks of a quoted string.
-/

namespace SearchQuery

/-- Drops the first and the last character. A text that does not begin and end
with one-byte characters is in no quotation marks and has nothing between them. -/
def unquote (text : String) : String :=
  match text.toList with
  | first :: second :: rest =>
      let last := (second :: rest).getLast (by simp)
      if first.utf8Size = 1 ∧ last.utf8Size = 1 then
        String.ofList (second :: rest).dropLast
      else ""
  | _ => ""

end SearchQuery
