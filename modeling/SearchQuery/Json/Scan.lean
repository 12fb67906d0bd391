/-!
Reading JSON from the left. What is wrong with a text is decided by its first
fault, so every reader stops there and says of which sort it is.
-/

namespace SearchQuery

/-- Why a JSON text is refused: it is no JSON, it ends too early, or it is JSON
of another form than the one asked for. -/
inductive JsonError where
  | malformed
  | truncated
  | mistyped
  deriving DecidableEq, Repr

namespace Json

abbrev Scan (α : Type) := List Char → Except JsonError (α × List Char)

def isJsonBlank (c : Char) : Bool := c = ' ' || c = '\n' || c = '\t' || c = '\r'

def skipBlanks (cs : List Char) : List Char := cs.dropWhile isJsonBlank

def letters : List Char → Scan Unit
  | [], cs => .ok ((), cs)
  | _ :: _, [] => .error .truncated
  | letter :: rest, c :: cs => if letter = c then letters rest cs else .error .malformed

def colon : Scan Unit := fun cs =>
  match skipBlanks cs with
  | [] => .error .truncated
  | ':' :: rest => .ok ((), rest)
  | _ => .error .malformed

end Json

end SearchQuery
