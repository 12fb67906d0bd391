import SearchQuery.Json.Numeral
import SearchQuery.Json.Text

/-!
Skipping a JSON value of any form. The containers that are open are kept in a
list, so the depth of a value does not matter.
-/

namespace SearchQuery.Json

inductive Container where
  | list
  | object
  deriving DecidableEq, Repr

def Container.closing : Container → Char
  | list => ']'
  | object => '\x7d'

def Container.skipKey : Container → List Char → Except JsonError (List Char)
  | list, cs => .ok cs
  | object, cs =>
      match skipBlanks cs with
      | [] => .error .truncated
      | '"' :: rest => do
          let (_, rest) ← skippedString rest
          return (← colon rest).2
      | _ => .error .malformed

/-- Steps into a container: whether it is empty, and what follows, which is the
text after it or its first value. -/
def Container.enter (container : Container) (cs : List Char) :
    Except JsonError (Bool × List Char) :=
  match skipBlanks cs with
  | [] => .error .truncated
  | c :: rest =>
      if c = container.closing then .ok (true, rest)
      else (container.skipKey (c :: rest)).map fun first => (false, first)

-- Every step takes a character, so no text is left where no step is.
mutual

def skipValue : Nat → List Container → List Char → Except JsonError (List Char)
  | 0, _, _ => .error .truncated
  | steps + 1, opened, cs =>
      match skipBlanks cs with
      | [] => .error .truncated
      | 'n' :: rest => do skipAfter steps opened (← letters ['u', 'l', 'l'] rest).2
      | 't' :: rest => do skipAfter steps opened (← letters ['r', 'u', 'e'] rest).2
      | 'f' :: rest => do skipAfter steps opened (← letters ['a', 'l', 's', 'e'] rest).2
      | '"' :: rest => do skipAfter steps opened (← skippedString rest).2
      | '-' :: rest => do skipAfter steps opened (← skippedNumeral rest).2
      | '[' :: rest => do
          let (empty, rest) ← Container.list.enter rest
          if empty then skipAfter steps opened rest
          else skipValue steps (.list :: opened) rest
      | '\x7b' :: rest => do
          let (empty, rest) ← Container.object.enter rest
          if empty then skipAfter steps opened rest
          else skipValue steps (.object :: opened) rest
      | c :: rest =>
          if c.isDigit then do skipAfter steps opened (← skippedNumeral (c :: rest)).2
          else .error .malformed

def skipAfter : Nat → List Container → List Char → Except JsonError (List Char)
  | _, [], cs => .ok cs
  | 0, _ :: _, _ => .error .truncated
  | steps + 1, container :: opened, cs =>
      match skipBlanks cs with
      | [] => .error .truncated
      | c :: rest =>
          if c = ',' then
            do skipValue steps (container :: opened) (← container.skipKey rest)
          else if c = container.closing then skipAfter steps opened rest
          else .error .malformed

end

def skip (cs : List Char) : Except JsonError (List Char) := skipValue cs.length [] cs

end SearchQuery.Json
