import SearchQuery.Config.Decode
import SearchQuery.Json.Basic

/-!
Reading a whole JSON value from a text. Keys and faults are those of the reader of a
configuration; a value of a form that query trees do not use is mistyped.
-/

namespace SearchQuery.Json

-- Every step takes a character, so no text is left where no step is.
mutual

def readValue : Nat → Scan Json
  | 0, _ => .error .truncated
  | steps + 1, cs =>
      match skipBlanks cs with
      | 't' :: rest => do
          let (_, rest) ← letters ['r', 'u', 'e'] rest
          return (.bool true, rest)
      | 'f' :: rest => do
          let (_, rest) ← letters ['a', 'l', 's', 'e'] rest
          return (.bool false, rest)
      | '"' :: rest => do
          let (value, rest) ← stringTail rest
          return (.string value, rest)
      | '\x7b' :: rest => do
          let (members, rest) ← readMembers steps true rest
          return (.object members, rest)
      | cs => .error (Config.otherType cs)

def readMembers : Nat → (first : Bool) → Scan (List (String × Json))
  | 0, _, _ => .error .truncated
  | steps + 1, first, cs => do
      match ← Config.nextKey first cs with
      | (none, rest) => return ([], rest)
      | (some key, rest) =>
          let (_, rest) ← colon rest
          let (value, rest) ← readValue steps rest
          let (later, rest) ← readMembers steps false rest
          return ((key, value) :: later, rest)

end

def read (text : String) : Except JsonError Json := do
  let (value, rest) ← readValue text.length text.toList
  if (skipBlanks rest).isEmpty then return value else throw .malformed

end SearchQuery.Json
