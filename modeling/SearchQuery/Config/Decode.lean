import SearchQuery.Config.Basic
import SearchQuery.Json.Skip

/-!
A configuration from JSON: an object with the members `default_field` and
`max_depth`, or a list of the two in this order. What is missing keeps its
default, other members are skipped, and the first fault decides.
-/

namespace SearchQuery.Config

open Json

/-- The fault in a value that is of another type than the one asked for: its own
fault, if it has one before its end shows. -/
def otherType (cs : List Char) : JsonError :=
  let blame {α : Type} : Except JsonError α → JsonError
    | .ok _ => .mistyped
    | .error error => error
  match cs with
  | 'n' :: rest => blame (letters ['u', 'l', 'l'] rest)
  | 't' :: rest => blame (letters ['r', 'u', 'e'] rest)
  | 'f' :: rest => blame (letters ['a', 'l', 's', 'e'] rest)
  | '"' :: rest => blame (stringTail rest)
  | '-' :: rest => blame (numeral true rest)
  | '[' :: _ => .mistyped
  | '\x7b' :: _ => .mistyped
  | c :: rest => if c.isDigit then blame (numeral false (c :: rest)) else .malformed
  | [] => .truncated

def text : Scan String := fun cs =>
  match skipBlanks cs with
  | '"' :: rest => stringTail rest
  | cs => .error (otherType cs)

def natural : Scan Nat := fun cs =>
  match skipBlanks cs with
  | cs@(c :: _) =>
      if c.isDigit then
        match numeral false cs with
        | .ok (.natural n, rest) => .ok (n, rest)
        | .ok (.other, _) => .error .mistyped
        | .error error => .error error
      else .error (otherType cs)
  | [] => .error .truncated

/-! The list form -/

def element {α : Type} (first : Bool) (read : Scan α) : Scan (Option α) := fun cs =>
  let present (cs : List Char) := (read cs).map fun pair => (some pair.1, pair.2)
  match skipBlanks cs with
  | [] => .error .truncated
  | c :: rest =>
      if c = ']' then .ok (none, c :: rest)
      else if first then present (c :: rest)
      else if c = ',' then
        match skipBlanks rest with
        | [] => .error .truncated
        | ']' :: _ => .error .malformed
        | rest => present rest
      else .error .malformed

def listEnd : Scan Unit := fun cs =>
  match skipBlanks cs with
  | [] => .error .truncated
  | ']' :: rest => .ok ((), rest)
  | _ => .error .malformed

structure Given where
  defaultField : Option String := none
  maxDepth : Option Nat := none

def Given.complete (given : Given) : Config :=
  ⟨given.defaultField.getD implicitField, given.maxDepth.getD defaultMaxDepth⟩

def elements : Scan Given := fun cs => do
  let (field, cs) ← element true text cs
  let (depth, cs) ← element false natural cs
  let (_, cs) ← listEnd cs
  return (⟨field, depth⟩, cs)

/-! The object form -/

def nextKey (first : Bool) : Scan (Option String) := fun cs =>
  let key (cs : List Char) := (stringTail cs).map fun pair => (some pair.1, pair.2)
  match skipBlanks cs with
  | [] => .error .truncated
  | '\x7d' :: rest => .ok (none, rest)
  | c :: rest =>
      if first then if c = '"' then key rest else .error .malformed
      else if c = ',' then
        match skipBlanks rest with
        | [] => .error .truncated
        | '"' :: rest => key rest
        | _ => .error .malformed
      else .error .malformed

/-- The value of a key. A known key must not be given twice. -/
def member (given : Given) (key : String) : Scan Given := fun cs => do
  if key = "default_field" then
    if given.defaultField.isSome then throw .mistyped
    let (_, cs) ← colon cs
    let (field, cs) ← text cs
    return ({ given with defaultField := some field }, cs)
  else if key = "max_depth" then
    if given.maxDepth.isSome then throw .mistyped
    let (_, cs) ← colon cs
    let (depth, cs) ← natural cs
    return ({ given with maxDepth := some depth }, cs)
  else
    let (_, cs) ← colon cs
    return (given, ← skip cs)

def members : Nat → (first : Bool) → Given → Scan Given
  | 0, _, _, _ => .error .truncated
  | steps + 1, first, given, cs => do
      match ← nextKey first cs with
      | (none, cs) => return (given, cs)
      | (some key, cs) =>
          let (given, cs) ← member given key cs
          members steps false given cs

def decode (source : String) : Except JsonError Config := do
  let (given, rest) ← match skipBlanks source.toList with
    | '[' :: rest => elements rest
    | '\x7b' :: rest => members rest.length true {} rest
    | cs => throw (otherType cs)
  if (skipBlanks rest).isEmpty then return given.complete else throw .malformed

end SearchQuery.Config
