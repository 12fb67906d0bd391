import SearchQuery.Json.Scan
import SearchQuery.Text.Offset

/-!
JSON strings. A string that is read must spell characters; one that is skipped
may also hold half of a character that is written as two numbers.
-/

namespace SearchQuery.Json

def hexValue? (c : Char) : Option Nat :=
  if '0' ≤ c ∧ c ≤ '9' then some (c.toNat - '0'.toNat)
  else if 'a' ≤ c ∧ c ≤ 'f' then some (c.toNat - 'a'.toNat + 10)
  else if 'A' ≤ c ∧ c ≤ 'F' then some (c.toNat - 'A'.toNat + 10)
  else none

def hexNumber? (digits : List Char) : Option Nat :=
  digits.foldl (fun n c => do return 16 * (← n) + (← hexValue? c)) (some 0)

/-- A number of four hexadecimal digits. A text of fewer than four bytes ends
too early, whatever its characters are. -/
def fourDigits : Scan Nat := fun cs =>
  if Text.byteLength (cs.take 4) < 4 then .error .truncated
  else
    match hexNumber? (cs.take 4) with
    | some n => .ok (n, cs.drop 4)
    | none => .error .malformed

def isLeadingHalf (n : Nat) : Bool := 0xD800 ≤ n && n ≤ 0xDBFF

def isTrailingHalf (n : Nat) : Bool := 0xDC00 ≤ n && n ≤ 0xDFFF

def joinHalves (leading trailing : Nat) : Char :=
  Char.ofNat (0x10000 + 0x400 * (leading - 0xD800) + (trailing - 0xDC00))

def trailingHalf : Scan Nat
  | [] => .error .truncated
  | '\\' :: [] => .error .truncated
  | '\\' :: 'u' :: cs => do
      let (n, rest) ← fourDigits cs
      if isTrailingHalf n then return (n, rest) else throw .malformed
  | _ => .error .malformed

def numberedChar : Scan Char := fun cs => do
  let (n, rest) ← fourDigits cs
  if isTrailingHalf n then throw .malformed
  else if isLeadingHalf n then
    let (m, rest) ← trailingHalf rest
    return (joinHalves n m, rest)
  else return (Char.ofNat n, rest)

def namedEscape? : Char → Option Char
  | '"' => some '"'
  | '\\' => some '\\'
  | '/' => some '/'
  | 'b' => some '\x08'
  | 'f' => some '\x0c'
  | 'n' => some '\n'
  | 'r' => some '\r'
  | 't' => some '\t'
  | _ => none

def escapedChar : Scan Char
  | [] => .error .truncated
  | c :: cs =>
      match namedEscape? c with
      | some meant => .ok (meant, cs)
      | none => if c = 'u' then numberedChar cs else .error .malformed

/-- As `escapedChar`, but a number may be half of a character. -/
def skippedEscape : Scan Unit
  | [] => .error .truncated
  | c :: cs =>
      match namedEscape? c with
      | some _ => .ok ((), cs)
      | none =>
          if c = 'u' then (fourDigits cs).map fun pair => ((), pair.2)
          else .error .malformed

/-- What stands up to the closing quotation mark. Every step takes a character,
so there is no text left where no step is. -/
def quotedChars {α : Type} (escape : Scan α) (plain : Char → α) : Nat → Scan (List α)
  | 0, _ => .error .truncated
  | _ + 1, [] => .error .truncated
  | steps + 1, c :: cs =>
      if c = '"' then .ok ([], cs)
      else if c = '\\' then do
        let (first, rest) ← escape cs
        let (later, rest) ← quotedChars escape plain steps rest
        return (first :: later, rest)
      else if c.toNat < 0x20 then .error .malformed
      else do
        let (later, rest) ← quotedChars escape plain steps cs
        return (plain c :: later, rest)

def stringTail : Scan String := fun cs => do
  let (chars, rest) ← quotedChars escapedChar id cs.length cs
  return (String.ofList chars, rest)

def skippedString : Scan Unit := fun cs => do
  let (_, rest) ← quotedChars skippedEscape (fun _ => ()) cs.length cs
  return ((), rest)

end SearchQuery.Json
