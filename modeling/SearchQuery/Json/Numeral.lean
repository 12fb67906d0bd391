import SearchQuery.Json.Scan

/-!
JSON numerals. Only a natural number that fits a 64-bit word is kept; any other
number is known to be one, provided that it is not too large for a double.
-/

namespace SearchQuery.Json

inductive Numeral where
  | natural (n : Nat)
  | other
  deriving DecidableEq, Repr

def digitValue (c : Char) : Nat := c.toNat - '0'.toNat

def maxNatural : Nat := Nat.pow 2 64 - 1

def startsWithDigit (cs : List Char) : Bool := cs.head?.any Char.isDigit

def skipDigits (cs : List Char) : List Char := cs.dropWhile Char.isDigit

def absorb : Nat → List Char → Nat × List Char
  | n, [] => (n, [])
  | n, c :: cs =>
      let grown := 10 * n + digitValue c
      if c.isDigit ∧ grown ≤ maxNatural then absorb grown cs else (n, c :: cs)

/-- A number to 53 significant bits, a tie to the even neighbour. -/
def roundToDouble (n : Nat) : Nat :=
  let unit := Nat.pow 2 (n.log2 - 52)
  let below := n / unit
  let rest := n % unit
  if unit < 2 * rest ∨ (unit = 2 * rest ∧ below % 2 = 1) then (below + 1) * unit
  else below * unit

def outOfRange (digits : Nat) (exponent : Int) : Bool :=
  digits ≠ 0 && (308 < exponent ||
    Nat.pow 2 1024 - Nat.pow 2 970 ≤
      roundToDouble digits * roundToDouble (Nat.pow 10 exponent.toNat))

def otherNumeral (digits : Nat) (exponent : Int) : Scan Numeral := fun cs =>
  if outOfRange digits exponent then .error .malformed else .ok (.other, cs)

def needDigit (cs : List Char) : Except JsonError Unit :=
  match cs with
  | [] => .error .truncated
  | c :: _ => if c.isDigit then .ok () else .error .malformed

def skipSign (cs : List Char) : Bool × List Char :=
  match cs with
  | '+' :: rest => (false, rest)
  | '-' :: rest => (true, rest)
  | _ => (false, cs)

def decimal (digits : List Char) : Nat :=
  digits.foldl (fun n c => 10 * n + digitValue c) 0

def exponentPart (digits : Nat) (shift : Int) : Scan Numeral := fun cs => do
  let (negative, cs) := skipSign cs
  needDigit cs
  let power : Int := decimal (cs.takeWhile Char.isDigit)
  otherNumeral digits (if negative then shift - power else shift + power) (skipDigits cs)

def afterDigits (digits : Nat) (shift : Int) : Scan Numeral
  | 'e' :: cs => exponentPart digits shift cs
  | 'E' :: cs => exponentPart digits shift cs
  | cs => otherNumeral digits shift cs

/-- The places after a point. Those that no longer fit a word are dropped. -/
def fractionPart (digits : Nat) (shift : Int) : Scan Numeral := fun cs => do
  needDigit cs
  let (digits, rest) := absorb digits cs
  afterDigits digits (shift - (cs.length - rest.length : Nat)) (skipDigits rest)

def numeral (negative : Bool) : Scan Numeral := fun cs => do
  needDigit cs
  if cs.head? = some '0' ∧ startsWithDigit (cs.drop 1) then throw .malformed
  let (digits, rest) := absorb 0 cs
  let dropped := (rest.takeWhile Char.isDigit).length
  match skipDigits rest with
  | '.' :: rest => fractionPart digits dropped rest
  | 'e' :: rest => exponentPart digits dropped rest
  | 'E' :: rest => exponentPart digits dropped rest
  | rest =>
      if negative ∨ dropped ≠ 0 then otherNumeral digits dropped rest
      else return (.natural digits, rest)

def skippedExponent (cs : List Char) : Except JsonError (List Char) :=
  let cs := (skipSign cs).2
  if startsWithDigit cs then .ok (skipDigits cs) else .error .malformed

/-- Skips a numeral without its sign. Its form alone counts, and a numeral cut
short is no numeral. -/
def skippedNumeral : Scan Unit := fun cs => do
  if !startsWithDigit cs then throw .malformed
  if cs.head? = some '0' ∧ startsWithDigit (cs.drop 1) then throw .malformed
  match skipDigits cs with
  | '.' :: rest =>
      if !startsWithDigit rest then throw .malformed
      match skipDigits rest with
      | 'e' :: rest => return ((), ← skippedExponent rest)
      | 'E' :: rest => return ((), ← skippedExponent rest)
      | rest => return ((), rest)
  | 'e' :: rest => return ((), ← skippedExponent rest)
  | 'E' :: rest => return ((), ← skippedExponent rest)
  | rest => return ((), rest)

end SearchQuery.Json
