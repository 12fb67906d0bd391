import SearchQuery.Text.Offset
import SearchQuery.Token.Rule
import SearchQuery.Token.Feed

/-!
The tokenizer as a state machine: what is left of the query and the byte offset
at which that starts. Each step drops blanks and takes one token. A failed step
takes all the rest, so that the tokenizer is at its end afterwards.
-/

namespace SearchQuery

structure Tokenizer where
  rest : List Char
  location : Nat
  deriving DecidableEq, Repr

namespace Tokenizer

def ofString (source : String) : Tokenizer := ⟨source.toList, 0⟩

def atEnd (t : Tokenizer) : Bool := t.rest.isEmpty

def advance (t : Tokenizer) (count : Nat) : Tokenizer :=
  ⟨t.rest.drop count, t.location + Text.byteLength (t.rest.take count)⟩

def skipBlanks (t : Tokenizer) : Tokenizer :=
  t.advance (t.rest.takeWhile Text.isBlank).length

def take (t : Tokenizer) (kind : TokenKind) (count : Nat) : SpannedToken :=
  ⟨⟨kind, String.ofList (t.rest.take count)⟩, t.location, (t.advance count).location⟩

def scan (t : Tokenizer) : Except LexError (Option SpannedToken) × Tokenizer :=
  match t.rest with
  | [] => (.ok none, t)
  | c :: _ =>
      match firstMatch t.rest with
      | some (kind, count) => (.ok (some (t.take kind count)), t.advance count)
      | none => (.error ⟨t.location, c⟩, t.advance t.rest.length)

def next (t : Tokenizer) : Except LexError (Option SpannedToken) × Tokenizer :=
  t.skipBlanks.scan

theorem scan_shorter (t : Tokenizer) (token : SpannedToken)
    (pulled : t.scan.1 = .ok (some token)) :
    t.scan.2.rest.length < t.rest.length := by
  unfold scan at pulled ⊢
  cases whole : t.rest with
  | nil => simp [whole] at pulled
  | cons c cs =>
      simp only [whole] at pulled ⊢
      cases found : firstMatch (c :: cs) with
      | none => simp [found] at pulled
      | some pair =>
          have positive : 0 < pair.2 := firstMatch_pos found
          simp [advance, whole]
          omega

theorem next_shorter (t : Tokenizer) (token : SpannedToken)
    (pulled : t.next.1 = .ok (some token)) :
    t.next.2.rest.length < t.rest.length := by
  have step := scan_shorter t.skipBlanks token pulled
  have kept : t.skipBlanks.rest.length ≤ t.rest.length := by simp [skipBlanks, advance]
  exact Nat.lt_of_lt_of_le step kept

instance : TokenFeed Tokenizer where
  next := next
  location t := t.location
  remaining t := t.rest.length
  remaining_lt := next_shorter

def pulls : Nat → Tokenizer → List SpannedToken × Option LexError
  | 0, _ => ([], none)
  | steps + 1, t =>
      match t.next with
      | (.ok none, _) => ([], none)
      | (.error error, _) => ([], some error)
      | (.ok (some token), after) =>
          let later := pulls steps after
          (token :: later.1, later.2)

/-- All tokens before the end or the first failure, and that failure. A step
takes at least one character, so there are no more steps than characters. -/
def drain (t : Tokenizer) : List SpannedToken × Option LexError := pulls t.rest.length t

end Tokenizer

def tokenizeSpanned (source : String) : Except LexError (List SpannedToken) :=
  match (Tokenizer.ofString source).drain with
  | (tokens, none) => .ok tokens
  | (_, some error) => .error error

def tokenize (source : String) : Except LexError (List Token) :=
  (tokenizeSpanned source).map fun tokens => tokens.map (·.token)

end SearchQuery
