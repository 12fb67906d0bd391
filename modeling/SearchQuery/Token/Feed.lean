import SearchQuery.Token.Basic
import SearchQuery.Token.LexError

/-!
Where a parser gets its tokens from, one at a time. A feed may fail, it knows
how far into the query it has come, and it holds finitely many tokens.
-/

namespace SearchQuery

class TokenFeed (σ : Type) where
  /-- One pull: a token, the end (`none`) or a failure, and the feed after it. -/
  next : σ → Except LexError (Option SpannedToken) × σ
  location : σ → Nat
  /-- A bound on the tokens still to come. -/
  remaining : σ → Nat
  remaining_lt (feed : σ) (token : SpannedToken)
    (pulled : (next feed).1 = .ok (some token)) :
    remaining (next feed).2 < remaining feed

/-- A list of tokens as a feed. Its location is where the last token given out
stopped; the spans are taken as they are. -/
structure TokenQueue where
  tokens : List SpannedToken
  location : Nat := 0
  deriving DecidableEq, Repr

namespace TokenQueue

def ofTokens (tokens : List SpannedToken) : TokenQueue := ⟨tokens, 0⟩

def next (queue : TokenQueue) : Option SpannedToken × TokenQueue :=
  match queue.tokens with
  | [] => (none, queue)
  | token :: rest => (some token, ⟨rest, token.stop⟩)

instance : TokenFeed TokenQueue where
  next queue := (.ok queue.next.1, queue.next.2)
  location queue := queue.location
  remaining queue := queue.tokens.length
  remaining_lt queue token pulled := by
    cases queue with
    | mk tokens location =>
        cases tokens with
        | nil => simp [next] at pulled
        | cons first rest => simp [next]

end TokenQueue

end SearchQuery
