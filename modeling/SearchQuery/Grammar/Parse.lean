import SearchQuery.Grammar.Clause
import SearchQuery.Token.Tokenizer

/-!
Reading a query from a token feed, a list of tokens or a text.
-/

namespace SearchQuery

namespace Parse

variable {σ : Type} [TokenFeed σ] (config : Config)

-- `room` is one more than the nesting levels that may still be opened, so the
-- parsers come to 0 only where `descend` has already refused a level.
mutual

def expression : (room : Nat) → Cursor σ → EStateM.Result ParseError (Cursor σ) Expr
  | 0, cursor => tooDeep config cursor
  | room + 1, cursor => groupOrDisjunction config (expression room) (conjunction room) cursor

def conjunction : (room : Nat) → Cursor σ → EStateM.Result ParseError (Cursor σ) Expr
  | 0, cursor => tooDeep config cursor
  | room + 1, cursor => chain config (expression room) (conjunction room) cursor

end

def query : Parse σ Query := do
  pull
  let body ← expression config (config.maxDepth + 1)
  match ← peek with
  | none => return ⟨body⟩
  | some _ => unexpected .endOfInput

end Parse

def parseFeed {σ : Type} [TokenFeed σ] (config : Config) (feed : σ) :
    Except ParseError Query :=
  match Parse.query config ⟨feed, none, 0⟩ with
  | .ok query _ => .ok query
  | .error error _ => .error error

def parseTokens (config : Config) (tokens : List SpannedToken) : Except ParseError Query :=
  parseFeed config (TokenQueue.ofTokens tokens)

def parseWith (config : Config) (text : String) : Except ParseError Query :=
  parseFeed config (Tokenizer.ofString text)

def parse (text : String) : Except ParseError Query := parseWith {} text

end SearchQuery
