import SearchQuery.Config.Basic
import SearchQuery.Grammar.Error
import SearchQuery.Token.Feed

/-!
The state of a parse: the token feed, the one token that was pulled ahead, and the
number of nesting levels that are open. A step either moves the cursor on or
fails, and the cursor at the failure is kept.
-/

namespace SearchQuery

structure Cursor (σ : Type) where
  feed : σ
  lookahead : Option SpannedToken
  depth : Nat

abbrev Parse (σ α : Type) := EStateM ParseError (Cursor σ) α

namespace Parse

variable {σ α : Type} [TokenFeed σ]

def fail (error : GrammarError) : Parse σ α := throw (.grammatical error)

def pull : Parse σ Unit := fun cursor =>
  match TokenFeed.next cursor.feed with
  | (.ok lookahead, feed) => .ok () { cursor with feed, lookahead }
  | (.error error, feed) =>
      .error (.lexical error) { cursor with feed, lookahead := none }

def peek : Parse σ (Option SpannedToken) := return (← get).lookahead

def peekKind : Parse σ (Option TokenKind) := return (← peek).map (·.kind)

def location : Parse σ Nat := return TokenFeed.location (← get).feed

/-- A bound on the tokens not yet consumed, the lookahead among them. -/
def tokensLeft : Parse σ Nat := do
  let cursor ← get
  return TokenFeed.remaining cursor.feed + cursor.lookahead.toList.length

def failAt (expected : Expected) : Option SpannedToken → Parse σ α
  | some found => fail (.unexpectedToken expected found.token found.start)
  | none => do fail (.unexpectedEnd expected (← location))

def unexpected (expected : Expected) : Parse σ α := do failAt expected (← peek)

def consume (kind : TokenKind) : Parse σ SpannedToken := do
  match ← peek with
  | some found =>
      if found.kind = kind then
        pull
        return found
      else failAt (.token kind) found
  | none => failAt (.token kind) none

def tooDeep (config : Config) : Parse σ α := do
  let offset ← match ← peek with
    | some found => pure found.start
    | none => location
  fail (.tooDeep config.maxDepth offset)

def descend (config : Config) : Parse σ Unit := do
  let cursor ← get
  if cursor.depth < config.maxDepth then
    set { cursor with depth := cursor.depth + 1 }
  else tooDeep config

def ascend : Parse σ Unit :=
  modify fun cursor => { cursor with depth := cursor.depth - 1 }

def nested (config : Config) (step : Parse σ α) : Parse σ α := do
  descend config
  let result ← step
  ascend
  return result

end Parse

end SearchQuery
