import SearchQuery.Token.Tokenizer

/-!
A tokenizer in use. Tokens are pulled with their spans or without, in any order, and a copy of
the tokenizer can be set aside and taken up again.
-/

namespace SearchQuery

/-- A pull as an iterator answers it: without the span, and with no answer at the end. -/
def spanless : Except LexError (Option SpannedToken) → Option (Except LexError Token)
  | .ok none => none
  | .ok (some found) => some (.ok found.token)
  | .error error => some (.error error)

namespace Tokenizer

def nextToken (t : Tokenizer) : Option (Except LexError Token) × Tokenizer :=
  (spanless t.next.1, t.next.2)

theorem nextToken_shorter (t : Tokenizer) (token : Token)
    (pulled : t.nextToken.1 = some (.ok token)) : t.nextToken.2.rest.length < t.rest.length := by
  unfold nextToken spanless at pulled
  split at pulled
  case h_1 => cases pulled
  case h_2 found answer => exact next_shorter t found answer
  case h_3 => cases pulled

def collect (t : Tokenizer) : Except LexError (List Token) :=
  match _ : t.nextToken.1 with
  | none => .ok []
  | some (.error error) => .error error
  | some (.ok token) => (collect t.nextToken.2).map (token :: ·)
termination_by t.rest.length
decreasing_by exact nextToken_shorter t token ‹_›

end Tokenizer

inductive Form where
  | token
  | spanned
  deriving DecidableEq, Repr

inductive Answer where
  | token (pulled : Option (Except LexError Token))
  | spanned (pulled : Except LexError (Option SpannedToken))

def Tokenizer.pull (t : Tokenizer) : Form → Answer × Tokenizer
  | .token => (.token t.nextToken.1, t.nextToken.2)
  | .spanned => (.spanned t.next.1, t.next.2)

structure Session where
  current : Tokenizer
  saved : Tokenizer
  deriving DecidableEq, Repr

namespace Session

inductive Step where
  | pull (form : Form)
  | save
  | restore
  deriving DecidableEq, Repr

def ofString (source : String) : Session :=
  ⟨Tokenizer.ofString source, Tokenizer.ofString source⟩

def step (session : Session) : Step → Option Answer × Session
  | .pull form =>
      let (answer, after) := session.current.pull form
      (some answer, { session with current := after })
  | .save => (none, { session with saved := session.current })
  | .restore => (none, { session with current := session.saved })

def run (session : Session) : List Step → List (Option Answer × Session)
  | [] => []
  | first :: steps => session.step first :: run (session.step first).2 steps

end Session

end SearchQuery
