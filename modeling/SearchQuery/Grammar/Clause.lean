import SearchQuery.Grammar.Cursor
import SearchQuery.Query.Basic
import SearchQuery.Token.Quotes

/-!
The clauses of the grammar, each given the parser for what is nested in it. One
lookahead token decides everywhere.

    expression   := group | disjunction
    group        := "(" expression ")"
    disjunction  := conjunction (OR? conjunction)*        leans left
    conjunction  := factor (AND conjunction)?             leans right
    factor       := NOT expression | group | PHRASE | term
    term         := NAME (":" value)?
    value        := range | comparison | REGEX | PHRASE | NAME | group
    range        := ("[" | "{") bound TO bound ("]" | "}")
    comparison   := ("<" | "<=" | ">" | ">=") bound
    bound        := NAME | PHRASE                         no ":" after it
-/

namespace SearchQuery.Parse

def valueKinds : List TokenKind :=
  [.rangeOpen, .relationalOperator, .regex, .quotedString, .identifier, .groupOpen]

def boundKinds : List TokenKind := [.identifier, .quotedString]

variable {σ : Type} [TokenFeed σ]

def refuseField : Parse σ Unit := do
  match ← peek with
  | some found =>
      if found.kind = .fieldSeparator then fail (.fieldInRange found.start) else return ()
  | none => return ()

def bound : Parse σ Atom := do
  match ← peekKind with
  | some .identifier =>
      let found ← consume .identifier
      refuseField
      return .term found.text
  | some .quotedString =>
      let found ← consume .quotedString
      refuseField
      return .phrase (unquote found.text)
  | _ => unexpected (.oneOf boundKinds)

def range (field : String) : Parse σ Expr := do
  let opening ← consume .rangeOpen
  let lower ← bound
  let _ ← consume .rangeTo
  let upper ← bound
  let closing ← consume .rangeClose
  return .range field ⟨lower, .ofOpening opening.text⟩ ⟨upper, .ofClosing closing.text⟩

def comparison (field : String) : Parse σ Expr := do
  let symbol ← consume .relationalOperator
  match Relation.ofSymbol? symbol.text with
  | some relation => return .comparison field ⟨← bound, relation⟩
  | none => failAt (.token .relationalOperator) symbol

def phrase (field : String) : Parse σ Expr := do
  let found ← consume .quotedString
  return .phrase field (unquote found.text)

-- `inner` reads an expression one nesting level deeper.
variable (config : Config) (inner : Parse σ Expr)

def group : Parse σ Expr := nested config do
  let _ ← consume .groupOpen
  let body ← inner
  let _ ← consume .groupClose
  return body

def value (field : String) : Parse σ Expr := do
  match ← peekKind with
  | none => fail (.missingValue field (← location))
  | some .rangeOpen => range field
  | some .relationalOperator => comparison field
  | some .regex => return .regex field (← consume .regex).text
  | some .quotedString => phrase field
  | some .identifier => return .term field (← consume .identifier).text
  | some .groupOpen => return .group field (← group config inner)
  | some _ => unexpected (.oneOf valueKinds)

def term : Parse σ Expr := do
  let name ← consume .identifier
  if (← peekKind) = some .fieldSeparator then
    let _ ← consume .fieldSeparator
    value config inner name.text
  else return .term config.defaultField name.text

def negation : Parse σ Expr := nested config do
  let operator ← consume .logicalNot
  return .not (Spelling.of operator.text) (← inner)

def factor : Parse σ Expr := do
  match ← peekKind with
  | some .logicalNot => negation config inner
  | some .groupOpen => group config inner
  | some .quotedString => phrase config.defaultField
  | _ => term config inner

def chain (tail : Parse σ Expr) : Parse σ Expr := do
  let left ← factor config inner
  if (← peekKind) = some .logicalAnd then
    nested config do
      let operator ← consume .logicalAnd
      return .binary (.and (Spelling.of operator.text)) left (← tail)
  else return left

omit config inner

def connective : Parse σ Connective := do
  if (← peekKind) = some .logicalOr then
    return .explicitOr (Spelling.of (← consume .logicalOr).text)
  else return .implicitOr

/-- Folds further clauses to the left, up to a closing parenthesis or the end.
Each round consumes a token, so `rounds` need not exceed the tokens left. -/
def alternatives (clause : Parse σ Expr) : Nat → Expr → Parse σ Expr
  | 0, left => return left
  | rounds + 1, left => do
      match ← peekKind with
      | none => return left
      | some .groupClose => return left
      | some _ =>
          let operator ← connective
          let right ← clause
          alternatives clause rounds (.binary operator left right)

def disjunction (clause : Parse σ Expr) : Parse σ Expr := do
  let left ← clause
  alternatives clause (← tokensLeft) left

/-- An expression that begins with a parenthesis is that group and nothing more. -/
def groupOrDisjunction (config : Config) (inner tail : Parse σ Expr) : Parse σ Expr := do
  if (← peekKind) = some .groupOpen then group config inner
  else disjunction (chain config inner tail)

end SearchQuery.Parse
