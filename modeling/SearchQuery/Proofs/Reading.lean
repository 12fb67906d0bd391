import SearchQuery.Grammar.Clause

/-!
How a list of tokens is read as a tree, said without any parser: which clause the
tokens form, which tree that is, and how many nesting levels it takes to read it.
One token of what follows is part of the reading, since it decides where a clause
ends.
-/

namespace SearchQuery

inductive Clause where
  | expression
  | group
  | disjunction
  | chain
  | factor
  deriving DecidableEq, Repr

def firstKind (tokens : List Token) : Option TokenKind := tokens.head?.map (·.kind)

@[simp] theorem firstKind_nil : firstKind [] = none := rfl

@[simp] theorem firstKind_cons (token : Token) (rest : List Token) :
    firstKind (token :: rest) = some token.kind := rfl

theorem firstKind_append (left right : List Token) :
    firstKind (left ++ right) = (firstKind left).or (firstKind right) := by
  cases left <;> simp

theorem firstKind_append_of_ne_nil {left right : List Token} (some_token : left ≠ []) :
    firstKind (left ++ right) = firstKind left := by
  obtain ⟨token, rest, rfl⟩ := List.exists_cons_of_ne_nil some_token
  rfl

def Ends (next : Option TokenKind) : Prop := next = none ∨ next = some .groupClose

theorem Ends.separate {next : Option TokenKind} (ends : Ends next) :
    next ≠ some .logicalAnd ∧ next ≠ some .fieldSeparator := by
  rcases ends with rfl | rfl <;> simp

def Token.atom? (token : Token) : Option Atom :=
  match token.kind with
  | .identifier => some (.term token.text)
  | .quotedString => some (.phrase (unquote token.text))
  | _ => none

inductive ReadsValue (field : String) : List Token → Expr → Option TokenKind → Prop where
  | term {value : Token} {next : Option TokenKind} (kind : value.kind = .identifier) :
      ReadsValue field [value] (.term field value.text) next
  | phrase {value : Token} {next : Option TokenKind} (kind : value.kind = .quotedString) :
      ReadsValue field [value] (.phrase field (unquote value.text)) next
  | regex {value : Token} {next : Option TokenKind} (kind : value.kind = .regex) :
      ReadsValue field [value] (.regex field value.text) next
  | range {opening lower middle upper closing : Token} {low high : Atom}
      {next : Option TokenKind} (opens : opening.kind = .rangeOpen)
      (first : lower.atom? = some low) (between : middle.kind = .rangeTo)
      (second : upper.atom? = some high) (closes : closing.kind = .rangeClose) :
      ReadsValue field [opening, lower, middle, upper, closing]
        (.range field ⟨low, .ofOpening opening.text⟩ ⟨high, .ofClosing closing.text⟩) next
  | comparison {symbol bound : Token} {relation : Relation} {atom : Atom}
      {next : Option TokenKind} (kind : symbol.kind = .relationalOperator)
      (meant : Relation.ofSymbol? symbol.text = some relation)
      (bounded : bound.atom? = some atom) (unnamed : next ≠ some .fieldSeparator) :
      ReadsValue field [symbol, bound] (.comparison field ⟨atom, relation⟩) next

/-- Of what follows, only a colon can make something else of a value. -/
theorem ReadsValue.before {field : String} {tokens : List Token} {tree : Expr}
    {next other : Option TokenKind} (found : ReadsValue field tokens tree next)
    (unnamed : other ≠ some .fieldSeparator) : ReadsValue field tokens tree other := by
  cases found with
  | term kind => exact .term kind
  | phrase kind => exact .phrase kind
  | regex kind => exact .regex kind
  | range opens first between second closes => exact .range opens first between second closes
  | comparison kind meant bounded _ => exact .comparison kind meant bounded unnamed

/-- `Reads field clause tokens tree next levels`: before a token of kind `next` the
tokens form the clause and mean the tree, and reading them opens that many levels. -/
inductive Reads (field : String) :
    Clause → List Token → Expr → Option TokenKind → Nat → Prop where
  | ofGroup {tokens tree next levels} (whole : Reads field .group tokens tree next levels) :
      Reads field .expression tokens tree next levels
  | ofDisjunction {tokens tree next levels}
      (whole : Reads field .disjunction tokens tree next levels)
      (bare : firstKind tokens ≠ some .groupOpen) (ends : Ends next) :
      Reads field .expression tokens tree next levels
  | group {opening closing : Token} {tokens tree next levels}
      (opens : opening.kind = .groupOpen)
      (body : Reads field .expression tokens tree (some .groupClose) levels)
      (closes : closing.kind = .groupClose) :
      Reads field .group (opening :: (tokens ++ [closing])) tree next (levels + 1)
  | first {tokens tree next levels} (only : Reads field .chain tokens tree next levels) :
      Reads field .disjunction tokens tree next levels
  | or {operator : Token} {before after left right next levels deeper}
      (first : Reads field .disjunction before left (some .logicalOr) levels)
      (written : operator.kind = .logicalOr)
      (second : Reads field .chain after right next deeper) :
      Reads field .disjunction (before ++ operator :: after)
        (.binary (.explicitOr (Spelling.of operator.text)) left right) next (max levels deeper)
  | adjacent {before after left right next levels deeper}
      (first : Reads field .disjunction before left (firstKind after) levels)
      (second : Reads field .chain after right next deeper) :
      Reads field .disjunction (before ++ after)
        (.binary .implicitOr left right) next (max levels deeper)
  | last {tokens tree next levels} (only : Reads field .factor tokens tree next levels)
      (stops : next ≠ some .logicalAnd) : Reads field .chain tokens tree next levels
  | and {operator : Token} {before after left right next levels deeper}
      (first : Reads field .factor before left (some .logicalAnd) levels)
      (written : operator.kind = .logicalAnd)
      (second : Reads field .chain after right next deeper) :
      Reads field .chain (before ++ operator :: after)
        (.binary (.and (Spelling.of operator.text)) left right) next (max levels (deeper + 1))
  | not {operator : Token} {tokens tree next levels} (written : operator.kind = .logicalNot)
      (operand : Reads field .expression tokens tree next levels) :
      Reads field .factor (operator :: tokens) (.not (Spelling.of operator.text) tree) next
        (levels + 1)
  | paren {tokens tree next levels} (whole : Reads field .group tokens tree next levels) :
      Reads field .factor tokens tree next levels
  | word {value : Token} {next} (kind : value.kind = .identifier)
      (unnamed : next ≠ some .fieldSeparator) :
      Reads field .factor [value] (.term field value.text) next 0
  | phrase {value : Token} {next} (kind : value.kind = .quotedString) :
      Reads field .factor [value] (.phrase field (unquote value.text)) next 0
  | value {name colon : Token} {tokens tree next} (names : name.kind = .identifier)
      (separates : colon.kind = .fieldSeparator)
      (found : ReadsValue name.text tokens tree next) :
      Reads field .factor (name :: colon :: tokens) tree next 0
  | fieldGroup {name colon : Token} {tokens tree next levels} (names : name.kind = .identifier)
      (separates : colon.kind = .fieldSeparator)
      (body : Reads field .group tokens tree next levels) :
      Reads field .factor (name :: colon :: tokens) (.group name.text tree) next levels

namespace Reads

variable {field : String} {clause : Clause} {tokens : List Token} {tree : Expr}
  {next : Option TokenKind} {levels : Nat}

/-- Every level is opened at a token of its own, and a leaf opens none. -/
theorem levels_lt (reads : Reads field clause tokens tree next levels) :
    levels < tokens.length := by
  induction reads <;> simp_all <;> omega

theorem levels_le (reads : Reads field clause tokens tree next levels) :
    levels ≤ tokens.length := Nat.le_of_lt reads.levels_lt

/-- A group ends at its parenthesis, whatever follows. -/
theorem group_next (reads : Reads field .group tokens tree next levels)
    (other : Option TokenKind) : Reads field .group tokens tree other levels := by
  cases reads with
  | group opens body closes => exact .group opens body closes

/-- What follows matters only where it could prolong the clause. -/
theorem before {other : Option TokenKind} (reads : Reads field clause tokens tree next levels)
    (closed : Ends next → Ends other) (unchained : other ≠ some .logicalAnd)
    (unnamed : other ≠ some .fieldSeparator) : Reads field clause tokens tree other levels := by
  induction reads with
  | ofGroup _ ih => exact .ofGroup (ih closed)
  | ofDisjunction _ bare ends ih => exact .ofDisjunction (ih closed) bare (closed ends)
  | group opens body closes => exact .group opens body closes
  | first _ ih => exact .first (ih closed)
  | or first written _ _ ih => exact .or first written (ih closed)
  | adjacent first _ _ ih => exact .adjacent first (ih closed)
  | last _ _ ih => exact .last (ih closed) unchained
  | and first written _ _ ih => exact .and first written (ih closed)
  | not written _ ih => exact .not written (ih closed)
  | paren _ ih => exact .paren (ih closed)
  | word kind => exact .word kind unnamed
  | phrase kind => exact .phrase kind
  | value names separates found => exact .value names separates (found.before unnamed)
  | fieldGroup names separates _ ih => exact .fieldGroup names separates (ih closed)

/-- Where an expression may end, it is read as before anything else. -/
theorem before_end {other : Option TokenKind} (reads : Reads field clause tokens tree next levels)
    (ends : Ends other) : Reads field clause tokens tree other levels :=
  reads.before (fun _ => ends) ends.separate.1 ends.separate.2

/-- A factor that begins with no parenthesis is an expression of its own. -/
theorem alone (reads : Reads field .factor tokens tree none levels)
    (bare : firstKind tokens ≠ some .groupOpen) :
    Reads field .expression tokens tree none levels := by
  have ends : Ends none := .inl rfl
  exact .ofDisjunction (.first (.last reads ends.separate.1)) bare ends

def Begins (kind : Option TokenKind) : Prop :=
  kind = some .logicalNot ∨ kind = some .groupOpen ∨ kind = some .quotedString
    ∨ kind = some .identifier

/-- Next to another clause stands the beginning of one, neither an AND nor a colon. -/
theorem Begins.separate {kind : Option TokenKind} (begins : Begins kind) :
    kind ≠ some .logicalAnd ∧ kind ≠ some .fieldSeparator := by
  rcases begins with rfl | rfl | rfl | rfl <;> simp

theorem begins (reads : Reads field clause tokens tree next levels) :
    Begins (firstKind tokens) := by
  induction reads with
  | ofGroup | ofDisjunction | first | last | paren => assumption
  | group opens => simp [Begins, opens]
  | or _ _ _ ih | and _ _ _ ih =>
      rcases ih with same | same | same | same <;> simp [Begins, firstKind_append, same]
  | adjacent _ _ ih =>
      rcases ih with same | same | same | same <;> simp [Begins, firstKind_append, same]
  | not kind | word kind | phrase kind | value kind | fieldGroup kind => simp [Begins, kind]

theorem tokens_ne_nil (reads : Reads field clause tokens tree next levels) : tokens ≠ [] := by
  rintro rfl
  simpa [Begins] using reads.begins

end Reads

end SearchQuery
