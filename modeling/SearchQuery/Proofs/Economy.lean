import Mathlib
import SearchQuery.Proofs.Shape

/-!
Printing wastes no parentheses. Apart from those that belong to a NOT or to a field,
each pair that is printed stands around a side of an operator, and this side was read
from parentheses of its own. So no tokens that mean the tree have fewer of them.
-/

namespace SearchQuery

/-- Behind a NOT and behind the colon of a field parentheses belong to that clause. -/
def asksForGroup : Option TokenKind → Bool
  | some .logicalNot | some .fieldSeparator => true
  | _ => false

/-- The opening parentheses for which neither a NOT nor a colon asks; `behind` is the kind of the
token before the first. -/
def looseOpenings (behind : Option TokenKind) : List Token → Nat
  | [] => 0
  | token :: rest =>
      (if token.kind = .groupOpen ∧ asksForGroup behind = false then 1 else 0) +
        looseOpenings (some token.kind) rest

def Expr.parenthesizedSides : Expr → Nat
  | .binary operator left right =>
      (parenthesizesLeft operator left).toNat + left.parenthesizedSides +
        ((parenthesizesRight right).toNat + right.parenthesizedSides)
  | .not _ operand => operand.parenthesizedSides
  | .group _ body => body.parenthesizedSides
  | .term .. | .phrase .. | .regex .. | .range .. | .comparison .. => 0

theorem Expr.sides_and (spelling : Spelling) (left right : Expr) :
    (binary (.and spelling) left right).parenthesizedSides =
      left.isBinary.toNat + left.parenthesizedSides +
        (right.isOr.toNat + right.parenthesizedSides) := rfl

theorem Expr.sides_or (spelling : Spelling) (implicit : Bool) (left right : Expr) :
    (binary (.or spelling implicit) left right).parenthesizedSides =
      left.parenthesizedSides + (right.isOr.toNat + right.parenthesizedSides) :=
  congrArg (· + _) (Nat.zero_add _)

/-! Counting -/

def kindBehind (behind : Option TokenKind) : List Token → Option TokenKind
  | [] => behind
  | token :: rest => kindBehind (some token.kind) rest

section Counting

variable {behind : Option TokenKind} {tokens : List Token}

theorem kindBehind_append (behind : Option TokenKind) (left right : List Token) :
    kindBehind behind (left ++ right) = kindBehind (kindBehind behind left) right := by
  induction left generalizing behind with
  | nil => rfl
  | cons token left ih => exact ih (some token.kind)

theorem looseOpenings_append (behind : Option TokenKind) (left right : List Token) :
    looseOpenings behind (left ++ right) =
      looseOpenings behind left + looseOpenings (kindBehind behind left) right := by
  induction left generalizing behind with
  | nil => simp [looseOpenings, kindBehind]
  | cons token left ih =>
      rw [List.cons_append, looseOpenings, ih, looseOpenings, kindBehind, Nat.add_assoc]

theorem looseOpenings_cons {token : Token} (kind : token.kind ≠ .groupOpen)
    (behind : Option TokenKind) (rest : List Token) :
    looseOpenings behind (token :: rest) = looseOpenings (some token.kind) rest := by
  simp [looseOpenings, kind]

/-- The token before matters to a parenthesis only. -/
theorem looseOpenings_bare (bare : firstKind tokens ≠ some .groupOpen)
    (behind : Option TokenKind) :
    looseOpenings behind tokens = looseOpenings none tokens := by
  cases tokens with
  | nil => rfl
  | cons token rest =>
      have kind : token.kind ≠ .groupOpen := fun same => bare (congrArg some same)
      rw [looseOpenings_cons kind, looseOpenings_cons kind]

theorem looseOpenings_free (free : asksForGroup behind = false) :
    looseOpenings behind tokens = looseOpenings none tokens := by
  cases tokens with
  | nil => rfl
  | cons token rest =>
      rw [looseOpenings, looseOpenings, free]
      rfl

theorem looseOpenings_le_succ (behind : Option TokenKind) (tokens : List Token) :
    looseOpenings none tokens ≤ looseOpenings behind tokens + 1 := by
  cases tokens with
  | nil => exact Nat.zero_le _
  | cons token rest =>
      simp only [looseOpenings]
      split <;> omega

theorem looseOpenings_opening {opening : Token} (opens : opening.kind = .groupOpen)
    (rest : List Token) :
    looseOpenings none (opening :: rest) = 1 + looseOpenings none rest := by
  rw [looseOpenings, opens, looseOpenings_free rfl]
  rfl

/-- Where a parenthesis is asked for it does not count. -/
theorem looseOpenings_asked {opening : Token} (opens : opening.kind = .groupOpen)
    (asks : asksForGroup behind = true) (rest : List Token) :
    looseOpenings behind (opening :: rest) = looseOpenings none rest := by
  have free : looseOpenings (some .groupOpen) rest = looseOpenings none rest :=
    looseOpenings_free rfl
  rw [looseOpenings, opens, asks, free]
  exact Nat.zero_add _

theorem looseOpenings_closing {closing : Token} (closes : closing.kind = .groupClose)
    (behind : Option TokenKind) (tokens : List Token) :
    looseOpenings behind (tokens ++ [closing]) = looseOpenings behind tokens := by
  rw [looseOpenings_append, looseOpenings_cons (by simp [closes])]
  rfl

/-- What stands behind an operator is counted by itself. -/
theorem looseOpenings_operator {operator : Token} (kind : operator.kind ≠ .groupOpen)
    (free : asksForGroup (some operator.kind) = false) (before after : List Token) :
    looseOpenings behind (before ++ operator :: after) =
      looseOpenings behind before + looseOpenings none after := by
  rw [looseOpenings_append, looseOpenings_cons kind, looseOpenings_free free]

end Counting

/-! What is read -/

section Reading

variable {field : String} {clause : Clause} {tokens : List Token} {tree : Expr}
  {next : Option TokenKind} {levels : Nat}

theorem asksForGroup_atom {token : Token} {atom : Atom} (found : token.atom? = some atom) :
    asksForGroup (some token.kind) = false := by
  rcases Parse.atom_cases found with ⟨kind, -⟩ | ⟨kind, -⟩ <;> rw [kind] <;> rfl

theorem kind_atom {token : Token} {atom : Atom} (found : token.atom? = some atom) :
    token.kind ≠ .groupOpen := by
  rcases Parse.atom_cases found with ⟨kind, -⟩ | ⟨kind, -⟩ <;> rw [kind] <;> exact nofun

theorem ReadsValue.closes (reads : ReadsValue field tokens tree next)
    (behind : Option TokenKind) : asksForGroup (kindBehind behind tokens) = false := by
  cases reads with
  | term kind | phrase kind | regex kind =>
      rw [kindBehind, kindBehind, kind]
      rfl
  | range _ _ _ _ closes =>
      simp only [kindBehind, closes]
      rfl
  | comparison _ _ bounded _ => exact asksForGroup_atom bounded

/-- The last token of a clause asks for no group. -/
theorem Reads.closes (reads : Reads field clause tokens tree next levels)
    (behind : Option TokenKind) : asksForGroup (kindBehind behind tokens) = false := by
  induction reads generalizing behind with
  | ofGroup _ ih | ofDisjunction _ _ _ ih | first _ ih | last _ _ ih | paren _ ih =>
      exact ih behind
  | group _ _ closes _ =>
      rw [kindBehind, kindBehind_append, kindBehind, kindBehind, closes]
      rfl
  | or _ _ _ _ ih | and _ _ _ _ ih =>
      rw [kindBehind_append]
      exact ih _
  | adjacent _ _ _ ih =>
      rw [kindBehind_append]
      exact ih _
  | not _ _ ih => exact ih _
  | word kind | phrase kind =>
      rw [kindBehind, kindBehind, kind]
      rfl
  | value _ _ found => exact found.closes _
  | fieldGroup _ _ _ ih => exact ih _

/-- The tokens have a parenthesis for each that the tree is printed with in the place of
the clause. -/
def Covers (clause : Clause) (tokens : List Token) (tree : Expr) : Prop :=
  match clause with
  | .expression => ∀ behind, tree.parenthesizedSides ≤ looseOpenings behind tokens
  | .group => tree.parenthesizedSides < looseOpenings none tokens
  | .disjunction => tree.parenthesizedSides ≤ looseOpenings none tokens
  | .chain => tree.isOr.toNat + tree.parenthesizedSides ≤ looseOpenings none tokens
  | .factor => tree.isBinary.toNat + tree.parenthesizedSides ≤ looseOpenings none tokens

theorem ReadsValue.sides_eq (reads : ReadsValue field tokens tree next) :
    tree.isBinary = false ∧ tree.parenthesizedSides = 0 := by
  cases reads <;> exact ⟨rfl, rfl⟩

theorem isOr_le_isBinary (tree : Expr) : tree.isOr.toNat ≤ tree.isBinary.toNat := by
  cases alternatives : tree.isOr with
  | false => exact Nat.zero_le _
  | true => rw [Expr.isBinary_of_isOr alternatives]

-- By induction on the reading. A side that needs parentheses was read as a group, since
-- nothing else of its kind can stand there, and the opening token of a group pays for one
-- pair; only behind a NOT or a colon this token does not count, but there it need not pay.
theorem Reads.covers (reads : Reads field clause tokens tree next levels) :
    Covers clause tokens tree := by
  induction reads with
  | @ofGroup tokens tree _ _ _ ih =>
      intro behind
      have paid : tree.parenthesizedSides < looseOpenings none tokens := ih
      exact Nat.le_of_lt_succ (Nat.lt_of_lt_of_le paid (looseOpenings_le_succ behind tokens))
  | @ofDisjunction tokens tree _ _ _ bare _ ih =>
      intro behind
      have paid : tree.parenthesizedSides ≤ looseOpenings none tokens := ih
      rwa [looseOpenings_bare bare]
  | @group opening closing tokens tree _ _ opens _ closes ih =>
      have paid : tree.parenthesizedSides ≤ looseOpenings none tokens := ih none
      show tree.parenthesizedSides < looseOpenings none (opening :: (tokens ++ [closing]))
      rw [looseOpenings_opening opens, looseOpenings_closing closes]
      omega
  | first _ ih => exact Nat.le_trans (Nat.le_add_left _ _) ih
  | @or operator before after left right _ _ _ _ written _ ihLeft ihRight =>
      show Expr.parenthesizedSides _ ≤ looseOpenings none (before ++ operator :: after)
      rw [Connective.explicitOr, Expr.sides_or, looseOpenings_operator (by simp [written])
        (by rw [written]; rfl)]
      exact Nat.add_le_add ihLeft ihRight
  | @adjacent before after left right _ _ _ first _ ihLeft ihRight =>
      show Expr.parenthesizedSides _ ≤ looseOpenings none (before ++ after)
      rw [Connective.implicitOr, Expr.sides_or, looseOpenings_append,
        looseOpenings_free (first.closes none)]
      exact Nat.add_le_add ihLeft ihRight
  | @last _ tree _ _ _ _ ih =>
      exact Nat.le_trans (Nat.add_le_add_right (isOr_le_isBinary tree) _) ih
  | @and operator before after left right _ _ _ _ written _ ihLeft ihRight =>
      show 0 + Expr.parenthesizedSides _ ≤ looseOpenings none (before ++ operator :: after)
      rw [Nat.zero_add, Expr.sides_and, looseOpenings_operator (by simp [written])
        (by rw [written]; rfl)]
      exact Nat.add_le_add ihLeft ihRight
  | @not operator tokens tree _ _ written _ ih =>
      show 0 + tree.parenthesizedSides ≤ looseOpenings none (operator :: tokens)
      rw [Nat.zero_add, looseOpenings_cons (by simp [written])]
      exact ih _
  | @paren tokens tree _ _ _ ih =>
      have paid : tree.parenthesizedSides < looseOpenings none tokens := ih
      have one := Bool.toNat_le tree.isBinary
      show tree.isBinary.toNat + tree.parenthesizedSides ≤ looseOpenings none tokens
      omega
  | word | phrase => exact Nat.zero_le _
  | value _ _ found =>
      simp only [Covers, found.sides_eq]
      exact Nat.zero_le _
  | @fieldGroup name colon tokens tree _ _ names separates _ ih =>
      have paid : tree.parenthesizedSides < looseOpenings none tokens := ih
      have fewer := looseOpenings_le_succ (some colon.kind) tokens
      show 0 + tree.parenthesizedSides ≤ looseOpenings none (name :: colon :: tokens)
      rw [looseOpenings_cons (by simp [names]), looseOpenings_cons (by simp [separates])]
      omega

end Reading

/-! What is printed -/

section Printing

theorem looseOpenings_wrapped (needed : Bool) (tokens : List Token) :
    looseOpenings none (wrapped needed tokens) = needed.toNat + looseOpenings none tokens := by
  cases needed with
  | false => exact (Nat.zero_add _).symm
  | true =>
      show looseOpenings none (Token.opening :: (tokens ++ [Token.closing])) = _
      rw [looseOpenings_opening rfl, looseOpenings_closing rfl]
      rfl

theorem looseOpenings_leaf (field : String) {found : Token} (kind : found.kind ≠ .groupOpen) :
    looseOpenings none (fieldTokens field ++ [found]) = 0 := by
  rcases Expr.fieldTokens_append field found with ⟨same, -⟩ | ⟨same, -⟩ <;> rw [same] <;>
    simp [looseOpenings, kind, Token.name, Token.colon]

theorem closes_wrapped {tokens : List Token}
    (closes : ∀ behind, asksForGroup (kindBehind behind tokens) = false) (needed : Bool)
    (behind : Option TokenKind) :
    asksForGroup (kindBehind behind (wrapped needed tokens)) = false := by
  cases needed with
  | false => exact closes behind
  | true =>
      show asksForGroup (kindBehind _ (tokens ++ [Token.closing])) = false
      rw [kindBehind_append]
      rfl

/-- The last token of what is printed asks for no group. -/
theorem Expr.tokens_close (e : Expr) (behind : Option TokenKind) :
    asksForGroup (kindBehind behind e.tokens) = false := by
  induction e generalizing behind with
  | term field value =>
      rw [tokens_term, kindBehind_append]
      rfl
  | phrase field value =>
      rw [tokens_phrase, kindBehind_append]
      rfl
  | regex field value =>
      rw [tokens_regex, kindBehind_append]
      rfl
  | range field lower upper => rfl
  | comparison field bound => exact asksForGroup_atom (Atom.token_atom bound.atom)
  | group field body ih =>
      rw [tokens_group]
      exact closes_wrapped ih true (some .fieldSeparator)
  | not spelling operand ih =>
      rw [tokens_not]
      exact closes_wrapped ih true (some .logicalNot)
  | binary operator left right _ ihRight =>
      rw [tokens_binary, kindBehind_append, kindBehind_append]
      exact closes_wrapped ihRight _ _

theorem Connective.kind_token (operator : Connective) :
    operator.token.kind ≠ .groupOpen ∧ asksForGroup (some operator.token.kind) = false := by
  cases operator <;> exact ⟨nofun, rfl⟩

/-- Printing writes one such parenthesis for each side that needs it. -/
theorem Expr.looseOpenings_tokens (e : Expr) :
    looseOpenings none e.tokens = e.parenthesizedSides := by
  have named (name : String) (rest : List Token) :
      looseOpenings none (.name name :: .colon :: rest) =
        looseOpenings (some .fieldSeparator) rest := by
    rw [looseOpenings_cons (by simp [Token.name]), looseOpenings_cons (by simp [Token.colon])]
    rfl
  induction e with
  | term field value =>
      rw [tokens_term, looseOpenings_leaf field (by simp [Token.name]), parenthesizedSides]
  | phrase field value =>
      rw [tokens_phrase, looseOpenings_leaf field (by simp), parenthesizedSides]
  | regex field value =>
      rw [tokens_regex, looseOpenings_leaf field (by simp), parenthesizedSides]
  | range field lower upper =>
      have low := kind_atom (Atom.token_atom lower.atom)
      have high := kind_atom (Atom.token_atom upper.atom)
      simp [tokens_range, named, looseOpenings, low, high, parenthesizedSides,
        Relation.openingToken, Relation.closingToken]
  | comparison field bound =>
      have limit := kind_atom (Atom.token_atom bound.atom)
      simp [tokens_comparison, named, looseOpenings, limit, parenthesizedSides, Relation.token]
  | group field body ih =>
      rw [tokens_group, named, parenthesizedSides, ← ih]
      show looseOpenings _ (Token.opening :: (body.tokens ++ [Token.closing])) = _
      rw [looseOpenings_asked rfl rfl, looseOpenings_closing rfl]
  | not spelling operand ih =>
      rw [tokens_not, looseOpenings_cons (by simp [Spelling.notToken]), parenthesizedSides, ← ih]
      show looseOpenings _ (Token.opening :: (operand.tokens ++ [Token.closing])) = _
      rw [looseOpenings_asked rfl rfl, looseOpenings_closing rfl]
  | binary operator left right ihLeft ihRight =>
      have closes := closes_wrapped left.tokens_close (parenthesizesLeft operator left) none
      rw [tokens_binary, parenthesizedSides, ← ihLeft, ← ihRight, ← looseOpenings_wrapped,
        ← looseOpenings_wrapped, Connective.tokens]
      cases operator.isImplicit with
      | true => exact (looseOpenings_append ..).trans (congrArg _ (looseOpenings_free closes))
      | false =>
          obtain ⟨kind, free⟩ := operator.kind_token
          exact looseOpenings_operator kind free _ _

end Printing

/-- Printed, a tree has as many parentheses around sides of operators as need them, and
tokens that mean the tree never have fewer. What is printed is the row of pieces whose tokens
are counted. -/
theorem parenthesizedSides_le_looseOpenings {config : Config} {tokens : List SpannedToken}
    {query : Query} (accepted : parseTokens config tokens = .ok query) :
    query.print.toList = glue query.body.pieces ∧
      looseOpenings none query.body.tokens = query.body.parenthesizedSides ∧
      query.body.parenthesizedSides ≤ looseOpenings none (tokens.map (·.token)) := by
  obtain ⟨levels, reads, -⟩ := parseTokens_ok_iff.mp accepted
  exact ⟨query.body.print_pieces, query.body.looseOpenings_tokens, reads.covers none⟩

def lavishTokens : List SpannedToken :=
  (Tokenizer.ofString "x OR ((a OR b)) AND !(c (d)) OR f:(y (e f) AND g)").drain.1

/-- What these tokens mean, printed as `x OR (a OR b) AND !(c d) OR f:(y (e f) AND g)`. -/
def lavishQuery : Query :=
  ⟨.binary (.or .word false)
    (.binary (.or .word false) (.term "*" "x")
      (.binary (.and .word) (.binary (.or .word false) (.term "*" "a") (.term "*" "b"))
        (.not .symbol (.binary (.or .word true) (.term "*" "c") (.term "*" "d")))))
    (.group "f" (.binary (.or .word true) (.term "*" "y")
      (.binary (.and .word) (.binary (.or .word true) (.term "*" "e") (.term "*" "f"))
        (.term "*" "g"))))⟩

theorem lavishTokens_spare :
    parseTokens {} lavishTokens = .ok lavishQuery ∧
      lavishQuery.print.toList = glue lavishQuery.body.pieces ∧
      looseOpenings none lavishQuery.body.tokens = lavishQuery.body.parenthesizedSides ∧
      lavishQuery.body.parenthesizedSides ≤ looseOpenings none (lavishTokens.map (·.token)) ∧
      lavishQuery.body.parenthesizedSides = 2 ∧
      looseOpenings none (lavishTokens.map (·.token)) = 4 := by
  have accepted : parseTokens {} lavishTokens = .ok lavishQuery := by cbv
  obtain ⟨written, printed, fewer⟩ := parenthesizedSides_le_looseOpenings accepted
  exact ⟨accepted, written, printed, fewer, rfl, by cbv⟩

end SearchQuery
