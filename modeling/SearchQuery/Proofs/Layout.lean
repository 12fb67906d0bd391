import Mathlib.Data.List.Chain
import SearchQuery.Proofs.Lexing
import SearchQuery.Query.Printer

/-!
Printed text as a row of tokens and single blanks, and when such a row is read back
token by token: each token is one of its kind, and no two that stand side by side
run into each other.
-/

namespace SearchQuery

inductive Piece where
  | token (found : Token)
  | blank
  deriving DecidableEq, Repr

namespace Piece

def chars : Piece → List Char
  | token found => found.text.toList
  | blank => [' ']

def token? : Piece → Option Token
  | token found => some found
  | blank => none

end Piece

def glue (pieces : List Piece) : List Char := pieces.flatMap Piece.chars

def tokensOf (pieces : List Piece) : List Token := pieces.filterMap Piece.token?

section Rows

variable {pieces : List Piece} {token : Token}

@[simp] theorem glue_nil : glue [] = [] := rfl

@[simp] theorem glue_cons (piece : Piece) : glue (piece :: pieces) = piece.chars ++ glue pieces :=
  rfl

@[simp] theorem glue_append (others : List Piece) :
    glue (pieces ++ others) = glue pieces ++ glue others := List.flatMap_append

@[simp] theorem tokensOf_nil : tokensOf [] = [] := rfl

@[simp] theorem tokensOf_token : tokensOf (.token token :: pieces) = token :: tokensOf pieces := rfl

@[simp] theorem tokensOf_blank : tokensOf (.blank :: pieces) = tokensOf pieces := rfl

@[simp] theorem tokensOf_append (others : List Piece) :
    tokensOf (pieces ++ others) = tokensOf pieces ++ tokensOf others := List.filterMap_append

end Rows

/-! The pieces of a printed query -/

namespace Token

def name (text : String) : Token := ⟨.identifier, text⟩

def colon : Token := ⟨.fieldSeparator, ":"⟩

def opening : Token := ⟨.groupOpen, "("⟩

def closing : Token := ⟨.groupClose, ")"⟩

end Token

def fieldPieces (field : String) : List Piece :=
  if isImplicitField field then [] else [.token (.name field), .token .colon]

def Atom.token : Atom → Token
  | .term value => .name value
  | .phrase value => ⟨.quotedString, quoteValue value⟩

def Relation.token (relation : Relation) : Token := ⟨.relationalOperator, relation.symbol⟩

def Relation.openingToken (relation : Relation) : Token := ⟨.rangeOpen, relation.opening⟩

def Relation.closingToken (relation : Relation) : Token := ⟨.rangeClose, relation.closing⟩

def Connective.token (operator : Connective) : Token :=
  ⟨if operator.isAnd then .logicalAnd else .logicalOr, operator.text⟩

def Connective.pieces (operator : Connective) : List Piece :=
  if operator.isImplicit then [.blank] else [.blank, .token operator.token, .blank]

def Spelling.notToken (spelling : Spelling) : Token := ⟨.logicalNot, spelling.notText⟩

def Spelling.notPieces : Spelling → List Piece
  | .word => [.token (Spelling.notToken .word), .blank]
  | .symbol => [.token (Spelling.notToken .symbol)]

def enclosed (pieces : List Piece) : List Piece :=
  .token .opening :: (pieces ++ [.token .closing])

def enclosedIf (needed : Bool) (pieces : List Piece) : List Piece :=
  if needed then enclosed pieces else pieces

namespace Expr

def pieces : Expr → List Piece
  | .term field value => fieldPieces field ++ [.token (.name value)]
  | .phrase field value => fieldPieces field ++ [.token ⟨.quotedString, quoteValue value⟩]
  | .regex field value => fieldPieces field ++ [.token ⟨.regex, value⟩]
  | .group field body => .token (.name field) :: .token .colon :: enclosed body.pieces
  | .range field lower upper =>
      [.token (.name field), .token .colon, .token lower.relation.openingToken,
       .token lower.atom.token, .blank, .token ⟨.rangeTo, "TO"⟩, .blank,
       .token upper.atom.token, .token upper.relation.closingToken]
  | .comparison field bound =>
      [.token (.name field), .token .colon, .token bound.relation.token,
       .token bound.atom.token]
  | .not spelling operand => spelling.notPieces ++ enclosed operand.pieces
  | .binary operator left right =>
      enclosedIf (parenthesizesLeft operator left) left.pieces ++
        (operator.pieces ++ enclosedIf (parenthesizesRight right) right.pieces)

def tokens (e : Expr) : List Token := tokensOf e.pieces

end Expr

theorem glue_enclosed (pieces : List Piece) :
    glue (enclosed pieces) = '(' :: (glue pieces ++ [')']) := by
  simp [enclosed, Token.opening, Token.closing, Piece.chars]

theorem glue_enclosedIf (needed : Bool) (pieces : List Piece) (text : String)
    (same : text.toList = glue pieces) :
    (parenthesized needed text).toList = glue (enclosedIf needed pieces) := by
  cases needed <;> simp [parenthesized, enclosedIf, glue_enclosed, same]

theorem glue_fieldPieces (field : String) :
    (fieldPart field).toList = glue (fieldPieces field) := by
  unfold fieldPart fieldPieces
  split <;> simp [Token.name, Token.colon, Piece.chars]

theorem glue_connective (operator : Connective) :
    operator.between.toList = glue operator.pieces := by
  unfold Connective.between Connective.pieces
  split <;> simp [Connective.token, Piece.chars]

theorem Atom.print_eq (atom : Atom) : atom.print = atom.token.text := by
  cases atom <;> rfl

theorem Expr.print_pieces (e : Expr) : e.print.toList = glue e.pieces := by
  induction e with
  | binary operator left right leftEq rightEq =>
      simp only [print, pieces, String.toList_append, glue_append, glue_connective,
        List.append_assoc, glue_enclosedIf _ _ _ leftEq, glue_enclosedIf _ _ _ rightEq]
  | not spelling operand same =>
      cases spelling <;>
        simp [print, pieces, Spelling.negation, Spelling.notPieces, Spelling.notToken,
          Spelling.notText, glue_enclosed, Piece.chars, same]
  | group field body same =>
      simp [print, pieces, glue_enclosed, same, Token.name, Token.colon, Piece.chars]
  | term field value | phrase field value | regex field value =>
      simp [print, pieces, glue_fieldPieces, Token.name, Piece.chars]
  | range field lower upper =>
      simp [print, pieces, Atom.print_eq, Token.name, Token.colon, Piece.chars,
        Relation.openingToken, Relation.closingToken]
  | comparison field bound =>
      simp [print, pieces, Atom.print_eq, Token.name, Token.colon, Piece.chars, Relation.token]

/-! Reading a row of pieces back -/

/-- Each token of the row is taken as it stands, with this text behind the row. -/
def Stands : List Piece → List Char → Prop
  | [], _ => True
  | .blank :: pieces, rest => Stands pieces rest
  | .token found :: pieces, rest =>
      found.Spelt ∧ Apart found.kind found.text.toList (glue pieces ++ rest) ∧ Stands pieces rest

theorem lexes_glue {pieces : List Piece} {rest : List Char} {tokens : List Token}
    (stands : Stands pieces rest) :
    Lexes (glue pieces ++ rest) tokens ↔
      ∃ later, tokens = tokensOf pieces ++ later ∧ Lexes rest later := by
  induction pieces generalizing tokens with
  | nil => simp
  | cons piece pieces ih =>
      cases piece with
      | blank => exact (lexes_blank (by decide)).trans (ih stands)
      | token found =>
          obtain ⟨spelt, apart, others⟩ := stands
          rw [glue_cons, List.append_assoc]
          refine (lexes_append spelt apart).trans ?_
          constructor
          · rintro ⟨later, rfl, lexes⟩
            obtain ⟨last, rfl, ends⟩ := (ih others).mp lexes
            exact ⟨last, by simp, ends⟩
          · rintro ⟨last, rfl, ends⟩
            exact ⟨tokensOf pieces ++ last, by simp, (ih others).mpr ⟨last, rfl, ends⟩⟩

/-- The two do not run into each other where they stand side by side. -/
def Fits : Piece → Piece → Prop
  | .token before, .token after =>
      (before.kind = .identifier ∨ before.text.toList ∈ keywords → Boundary after.text.toList) ∧
        (before.text.toList = ['<'] ∨ before.text.toList = ['>'] →
          after.text.toList.head? ≠ some '=')
  | _, _ => True

theorem glue_head {row : List Piece} (spelt : ∀ found ∈ tokensOf row, found.Spelt) :
    (glue row).head? = row.head?.bind fun piece => piece.chars.head? := by
  cases row with
  | nil => rfl
  | cons piece row =>
      cases piece with
      | blank => rfl
      | token found =>
          obtain ⟨c, cs, same, -⟩ := lexeme_head (spelt found (by simp))
          simp [Piece.chars, same]

theorem mem_glue {row : List Piece} {c : Char} (member : c ∈ glue row) :
    c = ' ' ∨ ∃ found ∈ tokensOf row, c ∈ found.text.toList := by
  obtain ⟨piece, inside, part⟩ := List.mem_flatMap.mp member
  cases piece with
  | blank => exact .inl (List.mem_singleton.mp part)
  | token found => exact .inr ⟨found, List.mem_filterMap.mpr ⟨_, inside, rfl⟩, part⟩

theorem apart_of_fits {found : Token} {row : List Piece}
    (fits : ∀ piece, row.head? = some piece → Fits (.token found) piece)
    (spelt : ∀ later ∈ tokensOf row, later.Spelt)
    (clears : ∀ later ∈ tokensOf row, Clears found later) :
    Apart found.kind found.text.toList (glue row) where
  boundary word c head := by
    rw [glue_head spelt] at head
    obtain ⟨piece, first, begins⟩ := Option.bind_eq_some_iff.mp head
    cases piece with
    | blank =>
        cases begins
        decide
    | token after => exact (fits _ first).1 word c begins
  unequal sign head := by
    rw [glue_head spelt] at head
    obtain ⟨piece, first, begins⟩ := Option.bind_eq_some_iff.mp head
    cases piece with
    | blank => cases begins
    | token after => exact (fits _ first).2 sign begins
  unclosed word c head either member := by
    rcases mem_glue member with rfl | ⟨later, behind, inside⟩
    · rcases either with other | other <;> cases other
    · exact clears later behind word c head either inside

theorem stands_of_fits {pieces others : List Piece}
    (spelt : ∀ found ∈ tokensOf (pieces ++ others), found.Spelt)
    (clears : (tokensOf (pieces ++ others)).Pairwise Clears)
    (fits : (pieces ++ others.take 1).IsChain Fits) : Stands pieces (glue others) := by
  induction pieces with
  | nil => trivial
  | cons piece pieces ih =>
      rw [List.cons_append, List.isChain_cons] at fits
      cases piece with
      | blank => exact ih spelt clears fits.2
      | token found =>
          rw [List.cons_append, tokensOf_token] at spelt clears
          rw [List.forall_mem_cons] at spelt
          rw [List.pairwise_cons] at clears
          -- the row given to the chain stops one piece into what follows, which is all it needs
          have beside : ∀ piece, (pieces ++ others).head? = some piece →
              Fits (.token found) piece := by
            intro piece first
            apply fits.1
            cases pieces with
            | nil => cases others <;> simp_all
            | cons => exact first
          have apart := apart_of_fits beside spelt.2 clears.1
          rw [glue_append] at apart
          exact ⟨spelt.1, apart, ih spelt.2 clears.2 fits.2⟩

theorem lexes_row {row : List Piece} (spelt : ∀ found ∈ tokensOf row, found.Spelt)
    (clears : (tokensOf row).Pairwise Clears) (fits : row.IsChain Fits) :
    Lexes (glue row) (tokensOf row) := by
  have ends : row ++ [] = row := List.append_nil _
  have stands : Stands row (glue []) := by
    apply stands_of_fits
    · rwa [ends]
    · rwa [ends]
    · rwa [List.take_nil, ends]
  have whole := (lexes_glue stands).mpr ⟨[], rfl, .done nofun⟩
  rwa [glue_nil, List.append_nil, List.append_nil] at whole

/-! Where printed pieces can run into each other -/

def Expr.comparisons : Expr → List Bound
  | .binary _ left right => left.comparisons ++ right.comparisons
  | .not _ operand => operand.comparisons
  | .group _ body => body.comparisons
  | .comparison _ bound => [bound]
  | .term .. | .phrase .. | .regex .. | .range .. => []

def Piece.Opens (piece : Piece) : Prop := ∀ after, Fits piece after

def Piece.Closes (piece : Piece) : Prop := ∀ before, Fits before piece

@[simp] theorem opens_blank : Piece.blank.Opens := fun _ => trivial

@[simp] theorem closes_blank : Piece.blank.Closes := fun before => by cases before <;> trivial

theorem opens_of_symbol {found : Token} (named : found.kind ≠ .identifier)
    (symbol : found.text.toList ∉ keywords)
    (ends : found.text.toList ≠ ['<'] ∧ found.text.toList ≠ ['>']) : (Piece.token found).Opens := by
  intro after
  cases after with
  | blank => trivial
  | token after =>
      exact ⟨fun word => (word.elim named symbol).elim, fun sign => (sign.elim ends.1 ends.2).elim⟩

theorem closes_of_symbol {found : Token} (bounded : Boundary found.text.toList)
    (other : found.text.toList.head? ≠ some '=') : (Piece.token found).Closes := by
  intro before
  cases before with
  | blank => trivial
  | token before => exact ⟨fun _ => bounded, fun _ => other⟩

@[simp] theorem opens_colon : (Piece.token .colon).Opens :=
  opens_of_symbol nofun (by decide) (by decide)

@[simp] theorem opens_opening : (Piece.token .opening).Opens :=
  opens_of_symbol nofun (by decide) (by decide)

@[simp] theorem opens_bang : (Piece.token (Spelling.notToken .symbol)).Opens :=
  opens_of_symbol nofun (by decide) (by decide)

@[simp] theorem opens_bracket (relation : Relation) :
    (Piece.token relation.openingToken).Opens := by
  cases relation <;> exact opens_of_symbol nofun (by decide) (by decide)

theorem boundary_singleton {c : Char} (other : isIdentifierChar c = false) : Boundary [c] := by
  rintro _ ⟨⟩
  exact other

@[simp] theorem closes_colon : (Piece.token .colon).Closes :=
  closes_of_symbol (boundary_singleton (by decide)) (by decide)

@[simp] theorem closes_closing : (Piece.token .closing).Closes :=
  closes_of_symbol (boundary_singleton (by decide)) (by decide)

@[simp] theorem closes_bracket (relation : Relation) :
    (Piece.token relation.closingToken).Closes := by
  cases relation <;> exact closes_of_symbol (boundary_singleton (by decide)) (by decide)

section Chains

variable {R : Piece → Piece → Prop}
  (loose : ∀ before after, before.Opens ∨ after.Closes → R before after)

include loose

theorem chain_enclosed (row : List Piece) : (enclosed row).IsChain R ↔ row.IsChain R := by
  have opened := fun after => loose _ after (.inl opens_opening)
  have closed := fun before => loose before _ (.inr closes_closing)
  simp [enclosed, List.isChain_cons, List.isChain_append, opened, closed]

theorem chain_enclosedIf (needed : Bool) (row : List Piece) :
    (enclosedIf needed row).IsChain R ↔ row.IsChain R := by
  cases needed
  · rfl
  · exact chain_enclosed loose row

theorem chain_connective (operator : Connective) (left right : List Piece) :
    (left ++ (operator.pieces ++ right)).IsChain R ↔ left.IsChain R ∧ right.IsChain R := by
  have opened := fun after => loose _ after (.inl opens_blank)
  have closed := fun before => loose before _ (.inr closes_blank)
  unfold Connective.pieces
  split <;> simp [List.isChain_append, List.isChain_cons, opened, closed]

theorem chain_field (field : String) (row : List Piece) :
    (fieldPieces field ++ row).IsChain R ↔ row.IsChain R := by
  have opened := fun after => loose _ after (.inl opens_colon)
  have closed := fun before => loose before _ (.inr closes_colon)
  unfold fieldPieces
  split <;> simp [List.isChain_cons, opened, closed]

theorem chain_pieces (e : Expr) :
    e.pieces.IsChain R ↔
      ∀ bound ∈ e.comparisons, R (.token bound.relation.token) (.token bound.atom.token) := by
  have colonOpens := fun after => loose _ after (.inl opens_colon)
  have colonCloses := fun before => loose before _ (.inr closes_colon)
  have blankOpens := fun after => loose _ after (.inl opens_blank)
  have blankCloses := fun before => loose before _ (.inr closes_blank)
  induction e with
  | binary operator left right leftChain rightChain =>
      simp only [Expr.pieces, Expr.comparisons, chain_connective loose, chain_enclosedIf loose,
        leftChain, rightChain, List.forall_mem_append]
  | not spelling operand chain =>
      have bangOpens := fun after => loose _ after (.inl opens_bang)
      have body := chain_enclosed loose operand.pieces
      cases spelling <;>
        simp [Expr.pieces, Expr.comparisons, Spelling.notPieces, List.isChain_cons, blankOpens,
          blankCloses, bangOpens, body, chain]
  | group field body chain =>
      simp [Expr.pieces, Expr.comparisons, List.isChain_cons, colonOpens, colonCloses,
        chain_enclosed loose, chain]
  | term field value | phrase field value | regex field value =>
      simp [Expr.pieces, Expr.comparisons, chain_field loose]
  | range field lower upper =>
      have opened := fun after => loose _ after (.inl (opens_bracket lower.relation))
      have closed := fun before => loose before _ (.inr (closes_bracket upper.relation))
      simp [Expr.pieces, Expr.comparisons, List.isChain_cons, colonOpens, colonCloses, blankOpens,
        blankCloses, opened, closed]
  | comparison field bound =>
      simp [Expr.pieces, Expr.comparisons, List.isChain_cons, colonOpens, colonCloses]

end Chains

/-- A bare bound that begins with the sign which would make its relation inclusive. -/
def Bound.Glues (bound : Bound) : Prop :=
  (bound.relation = .gt ∨ bound.relation = .lt) ∧ bound.atom.isQuoted = false ∧
    bound.atom.value.toList.head? = some '='

instance (bound : Bound) : Decidable bound.Glues := inferInstanceAs (Decidable (_ ∧ _))

def Expr.Unglued (e : Expr) : Prop := ∀ bound ∈ e.comparisons, ¬ bound.Glues

instance (e : Expr) : Decidable e.Unglued :=
  inferInstanceAs (Decidable (∀ bound ∈ e.comparisons, ¬ bound.Glues))

theorem quoteValue_eq (value : String) :
    ∃ quote, (quote = '"' ∧ '"' ∉ value.toList ∨ quote = '\'' ∧ '"' ∈ value.toList) ∧
      (quoteValue value).toList = quote :: (value.toList ++ [quote]) := by
  unfold quoteValue
  by_cases double : '"' ∈ value.toList
  · exact ⟨'\'', .inr ⟨rfl, double⟩, by simp [double]⟩
  · exact ⟨'"', .inl ⟨rfl, double⟩, by simp [double]⟩

theorem fits_comparison_iff (bound : Bound) :
    Fits (.token bound.relation.token) (.token bound.atom.token) ↔ ¬ bound.Glues := by
  obtain ⟨atom, relation⟩ := bound
  cases atom with
  | phrase value =>
      obtain ⟨quote, either, text⟩ := quoteValue_eq value
      have other : quote ≠ '=' := by
        rcases either with ⟨rfl, -⟩ | ⟨rfl, -⟩ <;> decide
      cases relation <;>
        simp [Fits, Relation.token, Relation.symbol, Atom.token, Bound.Glues, Atom.isQuoted,
          keywords, text, other]
  | term value =>
      cases relation <;>
        simp [Fits, Relation.token, Relation.symbol, Atom.token, Token.name, Bound.Glues,
          Atom.isQuoted, Atom.value, keywords]

/-- A row fits, or there is a first place where it does not. -/
theorem chain_or_misfit {R : Piece → Piece → Prop} (row : List Piece) :
    row.IsChain R ∨ ∃ before left right after,
      row = before ++ left :: right :: after ∧ (before ++ [left]).IsChain R ∧ ¬ R left right := by
  induction row with
  | nil => exact .inl .nil
  | cons first row ih =>
      cases row with
      | nil => exact .inl (.singleton first)
      | cons second row =>
          by_cases near : R first second
          · rcases ih with chain | ⟨before, left, right, after, same, chain, misfit⟩
            · exact .inl (.cons_cons near chain)
            · refine .inr ⟨first :: before, left, right, after, by rw [same]; rfl, ?_, misfit⟩
              rw [List.cons_append, List.isChain_cons]
              refine ⟨fun next head => ?_, chain⟩
              have begins : next = second := by
                cases before with
                | nil => simp_all
                | cons => simp_all
              exact begins ▸ near
          · exact .inr ⟨[], first, second, row, rfl, .singleton first, near⟩

theorem fits_of_loose (before after : Piece) (either : before.Opens ∨ after.Closes) :
    Fits before after :=
  either.elim (· after) (· before)

theorem fits_pieces {e : Expr} : e.pieces.IsChain Fits ↔ e.Unglued := by
  rw [chain_pieces fits_of_loose]
  exact forall₂_congr fun bound _ => fits_comparison_iff bound

def FitsOrGlues (before after : Piece) : Prop :=
  Fits before after ∨ ∃ bound : Bound, bound.Glues ∧
    before = .token bound.relation.token ∧ after = .token bound.atom.token

theorem fitsOrGlues_pieces (e : Expr) : e.pieces.IsChain FitsOrGlues := by
  apply (chain_pieces (fun before after either => .inl (fits_of_loose before after either)) e).mpr
  intro bound _
  by_cases glues : bound.Glues
  · exact .inr ⟨bound, glues, rfl, rfl⟩
  · exact .inl ((fits_comparison_iff bound).mpr glues)

theorem first_glued {e : Expr} (glued : ¬ e.Unglued) :
    ∃ (before : List Piece) (bound : Bound) (after : List Piece),
      e.pieces = before ++ .token bound.relation.token :: .token bound.atom.token :: after ∧
      (before ++ [Piece.token bound.relation.token]).IsChain Fits ∧ bound.Glues := by
  -- up to the first misfit all fits, and by the weaker chain the misfit is a glued bound
  rcases chain_or_misfit (R := Fits) e.pieces with
    chain | ⟨before, left, right, after, same, chain, misfit⟩
  · exact absurd (fits_pieces.mp chain) glued
  · have near := fitsOrGlues_pieces e
    rw [same, List.isChain_append_cons_cons] at near
    rcases near.2.1 with fits | ⟨bound, glues, rfl, rfl⟩
    · exact absurd fits misfit
    · exact ⟨before, bound, after, same, chain, glues⟩

/-- The relation swallows the first character of a bound that glues to it. -/
theorem Bound.Glues.swallows {bound : Bound} (glues : bound.Glues) (after : List Piece) :
    ∃ symbol rest, glue (.token bound.relation.token :: .token bound.atom.token :: after) =
        symbol ++ rest ∧ Lexeme .relationalOperator symbol ∧
      Apart .relationalOperator symbol rest ∧ String.ofList symbol ≠ bound.relation.symbol := by
  obtain ⟨atom, relation⟩ := bound
  obtain ⟨strict, bare, begins⟩ := glues
  cases atom with
  | phrase value => cases bare
  | term value =>
      obtain ⟨cs, text⟩ := List.head?_eq_some_iff.mp begins
      rcases strict with rfl | rfl
      · have other : String.ofList ['>', '='] ≠ ">" := by decide
        refine ⟨['>', '='], cs ++ glue after, ?_, by simp [Lexeme],
          apart_symbol nofun (by decide) (by decide), other⟩
        simp_all [Piece.chars, Relation.token, Relation.symbol, Atom.token, Token.name, Atom.value]
      · have other : String.ofList ['<', '='] ≠ "<" := by decide
        refine ⟨['<', '='], cs ++ glue after, ?_, by simp [Lexeme],
          apart_symbol nofun (by decide) (by decide), other⟩
        simp_all [Piece.chars, Relation.token, Relation.symbol, Atom.token, Token.name, Atom.value]

/-! Printed text and its tokens -/

section Printed

variable {e : Expr} (spelt : ∀ found ∈ e.tokens, found.Spelt) (clears : e.tokens.Pairwise Clears)

include spelt clears

theorem lexes_print (unglued : e.Unglued) : Lexes e.print.toList e.tokens := by
  rw [Expr.print_pieces]
  exact lexes_row spelt clears (fits_pieces.mpr unglued)

/-- Where a bound glues to its relation, the two token lists part there. -/
theorem lexes_print_glued {given : List Token} (glued : ¬ e.Unglued)
    (lexes : Lexes e.print.toList given) :
    ∃ before found relation later after, given = before ++ found :: later ∧
      e.tokens = before ++ Relation.token relation :: after ∧
      found.kind = .relationalOperator ∧ found ≠ relation.token := by
  obtain ⟨before, bound, after, same, chain, glues⟩ := first_glued glued
  have stands : Stands before
      (glue (.token bound.relation.token :: .token bound.atom.token :: after)) := by
    apply stands_of_fits
    · rwa [← same]
    · rwa [← same]
    · exact chain
  rw [Expr.print_pieces, same, glue_append] at lexes
  obtain ⟨last, rfl, ends⟩ := (lexes_glue stands).mp lexes
  obtain ⟨symbol, rest, text, lexeme, apart, other⟩ := glues.swallows after
  rw [text] at ends
  obtain ⟨later, rfl, -⟩ := (lexes_append lexeme apart).mp ends
  refine ⟨_, _, bound.relation, later, bound.atom.token :: tokensOf after, rfl, ?_, rfl, ?_⟩
  · rw [Expr.tokens, same, tokensOf_append, tokensOf_token, tokensOf_token]
  · intro equal
    exact other (congrArg Token.text equal)

end Printed

end SearchQuery
