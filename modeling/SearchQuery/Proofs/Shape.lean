import SearchQuery.Proofs.Layout

/-!
The trees that the grammar can give back. The tokens that such a tree is printed as
read as the tree, and the levels this takes are counted on the tree.
-/

namespace SearchQuery

def wrapped (needed : Bool) (tokens : List Token) : List Token :=
  if needed then Token.opening :: (tokens ++ [Token.closing]) else tokens

def fieldTokens (field : String) : List Token := tokensOf (fieldPieces field)

def Connective.tokens (operator : Connective) : List Token :=
  if operator.isImplicit then [] else [operator.token]

theorem tokensOf_enclosed (pieces : List Piece) :
    tokensOf (enclosed pieces) = Token.opening :: (tokensOf pieces ++ [Token.closing]) := by
  simp [enclosed]

theorem tokensOf_enclosedIf (needed : Bool) (pieces : List Piece) :
    tokensOf (enclosedIf needed pieces) = wrapped needed (tokensOf pieces) := by
  cases needed
  · rfl
  · exact tokensOf_enclosed pieces

theorem tokensOf_connective (operator : Connective) :
    tokensOf operator.pieces = operator.tokens := by
  unfold Connective.pieces Connective.tokens
  split <;> rfl

namespace Expr

def levels : Expr → Nat
  | .binary operator left right =>
      max (left.levels + (parenthesizesLeft operator left).toNat)
        (right.levels + (parenthesizesRight right).toNat + operator.isAnd.toNat)
  | .not _ operand => 2 + operand.levels
  | .group _ body => 1 + body.levels
  | .term .. | .phrase .. | .regex .. | .range .. | .comparison .. => 0

theorem levels_and (spelling : Spelling) (left right : Expr) :
    (binary (.and spelling) left right).levels =
      max (left.levels + left.isBinary.toNat) (right.levels + right.isOr.toNat + 1) := rfl

theorem levels_or (spelling : Spelling) (implicit : Bool) (left right : Expr) :
    (binary (.or spelling implicit) left right).levels =
      max left.levels (right.levels + right.isOr.toNat) := rfl

/-- Printed, it begins with a parenthesis: on the way down the left sides of ORs
comes an AND with a compound left side. -/
def opensWithGroup : Expr → Bool
  | .binary operator left _ => if operator.isAnd then left.isBinary else left.opensWithGroup
  | _ => false

/-- The tree is one that the grammar can give back, whatever its texts are. -/
def Shaped : Expr → Prop
  | .binary operator left right =>
      operator ≠ .or .symbol true ∧ left.Shaped ∧ right.Shaped ∧
        (parenthesizesLeft operator left = true → left.opensWithGroup = false) ∧
        (parenthesizesRight right = true → right.opensWithGroup = false)
  | .not _ operand => operand.Shaped ∧ operand.opensWithGroup = false
  | .group _ body => body.Shaped ∧ body.opensWithGroup = false
  | .range _ lower upper =>
      (lower.relation = .ge ∨ lower.relation = .gt) ∧ (upper.relation = .le ∨ upper.relation = .lt)
  | .regex field _ => isImplicitField field = false
  | .term .. | .phrase .. | .comparison .. => True

section Tokens

variable (field value : String)

theorem tokens_term : (term field value).tokens = fieldTokens field ++ [.name value] := by
  simp [tokens, pieces, fieldTokens]

theorem tokens_phrase :
    (phrase field value).tokens = fieldTokens field ++ [⟨.quotedString, quoteValue value⟩] := by
  simp [tokens, pieces, fieldTokens]

theorem tokens_regex : (regex field value).tokens = fieldTokens field ++ [⟨.regex, value⟩] := by
  simp [tokens, pieces, fieldTokens]

theorem tokens_group (body : Expr) :
    (group field body).tokens = .name field :: .colon :: wrapped true body.tokens := by
  simp [tokens, pieces, tokensOf_enclosed, wrapped]

theorem tokens_range (lower upper : Bound) :
    (range field lower upper).tokens =
      [.name field, .colon, lower.relation.openingToken, lower.atom.token, ⟨.rangeTo, "TO"⟩,
       upper.atom.token, upper.relation.closingToken] := rfl

theorem tokens_comparison (bound : Bound) :
    (comparison field bound).tokens =
      [.name field, .colon, bound.relation.token, bound.atom.token] := rfl

theorem tokens_not (spelling : Spelling) (operand : Expr) :
    (not spelling operand).tokens = spelling.notToken :: wrapped true operand.tokens := by
  cases spelling <;> simp [tokens, pieces, Spelling.notPieces, tokensOf_enclosed, wrapped]

theorem tokens_binary (operator : Connective) (left right : Expr) :
    (binary operator left right).tokens =
      wrapped (parenthesizesLeft operator left) left.tokens ++
        (operator.tokens ++ wrapped (parenthesizesRight right) right.tokens) := by
  simp [tokens, pieces, tokensOf_enclosedIf, tokensOf_connective]

end Tokens

theorem isBinary_of_opens {e : Expr} (opens : e.opensWithGroup = true) : e.isBinary = true := by
  cases e <;> first | rfl | cases opens

theorem isBinary_of_isOr {e : Expr} (alternatives : e.isOr = true) : e.isBinary = true := by
  cases e <;> first | rfl | cases alternatives

theorem fieldTokens_append (field : String) (found : Token) :
    (fieldTokens field ++ [found] = [found] ∧ isImplicitField field = true) ∨
      (fieldTokens field ++ [found] = [.name field, .colon, found] ∧
        isImplicitField field = false) := by
  cases implicit : isImplicitField field with
  | true => simp [fieldTokens, fieldPieces, implicit]
  | false => simp [fieldTokens, fieldPieces, implicit]

theorem fieldTokens_begin (field : String) (found : Token) (other : found.kind ≠ .groupOpen) :
    ∃ kind, firstKind (fieldTokens field ++ [found]) = some kind ∧ kind ≠ .groupOpen := by
  rcases fieldTokens_append field found with ⟨same, -⟩ | ⟨same, -⟩
  · exact ⟨found.kind, by rw [same]; rfl, other⟩
  · exact ⟨.identifier, by rw [same]; rfl, nofun⟩

theorem tokens_begin (e : Expr) :
    ∃ kind, firstKind e.tokens = some kind ∧ (kind = .groupOpen → e.opensWithGroup = true) := by
  induction e with
  | binary operator left right begins _ =>
      obtain ⟨kind, first, opens⟩ := begins
      rw [tokens_binary, firstKind_append]
      cases needed : parenthesizesLeft operator left with
      | true =>
          simp only [parenthesizesLeft, Bool.and_eq_true] at needed
          exact ⟨.groupOpen, rfl, fun _ => by simp [opensWithGroup, needed]⟩
      | false =>
          refine ⟨kind, by simp [wrapped, first], fun same => ?_⟩
          have compound := isBinary_of_opens (opens same)
          cases and : operator.isAnd <;> simp_all [opensWithGroup, parenthesizesLeft]
  | not spelling operand _ => exact ⟨.logicalNot, by simp [tokens_not, Spelling.notToken], by simp⟩
  | group field body _ => exact ⟨.identifier, by simp [tokens_group, Token.name], by simp⟩
  | range field lower upper => exact ⟨.identifier, rfl, by simp⟩
  | comparison field bound => exact ⟨.identifier, rfl, by simp⟩
  | term field value =>
      obtain ⟨kind, first, other⟩ := fieldTokens_begin field (.name value) (by simp [Token.name])
      exact ⟨kind, by rw [tokens_term, first], fun same => absurd same other⟩
  | phrase field value =>
      obtain ⟨kind, first, other⟩ :=
        fieldTokens_begin field ⟨.quotedString, quoteValue value⟩ (by simp)
      exact ⟨kind, by rw [tokens_phrase, first], fun same => absurd same other⟩
  | regex field value =>
      obtain ⟨kind, first, other⟩ := fieldTokens_begin field ⟨.regex, value⟩ (by simp)
      exact ⟨kind, by rw [tokens_regex, first], fun same => absurd same other⟩

end Expr

/-! Reading the tokens of a tree -/

theorem unquote_delimited {text : String} {quote : Char} {body : List Char}
    (delimiter : quote = '"' ∨ quote = '\'') (same : text.toList = quote :: (body ++ [quote])) :
    unquote text = String.ofList body := by
  have small : quote.utf8Size = 1 := by
    rcases delimiter with rfl | rfl <;> decide
  have between : (body ++ [quote]).dropLast = body := List.dropLast_concat
  unfold unquote
  rw [same]
  cases body with
  | nil => simp [small]
  | cons c cs =>
      rw [List.cons_append] at between
      simp [small, between]

theorem unquote_quoteValue (value : String) : unquote (quoteValue value) = value := by
  obtain ⟨quote, either, text⟩ := quoteValue_eq value
  rw [unquote_delimited (either.imp And.left And.left) text, String.ofList_toList]

@[simp] theorem Atom.token_atom (atom : Atom) : atom.token.atom? = some atom := by
  cases atom with
  | term value => rfl
  | phrase value => simp [token, Token.atom?, unquote_quoteValue]

theorem Relation.ofOpening_opening {relation : Relation} (lower : relation = .ge ∨ relation = .gt) :
    ofOpening relation.opening = relation := by
  rcases lower with rfl | rfl <;> decide

theorem Relation.ofClosing_closing {relation : Relation} (upper : relation = .le ∨ relation = .lt) :
    ofClosing relation.closing = relation := by
  rcases upper with rfl | rfl <;> decide

theorem Spelling.of_text (spelling : Spelling) :
    Spelling.of spelling.notText = spelling ∧
      Spelling.of (Connective.and spelling).text = spelling ∧
      Spelling.of (Connective.explicitOr spelling).text = spelling := by
  cases spelling <;> decide

structure ReadsBack (e : Expr) : Prop where
  disjunction {next : Option TokenKind} (unchained : next ≠ some .logicalAnd)
    (unnamed : next ≠ some .fieldSeparator) :
    Reads implicitField .disjunction e.tokens e next e.levels
  chain (single : e.isOr = false) {next : Option TokenKind} (unchained : next ≠ some .logicalAnd)
    (unnamed : next ≠ some .fieldSeparator) : Reads implicitField .chain e.tokens e next e.levels
  factor (simple : e.isBinary = false) {next : Option TokenKind}
    (unnamed : next ≠ some .fieldSeparator) : Reads implicitField .factor e.tokens e next e.levels

namespace ReadsBack

variable {e : Expr} {next : Option TokenKind}

theorem of_disjunction (alternatives : e.isOr = true)
    (reads : ∀ next, next ≠ some .logicalAnd → next ≠ some .fieldSeparator →
      Reads implicitField .disjunction e.tokens e next e.levels) : ReadsBack e where
  disjunction unchained unnamed := reads _ unchained unnamed
  chain single := by simp [alternatives] at single
  factor simple := by simp [Expr.isBinary_of_isOr alternatives] at simple

theorem of_chain (compound : e.isBinary = true)
    (reads : ∀ next, next ≠ some .logicalAnd → next ≠ some .fieldSeparator →
      Reads implicitField .chain e.tokens e next e.levels) : ReadsBack e where
  disjunction unchained unnamed := .first (reads _ unchained unnamed)
  chain _ _ unchained unnamed := reads _ unchained unnamed
  factor simple := by simp [compound] at simple

theorem of_factor (reads : ∀ next, next ≠ some .fieldSeparator →
    Reads implicitField .factor e.tokens e next e.levels) : ReadsBack e where
  disjunction unchained unnamed := .first (.last (reads _ unnamed) unchained)
  chain _ _ unchained unnamed := .last (reads _ unnamed) unchained
  factor _ _ unnamed := reads _ unnamed

theorem expression (back : ReadsBack e) (bare : e.opensWithGroup = false) (ends : Ends next) :
    Reads implicitField .expression e.tokens e next e.levels := by
  obtain ⟨kind, first, opens⟩ := e.tokens_begin
  have reads : Reads implicitField .disjunction e.tokens e next e.levels :=
    back.disjunction ends.separate.1 ends.separate.2
  refine .ofDisjunction reads (fun group => ?_) ends
  rw [first, Option.some.injEq] at group
  rw [opens group] at bare
  cases bare

theorem group (back : ReadsBack e) (bare : e.opensWithGroup = false) :
    Reads implicitField .group (wrapped true e.tokens) e next (e.levels + 1) :=
  .group rfl (back.expression bare (.inr rfl)) rfl

/-- On the left of AND. -/
theorem left (back : ReadsBack e) (bare : e.isBinary = true → e.opensWithGroup = false)
    (unnamed : next ≠ some .fieldSeparator) :
    Reads implicitField .factor (wrapped e.isBinary e.tokens) e next
      (e.levels + e.isBinary.toNat) := by
  cases needed : e.isBinary with
  | true => exact .paren (back.group (bare needed))
  | false => exact back.factor needed unnamed

/-- On the right of an operator. -/
theorem right (back : ReadsBack e) (bare : e.isOr = true → e.opensWithGroup = false)
    (unchained : next ≠ some .logicalAnd) (unnamed : next ≠ some .fieldSeparator) :
    Reads implicitField .chain (wrapped e.isOr e.tokens) e next (e.levels + e.isOr.toNat) := by
  cases needed : e.isOr with
  | true => exact .last (.paren (back.group (bare needed))) unchained
  | false => exact back.chain needed unchained unnamed

end ReadsBack

theorem readsBack_binary {operator : Connective} {left right : Expr}
    (shaped : (Expr.binary operator left right).Shaped) (leftBack : ReadsBack left)
    (rightBack : ReadsBack right) : ReadsBack (.binary operator left right) := by
  obtain ⟨plain, -, -, leftBare, rightBare⟩ := shaped
  cases operator with
  | and spelling =>
      refine .of_chain rfl fun next unchained unnamed => ?_
      have before : Reads implicitField .factor _ left (some .logicalAnd) _ :=
        leftBack.left leftBare nofun
      have after := rightBack.right rightBare unchained unnamed
      have reads : Reads implicitField .chain (_ ++ (Connective.and spelling).token :: _)
          (.binary (.and (Spelling.of (Connective.and spelling).text)) left right) next _ :=
        .and before rfl after
      rw [(Spelling.of_text spelling).2.1] at reads
      rw [Expr.tokens_binary]
      exact reads
  | or spelling implicit =>
      refine .of_disjunction rfl fun next unchained unnamed => ?_
      have after := rightBack.right rightBare unchained unnamed
      rw [Expr.tokens_binary]
      cases implicit with
      | false =>
          have before : Reads implicitField .disjunction _ left (some .logicalOr) _ :=
            leftBack.disjunction nofun nofun
          have reads :
              Reads implicitField .disjunction (_ ++ (Connective.explicitOr spelling).token :: _)
                (.binary (.explicitOr (Spelling.of (Connective.explicitOr spelling).text))
                  left right) next _ := .or before rfl after
          rw [(Spelling.of_text spelling).2.2] at reads
          exact reads
      | true =>
          -- with no operator written, the left side ends where the right one begins
          have begins := after.begins.separate
          have before := leftBack.disjunction begins.1 begins.2
          cases spelling with
          | word => exact .adjacent before after
          | symbol => exact absurd rfl plain

theorem readsBack_not {spelling : Spelling} {operand : Expr}
    (shaped : (Expr.not spelling operand).Shaped) (back : ReadsBack operand) :
    ReadsBack (.not spelling operand) := by
  refine .of_factor fun next _ => ?_
  have reads : Reads implicitField .factor (spelling.notToken :: wrapped true operand.tokens)
      (.not (Spelling.of spelling.notText) operand) next (operand.levels + 1 + 1) :=
    .not rfl (.ofGroup (back.group shaped.2))
  rw [(Spelling.of_text spelling).1] at reads
  rw [Expr.tokens_not, Expr.levels, Nat.add_comm]
  exact reads

theorem readsBack_group {field : String} {body : Expr} (shaped : (Expr.group field body).Shaped)
    (back : ReadsBack body) : ReadsBack (.group field body) := by
  refine .of_factor fun next _ => ?_
  rw [Expr.tokens_group, Expr.levels, Nat.add_comm]
  exact .fieldGroup rfl rfl (back.group shaped.2)

theorem readsBack_range {field : String} {lower upper : Bound}
    (shaped : (Expr.range field lower upper).Shaped) : ReadsBack (.range field lower upper) := by
  refine .of_factor fun next _ => ?_
  have value : ReadsValue field
      [lower.relation.openingToken, lower.atom.token, ⟨.rangeTo, "TO"⟩, upper.atom.token,
       upper.relation.closingToken]
      (.range field ⟨lower.atom, .ofOpening lower.relation.opening⟩
        ⟨upper.atom, .ofClosing upper.relation.closing⟩) next :=
    .range rfl lower.atom.token_atom rfl upper.atom.token_atom rfl
  rw [Relation.ofOpening_opening shaped.1, Relation.ofClosing_closing shaped.2] at value
  exact .value rfl rfl value

theorem readsBack_phrase (field value : String) : ReadsBack (.phrase field value) := by
  refine .of_factor fun next unnamed => ?_
  rw [Expr.tokens_phrase]
  rcases Expr.fieldTokens_append field ⟨.quotedString, quoteValue value⟩ with
    ⟨same, implicit⟩ | ⟨same, -⟩
  · have reads : Reads implicitField .factor [⟨.quotedString, quoteValue value⟩]
        (.phrase implicitField (unquote (quoteValue value))) next 0 := .phrase rfl
    rw [unquote_quoteValue] at reads
    rw [same, of_decide_eq_true implicit]
    exact reads
  · have found : ReadsValue field [⟨.quotedString, quoteValue value⟩]
        (.phrase field (unquote (quoteValue value))) next := .phrase rfl
    rw [unquote_quoteValue] at found
    rw [same]
    exact .value rfl rfl found

theorem readsBack (e : Expr) (shaped : e.Shaped) : ReadsBack e := by
  induction e with
  | binary operator left right leftBack rightBack =>
      exact readsBack_binary shaped (leftBack shaped.2.1) (rightBack shaped.2.2.1)
  | not spelling operand back => exact readsBack_not shaped (back shaped.1)
  | group field body back => exact readsBack_group shaped (back shaped.1)
  | range field lower upper => exact readsBack_range shaped
  | comparison field bound =>
      refine .of_factor fun next unnamed => ?_
      have meant := Relation.ofSymbol_symbol bound.relation
      exact .value rfl rfl (.comparison rfl meant bound.atom.token_atom unnamed)
  | term field value =>
      refine .of_factor fun next unnamed => ?_
      rw [Expr.tokens_term]
      rcases Expr.fieldTokens_append field (.name value) with ⟨same, implicit⟩ | ⟨same, -⟩
      · rw [same, of_decide_eq_true implicit]
        exact .word rfl unnamed
      · rw [same]
        exact .value rfl rfl (.term rfl)
  | phrase field value => exact readsBack_phrase field value
  | regex field value =>
      refine .of_factor fun next unnamed => ?_
      rw [Expr.tokens_regex]
      rcases Expr.fieldTokens_append field ⟨.regex, value⟩ with ⟨-, implicit⟩ | ⟨same, -⟩
      · rw [shaped] at implicit
        cases implicit
      · rw [same]
        exact .value rfl rfl (.regex rfl)

end SearchQuery
