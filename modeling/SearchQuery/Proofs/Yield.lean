import Mathlib
import SearchQuery.Proofs.Reprint
import SearchQuery.Proofs.Supply

/-!
The tokens that a tree holds, in order. They are the tokens of the text it was read
from, all but the parentheses: reading drops none, doubles none and moves none.
-/

namespace SearchQuery

def Token.bare (token : Token) : Token :=
  if token.kind = .quotedString then
    ⟨.quotedString, String.ofList token.text.toList.tail.dropLast⟩
  else token

def Atom.yield : Atom → Token
  | .term value => ⟨.identifier, value⟩
  | .phrase value => ⟨.quotedString, value⟩

def Relation.bracket : Relation → Token
  | .ge => ⟨.rangeOpen, "["⟩
  | .gt => ⟨.rangeOpen, "\x7b"⟩
  | .le => ⟨.rangeClose, "]"⟩
  | .lt => ⟨.rangeClose, "\x7d"⟩

namespace Expr

def yieldField (field : String) : List Token :=
  if field = "*" then [] else [⟨.identifier, field⟩, ⟨.fieldSeparator, ":"⟩]

def yield : Expr → List Token
  | .term field value => yieldField field ++ [⟨.identifier, value⟩]
  | .phrase field value => yieldField field ++ [⟨.quotedString, value⟩]
  | .regex field value => [⟨.identifier, field⟩, ⟨.fieldSeparator, ":"⟩, ⟨.regex, value⟩]
  | .group field body => ⟨.identifier, field⟩ :: ⟨.fieldSeparator, ":"⟩ :: body.yield
  | .range field lower upper =>
      [⟨.identifier, field⟩, ⟨.fieldSeparator, ":"⟩, lower.relation.bracket, lower.atom.yield,
       ⟨.rangeTo, "TO"⟩, upper.atom.yield, upper.relation.bracket]
  | .comparison field bound =>
      [⟨.identifier, field⟩, ⟨.fieldSeparator, ":"⟩,
       ⟨.relationalOperator, bound.relation.symbol⟩, bound.atom.yield]
  | .not spelling operand => ⟨.logicalNot, spelling.notText⟩ :: operand.yield
  | .binary (.and spelling) left right =>
      left.yield ++ ⟨.logicalAnd, (Connective.and spelling).text⟩ :: right.yield
  | .binary (.or spelling false) left right =>
      left.yield ++ ⟨.logicalOr, (Connective.or spelling false).text⟩ :: right.yield
  | .binary (.or _ true) left right => left.yield ++ right.yield

end Expr

/-! What a list of tokens yields -/

/-- All but the parentheses, without quotation marks. -/
def yielded (tokens : List Token) : List Token := (unwrapped tokens).map Token.bare

section Yielded

variable {token : Token} {tokens others : List Token}

theorem Token.bare_of_kind {kind : TokenKind} (same : token.kind = kind)
    (other : kind ≠ .quotedString) : token.bare = token := if_neg (same ▸ other)

theorem Token.bare_of_text {quote : Char} {body : List Char} (kind : token.kind = .quotedString)
    (text : token.text.toList = quote :: (body ++ [quote])) :
    token.bare = ⟨.quotedString, String.ofList body⟩ := by
  simp [bare, kind, text]

theorem Token.bare_quoteValue (value : String) :
    Token.bare ⟨.quotedString, quoteValue value⟩ = ⟨.quotedString, value⟩ := by
  obtain ⟨quote, -, text⟩ := quoteValue_eq value
  have kind : (⟨.quotedString, quoteValue value⟩ : Token).kind = .quotedString := rfl
  rw [bare_of_text kind text, String.ofList_toList]

theorem Token.bare_atom (atom : Atom) : atom.token.bare = atom.yield := by
  cases atom with
  | term value => rfl
  | phrase value => exact bare_quoteValue value

/-- Quoting anew changes nothing between the marks. -/
theorem Token.Spelt.bare_requoted (spelt : token.Spelt) : token.requoted.bare = token.bare := by
  by_cases kind : token.kind = .quotedString
  · obtain ⟨quote, body, -, -, text, value⟩ := spelt.quoted kind
    rw [requoted_phrase kind, bare_quoteValue, value, bare_of_text kind text]
  · rw [requoted_eq kind]

@[simp] theorem yielded_append : yielded (tokens ++ others) = yielded tokens ++ yielded others := by
  simp [yielded]

@[simp] theorem yielded_wrapped (needed : Bool) :
    yielded (wrapped needed tokens) = yielded tokens := by
  simp [yielded]

theorem yielded_cons {kind : TokenKind} (same : token.kind = kind)
    (other : kind ≠ .groupOpen ∧ kind ≠ .groupClose) :
    yielded (token :: tokens) = token.bare :: yielded tokens := by
  rw [yielded, unwrapped_cons (token.isParenthesis_of_kind same other)]
  rfl

theorem yielded_kept (kind : TokenKind) (text : String)
    (plain : kind ∉ [.groupOpen, .groupClose, .quotedString]) :
    yielded (⟨kind, text⟩ :: tokens) = ⟨kind, text⟩ :: yielded tokens := by
  simp only [List.mem_cons, List.not_mem_nil, or_false, not_or] at plain
  have own : (⟨kind, text⟩ : Token).kind = kind := rfl
  rw [yielded_cons own ⟨plain.1, plain.2.1⟩, Token.bare_of_kind own plain.2.2]

theorem yielded_named (field : String) :
    yielded (.name field :: .colon :: tokens) =
      ⟨.identifier, field⟩ :: ⟨.fieldSeparator, ":"⟩ :: yielded tokens := by
  rw [Token.name, Token.colon, yielded_kept .identifier _ (by decide),
    yielded_kept .fieldSeparator _ (by decide)]

theorem yielded_bracket (relation : Relation) :
    yielded (relation.bracket :: tokens) = relation.bracket :: yielded tokens := by
  cases relation <;> exact yielded_kept _ _ (by decide)

theorem yielded_atom (atom : Atom) :
    yielded (atom.token :: tokens) = atom.yield :: yielded tokens := by
  have plain : atom.token.kind ≠ .groupOpen ∧ atom.token.kind ≠ .groupClose := by
    cases atom <;> exact ⟨nofun, nofun⟩
  rw [yielded_cons rfl plain, Token.bare_atom]

theorem yielded_field (field : String) : yielded (fieldTokens field) = Expr.yieldField field := by
  unfold Expr.yieldField
  split
  · rename_i implicit
    rw [implicit]
    rfl
  · rename_i named
    rw [fieldTokens_of_named (decide_eq_false named)]
    rfl

end Yielded

/-! What a tree holds is what it is printed as -/

theorem Relation.bracket_lower {relation : Relation} (lower : relation = .ge ∨ relation = .gt) :
    relation.openingToken = relation.bracket := by
  rcases lower with rfl | rfl <;> rfl

theorem Relation.bracket_upper {relation : Relation} (upper : relation = .le ∨ relation = .lt) :
    relation.closingToken = relation.bracket := by
  rcases upper with rfl | rfl <;> rfl

namespace Expr

theorem yielded_binary (operator : Connective) (left right : Expr) :
    yielded (binary operator left right).tokens =
      yielded left.tokens ++ (operator.tokens ++ yielded right.tokens) := by
  have kept : yielded operator.tokens = operator.tokens := by
    unfold Connective.tokens
    split
    · rfl
    · cases operator with
      | and spelling => exact yielded_kept .logicalAnd _ (by decide)
      | or spelling implicit => exact yielded_kept .logicalOr _ (by decide)
  rw [tokens_binary, yielded_append, yielded_append, yielded_wrapped, yielded_wrapped, kept]

theorem yielded_tokens (e : Expr) (shaped : e.Shaped) : yielded e.tokens = e.yield := by
  induction e with
  | term field value =>
      rw [tokens_term, yielded_append, yielded_field]
      rfl
  | phrase field value =>
      rw [tokens_phrase, yielded_append, yielded_field]
      exact congrArg (yieldField field ++ ·) (yielded_atom (.phrase value))
  | regex field value =>
      rw [tokens_regex, fieldTokens_of_named shaped]
      rfl
  | group field body same =>
      rw [tokens_group, yielded_named, yielded_wrapped, same shaped.1]
      rfl
  | range field lower upper =>
      rw [tokens_range, Relation.bracket_lower shaped.1, Relation.bracket_upper shaped.2,
        yielded_named, yielded_bracket, yielded_atom, yielded_kept .rangeTo _ (by decide),
        yielded_atom, yielded_bracket]
      rfl
  | comparison field bound =>
      rw [tokens_comparison, yielded_named, Relation.token,
        yielded_kept .relationalOperator _ (by decide), yielded_atom]
      rfl
  | not spelling operand same =>
      rw [tokens_not, Spelling.notToken, yielded_kept .logicalNot _ (by decide), yielded_wrapped,
        same shaped.1]
      rfl
  | binary operator left right leftSame rightSame =>
      rw [yielded_binary, leftSame shaped.2.1, rightSame shaped.2.2.1]
      cases operator with
      | and spelling => rfl
      | or spelling implicit => cases implicit <;> rfl

end Expr

/-! What is read -/

section Read

variable {given printed : List Token} (spelt : ∀ token ∈ given, token.Spelt)

include spelt

theorem Reprints.same_yield (same : Reprints given printed) : yielded given = yielded printed := by
  unfold yielded
  rw [← same, List.map_map]
  apply List.map_congr_left
  intro token member
  exact (spelt token (List.mem_of_mem_filter member)).bare_requoted.symm

theorem unwrapped_eq_filter : unwrapped given =
    given.filter fun token => token.kind ≠ .groupOpen ∧ token.kind ≠ .groupClose := by
  apply List.filter_congr
  intro token member
  have own := spelt token member
  by_cases parenthesis : token.isParenthesis = true
  · rcases Token.isParenthesis_iff.mp parenthesis with rfl | rfl <;> rfl
  · have opening : token.kind ≠ .groupOpen := fun kind =>
      parenthesis (Token.isParenthesis_iff.mpr (.inl (own.opening_eq kind)))
    have closing : token.kind ≠ .groupClose := fun kind =>
      parenthesis (Token.isParenthesis_iff.mpr (.inr (own.closing_eq kind)))
    simp [parenthesis, opening, closing]

end Read

/-- The tree holds each token of the text once and in its place, all but the parentheses. -/
theorem yield_of_parse {source : String} {limit : Nat} {query : Query}
    (accepted : parseWith ⟨"*", limit⟩ source = .ok query) :
    ∃ tokens, tokenize source = .ok tokens ∧
      query.body.yield =
        (tokens.filter fun token => token.kind ≠ .groupOpen ∧ token.kind ≠ .groupClose).map
          Token.bare := by
  obtain ⟨tokens, levels, lexes, reads, -⟩ := parseWith_ok accepted
  have same : Reprints tokens query.body.tokens := reads.reprints lexes.spelt
  refine ⟨tokens, tokenize_ok_iff.mpr lexes, ?_⟩
  calc query.body.yield
      = yielded query.body.tokens := (Expr.yielded_tokens _ (reads.shaped lexes.spelt)).symm
    _ = yielded tokens := (same.same_yield lexes.spelt).symm
    _ = _ := by rw [yielded, unwrapped_eq_filter lexes.spelt]

def halfOpenRange : Query :=
  ⟨.binary .implicitOr (.range "f" ⟨.term "1", .gt⟩ ⟨.phrase "x\"y", .le⟩)
    (.group "h" (.not .symbol (.binary (.explicitOr .symbol) (.term "*" "a") (.term "*" "b"))))⟩

theorem yield_halfOpenRange :
    parseWith ⟨"*", 3⟩ "(f:\x7b1 TO 'x\"y'] h:(!a || b))" = .ok halfOpenRange ∧
      halfOpenRange.body.yield =
        [⟨.identifier, "f"⟩, ⟨.fieldSeparator, ":"⟩, ⟨.rangeOpen, "\x7b"⟩, ⟨.identifier, "1"⟩,
         ⟨.rangeTo, "TO"⟩, ⟨.quotedString, "x\"y"⟩, ⟨.rangeClose, "]"⟩, ⟨.identifier, "h"⟩,
         ⟨.fieldSeparator, ":"⟩, ⟨.logicalNot, "!"⟩, ⟨.identifier, "a"⟩, ⟨.logicalOr, "||"⟩,
         ⟨.identifier, "b"⟩] ∧
      ∃ tokens, tokenize "(f:\x7b1 TO 'x\"y'] h:(!a || b))" = .ok tokens ∧
        halfOpenRange.body.yield =
          (tokens.filter fun token => token.kind ≠ .groupOpen ∧ token.kind ≠ .groupClose).map
            Token.bare := by
  have accepted :
      parseWith ⟨"*", 3⟩ "(f:\x7b1 TO 'x\"y'] h:(!a || b))" = .ok halfOpenRange := by cbv
  exact ⟨accepted, by decide, yield_of_parse accepted⟩

end SearchQuery
