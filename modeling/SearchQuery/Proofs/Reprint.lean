import SearchQuery.Proofs.Shape

/-!
A tree that was read, printed again. The printed tokens are those it was read from,
except that the parentheses are placed anew and phrases are quoted anew; printing
costs at most as many further levels as reading took.
-/

namespace SearchQuery

/-! The form of the trees that are read -/

/-- Where a tree of the clause may open with a group that is not all of it. -/
def Bare (clause : Clause) (tokens : List Token) (tree : Expr) : Prop :=
  match clause with
  | .expression | .group => tree.opensWithGroup = false
  | .disjunction => firstKind tokens ≠ some .groupOpen → tree.opensWithGroup = false
  | .chain =>
      firstKind tokens ≠ some .groupOpen ∨ tree.isOr = true → tree.opensWithGroup = false
  | .factor =>
      tree.opensWithGroup = false ∧ (tree.isBinary = true → firstKind tokens = some .groupOpen)

section Form

variable {field : String} {clause : Clause} {tokens : List Token} {tree : Expr}
  {next : Option TokenKind} {levels : Nat}

theorem ReadsValue.simple (reads : ReadsValue field tokens tree next) :
    tree.isBinary = false ∧ tree.opensWithGroup = false ∧ tree.levels = 0 := by
  cases reads <;> exact ⟨rfl, rfl, rfl⟩

theorem Reads.bare (reads : Reads field clause tokens tree next levels) :
    Bare clause tokens tree := by
  induction reads with
  | ofGroup _ ih => exact ih
  | ofDisjunction _ bare _ ih => exact ih bare
  | group _ _ _ ih => exact ih
  | first _ ih => exact fun bare => ih (.inl bare)
  | or first _ _ ih _ =>
      intro bare
      rw [firstKind_append_of_ne_nil first.tokens_ne_nil] at bare
      exact ih bare
  | adjacent first _ ih _ =>
      intro bare
      rw [firstKind_append_of_ne_nil first.tokens_ne_nil] at bare
      exact ih bare
  | last _ _ ih => exact fun _ => ih.1
  | @and _ _ _ left _ _ _ _ first _ _ ih _ =>
      rintro (bare | alternatives)
      · rw [firstKind_append_of_ne_nil first.tokens_ne_nil] at bare
        -- a compound left side was read in parentheses, so the tokens begin with one
        cases compound : left.isBinary with
        | false => simpa [Expr.opensWithGroup, Connective.isAnd] using compound
        | true => exact absurd (ih.2 compound) bare
      · cases alternatives
  | not | word | phrase | fieldGroup => exact ⟨rfl, by simp [Expr.isBinary]⟩
  | paren whole ih =>
      refine ⟨ih, fun _ => ?_⟩
      cases whole with
      | group opens _ _ => simp [opens]
  | value _ _ found =>
      obtain ⟨simple, plain, -⟩ := found.simple
      exact ⟨plain, fun compound => by simp [simple] at compound⟩

/-- The levels that may come on top where a tree of the clause is put in parentheses. -/
def slack (clause : Clause) (tree : Expr) : Nat :=
  match clause with
  | .expression | .disjunction => 0
  | .group => 2
  | .chain => 2 * tree.isOr.toNat
  | .factor => 2 * tree.isBinary.toNat

theorem Reads.printed_levels_le (reads : Reads field clause tokens tree next levels) :
    tree.levels + slack clause tree ≤ 2 * levels := by
  induction reads with
  | ofGroup _ ih => exact Nat.le_trans (Nat.le_add_right _ 2) ih
  | ofDisjunction _ _ _ ih => exact ih
  | group _ _ _ ih =>
      simp only [slack] at ih ⊢
      omega
  | first _ ih => exact Nat.le_trans (Nat.le_add_right _ _) ih
  | or _ _ _ leftLe rightLe | adjacent _ _ leftLe rightLe =>
      simp only [slack] at leftLe rightLe
      simp only [Connective.explicitOr, Connective.implicitOr, Expr.levels_or, slack]
      omega
  | @last _ tree _ _ _ _ ih =>
      -- an OR is read as one factor only in parentheses, and these have paid for it
      have fewer : tree.isOr.toNat ≤ tree.isBinary.toNat := by
        cases tree <;> simp [Expr.isOr, Expr.isBinary, Bool.toNat_le]
      simp only [slack] at ih ⊢
      omega
  | and _ _ _ leftLe rightLe =>
      have unsplit : ∀ spelling left right,
          (Expr.binary (.and spelling) left right).isOr = false := fun _ _ _ => rfl
      simp only [slack] at leftLe rightLe
      simp only [Expr.levels_and, slack, unsplit, Bool.toNat_false]
      omega
  | not _ _ ih =>
      simp only [slack, Expr.levels, Expr.isBinary, Bool.toNat_false] at ih ⊢
      omega
  | @paren _ tree _ _ _ ih =>
      have most := Bool.toNat_le tree.isBinary
      simp only [slack] at ih ⊢
      omega
  | word | phrase => exact Nat.le_refl _
  | value _ _ found =>
      obtain ⟨simple, -, flat⟩ := found.simple
      simp [slack, simple, flat]
  | fieldGroup _ _ _ ih =>
      simp only [slack, Expr.levels, Expr.isBinary, Bool.toNat_false] at ih ⊢
      omega

end Form

/-! What tokens of each kind can be -/

namespace Token.Spelt

variable {found : Token}

theorem lexeme (spelt : found.Spelt) {kind : TokenKind} (same : found.kind = kind) :
    Lexeme kind found.text.toList := same ▸ spelt

theorem eq_of_text {kind : TokenKind} {text : String} (same : found.kind = kind)
    (characters : found.text.toList = text.toList) : found = ⟨kind, text⟩ := by
  obtain ⟨own, written⟩ := found
  cases same
  exact congrArg (Token.mk own) (String.toList_inj.mp characters)

theorem opening_eq (spelt : found.Spelt) (kind : found.kind = .groupOpen) : found = .opening :=
  eq_of_text kind (spelt.lexeme kind)

theorem closing_eq (spelt : found.Spelt) (kind : found.kind = .groupClose) : found = .closing :=
  eq_of_text kind (spelt.lexeme kind)

theorem colon_eq (spelt : found.Spelt) (kind : found.kind = .fieldSeparator) : found = .colon :=
  eq_of_text kind (spelt.lexeme kind)

theorem to_eq (spelt : found.Spelt) (kind : found.kind = .rangeTo) : found = ⟨.rangeTo, "TO"⟩ :=
  eq_of_text kind (spelt.lexeme kind)

theorem and_eq (spelt : found.Spelt) (kind : found.kind = .logicalAnd) :
    (Connective.and (Spelling.of found.text)).token = found := by
  rcases spelt.lexeme kind with word | symbol
  · obtain rfl : found = ⟨.logicalAnd, "AND"⟩ := eq_of_text kind word
    rfl
  · obtain rfl : found = ⟨.logicalAnd, "&&"⟩ := eq_of_text kind symbol
    rfl

theorem or_eq (spelt : found.Spelt) (kind : found.kind = .logicalOr) :
    (Connective.explicitOr (Spelling.of found.text)).token = found := by
  rcases spelt.lexeme kind with word | symbol
  · obtain rfl : found = ⟨.logicalOr, "OR"⟩ := eq_of_text kind word
    rfl
  · obtain rfl : found = ⟨.logicalOr, "||"⟩ := eq_of_text kind symbol
    rfl

theorem not_eq (spelt : found.Spelt) (kind : found.kind = .logicalNot) :
    (Spelling.of found.text).notToken = found := by
  rcases spelt.lexeme kind with word | symbol
  · obtain rfl : found = ⟨.logicalNot, "NOT"⟩ := eq_of_text kind word
    rfl
  · obtain rfl : found = ⟨.logicalNot, "!"⟩ := eq_of_text kind symbol
    rfl

theorem rangeOpen_eq (spelt : found.Spelt) (kind : found.kind = .rangeOpen) :
    (Relation.ofOpening found.text).openingToken = found := by
  rcases spelt.lexeme kind with square | curly
  · obtain rfl : found = ⟨.rangeOpen, "["⟩ := eq_of_text kind square
    rfl
  · obtain rfl : found = ⟨.rangeOpen, "\x7b"⟩ := eq_of_text kind curly
    rfl

theorem rangeClose_eq (spelt : found.Spelt) (kind : found.kind = .rangeClose) :
    (Relation.ofClosing found.text).closingToken = found := by
  rcases spelt.lexeme kind with square | curly
  · obtain rfl : found = ⟨.rangeClose, "]"⟩ := eq_of_text kind square
    rfl
  · obtain rfl : found = ⟨.rangeClose, "\x7d"⟩ := eq_of_text kind curly
    rfl

theorem field_eq (spelt : found.Spelt) (kind : found.kind = .identifier) :
    isImplicitField found.text = false := by
  obtain ⟨-, members, -, -⟩ := spelt.lexeme kind
  simp only [isImplicitField, decide_eq_false_iff_not]
  intro implicit
  rw [implicit] at members
  exact absurd (members '*' (by decide)) (by decide)

theorem quoted (spelt : found.Spelt) (kind : found.kind = .quotedString) :
    ∃ quote body, (quote = '"' ∨ quote = '\'') ∧ quote ∉ body ∧
      found.text.toList = quote :: (body ++ [quote]) ∧
      unquote found.text = String.ofList body := by
  obtain ⟨quote, body, delimiter, outside, text⟩ := spelt.lexeme kind
  exact ⟨quote, body, delimiter, outside, text, unquote_delimited delimiter text⟩

end Token.Spelt

theorem Relation.token_of_symbol {found : Token} {relation : Relation}
    (kind : found.kind = .relationalOperator)
    (meant : Relation.ofSymbol? found.text = some relation) : relation.token = found := by
  obtain ⟨own, text⟩ := found
  cases kind
  apply congrArg (Token.mk _)
  unfold ofSymbol? at meant
  split_ifs at meant with same same same same <;> cases meant <;> exact same.symm

/-! The printed tokens -/

def Token.requoted (token : Token) : Token :=
  if token.kind = .quotedString then ⟨.quotedString, quoteValue (unquote token.text)⟩ else token

def Token.isParenthesis (token : Token) : Bool := token = .opening || token = .closing

def unwrapped (tokens : List Token) : List Token := tokens.filter fun token => !token.isParenthesis

theorem Token.requoted_eq {token : Token} (other : token.kind ≠ .quotedString) :
    token.requoted = token := if_neg other

theorem Token.requoted_phrase {token : Token} (kind : token.kind = .quotedString) :
    token.requoted = ⟨.quotedString, quoteValue (unquote token.text)⟩ := if_pos kind

theorem Token.requoted_atom {token : Token} {atom : Atom} (found : token.atom? = some atom) :
    token.requoted = atom.token := by
  rcases Parse.atom_cases found with ⟨kind, rfl⟩ | ⟨kind, rfl⟩
  · obtain ⟨own, text⟩ := token
    cases kind
    rfl
  · exact requoted_phrase kind

@[simp] theorem unwrapped_append (left right : List Token) :
    unwrapped (left ++ right) = unwrapped left ++ unwrapped right := List.filter_append ..

@[simp] theorem unwrapped_wrapped (needed : Bool) (tokens : List Token) :
    unwrapped (wrapped needed tokens) = unwrapped tokens := by
  cases needed
  · rfl
  · simp [wrapped, unwrapped, Token.isParenthesis]

theorem Token.isParenthesis_of_kind {token : Token} {kind : TokenKind} (same : token.kind = kind)
    (other : kind ≠ .groupOpen ∧ kind ≠ .groupClose) : token.isParenthesis = false := by
  simp only [isParenthesis, Bool.or_eq_false_iff, decide_eq_false_iff_not]
  constructor
  · rintro rfl
    exact other.1 same.symm
  · rintro rfl
    exact other.2 same.symm

theorem unwrapped_cons {token : Token} {tokens : List Token}
    (plain : token.isParenthesis = false) :
    unwrapped (token :: tokens) = token :: unwrapped tokens := by
  simp [unwrapped, plain]

/-- The tokens that are printed are those given, but for quotes and parentheses. -/
def Reprints (given printed : List Token) : Prop :=
  (unwrapped given).map Token.requoted = unwrapped printed

namespace Reprints

variable {given other printed rest : List Token} {token shown : Token}

theorem append (left : Reprints given printed) (right : Reprints other rest) :
    Reprints (given ++ other) (printed ++ rest) := by
  unfold Reprints at left right ⊢
  rw [unwrapped_append, unwrapped_append, List.map_append, left, right]

theorem cons (plain : token.isParenthesis = false) (same : token.requoted = shown)
    (hidden : shown.isParenthesis = false) (others : Reprints given printed) :
    Reprints (token :: given) (shown :: printed) := by
  unfold Reprints at others ⊢
  rw [unwrapped_cons plain, unwrapped_cons hidden, List.map_cons, same, others]

theorem wrap (needed : Bool) (inside : Reprints given printed) :
    Reprints given (wrapped needed printed) := by
  unfold Reprints at inside ⊢
  rw [unwrapped_wrapped, inside]

theorem unwrap (needed : Bool) (inside : Reprints given printed) :
    Reprints (wrapped needed given) printed := by
  unfold Reprints at inside ⊢
  rw [unwrapped_wrapped, inside]

theorem nil : Reprints [] [] := rfl

/-- A token that is shown as it was given. -/
theorem keep {kind : TokenKind} (same : token.kind = kind)
    (plain : kind ∉ [.groupOpen, .groupClose, .quotedString])
    (others : Reprints given printed) : Reprints (token :: given) (token :: printed) := by
  simp only [List.mem_cons, List.not_mem_nil, or_false, not_or] at plain
  have hidden := Token.isParenthesis_of_kind same ⟨plain.1, plain.2.1⟩
  exact cons hidden (Token.requoted_eq (same ▸ plain.2.2)) hidden others

theorem atom {atom : Atom} (same : token.atom? = some atom) (others : Reprints given printed) :
    Reprints (token :: given) (atom.token :: printed) := by
  have shown := Token.requoted_atom same
  rcases Parse.atom_cases same with ⟨kind, rfl⟩ | ⟨kind, rfl⟩
  · have name : (Atom.term token.text).token.kind = .identifier := rfl
    exact cons (Token.isParenthesis_of_kind kind (by decide)) shown
      (Token.isParenthesis_of_kind name (by decide)) others
  · have quoted : (Atom.phrase (unquote token.text)).token.kind = .quotedString := rfl
    exact cons (Token.isParenthesis_of_kind kind (by decide)) shown
      (Token.isParenthesis_of_kind quoted (by decide)) others

theorem binary {operator : Token} {connective : Connective} {left right : Expr}
    (written : operator.kind = .logicalAnd ∨ operator.kind = .logicalOr)
    (explicit : connective.isImplicit = false) (same : connective.token = operator)
    (before : Reprints given left.tokens) (after : Reprints other right.tokens) :
    Reprints (given ++ operator :: other) (Expr.binary connective left right).tokens := by
  have own : connective.tokens = [operator] := by simp [Connective.tokens, explicit, same]
  rw [Expr.tokens_binary, own]
  apply (before.wrap _).append
  rcases written with kind | kind
  · exact keep kind (by decide) (after.wrap _)
  · exact keep kind (by decide) (after.wrap _)

end Reprints

theorem Token.name_eq {found : Token} (kind : found.kind = .identifier) :
    Token.name found.text = found := by
  obtain ⟨own, text⟩ := found
  cases kind
  rfl

theorem fieldTokens_of_named {field : String} (named : isImplicitField field = false) :
    fieldTokens field = [.name field, .colon] := by
  simp [fieldTokens, fieldPieces, named]

theorem fieldTokens_implicit : fieldTokens implicitField = [] := by decide

theorem ReadsValue.reprints {field : String} {tokens : List Token} {tree : Expr}
    {next : Option TokenKind} (reads : ReadsValue field tokens tree next)
    (spelt : ∀ found ∈ tokens, found.Spelt) (named : isImplicitField field = false) :
    ∃ printed, tree.tokens = .name field :: .colon :: printed ∧ Reprints tokens printed := by
  have implicit := fieldTokens_of_named named
  cases reads with
  | @term value _ kind =>
      refine ⟨[value], ?_, .keep kind (by decide) .nil⟩
      rw [Expr.tokens_term, implicit, Token.name_eq kind]
      rfl
  | @phrase value _ kind =>
      have atom : value.atom? = some (.phrase (unquote value.text)) := by simp [Token.atom?, kind]
      refine ⟨[_], ?_, .atom atom .nil⟩
      rw [Expr.tokens_phrase, implicit]
      rfl
  | @regex value _ kind =>
      refine ⟨[value], ?_, .keep kind (by decide) .nil⟩
      rw [Expr.tokens_regex, implicit]
      obtain ⟨own, text⟩ := value
      cases kind
      rfl
  | @range opening lower middle upper closing low high _ opens first between second closes =>
      simp only [List.forall_mem_cons] at spelt
      obtain ⟨openingSpelt, -, middleSpelt, -, closingSpelt, -⟩ := spelt
      refine ⟨[opening, low.token, middle, high.token, closing], ?_, ?_⟩
      · rw [Expr.tokens_range, openingSpelt.rangeOpen_eq opens, middleSpelt.to_eq between,
          closingSpelt.rangeClose_eq closes]
      · apply Reprints.keep opens (by decide)
        apply Reprints.atom first
        apply Reprints.keep between (by decide)
        apply Reprints.atom second
        exact .keep closes (by decide) .nil
  | @comparison symbol bound relation atom _ kind meant bounded _ =>
      refine ⟨[symbol, atom.token], ?_, .keep kind (by decide) (.atom bounded .nil)⟩
      rw [Expr.tokens_comparison, Relation.token_of_symbol kind meant]

section Printed

variable {clause : Clause} {tokens : List Token} {tree : Expr} {next : Option TokenKind}
  {levels : Nat}

theorem Reads.reprints (reads : Reads implicitField clause tokens tree next levels)
    (spelt : ∀ found ∈ tokens, found.Spelt) : Reprints tokens tree.tokens := by
  induction reads with
  | ofGroup _ ih | ofDisjunction _ _ _ ih | first _ ih | last _ _ ih | paren _ ih => exact ih spelt
  | group opens _ closes ih =>
      simp only [List.forall_mem_cons, List.forall_mem_append] at spelt
      rw [spelt.1.opening_eq opens, spelt.2.2.1.closing_eq closes]
      exact (ih spelt.2.1).unwrap true
  | or _ written _ leftSame rightSame =>
      simp only [List.forall_mem_append, List.forall_mem_cons] at spelt
      have same := spelt.2.1.or_eq written
      exact .binary (.inr written) rfl same (leftSame spelt.1) (rightSame spelt.2.2)
  | adjacent _ _ leftSame rightSame =>
      simp only [List.forall_mem_append] at spelt
      rw [Expr.tokens_binary]
      exact .append ((leftSame spelt.1).wrap _) ((rightSame spelt.2).wrap _)
  | and _ written _ leftSame rightSame =>
      simp only [List.forall_mem_append, List.forall_mem_cons] at spelt
      have same := spelt.2.1.and_eq written
      exact .binary (.inl written) rfl same (leftSame spelt.1) (rightSame spelt.2.2)
  | not written _ ih =>
      rw [List.forall_mem_cons] at spelt
      rw [Expr.tokens_not, spelt.1.not_eq written]
      exact .keep written (by decide) ((ih spelt.2).wrap true)
  | word kind _ =>
      rw [Expr.tokens_term, fieldTokens_implicit, Token.name_eq kind]
      exact .keep kind (by decide) .nil
  | @phrase value _ kind =>
      have atom : value.atom? = some (.phrase (unquote value.text)) := by simp [Token.atom?, kind]
      rw [Expr.tokens_phrase, fieldTokens_implicit]
      exact .atom atom .nil
  | value names separates found =>
      simp only [List.forall_mem_cons] at spelt
      obtain ⟨printed, shown, same⟩ :=
        found.reprints spelt.2.2 (spelt.1.field_eq names)
      rw [shown, Token.name_eq names, ← spelt.2.1.colon_eq separates]
      exact .keep names (by decide) (.keep separates (by decide) same)
  | fieldGroup names separates _ ih =>
      simp only [List.forall_mem_cons] at spelt
      rw [Expr.tokens_group, Token.name_eq names, ← spelt.2.1.colon_eq separates]
      refine .keep names (by decide) (.keep separates (by decide) ?_)
      exact (ih spelt.2.2).wrap true

theorem Relation.ofOpening_lower (bracket : String) :
    Relation.ofOpening bracket = .ge ∨ Relation.ofOpening bracket = .gt := by
  unfold Relation.ofOpening
  split
  · exact .inl rfl
  · exact .inr rfl

theorem Relation.ofClosing_upper (bracket : String) :
    Relation.ofClosing bracket = .le ∨ Relation.ofClosing bracket = .lt := by
  unfold Relation.ofClosing
  split
  · exact .inl rfl
  · exact .inr rfl

theorem ReadsValue.shaped {field : String} (reads : ReadsValue field tokens tree next)
    (named : isImplicitField field = false) : tree.Shaped := by
  cases reads with
  | term | phrase | comparison => trivial
  | regex => exact named
  | range => exact ⟨Relation.ofOpening_lower _, Relation.ofClosing_upper _⟩

theorem Reads.shaped (reads : Reads implicitField clause tokens tree next levels)
    (spelt : ∀ found ∈ tokens, found.Spelt) : tree.Shaped := by
  induction reads with
  | ofGroup _ ih | ofDisjunction _ _ _ ih | first _ ih | last _ _ ih | paren _ ih => exact ih spelt
  | group _ _ _ ih =>
      simp only [List.forall_mem_cons, List.forall_mem_append] at spelt
      exact ih spelt.2.1
  | or _ _ second leftShaped rightShaped =>
      simp only [List.forall_mem_append, List.forall_mem_cons] at spelt
      exact ⟨by simp [Connective.explicitOr], leftShaped spelt.1, rightShaped spelt.2.2, nofun,
        fun alternatives => second.bare (.inr alternatives)⟩
  | adjacent _ second leftShaped rightShaped =>
      simp only [List.forall_mem_append] at spelt
      exact ⟨by decide, leftShaped spelt.1, rightShaped spelt.2, nofun,
        fun alternatives => second.bare (.inr alternatives)⟩
  | and first _ second leftShaped rightShaped =>
      simp only [List.forall_mem_append, List.forall_mem_cons] at spelt
      exact ⟨nofun, leftShaped spelt.1, rightShaped spelt.2.2, fun _ => first.bare.1,
        fun alternatives => second.bare (.inr alternatives)⟩
  | not _ operand ih =>
      rw [List.forall_mem_cons] at spelt
      exact ⟨ih spelt.2, operand.bare⟩
  | word | phrase => trivial
  | value names _ found =>
      rw [List.forall_mem_cons] at spelt
      exact found.shaped (spelt.1.field_eq names)
  | fieldGroup _ _ body ih =>
      simp only [List.forall_mem_cons] at spelt
      exact ⟨ih spelt.2.2, body.bare⟩

end Printed

/-! What is read back -/

theorem spelt_quoteValue {value : String} {quote : Char} (delimiter : quote = '"' ∨ quote = '\'')
    (outside : quote ∉ value.toList) : Lexeme .quotedString (quoteValue value).toList := by
  obtain ⟨chosen, choice, text⟩ := quoteValue_eq value
  refine ⟨chosen, value.toList, ?_, ?_, text⟩
  · rcases choice with ⟨rfl, -⟩ | ⟨rfl, -⟩
    · exact .inl rfl
    · exact .inr rfl
  · rcases choice with ⟨rfl, free⟩ | ⟨rfl, double⟩
    · exact free
    · rcases delimiter with rfl | rfl
      · exact absurd double outside
      · exact outside

theorem Token.Spelt.requoted {found : Token} (spelt : found.Spelt) : found.requoted.Spelt := by
  by_cases kind : found.kind = .quotedString
  · obtain ⟨quote, body, delimiter, outside, -, value⟩ := spelt.quoted kind
    rw [Token.requoted_phrase kind, value]
    exact spelt_quoteValue delimiter (by rwa [String.toList_ofList])
  · rwa [Token.requoted_eq kind]

theorem Token.isParenthesis_iff {token : Token} :
    token.isParenthesis = true ↔ token = .opening ∨ token = .closing := by
  simp [isParenthesis]

theorem Clears.requoted {word later : Token} (clears : Clears word later) (spelt : later.Spelt) :
    Clears word.requoted later.requoted := by
  intro identifier c head either member
  have unquoted : word.kind ≠ .quotedString := by
    intro kind
    rw [Token.requoted_phrase kind] at identifier
    cases identifier
  rw [Token.requoted_eq unquoted] at identifier head
  have absent := clears identifier c head either
  by_cases kind : later.kind = .quotedString
  · obtain ⟨quote, body, delimiter, outside, text, value⟩ := spelt.quoted kind
    obtain ⟨chosen, choice, shown⟩ := quoteValue_eq (String.ofList body)
    rw [Token.requoted_phrase kind, value, shown, String.toList_ofList] at member
    rw [String.toList_ofList] at choice
    simp only [text, List.mem_cons, List.mem_append, List.not_mem_nil, or_false, not_or] at absent
    simp only [List.mem_cons, List.mem_append, List.not_mem_nil, or_false] at member
    have new : c = chosen := by
      rcases member with same | inside | same
      · exact same
      · exact absurd inside absent.2.1
      · exact same
    rcases choice with ⟨rfl, -⟩ | ⟨rfl, double⟩
    · rcases either with rfl | rfl <;> cases new
    · -- single quotes are chosen only where the given ones were single
      rcases delimiter with rfl | rfl
      · exact outside double
      · exact absent.1 new
  · rw [Token.requoted_eq kind] at member
    exact absent member

namespace Reprints

variable {given printed : List Token} (same : Reprints given printed)
  (sound : ∀ found ∈ given, found.Spelt)

include same sound

theorem spelt : ∀ found ∈ printed, found.Spelt := by
  intro found member
  by_cases parenthesis : found.isParenthesis = true
  · rcases Token.isParenthesis_iff.mp parenthesis with rfl | rfl <;> rfl
  · have kept : found ∈ unwrapped printed := List.mem_filter.mpr ⟨member, by simp [parenthesis]⟩
    rw [← same] at kept
    obtain ⟨source, inside, rfl⟩ := List.mem_map.mp kept
    exact (sound source (List.mem_of_mem_filter inside)).requoted

theorem clears (clears : given.Pairwise Clears) : printed.Pairwise Clears := by
  have moved : ((unwrapped given).map Token.requoted).Pairwise Clears := by
    apply List.pairwise_map.mpr
    apply (clears.filter _).imp_of_mem
    intro word later _ member clear
    exact clear.requoted (sound later (List.mem_of_mem_filter member))
  rw [same] at moved
  apply (List.pairwise_filter.mp moved).imp
  intro word later clear identifier c head either member
  -- a parenthesis is no word, and is neither of the delimiters
  by_cases first : word.isParenthesis = true
  · rcases Token.isParenthesis_iff.mp first with rfl | rfl <;> cases identifier
  by_cases second : later.isParenthesis = true
  · rcases Token.isParenthesis_iff.mp second with rfl | rfl <;>
      rcases either with rfl | rfl <;> exact absurd member (by decide)
  exact clear (by simp [first]) (by simp [second]) identifier c head either member

end Reprints

end SearchQuery
