import SearchQuery.Token.Rule

/-!
What the lexical rules recognise. A kind of token has a language of its own, and a
text of that language is taken where what follows it keeps apart from it. The two
together say exactly what the first applicable rule does.
-/

namespace SearchQuery

def keywords : List (List Char) := [['A', 'N', 'D'], ['O', 'R'], ['N', 'O', 'T'], ['T', 'O']]

/-- The texts of each kind of token. Blanks are dropped and never become one. -/
def Lexeme (kind : TokenKind) (text : List Char) : Prop :=
  match kind with
  | .logicalAnd => text = ['A', 'N', 'D'] ∨ text = ['&', '&']
  | .logicalOr => text = ['O', 'R'] ∨ text = ['|', '|']
  | .logicalNot => text = ['N', 'O', 'T'] ∨ text = ['!']
  | .identifier => text ≠ [] ∧ (∀ c ∈ text, isIdentifierChar c = true) ∧ text ∉ keywords ∧
      ∀ c rest, text = c :: rest → c ≠ '-' ∧ c ≠ '!' ∧ (c = '\'' ∨ c = '/' → c ∉ rest)
  | .quotedString => ∃ quote body, (quote = '"' ∨ quote = '\'') ∧ quote ∉ body ∧
      text = quote :: (body ++ [quote])
  | .regex => ∃ body, '/' ∉ body ∧ text = '/' :: (body ++ ['/'])
  | .fieldSeparator => text = [':']
  | .prefixOperator => text = ['+'] ∨ text = ['-']
  | .tilde => text = ['~']
  | .groupOpen => text = ['(']
  | .groupClose => text = [')']
  | .rangeOpen => text = ['['] ∨ text = ['\x7b']
  | .rangeClose => text = [']'] ∨ text = ['\x7d']
  | .rangeTo => text = ['T', 'O']
  | .relationalOperator =>
      text = ['<'] ∨ text = ['>'] ∨ text = ['<', '='] ∨ text = ['>', '=']
  | .whitespace => False

def Boundary (rest : List Char) : Prop := ∀ c, rest.head? = some c → isIdentifierChar c = false

theorem boundary_head {rest : List Char} (bounded : Boundary rest) :
    rest.head?.any isIdentifierChar = false := by
  cases head : rest.head? with
  | none => rfl
  | some c => exact bounded c head

/-- What follows does not change where the token ends, nor what it is. -/
structure Apart (kind : TokenKind) (text rest : List Char) : Prop where
  boundary : kind = .identifier ∨ text ∈ keywords → Boundary rest
  unequal : text = ['<'] ∨ text = ['>'] → rest.head? ≠ some '='
  unclosed : kind = .identifier → ∀ c, text.head? = some c → c = '\'' ∨ c = '/' → c ∉ rest

namespace Pattern

variable {cs : List Char} {count : Nat}

theorem run_eq_some {member : Char → Bool} (found : run member cs = some count) :
    ∃ text rest, cs = text ++ rest ∧ text.length = count ∧ text ≠ [] ∧
      (∀ c ∈ text, member c = true) ∧ ∀ c, rest.head? = some c → member c = false := by
  refine ⟨cs.takeWhile member, cs.dropWhile member, List.takeWhile_append_dropWhile.symm, ?_⟩
  unfold run at found
  split at found
  · cases found
  · rename_i length some_taken
    cases found
    refine ⟨some_taken, ?_, List.all_eq_true.mp List.all_takeWhile, fun c head => ?_⟩
    · intro none_taken
      simp [none_taken] at some_taken
    · have stops := List.head?_dropWhile_not member cs
      rw [head] at stops
      simpa using stops

theorem takeWhile_run {member : Char → Bool} {text rest : List Char}
    (members : ∀ c ∈ text, member c = true)
    (stops : ∀ c, rest.head? = some c → member c = false) :
    (text ++ rest).takeWhile member = text := by
  have none_more : rest.takeWhile member = [] := by
    cases rest with
    | nil => rfl
    | cons c cs => simp [stops c rfl]
  rw [List.takeWhile_append_of_pos members, none_more, List.append_nil]

/-- A run that cannot go on is the same however the text is parted. -/
theorem run_unique {member : Char → Bool} {left right first second : List Char}
    (leftMembers : ∀ c ∈ left, member c = true)
    (leftEnds : ∀ c, first.head? = some c → member c = false)
    (rightMembers : ∀ c ∈ right, member c = true)
    (rightEnds : ∀ c, second.head? = some c → member c = false)
    (same : left ++ first = right ++ second) : left = right ∧ first = second := by
  have runs : left = right := by
    rw [← takeWhile_run leftMembers leftEnds, same, takeWhile_run rightMembers rightEnds]
  exact ⟨runs, List.append_cancel_left (runs ▸ same)⟩

theorem run_append {member : Char → Bool} {text rest : List Char} (some_char : text ≠ [])
    (members : ∀ c ∈ text, member c = true)
    (stops : ∀ c, rest.head? = some c → member c = false) :
    run member (text ++ rest) = some text.length := by
  obtain ⟨c, cs, rfl⟩ := List.exists_cons_of_ne_nil some_char
  unfold run
  rw [takeWhile_run members stops]
  rfl

theorem run_eq_none {member : Char → Bool} {c : Char} (other : member c = false) :
    run member (c :: cs) = none := by
  simp [run, other]

theorem run_eq_none_iff {member : Char → Bool} {c : Char} :
    run member (c :: cs) = none ↔ member c = false := by
  constructor
  · intro refused
    cases inside : member c with
    | false => rfl
    | true => simp [run, inside] at refused
  · exact run_eq_none

theorem oneOf_eq_some {members : List Char} (found : oneOf members cs = some count) :
    ∃ c rest, cs = c :: rest ∧ c ∈ members ∧ count = 1 := by
  cases cs with
  | nil => cases found
  | cons c rest =>
      simp only [oneOf] at found
      split at found <;> cases found
      exact ⟨c, rest, rfl, List.contains_iff_mem.mp (by assumption), rfl⟩

theorem literal_eq_some {text : List Char} :
    literal text cs = some count ↔ ∃ rest, cs = text ++ rest ∧ count = text.length := by
  unfold literal
  constructor
  · intro found
    split at found <;> cases found
    obtain ⟨rest, rfl⟩ := List.isPrefixOf_iff_prefix.mp (by assumption)
    exact ⟨rest, rfl, rfl⟩
  · rintro ⟨rest, rfl, rfl⟩
    simp

theorem keyword_eq_some {text : List Char} :
    keyword text cs = some count ↔
      ∃ rest, cs = text ++ rest ∧ count = text.length ∧ Boundary rest := by
  unfold keyword
  constructor
  · intro found
    split at found <;> cases found
    rename_i both
    simp only [Bool.and_eq_true, Bool.not_eq_true'] at both
    obtain ⟨rest, rfl⟩ := List.isPrefixOf_iff_prefix.mp both.1
    refine ⟨rest, rfl, rfl, fun c head => ?_⟩
    simpa [head] using both.2
  · rintro ⟨rest, rfl, rfl, bounded⟩
    simp [boundary_head bounded]

theorem takeWhile_other {delimiter : Char} {body rest : List Char} (outside : delimiter ∉ body) :
    (body ++ delimiter :: rest).takeWhile (· != delimiter) = body := by
  have others : ∀ c ∈ body, (c != delimiter) = true := by
    intro c member
    rw [bne_iff_ne]
    rintro rfl
    exact outside member
  rw [List.takeWhile_append_of_pos others]
  simp

theorem delimited_eq_some {delimiter : Char} :
    delimited delimiter cs = some count ↔
      ∃ body rest, cs = delimiter :: (body ++ delimiter :: rest) ∧ delimiter ∉ body ∧
        count = body.length + 2 := by
  constructor
  · intro found
    cases cs with
    | nil => cases found
    | cons c cs =>
        simp only [delimited] at found
        split at found <;> cases found
        rename_i both
        simp only [Bool.and_eq_true, decide_eq_true_eq, List.contains_iff_mem] at both
        obtain ⟨rfl, closed⟩ := both
        obtain ⟨body, rest, rfl, outside⟩ := List.eq_append_cons_of_mem closed
        exact ⟨body, rest, rfl, outside, by rw [takeWhile_other outside]⟩
  · rintro ⟨body, rest, rfl, outside, rfl⟩
    simp [delimited, takeWhile_other outside]

theorem comparison_eq_some (found : comparison cs = some count) :
    ∃ c rest, (c = '<' ∨ c = '>') ∧
      ((cs = [c, '='] ++ rest ∧ count = 2) ∨
        (cs = [c] ++ rest ∧ rest.head? ≠ some '=' ∧ count = 1)) := by
  cases cs with
  | nil => cases found
  | cons c cs =>
      simp only [comparison] at found
      split at found <;> cases found
      rename_i sign
      simp only [Bool.or_eq_true, decide_eq_true_eq] at sign
      by_cases equal : cs.head? = some '='
      · cases cs with
        | nil => cases equal
        | cons d rest =>
            cases equal
            exact ⟨c, rest, sign, .inl ⟨rfl, by simp⟩⟩
      · exact ⟨c, cs, sign, .inr ⟨rfl, equal, by simp [equal]⟩⟩

end Pattern

/-! Identifiers -/

theorem isBlank_of_identifier {c : Char} (member : isIdentifierChar c = true) :
    Text.isBlank c = false := by
  simp only [isIdentifierChar, Bool.and_eq_true, Bool.not_eq_true'] at member
  exact member.1

theorem not_reserved_of_identifier {c : Char} (member : isIdentifierChar c = true) :
    c ∉ reservedChars := by
  simp only [isIdentifierChar, Bool.and_eq_true, Bool.not_eq_true'] at member
  simpa using member.2

theorem identifier_of_keyword {text : List Char} (member : text ∈ keywords) :
    ∀ c ∈ text, isIdentifierChar c = true := by
  simp only [keywords, List.mem_cons, List.not_mem_nil, or_false] at member
  rcases member with rfl | rfl | rfl | rfl <;> exact List.all_eq_true.mp (by decide)

open Pattern

theorem keyword_eq_none {word text rest : List Char} (reserved : word ∈ keywords)
    (ordinary : text ∉ keywords) (members : ∀ c ∈ text, isIdentifierChar c = true)
    (bounded : Boundary rest) : keyword word (text ++ rest) = none := by
  cases taken : keyword word (text ++ rest) with
  | none => rfl
  | some count =>
      obtain ⟨other, same, -, ends⟩ := keyword_eq_some.mp taken
      obtain ⟨rfl, -⟩ :=
        Pattern.run_unique members bounded (identifier_of_keyword reserved) ends same
      exact absurd reserved ordinary

/-! Where a text is kept apart -/

theorem apart_symbol {kind : TokenKind} {text rest : List Char} (named : kind ≠ .identifier)
    (symbol : text ∉ keywords) (ends : text ≠ ['<'] ∧ text ≠ ['>']) : Apart kind text rest where
  boundary word := (word.elim named symbol).elim
  unequal open_end := (open_end.elim ends.1 ends.2).elim
  unclosed same := absurd same named

theorem apart_keyword {kind : TokenKind} {text rest : List Char} (named : kind ≠ .identifier)
    (ends : text ≠ ['<'] ∧ text ≠ ['>']) (bounded : Boundary rest) : Apart kind text rest where
  boundary _ := bounded
  unequal open_end := (open_end.elim ends.1 ends.2).elim
  unclosed same := absurd same named

/-! The first applicable rule -/

theorem firstMatch_identifier {text rest : List Char} (lexeme : Lexeme .identifier text)
    (apart : Apart .identifier text rest) :
    firstMatch (text ++ rest) = some (.identifier, text.length) := by
  obtain ⟨some_char, members, ordinary, begins⟩ := lexeme
  have bounded := apart.boundary (.inl rfl)
  have taken := run_append some_char members bounded
  have noAnd : keyword ['A', 'N', 'D'] (text ++ rest) = none :=
    keyword_eq_none (by decide) ordinary members bounded
  have noOr : keyword ['O', 'R'] (text ++ rest) = none :=
    keyword_eq_none (by decide) ordinary members bounded
  have noNot : keyword ['N', 'O', 'T'] (text ++ rest) = none :=
    keyword_eq_none (by decide) ordinary members bounded
  have noTo : keyword ['T', 'O'] (text ++ rest) = none :=
    keyword_eq_none (by decide) ordinary members bounded
  -- the other rules decide by the first character, which none of them begins with
  obtain ⟨c, cs, rfl⟩ := List.exists_cons_of_ne_nil some_char
  obtain ⟨noMinus, noBang, unclosed⟩ := begins c cs rfl
  have member := members c List.mem_cons_self
  have noBlank : run Text.isBlank (c :: cs ++ rest) = none :=
    run_eq_none (isBlank_of_identifier member)
  have unreserved := not_reserved_of_identifier member
  simp only [reservedChars, List.mem_cons, List.not_mem_nil, or_false, not_or] at unreserved
  have noQuote : ∀ quote, quote = '\'' ∨ quote = '/' →
      delimited quote (c :: cs ++ rest) = none := by
    intro quote either
    simp only [List.cons_append, delimited]
    by_cases begun : c = quote
    · subst begun
      have inside := unclosed either
      have outside := apart.unclosed rfl c rfl either
      simp [inside, outside]
    · simp [begun]
  have noString := noQuote '\'' (.inl rfl)
  have noRegex := noQuote '/' (.inr rfl)
  simp only [firstMatch, rules, List.findSome?_cons, either, noBlank, noAnd, noOr, noNot, noTo,
    noString, noRegex, taken]
  simp [delimited, literal, oneOf, comparison, unreserved, noMinus, noBang, @eq_comm _ _ c]

def openers : List Char :=
  ['A', '&', 'O', '|', 'N', '!', '"', '\'', '/', ':', '+', '-', '~', '(', ')', '[', '\x7b', ']',
   '\x7d', 'T', '<', '>']

theorem isBlank_opener : ∀ c ∈ openers, Text.isBlank c = false := by
  have visible : openers.all (!Text.isBlank ·) = true := by decide
  simpa only [List.all_eq_true, Bool.not_eq_true'] using visible

section Symbols

variable {kind : TokenKind} {text rest : List Char}

theorem firstMatch_keyword
    (written : (kind, text) ∈ [(.logicalAnd, ['A', 'N', 'D']), (.logicalOr, ['O', 'R']),
      (.logicalNot, ['N', 'O', 'T']), (.rangeTo, ['T', 'O'])])
    (apart : Apart kind text rest) : firstMatch (text ++ rest) = some (kind, text.length) := by
  have noBlank := isBlank_opener
  simp only [openers, List.forall_mem_cons] at noBlank
  simp only [List.mem_cons, List.not_mem_nil, or_false, Prod.mk.injEq] at written
  rcases written with ⟨rfl, rfl⟩ | ⟨rfl, rfl⟩ | ⟨rfl, rfl⟩ | ⟨rfl, rfl⟩
  all_goals
    have bounded := boundary_head (apart.boundary (.inr (by decide)))
    simp [firstMatch, rules, either, delimited, keyword, literal, oneOf, run_eq_none, noBlank,
      bounded]

theorem firstMatch_quotedString (lexeme : Lexeme .quotedString text) (rest : List Char) :
    firstMatch (text ++ rest) = some (.quotedString, text.length) := by
  have noBlank := isBlank_opener
  simp only [openers, List.forall_mem_cons] at noBlank
  obtain ⟨quote, body, rfl | rfl, outside, rfl⟩ := lexeme
  · have taken : delimited '"' ('"' :: (body ++ '"' :: rest)) = some (body.length + 2) :=
      delimited_eq_some.mpr ⟨body, rest, rfl, outside, rfl⟩
    simp [firstMatch, rules, either, taken, run_eq_none, noBlank]
  · have taken : delimited '\'' ('\'' :: (body ++ '\'' :: rest)) = some (body.length + 2) :=
      delimited_eq_some.mpr ⟨body, rest, rfl, outside, rfl⟩
    have other : delimited '"' ('\'' :: (body ++ '\'' :: rest)) = none := by simp [delimited]
    simp [firstMatch, rules, either, taken, other, run_eq_none, noBlank]

theorem firstMatch_regex (lexeme : Lexeme .regex text) (rest : List Char) :
    firstMatch (text ++ rest) = some (.regex, text.length) := by
  have noBlank := isBlank_opener
  simp only [openers, List.forall_mem_cons] at noBlank
  obtain ⟨body, outside, rfl⟩ := lexeme
  have taken : delimited '/' ('/' :: (body ++ '/' :: rest)) = some (body.length + 2) :=
    delimited_eq_some.mpr ⟨body, rest, rfl, outside, rfl⟩
  have noDouble : delimited '"' ('/' :: (body ++ '/' :: rest)) = none := by simp [delimited]
  have noSingle : delimited '\'' ('/' :: (body ++ '/' :: rest)) = none := by simp [delimited]
  simp [firstMatch, rules, either, taken, noDouble, noSingle, run_eq_none, noBlank]

theorem firstMatch_comparison (lexeme : Lexeme .relationalOperator text)
    (apart : Apart .relationalOperator text rest) :
    firstMatch (text ++ rest) = some (.relationalOperator, text.length) := by
  have noBlank := isBlank_opener
  simp only [openers, List.forall_mem_cons] at noBlank
  rcases lexeme with rfl | rfl | rfl | rfl
  · have unequal := apart.unequal (.inl rfl)
    simp [firstMatch, rules, either, delimited, keyword, literal, oneOf, comparison, run_eq_none,
      noBlank, unequal]
  · have unequal := apart.unequal (.inr rfl)
    simp [firstMatch, rules, either, delimited, keyword, literal, oneOf, comparison, run_eq_none,
      noBlank, unequal]
  all_goals
    simp [firstMatch, rules, either, delimited, keyword, literal, oneOf, comparison, run_eq_none,
      noBlank]

end Symbols

/-- A text of the language of a kind, kept apart from what follows it, is taken as that kind. -/
theorem firstMatch_of_lexeme {kind : TokenKind} {text rest : List Char}
    (lexeme : Lexeme kind text) (apart : Apart kind text rest) :
    firstMatch (text ++ rest) = some (kind, text.length) := by
  have noBlank := isBlank_opener
  simp only [openers, List.forall_mem_cons] at noBlank
  cases kind with
  | identifier => exact firstMatch_identifier lexeme apart
  | whitespace => exact lexeme.elim
  | quotedString => exact firstMatch_quotedString lexeme rest
  | regex => exact firstMatch_regex lexeme rest
  | relationalOperator => exact firstMatch_comparison lexeme apart
  | rangeTo =>
      cases lexeme
      exact firstMatch_keyword (by simp) apart
  | logicalAnd | logicalOr | logicalNot =>
      rcases lexeme with rfl | rfl
      · exact firstMatch_keyword (by simp) apart
      · simp [firstMatch, rules, either, delimited, keyword, literal, run_eq_none, noBlank]
  | fieldSeparator | tilde | groupOpen | groupClose =>
      cases lexeme
      simp [firstMatch, rules, either, delimited, keyword, literal, oneOf, run_eq_none, noBlank]
  | prefixOperator | rangeOpen | rangeClose =>
      rcases lexeme with rfl | rfl <;>
        simp [firstMatch, rules, either, delimited, keyword, literal, oneOf, run_eq_none, noBlank]

theorem firstMatch_eq_none {text : List Char} :
    firstMatch text = none ↔ ∀ rule ∈ rules, rule.pattern text = none := by
  simp [firstMatch]

/-- No character is refused that the rule for blanks takes. -/
theorem isBlank_of_unruled {c : Char} {rest : List Char}
    (unruled : firstMatch (c :: rest) = none) : Text.isBlank c = false := by
  have refused := firstMatch_eq_none.mp unruled ⟨.whitespace, run Text.isBlank⟩ (by simp [rules])
  exact run_eq_none_iff.mp refused

/-- The first rule that applies is the first of the list or one behind it. -/
theorem takes_or_skips {own kind : TokenKind} {pattern : Pattern} {later : List Rule}
    {cs : List Char} {count : Nat}
    (found : (⟨own, pattern⟩ :: later).findSome? (fun rule : Rule =>
      (rule.pattern cs).map fun length => (rule.kind, length)) = some (kind, count)) :
    (own = kind ∧ pattern cs = some count) ∨
      (pattern cs = none ∧ later.findSome? (fun rule =>
        (rule.pattern cs).map fun length => (rule.kind, length)) = some (kind, count)) := by
  rw [List.findSome?_cons] at found
  cases taken : pattern cs with
  | none => simpa [taken] using found
  | some length =>
      simp only [taken, Option.map_some, Option.some.injEq, Prod.mk.injEq] at found
      exact .inl ⟨found.1, by rw [found.2]⟩

theorem either_eq_some {first second : Pattern} {cs : List Char} {count : Nat}
    (found : either first second cs = some count) :
    first cs = some count ∨ second cs = some count := by
  rcases Option.or_eq_some_iff.mp found with taken | ⟨_, taken⟩
  · exact .inl taken
  · exact .inr taken

def Spells (cs : List Char) (kind : TokenKind) (count : Nat) : Prop :=
  ∃ text rest, cs = text ++ rest ∧ text.length = count ∧ Lexeme kind text ∧ Apart kind text rest

theorem spells_keyword {cs word : List Char} {kind : TokenKind} {count : Nat}
    (lexeme : Lexeme kind word) (named : kind ≠ .identifier)
    (ends : word ≠ ['<'] ∧ word ≠ ['>']) (found : keyword word cs = some count) :
    Spells cs kind count := by
  obtain ⟨rest, rfl, rfl, bounded⟩ := keyword_eq_some.mp found
  exact ⟨word, rest, rfl, rfl, lexeme, apart_keyword named ends bounded⟩

theorem spells_literal {cs symbol : List Char} {kind : TokenKind} {count : Nat}
    (lexeme : Lexeme kind symbol) (named : kind ≠ .identifier) (ordinary : symbol ∉ keywords)
    (ends : symbol ≠ ['<'] ∧ symbol ≠ ['>']) (found : literal symbol cs = some count) :
    Spells cs kind count := by
  obtain ⟨rest, rfl, rfl⟩ := literal_eq_some.mp found
  exact ⟨symbol, rest, rfl, rfl, lexeme, apart_symbol named ordinary ends⟩

theorem spells_oneOf {cs members : List Char} {kind : TokenKind} {count : Nat}
    (lexemes : ∀ c ∈ members, Lexeme kind [c]) (named : kind ≠ .identifier)
    (ends : '<' ∉ members ∧ '>' ∉ members) (found : oneOf members cs = some count) :
    Spells cs kind count := by
  obtain ⟨c, rest, rfl, member, rfl⟩ := oneOf_eq_some found
  refine ⟨[c], rest, rfl, rfl, lexemes c member, apart_symbol named (by simp [keywords]) ?_⟩
  constructor
  · rintro ⟨⟩
    exact ends.1 member
  · rintro ⟨⟩
    exact ends.2 member

theorem spells_delimited {cs : List Char} {delimiter : Char} {kind : TokenKind} {count : Nat}
    (lexeme : ∀ body, delimiter ∉ body → Lexeme kind (delimiter :: (body ++ [delimiter])))
    (named : kind ≠ .identifier) (found : delimited delimiter cs = some count) :
    Spells cs kind count := by
  obtain ⟨body, rest, rfl, outside, rfl⟩ := delimited_eq_some.mp found
  have distinct : ∀ word ∈ keywords, word.head? ≠ word.getLast? := by decide
  have ordinary : delimiter :: (body ++ [delimiter]) ∉ keywords := fun member =>
    distinct _ member (by simp [List.getLast?_cons])
  refine ⟨delimiter :: (body ++ [delimiter]), rest, by simp, by simp, lexeme body outside,
    apart_symbol named ordinary (by simp)⟩

/-- An identifier is what no rule before its own takes. -/
theorem spells_identifier {cs : List Char} {count : Nat}
    (noQuote : delimited '\'' cs = none) (noRegex : delimited '/' cs = none)
    (noKeyword : ∀ word ∈ keywords, keyword word cs = none)
    (noPrefix : oneOf ['+', '-', '!'] cs = none) (found : run isIdentifierChar cs = some count) :
    Spells cs .identifier count := by
  obtain ⟨text, rest, rfl, rfl, some_char, members, bounded⟩ := run_eq_some found
  have ordinary : text ∉ keywords := by
    intro member
    have taken : keyword text (text ++ rest) = some text.length :=
      keyword_eq_some.mpr ⟨rest, rfl, rfl, bounded⟩
    rw [noKeyword text member] at taken
    cases taken
  -- a second delimiter, in the word or behind it, would have made it a quoted text
  have unclosed : ∀ c tail, text = c :: tail → c = '\'' ∨ c = '/' → c ∉ tail ++ rest := by
    rintro c tail rfl either closed
    obtain ⟨body, after, same, outside⟩ := List.eq_append_cons_of_mem closed
    have taken : delimited c (c :: tail ++ rest) = some (body.length + 2) :=
      delimited_eq_some.mpr ⟨body, after, by rw [List.cons_append, same], outside, rfl⟩
    rcases either with rfl | rfl
    · rw [noQuote] at taken
      cases taken
    · rw [noRegex] at taken
      cases taken
  refine ⟨text, rest, rfl, rfl, ⟨some_char, members, ordinary, ?_⟩, ?_⟩
  · rintro c tail rfl
    have unprefixed : c ∉ ['+', '-', '!'] := by
      intro member
      simp [oneOf, member] at noPrefix
    refine ⟨fun minus => ?_, fun bang => ?_, fun either closed => ?_⟩
    · exact unprefixed (by simp [minus])
    · exact unprefixed (by simp [bang])
    · exact unclosed c tail rfl either (List.mem_append_left rest closed)
  · refine ⟨fun _ => bounded, fun open_end => ?_, fun _ c head either closed => ?_⟩
    · rcases open_end with rfl | rfl
      · exact absurd (members '<' (by simp)) (by decide)
      · exact absurd (members '>' (by simp)) (by decide)
    · cases text with
      | nil => cases head
      | cons first tail =>
          cases head
          exact unclosed c tail rfl either (List.mem_append_right tail closed)

theorem spells_comparison {cs : List Char} {count : Nat} (found : comparison cs = some count) :
    Spells cs .relationalOperator count := by
  obtain ⟨c, rest, sign, ⟨rfl, rfl⟩ | ⟨rfl, unequal, rfl⟩⟩ := comparison_eq_some found
  · refine ⟨[c, '='], rest, rfl, rfl, ?_, apart_symbol (by decide) (by simp [keywords]) (by simp)⟩
    rcases sign with rfl | rfl <;> simp [Lexeme]
  · refine ⟨[c], rest, rfl, rfl, ?_, nofun, fun _ => unequal, nofun⟩
    rcases sign with rfl | rfl <;> simp [Lexeme]

theorem either_eq_none {first second : Pattern} {cs : List Char} :
    either first second cs = none ↔ first cs = none ∧ second cs = none := by
  simp [either]

/-- The logical operators are written as words or with signs. -/
theorem spells_operator {cs word symbol : List Char} {kind : TokenKind} {count : Nat}
    (lexemes : Lexeme kind word ∧ Lexeme kind symbol) (named : kind ≠ .identifier)
    (ordinary : symbol ∉ keywords)
    (ends : ∀ text ∈ [word, symbol], text ≠ ['<'] ∧ text ≠ ['>'])
    (found : either (keyword word) (literal symbol) cs = some count) : Spells cs kind count := by
  rcases either_eq_some found with taken | taken
  · exact spells_keyword lexemes.1 named (ends word (by simp)) taken
  · exact spells_literal lexemes.2 named ordinary (ends symbol (by simp)) taken

/-- Of the prefix operators the exclamation mark was a negation already. -/
theorem spells_prefixOperator {cs : List Char} {count : Nat} (noBang : literal ['!'] cs = none)
    (found : oneOf ['+', '-', '!'] cs = some count) : Spells cs .prefixOperator count := by
  obtain ⟨first, rest, rfl, member, rfl⟩ := oneOf_eq_some found
  have signs : first = '+' ∨ first = '-' := by
    simp only [List.mem_cons, List.not_mem_nil, or_false] at member
    rcases member with rfl | rfl | rfl
    · exact .inl rfl
    · exact .inr rfl
    · simp [literal] at noBang
  refine ⟨[first], rest, rfl, rfl, ?_, apart_symbol nofun (by simp [keywords]) ?_⟩
  · rcases signs with rfl | rfl <;> simp [Lexeme]
  · rcases signs with rfl | rfl <;> simp

theorem spells_of_firstMatch {c : Char} {cs : List Char} {kind : TokenKind} {count : Nat}
    (noBlank : Text.isBlank c = false) (found : firstMatch (c :: cs) = some (kind, count)) :
    Spells (c :: cs) kind count := by
  -- one case for each rule, in their order; what an earlier rule refused is kept where needed
  rcases takes_or_skips found with ⟨rfl, taken⟩ | ⟨-, found⟩
  · rw [run_eq_none noBlank] at taken
    cases taken
  rcases takes_or_skips found with ⟨rfl, taken⟩ | ⟨noQuote, found⟩
  · rcases either_eq_some taken with taken | taken
    · exact spells_delimited (fun body outside => ⟨_, body, .inl rfl, outside, rfl⟩) nofun taken
    · exact spells_delimited (fun body outside => ⟨_, body, .inr rfl, outside, rfl⟩) nofun taken
  rcases takes_or_skips found with ⟨rfl, taken⟩ | ⟨noRegex, found⟩
  · exact spells_delimited (fun body outside => ⟨body, outside, rfl⟩) nofun taken
  rcases takes_or_skips found with ⟨rfl, taken⟩ | ⟨noAnd, found⟩
  · exact spells_operator ⟨.inl rfl, .inr rfl⟩ nofun (by decide) (by decide) taken
  rcases takes_or_skips found with ⟨rfl, taken⟩ | ⟨noOr, found⟩
  · exact spells_operator ⟨.inl rfl, .inr rfl⟩ nofun (by decide) (by decide) taken
  rcases takes_or_skips found with ⟨rfl, taken⟩ | ⟨noNot, found⟩
  · exact spells_operator ⟨.inl rfl, .inr rfl⟩ nofun (by decide) (by decide) taken
  rcases takes_or_skips found with ⟨rfl, taken⟩ | ⟨noPrefix, found⟩
  · exact spells_prefixOperator (either_eq_none.mp noNot).2 taken
  rcases takes_or_skips found with ⟨rfl, taken⟩ | ⟨-, found⟩
  · exact spells_oneOf (by simp [Lexeme]) nofun (by decide) taken
  rcases takes_or_skips found with ⟨rfl, taken⟩ | ⟨-, found⟩
  · exact spells_oneOf (by simp [Lexeme]) nofun (by decide) taken
  rcases takes_or_skips found with ⟨rfl, taken⟩ | ⟨-, found⟩
  · exact spells_oneOf (by simp [Lexeme]) nofun (by decide) taken
  rcases takes_or_skips found with ⟨rfl, taken⟩ | ⟨-, found⟩
  · exact spells_oneOf (by simp [Lexeme]) nofun (by decide) taken
  rcases takes_or_skips found with ⟨rfl, taken⟩ | ⟨-, found⟩
  · exact spells_oneOf (by simp [Lexeme]) nofun (by decide) taken
  rcases takes_or_skips found with ⟨rfl, taken⟩ | ⟨-, found⟩
  · exact spells_oneOf (by simp [Lexeme]) nofun (by decide) taken
  rcases takes_or_skips found with ⟨rfl, taken⟩ | ⟨noTo, found⟩
  · exact spells_keyword rfl nofun (by decide) taken
  rcases takes_or_skips found with ⟨rfl, taken⟩ | ⟨-, found⟩
  · exact spells_comparison taken
  rcases takes_or_skips found with ⟨rfl, taken⟩ | ⟨-, found⟩
  · have noKeyword : ∀ word ∈ keywords, keyword word (c :: cs) = none := by
      simp [keywords, (either_eq_none.mp noAnd).1, (either_eq_none.mp noOr).1,
        (either_eq_none.mp noNot).1, noTo]
    exact spells_identifier (either_eq_none.mp noQuote).2 noRegex noKeyword noPrefix taken
  · cases found

end SearchQuery
