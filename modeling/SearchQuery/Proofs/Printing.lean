import SearchQuery.Proofs.RoundTrip

/-!
Which trees can be printed and parsed back, whether or not any text was parsed to
them. Their texts must be ones that the lexical rules take whole, and their form one
that the grammar gives back; then only the levels decide.
-/

namespace SearchQuery

def IsWord (text : String) : Prop :=
  text.toList ≠ [] ∧ text.toList.all isIdentifierChar = true ∧ text.toList ∉ keywords ∧
    text.toList.head?.all (· ∉ ['-', '!', '\'', '/']) = true

instance (text : String) : Decidable (IsWord text) := inferInstanceAs (Decidable (_ ∧ _ ∧ _ ∧ _))

/-- One of the two quotation marks is free to delimit the text. -/
def IsQuotable (value : String) : Prop := ¬ ('"' ∈ value.toList ∧ '\'' ∈ value.toList)

instance (value : String) : Decidable (IsQuotable value) := inferInstanceAs (Decidable (¬ _))

def IsRegex (value : String) : Prop :=
  ∃ body, '/' ∉ body ∧ value.toList = '/' :: (body ++ ['/'])

def Atom.Spellable : Atom → Prop
  | .term value => IsWord value
  | .phrase value => IsQuotable value

instance : (atom : Atom) → Decidable atom.Spellable
  | .term value => inferInstanceAs (Decidable (IsWord value))
  | .phrase value => inferInstanceAs (Decidable (IsQuotable value))

def Expr.Spellable : Expr → Prop
  | .binary _ left right => left.Spellable ∧ right.Spellable
  | .not _ operand => operand.Spellable
  | .term field value => (field = implicitField ∨ IsWord field) ∧ IsWord value
  | .phrase field value => (field = implicitField ∨ IsWord field) ∧ IsQuotable value
  | .regex field value => IsWord field ∧ IsRegex value
  | .group field body => IsWord field ∧ body.Spellable
  | .range field lower upper => IsWord field ∧ lower.atom.Spellable ∧ upper.atom.Spellable
  | .comparison field bound => IsWord field ∧ bound.atom.Spellable

structure Query.Printable (query : Query) : Prop where
  spellable : query.body.Spellable
  shaped : query.body.Shaped
  bare : query.body.opensWithGroup = false
  unglued : query.body.Unglued

/-! The tokens of such a tree -/

/-- One of its kind, and if it is an identifier then with nothing to close. -/
def Token.Firm (found : Token) : Prop :=
  found.Spelt ∧ (found.kind = .identifier → IsWord found.text)

theorem IsWord.head {text : String} (word : IsWord text) {c : Char}
    (head : text.toList.head? = some c) : c ≠ '-' ∧ c ≠ '!' ∧ c ≠ '\'' ∧ c ≠ '/' := by
  have listed := word.2.2.2
  simpa [head] using listed

theorem clears_of_firm {word : Token} (firm : word.Firm) (later : Token) : Clears word later := by
  intro kind c head either
  obtain ⟨-, -, noQuote, noSlash⟩ := (firm.2 kind).head head
  exact (either.elim noQuote noSlash).elim

theorem firm_name {text : String} (word : IsWord text) : (Token.name text).Firm := by
  have members : ∀ c ∈ text.toList, isIdentifierChar c = true := List.all_eq_true.mp word.2.1
  refine ⟨⟨word.1, members, word.2.2.1, fun c rest same => ?_⟩, fun _ => word⟩
  have head : text.toList.head? = some c := congrArg List.head? same
  obtain ⟨noMinus, noBang, noQuote, noSlash⟩ := word.head head
  exact ⟨noMinus, noBang, fun either => (either.elim noQuote noSlash).elim⟩

theorem firm_of_spelt {found : Token} (spelt : found.Spelt) (kind : found.kind ≠ .identifier) :
    found.Firm := ⟨spelt, fun same => absurd same kind⟩

theorem firm_quoted {value : String} (quotable : IsQuotable value) :
    (⟨.quotedString, quoteValue value⟩ : Token).Firm := by
  refine firm_of_spelt ?_ nofun
  by_cases double : '"' ∈ value.toList
  · exact spelt_quoteValue (.inr rfl) fun single => quotable ⟨double, single⟩
  · exact spelt_quoteValue (.inl rfl) double

theorem firm_atom {atom : Atom} (spellable : atom.Spellable) : atom.token.Firm := by
  cases atom with
  | term value => exact firm_name spellable
  | phrase value => exact firm_quoted spellable

theorem firm_fieldTokens {field : String} (spellable : field = implicitField ∨ IsWord field) :
    ∀ found ∈ fieldTokens field, found.Firm := by
  unfold fieldTokens fieldPieces
  split
  · exact nofun
  · rename_i explicit
    have word : IsWord field := by
      rcases spellable with rfl | word
      · exact absurd (by decide) explicit
      · exact word
    simp only [tokensOf_token, tokensOf_nil, List.forall_mem_cons]
    exact ⟨firm_name word, firm_of_spelt rfl nofun, nofun⟩

theorem firm_wrapped (needed : Bool) {tokens : List Token} (firm : ∀ found ∈ tokens, found.Firm) :
    ∀ found ∈ wrapped needed tokens, found.Firm := by
  cases needed with
  | false => exact firm
  | true =>
      simp only [wrapped, if_true, List.forall_mem_cons, List.forall_mem_append]
      exact ⟨firm_of_spelt rfl (by decide), firm, firm_of_spelt rfl (by decide),
        List.forall_mem_nil _⟩

theorem firm_connective (operator : Connective) : ∀ found ∈ operator.tokens, found.Firm := by
  have spelt : operator.token.Spelt := by
    cases operator with
    | and spelling =>
        cases spelling
        · exact .inl rfl
        · exact .inr rfl
    | or spelling implicit =>
        cases spelling <;> cases implicit <;> first | exact .inl rfl | exact .inr rfl
  have kind : operator.token.kind ≠ .identifier := by cases operator <;> nofun
  unfold Connective.tokens
  split
  · exact nofun
  · rw [List.forall_mem_singleton]
    exact firm_of_spelt spelt kind

theorem firm_not (spelling : Spelling) : spelling.notToken.Firm := by
  refine firm_of_spelt ?_ nofun
  cases spelling
  · exact .inl rfl
  · exact .inr rfl

theorem firm_relation (relation : Relation) : relation.token.Firm := by
  refine firm_of_spelt ?_ nofun
  cases relation
  · exact .inr (.inr (.inr rfl))
  · exact .inr (.inl rfl)
  · exact .inr (.inr (.inl rfl))
  · exact .inl rfl

theorem firm_brackets (relation : Relation) :
    relation.openingToken.Firm ∧ relation.closingToken.Firm := by
  constructor
  · refine firm_of_spelt ?_ nofun
    cases relation <;> first | exact .inl rfl | exact .inr rfl
  · refine firm_of_spelt ?_ nofun
    cases relation <;> first | exact .inl rfl | exact .inr rfl

theorem firm_tokens {e : Expr} (spellable : e.Spellable) : ∀ found ∈ e.tokens, found.Firm := by
  have colon : Token.colon.Firm := firm_of_spelt rfl nofun
  induction e with
  | binary operator left right leftFirm rightFirm =>
      rw [Expr.tokens_binary]
      simp only [List.forall_mem_append]
      exact ⟨firm_wrapped _ (leftFirm spellable.1), firm_connective operator,
        firm_wrapped _ (rightFirm spellable.2)⟩
  | not spelling operand firm =>
      rw [Expr.tokens_not, List.forall_mem_cons]
      exact ⟨firm_not spelling, firm_wrapped true (firm spellable)⟩
  | group field body firm =>
      simp only [Expr.tokens_group, List.forall_mem_cons]
      exact ⟨firm_name spellable.1, colon, firm_wrapped true (firm spellable.2)⟩
  | term field value =>
      simp only [Expr.tokens_term, List.forall_mem_append, List.forall_mem_singleton]
      exact ⟨firm_fieldTokens spellable.1, firm_name spellable.2⟩
  | phrase field value =>
      simp only [Expr.tokens_phrase, List.forall_mem_append, List.forall_mem_singleton]
      exact ⟨firm_fieldTokens spellable.1, firm_quoted spellable.2⟩
  | regex field value =>
      simp only [Expr.tokens_regex, List.forall_mem_append, List.forall_mem_singleton]
      exact ⟨firm_fieldTokens (.inr spellable.1), firm_of_spelt spellable.2 nofun⟩
  | range field lower upper =>
      have lowerFirm := firm_brackets lower.relation
      have upperFirm := firm_brackets upper.relation
      simp only [Expr.tokens_range, List.forall_mem_cons]
      exact ⟨firm_name spellable.1, colon, lowerFirm.1, firm_atom spellable.2.1,
        firm_of_spelt rfl nofun, firm_atom spellable.2.2, upperFirm.2, nofun⟩
  | comparison field bound =>
      simp only [Expr.tokens_comparison, List.forall_mem_cons]
      exact ⟨firm_name spellable.1, colon, firm_relation bound.relation, firm_atom spellable.2,
        nofun⟩

theorem Query.Printable.readable {query : Query} (printable : query.Printable) :
    query.body.Readable where
  shaped := printable.shaped
  bare := printable.bare
  spelt found member := (firm_tokens printable.spellable found member).1
  clears := List.pairwise_of_forall_mem_list fun word member later _ =>
    clears_of_firm (firm_tokens printable.spellable word member) later

/-- Such a tree is parsed back from its printed text within the levels counted on it,
and with fewer it is refused as too deep. -/
theorem parse_print_of_printable {query : Query} (printable : query.Printable) (limit : Nat) :
    (query.body.levels ≤ limit →
        parseWith ⟨implicitField, limit⟩ query.print = .ok query) ∧
      (limit < query.body.levels →
        ∃ offset, parseWith ⟨implicitField, limit⟩ query.print =
          .error (.grammatical (.tooDeep limit offset))) :=
  ⟨fun enough => printable.readable.parse_print printable.unglued enough,
    fun tight => printable.readable.refuse_print printable.unglued tight⟩

def mixedConjunction : Query :=
  ⟨.binary (.and .word) (.not .symbol (.term "*" "c"))
    (.binary (.and .word) (.binary (.or .word false) (.term "*" "a") (.regex "f" "/b/"))
      (.group "g" (.range "h" ⟨.term "1", .gt⟩ ⟨.phrase "2", .le⟩)))⟩

theorem parse_print_mixedConjunction :
    mixedConjunction.Printable ∧ mixedConjunction.body.levels = 3 ∧
      parseWith ⟨implicitField, 3⟩ mixedConjunction.print = .ok mixedConjunction ∧
      ∃ offset, parseWith ⟨implicitField, 2⟩ mixedConjunction.print =
        .error (.grammatical (.tooDeep 2 offset)) := by
  have printable : mixedConjunction.Printable := {
    spellable := ⟨⟨.inl rfl, by decide⟩, ⟨⟨.inl rfl, by decide⟩, by decide, ['b'], by decide, rfl⟩,
      by decide, by decide, by decide, by decide⟩
    shaped := ⟨nofun, ⟨trivial, rfl⟩,
      ⟨nofun, ⟨nofun, trivial, rfl, nofun, nofun⟩, ⟨⟨.inr rfl, .inl rfl⟩, rfl⟩,
        fun _ => rfl, nofun⟩,
      nofun, nofun⟩
    bare := rfl
    unglued := by decide }
  have levels : mixedConjunction.body.levels = 3 := by decide
  have enough : mixedConjunction.body.levels ≤ 3 := by decide
  have tight : 2 < mixedConjunction.body.levels := by decide
  exact ⟨printable, levels, (parse_print_of_printable printable 3).1 enough,
    (parse_print_of_printable printable 2).2 tight⟩

end SearchQuery
