import SearchQuery.Proofs.Supply

/-!
Texts put one behind the other with white space between them. Each is cut as it would be
alone, unless a word of the first text begins with a delimiter, which the second could close.
-/

namespace SearchQuery

def Token.Closed (token : Token) : Prop :=
  token.kind = .identifier → ∀ c, token.text.toList.head? = some c → c ≠ '\'' ∧ c ≠ '/'

def BeginsBlank (text : List Char) : Prop := ∀ c, text.head? = some c → Text.isBlank c = true

theorem head_append_blank {rest more : List Char} (begins : BeginsBlank more) {c : Char}
    (head : (rest ++ more).head? = some c) : rest.head? = some c ∨ Text.isBlank c = true := by
  rw [List.head?_append] at head
  rcases Option.or_eq_some_iff.mp head with first | ⟨-, later⟩
  · exact .inl first
  · exact .inr (begins c later)

theorem Apart.append_blank {kind : TokenKind} {text rest more : List Char}
    (apart : Apart kind text rest) (begins : BeginsBlank more)
    (closed : kind = .identifier → ∀ c, text.head? = some c → c ≠ '\'' ∧ c ≠ '/') :
    Apart kind text (rest ++ more) := by
  constructor
  case boundary =>
    intro word c head
    rcases head_append_blank begins head with first | blank
    · exact apart.boundary word c first
    · cases member : isIdentifierChar c with
      | false => rfl
      | true =>
          rw [isBlank_of_identifier member] at blank
          cases blank
  case unequal =>
    intro sign head
    rcases head_append_blank begins head with first | blank
    · exact apart.unequal sign first
    · revert blank
      decide
  case unclosed =>
    intro word c head delimiter
    obtain ⟨noQuote, noSlash⟩ := closed word c head
    exact (delimiter.elim noQuote noSlash).elim

namespace Tokenizer

/-- A token is pulled as before where white space is put behind the text. -/
theorem next_append_blank {t after : Tokenizer} {found : SpannedToken} {more : List Char}
    (answer : t.next = (.ok (some found), after)) (closed : found.token.Closed)
    (begins : BeginsBlank more) :
    (⟨t.rest ++ more, t.location⟩ : Tokenizer).next =
      (.ok (some found), ⟨after.rest ++ more, after.location⟩) := by
  obtain ⟨blanks, text, kind, blank, here, -, lexeme, apart, rfl, stands⟩ := next_found answer
  have wider : Apart kind text (after.rest ++ more) := by
    apply apart.append_blank begins
    simpa [Token.Closed] using closed
  have step := next_taken t.location blank lexeme wider
  rw [here, stands]
  simpa only [List.append_assoc] using step

/-! Places further on -/

def later (bytes : Nat) (t : Tokenizer) : Tokenizer := ⟨t.rest, bytes + t.location⟩

end Tokenizer

def SpannedToken.later (bytes : Nat) (found : SpannedToken) : SpannedToken :=
  ⟨found.token, bytes + found.start, bytes + found.stop⟩

def LexError.later (bytes : Nat) (error : LexError) : LexError :=
  ⟨bytes + error.offset, error.found⟩

namespace Tokenizer

theorem supplies_later {last : Nat} {t : Tokenizer} {tokens : List SpannedToken}
    {failure : Option LexError} (supplied : Supplies last t tokens failure) (bytes : Nat) :
    Supplies (bytes + last) (t.later bytes) (tokens.map (·.later bytes))
      (failure.map (·.later bytes)) := by
  induction supplied with
  | @ended t after answer stands =>
      have spent := exhausted answer nofun
      subst spent
      apply Supplies.ended (next_ended (bytes + t.location) (next_none answer))
      rw [← stands]
      exact Nat.add_assoc ..
  | @failed t after error answer =>
      obtain ⟨blanks, rest, blank, here, unruled, stands⟩ := next_failed answer
      have refused := next_refused (bytes + t.location) blank unruled
      rw [← here, Nat.add_assoc, ← stands] at refused
      exact .failed refused
  | @more t after found _ _ answer _ ih =>
      obtain ⟨blanks, text, kind, blank, here, -, lexeme, apart, rfl, stands⟩ := next_found answer
      have taken := next_taken (bytes + t.location) blank lexeme apart
      rw [← here, Nat.add_assoc bytes, Nat.add_assoc bytes, ← stands] at taken
      exact .more taken ih

/-! Two texts -/

/-- Behind the tokens of a text come, after some white space, those of what follows there. -/
theorem supplies_splice {last final : Nat} {t : Tokenizer} {tokens behind : List SpannedToken}
    {failure : Option LexError} {blanks text : List Char} (supplied : Supplies last t tokens none)
    (closed : ∀ found ∈ tokens, found.token.Closed) (some_blank : blanks ≠ [])
    (blank : ∀ c ∈ blanks, Text.isBlank c = true)
    (others : Supplies final (⟨text, t.finish + Text.byteLength blanks⟩ : Tokenizer) behind
      failure) :
    Supplies final (⟨t.rest ++ (blanks ++ text), t.location⟩ : Tokenizer) (tokens ++ behind)
      failure := by
  generalize whole : (none : Option LexError) = ending at supplied
  induction supplied with
  | @ended t after answer _ =>
      -- what is left of the first text is blank as well
      have allBlank : ∀ c ∈ t.rest ++ blanks, Text.isBlank c = true :=
        List.forall_mem_append.mpr ⟨next_none answer, blank⟩
      have skips := skipBlanks_append t.location text allBlank
      rw [Text.byteLength_append, ← Nat.add_assoc, List.append_assoc] at skips
      exact others.of_next_eq (congrArg scan skips)
  | failed => cases whole
  | @more t after found _ _ answer _ ih =>
      rw [List.forall_mem_cons] at closed
      have begins : BeginsBlank (blanks ++ text) := by
        intro c head
        obtain ⟨first, others, rfl⟩ := List.exists_cons_of_ne_nil some_blank
        cases head
        exact blank c List.mem_cons_self
      apply Supplies.more (next_append_blank answer closed.1 begins)
      apply ih closed.2 _ whole
      rwa [finish_of_next answer]

theorem drain_splice {source blanks : String} {tokens : List SpannedToken}
    (drained : (ofString source).drain = (tokens, none))
    (closed : ∀ found ∈ tokens, found.token.Closed) (some_blank : blanks ≠ "")
    (blank : ∀ c ∈ blanks.toList, Text.isBlank c = true) (text : String) :
    (ofString (source ++ blanks ++ text)).drain =
      (tokens ++ (ofString text).drain.1.map (·.later (source ++ blanks).utf8ByteSize),
        (ofString text).drain.2.map (·.later (source ++ blanks).utf8ByteSize)) := by
  have supplied := (ofString source).drain_supplies
  rw [drained] at supplied
  have finish : (ofString source).finish + Text.byteLength blanks.toList =
      (source ++ blanks).utf8ByteSize := by
    simp [finish, ofString]
  have chars : blanks.toList ≠ [] := mt String.toList_eq_nil_iff.mp some_blank
  apply drain_eq
  rw [← finish, ofString, String.toList_append, String.toList_append, List.append_assoc]
  exact supplies_splice supplied closed chars blank
    (supplies_later (ofString text).drain_supplies _)

end Tokenizer

/-- Behind white space a text is cut as if it stood alone, if no word before it waits for a
delimiter to be closed. -/
theorem tokenize_splice {source blanks : String} {tokens : List Token}
    (accepted : tokenize source = .ok tokens) (closed : ∀ token ∈ tokens, token.Closed)
    (some_blank : blanks ≠ "") (blank : ∀ c ∈ blanks.toList, Text.isBlank c = true) (text : String) :
    tokenize (source ++ blanks ++ text) =
      match tokenize text with
      | .ok others => .ok (tokens ++ others)
      | .error error => .error ⟨(source ++ blanks).utf8ByteSize + error.offset, error.found⟩ := by
  obtain ⟨supply, drained, rfl⟩ := drain_of_tokenize accepted
  rw [List.forall_mem_map] at closed
  have spliced := Tokenizer.drain_splice drained closed some_blank blank text
  cases second : (Tokenizer.ofString text).drain with
  | mk others failure =>
      rw [second] at spliced
      rw [tokenize_of_drain spliced, tokenize_of_drain second]
      cases failure with
      | none => simp [SpannedToken.later, Function.comp_def]
      | some error => rfl

/-- The comparison before the white space does not take the sign behind it. -/
theorem tokenize_splice_comparison :
    tokenize "é:\"'\"<" = .ok [⟨.identifier, "é"⟩, ⟨.fieldSeparator, ":"⟩,
        ⟨.quotedString, "\"'\""⟩, ⟨.relationalOperator, "<"⟩] ∧
      tokenize "=x' *" = .error ⟨4, '*'⟩ ∧
      tokenize ("é:\"'\"<" ++ " \u3000" ++ "=x' *") = .error ⟨15, '*'⟩ := by
  have accepted : tokenize "é:\"'\"<" = .ok [⟨.identifier, "é"⟩, ⟨.fieldSeparator, ":"⟩,
      ⟨.quotedString, "\"'\""⟩, ⟨.relationalOperator, "<"⟩] := rfl
  have refused : tokenize "=x' *" = .error ⟨4, '*'⟩ := rfl
  have blank : ∀ c ∈ " \u3000".toList, Text.isBlank c = true := List.all_eq_true.mp rfl
  have spliced := tokenize_splice accepted (by simp [Token.Closed]) (by simp) blank "=x' *"
  rw [refused] at spliced
  exact ⟨accepted, refused, spliced⟩

/-- The mark that begins the word `'a` is closed by the one that ends `b'`. -/
example : tokenize "'a" = .ok [⟨.identifier, "'a"⟩] ∧ tokenize "b'" = .ok [⟨.identifier, "b'"⟩] ∧
    tokenize ("'a" ++ " " ++ "b'") = .ok [⟨.quotedString, "'a b'"⟩] :=
  ⟨rfl, rfl, rfl⟩

end SearchQuery
