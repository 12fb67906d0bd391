import SearchQuery.Proofs.Spans

/-!
The texts that cannot be cut into tokens. Few characters begin no token: scanning fails at
such a character and nowhere else, and a text in which it does not fail keeps every one of
them inside a token.
-/

namespace SearchQuery

def strangers : List Char := ['.', '?', '*', '\\', '#', '@']

def suspects : List Char := '"' :: '&' :: '|' :: strangers

def Stray (c : Char) (rest : List Char) : Prop :=
  c ∈ strangers ∨ (c = '&' ∨ c = '|') ∧ rest.head? ≠ some c ∨ c = '"' ∧ '"' ∉ rest

section Characters

variable {c : Char} {rest : List Char}

theorem Stray.suspect (stray : Stray c rest) : c ∈ suspects := by
  rcases stray with stranger | ⟨rfl | rfl, -⟩ | ⟨rfl, -⟩
  · simp [suspects, stranger]
  · decide
  · decide
  · decide

theorem reserved_of_suspect (suspect : c ∈ suspects) : c ∈ reservedChars := by
  have inside : suspects.all reservedChars.contains = true := by decide
  simpa using List.all_eq_true.mp inside c suspect

theorem isBlank_of_reserved (reserved : c ∈ reservedChars) : Text.isBlank c = false := by
  have visible : reservedChars.all (!Text.isBlank ·) = true := by decide
  simpa using List.all_eq_true.mp visible c reserved

theorem isIdentifierChar_of_reserved (reserved : c ∈ reservedChars) :
    isIdentifierChar c = false := by
  simp [isIdentifierChar, reserved]

theorem reserved_of_unruled (unruled : firstMatch (c :: rest) = none) : c ∈ reservedChars := by
  have refused := firstMatch_eq_none.mp unruled ⟨.identifier, Pattern.run isIdentifierChar⟩
    (by simp [rules])
  have noWord := Pattern.run_eq_none_iff.mp refused
  simpa [isIdentifierChar, isBlank_of_unruled unruled] using noWord

open Pattern in
/-- No rule applies exactly at the stray characters. -/
theorem firstMatch_eq_none_iff : firstMatch (c :: rest) = none ↔ Stray c rest := by
  by_cases reserved : c ∈ reservedChars
  · have noBlank := isBlank_of_reserved reserved
    have noWord := isIdentifierChar_of_reserved reserved
    have doubled : ∀ sign : Char, [sign] <+: rest ↔ rest.head? = some sign := by
      intro sign
      cases rest <;> simp [eq_comm]
    rw [firstMatch_eq_none]
    -- one case for each reserved character, where the rules can be evaluated
    simp only [reservedChars, List.mem_cons, List.not_mem_nil, or_false] at reserved
    rcases reserved with rfl | rfl | rfl | rfl | rfl | rfl | rfl | rfl | rfl | rfl | rfl | rfl |
      rfl | rfl | rfl | rfl | rfl | rfl | rfl | rfl <;>
    simp [rules, run_eq_none_iff, either, delimited, literal, keyword, oneOf, comparison, Stray,
      strangers, noBlank, noWord, doubled]
  · constructor
    · intro unruled
      exact absurd (reserved_of_unruled unruled) reserved
    · intro stray
      exact absurd (reserved_of_suspect stray.suspect) reserved

end Characters

/-! Tokens that hold a suspect character -/

def Token.Shelters (token : Token) (c : Char) : Prop :=
  token.kind = .quotedString ∨ token.kind = .regex ∨
    c = '&' ∧ token = ⟨.logicalAnd, "&&"⟩ ∨ c = '|' ∧ token = ⟨.logicalOr, "||"⟩

theorem Token.Spelt.shelters {token : Token} (spelt : token.Spelt) {c : Char}
    (suspect : c ∈ suspects) (inside : c ∈ token.text.toList) : token.Shelters c := by
  obtain ⟨kind, text⟩ := token
  have elsewhere : ∀ {chars : List Char}, text.toList = chars →
      chars.all (!suspects.contains ·) = true → False := by
    rintro _ rfl harmless
    simpa [suspect] using List.all_eq_true.mp harmless c inside
  cases kind with
  | quotedString => exact .inl rfl
  | regex => exact .inr (.inl rfl)
  | identifier =>
      have word : isIdentifierChar c = true := spelt.2.1 c inside
      rw [isIdentifierChar_of_reserved (reserved_of_suspect suspect)] at word
      cases word
  | logicalAnd =>
      rcases spelt with word | sign
      · exact (elsewhere word (by decide)).elim
      · obtain rfl : text = "&&" := String.toList_inj.mp sign
        have same : c = '&' := by simpa [sign] using inside
        exact .inr (.inr (.inl ⟨same, rfl⟩))
  | logicalOr =>
      rcases spelt with word | sign
      · exact (elsewhere word (by decide)).elim
      · obtain rfl : text = "||" := String.toList_inj.mp sign
        have same : c = '|' := by simpa [sign] using inside
        exact .inr (.inr (.inr ⟨same, rfl⟩))
  | logicalNot | prefixOperator | rangeOpen | rangeClose =>
      rcases spelt with same | same <;> exact (elsewhere same (by decide)).elim
  | relationalOperator =>
      rcases spelt with same | same | same | same <;> exact (elsewhere same (by decide)).elim
  | fieldSeparator | tilde | groupOpen | groupClose | rangeTo =>
      exact (elsewhere spelt (by decide)).elim
  | whitespace => exact spelt.elim

/-! Where the characters of a text stand -/

def SpannedToken.Covers (token : SpannedToken) (byte : Nat) : Prop :=
  token.start ≤ byte ∧ byte < token.stop

/-- In a text that is cut to its end every visible character stands in a token. -/
theorem Cuts.covers {place : Nat} {text : List Char} {tokens : List SpannedToken}
    {failure : Option LexError} (cuts : Cuts place text tokens failure) (whole : failure = none)
    {before after : List Char} {c : Char} (parts : text = before ++ c :: after)
    (visible : Text.isBlank c = false) :
    ∃ token ∈ tokens, token.Covers (place + Text.byteLength before) ∧ c ∈ token.text.toList := by
  induction cuts generalizing before with
  | ended blank =>
      have hidden := blank c (by simp [parts])
      rw [visible] at hidden
      cases hidden
  | failed => cases whole
  | @token place start stop blanks text rest kind _ _ blank _ _ starts stops _ ih =>
      rcases append_eq_append_cons parts with ⟨middle, rfl, -⟩ | ⟨middle, rfl, behind⟩
      · have hidden := blank c (by simp)
        rw [visible] at hidden
        cases hidden
      · rcases append_eq_append_cons behind with ⟨others, rfl, -⟩ | ⟨others, rfl, later⟩
        · refine ⟨_, List.mem_cons_self, ?_, by simp [SpannedToken.text]⟩
          have positive := c.utf8Size_pos
          simp only [SpannedToken.Covers, Text.byteLength_append, Text.byteLength_cons] at *
          omega
        · obtain ⟨token, member, covers, inside⟩ := ih whole later
          refine ⟨token, List.mem_cons_of_mem _ member, ?_, inside⟩
          have same : stop + Text.byteLength others =
              place + Text.byteLength (blanks ++ (text ++ others)) := by
            simp only [Text.byteLength_append]
            omega
          rwa [← same]

/-- Scanning fails at a stray character, and a text in which it does not fail hides every
character that could be one inside a token. -/
theorem tokenize_stray_or_sheltered (source : String) :
    (∃ error before after, tokenize source = .error error ∧
        source = before ++ String.singleton error.found ++ after ∧
        before.utf8ByteSize = error.offset ∧ Stray error.found after.toList) ∨
      ∃ tokens, tokenizeSpanned source = .ok tokens ∧
        tokenize source = .ok (tokens.map (·.token)) ∧
        ∀ before c after, source = before ++ String.singleton c ++ after → c ∈ suspects →
          ∃ token ∈ tokens, token.Covers before.utf8ByteSize ∧ token.token.Shelters c := by
  have cuts : Cuts 0 source.toList _ _ := (Tokenizer.ofString source).drain_cuts
  have spelt := (Tokenizer.ofString source).drain_spelt
  cases drained : (Tokenizer.ofString source).drain with
  | mk tokens failure =>
      rw [drained] at cuts spelt
      cases failure with
      | some error =>
          obtain ⟨before, after, parts, stands, unruled, -⟩ := cuts.fails rfl
          refine .inl ⟨error, String.ofList before, String.ofList after, ?_, ?_, ?_, ?_⟩
          · exact tokenize_of_drain drained
          · rw [String.singleton_eq_ofList]
            exact @string_parts source before [error.found] after parts
          · rw [stands, Nat.zero_add, Text.byteLength_ofList]
          · rw [String.toList_ofList]
            exact firstMatch_eq_none_iff.mp unruled
      | none =>
          refine .inr ⟨tokens, tokenizeSpanned_of_drain drained, tokenize_of_drain drained, ?_⟩
          intro before c after parts suspect
          have visible := isBlank_of_reserved (reserved_of_suspect suspect)
          have chars : source.toList = before.toList ++ c :: after.toList := by simp [parts]
          obtain ⟨token, member, covers, inside⟩ := cuts.covers rfl chars visible
          refine ⟨token, member, ?_, (spelt token member).shelters suspect inside⟩
          rwa [Nat.zero_add, Text.byteLength_toList] at covers

end SearchQuery
