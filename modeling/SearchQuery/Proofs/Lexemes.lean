import Mathlib
import SearchQuery.Proofs.Spans

/-!
The tokens of a text. Each of them is spelt as its kind asks for and goes as far as it
can, up to what keeps it apart from the rest of the text, and no other token of any kind
could stand in its place.
-/

namespace SearchQuery

/-- Where two tokens could be taken off the front of a text, they are the same. -/
theorem lexeme_unique {kind other : TokenKind} {text rest first behind : List Char}
    (lexeme : Lexeme kind text) (apart : Apart kind text rest) (another : Lexeme other first)
    (separate : Apart other first behind) (same : text ++ rest = first ++ behind) :
    kind = other ∧ text = first := by
  have taken := firstMatch_of_lexeme lexeme apart
  rw [same, firstMatch_of_lexeme another separate] at taken
  injection taken with taken
  injection taken with kinds lengths
  exact ⟨kinds.symm, (List.append_inj same lengths.symm).1⟩

theorem apart_nil (kind : TokenKind) (text : List Char) : Apart kind text [] where
  boundary _ := nofun
  unequal _ := nofun
  unclosed _ _ _ _ := List.not_mem_nil

/-- A text is one token of a kind exactly if it is one of the texts of that kind. -/
theorem tokenize_one_iff {kind : TokenKind} {text : String} :
    tokenize text = .ok [⟨kind, text⟩] ↔ Lexeme kind text.toList := by
  rw [tokenize_ok_iff]
  constructor
  · intro lexes
    exact lexes.spelt ⟨kind, text⟩ List.mem_cons_self
  · intro lexeme
    have lexes : Lexes (text.toList ++ []) [⟨kind, String.ofList text.toList⟩] :=
      (lexes_append lexeme (apart_nil kind text.toList)).mpr ⟨[], rfl, .done nofun⟩
    rwa [List.append_nil, String.ofList_toList] at lexes

theorem mem_keywords_iff (word : String) :
    word.toList ∈ keywords ↔ word ∈ ["AND", "OR", "NOT", "TO"] := by
  have written : keywords = ["AND", "OR", "NOT", "TO"].map String.toList := by decide
  rw [written]
  exact List.mem_map_of_injective fun _ _ => String.toList_inj.mp

/-- The words that are one identifier. -/
theorem tokenize_identifier_iff (word : String) :
    tokenize word = .ok [⟨.identifier, word⟩] ↔
      word ≠ "" ∧ (∀ c ∈ word.toList, isIdentifierChar c = true) ∧
        word ∉ ["AND", "OR", "NOT", "TO"] ∧
        ∀ first rest, word.toList = first :: rest →
          first ≠ '-' ∧ first ≠ '!' ∧ (first = '\'' ∨ first = '/' → first ∉ rest) := by
  have some_char : word.toList ≠ [] ↔ word ≠ "" := not_congr String.toList_eq_nil_iff
  rw [tokenize_one_iff, ← mem_keywords_iff, ← some_char]
  rfl

/-- What a token is where this text stands behind it. -/
structure Token.Distinct (token : Token) (rest : List Char) : Prop where
  visible : token.kind ≠ .whitespace
  spelt : Lexeme token.kind token.text.toList
  apart : Apart token.kind token.text.toList rest
  only {kind : TokenKind} {text behind : List Char} (lexeme : Lexeme kind text)
    (separate : Apart kind text behind) (same : text ++ behind = token.text.toList ++ rest) :
    kind = token.kind ∧ text = token.text.toList

theorem Token.distinct_of_lexeme {token : Token} {rest : List Char}
    (lexeme : Lexeme token.kind token.text.toList)
    (apart : Apart token.kind token.text.toList rest) : token.Distinct rest := by
  constructor
  case visible =>
    intro blank
    rw [blank] at lexeme
    exact lexeme
  case spelt => exact lexeme
  case apart => exact apart
  case only =>
    intro kind text behind other separate same
    exact lexeme_unique other separate lexeme apart same

namespace Tokenizer

theorem supplies_distinct {last : Nat} {t : Tokenizer} {tokens : List SpannedToken}
    {failure : Option LexError} (supplied : Supplies last t tokens failure) :
    ∀ found ∈ tokens, ∃ before after, t.rest = before ++ (found.text.toList ++ after) ∧
      found.start = t.location + Text.byteLength before ∧ found.token.Distinct after := by
  induction supplied with
  | ended | failed => exact nofun
  | @more t next found _ _ answer _ ih =>
      obtain ⟨blanks, text, kind, -, here, -, lexeme, apart, same, stands⟩ := next_found answer
      have spelling : found.text.toList = text := by
        rw [same]
        exact String.toList_ofList
      rw [List.forall_mem_cons]
      constructor
      · refine ⟨blanks, next.rest, by rw [spelling, here], by rw [same], ?_⟩
        apply Token.distinct_of_lexeme
        · rw [same]
          simpa using lexeme
        · rw [same]
          simpa using apart
      · intro later member
        obtain ⟨before, after, rest, starts, distinct⟩ := ih later member
        refine ⟨blanks ++ (text ++ before), after, by simp [here, rest], ?_, distinct⟩
        rw [starts, stands]
        simp only [Text.byteLength_append]
        omega

end Tokenizer

/-- Every token of a text is in the language of its kind and kept apart from what follows it
there, up to the end of the text. -/
theorem drain_distinct (source : String) :
    ∀ token ∈ (Tokenizer.ofString source).drain.1, ∃ before after,
      source = before ++ token.text ++ after ∧ before.utf8ByteSize = token.start ∧
        token.token.Distinct after.toList := by
  intro token member
  have supplied := (Tokenizer.ofString source).drain_supplies
  obtain ⟨before, after, parts, starts, distinct⟩ :=
    Tokenizer.supplies_distinct supplied token member
  refine ⟨String.ofList before, String.ofList after, ?_, ?_, ?_⟩
  · simpa only [String.ofList_toList] using string_parts parts
  · rw [starts, ← Text.byteLength_ofList]
    exact (Nat.zero_add _).symm
  · rwa [String.toList_ofList]

/-- In `x:>='é #` the quotation mark is closed nowhere, so the word begins with it. -/
theorem drain_distinct_unclosed :
    ⟨⟨.identifier, "'é"⟩, 4, 7⟩ ∈ (Tokenizer.ofString "x:>='é #").drain.1 ∧
      ∃ before after, "x:>='é #" = before ++ "'é" ++ after ∧ before.utf8ByteSize = 4 ∧
        Token.Distinct ⟨.identifier, "'é"⟩ after.toList := by
  have drained : (Tokenizer.ofString "x:>='é #").drain =
      ([⟨⟨.identifier, "x"⟩, 0, 1⟩, ⟨⟨.fieldSeparator, ":"⟩, 1, 2⟩,
        ⟨⟨.relationalOperator, ">="⟩, 2, 4⟩, ⟨⟨.identifier, "'é"⟩, 4, 7⟩], some ⟨8, '#'⟩) := by
    cbv
  have member : ⟨⟨.identifier, "'é"⟩, 4, 7⟩ ∈ (Tokenizer.ofString "x:>='é #").drain.1 := by
    simp [drained]
  exact ⟨member, drain_distinct "x:>='é #" _ member⟩

end SearchQuery
