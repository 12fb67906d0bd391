import SearchQuery.Proofs.Supply

/-!
Cutting a text into tokens loses nothing. Every token is the piece of the text that
its span says, the spans follow one another, and between them there is nothing but
white space, up to the end or to the character at which scanning fails.
-/

namespace SearchQuery

/-- How a text that starts at this byte is cut: blanks, then a token of the first rule that
applies, up to the end or a character to which no rule applies. -/
inductive Cuts : Nat → List Char → List SpannedToken → Option LexError → Prop where
  | ended {place : Nat} {blanks : List Char} (blank : ∀ c ∈ blanks, Text.isBlank c = true) :
      Cuts place blanks [] none
  | failed {place : Nat} {blanks rest : List Char} {error : LexError}
      (blank : ∀ c ∈ blanks, Text.isBlank c = true)
      (unruled : firstMatch (error.found :: rest) = none)
      (stands : error.offset = place + Text.byteLength blanks) :
      Cuts place (blanks ++ error.found :: rest) [] (some error)
  | token {place start stop : Nat} {blanks text rest : List Char} {kind : TokenKind}
      {tokens : List SpannedToken} {failure : Option LexError}
      (blank : ∀ c ∈ blanks, Text.isBlank c = true) (some_char : text ≠ [])
      (ruled : firstMatch (text ++ rest) = some (kind, text.length))
      (starts : start = place + Text.byteLength blanks)
      (stops : stop = start + Text.byteLength text) (later : Cuts stop rest tokens failure) :
      Cuts place (blanks ++ (text ++ rest)) (⟨⟨kind, String.ofList text⟩, start, stop⟩ :: tokens)
        failure

namespace Tokenizer

theorem supplies_cuts {last : Nat} {t : Tokenizer} {tokens : List SpannedToken}
    {failure : Option LexError} (supplied : Supplies last t tokens failure) :
    Cuts t.location t.rest tokens failure := by
  induction supplied with
  | ended answer _ => exact .ended (next_none answer)
  | failed answer =>
      obtain ⟨blanks, rest, blank, here, unruled, stands⟩ := next_failed answer
      rw [here]
      exact .failed blank unruled stands
  | more answer _ later =>
      obtain ⟨blanks, text, kind, blank, here, ruled, lexeme, -, rfl, stops⟩ := next_found answer
      obtain ⟨c, cs, rfl, -⟩ := lexeme_head lexeme
      rw [here]
      exact .token blank (List.cons_ne_nil c cs) ruled rfl stops later

theorem drain_cuts (t : Tokenizer) : Cuts t.location t.rest t.drain.1 t.drain.2 :=
  supplies_cuts t.drain_supplies

end Tokenizer

theorem byteLength_pos {text : List Char} (some_char : text ≠ []) : 0 < Text.byteLength text := by
  obtain ⟨c, cs, rfl⟩ := List.exists_cons_of_ne_nil some_char
  exact Nat.add_pos_left c.utf8Size_pos _

/-- Every byte of a text is one of the bytes of some character. -/
theorem char_at {text : List Char} {place : Nat} (inside : place < Text.byteLength text) :
    ∃ before c after, text = before ++ c :: after ∧ Text.byteLength before ≤ place ∧
      place < Text.byteLength before + c.utf8Size := by
  induction text generalizing place with
  | nil => cases inside
  | cons first text ih =>
      by_cases here : place < first.utf8Size
      · exact ⟨[], first, text, rfl, Nat.zero_le place, by simpa using here⟩
      · rw [Text.byteLength_cons] at inside
        obtain ⟨before, c, after, rfl, low, high⟩ := @ih (place - first.utf8Size) (by omega)
        exact ⟨first :: before, c, after, rfl, by simp; omega, by simp; omega⟩

def Occupies (place : Nat) (text : List Char) (token : SpannedToken) : Prop :=
  ∃ before after, text = before ++ (token.text.toList ++ after) ∧
    token.start = place + Text.byteLength before ∧
    token.stop = token.start + Text.byteLength token.text.toList ∧ token.start < token.stop

def BlankAt (place : Nat) (text : List Char) (byte : Nat) : Prop :=
  ∃ before c after, text = before ++ c :: after ∧ Text.isBlank c = true ∧
    place + Text.byteLength before ≤ byte ∧ byte < place + Text.byteLength before + c.utf8Size

section Behind

variable {place : Nat} {first text : List Char}

theorem Occupies.behind {token : SpannedToken}
    (occupies : Occupies (place + Text.byteLength first) text token) :
    Occupies place (first ++ text) token := by
  obtain ⟨before, after, rfl, starts, stops⟩ := occupies
  refine ⟨first ++ before, after, by simp, ?_, stops⟩
  rw [starts, Text.byteLength_append, Nat.add_assoc]

theorem BlankAt.behind {byte : Nat} (at_blank : BlankAt (place + Text.byteLength first) text byte) :
    BlankAt place (first ++ text) byte := by
  obtain ⟨before, c, after, rfl, blank, low, high⟩ := at_blank
  refine ⟨first ++ before, c, after, by simp, blank, ?_, ?_⟩
  · simpa [Nat.add_assoc] using low
  · simpa [Nat.add_assoc] using high

theorem blankAt_of_blanks {byte : Nat} (blank : ∀ c ∈ first, Text.isBlank c = true)
    (low : place ≤ byte) (high : byte < place + Text.byteLength first) (rest : List Char) :
    BlankAt place (first ++ rest) byte := by
  have inside : byte - place < Text.byteLength first := by omega
  obtain ⟨before, c, after, rfl, from_here, to_here⟩ := char_at inside
  exact ⟨before, c, after ++ rest, by simp, blank c (by simp), by omega, by omega⟩

end Behind

namespace Cuts

variable {place : Nat} {text : List Char} {tokens : List SpannedToken} {failure : Option LexError}

theorem occupies (cuts : Cuts place text tokens failure) :
    ∀ token ∈ tokens, Occupies place text token := by
  induction cuts with
  | ended | failed => exact nofun
  | @token place start stop blanks text rest _ _ _ blank some_char ruled starts stops _ ih =>
      rw [List.forall_mem_cons]
      have positive := byteLength_pos some_char
      refine ⟨⟨blanks, rest, ?_, starts, ?_, ?_⟩, fun token member => ?_⟩
      · simp [SpannedToken.text]
      · simpa [SpannedToken.text] using stops
      · simp only
        omega
      · rw [← List.append_assoc]
        refine Occupies.behind ?_
        rw [Text.byteLength_append, ← Nat.add_assoc, ← starts, ← stops]
        exact ih token member

theorem starts_behind (cuts : Cuts place text tokens failure) :
    ∀ token ∈ tokens, place ≤ token.start := by
  intro token member
  obtain ⟨before, _, _, starts, _⟩ := cuts.occupies token member
  omega

theorem ordered (cuts : Cuts place text tokens failure) :
    tokens.Pairwise fun first second => first.stop ≤ second.start := by
  induction cuts with
  | ended | failed => exact .nil
  | token _ _ _ _ _ later ih => exact .cons later.starts_behind ih

/-- Up to the failure a byte that belongs to no token belongs to a blank. -/
theorem blank (cuts : Cuts place text tokens failure) {byte : Nat} (low : place ≤ byte)
    (high : byte < place + Text.byteLength text)
    (early : ∀ error, failure = some error → byte < error.offset)
    (outside : ∀ token ∈ tokens, ¬ (token.start ≤ byte ∧ byte < token.stop)) :
    BlankAt place text byte := by
  induction cuts with
  | @ended place blanks blank =>
      have at_blank := blankAt_of_blanks blank low high []
      rwa [List.append_nil] at at_blank
  | failed blank _ stands =>
      have before := early _ rfl
      exact blankAt_of_blanks blank low (by omega) _
  | @token place start stop blanks text rest _ _ _ blank some_char _ starts stops _ ih =>
      rw [List.forall_mem_cons] at outside
      by_cases before : byte < start
      · exact blankAt_of_blanks blank low (by omega) _
      · have reached : stop ≤ byte := by
          have := outside.1
          simp only at this
          omega
        simp only [Text.byteLength_append] at high
        rw [← List.append_assoc]
        refine BlankAt.behind ?_
        rw [Text.byteLength_append, ← Nat.add_assoc, ← starts, ← stops]
        exact ih reached (by omega) early outside.2

/-- Scanning fails behind all tokens, at a character to which no rule applies. -/
theorem fails (cuts : Cuts place text tokens failure) {error : LexError}
    (failed : failure = some error) :
    ∃ before after, text = before ++ error.found :: after ∧
      error.offset = place + Text.byteLength before ∧ firstMatch (error.found :: after) = none ∧
      ∀ token ∈ tokens, token.stop ≤ error.offset := by
  induction cuts with
  | ended => cases failed
  | @failed _ blanks rest _ _ unruled stands =>
      cases failed
      exact ⟨blanks, rest, rfl, stands, unruled, nofun⟩
  | @token place start stop blanks text _ _ _ _ _ _ _ starts stops _ ih =>
      obtain ⟨before, after, rfl, stands, unruled, behind⟩ := ih failed
      refine ⟨blanks ++ (text ++ before), after, by simp, ?_, unruled, ?_⟩
      · simp only [Text.byteLength_append]
        omega
      · rw [List.forall_mem_cons]
        refine ⟨?_, behind⟩
        simp only
        omega

end Cuts

/-- The tokens and their spans are the whole text but for its blanks, up to the failure. -/
structure Lossless (source : String) (tokens : List SpannedToken) (failure : Option LexError) :
    Prop where
  cut : ∀ token ∈ tokens, ∃ before after, source = before ++ token.text ++ after ∧
    token.start = before.utf8ByteSize ∧ token.stop = token.start + token.text.utf8ByteSize ∧
    token.start < token.stop
  ordered : tokens.Pairwise fun first second => first.stop ≤ second.start
  blank : ∀ byte < (failure.map (·.offset)).getD source.utf8ByteSize,
    (∀ token ∈ tokens, ¬ (token.start ≤ byte ∧ byte < token.stop)) →
    ∃ before c after, source = before ++ String.singleton c ++ after ∧ Text.isBlank c = true ∧
      before.utf8ByteSize ≤ byte ∧ byte < before.utf8ByteSize + c.utf8Size
  fails : ∀ error, failure = some error →
    ∃ before after, source = before ++ String.singleton error.found ++ after ∧
      error.offset = before.utf8ByteSize ∧ error.offset < source.utf8ByteSize ∧
      (∀ rule ∈ rules, rule.pattern (error.found :: after.toList) = none) ∧
      ∀ token ∈ tokens, token.stop ≤ error.offset

theorem string_parts {source : String} {before middle after : List Char}
    (parts : source.toList = before ++ (middle ++ after)) :
    source = String.ofList before ++ String.ofList middle ++ String.ofList after := by
  rw [← String.ofList_append, ← String.ofList_append, List.append_assoc, ← parts,
    String.ofList_toList]

theorem Cuts.lossless {source : String} {tokens : List SpannedToken} {failure : Option LexError}
    (cuts : Cuts 0 source.toList tokens failure) : Lossless source tokens failure := by
  have whole := Text.byteLength_toList source
  have inside : ∀ error, failure = some error → error.offset < source.utf8ByteSize := by
    intro error failed
    obtain ⟨before, after, parts, stands, -⟩ := cuts.fails failed
    rw [← whole, parts, stands, Nat.zero_add, Text.byteLength_append]
    exact Nat.lt_add_of_pos_right (byteLength_pos (List.cons_ne_nil _ _))
  constructor
  case cut =>
    intro token member
    obtain ⟨before, after, parts, starts, stops, some_byte⟩ := cuts.occupies token member
    refine ⟨String.ofList before, String.ofList after, ?_, ?_, ?_, some_byte⟩
    · simpa only [String.ofList_toList] using string_parts parts
    · rw [starts, Nat.zero_add, Text.byteLength_ofList]
    · rw [stops, Text.byteLength_toList]
  case ordered => exact cuts.ordered
  case blank =>
    intro byte high outside
    have early : ∀ error, failure = some error → byte < error.offset := by
      rintro error rfl
      exact high
    have reached : byte < 0 + Text.byteLength source.toList := by
      rw [whole, Nat.zero_add]
      cases failure with
      | none => exact high
      | some error => exact Nat.lt_trans high (inside error rfl)
    obtain ⟨before, c, after, parts, blank, low, upto⟩ :=
      cuts.blank (Nat.zero_le byte) reached early outside
    rw [Nat.zero_add, Text.byteLength_ofList] at low upto
    refine ⟨String.ofList before, c, String.ofList after, ?_, blank, low, upto⟩
    rw [String.singleton_eq_ofList]
    exact @string_parts source before [c] after parts
  case fails =>
    intro error failed
    obtain ⟨before, after, parts, stands, unruled, behind⟩ := cuts.fails failed
    refine ⟨String.ofList before, String.ofList after, ?_, ?_, inside error failed, ?_, behind⟩
    · rw [String.singleton_eq_ofList]
      exact @string_parts source before [error.found] after parts
    · rw [stands, Nat.zero_add, Text.byteLength_ofList]
    · rw [String.toList_ofList]
      exact firstMatch_eq_none.mp unruled

/-- The tokens taken before the end or before the first failure lose nothing of the text. -/
theorem tokenizeSpanned_lossless (source : String) :
    ∃ tokens failure, (Tokenizer.ofString source).drain = (tokens, failure) ∧
      tokenizeSpanned source = failure.elim (.ok tokens) .error ∧
      Lossless source tokens failure := by
  have lossless := Cuts.lossless (Tokenizer.ofString source).drain_cuts
  cases drained : (Tokenizer.ofString source).drain with
  | mk tokens failure =>
      rw [drained] at lossless
      refine ⟨tokens, failure, rfl, ?_, lossless⟩
      unfold tokenizeSpanned
      rw [drained]
      cases failure <;> rfl

end SearchQuery
