import Mathlib.Data.List.TakeWhile
import SearchQuery.Proofs.Feed
import SearchQuery.Proofs.Scanning

/-!
How a text falls into tokens, said without a tokenizer, and that this is what the
tokenizer gives out. With it the parser of texts is a relation between a text and
a tree.
-/

namespace SearchQuery

/-- What stands in two lists on end stands in the first or in the second. -/
theorem append_eq_append_cons {α : Type} {left right before rest : List α} {found : α}
    (parts : left ++ right = before ++ found :: rest) :
    (∃ later, left = before ++ found :: later ∧ rest = later ++ right) ∨
      ∃ early, before = left ++ early ∧ right = early ++ found :: rest := by
  rcases List.append_eq_append_iff.mp parts with ⟨early, rfl, rfl⟩ | ⟨_ | ⟨first, later⟩, rfl, same⟩
  · exact .inr ⟨early, rfl, rfl⟩
  · exact .inr ⟨[], by simp, same.symm⟩
  · cases same
    exact .inl ⟨later, rfl, rfl⟩

/-- The text is these tokens, with blanks before any of them and at the end. -/
inductive Lexes : List Char → List Token → Prop where
  | done {blanks : List Char} (blank : ∀ c ∈ blanks, Text.isBlank c = true) : Lexes blanks []
  | token {blanks text rest : List Char} {kind : TokenKind} {tokens : List Token}
      (blank : ∀ c ∈ blanks, Text.isBlank c = true) (lexeme : Lexeme kind text)
      (apart : Apart kind text rest) (later : Lexes rest tokens) :
      Lexes (blanks ++ (text ++ rest)) (⟨kind, String.ofList text⟩ :: tokens)

theorem lexeme_head {kind : TokenKind} {text : List Char} (lexeme : Lexeme kind text) :
    ∃ c cs, text = c :: cs ∧ Text.isBlank c = false := by
  cases kind with
  | identifier =>
      obtain ⟨some_char, members, -⟩ := lexeme
      obtain ⟨c, cs, rfl⟩ := List.exists_cons_of_ne_nil some_char
      exact ⟨c, cs, rfl, isBlank_of_identifier (members c List.mem_cons_self)⟩
  | whitespace => exact lexeme.elim
  | quotedString =>
      obtain ⟨quote, body, rfl | rfl, -, rfl⟩ := lexeme <;> exact ⟨_, _, rfl, by decide⟩
  | regex =>
      obtain ⟨body, -, rfl⟩ := lexeme
      exact ⟨_, _, rfl, by decide⟩
  | relationalOperator => rcases lexeme with rfl | rfl | rfl | rfl <;> exact ⟨_, _, rfl, by decide⟩
  | logicalAnd | logicalOr | logicalNot | prefixOperator | rangeOpen | rangeClose =>
      rcases lexeme with rfl | rfl <;> exact ⟨_, _, rfl, by decide⟩
  | fieldSeparator | tilde | groupOpen | groupClose | rangeTo =>
      cases lexeme
      exact ⟨_, _, rfl, by decide⟩

/-! The tokenizer -/

namespace Tokenizer

theorem drop_takeWhile (member : Char → Bool) (cs : List Char) :
    cs.drop (cs.takeWhile member).length = cs.dropWhile member := by
  induction cs with
  | nil => rfl
  | cons c cs ih => by_cases inside : member c = true <;> simp [inside, ih]

theorem skipBlanks_rest (t : Tokenizer) : t.skipBlanks.rest = t.rest.dropWhile Text.isBlank :=
  drop_takeWhile Text.isBlank t.rest

theorem skipped (t : Tokenizer) :
    ∃ blanks, (∀ c ∈ blanks, Text.isBlank c = true) ∧ t.rest = blanks ++ t.skipBlanks.rest ∧
      t.skipBlanks.location = t.location + Text.byteLength blanks ∧
      ∀ c, t.skipBlanks.rest.head? = some c → Text.isBlank c = false := by
  refine ⟨t.rest.takeWhile Text.isBlank, List.all_eq_true.mp List.all_takeWhile, ?_, ?_, ?_⟩
  · rw [skipBlanks_rest, List.takeWhile_append_dropWhile]
  · rw [List.prefix_iff_eq_take.mp (List.takeWhile_prefix Text.isBlank)]
    rfl
  · intro c head
    have stops := List.head?_dropWhile_not Text.isBlank t.rest
    rw [← skipBlanks_rest, head] at stops
    simpa using stops

theorem skipBlanks_eq (place : Nat) {blanks rest : List Char}
    (blank : ∀ c ∈ blanks, Text.isBlank c = true)
    (stops : ∀ c, rest.head? = some c → Text.isBlank c = false) :
    (⟨blanks ++ rest, place⟩ : Tokenizer).skipBlanks = ⟨rest, place + Text.byteLength blanks⟩ := by
  simp [skipBlanks, advance, Pattern.takeWhile_run blank stops]

/-- Blanks in front of a text only move the place at which it is scanned. -/
theorem skipBlanks_append (place : Nat) {blanks : List Char} (rest : List Char)
    (blank : ∀ c ∈ blanks, Text.isBlank c = true) :
    (⟨blanks ++ rest, place⟩ : Tokenizer).skipBlanks =
      (⟨rest, place + Text.byteLength blanks⟩ : Tokenizer).skipBlanks := by
  obtain ⟨more, moreBlank, here, -, stops⟩ :=
    (⟨rest, place + Text.byteLength blanks⟩ : Tokenizer).skipped
  generalize (⟨rest, place + Text.byteLength blanks⟩ : Tokenizer).skipBlanks.rest = last
    at here stops
  obtain rfl : rest = more ++ last := here
  have allBlank : ∀ c ∈ blanks ++ more, Text.isBlank c = true :=
    List.forall_mem_append.mpr ⟨blank, moreBlank⟩
  rw [skipBlanks_eq _ moreBlank stops, ← List.append_assoc, skipBlanks_eq _ allBlank stops,
    Text.byteLength_append, Nat.add_assoc]

/-! The three things a step can do -/

section Next

variable (place : Nat) {blanks : List Char} (blank : ∀ c ∈ blanks, Text.isBlank c = true)

include blank

theorem next_taken {text rest : List Char} {kind : TokenKind} (lexeme : Lexeme kind text)
    (apart : Apart kind text rest) :
    (⟨blanks ++ (text ++ rest), place⟩ : Tokenizer).next =
      (.ok (some ⟨⟨kind, String.ofList text⟩, place + Text.byteLength blanks,
          place + Text.byteLength blanks + Text.byteLength text⟩),
        ⟨rest, place + Text.byteLength blanks + Text.byteLength text⟩) := by
  have taken := firstMatch_of_lexeme lexeme apart
  obtain ⟨c, cs, rfl, noBlank⟩ := lexeme_head lexeme
  have stops : ∀ first, (c :: cs ++ rest).head? = some first → Text.isBlank first = false := by
    rintro _ ⟨⟩
    exact noBlank
  rw [next, skipBlanks_eq place blank stops]
  simp only [List.cons_append] at taken ⊢
  simp [scan, taken, take, advance]

theorem next_ended :
    (⟨blanks, place⟩ : Tokenizer).next = (.ok none, ⟨[], place + Text.byteLength blanks⟩) := by
  have skipped := skipBlanks_append place [] blank
  rw [List.append_nil] at skipped
  rw [next, skipped]
  rfl

theorem next_refused {c : Char} {rest : List Char} (unruled : firstMatch (c :: rest) = none) :
    (⟨blanks ++ c :: rest, place⟩ : Tokenizer).next =
      (.error ⟨place + Text.byteLength blanks, c⟩,
        ⟨[], place + Text.byteLength blanks + Text.byteLength (c :: rest)⟩) := by
  have stops : ∀ first, (c :: rest).head? = some first → Text.isBlank first = false := by
    rintro _ ⟨⟩
    exact isBlank_of_unruled unruled
  rw [next, skipBlanks_eq place blank stops]
  simp [scan, unruled, advance]

end Next

theorem next_token {t : Tokenizer} {blanks text rest : List Char} {kind : TokenKind}
    (blank : ∀ c ∈ blanks, Text.isBlank c = true) (lexeme : Lexeme kind text)
    (apart : Apart kind text rest) (here : t.rest = blanks ++ (text ++ rest)) :
    ∃ found after, t.next = (.ok (some found), after) ∧
      found.token = ⟨kind, String.ofList text⟩ ∧ after.rest = rest := by
  obtain ⟨_, place⟩ := t
  cases here
  exact ⟨_, _, next_taken _ blank lexeme apart, rfl, rfl⟩

theorem next_end {t : Tokenizer} (blank : ∀ c ∈ t.rest, Text.isBlank c = true) :
    ∃ after, t.next = (.ok none, after) :=
  ⟨_, next_ended _ blank⟩

theorem next_none {t after : Tokenizer} (answer : t.next = (.ok none, after)) :
    ∀ c ∈ t.rest, Text.isBlank c = true := by
  apply List.dropWhile_eq_nil_iff.mp
  rw [← skipBlanks_rest]
  unfold next scan at answer
  split at answer
  · assumption
  · split at answer <;> cases answer

/-- A token is pulled where the first rule that applies behind the blanks says so. -/
theorem next_found {t after : Tokenizer} {found : SpannedToken}
    (answer : t.next = (.ok (some found), after)) :
    ∃ blanks text kind, (∀ c ∈ blanks, Text.isBlank c = true) ∧
      t.rest = blanks ++ (text ++ after.rest) ∧
      firstMatch (text ++ after.rest) = some (kind, text.length) ∧
      Lexeme kind text ∧ Apart kind text after.rest ∧
      found = ⟨⟨kind, String.ofList text⟩, t.location + Text.byteLength blanks, after.location⟩ ∧
      after.location = t.location + Text.byteLength blanks + Text.byteLength text := by
  obtain ⟨blanks, blank, here, place, stops⟩ := t.skipped
  unfold next scan at answer
  split at answer
  · cases answer
  · rename_i c cs stands
    have noBlank := stops c (by rw [stands]; rfl)
    split at answer
    · rename_i kind count taken
      cases answer
      rw [stands] at taken
      obtain ⟨text, rest, same, rfl, lexeme, apart⟩ := spells_of_firstMatch noBlank taken
      rw [stands, same] at here
      rw [same] at taken
      have remains : (t.skipBlanks.advance text.length).rest = rest := by
        simp [advance, stands, same]
      rw [remains]
      refine ⟨blanks, text, kind, blank, here, taken, lexeme, apart, ?_, ?_⟩
      · simp [take, stands, same, place]
      · simp [advance, stands, same, place]
    · cases answer

theorem next_some {t after : Tokenizer} {found : SpannedToken}
    (answer : t.next = (.ok (some found), after)) :
    ∃ blanks text kind, t.rest = blanks ++ (text ++ after.rest) ∧
      (∀ c ∈ blanks, Text.isBlank c = true) ∧ Lexeme kind text ∧ Apart kind text after.rest ∧
      found.token = ⟨kind, String.ofList text⟩ := by
  obtain ⟨blanks, text, kind, blank, here, -, lexeme, apart, rfl, -⟩ := next_found answer
  exact ⟨blanks, text, kind, here, blank, lexeme, apart, rfl⟩

/-- Scanning fails where no rule applies behind the blanks. -/
theorem next_failed {t after : Tokenizer} {error : LexError}
    (answer : t.next = (.error error, after)) :
    ∃ blanks rest, (∀ c ∈ blanks, Text.isBlank c = true) ∧
      t.rest = blanks ++ error.found :: rest ∧ firstMatch (error.found :: rest) = none ∧
      error.offset = t.location + Text.byteLength blanks := by
  obtain ⟨blanks, blank, here, place, -⟩ := t.skipped
  unfold next scan at answer
  split at answer
  · cases answer
  · rename_i c cs stands
    split at answer
    · cases answer
    · rename_i unruled
      cases answer
      rw [stands] at unruled here
      exact ⟨blanks, cs, blank, here, unruled, place⟩

end Tokenizer

theorem lexes_of_feeds {t : Tokenizer} {tokens : List Token} (feeds : Feeds t tokens) :
    Lexes t.rest tokens := by
  induction feeds with
  | done answer => exact .done (Tokenizer.next_none answer)
  | more answer _ later =>
      obtain ⟨blanks, text, kind, here, blank, lexeme, apart, same⟩ := Tokenizer.next_some answer
      rw [here, same]
      exact .token blank lexeme apart later

theorem feeds_of_lexes {cs : List Char} {tokens : List Token} (lexes : Lexes cs tokens)
    (t : Tokenizer) (here : t.rest = cs) : Feeds t tokens := by
  induction lexes generalizing t with
  | done blank =>
      obtain ⟨after, answer⟩ := Tokenizer.next_end (here ▸ blank)
      exact .done answer
  | token blank lexeme apart _ later =>
      obtain ⟨found, after, answer, same, remains⟩ :=
        Tokenizer.next_token blank lexeme apart here
      rw [← same]
      exact .more answer (later after remains)

/-! Taking tokens off the front of a text -/

theorem lexes_append {text rest : List Char} {kind : TokenKind} {tokens : List Token}
    (lexeme : Lexeme kind text) (apart : Apart kind text rest) :
    Lexes (text ++ rest) tokens ↔
      ∃ later, tokens = ⟨kind, String.ofList text⟩ :: later ∧ Lexes rest later := by
  constructor
  · intro lexes
    have feeds := feeds_of_lexes lexes ⟨text ++ rest, 0⟩ rfl
    obtain ⟨found, after, answer, same, remains⟩ :=
      Tokenizer.next_token (t := ⟨text ++ rest, 0⟩) (List.forall_mem_nil _) lexeme apart rfl
    cases feeds with
    | done other => simp [TokenFeed.next, answer] at other
    | more other later =>
        rw [show TokenFeed.next _ = _ from answer] at other
        cases other
        exact ⟨_, by rw [same], remains ▸ lexes_of_feeds later⟩
  · rintro ⟨later, rfl, lexes⟩
    have spelled := Lexes.token (List.forall_mem_nil _) lexeme apart lexes
    exact spelled

theorem lexes_blank {c : Char} {rest : List Char} {tokens : List Token}
    (blank : Text.isBlank c = true) : Lexes (c :: rest) tokens ↔ Lexes rest tokens := by
  constructor
  · intro lexes
    generalize same : c :: rest = whole at lexes
    cases lexes with
    | done blanks =>
        subst same
        exact .done fun other member => blanks other (List.mem_cons_of_mem c member)
    | @token blanks text after kind later blanks_blank lexeme apart lexes =>
        cases blanks with
        | nil =>
            -- a token does not begin with a blank
            obtain ⟨head, tail, rfl, noBlank⟩ := lexeme_head lexeme
            cases same
            rw [blank] at noBlank
            cases noBlank
        | cons first blanks =>
            cases same
            exact .token (fun other member => blanks_blank other (List.mem_cons_of_mem _ member))
              lexeme apart lexes
  · intro lexes
    cases lexes with
    | done blanks => exact .done (List.forall_mem_cons.mpr ⟨blank, blanks⟩)
    | token blanks lexeme apart lexes =>
        have spelled :=
          Lexes.token (List.forall_mem_cons.mpr ⟨blank, blanks⟩) lexeme apart lexes
        exact spelled

/-! The tokens of a text -/

def Token.Spelt (token : Token) : Prop := Lexeme token.kind token.text.toList

/-- A word that begins with an unmatched delimiter meets no second one later. -/
def Clears (word later : Token) : Prop :=
  word.kind = .identifier → ∀ c, word.text.toList.head? = some c → c = '\'' ∨ c = '/' →
    c ∉ later.text.toList

namespace Lexes

variable {cs : List Char} {tokens : List Token}

theorem spelt (lexes : Lexes cs tokens) : ∀ token ∈ tokens, token.Spelt := by
  induction lexes with
  | done => exact nofun
  | token _ lexeme _ _ ih =>
      rw [List.forall_mem_cons]
      exact ⟨by simpa [Token.Spelt] using lexeme, ih⟩

theorem chars (lexes : Lexes cs tokens) : ∀ token ∈ tokens, ∀ c ∈ token.text.toList, c ∈ cs := by
  induction lexes with
  | done => exact nofun
  | token _ _ _ _ ih =>
      rw [List.forall_mem_cons]
      refine ⟨fun c member => ?_, fun token member c inside => ?_⟩
      · have inside : c ∈ _ := String.toList_ofList ▸ member
        exact List.mem_append_right _ (List.mem_append_left _ inside)
      · exact List.mem_append_right _ (List.mem_append_right _ (ih token member c inside))

theorem clears (lexes : Lexes cs tokens) : tokens.Pairwise Clears := by
  induction lexes with
  | done => exact .nil
  | token _ _ apart later ih =>
      -- the later tokens lie in the rest of the text, where the delimiter is not
      refine .cons (fun token member word c head either inside => ?_) ih
      rw [String.toList_ofList] at head
      exact apart.unclosed word c head either (later.chars token member c inside)

end Lexes

/-! Parsing a text -/

section Parse

variable {config : Config} {source : String} {tree : Expr} {tokens : List Token} {levels : Nat}

theorem parseWith_ok {result : Query} (accepted : parseWith config source = .ok result) :
    ∃ tokens levels, Lexes source.toList tokens ∧
      Reads config.defaultField .expression tokens result.body none levels ∧
      levels ≤ config.maxDepth := by
  obtain ⟨tokens, levels, feeds, reads, enough⟩ := parseFeed_ok accepted
  exact ⟨tokens, levels, lexes_of_feeds feeds, reads, enough⟩

theorem parseWith_of_reads (lexes : Lexes source.toList tokens)
    (reads : Reads config.defaultField .expression tokens tree none levels)
    (enough : levels ≤ config.maxDepth) : parseWith config source = .ok ⟨tree⟩ :=
  parseFeed_of_reads (feeds_of_lexes lexes (Tokenizer.ofString source) rfl) reads enough

theorem parseWith_refused (lexes : Lexes source.toList tokens)
    (reads : Reads config.defaultField .expression tokens tree none levels)
    (tight : config.maxDepth < levels) :
    ∃ offset, parseWith config source =
      .error (.grammatical (.tooDeep config.maxDepth offset)) :=
  parseFeed_refused (feeds_of_lexes lexes (Tokenizer.ofString source) rfl) reads tight

end Parse

end SearchQuery
