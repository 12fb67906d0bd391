import SearchQuery.Proofs.Lexing

/-!
All that a feed gives out, up to its end or its failure, and that draining the
tokenizer finds exactly this. A text is cut into tokens without failure where these
tokens are what it lexes to.
-/

namespace SearchQuery

variable {σ : Type} [TokenFeed σ]

/-- The feed gives out these tokens, and then it ends at `last` or fails. -/
inductive Supplies (last : Nat) : σ → List SpannedToken → Option LexError → Prop where
  | ended {feed after : σ} (answer : TokenFeed.next feed = (.ok none, after))
      (stands : TokenFeed.location after = last) : Supplies last feed [] none
  | failed {feed after : σ} {error : LexError}
      (answer : TokenFeed.next feed = (.error error, after)) : Supplies last feed [] (some error)
  | more {feed after : σ} {found : SpannedToken} {tokens : List SpannedToken}
      {failure : Option LexError} (answer : TokenFeed.next feed = (.ok (some found), after))
      (rest : Supplies last after tokens failure) : Supplies last feed (found :: tokens) failure

theorem Supplies.feeds {last : Nat} {feed : σ} {tokens : List SpannedToken}
    (supplied : Supplies last feed tokens none) : Feeds feed (tokens.map (·.token)) := by
  generalize whole : (none : Option LexError) = failure at supplied
  induction supplied with
  | ended answer _ => exact .done answer
  | failed => cases whole
  | more answer _ ih => exact .more answer (ih whole)

/-- A feed that ends after these tokens does not fail, and supplies no others. -/
theorem Supplies.of_feeds {last : Nat} {feed : σ} {supply : List SpannedToken}
    {failure : Option LexError} {tokens : List Token}
    (supplied : Supplies last feed supply failure) (feeds : Feeds feed tokens) :
    failure = none ∧ supply.map (·.token) = tokens := by
  induction supplied generalizing tokens with
  | ended answer _ =>
      cases feeds with
      | done _ => exact ⟨rfl, rfl⟩
      | more other _ => simp [answer] at other
  | failed answer =>
      cases feeds with
      | done other => simp [answer] at other
      | more other _ => simp [answer] at other
  | more answer _ ih =>
      cases feeds with
      | done other => simp [answer] at other
      | more other rest =>
          rw [answer] at other
          cases other
          obtain ⟨whole, same⟩ := ih rest
          exact ⟨whole, by rw [List.map_cons, same]⟩

theorem Supplies.unique {last other : Nat} {feed : σ} {left right : List SpannedToken}
    {failure another : Option LexError} (first : Supplies last feed left failure)
    (second : Supplies other feed right another) : left = right ∧ failure = another := by
  induction first generalizing right with
  | ended answer _ =>
      cases second with
      | ended _ _ => exact ⟨rfl, rfl⟩
      | failed another | more another _ => simp [answer] at another
  | failed answer =>
      cases second with
      | ended another _ | more another _ => simp [answer] at another
      | failed another =>
          rw [answer] at another
          cases another
          exact ⟨rfl, rfl⟩
  | more answer _ ih =>
      cases second with
      | ended another _ | failed another => simp [answer] at another
      | more another rest =>
          rw [answer] at another
          cases another
          obtain ⟨rfl, same⟩ := ih rest
          exact ⟨rfl, same⟩

/-- What a feed supplies depends on its next answer alone. -/
theorem Supplies.of_next_eq {last : Nat} {feed other : σ} {tokens : List SpannedToken}
    {failure : Option LexError} (supplied : Supplies last feed tokens failure)
    (same : TokenFeed.next other = TokenFeed.next feed) : Supplies last other tokens failure := by
  cases supplied with
  | ended answer stands => exact .ended (same.trans answer) stands
  | failed answer => exact .failed (same.trans answer)
  | more answer rest => exact .more (same.trans answer) rest

namespace Tokenizer

def finish (t : Tokenizer) : Nat := t.location + Text.byteLength t.rest

theorem finish_advance (t : Tokenizer) (count : Nat) : (t.advance count).finish = t.finish := by
  have parts := congrArg Text.byteLength (List.take_append_drop count t.rest)
  rw [Text.byteLength_append] at parts
  simp only [finish, advance]
  omega

theorem finish_scan (t : Tokenizer) : t.scan.2.finish = t.finish := by
  unfold scan
  split
  · rfl
  · split
    · exact finish_advance t _
    · exact finish_advance t _

theorem finish_next (t : Tokenizer) : t.next.2.finish = t.finish := by
  have skipped : t.skipBlanks.finish = t.finish := finish_advance t _
  exact (finish_scan t.skipBlanks).trans skipped

theorem finish_of_next {t after : Tokenizer} {pulled : Except LexError (Option SpannedToken)}
    (answer : t.next = (pulled, after)) : after.finish = t.finish := by
  have kept := finish_next t
  rwa [answer] at kept

/-- Where no token is pulled the tokenizer stands behind the last character. -/
theorem exhausted {t after : Tokenizer} {pulled : Except LexError (Option SpannedToken)}
    (answer : t.next = (pulled, after)) (tokenless : ∀ found, pulled ≠ .ok (some found)) :
    after = ⟨[], t.finish⟩ := by
  cases pulled with
  | ok found =>
      cases found with
      | none =>
          have ended := next_ended t.location (next_none answer)
          rw [show t.next = _ from answer] at ended
          cases ended
          rfl
      | some found => exact absurd rfl (tokenless found)
  | error error =>
      obtain ⟨blanks, rest, blank, here, unruled, -⟩ := next_failed answer
      have refused := next_refused t.location blank unruled
      rw [← here, show t.next = _ from answer] at refused
      rw [show after = _ from congrArg Prod.snd refused]
      simp [finish, here, Nat.add_assoc]

theorem location_of_next_none {t after : Tokenizer} (answer : t.next = (.ok none, after)) :
    after.location = t.finish := by
  rw [exhausted answer nofun]

theorem pulls_supplies (steps : Nat) (t : Tokenizer) (enough : t.rest.length ≤ steps) :
    Supplies t.finish t (pulls steps t).1 (pulls steps t).2 := by
  induction steps generalizing t with
  | zero =>
      have blankless : ∀ c ∈ t.rest, Text.isBlank c = true := by
        simp [List.length_eq_zero_iff.mp (Nat.le_zero.mp enough)]
      obtain ⟨after, answer⟩ := next_end blankless
      exact .ended answer (location_of_next_none answer)
  | succ steps ih =>
      unfold pulls
      split
      case h_1 after answer => exact .ended answer (location_of_next_none answer)
      case h_2 error after answer => exact .failed answer
      case h_3 found after answer =>
        have shorter := next_shorter t found (by rw [answer])
        rw [answer] at shorter
        have later := ih after (by simp only at shorter; omega)
        rw [finish_of_next answer] at later
        exact .more answer later

theorem drain_supplies (t : Tokenizer) : Supplies t.finish t t.drain.1 t.drain.2 :=
  pulls_supplies t.rest.length t (Nat.le_refl _)

theorem drain_eq {last : Nat} {t : Tokenizer} {tokens : List SpannedToken}
    {failure : Option LexError} (supplied : Supplies last t tokens failure) :
    t.drain = (tokens, failure) := by
  obtain ⟨same, alike⟩ := t.drain_supplies.unique supplied
  exact Prod.ext same alike

theorem supplies_spelt {last : Nat} {t : Tokenizer} {tokens : List SpannedToken}
    {failure : Option LexError} (supplied : Supplies last t tokens failure) :
    ∀ found ∈ tokens, found.token.Spelt := by
  induction supplied with
  | ended | failed => exact nofun
  | more answer _ ih =>
      obtain ⟨_, text, kind, _, _, lexeme, _, same⟩ := next_some answer
      rw [List.forall_mem_cons]
      refine ⟨?_, ih⟩
      simpa [same, Token.Spelt] using lexeme

theorem drain_spelt (t : Tokenizer) : ∀ found ∈ t.drain.1, found.token.Spelt :=
  supplies_spelt t.drain_supplies

end Tokenizer

section Drained

variable {source : String} {tokens : List SpannedToken} {failure : Option LexError}

theorem tokenizeSpanned_of_drain (drained : (Tokenizer.ofString source).drain = (tokens, failure)) :
    tokenizeSpanned source = failure.elim (.ok tokens) .error := by
  unfold tokenizeSpanned
  rw [drained]
  cases failure <;> rfl

theorem tokenize_of_drain (drained : (Tokenizer.ofString source).drain = (tokens, failure)) :
    tokenize source = failure.elim (.ok (tokens.map (·.token))) .error := by
  rw [tokenize, tokenizeSpanned_of_drain drained]
  cases failure <;> rfl

theorem drain_of_tokenize {listed : List Token} (accepted : tokenize source = .ok listed) :
    ∃ tokens, (Tokenizer.ofString source).drain = (tokens, none) ∧
      tokens.map (·.token) = listed := by
  cases drained : (Tokenizer.ofString source).drain with
  | mk tokens failure =>
      rw [tokenize_of_drain drained] at accepted
      cases failure with
      | none => exact ⟨tokens, rfl, Except.ok.inj accepted⟩
      | some error => cases accepted

end Drained

/-- A text is tokenized without failure exactly to what it lexes to. -/
theorem tokenize_ok_iff {source : String} {tokens : List Token} :
    tokenize source = .ok tokens ↔ Lexes source.toList tokens := by
  have supplied := (Tokenizer.ofString source).drain_supplies
  constructor
  · intro accepted
    obtain ⟨supply, drained, rfl⟩ := drain_of_tokenize accepted
    rw [drained] at supplied
    exact lexes_of_feeds supplied.feeds
  · intro lexes
    have feeds := feeds_of_lexes lexes (Tokenizer.ofString source) rfl
    obtain ⟨whole, same⟩ := supplied.of_feeds feeds
    have drained : (Tokenizer.ofString source).drain = (_, none) := Prod.ext rfl whole
    rw [tokenize_of_drain drained, same]
    rfl

end SearchQuery
