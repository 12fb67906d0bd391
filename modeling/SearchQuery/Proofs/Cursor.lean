import SearchQuery.Proofs.Reading

/-!
What the steps of a parse do to the cursor. A successful step has taken tokens
one after another and left the depth as it was. Each primitive step is described
here once; later proofs peel a clause apart by these facts and do not unfold it.
-/

namespace SearchQuery

variable {σ α β : Type}

namespace Cursor

def next (cursor : Cursor σ) : Option TokenKind := cursor.lookahead.map (·.kind)

theorem next_eq_none {cursor : Cursor σ} (ended : cursor.lookahead = none) :
    cursor.next = none := by
  simp [next, ended]

def atDepth (cursor : Cursor σ) (depth : Nat) : Cursor σ := { cursor with depth }

@[simp] theorem next_atDepth (cursor : Cursor σ) (depth : Nat) :
    (cursor.atDepth depth).next = cursor.next := rfl

@[simp] theorem depth_atDepth (cursor : Cursor σ) (depth : Nat) :
    (cursor.atDepth depth).depth = depth := rfl

@[simp] theorem atDepth_atDepth (cursor : Cursor σ) (first second : Nat) :
    (cursor.atDepth first).atDepth second = cursor.atDepth second := rfl

@[simp] theorem atDepth_self (cursor : Cursor σ) : cursor.atDepth cursor.depth = cursor := rfl

variable [TokenFeed σ]

inductive Passes : Cursor σ → List Token → Cursor σ → Prop where
  | refl (cursor) : Passes cursor [] cursor
  | next {before middle after : Cursor σ} {found : SpannedToken} {tokens : List Token}
      (head : before.lookahead = some found) (pulled : Parse.pull before = .ok () middle) :
      Passes middle tokens after → Passes before (found.token :: tokens) after

theorem Passes.append {before middle after : Cursor σ} {left right : List Token}
    (first : Passes before left middle) (second : Passes middle right after) :
    Passes before (left ++ right) after := by
  induction first with
  | refl => exact second
  | next head pulled _ ih => exact Passes.next head pulled (ih second)

theorem Passes.split {before after : Cursor σ} {left right : List Token}
    (passed : Passes before (left ++ right) after) :
    ∃ middle, Passes before left middle ∧ Passes middle right after := by
  induction left generalizing before with
  | nil => exact ⟨before, .refl before, passed⟩
  | cons token rest ih =>
      cases passed with
      | next head pulled tail =>
          obtain ⟨middle, first, second⟩ := ih tail
          exact ⟨middle, .next head pulled first, second⟩

theorem pull_depth {before after : Cursor σ} (pulled : Parse.pull before = .ok () after) :
    after.depth = before.depth := by
  unfold Parse.pull at pulled
  split at pulled <;> cases pulled
  rfl

theorem Passes.depth_eq {before after : Cursor σ} {tokens : List Token}
    (passed : Passes before tokens after) : after.depth = before.depth := by
  induction passed with
  | refl => rfl
  | next _ pulled _ ih => rw [ih, pull_depth pulled]

theorem pull_atDepth {before after : Cursor σ} (pulled : Parse.pull before = .ok () after)
    (depth : Nat) : Parse.pull (before.atDepth depth) = .ok () (after.atDepth depth) := by
  unfold Parse.pull at pulled ⊢
  simp only [atDepth] at *
  split at pulled <;> cases pulled
  simp_all

/-- Which tokens stand ahead does not depend on the open levels. -/
theorem Passes.atDepth {before after : Cursor σ} {tokens : List Token}
    (passed : Passes before tokens after) (depth : Nat) :
    Passes (before.atDepth depth) tokens (after.atDepth depth) := by
  induction passed with
  | refl => exact .refl _
  | next head pulled _ ih => exact .next head (pull_atDepth pulled depth) ih

/-- Back at the depth it started from, a walk ends where it ended. -/
theorem Passes.atDepth_back {before after : Cursor σ} {tokens : List Token}
    (passed : Passes before tokens after) (depth : Nat) :
    (after.atDepth depth).atDepth before.depth = after := by
  rw [atDepth_atDepth, ← passed.depth_eq, atDepth_self]

theorem Passes.next_eq {before after : Cursor σ} {token : Token} {tokens : List Token}
    (passed : Passes before (token :: tokens) after) : before.next = some token.kind := by
  cases passed with
  | next head => simp [Cursor.next, head, SpannedToken.kind]

theorem Passes.next_append {before after : Cursor σ} {tokens : List Token}
    (passed : Passes before tokens after) :
    before.next = (firstKind tokens).or after.next := by
  cases passed with
  | refl => simp
  | next head => simp [Cursor.next, head, SpannedToken.kind]

theorem Passes.next_of_firstKind {before after : Cursor σ} {tokens : List Token}
    {kind : TokenKind} (passed : Passes before tokens after)
    (first : firstKind tokens = some kind) :
    before.next = some kind := by
  rw [passed.next_append, first]
  rfl

/-- More tokens than `count` cannot come, unless none is ahead. -/
def Within (cursor : Cursor σ) (count : Nat) : Prop :=
  cursor.lookahead ≠ none → TokenFeed.remaining cursor.feed < count

theorem within_tokensLeft (cursor : Cursor σ) :
    cursor.Within (TokenFeed.remaining cursor.feed + cursor.lookahead.toList.length) := by
  intro present
  obtain ⟨token, same⟩ := Option.ne_none_iff_exists'.mp present
  simp [same]

theorem pull_within {before after : Cursor σ} {count : Nat}
    (pulled : Parse.pull before = .ok () after)
    (bound : TokenFeed.remaining before.feed < count + 1) : after.Within count := by
  intro present
  unfold Parse.pull at pulled
  split at pulled
  case h_2 => cases pulled
  case h_1 lookahead feed answer =>
    cases pulled
    obtain ⟨token, same⟩ := Option.ne_none_iff_exists'.mp present
    simp only at same
    subst same
    -- a pull that gives a token leaves fewer, and there were at most `count` before it
    have less := TokenFeed.remaining_lt before.feed token (by rw [answer])
    simp only [answer] at less
    exact Nat.lt_of_lt_of_le less (Nat.le_of_lt_succ bound)

theorem Passes.within {before after : Cursor σ} {tokens : List Token} {count : Nat}
    (passed : Passes before tokens after) (some_token : tokens ≠ [])
    (bound : before.Within (count + 1)) : after.Within count := by
  induction passed generalizing count with
  | refl => exact absurd rfl some_token
  | @next before middle after found tokens head pulled tail ih =>
      have present : before.lookahead ≠ none := by simp [head]
      have here := pull_within pulled (bound present)
      cases tail with
      | refl => exact here
      | next head' pulled' tail' =>
          apply ih (by simp)
          intro present
          exact Nat.lt_succ_of_lt (here present)

end Cursor

namespace Parse

open Cursor (Passes)

/-! Sequencing -/

theorem bind_ok {step : Parse σ α} {later : α → Parse σ β} {before after : Cursor σ} {result : β}
    (run : (step >>= later) before = .ok result after) :
    ∃ value middle, step before = .ok value middle ∧ later value middle = .ok result after := by
  change EStateM.bind step later before = _ at run
  unfold EStateM.bind at run
  split at run
  · exact ⟨_, _, by assumption, run⟩
  · cases run

theorem bind_of_ok {step : Parse σ α} {later : α → Parse σ β} {before middle : Cursor σ}
    {value : α} (run : step before = .ok value middle) :
    (step >>= later) before = later value middle := by
  change EStateM.bind step later before = _
  simp only [EStateM.bind, run]

theorem bind_of_error {step : Parse σ α} {later : α → Parse σ β} {before stopped : Cursor σ}
    {error : ParseError} (run : step before = .error error stopped) :
    (step >>= later) before = .error error stopped := by
  change EStateM.bind step later before = _
  simp only [EStateM.bind, run]

theorem pure_ok {value result : α} {before after : Cursor σ}
    (run : (pure value : Parse σ α) before = .ok result after) :
    result = value ∧ after = before := by
  cases run
  exact ⟨rfl, rfl⟩

theorem fail_ne_ok {error : GrammarError} {before after : Cursor σ} {result : α} :
    (fail error : Parse σ α) before ≠ .ok result after := by
  intro run
  cases run

theorem peek_run (cursor : Cursor σ) : peek cursor = .ok cursor.lookahead cursor := rfl

theorem peekKind_bind (later : Option TokenKind → Parse σ β) (cursor : Cursor σ) :
    (peekKind >>= later) cursor = later cursor.next cursor := rfl

variable [TokenFeed σ]

theorem failAt_ne_ok {expected : Expected} {found : Option SpannedToken}
    {before after : Cursor σ} {result : α} :
    (failAt expected found : Parse σ α) before ≠ .ok result after := by
  intro run
  cases found <;> cases run

theorem unexpected_ne_ok {expected : Expected} {before after : Cursor σ} {result : α} :
    (unexpected expected : Parse σ α) before ≠ .ok result after := by
  intro run
  unfold unexpected at run
  rw [bind_of_ok (peek_run before)] at run
  exact failAt_ne_ok run

theorem consume_pulls {kind : TokenKind} {before after : Cursor σ} {found : SpannedToken}
    (run : consume kind before = .ok found after) :
    before.lookahead = some found ∧ found.token.kind = kind ∧ pull before = .ok () after := by
  unfold consume at run
  rw [bind_of_ok (peek_run before)] at run
  cases head : before.lookahead with
  | none =>
      rw [head] at run
      exact absurd run failAt_ne_ok
  | some ahead =>
      simp only [head] at run
      by_cases same : ahead.kind = kind
      · simp only [same, ↓reduceIte] at run
        obtain ⟨_, middle, pulled, rest⟩ := bind_ok run
        obtain ⟨rfl, rfl⟩ := pure_ok rest
        exact ⟨rfl, same, pulled⟩
      · simp only [same, ↓reduceIte] at run
        exact absurd run failAt_ne_ok

theorem consume_ok {kind : TokenKind} {before after : Cursor σ} {found : SpannedToken}
    (run : consume kind before = .ok found after) :
    Passes before [found.token] after ∧ found.token.kind = kind := by
  obtain ⟨head, same, pulled⟩ := consume_pulls run
  exact ⟨.next head pulled (.refl after), same⟩

/-- A step behind a token that was taken. -/
theorem consume_bind_ok {kind : TokenKind} {later : SpannedToken → Parse σ β}
    {before after : Cursor σ} {result : β}
    (run : (consume kind >>= later) before = .ok result after) :
    ∃ found middle, Passes before [found.token] middle ∧ found.token.kind = kind ∧
      later found middle = .ok result after := by
  obtain ⟨found, middle, taken, rest⟩ := bind_ok run
  obtain ⟨passed, same⟩ := consume_ok taken
  exact ⟨found, middle, passed, same, rest⟩

theorem consume_run {before after : Cursor σ} {token : Token} {tokens : List Token}
    (passed : Passes before (token :: tokens) after) :
    ∃ found middle, found.token = token ∧ Passes middle tokens after ∧
      consume token.kind before = .ok found middle := by
  cases passed with
  | @next _ middle _ found _ head pulled tail =>
      refine ⟨found, middle, rfl, tail, ?_⟩
      unfold consume
      rw [bind_of_ok (peek_run before), head]
      simp only [SpannedToken.kind, ↓reduceIte]
      rw [bind_of_ok pulled]
      rfl

/-! Nesting -/

theorem tooDeep_run (config : Config) (cursor : Cursor σ) :
    ∃ offset, (tooDeep config : Parse σ α) cursor =
      .error (.grammatical (.tooDeep config.maxDepth offset)) cursor := by
  unfold tooDeep
  rw [bind_of_ok (peek_run cursor)]
  cases cursor.lookahead with
  | none => exact ⟨TokenFeed.location cursor.feed, rfl⟩
  | some found => exact ⟨found.start, rfl⟩

theorem descend_run (config : Config) (cursor : Cursor σ) :
    descend config cursor =
      if cursor.depth < config.maxDepth then .ok () (cursor.atDepth (cursor.depth + 1))
      else tooDeep config cursor := by
  have here : (get : Parse σ (Cursor σ)) cursor = .ok cursor cursor := rfl
  unfold descend
  rw [bind_of_ok here]
  split <;> rfl

theorem nested_ok {config : Config} {step : Parse σ α} {before after : Cursor σ} {result : α}
    (run : nested config step before = .ok result after) :
    ∃ inside, step (before.atDepth (before.depth + 1)) = .ok result inside ∧
      after = inside.atDepth (inside.depth - 1) := by
  unfold nested at run
  obtain ⟨_, opened, descended, run⟩ := bind_ok run
  rw [descend_run] at descended
  split at descended
  · cases descended
    obtain ⟨value, inside, stepped, run⟩ := bind_ok run
    obtain ⟨_, closed, ascended, run⟩ := bind_ok run
    obtain ⟨rfl, rfl⟩ := pure_ok run
    cases ascended
    exact ⟨inside, stepped, rfl⟩
  · obtain ⟨offset, refused⟩ := tooDeep_run (α := Unit) config before
    rw [refused] at descended
    cases descended

end Parse

end SearchQuery
