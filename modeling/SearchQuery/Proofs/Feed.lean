import SearchQuery.Proofs.Completeness

/-!
Whole parses. A feed that gives out tokens and then ends is accepted exactly if
these tokens can be read as an expression with nothing after it, in no more levels
than the settings allow; where only the levels are too many, it is refused as too
deep.
-/

namespace SearchQuery

open Parse
open Cursor (Passes)

variable {σ : Type} [TokenFeed σ]

/-- The feed gives out exactly these tokens and then answers that it has ended. -/
inductive Feeds : σ → List Token → Prop where
  | done {feed after : σ} (answer : TokenFeed.next feed = (.ok none, after)) : Feeds feed []
  | more {feed after : σ} {found : SpannedToken} {tokens : List Token}
      (answer : TokenFeed.next feed = (.ok (some found), after)) (rest : Feeds after tokens) :
      Feeds feed (found.token :: tokens)

theorem Feeds.unique {feed : σ} {left right : List Token} (first : Feeds feed left)
    (second : Feeds feed right) : left = right := by
  induction first generalizing right with
  | done answer =>
      cases second with
      | done _ => rfl
      | more other _ => simp [answer] at other
  | more answer _ ih =>
      cases second with
      | done other => simp [answer] at other
      | more other rest =>
          rw [answer] at other
          cases other
          rw [ih rest]

theorem pull_ok_iff {before after : Cursor σ} :
    pull before = .ok () after ↔
      TokenFeed.next before.feed = (.ok after.lookahead, after.feed) ∧
        after.depth = before.depth := by
  unfold pull
  constructor
  · intro pulled
    split at pulled
    case h_1 lookahead feed answer =>
      cases pulled
      exact ⟨answer, rfl⟩
    case h_2 => cases pulled
  · rintro ⟨answer, same⟩
    simp [answer, ← same]

theorem feeds_of_passes {before middle after : Cursor σ} {tokens : List Token}
    (pulled : pull before = .ok () middle) (passed : Passes middle tokens after)
    (ended : after.lookahead = none) : Feeds before.feed tokens := by
  induction passed generalizing before with
  | refl =>
      have answer := (pull_ok_iff.mp pulled).1
      rw [ended] at answer
      exact .done answer
  | next head pulled' _ ih =>
      have answer := (pull_ok_iff.mp pulled).1
      rw [head] at answer
      exact .more answer (ih pulled' ended)

theorem passes_of_feeds {feed : σ} {tokens : List Token} (feeds : Feeds feed tokens)
    (before : Cursor σ) (same : before.feed = feed) :
    ∃ middle after, pull before = .ok () middle ∧ Passes middle tokens after ∧
      after.lookahead = none := by
  induction feeds generalizing before with
  | @done feed rest answer =>
      refine ⟨⟨rest, none, before.depth⟩, _, pull_ok_iff.mpr ⟨?_, rfl⟩, .refl _, rfl⟩
      rw [same, answer]
  | @more feed rest found tokens answer _ ih =>
      obtain ⟨middle, after, pulled, passed, ended⟩ :=
        ih ⟨rest, some found, before.depth⟩ rfl
      refine ⟨⟨rest, some found, before.depth⟩, after, pull_ok_iff.mpr ⟨?_, rfl⟩,
        .next rfl pulled passed, ended⟩
      rw [same, answer]

/-! Queries -/

theorem query_ok {config : Config} {before after : Cursor σ} {result : Query}
    (run : query config before = .ok result after) :
    ∃ middle, pull before = .ok () middle ∧
      expression config (config.maxDepth + 1) middle = .ok result.body after ∧
      after.lookahead = none := by
  unfold query at run
  obtain ⟨_, middle, pulled, run⟩ := bind_ok run
  obtain ⟨body, last, found, run⟩ := bind_ok run
  rw [bind_of_ok (peek_run last)] at run
  cases ahead : last.lookahead with
  | none =>
      simp only [ahead] at run
      obtain ⟨rfl, rfl⟩ := pure_ok run
      exact ⟨middle, pulled, found, ahead⟩
  | some token =>
      simp only [ahead] at run
      exact absurd run unexpected_ne_ok

theorem query_run {config : Config} {before middle after : Cursor σ} {body : Expr}
    (pulled : pull before = .ok () middle)
    (found : expression config (config.maxDepth + 1) middle = .ok body after)
    (ended : after.lookahead = none) : query config before = .ok ⟨body⟩ after := by
  unfold query
  rw [bind_of_ok pulled, bind_of_ok found, bind_of_ok (peek_run after), ended]
  rfl

theorem parseFeed_ok {config : Config} {feed : σ} {result : Query}
    (accepted : parseFeed config feed = .ok result) :
    ∃ tokens levels, Feeds feed tokens ∧
      Reads config.defaultField .expression tokens result.body none levels ∧
      levels ≤ config.maxDepth := by
  unfold parseFeed at accepted
  split at accepted
  case h_1 query after run =>
    cases accepted
    obtain ⟨middle, pulled, found, ended⟩ := query_ok run
    obtain ⟨tokens, levels, passed, reads, less⟩ := (expression_finds config _).1 _ _ _ found
    rw [Cursor.next_eq_none ended] at reads
    exact ⟨tokens, levels, feeds_of_passes pulled passed ended, reads, Nat.le_of_lt_succ less⟩
  case h_2 => cases accepted

section Read

variable {config : Config} {feed : σ} {tokens : List Token} {tree : Expr} {levels : Nat}

/-- What a whole parse does with tokens that can be read. -/
theorem expression_settles (feeds : Feeds feed tokens)
    (reads : Reads config.defaultField .expression tokens tree none levels) :
    ∃ middle after, pull (⟨feed, none, 0⟩ : Cursor σ) = .ok () middle ∧ after.lookahead = none ∧
      Settles config (config.maxDepth + 1) levels
        (expression config (config.maxDepth + 1) middle) tree after := by
  obtain ⟨middle, after, pulled, passed, ended⟩ := passes_of_feeds feeds ⟨feed, none, 0⟩ rfl
  have start := (pull_ok_iff.mp pulled).2
  have settled := reads_follows reads config.maxDepth middle after passed
    (Cursor.next_eq_none ended) (by simp [start])
  exact ⟨middle, after, pulled, ended, settled⟩

theorem parseFeed_of_reads (feeds : Feeds feed tokens)
    (reads : Reads config.defaultField .expression tokens tree none levels)
    (enough : levels ≤ config.maxDepth) : parseFeed config feed = .ok ⟨tree⟩ := by
  obtain ⟨middle, after, pulled, ended, settled⟩ := expression_settles feeds reads
  have run := query_run pulled (settled.1 (Nat.lt_succ_of_le enough)) ended
  unfold parseFeed
  rw [run]

theorem parseFeed_refused (feeds : Feeds feed tokens)
    (reads : Reads config.defaultField .expression tokens tree none levels)
    (tight : config.maxDepth < levels) :
    ∃ offset, parseFeed config feed = .error (.grammatical (.tooDeep config.maxDepth offset)) := by
  obtain ⟨middle, after, pulled, ended, settled⟩ := expression_settles feeds reads
  obtain ⟨offset, stopped, refused⟩ := settled.2 tight
  refine ⟨offset, ?_⟩
  have run : query config ⟨feed, none, 0⟩ =
      .error (.grammatical (.tooDeep config.maxDepth offset)) stopped := by
    unfold query
    rw [bind_of_ok pulled, bind_of_error refused]
  unfold parseFeed
  rw [run]

end Read

/-! Lists of tokens -/

theorem feeds_queue (tokens : List SpannedToken) (location : Nat) :
    Feeds (⟨tokens, location⟩ : TokenQueue) (tokens.map (·.token)) := by
  induction tokens generalizing location with
  | nil => exact .done rfl
  | cons first rest ih => exact .more rfl (ih first.stop)

theorem parseTokens_ok_iff {config : Config} {tokens : List SpannedToken} {result : Query} :
    parseTokens config tokens = .ok result ↔
      ∃ levels, Reads config.defaultField .expression (tokens.map (·.token)) result.body none levels
        ∧ levels ≤ config.maxDepth := by
  constructor
  · intro accepted
    obtain ⟨given, levels, feeds, reads, enough⟩ := parseFeed_ok accepted
    cases feeds.unique (feeds_queue tokens 0)
    exact ⟨levels, reads, enough⟩
  · rintro ⟨levels, reads, enough⟩
    exact parseFeed_of_reads (feeds_queue tokens 0) reads enough

/-- Where there may be as many levels as tokens, a reading is an answer. -/
theorem Reads.answers {field : String} {limit levels : Nat} {tokens : List Token} {tree : Expr}
    {spanned : List SpannedToken} (reads : Reads field .expression tokens tree none levels)
    (same : spanned.map (·.token) = tokens) (room : spanned.length ≤ limit) :
    parseTokens ⟨field, limit⟩ spanned = .ok ⟨tree⟩ := by
  subst same
  have bound := reads.levels_le
  rw [List.length_map] at bound
  exact parseTokens_ok_iff.mpr ⟨levels, reads, Nat.le_trans bound room⟩

end SearchQuery
