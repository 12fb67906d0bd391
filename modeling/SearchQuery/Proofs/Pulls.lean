import SearchQuery.Proofs.Progress
import SearchQuery.Proofs.Steps
import SearchQuery.Proofs.Supply
import SearchQuery.Token.Recorded

/-!
What a parse pulls from its feed. Over a feed that records its answers it does what it does over
the feed itself, and the record is a beginning of what the feed has to give: its tokens in their
order and then its end or its failure, behind which nothing is pulled any more.
-/

namespace SearchQuery

open Parse

variable {σ α β : Type} [TokenFeed σ]

/-! A parse does not see the record -/

def Cursor.unrecorded (cursor : Cursor (Recorded σ)) : Cursor σ :=
  { cursor with feed := cursor.feed.feed }

namespace Parse

def unrecorded : EStateM.Result ParseError (Cursor (Recorded σ)) α →
    EStateM.Result ParseError (Cursor σ) α
  | .ok value cursor => .ok value cursor.unrecorded
  | .error error cursor => .error error cursor.unrecorded

def Blind (step : Parse (Recorded σ) α) (plain : Parse σ α) : Prop :=
  ∀ cursor, plain cursor.unrecorded = unrecorded (step cursor)

omit [TokenFeed σ] in
theorem Blind.bind {step : Parse (Recorded σ) α} {plain : Parse σ α}
    {later : α → Parse (Recorded σ) β} {after : α → Parse σ β} (first : Blind step plain)
    (second : ∀ value, Blind (later value) (after value)) :
    Blind (step >>= later) (plain >>= after) := by
  intro cursor
  have same := first cursor
  cases run : step cursor with
  | ok value middle =>
      rw [run] at same
      rw [bind_of_ok run, bind_of_ok same]
      exact second value middle
  | error error stopped =>
      rw [run] at same
      rw [bind_of_error run, bind_of_error same]
      rfl

omit [TokenFeed σ] in
theorem peek_blind : Blind (peek : Parse (Recorded σ) _) peek := fun _ => rfl

theorem location_blind : Blind (location : Parse (Recorded σ) Nat) location := fun _ => rfl

omit [TokenFeed σ] in
theorem fail_blind (error : GrammarError) :
    Blind (fail error : Parse (Recorded σ) α) (fail error) := fun _ => rfl

theorem pull_blind : Blind (pull : Parse (Recorded σ) Unit) pull := by
  intro cursor
  change pull ⟨cursor.feed.feed, cursor.lookahead, cursor.depth⟩ = _
  unfold pull
  simp only [TokenFeed.next, Recorded.next]
  cases TokenFeed.next cursor.feed.feed with
  | mk answer feed => cases answer <;> rfl

theorem failAt_blind (expected : Expected) (found : Option SpannedToken) :
    Blind (failAt expected found : Parse (Recorded σ) α) (failAt expected found) := by
  cases found with
  | none => exact location_blind.bind fun _ => fail_blind _
  | some found => exact fail_blind _

theorem consume_blind (kind : TokenKind) :
    Blind (consume kind : Parse (Recorded σ) SpannedToken) (consume kind) := by
  refine peek_blind.bind fun ahead => ?_
  cases ahead with
  | none => exact failAt_blind _ _
  | some found =>
      dsimp only
      split
      · exact pull_blind.bind fun _ _ => rfl
      · exact failAt_blind _ _

theorem choice_blind (choice : Choice) :
    Blind (Parse.choice choice : Parse (Recorded σ) (List Task)) (Parse.choice choice) := by
  cases choice with
  | goOn tasks => exact fun _ => rfl
  | refuse error => exact location_blind.bind fun _ => fail_blind _

theorem tooDeep_blind (config : Config) :
    Blind (tooDeep config : Parse (Recorded σ) α) (tooDeep config) := by
  refine peek_blind.bind fun ahead => ?_
  cases ahead with
  | none => exact location_blind.bind fun _ => fail_blind _
  | some found => exact fail_blind _

theorem descend_blind (config : Config) :
    Blind (descend config : Parse (Recorded σ) Unit) (descend config) := by
  intro cursor
  rw [descend_run, descend_run]
  change (if cursor.depth < config.maxDepth then _ else _) = _
  split
  · rfl
  · exact tooDeep_blind config cursor

theorem perform_blind (config : Config) (trees : List Expr) (action : Action) :
    Blind (perform config trees action : Parse (Recorded σ) _) (perform config trees action) := by
  cases action with
  | build tasks change => exact fun _ => rfl
  | look choose => exact peek_blind.bind fun _ => (choice_blind _).bind fun _ _ => rfl
  | take kind choose =>
      exact (consume_blind kind).bind fun _ => (choice_blind _).bind fun _ _ => rfl
  | descend tasks => exact (descend_blind config).bind fun _ _ => rfl
  | ascend => exact fun _ => rfl

end Parse

namespace Machine

def unrecorded (m : Machine (Recorded σ)) : Machine σ :=
  { m with cursor := m.cursor.unrecorded }

theorem step_unrecorded (config : Config) (m : Machine (Recorded σ)) :
    m.unrecorded.step config = (m.step config).unrecorded := by
  obtain ⟨tasks, trees, before, failure⟩ := m
  cases failure with
  | some error => rfl
  | none =>
      cases tasks with
      | nil => rfl
      | cons task tasks =>
          have same := perform_blind config trees (task.action config) before
          cases run : perform config trees (task.action config) before with
          | ok result after =>
              rw [run] at same
              rw [step_ok run]
              exact step_ok same
          | error error after =>
              rw [run] at same
              rw [step_error run]
              exact step_error same

theorem after_unrecorded (config : Config) (m : Machine (Recorded σ)) (steps : Nat) :
    m.unrecorded.after config steps = (m.after config steps).unrecorded := by
  induction steps generalizing m with
  | zero => rfl
  | succ steps ih =>
      rw [after, step_unrecorded]
      exact ih (m.step config)

theorem start_unrecorded (feed : σ) :
    start feed = (start (Recorded.ofFeed feed)).unrecorded := by
  have same := pull_blind (⟨Recorded.ofFeed feed, none, 0⟩ : Cursor (Recorded σ))
  unfold start
  cases run : pull (⟨Recorded.ofFeed feed, none, 0⟩ : Cursor (Recorded σ)) with
  | ok _ cursor =>
      rw [run] at same
      rw [show pull ⟨feed, none, 0⟩ = _ from same]
      rfl
  | error error cursor =>
      rw [run] at same
      rw [show pull ⟨feed, none, 0⟩ = _ from same]
      rfl

omit [TokenFeed σ] in
theorem EndsAs.unrecorded {m : Machine (Recorded σ)}
    {run : EStateM.Result ParseError (Cursor (Recorded σ)) Query} (ends : m.EndsAs run) :
    m.unrecorded.EndsAs (Parse.unrecorded run) := by
  cases run with
  | ok query cursor =>
      cases ends
      rfl
  | error error cursor =>
      obtain ⟨failed, rfl⟩ := ends
      exact ⟨failed, rfl⟩

end Machine

theorem query_unrecorded (config : Config) (feed : σ) :
    query config ⟨feed, none, 0⟩ =
      unrecorded (query config ⟨Recorded.ofFeed feed, none, 0⟩) := by
  obtain ⟨steps, ends⟩ := Machine.ends_as_query config feed
  obtain ⟨more, recorded⟩ := Machine.ends_as_query config (Recorded.ofFeed feed)
  -- both machines have stopped after the steps of the two together
  have first : ((Machine.start feed).after config (steps + more)).EndsAs
      (query config ⟨feed, none, 0⟩) := by
    rwa [Machine.after_add, ends.after]
  have second : ((Machine.start feed).after config (more + steps)).EndsAs
      (unrecorded (query config ⟨Recorded.ofFeed feed, none, 0⟩)) := by
    rw [Machine.start_unrecorded, Machine.after_unrecorded, Machine.after_add, recorded.after]
    exact recorded.unrecorded
  rw [Nat.add_comm] at second
  exact first.unique second

theorem parseFeed_recorded (config : Config) (feed : σ) :
    parseFeed config (Recorded.ofFeed feed) = parseFeed config feed := by
  unfold parseFeed
  rw [query_unrecorded config feed]
  cases query config ⟨Recorded.ofFeed feed, none, 0⟩ <;> rfl

/-- All that a parse is answered by its feed, the first answer first. -/
def answersTo (config : Config) (feed : σ) : List FeedAnswer :=
  (leftAt (query config ⟨Recorded.ofFeed feed, none, 0⟩)).feed.answers

/-! The record -/

/-- A feed comes to its end or to a failure. -/
theorem exists_supplies (feed : σ) : ∃ last tokens failure, Supplies last feed tokens failure := by
  induction bound : TokenFeed.remaining feed using Nat.strong_induction_on generalizing feed with
  | _ count ih =>
      cases answer : TokenFeed.next feed with
      | mk given after =>
          match given with
          | .error error => exact ⟨0, [], some error, .failed answer⟩
          | .ok none => exact ⟨_, [], none, .ended answer rfl⟩
          | .ok (some found) =>
              have less := TokenFeed.remaining_lt feed found (by rw [answer])
              rw [answer, bound] at less
              obtain ⟨last, tokens, failure, rest⟩ := ih _ less after rfl
              exact ⟨last, found :: tokens, failure, .more answer rest⟩

def gives (token : SpannedToken) : FeedAnswer := .ok (some token)

def ending : Option LexError → FeedAnswer
  | none => .ok none
  | some error => .error error

/-- The record up to where the cursor stands: it is about to take the token that was given last,
or it has been told of the end or the failure. -/
inductive Told (tokens : List SpannedToken) (failure : Option LexError) :
    Cursor (Recorded σ) → Prop where
  | ahead {last : Nat} {feed : σ} {found : SpannedToken} {taken rest : List SpannedToken}
      {depth : Nat} (all : tokens = taken ++ found :: rest)
      (supplied : Supplies last feed rest failure) :
      Told tokens failure ⟨⟨feed, (taken ++ [found]).map gives⟩, some found, depth⟩
  | ended {feed : σ} {depth : Nat} :
      Told tokens failure ⟨⟨feed, tokens.map gives ++ [ending failure]⟩, none, depth⟩

section Told

variable {tokens taken rest : List SpannedToken} {failure : Option LexError} {last depth : Nat}
  {feed : σ} {ahead : Option SpannedToken}

theorem pull_told (all : tokens = taken ++ rest) (supplied : Supplies last feed rest failure) :
    Told tokens failure
      (leftAt (pull (⟨⟨feed, taken.map gives⟩, ahead, depth⟩ : Cursor (Recorded σ)))) := by
  unfold pull
  simp only [TokenFeed.next, Recorded.next]
  cases supplied with
  | ended answer stands =>
      rw [answer, all, List.append_nil]
      exact .ended
  | failed answer =>
      rw [answer, all, List.append_nil]
      exact .ended
  | @more _ after found rest _ answer supplied =>
      rw [answer]
      have given : taken.map gives ++ [gives found] = (taken ++ [found]).map gives := by simp
      simp only [leftAt]
      exact given ▸ .ahead all supplied

theorem Told.draws {before after : Cursor (Recorded σ)} (told : Told tokens failure before)
    (draws : before.Draws after) : Told tokens failure after := by
  rcases draws with rfl | ⟨present, rfl⟩
  · exact told
  · cases told with
    | ahead all supplied => exact pull_told (by simpa using all) supplied
    | ended => exact absurd rfl present

theorem Told.atDepth {cursor : Cursor (Recorded σ)} (told : Told tokens failure cursor)
    (depth : Nat) : Told tokens failure (cursor.atDepth depth) := by
  cases told with
  | ahead all supplied => exact .ahead all supplied
  | ended => exact .ended

theorem Told.goes {config : Config} {m next : Machine (Recorded σ)}
    (told : Told tokens failure m.cursor) (goes : Machine.Goes config m next) :
    Told tokens failure next.cursor := by
  cases goes with
  | halted => exact told
  | reads _ _ draws => exact told.draws draws
  | fails draws => exact told.draws draws
  | opens => exact told.atDepth _
  | leaves => exact told.atDepth _

theorem start_told (supplied : Supplies last feed tokens failure) :
    Told tokens failure (Machine.start (Recorded.ofFeed feed)).cursor := by
  rw [Machine.start_cursor]
  exact pull_told (List.nil_append tokens).symm supplied

theorem query_told (config : Config) (supplied : Supplies last feed tokens failure) :
    Told tokens failure (leftAt (query config ⟨Recorded.ofFeed feed, none, 0⟩)) := by
  obtain ⟨steps, ends⟩ := Machine.ends_as_query config (Recorded.ofFeed feed)
  have told : ∀ before next : Machine (Recorded σ), Machine.Goes config before next →
      Told tokens failure before.cursor → Told tokens failure next.cursor :=
    fun _ _ goes told => told.goes goes
  rw [← ends.cursor_eq]
  exact Machine.after_induction config told (start_told supplied) steps

theorem Told.begins {cursor : Cursor (Recorded σ)} (told : Told tokens failure cursor) :
    cursor.feed.answers <+: tokens.map gives ++ [ending failure] := by
  cases told with
  | @ahead _ _ found taken rest _ all _ =>
      refine ⟨rest.map gives ++ [ending failure], ?_⟩
      simp [all]
  | ended => exact List.prefix_refl _

end Told

/-- Nothing comes behind an answer that gives no token. -/
theorem gives_of_mem_dropLast {tokens : List SpannedToken} {last answer : FeedAnswer}
    {answers : List FeedAnswer} (begins : answers <+: tokens.map gives ++ [last])
    (early : answer ∈ answers.dropLast) : ∃ token, answer = gives token := by
  have given : answer ∈ tokens.map gives := by
    rcases List.prefix_concat_iff.mp begins with rfl | within
    · rwa [List.dropLast_concat] at early
    · exact within.mem ((List.dropLast_prefix answers).mem early)
  obtain ⟨token, _, rfl⟩ := List.mem_map.mp given
  exact ⟨token, rfl⟩

/-- Nothing that the feed has to give is left behind an accepted query. -/
theorem accepted_told {config : Config} {tokens : List SpannedToken} {failure : Option LexError}
    {last : Nat} {feed : σ} (supplied : Supplies last feed tokens failure) {result : Query}
    (accepted : parseFeed config feed = .ok result) :
    failure = none ∧ answersTo config feed = tokens.map gives ++ [ending failure] := by
  obtain ⟨_, _, feeds, _⟩ := parseFeed_ok accepted
  refine ⟨(supplied.of_feeds feeds).1, ?_⟩
  rw [← parseFeed_recorded] at accepted
  unfold parseFeed at accepted
  have told := query_told config supplied
  unfold answersTo
  cases run : query config ⟨Recorded.ofFeed feed, none, 0⟩ with
  | error error stopped =>
      rw [run] at accepted
      cases accepted
  | ok query after =>
      obtain ⟨_, _, _, exhausted⟩ := query_ok run
      rw [run] at told
      cases told with
      | ahead => cases exhausted
      | ended => rfl

/-- Each clause takes a token, and a parse ends. It pulls what the feed has to give from the
first token on, at most once more than there are tokens and never behind the end or a failure.
A query is accepted only when all has been pulled. -/
theorem pulls_in_order (config : Config) (feed : σ) :
    (∀ room, Clauses (σ := σ) Advances config room) ∧
      (∃ steps, ((Machine.start feed).after config steps).EndsAs
        (query config ⟨feed, none, 0⟩)) ∧
      parseFeed config (Recorded.ofFeed feed) = parseFeed config feed ∧
      ∃ last tokens failure, Supplies last feed tokens failure ∧
        answersTo config feed <+: tokens.map gives ++ [ending failure] ∧
        (answersTo config feed).length ≤ tokens.length + 1 ∧
        (∀ answer ∈ (answersTo config feed).dropLast, ∃ token, answer = gives token) ∧
        ∀ result, parseFeed config feed = .ok result →
          failure = none ∧ answersTo config feed = tokens.map gives ++ [ending failure] := by
  obtain ⟨last, tokens, failure, supplied⟩ := exists_supplies feed
  have begins : answersTo config feed <+: tokens.map gives ++ [ending failure] :=
    (query_told config supplied).begins
  refine ⟨clauses_advance config, Machine.ends_as_query config feed,
    parseFeed_recorded config feed, last, tokens, failure, supplied, begins, ?_, ?_, ?_⟩
  · simpa using begins.length_le
  · intro answer early
    exact gives_of_mem_dropLast begins early
  · intro result accepted
    exact accepted_told supplied accepted

def strayClosing : TokenQueue :=
  .ofTokens [⟨⟨.identifier, "a"⟩, 0, 1⟩, ⟨⟨.groupClose, ")"⟩, 1, 2⟩, ⟨⟨.identifier, "b"⟩, 3, 4⟩]

def oneWord : TokenQueue := .ofTokens [⟨⟨.identifier, "a"⟩, 0, 1⟩]

/-- The one parse is refused at the parenthesis, and the token behind it is never pulled; the
other one is told of the end. -/
theorem pulls_in_order_strayClosing :
    answersTo ⟨"f", 1⟩ strayClosing =
        [gives ⟨⟨.identifier, "a"⟩, 0, 1⟩, gives ⟨⟨.groupClose, ")"⟩, 1, 2⟩] ∧
      (∃ token, gives ⟨⟨.identifier, "a"⟩, 0, 1⟩ = gives token) ∧
      parseFeed ⟨"f", 1⟩ oneWord = .ok ⟨.term "f" "a"⟩ ∧
      ∃ (tokens : List SpannedToken) (failure : Option LexError), failure = none ∧
        answersTo ⟨"f", 1⟩ oneWord = tokens.map gives ++ [ending failure] := by
  have given : answersTo ⟨"f", 1⟩ strayClosing =
      [gives ⟨⟨.identifier, "a"⟩, 0, 1⟩, gives ⟨⟨.groupClose, ")"⟩, 1, 2⟩] := rfl
  have early : gives ⟨⟨.identifier, "a"⟩, 0, 1⟩ ∈ (answersTo ⟨"f", 1⟩ strayClosing).dropLast := by
    simp [given]
  have accepted : parseFeed ⟨"f", 1⟩ oneWord = .ok ⟨.term "f" "a"⟩ := rfl
  obtain ⟨_, _, _, _, _, _, _, _, _, tokens_first, _⟩ := pulls_in_order ⟨"f", 1⟩ strayClosing
  obtain ⟨_, _, _, _, tokens, failure, _, _, _, _, all⟩ := pulls_in_order ⟨"f", 1⟩ oneWord
  exact ⟨given, tokens_first _ early, accepted, tokens, failure, all _ accepted⟩

end SearchQuery
