import SearchQuery.Proofs.Breakage
import SearchQuery.Proofs.Soundness

/-!
Every failure of the parser has its reason in the tokens: it took them up to where
the reading breaks off, and the error is the one for the token ahead there, or the
feed failed. One fact for each clause, from what its parts fail with; the recursion
is tied at the end by induction on the room.
-/

namespace SearchQuery

variable {σ α β : Type}

def Cursor.ahead (cursor : Cursor σ) : Option Token := cursor.lookahead.map (·.token)

theorem Cursor.ahead_eq {cursor : Cursor σ} {found : SpannedToken}
    (head : cursor.lookahead = some found) : cursor.ahead = some found.token := by
  simp [ahead, head]

@[simp] theorem Cursor.kindOf_ahead (cursor : Cursor σ) : kindOf cursor.ahead = cursor.next := by
  cases head : cursor.lookahead <;> simp [Cursor.ahead, Cursor.next, head, SpannedToken.kind]

@[simp] theorem Cursor.ahead_atDepth (cursor : Cursor σ) (depth : Nat) :
    (cursor.atDepth depth).ahead = cursor.ahead := rfl

variable [TokenFeed σ]

def Fault.raise (limit : Nat) (cursor : Cursor σ) (fault : Fault) : GrammarError :=
  fault.error limit (TokenFeed.location cursor.feed) cursor.lookahead

@[simp] theorem Fault.raise_atDepth (limit depth : Nat) (cursor : Cursor σ) (fault : Fault) :
    fault.raise limit (cursor.atDepth depth) = fault.raise limit cursor := rfl

namespace Parse

open Cursor (Passes)

/-! Where a single step fails -/

omit [TokenFeed σ] in
theorem bind_error {step : Parse σ α} {later : α → Parse σ β} {before stopped : Cursor σ}
    {error : ParseError} (run : (step >>= later) before = .error error stopped) :
    step before = .error error stopped ∨
      ∃ value middle, step before = .ok value middle ∧ later value middle = .error error stopped := by
  change EStateM.bind step later before = _ at run
  unfold EStateM.bind at run
  split at run
  · exact .inr ⟨_, _, by assumption, run⟩
  · exact .inl (by simp_all)

theorem unexpected_run (limit : Nat) (expected : Expected) (cursor : Cursor σ) :
    (unexpected expected : Parse σ α) cursor =
      .error (.grammatical ((Fault.unexpected expected).raise limit cursor)) cursor := by
  unfold unexpected
  rw [bind_of_ok (peek_run cursor)]
  cases head : cursor.lookahead <;> simp only [Fault.raise, head] <;> rfl

theorem consume_lacking (limit : Nat) {kind : TokenKind} {cursor : Cursor σ}
    (other : cursor.next ≠ some kind) :
    consume kind cursor =
      .error (.grammatical ((Fault.unexpected (.token kind)).raise limit cursor)) cursor := by
  unfold consume
  rw [bind_of_ok (peek_run cursor)]
  cases head : cursor.lookahead with
  | none =>
      simp only [Fault.raise, head]
      rfl
  | some found =>
      have differs : found.kind ≠ kind := by simpa [Cursor.next, head] using other
      simp only [differs, ↓reduceIte, Fault.raise, head]
      rfl

theorem tooDeep_raises (config : Config) (cursor : Cursor σ) :
    (tooDeep config : Parse σ α) cursor =
      .error (.grammatical (Fault.tooDeep.raise config.maxDepth cursor)) cursor := by
  unfold tooDeep
  rw [bind_of_ok (peek_run cursor)]
  cases head : cursor.lookahead <;> simp only [Fault.raise, head] <;> rfl

theorem pull_error {before stopped : Cursor σ} {error : ParseError}
    (run : pull before = .error error stopped) :
    ∃ failure feed, TokenFeed.next before.feed = (.error failure, feed) ∧
      error = .lexical failure := by
  unfold pull at run
  split at run
  · cases run
  · cases run
    exact ⟨_, _, by assumption, rfl⟩

theorem refuseField_error (limit : Nat) {before stopped : Cursor σ} {error : ParseError}
    (run : refuseField before = .error error stopped) :
    ∃ colon, before.ahead = some colon ∧ colon.kind = .fieldSeparator ∧
      error = .grammatical (Fault.fieldInRange.raise limit before) := by
  unfold refuseField at run
  rw [bind_of_ok (peek_run before)] at run
  cases head : before.lookahead with
  | none =>
      simp only [head] at run
      cases run
  | some colon =>
      simp only [head] at run
      by_cases separates : colon.kind = .fieldSeparator
      · simp only [separates, ↓reduceIte] at run
        cases run
        exact ⟨colon.token, Cursor.ahead_eq head, separates,
          by simp [Fault.raise, Fault.error, head]⟩
      · simp only [separates, ↓reduceIte] at run
        cases run

theorem nested_error {config : Config} {step : Parse σ α} {before stopped : Cursor σ}
    {error : ParseError} (run : nested config step before = .error error stopped) :
    (config.maxDepth ≤ before.depth ∧
      error = .grammatical (Fault.tooDeep.raise config.maxDepth before)) ∨
    (before.depth < config.maxDepth ∧
      step (before.atDepth (before.depth + 1)) = .error error stopped) := by
  unfold nested at run
  rcases bind_error run with refused | ⟨_, opened, descended, run⟩
  · rw [descend_run] at refused
    split at refused
    · cases refused
    · rw [tooDeep_raises] at refused
      cases refused
      exact .inl ⟨by omega, rfl⟩
  · rw [descend_run] at descended
    split at descended
    · cases descended
      rcases bind_error run with failed | ⟨value, inside, _, run⟩
      · exact .inr ⟨by assumption, failed⟩
      · -- giving the level back does not fail
        cases run
    · rw [tooDeep_raises] at descended
      cases descended

/-! What a failure says -/

/-- The error has its reason behind some tokens: there the reading breaks off as `breaks`
says, or the feed failed. -/
inductive Raised (config : Config) (before : Cursor σ)
    (breaks : List Token → Option Token → Fault → Prop) : ParseError → Prop where
  | fault {done : List Token} {middle : Cursor σ} {fault : Fault} (passed : Passes before done middle)
      (broken : breaks done middle.ahead fault) :
      Raised config before breaks (.grammatical (fault.raise config.maxDepth middle))
  | scan {done : List Token} {middle : Cursor σ} {feed : σ} {failure : LexError}
      (passed : Passes before done middle)
      (answer : TokenFeed.next middle.feed = (.error failure, feed)) :
      Raised config before breaks (.lexical failure)

section Sequencing

variable {config : Config} {breaks whole : List Token → Option Token → Fault → Prop}
  {before middle stopped : Cursor σ} {error : ParseError} {tokens : List Token}

theorem Raised.behind (raised : Raised config middle breaks error)
    (passed : Passes before tokens middle)
    (joins : ∀ done ahead fault, breaks done ahead fault → whole (tokens ++ done) ahead fault) :
    Raised config before whole error := by
  cases raised with
  | fault followed broken => exact .fault (passed.append followed) (joins _ _ _ broken)
  | scan followed answer => exact .scan (passed.append followed) answer

theorem Raised.mono (raised : Raised config before breaks error)
    (joins : ∀ done ahead fault, breaks done ahead fault → whole done ahead fault) :
    Raised config before whole error :=
  raised.behind (.refl before) joins

/-- What is left to say of a failure behind tokens that were taken. -/
theorem Raised.after (passed : Passes before tokens middle)
    (raised : Raised config middle (fun done => whole (tokens ++ done)) error) :
    Raised config before whole error :=
  raised.behind passed fun _ _ _ broken => broken

/-- What the reading took and broke off at begins with the token ahead. -/
theorem Raised.begun (raised : Raised config before breaks error) :
    Raised config before (fun done ahead fault =>
      before.next = (firstKind done).or (kindOf ahead) ∧ breaks done ahead fault) error := by
  cases raised with
  | fault passed broken => exact .fault passed ⟨by simpa using passed.next_append, broken⟩
  | scan passed answer => exact .scan passed answer

theorem Raised.fromDepth (depth : Nat) (raised : Raised config (before.atDepth depth) breaks error) :
    Raised config before breaks error := by
  cases raised with
  | fault passed broken =>
      have outside := passed.atDepth before.depth
      rw [Cursor.atDepth_atDepth, Cursor.atDepth_self] at outside
      rw [← Fault.raise_atDepth config.maxDepth before.depth]
      exact .fault outside broken
  | scan passed answer =>
      have outside := passed.atDepth before.depth
      rw [Cursor.atDepth_atDepth, Cursor.atDepth_self] at outside
      exact .scan outside answer

/-- A token is missing, or the failure lies behind it. -/
theorem Raised.consume {kind : TokenKind} {later : SpannedToken → Parse σ β}
    (run : (consume kind >>= later) before = .error error stopped)
    (lacking : Lacks [kind] before.ahead → whole [] before.ahead (.unexpected (.token kind)))
    (rest : ∀ (found : SpannedToken) (middle : Cursor σ), found.token.kind = kind →
      before.lookahead = some found → Passes before [found.token] middle →
      later found middle = .error error stopped → Raised config before whole error) :
    Raised config before whole error := by
  rcases bind_error run with failed | ⟨found, middle, taken, run⟩
  · by_cases present : before.next = some kind
    · obtain ⟨found, head, same⟩ := Option.map_eq_some_iff.mp present
      unfold Parse.consume at failed
      rw [bind_of_ok (peek_run before), head] at failed
      simp only [same, ↓reduceIte] at failed
      rcases bind_error failed with pulled | ⟨_, _, _, returned⟩
      · obtain ⟨failure, feed, answer, rfl⟩ := pull_error pulled
        exact .scan (.refl before) answer
      · cases returned
    · rw [consume_lacking config.maxDepth present] at failed
      cases failed
      exact .fault (.refl before) (lacking (lacks_singleton.mpr (by simpa using present)))
  · obtain ⟨head, same, pulled⟩ := consume_pulls taken
    exact rest found middle same head (.next head pulled (.refl middle)) run

/-- The same where the token is known to be ahead. -/
theorem Raised.consume_ahead {kind : TokenKind} {later : SpannedToken → Parse σ β}
    (run : (Parse.consume kind >>= later) before = .error error stopped)
    (present : before.next = some kind)
    (rest : ∀ (found : SpannedToken) (middle : Cursor σ), found.token.kind = kind →
      before.lookahead = some found → Passes before [found.token] middle →
      later found middle = .error error stopped → Raised config before whole error) :
    Raised config before whole error :=
  .consume run (fun lacks => absurd present (by simpa using lacks_singleton.mp lacks)) rest

/-- A level is refused at the token that opens it, or the failure lies behind that token. -/
theorem Raised.nested {kind : TokenKind} {later : SpannedToken → Parse σ β} {room : Nat}
    (run : Parse.nested config (Parse.consume kind >>= later) before = .error error stopped)
    (ahead : before.next = some kind) (left : before.depth + room = config.maxDepth)
    (refused : ∀ opener : Token, room = 0 → opener.kind = kind →
      whole [] (some opener) .tooDeep)
    (rest : ∀ (fewer : Nat) (opener : Token) (middle : Cursor σ) (found : SpannedToken),
      room = fewer + 1 → opener.kind = kind → found.token = opener →
      middle.depth + fewer = config.maxDepth → later found middle = .error error stopped →
      Raised config middle (fun done => whole (opener :: done)) error) :
    Raised config before whole error := by
  rcases nested_error run with ⟨full, rfl⟩ | ⟨free, run⟩
  · obtain ⟨opener, head, same⟩ := Option.map_eq_some_iff.mp ahead
    exact .fault (.refl before) (Cursor.ahead_eq head ▸ refused opener.token (by omega) same)
  · obtain ⟨fewer, rfl⟩ : ∃ fewer, room = fewer + 1 := ⟨room - 1, by omega⟩
    refine .fromDepth (before.depth + 1) ?_
    refine .consume_ahead run ahead fun found middle same _ passed run => ?_
    have depth := passed.depth_eq
    rw [Cursor.depth_atDepth] at depth
    exact (rest fewer found.token middle found rfl same rfl (by omega) run).behind passed
      fun _ _ _ broken => broken

end Sequencing

/-! Leaves and ranges -/

section Values

variable {config : Config} {field : String} {before stopped : Cursor σ} {error : ParseError}

theorem bound_raised (run : bound before = .error error stopped) :
    Raised config before BreaksBound error := by
  unfold bound at run
  rw [peekKind_bind] at run
  cases ahead : before.next with
  | none =>
      simp only [ahead] at run
      rw [unexpected_run config.maxDepth] at run
      cases run
      exact .fault (.refl before) (.absent (by simp [Lacks, ahead]))
  | some kind =>
      cases kind
      case identifier | quotedString =>
        simp only [ahead] at run
        refine .consume_ahead run ahead fun found middle kind _ passed run => ?_
        have bounded : ∃ atom, found.token.atom? = some atom := by simp [Token.atom?, kind]
        obtain ⟨atom, bounded⟩ := bounded
        rcases bind_error run with refused | ⟨_, _, _, returned⟩
        · obtain ⟨colon, same, separates, rfl⟩ := refuseField_error config.maxDepth refused
          exact .fault passed (same ▸ .named bounded separates)
        · cases returned
      all_goals
        simp only [ahead] at run
        rw [unexpected_run config.maxDepth] at run
        cases run
        exact .fault (.refl before) (.absent (by simp [Lacks, boundKinds, ahead]))

theorem range_raised (ahead : before.next = some .rangeOpen)
    (run : range field before = .error error stopped) :
    Raised config before (BreaksValue field) error := by
  refine .consume_ahead run ahead fun opening _ opens _ opened run => ?_
  rcases bind_error run with failed | ⟨_, _, found, run⟩
  · exact (bound_raised failed).behind opened fun _ _ _ broken => .lower opens broken
  obtain ⟨lower, lowered, first, unnamed⟩ := bound_ok found
  refine .after (opened.append lowered) ?_
  refine .consume run (fun lacks => .between opens first (by simpa using unnamed) lacks) ?_
  intro middle _ between _ parted run
  rcases bind_error run with failed | ⟨_, _, found, run⟩
  · exact (bound_raised failed).behind parted fun _ _ _ broken => .upper opens first between broken
  obtain ⟨upper, uppered, second, unnamed⟩ := bound_ok found
  refine .after (parted.append uppered) ?_
  refine .consume run
    (fun lacks => .unclosed opens first between second (by simpa using unnamed) lacks) ?_
  intro closing _ _ _ _ run
  cases run

theorem comparison_raised (ahead : before.next = some .relationalOperator)
    (run : comparison field before = .error error stopped) :
    Raised config before (BreaksValue field) error := by
  refine .consume_ahead run ahead fun sign _ kind head passed run => ?_
  cases meant : Relation.ofSymbol? sign.text with
  | none =>
      -- the sign was taken before it is found to mean nothing
      simp only [meant] at run
      cases run
      have place : (Fault.unexpected (.token .relationalOperator)).raise config.maxDepth before =
          .unexpectedToken (.token .relationalOperator) sign.token sign.start := by
        simp [Fault.raise, Fault.error, head]
      rw [← place]
      exact .fault (.refl before) (Cursor.ahead_eq head ▸ .symbol kind meant)
  | some relation =>
      simp only [meant] at run
      rcases bind_error run with failed | ⟨_, _, _, returned⟩
      · exact (bound_raised failed).behind passed fun _ _ _ broken => .limit kind meant broken
      · cases returned

theorem phrase_raised {whole : List Token → Option Token → Fault → Prop}
    (ahead : before.next = some .quotedString)
    (run : phrase field before = .error error stopped) : Raised config before whole error := by
  refine .consume_ahead run ahead fun _ _ _ _ _ run => ?_
  cases run

end Values

/-! Clauses -/

def Blames (config : Config) (clause : Clause) (room : Nat) (step : Parse σ Expr) : Prop :=
  ∀ before stopped error, before.depth + room = config.maxDepth →
    step before = .error error stopped →
    Raised config before (Breaks config.defaultField room clause) error

section Clauses

variable {config : Config} {inner tail : Parse σ Expr} {room : Nat}
  (finds : Finds config.defaultField .expression room inner)
  (inside : ∀ fewer, room = fewer + 1 → Blames config .expression fewer inner)

include finds inside

theorem group_raised {before stopped : Cursor σ} {error : ParseError}
    (ahead : before.next = some .groupOpen) (left : before.depth + room = config.maxDepth)
    (run : group config inner before = .error error stopped) :
    Raised config before (Breaks config.defaultField room .group) error := by
  refine .nested run ahead left ?_ ?_
  · rintro opening rfl opens
    exact .groupRefused opens
  · rintro fewer opening middle _ rfl opens - free run
    rcases bind_error run with failed | ⟨body, last, found, run⟩
    · exact (inside fewer rfl _ _ _ free failed).mono fun _ _ _ broken => .inside opens broken
    · obtain ⟨tokens, levels, passed, reads, less⟩ := finds _ _ _ found
      refine .after passed ?_
      refine .consume run (fun lacks => ?_) fun _ _ _ _ _ run => ?_
      · rw [← Cursor.kindOf_ahead] at reads
        rw [List.append_nil]
        exact .unclosed opens reads (Nat.le_of_lt_succ less) lacks
      · cases run

theorem value_raised {before stopped : Cursor σ} {error : ParseError} {name colon : Token}
    (names : name.kind = .identifier) (separates : colon.kind = .fieldSeparator)
    (left : before.depth + room = config.maxDepth)
    (run : value config inner name.text before = .error error stopped) :
    Raised config before
      (fun done => Breaks config.defaultField room .factor (name :: colon :: done)) error := by
  have valued : ∀ done ahead fault, BreaksValue name.text done ahead fault →
      Breaks config.defaultField room .factor (name :: colon :: done) ahead fault :=
    fun _ _ _ broken => .value names separates broken
  unfold value at run
  rw [peekKind_bind] at run
  cases ahead : before.next with
  | none =>
      simp only [ahead] at run
      have absent : before.lookahead = none := by simpa [Cursor.next] using ahead
      have missing : before.ahead = none := by simp [Cursor.ahead, absent]
      have place : (Fault.missing name.text).raise config.maxDepth before =
          .missingValue name.text (TokenFeed.location before.feed) := by
        simp [Fault.raise, Fault.error, absent]
      cases run
      rw [← place]
      exact .fault (.refl before) (missing ▸ valued _ _ _ .missing)
  | some kind =>
      cases kind <;> simp only [ahead] at run
      case rangeOpen => exact (range_raised ahead run).mono valued
      case relationalOperator => exact (comparison_raised ahead run).mono valued
      case quotedString => exact phrase_raised ahead run
      case regex | identifier =>
        refine .consume_ahead run ahead fun _ _ _ _ _ run => ?_
        cases run
      case groupOpen =>
        rcases bind_error run with failed | ⟨_, _, _, returned⟩
        · exact (group_raised finds inside ahead left failed).mono
            fun _ _ _ broken => .fieldGroup names separates broken
        · cases returned
      all_goals
        obtain ⟨found, head, same⟩ := Option.map_eq_some_iff.mp ahead
        have same : found.token.kind = _ := same
        rw [unexpected_run config.maxDepth] at run
        cases run
        refine .fault (.refl before) (Cursor.ahead_eq head ▸ valued _ _ _ (.stranger ?_))
        simp [Lacks, valueKinds, same]

theorem term_raised {before stopped : Cursor σ} {error : ParseError}
    (lacks : before.next = some .identifier ∨ Lacks factorKinds before.ahead)
    (left : before.depth + room = config.maxDepth)
    (run : term config inner before = .error error stopped) :
    Raised config before (Breaks config.defaultField room .factor) error := by
  refine .consume run (fun other => ?_) fun name middle names _ named run => ?_
  · rcases lacks with present | lacks
    · exact absurd present (by simpa using lacks_singleton.mp other)
    · exact .stranger lacks
  · rw [peekKind_bind] at run
    have depth := named.depth_eq
    by_cases fielded : middle.next = some .fieldSeparator
    · simp only [fielded, ↓reduceIte] at run
      refine .after named ?_
      refine .consume_ahead run fielded fun colon last separates _ parted run => ?_
      have deep := parted.depth_eq
      exact (value_raised finds inside names separates (by omega) run).behind parted
        fun _ _ _ broken => broken
    · simp only [fielded, ↓reduceIte] at run
      cases run

theorem negation_raised {before stopped : Cursor σ} {error : ParseError}
    (ahead : before.next = some .logicalNot) (left : before.depth + room = config.maxDepth)
    (run : negation config inner before = .error error stopped) :
    Raised config before (Breaks config.defaultField room .factor) error := by
  refine .nested run ahead left ?_ ?_
  · rintro operator rfl written
    exact .notRefused written
  · rintro fewer operator middle _ rfl written - free run
    rcases bind_error run with failed | ⟨_, _, _, returned⟩
    · exact (inside fewer rfl _ _ _ free failed).mono fun _ _ _ broken => .not written broken
    · cases returned

theorem factor_blames : Blames config .factor room (factor config inner) := by
  intro before stopped error left run
  unfold factor at run
  rw [peekKind_bind] at run
  cases ahead : before.next with
  | none =>
      simp only [ahead] at run
      exact term_raised finds inside (.inr (by simp [Lacks, ahead])) left run
  | some kind =>
      cases kind <;> simp only [ahead] at run
      case logicalNot => exact negation_raised finds inside ahead left run
      case groupOpen =>
        exact (group_raised finds inside ahead left run).mono fun _ _ _ broken => .paren broken
      case quotedString => exact phrase_raised ahead run
      case identifier => exact term_raised finds inside (.inl ahead) left run
      all_goals
        exact term_raised finds inside (.inr (by simp [Lacks, factorKinds, ahead])) left run

theorem chain_blames (tails : ∀ fewer, room = fewer + 1 → Blames config .chain fewer tail) :
    Blames config .chain room (chain config inner tail) := by
  intro before stopped error left run
  unfold chain at run
  rcases bind_error run with failed | ⟨tree, middle, found, run⟩
  · exact (factor_blames finds inside _ _ _ left failed).mono fun _ _ _ broken => .last broken
  obtain ⟨tokens, levels, passed, reads, less⟩ := factor_finds finds _ _ _ found
  have depth := passed.depth_eq
  rw [peekKind_bind] at run
  by_cases linked : middle.next = some .logicalAnd
  · simp only [linked, ↓reduceIte] at run
    rw [linked] at reads
    have free : middle.depth + room = config.maxDepth := by rwa [depth]
    refine .after passed (.nested run linked free ?_ ?_)
    · rintro operator rfl written
      obtain rfl : levels = 0 := by omega
      rw [List.append_nil]
      exact .andRefused reads written
    · rintro fewer operator inside _ rfl written - free run
      rcases bind_error run with failed | ⟨_, _, _, returned⟩
      · exact (tails fewer rfl _ _ _ free failed).mono
          fun _ _ _ broken => .and reads (Nat.le_of_lt_succ less) written broken
      · cases returned
  · simp only [linked, ↓reduceIte] at run
    cases run

omit finds inside

theorem connective_raised {whole : List Token → Option Token → Fault → Prop}
    {before stopped : Cursor σ} {error : ParseError}
    (run : connective before = .error error stopped) : Raised config before whole error := by
  unfold connective at run
  rw [peekKind_bind] at run
  by_cases ahead : before.next = some .logicalOr
  · simp only [ahead, ↓reduceIte] at run
    refine .consume_ahead run ahead fun _ _ _ _ _ run => ?_
    cases run
  · simp only [ahead, ↓reduceIte] at run
    cases run

theorem connective_implicit {before after : Cursor σ}
    (run : connective before = .ok .implicitOr after) : before.next ≠ some .logicalOr := by
  intro written
  unfold connective at run
  rw [peekKind_bind] at run
  simp only [written, ↓reduceIte] at run
  obtain ⟨_, _, _, _, run⟩ := consume_bind_ok run
  have same := congrArg Connective.isImplicit (pure_ok run).1
  cases same

-- The loop keeps what `alternatives_finds` keeps: all tokens since the start form a
-- disjunction. It breaks off in the clause behind them.
theorem alternatives_raised {clause : Parse σ Expr}
    (each : Finds config.defaultField .chain (room + 1) clause)
    (blames : Blames config .chain room clause) (rounds : Nat) {start before stopped : Cursor σ}
    {tokens : List Token} {left : Expr} {levels : Nat} {error : ParseError}
    (passed : Passes start tokens before)
    (reads : Reads config.defaultField .disjunction tokens left before.next levels)
    (less : levels ≤ room) (free : before.depth + room = config.maxDepth)
    (run : alternatives clause rounds left before = .error error stopped) :
    Raised config start (Breaks config.defaultField room .disjunction) error := by
  induction rounds generalizing before tokens left levels with
  | zero => cases run
  | succ rounds ih =>
      by_cases ends : Ends before.next
      · rw [alternatives_stop ends] at run
        cases run
      rw [alternatives_round ends] at run
      rcases bind_error run with failed | ⟨operator, middle, linked, run⟩
      · exact (connective_raised failed).behind passed fun _ _ _ broken => broken
      have depth : middle.depth = before.depth := by
        rcases connective_ok linked with ⟨_, joined, _, _⟩ | ⟨rfl, _⟩
        · exact joined.depth_eq
        · rfl
      rcases bind_error run with failed | ⟨right, last, found, run⟩
      · have raised := (blames _ _ _ (by omega) failed).begun
        rcases connective_ok linked with ⟨written, joined, kind, rfl⟩ | ⟨rfl, rfl⟩
        · rw [joined.next_eq, kind] at reads
          refine raised.behind (passed.append joined) fun done ahead fault broken => ?_
          rw [List.append_assoc, List.singleton_append]
          exact .or reads less kind broken.2
        · have unwritten := connective_implicit linked
          exact raised.behind passed fun _ _ _ broken =>
            .adjacent reads less broken.1 ends unwritten broken.2
      · obtain ⟨more, deeper, followed, second, less'⟩ := each _ _ _ found
        have deep := followed.depth_eq
        rcases connective_ok linked with ⟨written, joined, kind, rfl⟩ | ⟨rfl, rfl⟩
        · rw [joined.next_eq, kind] at reads
          exact ih (passed.append (joined.append followed)) (.or reads kind second) (by omega)
            (by omega) run
        · have head : middle.next = firstKind more := by
            obtain ⟨token, rest, rfl⟩ := List.exists_cons_of_ne_nil second.tokens_ne_nil
            simpa using followed.next_eq
          rw [head] at reads
          exact ih (passed.append followed) (.adjacent reads second) (by omega) (by omega) run

theorem disjunction_blames {clause : Parse σ Expr}
    (each : Finds config.defaultField .chain (room + 1) clause)
    (blames : Blames config .chain room clause) :
    Blames config .disjunction room (disjunction clause) := by
  intro before stopped error left run
  unfold disjunction at run
  rcases bind_error run with failed | ⟨tree, middle, found, run⟩
  · exact (blames _ _ _ left failed).mono fun _ _ _ broken => .first broken
  · obtain ⟨tokens, levels, passed, reads, less⟩ := each _ _ _ found
    have depth := passed.depth_eq
    rcases bind_error run with counted | ⟨rounds, _, counted, run⟩
    · cases counted
    · cases counted
      exact alternatives_raised each blames _ passed (.first reads) (by omega) (by omega) run

include finds inside

theorem groupOrDisjunction_blames (rest : Finds config.defaultField .chain room tail)
    (tails : ∀ fewer, room = fewer + 1 → Blames config .chain fewer tail) :
    Blames config .expression room (groupOrDisjunction config inner tail) := by
  intro before stopped error left run
  unfold groupOrDisjunction at run
  rw [peekKind_bind] at run
  by_cases opens : before.next = some .groupOpen
  · simp only [opens, ↓reduceIte] at run
    exact (group_raised finds inside opens left run).mono fun _ _ _ broken => .ofGroup broken
  · simp only [opens, ↓reduceIte] at run
    have raised := disjunction_blames (chain_finds finds rest) (chain_blames finds inside tails)
      _ _ _ left run
    exact raised.begun.mono fun _ _ _ broken => .ofDisjunction broken.2 (broken.1 ▸ opens)

end Clauses

theorem blames_step (config : Config) (room : Nat)
    (inside : ∀ fewer, room = fewer + 1 →
      Blames config .expression fewer (expression config room : Parse σ Expr))
    (tails : ∀ fewer, room = fewer + 1 →
      Blames config .chain fewer (conjunction config room : Parse σ Expr)) :
    Blames config .expression room (expression config (room + 1) : Parse σ Expr) ∧
      Blames config .chain room (conjunction config (room + 1) : Parse σ Expr) := by
  have finds := expression_finds (σ := σ) config room
  constructor <;> intro before stopped error left run
  · rw [expression] at run
    exact groupOrDisjunction_blames finds.1 inside finds.2 tails _ _ _ left run
  · rw [conjunction] at run
    exact chain_blames finds.1 inside tails _ _ _ left run

theorem expression_blames (config : Config) (room : Nat) :
    Blames config .expression room (expression config (room + 1) : Parse σ Expr) ∧
      Blames config .chain room (conjunction config (room + 1) : Parse σ Expr) := by
  induction room with
  | zero => exact blames_step config 0 nofun nofun
  | succ room ih =>
      refine blames_step config (room + 1) ?_ ?_
      · rintro fewer ⟨⟩
        exact ih.1
      · rintro fewer ⟨⟩
        exact ih.2

theorem query_raised {config : Config} {before middle stopped : Cursor σ} {error : ParseError}
    (start : before.depth = 0) (pulled : pull before = .ok () middle)
    (run : query config before = .error error stopped) :
    Raised config middle (Stops config.defaultField config.maxDepth) error := by
  have depth := Cursor.pull_depth pulled
  unfold query at run
  rw [bind_of_ok pulled] at run
  rcases bind_error run with failed | ⟨body, last, found, run⟩
  · have raised := (expression_blames config config.maxDepth).1 _ _ _ (by omega) failed
    exact raised.mono fun _ _ _ broken => .within broken
  · obtain ⟨tokens, levels, passed, reads, less⟩ := (expression_finds config _).1 _ _ _ found
    rw [bind_of_ok (peek_run last)] at run
    cases head : last.lookahead with
    | none =>
        simp only [head] at run
        cases run
    | some extra =>
        simp only [head] at run
        have present := Cursor.ahead_eq head
        rw [unexpected_run config.maxDepth] at run
        cases run
        rw [← Cursor.kindOf_ahead, present] at reads
        exact .fault passed (present ▸ .beyond reads (Nat.le_of_lt_succ less))

end Parse

end SearchQuery
