import SearchQuery.Proofs.Soundness

/-!
What can be read is read. Before tokens that form a clause the parser for that
clause takes exactly these tokens and gives their tree, if the levels of the
reading fit into the room, and otherwise refuses the query as too deep.
-/

namespace SearchQuery.Parse

open Cursor (Passes)

variable {σ α β : Type}

def Refused (config : Config) (run : EStateM.Result ParseError (Cursor σ) α) : Prop :=
  ∃ offset stopped, run = .error (.grammatical (.tooDeep config.maxDepth offset)) stopped

/-- The run gives its result exactly if `need` is less than `room`. -/
def Settles (config : Config) (room need : Nat) (run : EStateM.Result ParseError (Cursor σ) α)
    (result : α) (after : Cursor σ) : Prop :=
  (need < room → run = .ok result after) ∧ (room ≤ need → Refused config run)

section Sequencing

variable {config : Config} {room need : Nat}

theorem Refused.bind {step : Parse σ α} {before : Cursor σ} (refused : Refused config (step before))
    (later : α → Parse σ β) : Refused config ((step >>= later) before) := by
  obtain ⟨offset, stopped, run⟩ := refused
  exact ⟨offset, stopped, bind_of_error run⟩

theorem Settles.of_ok {run : EStateM.Result ParseError (Cursor σ) α} {result : α}
    {after : Cursor σ} (done : run = .ok result after) :
    Settles config (room + 1) 0 run result after :=
  ⟨fun _ => done, fun full => absurd full (Nat.not_succ_le_zero room)⟩

theorem Settles.bind {step : Parse σ α} {later : α → Parse σ β} {before middle after : Cursor σ}
    {value : α} {result : β} {more : Nat}
    (first : Settles config room need (step before) value middle)
    (second : Settles config room more (later value middle) result after) :
    Settles config room (max need more) ((step >>= later) before) result after := by
  constructor
  · intro enough
    rw [bind_of_ok (first.1 (by omega))]
    exact second.1 (by omega)
  · intro full
    -- the first step may already ask for too much, else the second does
    by_cases early : room ≤ need
    · exact (first.2 early).bind later
    · rw [bind_of_ok (first.1 (by omega))]
      exact second.2 (by omega)

/-- A step that asks for no level leaves the need as it is. -/
theorem Settles.followed {step : Parse σ α} {later : α → Parse σ β}
    {before middle after : Cursor σ} {value : α} {result : β}
    (first : Settles config room need (step before) value middle)
    (done : later value middle = .ok result after) :
    Settles config room need ((step >>= later) before) result after := by
  constructor
  · intro enough
    rw [bind_of_ok (first.1 enough), done]
  · intro full
    exact (first.2 full).bind later

variable [TokenFeed σ]

-- With no room left the level is refused before the step is run at all, so
-- nothing is asked of the step then.
theorem Settles.nested {step : Parse σ α} {before inside : Cursor σ} {result : α}
    (left : before.depth + room = config.maxDepth) (same : inside.depth = before.depth + 1)
    (body : 0 < room →
      Settles config room need (step (before.atDepth (before.depth + 1))) result inside) :
    Settles config (room + 1) (need + 1) (nested config step before) result
      (inside.atDepth before.depth) := by
  unfold Parse.nested
  cases room with
  | zero =>
      have full : ¬ before.depth < config.maxDepth := by omega
      obtain ⟨offset, refused⟩ := tooDeep_run (α := Unit) config before
      refine ⟨fun enough => absurd enough (by omega), fun _ => ?_⟩
      refine Refused.bind ⟨offset, before, ?_⟩ _
      rw [descend_run, if_neg full, refused]
  | succ room =>
      have opened : descend config before = .ok () (before.atDepth (before.depth + 1)) := by
        rw [descend_run, if_pos (by omega)]
      have inner := body (Nat.succ_pos room)
      have closed : (ascend >>= fun _ => pure result : Parse σ α) inside =
          .ok result (inside.atDepth before.depth) := by
        have back : inside.atDepth before.depth = inside.atDepth (inside.depth - 1) := by
          rw [same, Nat.add_sub_cancel]
        rw [back]
        rfl
      rw [bind_of_ok opened]
      have whole : Settles config (room + 1) need
          ((step >>= fun value => ascend >>= fun _ => pure value)
            (before.atDepth (before.depth + 1))) result (inside.atDepth before.depth) :=
        inner.followed closed
      exact ⟨fun enough => whole.1 (by omega), fun full => whole.2 (by omega)⟩

end Sequencing

variable [TokenFeed σ]

/-! Leaves and ranges -/

theorem atom_cases {token : Token} {atom : Atom} (found : token.atom? = some atom) :
    (token.kind = .identifier ∧ atom = .term token.text) ∨
      (token.kind = .quotedString ∧ atom = .phrase (unquote token.text)) := by
  unfold Token.atom? at found
  split at found <;> cases found
  · exact .inl ⟨by assumption, rfl⟩
  · exact .inr ⟨by assumption, rfl⟩

theorem consume_kind {before after : Cursor σ} {token : Token} {tokens : List Token}
    {kind : TokenKind} (passed : Passes before (token :: tokens) after) (same : token.kind = kind) :
    ∃ found middle, found.token = token ∧ Passes middle tokens after ∧
      consume kind before = .ok found middle :=
  same ▸ consume_run passed

/-- A level is opened at a token, and what stands behind it is read on that level. -/
theorem Settles.nested_at {config : Config} {room need : Nat} {later : SpannedToken → Parse σ α}
    {before after : Cursor σ} {opener : Token} {tokens : List Token} {kind : TokenKind} {result : α}
    (left : before.depth + room = config.maxDepth) (passed : Passes before (opener :: tokens) after)
    (same : opener.kind = kind)
    (body : ∀ (fewer : Nat) (found : SpannedToken) (inside : Cursor σ), room = fewer + 1 →
      found.token = opener → inside.depth + fewer = config.maxDepth →
      Passes inside tokens (after.atDepth (before.depth + 1)) →
      Settles config (fewer + 1) need (later found inside) result
        (after.atDepth (before.depth + 1))) :
    Settles config (room + 1) (need + 1)
      (Parse.nested config (consume kind >>= later) before) result after := by
  rw [← passed.atDepth_back (before.depth + 1)]
  refine Settles.nested left rfl fun positive => ?_
  obtain ⟨fewer, rfl⟩ := Nat.exists_eq_succ_of_ne_zero (Nat.ne_of_gt positive)
  obtain ⟨found, inside, taken, behind, run⟩ :=
    consume_kind (passed.atDepth (before.depth + 1)) same
  have depth : inside.depth = before.depth + 1 := by
    rw [← behind.depth_eq, Cursor.depth_atDepth]
  rw [bind_of_ok run]
  exact body fewer found inside rfl taken (by omega) behind

omit [TokenFeed σ] in
theorem refuseField_run {cursor : Cursor σ} (unnamed : cursor.next ≠ some .fieldSeparator) :
    refuseField cursor = .ok () cursor := by
  unfold refuseField
  rw [bind_of_ok (peek_run cursor)]
  cases head : cursor.lookahead with
  | none => rfl
  | some found =>
      have other : found.kind ≠ .fieldSeparator := by simpa [Cursor.next, head] using unnamed
      simp only [other, ↓reduceIte]
      rfl

theorem bound_run {before after : Cursor σ} {token : Token} {tokens : List Token} {atom : Atom}
    (passed : Passes before (token :: tokens) after) (found : token.atom? = some atom)
    (unnamed : (firstKind tokens).or after.next ≠ some .fieldSeparator) :
    ∃ middle, Passes middle tokens after ∧ bound before = .ok atom middle := by
  have ahead := passed.next_eq
  unfold bound
  rw [peekKind_bind]
  rcases atom_cases found with ⟨kind, rfl⟩ | ⟨kind, rfl⟩
  all_goals
    obtain ⟨taken, middle, same, rest, run⟩ := consume_kind passed kind
    have later : middle.next ≠ some .fieldSeparator := by
      rw [rest.next_append]
      exact unnamed
    refine ⟨middle, rest, ?_⟩
    simp only [ahead, kind]
    rw [bind_of_ok run, bind_of_ok (refuseField_run later), ← same]
    rfl

theorem passes_nil {before after : Cursor σ} (passed : Passes before [] after) :
    before = after := by
  cases passed
  rfl

theorem phrase_run {field : String} {before after : Cursor σ} {token : Token}
    (passed : Passes before [token] after) (kind : token.kind = .quotedString) :
    phrase field before = .ok (.phrase field (unquote token.text)) after := by
  obtain ⟨found, middle, rfl, rest, run⟩ := consume_kind passed kind
  cases passes_nil rest
  unfold phrase
  rw [bind_of_ok run]
  rfl

theorem range_run {field : String} {before after : Cursor σ}
    {opening lower middle upper closing : Token} {low high : Atom}
    (passed : Passes before [opening, lower, middle, upper, closing] after)
    (opens : opening.kind = .rangeOpen) (first : lower.atom? = some low)
    (between : middle.kind = .rangeTo) (second : upper.atom? = some high)
    (closes : closing.kind = .rangeClose) :
    range field before =
      .ok (.range field ⟨low, .ofOpening opening.text⟩ ⟨high, .ofClosing closing.text⟩) after := by
  obtain ⟨start, _, rfl, passed, opened⟩ := consume_kind passed opens
  obtain ⟨_, passed, lowered⟩ := bound_run passed first (by simp [between])
  obtain ⟨_, _, rfl, passed, parted⟩ := consume_kind passed between
  obtain ⟨_, passed, uppered⟩ := bound_run passed second (by simp [closes])
  obtain ⟨stop, _, rfl, passed, closed⟩ := consume_kind passed closes
  cases passes_nil passed
  unfold range
  rw [bind_of_ok opened, bind_of_ok lowered, bind_of_ok parted, bind_of_ok uppered,
    bind_of_ok closed]
  rfl

theorem comparison_run {field : String} {before after : Cursor σ} {symbol token : Token}
    {relation : Relation} {atom : Atom} (passed : Passes before [symbol, token] after)
    (kind : symbol.kind = .relationalOperator)
    (meant : Relation.ofSymbol? symbol.text = some relation) (found : token.atom? = some atom)
    (unnamed : after.next ≠ some .fieldSeparator) :
    comparison field before = .ok (.comparison field ⟨atom, relation⟩) after := by
  obtain ⟨sign, _, rfl, passed, taken⟩ := consume_kind passed kind
  obtain ⟨_, passed, bounded⟩ := bound_run passed found (by simpa using unnamed)
  cases passes_nil passed
  have meant' : Relation.ofSymbol? sign.text = some relation := meant
  unfold comparison
  rw [bind_of_ok taken]
  simp only [meant']
  rw [bind_of_ok bounded]
  rfl

theorem value_run {config : Config} {inner : Parse σ Expr} {field : String}
    {before after : Cursor σ} {tokens : List Token} {tree : Expr} {next : Option TokenKind}
    (reads : ReadsValue field tokens tree next) (passed : Passes before tokens after)
    (same : after.next = next) :
    value config inner field before = .ok tree after := by
  unfold value
  rw [peekKind_bind]
  cases reads with
  | term kind =>
      simp only [passed.next_eq, kind]
      obtain ⟨found, middle, rfl, rest, run⟩ := consume_kind passed kind
      cases passes_nil rest
      rw [bind_of_ok run]
      rfl
  | phrase kind =>
      simp only [passed.next_eq, kind]
      exact phrase_run passed kind
  | regex kind =>
      simp only [passed.next_eq, kind]
      obtain ⟨found, middle, rfl, rest, run⟩ := consume_kind passed kind
      cases passes_nil rest
      rw [bind_of_ok run]
      rfl
  | range opens first between second closes =>
      simp only [passed.next_eq, opens]
      exact range_run passed opens first between second closes
  | comparison kind meant bounded unnamed =>
      simp only [passed.next_eq, kind]
      exact comparison_run passed kind meant bounded (same ▸ unnamed)

/-! Clauses -/

section Clauses

variable {config : Config} {room levels : Nat} {before after : Cursor σ} {tokens : List Token}
  {tree : Expr} {next : Option TokenKind}

/-- The disjunction has come to its loop with `left` read, and the rounds that are
left suffice for what is ahead. -/
def Reaches (config : Config) (room need : Nat) (clause : Parse σ Expr) (before : Cursor σ)
    (left : Expr) (after : Cursor σ) : Prop :=
  (need < room → ∃ rounds, after.Within rounds ∧
    disjunction clause before = alternatives clause rounds left after) ∧
  (room ≤ need → Refused config (disjunction clause before))

def Performs (config : Config) (room levels : Nat) (before : Cursor σ) (tree : Expr)
    (after : Cursor σ) : Clause → Prop
  | .expression =>
      Settles config (room + 1) levels (expression config (room + 1) before) tree after
  | .group =>
      Settles config (room + 1) levels (group config (expression config room) before) tree after
  | .disjunction =>
      Reaches config (room + 1) levels (conjunction config (room + 1)) before tree after
  | .chain =>
      Settles config (room + 1) levels (conjunction config (room + 1) before) tree after
  | .factor =>
      Settles config (room + 1) levels (factor config (expression config room) before) tree after

def Follows (σ : Type) [TokenFeed σ] (config : Config) (clause : Clause) (tokens : List Token)
    (tree : Expr) (next : Option TokenKind) (levels : Nat) : Prop :=
  ∀ (room : Nat) (before after : Cursor σ), Passes before tokens after → after.next = next →
    before.depth + room = config.maxDepth → Performs config room levels before tree after clause

theorem group_follows {opening closing : Token} (opens : opening.kind = .groupOpen)
    (closes : closing.kind = .groupClose)
    (body : Follows σ config .expression tokens tree (some .groupClose) levels) :
    Follows σ config .group (opening :: (tokens ++ [closing])) tree next (levels + 1) := by
  intro room before after passed ahead left
  refine Settles.nested_at left passed opens ?_
  rintro room _ inside rfl _ free behind
  -- the body ends before the closing parenthesis, which ends the group
  obtain ⟨last, through, out⟩ := behind.split
  obtain ⟨stop, done, rfl, rest, closed⟩ := consume_kind out closes
  cases passes_nil rest
  have inner := body room inside last through (by rw [out.next_eq, closes]) free
  refine Settles.followed inner ?_
  rw [bind_of_ok closed]
  rfl

theorem not_follows {operator : Token} (written : operator.kind = .logicalNot)
    (operand : Follows σ config .expression tokens tree next levels) :
    Follows σ config .factor (operator :: tokens) (.not (Spelling.of operator.text) tree) next
      (levels + 1) := by
  intro room before after passed ahead left
  have chosen : factor config (expression config room) before =
      negation config (expression config room) before := by
    unfold factor
    rw [peekKind_bind, passed.next_eq, written]
  unfold Performs
  rw [chosen]
  refine Settles.nested_at left passed written ?_
  rintro room sign inside rfl rfl free behind
  exact Settles.followed (operand room inside _ behind ahead free) rfl

theorem paren_follows (whole : Follows σ config .group tokens tree next levels)
    (opens : firstKind tokens = some .groupOpen) :
    Follows σ config .factor tokens tree next levels := by
  intro room before after passed ahead left
  have grouped := whole room before after passed ahead left
  have chosen : factor config (expression config room) before =
      group config (expression config room) before := by
    unfold factor
    rw [peekKind_bind, passed.next_of_firstKind opens]
  unfold Performs at grouped ⊢
  rw [chosen]
  exact grouped

/-- Before a name a factor is a term. -/
theorem factor_term {inner : Parse σ Expr} (named : before.next = some .identifier) :
    factor config inner before = term config inner before := by
  unfold factor
  rw [peekKind_bind, named]

theorem word_follows {value : Token} (kind : value.kind = .identifier)
    (unnamed : next ≠ some .fieldSeparator) :
    Follows σ config .factor [value] (.term config.defaultField value.text) next 0 := by
  intro room before after passed ahead _
  refine Settles.of_ok ((factor_term (passed.next_eq.trans (congrArg some kind))).trans ?_)
  obtain ⟨found, middle, rfl, rest, run⟩ := consume_kind passed kind
  cases passes_nil rest
  have bare : after.next ≠ some .fieldSeparator := ahead ▸ unnamed
  unfold term
  rw [bind_of_ok run, peekKind_bind]
  simp only [bare, ↓reduceIte]
  rfl

theorem phrase_follows {value : Token} (kind : value.kind = .quotedString) :
    Follows σ config .factor [value] (.phrase config.defaultField (unquote value.text)) next 0 := by
  intro room before after passed _ _
  refine Settles.of_ok ?_
  unfold factor
  rw [peekKind_bind, passed.next_eq, kind]
  exact phrase_run passed kind

/-- Behind a name and a colon a term is the value found there. -/
theorem term_fielded (config : Config) (inner : Parse σ Expr) {name colon : Token}
    (passed : Passes before (name :: colon :: tokens) after) (names : name.kind = .identifier)
    (separates : colon.kind = .fieldSeparator) :
    ∃ middle, Passes middle tokens after ∧
      factor config inner before = value config inner name.text middle := by
  rw [factor_term (passed.next_eq.trans (congrArg some names))]
  obtain ⟨found, _, rfl, passed, named⟩ := consume_kind passed names
  have ahead := passed.next_eq
  obtain ⟨_, middle, rfl, passed, parted⟩ := consume_kind passed separates
  refine ⟨middle, passed, ?_⟩
  unfold term
  rw [bind_of_ok named, peekKind_bind, ahead]
  simp only [separates, ↓reduceIte]
  rw [bind_of_ok parted]
  rfl

theorem value_follows {name colon : Token} (names : name.kind = .identifier)
    (separates : colon.kind = .fieldSeparator) (found : ReadsValue name.text tokens tree next) :
    Follows σ config .factor (name :: colon :: tokens) tree next 0 := by
  intro room before after passed ahead _
  obtain ⟨middle, passed, same⟩ :=
    term_fielded config (expression config room) passed names separates
  exact Settles.of_ok (same.trans (value_run found passed ahead))

theorem fieldGroup_follows {name colon : Token} (names : name.kind = .identifier)
    (separates : colon.kind = .fieldSeparator) (opens : firstKind tokens = some .groupOpen)
    (body : Follows σ config .group tokens tree next levels) :
    Follows σ config .factor (name :: colon :: tokens) (.group name.text tree) next levels := by
  intro room before after passed ahead left
  obtain ⟨middle, behind, same⟩ :=
    term_fielded config (expression config room) passed names separates
  have depth : middle.depth = before.depth := behind.depth_eq.symm.trans passed.depth_eq
  have grouped := body room middle after behind ahead (by omega)
  have opened := behind.next_of_firstKind opens
  unfold Performs at grouped ⊢
  rw [same]
  unfold value
  rw [peekKind_bind, opened]
  exact Settles.followed grouped rfl

theorem expression_succ (config : Config) (room : Nat) :
    (expression config (room + 1) : Parse σ Expr) =
      groupOrDisjunction config (expression config room) (conjunction config room) := by
  funext cursor
  rw [expression]

theorem conjunction_succ (config : Config) (room : Nat) :
    (conjunction config (room + 1) : Parse σ Expr) =
      chain config (expression config room) (conjunction config room) := by
  funext cursor
  rw [conjunction]

theorem last_follows (only : Follows σ config .factor tokens tree next levels)
    (stops : next ≠ some .logicalAnd) : Follows σ config .chain tokens tree next levels := by
  intro room before after passed ahead left
  have bare : after.next ≠ some .logicalAnd := ahead ▸ stops
  unfold Performs
  rw [conjunction_succ]
  refine Settles.followed (only room before after passed ahead left) ?_
  rw [peekKind_bind]
  simp only [bare, ↓reduceIte]
  rfl

theorem and_follows {operator : Token} {later : List Token} {left right : Expr} {deeper : Nat}
    (first : Follows σ config .factor tokens left (some .logicalAnd) levels)
    (written : operator.kind = .logicalAnd)
    (second : Follows σ config .chain later right next deeper) :
    Follows σ config .chain (tokens ++ operator :: later)
      (.binary (.and (Spelling.of operator.text)) left right) next (max levels (deeper + 1)) := by
  intro room before after passed ahead free
  obtain ⟨middle, through, behind⟩ := passed.split
  have linked : middle.next = some .logicalAnd := behind.next_eq.trans (congrArg some written)
  have same : middle.depth + room = config.maxDepth := by rwa [through.depth_eq]
  unfold Performs
  rw [conjunction_succ]
  refine Settles.bind (first room before middle through linked free) ?_
  rw [peekKind_bind]
  simp only [linked, ↓reduceIte]
  refine Settles.nested_at same behind written ?_
  rintro room sign inside rfl rfl free rest
  exact Settles.followed (second room inside _ rest ahead free) rfl

/-! The loop over the clauses of a disjunction -/

theorem first_follows (only : Follows σ config .chain tokens tree next levels) :
    Follows σ config .disjunction tokens tree next levels := by
  intro room before after passed ahead left
  have settled := only room before after passed ahead left
  unfold Performs at settled
  constructor
  · intro enough
    refine ⟨_, after.within_tokensLeft, ?_⟩
    unfold disjunction
    rw [bind_of_ok (settled.1 enough)]
    rfl
  · intro full
    exact (settled.2 full).bind _

/-- Where the disjunction goes on there is a round left for it. -/
theorem rounds_left {cursor : Cursor σ} {rounds : Nat} (within : cursor.Within rounds)
    (goes : ¬ Ends cursor.next) : ∃ fewer, rounds = fewer + 1 := by
  have present : cursor.lookahead ≠ none := by
    intro missing
    exact goes (.inl (Cursor.next_eq_none missing))
  exact Nat.exists_eq_succ_of_ne_zero (Nat.ne_of_gt (Nat.zero_lt_of_lt (within present)))

/-- One round of the loop. -/
theorem Reaches.round {clause : Parse σ Expr} {middle linked : Cursor σ} {operator : Connective}
    {left right : Expr} {need deeper : Nat}
    (here : Reaches config room need clause before left middle)
    (goes : ¬ Ends middle.next) (joined : connective middle = .ok operator linked)
    (passed : Passes middle tokens after) (some_token : tokens ≠ [])
    (settled : Settles config room deeper (clause linked) right after) :
    Reaches config room (max need deeper) clause before (.binary operator left right) after := by
  constructor
  · intro enough
    obtain ⟨rounds, within, same⟩ := here.1 (by omega)
    obtain ⟨rounds, rfl⟩ := rounds_left within goes
    refine ⟨rounds, passed.within some_token within, ?_⟩
    rw [same, alternatives_round goes, bind_of_ok joined, bind_of_ok (settled.1 (by omega))]
  · intro full
    by_cases early : room ≤ need
    · exact here.2 early
    · obtain ⟨rounds, within, same⟩ := here.1 (by omega)
      obtain ⟨rounds, rfl⟩ := rounds_left within goes
      rw [same, alternatives_round goes, bind_of_ok joined]
      exact (settled.2 (by omega)).bind _

theorem or_follows {operator : Token} {later : List Token} {left right : Expr} {deeper : Nat}
    (first : Follows σ config .disjunction tokens left (some .logicalOr) levels)
    (written : operator.kind = .logicalOr)
    (second : Follows σ config .chain later right next deeper) :
    Follows σ config .disjunction (tokens ++ operator :: later)
      (.binary (.explicitOr (Spelling.of operator.text)) left right) next (max levels deeper) := by
  intro room before after passed ahead free
  obtain ⟨middle, through, behind⟩ := passed.split
  have linked : middle.next = some .logicalOr := behind.next_eq.trans (congrArg some written)
  have depth := through.depth_eq
  have here := first room before middle through linked free
  obtain ⟨sign, inside, rfl, rest, taken⟩ := consume_kind behind written
  have joined : connective middle = .ok (.explicitOr (Spelling.of sign.token.text)) inside := by
    unfold connective
    rw [peekKind_bind]
    simp only [linked, ↓reduceIte]
    rw [bind_of_ok taken]
    rfl
  have deep := rest.depth_eq.symm.trans behind.depth_eq
  exact Reaches.round here (by simp [Ends, linked]) joined behind (by simp)
    (second room inside after rest ahead (by omega))

theorem adjacent_follows {later : List Token} {left right : Expr} {deeper : Nat}
    (first : Follows σ config .disjunction tokens left (firstKind later) levels)
    (begins : Reads.Begins (firstKind later))
    (second : Follows σ config .chain later right next deeper) :
    Follows σ config .disjunction (tokens ++ later) (.binary .implicitOr left right) next
      (max levels deeper) := by
  intro room before after passed ahead free
  obtain ⟨middle, through, behind⟩ := passed.split
  have some_token : later ≠ [] := by
    rintro rfl
    simp [Reads.Begins] at begins
  have same : middle.next = firstKind later := by
    obtain ⟨token, others, rfl⟩ := List.exists_cons_of_ne_nil some_token
    exact behind.next_eq
  have depth := through.depth_eq
  have here := first room before middle through same free
  rw [← same] at begins
  have goes : ¬ Ends middle.next := by
    rcases begins with kind | kind | kind | kind <;> simp [Ends, kind]
  have joined : connective middle = .ok .implicitOr middle := by
    unfold connective
    rw [peekKind_bind]
    rcases begins with kind | kind | kind | kind <;> simp only [kind] <;> rfl
  exact Reaches.round here goes joined behind some_token
    (second room middle after behind ahead (by omega))

theorem ofGroup_follows (whole : Follows σ config .group tokens tree next levels)
    (opens : firstKind tokens = some .groupOpen) :
    Follows σ config .expression tokens tree next levels := by
  intro room before after passed ahead left
  have opened := passed.next_of_firstKind opens
  unfold Performs
  rw [expression]
  unfold groupOrDisjunction
  rw [peekKind_bind]
  simp only [opened, ↓reduceIte]
  exact whole room before after passed ahead left

theorem ofDisjunction_follows (whole : Follows σ config .disjunction tokens tree next levels)
    (some_token : tokens ≠ []) (bare : firstKind tokens ≠ some .groupOpen) (ends : Ends next) :
    Follows σ config .expression tokens tree next levels := by
  intro room before after passed ahead left
  have here := whole room before after passed ahead left
  have unopened : before.next ≠ some .groupOpen := by
    obtain ⟨token, others, rfl⟩ := List.exists_cons_of_ne_nil some_token
    rwa [passed.next_eq]
  unfold Performs
  rw [expression]
  unfold groupOrDisjunction
  rw [peekKind_bind]
  simp only [unopened, ↓reduceIte]
  rw [← conjunction_succ]
  constructor
  · intro enough
    obtain ⟨rounds, _, same⟩ := here.1 enough
    exact same.trans (alternatives_stop (ahead ▸ ends))
  · exact here.2

end Clauses

theorem group_opens {field : String} {tokens : List Token} {tree : Expr}
    {next : Option TokenKind} {levels : Nat}
    (reads : Reads field .group tokens tree next levels) :
    firstKind tokens = some .groupOpen := by
  cases reads with
  | group opens => simp [opens]

theorem reads_follows {config : Config} {clause : Clause} {tokens : List Token} {tree : Expr}
    {next : Option TokenKind} {levels : Nat}
    (reads : Reads config.defaultField clause tokens tree next levels) :
    Follows σ config clause tokens tree next levels := by
  induction reads with
  | ofGroup whole ih => exact ofGroup_follows ih (group_opens whole)
  | ofDisjunction whole bare ends ih =>
      exact ofDisjunction_follows ih whole.tokens_ne_nil bare ends
  | group opens _ closes ih => exact group_follows opens closes ih
  | first _ ih => exact first_follows ih
  | or _ written _ ihLeft ihRight => exact or_follows ihLeft written ihRight
  | adjacent _ second ihLeft ihRight => exact adjacent_follows ihLeft second.begins ihRight
  | last _ stops ih => exact last_follows ih stops
  | and _ written _ ihLeft ihRight => exact and_follows ihLeft written ihRight
  | not written _ ih => exact not_follows written ih
  | paren whole ih => exact paren_follows ih (group_opens whole)
  | word kind unnamed => exact word_follows kind unnamed
  | phrase kind => exact phrase_follows kind
  | value names separates found => exact value_follows names separates found
  | fieldGroup names separates body ih =>
      exact fieldGroup_follows names separates (group_opens body) ih

end SearchQuery.Parse
