import SearchQuery.Proofs.Acceptance
import SearchQuery.Proofs.Supply

/-!
A parse that pulls its tokens from a feed, beside the same parse over the list of
these tokens. As long as tokens are ahead the two go in step. They part only where
the list ends: there the feed may fail, and where it does not it stands elsewhere.
-/

namespace SearchQuery

namespace GrammarError

def atEnd : GrammarError → Bool
  | .unexpectedEnd .. | .missingValue .. => true
  | .unexpectedToken .. | .fieldInRange .. | .tooDeep .. => false

def endingAt (offset : Nat) : GrammarError → GrammarError
  | .unexpectedEnd expected _ => .unexpectedEnd expected offset
  | .missingValue field _ => .missingValue field offset
  | error => error

theorem endingAt_of_not_atEnd {error : GrammarError} (other : error.atEnd = false) (offset : Nat) :
    error.endingAt offset = error := by
  cases error <;> first | rfl | cases other

end GrammarError

namespace ParseError

def atEnd : ParseError → Bool
  | .lexical _ => false
  | .grammatical error => error.atEnd

def endingAt (offset : Nat) : ParseError → ParseError
  | .lexical error => .lexical error
  | .grammatical error => .grammatical (error.endingAt offset)

end ParseError

def lastStop (start : Nat) : List SpannedToken → Nat
  | [] => start
  | token :: rest => lastStop token.stop rest

namespace Parse

variable {σ α β : Type} [TokenFeed σ]

/-- What stands behind the tokens: where the feed ends, where the list ends, and the
failure that the feed comes to instead of its end. -/
structure Finish where
  feed : Nat
  list : Nat
  failure : Option LexError

variable (finish : Finish)

def Finish.atEnd (depth : Nat) : Cursor TokenQueue := ⟨⟨[], finish.list⟩, none, depth⟩

inductive Abreast (depth : Nat) : Cursor σ → Cursor TokenQueue → Prop where
  | ahead {feed : σ} {found : SpannedToken} {tokens : List SpannedToken} {location : Nat}
      (supplied : Supplies finish.feed feed tokens finish.failure)
      (stops : lastStop location tokens = finish.list)
      (meaningful : ∀ token ∈ found :: tokens, Meaningful token.token) :
      Abreast depth ⟨feed, some found, depth⟩ ⟨⟨tokens, location⟩, some found, depth⟩
  | ended {feed : σ} (unfailed : finish.failure = none)
      (stands : TokenFeed.location feed = finish.feed) :
      Abreast depth ⟨feed, none, depth⟩ (finish.atEnd depth)

/-- What can still come of a run over the list that has no token left. -/
inductive Lapses (depth : Nat) : EStateM.Result ParseError (Cursor TokenQueue) α → Prop where
  | done (value : α) : Lapses depth (.ok value (finish.atEnd depth))
  | refused {error : GrammarError} {stopped : Cursor TokenQueue} (atEnd : error.atEnd = true)
      (stands : error.offset = finish.list) : Lapses depth (.error (.grammatical error) stopped)

inductive Outcome (depth : Nat) : EStateM.Result ParseError (Cursor σ) α →
    EStateM.Result ParseError (Cursor TokenQueue) α → Prop where
  | done {value : α} {cursor : Cursor σ} {queue : Cursor TokenQueue}
      (abreast : Abreast finish depth cursor queue) :
      Outcome depth (.ok value cursor) (.ok value queue)
  | refused {error : GrammarError} {stopped : Cursor σ} {halted : Cursor TokenQueue}
      (other : error.atEnd = false) :
      Outcome depth (.error (.grammatical error) stopped) (.error (.grammatical error) halted)
  | short {error : GrammarError} {stopped : Cursor σ} {halted : Cursor TokenQueue}
      (unfailed : finish.failure = none) (atEnd : error.atEnd = true)
      (stands : error.offset = finish.list) :
      Outcome depth (.error (.grammatical (error.endingAt finish.feed)) stopped)
        (.error (.grammatical error) halted)
  | failed {error : LexError} {stopped : Cursor σ}
      {run : EStateM.Result ParseError (Cursor TokenQueue) α}
      (failure : finish.failure = some error) (lapses : Lapses finish depth run) :
      Outcome depth (.error (.lexical error) stopped) run

/-- With a token of this kind ahead of both, or none, the two steps come to the same. -/
structure Tandem (depth : Nat) (kind : Option TokenKind) (step : Parse σ α)
    (again : Parse TokenQueue α) : Prop where
  abreast {cursor : Cursor σ} {queue : Cursor TokenQueue}
    (together : Abreast finish depth cursor queue) (next : queue.next = kind) :
    Outcome finish depth (step cursor) (again queue)
  ended (last : kind = none) : Lapses finish depth (again (finish.atEnd depth))

section Sequencing

variable {finish} {depth deeper : Nat} {kind : Option TokenKind}

theorem Lapses.bind {step : Parse TokenQueue α} {later : α → Parse TokenQueue β}
    {queue : Cursor TokenQueue} (first : Lapses finish deeper (step queue))
    (second : ∀ value, step queue = .ok value (finish.atEnd deeper) →
      Lapses finish depth (later value (finish.atEnd deeper))) :
    Lapses finish depth ((step >>= later) queue) := by
  generalize same : step queue = run at first
  cases first with
  | done value =>
      rw [bind_of_ok same]
      exact second value same
  | refused atEnd stands =>
      rw [bind_of_error same]
      exact .refused atEnd stands

theorem Outcome.bind {step : Parse σ α} {again : Parse TokenQueue α} {later : α → Parse σ β}
    {after : α → Parse TokenQueue β} {cursor : Cursor σ} {queue : Cursor TokenQueue}
    (first : Outcome finish deeper (step cursor) (again queue))
    (second : ∀ value middle halfway, step cursor = .ok value middle →
      again queue = .ok value halfway → Abreast finish deeper middle halfway →
      Outcome finish depth (later value middle) (after value halfway))
    (lapses : ∀ value, again queue = .ok value (finish.atEnd deeper) →
      Lapses finish depth (after value (finish.atEnd deeper))) :
    Outcome finish depth ((step >>= later) cursor) ((again >>= after) queue) := by
  generalize same : step cursor = run at first
  generalize twin : again queue = run' at first
  cases first with
  | done together =>
      rw [bind_of_ok same, bind_of_ok twin]
      exact second _ _ _ same twin together
  | refused other =>
      rw [bind_of_error same, bind_of_error twin]
      exact .refused other
  | short unfailed atEnd stands =>
      rw [bind_of_error same, bind_of_error twin]
      exact .short unfailed atEnd stands
  | failed failure lapsed =>
      rw [bind_of_error same]
      exact .failed failure (Lapses.bind (twin ▸ lapsed) lapses)

/-- Steps in tandem go on from where two others have come out together. -/
theorem Outcome.followed {step : Parse σ α} {again : Parse TokenQueue α} {later : α → Parse σ β}
    {after : α → Parse TokenQueue β} {cursor : Cursor σ} {queue : Cursor TokenQueue}
    (first : Outcome finish depth (step cursor) (again queue))
    (second : ∀ value kind, Tandem finish depth kind (later value) (after value)) :
    Outcome finish depth ((step >>= later) cursor) ((again >>= after) queue) :=
  first.bind (fun value _ halfway _ _ beside => (second value halfway.next).abreast beside rfl)
    fun value _ => (second value none).ended rfl

theorem Tandem.bind {step : Parse σ α} {again : Parse TokenQueue α} {later : α → Parse σ β}
    {after : α → Parse TokenQueue β} (first : Tandem finish depth kind step again)
    (second : ∀ value kind, Tandem finish depth kind (later value) (after value)) :
    Tandem finish depth kind (step >>= later) (again >>= after) where
  abreast together next := (first.abreast together next).followed second
  ended last := (first.ended last).bind fun value _ => (second value none).ended rfl

theorem Tandem.pure (value : α) :
    Tandem finish depth kind (Pure.pure value : Parse σ α) (Pure.pure value) where
  abreast together _ := .done together
  ended _ := .done value

/-- Both take the same branch on the token ahead. -/
theorem Tandem.peek {step : Option SpannedToken → Parse σ α}
    {again : Option SpannedToken → Parse TokenQueue α}
    (absent : kind = none → Tandem finish depth none (step none) (again none))
    (present : ∀ found : SpannedToken, kind = some found.kind →
      Tandem finish depth (some found.kind) (step (some found)) (again (some found))) :
    Tandem finish depth kind (Parse.peek >>= step) (Parse.peek >>= again) where
  abreast {cursor queue} together next := by
    rw [bind_of_ok (peek_run cursor), bind_of_ok (peek_run queue)]
    cases together with
    | @ahead _ found _ _ supplied stops meaningful =>
        exact (present found next.symm).abreast (.ahead supplied stops meaningful) rfl
    | ended unfailed stands => exact (absent next.symm).abreast (.ended unfailed stands) rfl
  ended last := (absent last).ended rfl

theorem Tandem.peekKind {step : Option TokenKind → Parse σ α}
    {again : Option TokenKind → Parse TokenQueue α}
    (branch : Tandem finish depth kind (step kind) (again kind)) :
    Tandem finish depth kind (Parse.peekKind >>= step) (Parse.peekKind >>= again) where
  abreast {cursor queue} together next := by
    have same : cursor.next = queue.next := by cases together <;> rfl
    rw [peekKind_bind, peekKind_bind, same, next]
    exact branch.abreast together next
  ended last := by
    subst last
    exact branch.ended rfl

end Sequencing

/-! Failures and single tokens -/

section Steps

variable {finish} {depth : Nat} {kind : Option TokenKind} {ahead : TokenKind}

theorem Tandem.fail {error : GrammarError} (other : error.atEnd = false) :
    Tandem finish depth (some ahead) (Parse.fail error : Parse σ α) (Parse.fail error) where
  abreast _ _ := .refused other
  ended := nofun

/-- Where no token is left each side names its own end. -/
theorem Tandem.fail_location {error : Nat → GrammarError}
    (atEnd : ∀ offset, (error offset).atEnd = true)
    (stands : ∀ offset, (error offset).offset = offset)
    (moved : ∀ offset other, (error other).endingAt offset = error offset) :
    Tandem finish depth none (location >>= fun offset => Parse.fail (error offset) : Parse σ α)
      (location >>= fun offset => Parse.fail (error offset)) where
  abreast together next := by
    cases together with
    | ahead => cases next
    | @ended feed unfailed place =>
        change Outcome finish depth (.error (.grammatical (error (TokenFeed.location feed))) _)
          (.error (.grammatical (error finish.list)) _)
        rw [place, ← moved finish.feed finish.list]
        exact .short unfailed (atEnd finish.list) (stands finish.list)
  ended _ := .refused (atEnd finish.list) (stands finish.list)

theorem Tandem.failAt (expected : Expected) (found : SpannedToken) :
    Tandem finish depth (some ahead) (Parse.failAt expected found : Parse σ α)
      (Parse.failAt expected found) :=
  .fail rfl

theorem Tandem.failAt_none (expected : Expected) :
    Tandem finish depth none (Parse.failAt expected none : Parse σ α)
      (Parse.failAt expected none) :=
  .fail_location (fun _ => rfl) (fun _ => rfl) fun _ _ => rfl

theorem Tandem.unexpected (expected : Expected) :
    Tandem finish depth kind (Parse.unexpected expected : Parse σ α) (Parse.unexpected expected) :=
  .peek (fun _ => .failAt_none expected) fun found _ => .failAt expected found

theorem pull_outcome {feed : σ} {tokens : List SpannedToken} {place : Nat}
    (supplied : Supplies finish.feed feed tokens finish.failure)
    (stops : lastStop place tokens = finish.list)
    (meaningful : ∀ token ∈ tokens, Meaningful token.token) (held kept : Option SpannedToken) :
    Outcome finish depth (pull ⟨feed, held, depth⟩)
      (pull (⟨⟨tokens, place⟩, kept, depth⟩ : Cursor TokenQueue)) := by
  generalize failure : finish.failure = failed at supplied
  cases supplied with
  | @ended _ after answer stands =>
      have run : pull (⟨feed, held, depth⟩ : Cursor σ) = .ok () ⟨after, none, depth⟩ :=
        pull_ok_iff.mpr ⟨answer, rfl⟩
      have again : pull (⟨⟨[], place⟩, kept, depth⟩ : Cursor TokenQueue) =
          .ok () (finish.atEnd depth) := by
        rw [Finish.atEnd, ← stops]
        rfl
      rw [run, again]
      exact .done (.ended failure stands)
  | @failed _ after error answer =>
      have run : pull (⟨feed, held, depth⟩ : Cursor σ) =
          .error (.lexical error) ⟨after, none, depth⟩ := by
        unfold pull
        simp [answer]
      have again : pull (⟨⟨[], place⟩, kept, depth⟩ : Cursor TokenQueue) =
          .ok () (finish.atEnd depth) := by
        rw [Finish.atEnd, ← stops]
        rfl
      rw [run, again]
      exact .failed failure (.done ())
  | @more _ after found tokens _ answer rest =>
      have run : pull (⟨feed, held, depth⟩ : Cursor σ) = .ok () ⟨after, some found, depth⟩ :=
        pull_ok_iff.mpr ⟨answer, rfl⟩
      rw [run]
      exact .done (.ahead (failure ▸ rest) stops meaningful)

theorem Tandem.pull : Tandem finish depth (some ahead) (Parse.pull : Parse σ Unit) Parse.pull where
  abreast together next := by
    cases together with
    | ahead supplied stops meaningful =>
        rw [List.forall_mem_cons] at meaningful
        exact pull_outcome supplied stops meaningful.2 _ _
    | ended => cases next
  ended := nofun

theorem Tandem.consumed (wanted : TokenKind) :
    Tandem finish depth kind (Parse.consume wanted : Parse σ SpannedToken)
      (Parse.consume wanted) := by
  unfold Parse.consume
  refine .peek (fun _ => .failAt_none _) fun found _ => ?_
  by_cases same : found.kind = wanted
  · simp only [same, ↓reduceIte]
    exact .bind .pull fun _ _ => .pure found
  · simp only [same, ↓reduceIte]
    exact .failAt _ found

theorem consume_meaningful {wanted : TokenKind} {found : SpannedToken} {cursor : Cursor σ}
    {queue after : Cursor TokenQueue} (together : Abreast finish depth cursor queue)
    (run : consume wanted queue = .ok found after) : Meaningful found.token := by
  have passed := (consume_ok run).1
  generalize found.token = token at passed
  cases passed with
  | next head =>
      cases together with
      | ahead _ _ meaningful =>
          cases head
          exact meaningful _ List.mem_cons_self
      | ended => cases head

/-- What follows a token that both have taken. -/
theorem Tandem.consume {wanted : TokenKind} {later : SpannedToken → Parse σ α}
    {after : SpannedToken → Parse TokenQueue α}
    (second : ∀ found kind, found.kind = wanted → Meaningful found.token →
      Tandem finish depth kind (later found) (after found)) :
    Tandem finish depth kind (Parse.consume wanted >>= later) (Parse.consume wanted >>= after) where
  abreast together next := by
    refine ((Tandem.consumed wanted).abreast together next).bind ?_ ?_
    · intro found middle halfway _ run beside
      exact (second found _ (consume_ok run).2 (consume_meaningful together run)).abreast beside rfl
    · intro found run
      exact (second found none (consume_ok run).2 (consume_meaningful together run)).ended rfl
  ended last := by
    subst last
    exact ((Tandem.consumed (σ := σ) wanted).ended rfl).bind fun found run => by
      have passed := (consume_ok run).1.next_eq
      cases passed

/-- A level is opened only where a token is ahead. -/
theorem Tandem.nested {config : Config} {step : Parse σ α} {again : Parse TokenQueue α}
    (inside : depth < config.maxDepth → Tandem finish (depth + 1) (some ahead) step again) :
    Tandem finish depth (some ahead) (Parse.nested config step) (Parse.nested config again) where
  abreast together next := by
    cases together with
    | ended => cases next
    | @ahead feed found tokens place supplied stops meaningful =>
        unfold Parse.nested
        by_cases free : depth < config.maxDepth
        · have opened : ∀ {τ : Type} [TokenFeed τ] (feed : τ),
              descend config ⟨feed, some found, depth⟩ = .ok () ⟨feed, some found, depth + 1⟩ :=
            fun _ => (descend_run config _).trans (if_pos free)
          rw [bind_of_ok (opened feed), bind_of_ok (opened _)]
          refine ((inside free).abreast (.ahead supplied stops meaningful) next).bind ?_ ?_
          · intro value middle halfway _ _ beside
            cases beside with
            | ahead supplied stops meaningful => exact .done (.ahead supplied stops meaningful)
            | ended unfailed stands => exact .done (.ended unfailed stands)
          · intro value _
            exact .done value
        · have refused : ∀ {τ : Type} [TokenFeed τ] (feed : τ),
              descend config ⟨feed, some found, depth⟩ =
                .error (.grammatical (.tooDeep config.maxDepth found.start))
                  ⟨feed, some found, depth⟩ :=
            fun _ => (descend_run config _).trans (if_neg free)
          rw [bind_of_error (refused feed), bind_of_error (refused _)]
          exact .refused rfl
  ended := nofun

end Steps

/-! Clauses -/

section Clauses

variable {finish} {config : Config} {depth : Nat} {kind : Option TokenKind} {ahead : TokenKind}

theorem refuseField_tandem :
    Tandem finish depth kind (refuseField : Parse σ Unit) refuseField := by
  unfold refuseField
  refine .peek (fun _ => .pure ()) fun found _ => ?_
  by_cases named : found.kind = .fieldSeparator
  · simp only [named, ↓reduceIte]
    exact .fail rfl
  · simp only [named, ↓reduceIte]
    exact .pure ()

theorem bound_tandem : Tandem finish depth kind (bound : Parse σ Atom) bound := by
  unfold bound
  apply Tandem.peekKind
  split
  · exact .consume fun found _ _ _ => .bind refuseField_tandem fun _ _ => .pure _
  · exact .consume fun found _ _ _ => .bind refuseField_tandem fun _ _ => .pure _
  · exact .unexpected _

theorem range_tandem (field : String) :
    Tandem finish depth kind (range field : Parse σ Expr) (range field) := by
  unfold range
  refine .consume fun opening _ _ _ => .bind bound_tandem fun lower _ => ?_
  refine .consume fun _ _ _ _ => .bind bound_tandem fun upper _ => ?_
  exact .consume fun closing _ _ _ => .pure _

-- The list may still be read behind a comparison sign where the feed has failed, so the
-- sign must be one of the four.
theorem comparison_tandem (field : String) :
    Tandem finish depth kind (comparison field : Parse σ Expr) (comparison field) := by
  unfold comparison
  refine .consume fun symbol _ sign meaningful => ?_
  obtain ⟨relation, meant⟩ := meaningful sign
  have meant : Relation.ofSymbol? symbol.text = some relation := meant
  simp only [meant]
  exact .bind bound_tandem fun atom _ => .pure _

theorem phrase_tandem (field : String) :
    Tandem finish depth kind (phrase field : Parse σ Expr) (phrase field) :=
  .consume fun _ _ _ _ => .pure _

variable {inner tail : Parse σ Expr} {within following : Parse TokenQueue Expr}
  (inside : depth < config.maxDepth → ∀ kind, Tandem finish (depth + 1) kind inner within)

include inside

theorem group_tandem :
    Tandem finish depth (some ahead) (group config inner) (group config within) := by
  refine .nested fun free => .consume fun _ kind _ _ => .bind (inside free kind) fun body _ => ?_
  exact .consume fun _ _ _ _ => .pure body

theorem negation_tandem :
    Tandem finish depth (some ahead) (negation config inner) (negation config within) := by
  refine .nested fun free => .consume fun operator kind _ _ => ?_
  exact .bind (inside free kind) fun operand _ => .pure _

theorem value_tandem (field : String) :
    Tandem finish depth kind (value config inner field) (value config within field) := by
  unfold value
  apply Tandem.peekKind
  split
  · exact .fail_location (fun _ => rfl) (fun _ => rfl) fun _ _ => rfl
  · exact range_tandem field
  · exact comparison_tandem field
  · exact .consume fun _ _ _ _ => .pure _
  · exact phrase_tandem field
  · exact .consume fun _ _ _ _ => .pure _
  · exact .bind (group_tandem inside) fun body _ => .pure _
  · exact .unexpected _

theorem term_tandem :
    Tandem finish depth kind (term config inner) (term config within) := by
  refine .consume fun name kind _ _ => .peekKind ?_
  by_cases fielded : kind = some .fieldSeparator
  · simp only [fielded, ↓reduceIte]
    exact .consume fun _ _ _ _ => value_tandem inside name.text
  · simp only [fielded, ↓reduceIte]
    exact .pure _

theorem factor_tandem :
    Tandem finish depth kind (factor config inner) (factor config within) := by
  apply Tandem.peekKind
  split
  · exact negation_tandem inside
  · exact group_tandem inside
  · exact phrase_tandem _
  · exact term_tandem inside

theorem chain_tandem
    (rest : depth < config.maxDepth → ∀ kind, Tandem finish (depth + 1) kind tail following) :
    Tandem finish depth kind (chain config inner tail) (chain config within following) := by
  refine .bind (factor_tandem inside) fun left kind => .peekKind ?_
  by_cases linked : kind = some .logicalAnd
  · simp only [linked, ↓reduceIte]
    refine .nested fun free => .consume fun operator kind _ _ => ?_
    exact .bind (rest free kind) fun right _ => .pure _
  · simp only [linked, ↓reduceIte]
    exact .pure _

omit inside

theorem connective_tandem :
    Tandem finish depth kind (connective : Parse σ Connective) connective := by
  apply Tandem.peekKind
  by_cases written : kind = some .logicalOr
  · simp only [written, ↓reduceIte]
    exact .consume fun _ _ _ _ => .pure _
  · simp only [written, ↓reduceIte]
    exact .pure _

-- The two loops are given different numbers of rounds, each enough for its own feed.
theorem alternatives_outcome {field : String} {room : Nat} {clause : Parse σ Expr}
    {again : Parse TokenQueue Expr} (each : Finds field .chain room clause)
    (twin : Finds field .chain room again)
    (tandem : ∀ kind, Tandem finish depth kind clause again) (rounds : Nat) {others : Nat}
    {left : Expr} {cursor : Cursor σ} {queue : Cursor TokenQueue}
    (together : Abreast finish depth cursor queue) (enough : cursor.Within rounds)
    (sufficient : queue.Within others) :
    Outcome finish depth (alternatives clause rounds left cursor)
      (alternatives again others left queue) := by
  have same : cursor.next = queue.next := by cases together <;> rfl
  induction rounds generalizing others left cursor queue with
  | zero =>
      by_cases ends : Ends cursor.next
      · rw [alternatives_stop ends, alternatives_stop (same ▸ ends)]
        exact .done together
      · obtain ⟨fewer, absent⟩ := rounds_left enough ends
        cases absent
  | succ rounds ih =>
      by_cases ends : Ends cursor.next
      · rw [alternatives_stop ends, alternatives_stop (same ▸ ends)]
        exact .done together
      · have goes : ¬ Ends queue.next := same ▸ ends
        obtain ⟨fewer, rfl⟩ := rounds_left sufficient goes
        rw [alternatives_round ends, alternatives_round goes]
        refine (connective_tandem.abreast together rfl).bind ?_ ?_
        · intro operator middle halfway linked joined beside
          refine ((tandem _).abreast beside rfl).bind ?_ ?_
          · intro right after beyond found met abreast
            exact ih abreast (round_within each linked found enough)
              (round_within twin joined met sufficient) (by cases abreast <;> rfl)
          · intro right _
            rw [alternatives_stop (.inl rfl)]
            exact .done _
        · intro operator _
          refine ((tandem none).ended rfl).bind fun right _ => ?_
          rw [alternatives_stop (.inl rfl)]
          exact .done _

theorem disjunction_tandem {field : String} {room : Nat} {clause : Parse σ Expr}
    {again : Parse TokenQueue Expr} (each : Finds field .chain room clause)
    (twin : Finds field .chain room again)
    (tandem : ∀ kind, Tandem finish depth kind clause again) :
    Tandem finish depth kind (disjunction clause) (disjunction again) := by
  refine .bind (tandem kind) fun left kind => ⟨fun together _ => ?_, fun _ => ?_⟩
  · exact alternatives_outcome each twin tandem _ together (Cursor.within_tokensLeft _)
      (Cursor.within_tokensLeft _)
  · change Lapses finish depth (alternatives again _ left (finish.atEnd depth))
    rw [alternatives_stop (.inl rfl)]
    exact .done left

theorem groupOrDisjunction_tandem {room : Nat} {inner tail : Parse σ Expr}
    {within following : Parse TokenQueue Expr}
    (inside : depth < config.maxDepth → ∀ kind, Tandem finish (depth + 1) kind inner within)
    (rest : depth < config.maxDepth → ∀ kind, Tandem finish (depth + 1) kind tail following)
    (each : Finds config.defaultField .chain room (chain config inner tail))
    (twin : Finds config.defaultField .chain room (chain config within following)) :
    Tandem finish depth kind (groupOrDisjunction config inner tail)
      (groupOrDisjunction config within following) := by
  apply Tandem.peekKind
  by_cases opens : kind = some .groupOpen
  · simp only [opens, ↓reduceIte]
    exact group_tandem inside
  · simp only [opens, ↓reduceIte]
    exact disjunction_tandem each twin fun _ => chain_tandem inside rest

def Paired (σ : Type) [TokenFeed σ] (finish : Finish) (config : Config) (depth room : Nat) : Prop :=
  ∀ kind,
    Tandem finish depth kind (expression config room : Parse σ Expr) (expression config room) ∧
    Tandem finish depth kind (conjunction config room : Parse σ Expr) (conjunction config room)

theorem Paired.step {room : Nat}
    (deeper : depth < config.maxDepth → Paired σ finish config (depth + 1) room) :
    Paired σ finish config depth (room + 1) := by
  have each := (expression_finds (σ := σ) config (room + 1)).2
  have twin := (expression_finds (σ := TokenQueue) config (room + 1)).2
  intro kind
  simp only [expression_succ, conjunction_succ] at each twin ⊢
  constructor
  · exact groupOrDisjunction_tandem (fun free kind => (deeper free kind).1)
      (fun free kind => (deeper free kind).2) each twin
  · exact chain_tandem (fun free kind => (deeper free kind).1) fun free kind => (deeper free kind).2

theorem paired (room : Nat) (left : depth + room = config.maxDepth) :
    Paired σ finish config depth (room + 1) := by
  induction room generalizing depth with
  | zero => exact .step fun free => absurd free (by omega)
  | succ room ih => exact .step fun _ => ih (by omega)

theorem query_outcome {feed : σ} {tokens : List SpannedToken}
    (supplied : Supplies finish.feed feed tokens finish.failure)
    (stops : lastStop 0 tokens = finish.list)
    (meaningful : ∀ token ∈ tokens, Meaningful token.token) :
    Outcome finish 0 (query config ⟨feed, none, 0⟩)
      (query config ⟨TokenQueue.ofTokens tokens, none, 0⟩) := by
  refine (pull_outcome supplied stops meaningful none none).followed fun _ kind => ?_
  refine .bind (paired config.maxDepth (Nat.zero_add _) kind).1 fun tree kind => ?_
  exact .peek (fun _ => .pure _) fun found _ => .unexpected _

end Clauses

end Parse

/-! Whole parses -/

def reachesEnd : Except ParseError Query → Bool
  | .ok _ => true
  | .error error => error.atEnd

/-- If the parse missed something at the end of its tokens, it says so there. -/
def EndsAt (offset : Nat) (result : Except ParseError Query) : Prop :=
  ∀ error, result = .error error → error.atEnd = true → error.offset = offset

theorem EndsAt.ok (offset : Nat) (query : Query) : EndsAt offset (.ok query) := by
  rintro _ ⟨⟩

/-- The answer over a feed that ends at `last` or fails, by the answer over the list of
its tokens. -/
def pulledAnswer (last : Nat) (failure : Option LexError) (listed : Except ParseError Query) :
    Except ParseError Query :=
  match failure with
  | none => listed.mapError (ParseError.endingAt last)
  | some error => if reachesEnd listed then .error (.lexical error) else listed

section Whole

variable {σ : Type} [TokenFeed σ] (config : Config) {last : Nat} {feed : σ}
  {tokens : List SpannedToken} {failure : Option LexError}

theorem parseFeed_eq (supplied : Supplies last feed tokens failure)
    (meaningful : ∀ token ∈ tokens, Meaningful token.token) :
    EndsAt (lastStop 0 tokens) (parseTokens config tokens) ∧
      parseFeed config feed = pulledAnswer last failure (parseTokens config tokens) := by
  have outcome : Parse.Outcome ⟨last, lastStop 0 tokens, failure⟩ 0
      (Parse.query config ⟨feed, none, 0⟩)
      (Parse.query config ⟨TokenQueue.ofTokens tokens, none, 0⟩) :=
    Parse.query_outcome supplied rfl meaningful
  unfold parseTokens parseFeed
  generalize run : Parse.query config (⟨feed, none, 0⟩ : Cursor σ) = answer at outcome
  generalize Parse.query config ⟨TokenQueue.ofTokens tokens, none, 0⟩ = reply at outcome
  cases outcome with
  | done together =>
      obtain ⟨_, _, _, ended⟩ := query_ok run
      cases together with
      | ahead => cases ended
      | ended unfailed _ =>
          cases unfailed
          exact ⟨.ok _ _, rfl⟩
  | @refused error _ _ other =>
      refine ⟨?_, ?_⟩
      · rintro _ ⟨⟩ atEnd
        exact absurd atEnd (by simp [ParseError.atEnd, other])
      · cases failure with
        | none =>
            simp [pulledAnswer, Except.mapError, ParseError.endingAt,
              error.endingAt_of_not_atEnd other]
        | some => simp [pulledAnswer, reachesEnd, ParseError.atEnd, other]
  | short unfailed _ stands =>
      cases unfailed
      refine ⟨?_, rfl⟩
      rintro _ ⟨⟩ _
      exact stands
  | failed failed lapses =>
      cases failed
      cases lapses with
      | done => exact ⟨.ok _ _, rfl⟩
      | refused atEnd stands =>
          refine ⟨?_, ?_⟩
          · rintro _ ⟨⟩ _
            exact stands
          · simp [pulledAnswer, reachesEnd, ParseError.atEnd, atEnd]

end Whole

theorem pulledAnswer_failed (last : Nat) (error : LexError) (listed : Except ParseError Query) :
    reachesEnd (pulledAnswer last (some error) listed) = false := by
  simp only [pulledAnswer]
  split
  · rfl
  · rename_i other
    exact Bool.eq_false_iff.mpr other

/-! Texts -/

theorem meaningful_of_spelt {token : Token} (spelt : token.Spelt) : Meaningful token := by
  intro sign
  unfold Token.Spelt at spelt
  rw [sign] at spelt
  apply ofSymbol_isSome
  rcases spelt with same | same | same | same <;>
    simp [← String.toList_inj, same]

theorem parseWith_eq_pulledAnswer (config : Config) (source : String) :
    parseWith config source =
      pulledAnswer source.utf8ByteSize (Tokenizer.ofString source).drain.2
        (parseTokens config (Tokenizer.ofString source).drain.1) := by
  have supplied := (Tokenizer.ofString source).drain_supplies
  have whole : (Tokenizer.ofString source).finish = source.utf8ByteSize := by
    simp [Tokenizer.finish, Tokenizer.ofString]
  rw [whole] at supplied
  apply (parseFeed_eq config supplied _).2
  intro token member
  exact meaningful_of_spelt (Tokenizer.drain_spelt _ token member)

/-- Reading a text while it is cut into tokens, beside cutting it first: at the end of the
tokens a text that was cut whole ends behind its last character, and the failure of any
other text surfaces there. So no such text is accepted, and its failure is not taken for
its end. -/
theorem parseWith_eq_parseTokens (config : Config) (source : String) :
    let tokens := (Tokenizer.ofString source).drain.1
    let failure := (Tokenizer.ofString source).drain.2
    let listed := parseTokens config tokens
    EndsAt (lastStop 0 tokens) listed ∧
      (parseWith config source = match failure with
        | none => listed.mapError (ParseError.endingAt source.utf8ByteSize)
        | some error => if reachesEnd listed then .error (.lexical error) else listed) ∧
      ¬ (failure.isSome = true ∧ reachesEnd (parseWith config source) = true) := by
  intro tokens failure listed
  have supplied := (Tokenizer.ofString source).drain_supplies
  have whole : (Tokenizer.ofString source).finish = source.utf8ByteSize := by
    simp [Tokenizer.finish, Tokenizer.ofString]
  rw [whole] at supplied
  obtain ⟨stands, same⟩ := parseFeed_eq config supplied fun token member =>
    meaningful_of_spelt (Tokenizer.supplies_spelt supplied token member)
  refine ⟨stands, same, ?_⟩
  rintro ⟨failed, reached⟩
  obtain ⟨error, failed⟩ := Option.isSome_iff_exists.mp failed
  rw [parseWith, same, show (Tokenizer.ofString source).drain.2 = some error from failed,
    pulledAnswer_failed] at reached
  cases reached

end SearchQuery
