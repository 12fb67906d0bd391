import SearchQuery.Proofs.Diagnosis
import SearchQuery.Proofs.Lockstep

/-!
Where a reading breaks off the parser fails. Over a list of tokens it takes the
tokens of the broken reading and raises the error for its fault, whatever stands
behind the token at which it broke off. With the other direction this says exactly
which error a list of tokens is refused with.
-/

namespace SearchQuery

namespace Parse

open Cursor (Passes)

variable {α β : Type}

/-- The run fails with the error for the fault where `middle` stands. -/
def Fails (limit : Nat) (fault : Fault) (middle : Cursor TokenQueue)
    (run : EStateM.Result ParseError (Cursor TokenQueue) α) : Prop :=
  ∃ stopped, run = .error (.grammatical (fault.raise limit middle)) stopped

section Steps

variable {limit : Nat} {fault : Fault} {before middle inside : Cursor TokenQueue}

theorem Fails.bind {step : Parse TokenQueue α} (failed : Fails limit fault middle (step before))
    (later : α → Parse TokenQueue β) : Fails limit fault middle ((step >>= later) before) := by
  obtain ⟨stopped, run⟩ := failed
  exact ⟨stopped, bind_of_error run⟩

theorem Fails.behind {step : Parse TokenQueue α} {later : α → Parse TokenQueue β} {value : α}
    (done : step before = .ok value inside)
    (failed : Fails limit fault middle (later value inside)) :
    Fails limit fault middle ((step >>= later) before) := by
  rwa [bind_of_ok done]

theorem Fails.of_eq {run other : EStateM.Result ParseError (Cursor TokenQueue) α}
    (same : run = other) (failed : Fails limit fault middle other) :
    Fails limit fault middle run := by
  rwa [same]

theorem consume_fails {kind : TokenKind} (lacks : Lacks [kind] middle.ahead) :
    Fails limit (.unexpected (.token kind)) middle (consume kind middle) :=
  ⟨middle, consume_lacking limit (by simpa using lacks_singleton.mp lacks)⟩

theorem pull_queue (cursor : Cursor TokenQueue) : ∃ after, pull cursor = .ok () after := by
  unfold pull
  exact ⟨_, rfl⟩

variable {config : Config} {room : Nat}

theorem nested_refused (full : before.depth = config.maxDepth) (step : Parse TokenQueue α) :
    Fails config.maxDepth .tooDeep before (nested config step before) := by
  refine Fails.bind ⟨before, ?_⟩ _
  rw [descend_run, if_neg (by omega), tooDeep_raises]

/-- A level is opened at a token, and behind it the step fails. -/
theorem nested_fails {kind : TokenKind} {later : SpannedToken → Parse TokenQueue α}
    {opener : Token} {done : List Token} (left : before.depth + (room + 1) = config.maxDepth)
    (passed : Passes before (opener :: done) middle) (same : opener.kind = kind)
    (body : ∀ (found : SpannedToken) (inside : Cursor TokenQueue),
      inside.depth + room = config.maxDepth →
      Passes inside done (middle.atDepth (before.depth + 1)) →
      Fails config.maxDepth fault (middle.atDepth (before.depth + 1)) (later found inside)) :
    Fails config.maxDepth fault middle (nested config (consume kind >>= later) before) := by
  have opened : descend config before = .ok () (before.atDepth (before.depth + 1)) := by
    rw [descend_run, if_pos (by omega)]
  obtain ⟨found, inside, -, behind, taken⟩ :=
    consume_kind (passed.atDepth (before.depth + 1)) same
  have depth : inside.depth = before.depth + 1 := by
    rw [← behind.depth_eq, Cursor.depth_atDepth]
  refine Fails.behind opened (Fails.bind (Fails.behind taken ?_) _)
  exact body found inside (by omega) behind

end Steps

/-! Leaves and ranges -/

section Values

variable {limit : Nat} {fault : Fault} {before middle : Cursor TokenQueue} {done : List Token}
  {ahead : Option Token} {field : String}

theorem bound_lacking {cursor : Cursor TokenQueue} (lacks : Lacks boundKinds cursor.ahead) :
    bound cursor = unexpected (.oneOf boundKinds) cursor := by
  unfold bound
  rw [peekKind_bind]
  cases next : cursor.next with
  | none => rfl
  | some kind =>
      cases kind
      case identifier | quotedString => simp [Lacks, boundKinds, next] at lacks
      all_goals rfl

theorem refuseField_fails (separates : middle.next = some .fieldSeparator) :
    Fails limit .fieldInRange middle (refuseField middle) := by
  obtain ⟨colon, head, same⟩ := Option.map_eq_some_iff.mp separates
  refine ⟨middle, ?_⟩
  unfold refuseField
  rw [bind_of_ok (peek_run middle)]
  simp only [head, same, ↓reduceIte, Fault.raise]
  rfl

theorem bound_fails (broken : BreaksBound done ahead fault) (passed : Passes before done middle)
    (stands : middle.ahead = ahead) : Fails limit fault middle (bound before) := by
  cases broken with
  | absent lacks =>
      cases passes_nil passed
      rw [bound_lacking (stands ▸ lacks)]
      exact ⟨before, unexpected_run limit _ before⟩
  | named bounded separates =>
      have colon : middle.next = some .fieldSeparator := by
        rw [← Cursor.kindOf_ahead, stands, kindOf_some, separates]
      have next := passed.next_eq
      unfold bound
      rw [peekKind_bind, next]
      rcases atom_cases bounded with ⟨kind, -⟩ | ⟨kind, -⟩
      all_goals
        obtain ⟨found, inside, -, rest, taken⟩ := consume_kind passed kind
        cases passes_nil rest
        rw [kind]
        exact .behind taken ((refuseField_fails colon).bind _)

variable {config : Config} {inner : Parse TokenQueue Expr}

theorem value_range (opens : before.next = some .rangeOpen) :
    value config inner field before = range field before := by
  unfold value
  rw [peekKind_bind, opens]

theorem value_comparison (kind : before.next = some .relationalOperator) :
    value config inner field before = comparison field before := by
  unfold value
  rw [peekKind_bind, kind]

theorem value_stranger (present : before.lookahead ≠ none)
    (lacks : Lacks valueKinds before.ahead) :
    value config inner field before = unexpected (.oneOf valueKinds) before := by
  unfold value
  rw [peekKind_bind]
  cases next : before.next with
  | none => exact absurd (by simpa [Cursor.next] using next) present
  | some kind =>
      cases kind
      case rangeOpen | relationalOperator | regex | quotedString | identifier | groupOpen =>
        simp [Lacks, valueKinds, next] at lacks
      all_goals rfl

theorem missing_fails (absent : before.lookahead = none) :
    Fails limit (.missing field) before (value config inner field before) := by
  refine ⟨before, ?_⟩
  unfold value
  rw [peekKind_bind, Cursor.next_eq_none absent]
  simp only [Fault.raise, absent]
  rfl

/-- A sign is taken before its text is looked at. -/
theorem symbol_fails {sign : Token} (kind : sign.kind = .relationalOperator)
    (meaningless : Relation.ofSymbol? sign.text = none) (stands : before.ahead = some sign) :
    Fails limit (.unexpected (.token .relationalOperator)) before (comparison field before) := by
  obtain ⟨found, head, rfl⟩ := Option.map_eq_some_iff.mp stands
  obtain ⟨after, pulled⟩ := pull_queue before
  obtain ⟨sign, _, -, _, taken⟩ := consume_kind (.next head pulled (.refl after)) kind
  cases (consume_pulls taken).1.symm.trans head
  have meaningless : Relation.ofSymbol? found.text = none := meaningless
  unfold comparison
  rw [bind_of_ok taken]
  simp only [meaningless, Fails, Fault.raise, head]
  exact ⟨_, rfl⟩

theorem limit_fails {sign : Token} {relation : Relation}
    (kind : sign.kind = .relationalOperator)
    (meant : Relation.ofSymbol? sign.text = some relation) (broken : BreaksBound done ahead fault)
    (passed : Passes before (sign :: done) middle) (stands : middle.ahead = ahead) :
    Fails limit fault middle (comparison field before) := by
  obtain ⟨found, inside, rfl, rest, taken⟩ := consume_kind passed kind
  have meant : Relation.ofSymbol? found.text = some _ := meant
  unfold comparison
  rw [bind_of_ok taken]
  simp only [meant]
  exact (bound_fails broken rest stands).bind _

theorem value_fails (broken : BreaksValue field done ahead fault)
    (passed : Passes before done middle) (stands : middle.ahead = ahead) :
    Fails limit fault middle (value config inner field before) := by
  cases broken with
  | missing =>
      cases passes_nil passed
      exact missing_fails (by simpa [Cursor.ahead] using stands)
  | @stranger found lacks =>
      cases passes_nil passed
      have present : before.lookahead ≠ none := by
        rintro absent
        simp [Cursor.ahead, absent] at stands
      rw [value_stranger present (stands ▸ lacks)]
      exact ⟨before, unexpected_run limit _ before⟩
  | lower opens broken =>
      rw [value_range (passed.next_eq.trans (congrArg some opens))]
      obtain ⟨_, inside, -, rest, opened⟩ := consume_kind passed opens
      exact .behind opened ((bound_fails broken rest stands).bind _)
  | between opens first unnamed lacks =>
      rw [value_range (passed.next_eq.trans (congrArg some opens))]
      obtain ⟨_, _, -, passed, opened⟩ := consume_kind passed opens
      obtain ⟨_, passed, lowered⟩ := bound_run passed first (by simpa [← stands] using unnamed)
      cases passes_nil passed
      exact .behind opened (.behind lowered ((consume_fails (stands ▸ lacks)).bind _))
  | upper opens first between broken =>
      rw [value_range (passed.next_eq.trans (congrArg some opens))]
      obtain ⟨_, _, -, passed, opened⟩ := consume_kind passed opens
      obtain ⟨_, passed, lowered⟩ := bound_run passed first (by simp [between])
      obtain ⟨_, _, -, passed, parted⟩ := consume_kind passed between
      exact .behind opened (.behind lowered (.behind parted
        ((bound_fails broken passed stands).bind _)))
  | unclosed opens first between second unnamed lacks =>
      rw [value_range (passed.next_eq.trans (congrArg some opens))]
      obtain ⟨_, _, -, passed, opened⟩ := consume_kind passed opens
      obtain ⟨_, passed, lowered⟩ := bound_run passed first (by simp [between])
      obtain ⟨_, _, -, passed, parted⟩ := consume_kind passed between
      obtain ⟨_, passed, uppered⟩ := bound_run passed second (by simpa [← stands] using unnamed)
      cases passes_nil passed
      exact .behind opened (.behind lowered (.behind parted (.behind uppered
        ((consume_fails (stands ▸ lacks)).bind _))))
  | symbol kind meaningless =>
      cases passes_nil passed
      have next : before.next = some .relationalOperator := by
        rw [← Cursor.kindOf_ahead, stands, kindOf_some, kind]
      rw [value_comparison next]
      exact symbol_fails kind meaningless stands
  | limit kind meant broken =>
      rw [value_comparison (passed.next_eq.trans (congrArg some kind))]
      exact limit_fails kind meant broken passed stands

end Values

/-! Clauses -/

section Clauses

variable {config : Config} {fault : Fault} {done : List Token} {ahead : Option Token} {room : Nat}

def FailsAt (config : Config) (room : Nat) (fault : Fault) (before middle : Cursor TokenQueue) :
    Clause → Prop
  | .expression => Fails config.maxDepth fault middle (expression config (room + 1) before)
  | .group => Fails config.maxDepth fault middle (group config (expression config room) before)
  | .disjunction =>
      Fails config.maxDepth fault middle (disjunction (conjunction config (room + 1)) before)
  | .chain => Fails config.maxDepth fault middle (conjunction config (room + 1) before)
  | .factor => Fails config.maxDepth fault middle (factor config (expression config room) before)

def Recurs (config : Config) (room : Nat) (clause : Clause) (done : List Token)
    (ahead : Option Token) (fault : Fault) : Prop :=
  ∀ before middle : Cursor TokenQueue, Passes before done middle → middle.ahead = ahead →
    before.depth + room = config.maxDepth → FailsAt config room fault before middle clause

/-- The kind of the token at which a broken reading began. -/
theorem begun {before middle : Cursor TokenQueue} (passed : Passes before done middle)
    (stands : middle.ahead = ahead) : before.next = (firstKind done).or (kindOf ahead) := by
  rw [passed.next_append, ← stands, Cursor.kindOf_ahead]

/-! An expression is a group or a disjunction -/

theorem expression_opened {cursor : Cursor TokenQueue} (opens : cursor.next = some .groupOpen) :
    expression config (room + 1) cursor = group config (expression config room) cursor := by
  rw [expression_succ]
  unfold groupOrDisjunction
  rw [peekKind_bind]
  simp only [opens, ↓reduceIte]

theorem expression_unopened {cursor : Cursor TokenQueue} (bare : cursor.next ≠ some .groupOpen) :
    expression config (room + 1) cursor =
      disjunction (conjunction config (room + 1)) cursor := by
  rw [expression_succ]
  unfold groupOrDisjunction
  rw [peekKind_bind]
  simp only [bare, ↓reduceIte]
  rw [conjunction_succ]

theorem ofGroup_recurs (broken : Breaks config.defaultField room .group done ahead fault)
    (body : Recurs config room .group done ahead fault) :
    Recurs config room .expression done ahead fault := by
  intro before middle passed stands left
  have opened := (begun passed stands).trans broken.group_opens
  exact .of_eq (expression_opened opened) (body before middle passed stands left)

theorem ofDisjunction_recurs (bare : (firstKind done).or (kindOf ahead) ≠ some .groupOpen)
    (body : Recurs config room .disjunction done ahead fault) :
    Recurs config room .expression done ahead fault := by
  intro before middle passed stands left
  have unopened : before.next ≠ some .groupOpen := begun passed stands ▸ bare
  exact .of_eq (expression_unopened unopened) (body before middle passed stands left)

/-! Groups -/

theorem groupRefused_recurs (opening : Token) :
    Recurs config 0 .group [] (some opening) .tooDeep := by
  intro before middle passed _ left
  cases passes_nil passed
  exact nested_refused left _

theorem inside_recurs {opening : Token} (opens : opening.kind = .groupOpen)
    (body : Recurs config room .expression done ahead fault) :
    Recurs config (room + 1) .group (opening :: done) ahead fault := by
  intro before middle passed stands left
  refine nested_fails left passed opens fun found inside free behind => ?_
  exact Fails.bind (body inside _ behind stands free) _

theorem unclosed_recurs {opening : Token} {tree : Expr} {levels : Nat}
    (opens : opening.kind = .groupOpen)
    (body : Reads config.defaultField .expression done tree (kindOf ahead) levels)
    (enough : levels ≤ room) (lacks : Lacks [.groupClose] ahead) :
    Recurs config (room + 1) .group (opening :: done) ahead (.unexpected (.token .groupClose)) := by
  intro before middle passed stands left
  refine nested_fails left passed opens fun found inside free behind => ?_
  have ended : (middle.atDepth (before.depth + 1)).next = kindOf ahead := by
    rw [← stands, Cursor.kindOf_ahead, Cursor.next_atDepth]
  have read := (reads_follows body room inside _ behind ended free).1 (Nat.lt_succ_of_le enough)
  exact .behind read ((consume_fails (stands ▸ lacks)).bind _)

/-! Chains and disjunctions -/

theorem first_recurs (chain : Recurs config room .chain done ahead fault) :
    Recurs config room .disjunction done ahead fault := by
  intro before middle passed stands left
  exact Fails.bind (chain before middle passed stands left) _

theorem last_recurs (factor : Recurs config room .factor done ahead fault) :
    Recurs config room .chain done ahead fault := by
  intro before middle passed stands left
  unfold FailsAt
  rw [conjunction_succ]
  exact Fails.bind (factor before middle passed stands left) _

theorem andRefused_recurs {operator : Token} {tree : Expr}
    (first : Reads config.defaultField .factor done tree (some .logicalAnd) 0)
    (written : operator.kind = .logicalAnd) :
    Recurs config 0 .chain done (some operator) .tooDeep := by
  intro before middle passed stands left
  have linked : middle.next = some .logicalAnd := by
    rw [← Cursor.kindOf_ahead, stands, kindOf_some, written]
  have read := (reads_follows first 0 before middle passed linked left).1 Nat.one_pos
  have full : middle.depth = config.maxDepth := by rw [passed.depth_eq, ← left, Nat.add_zero]
  unfold FailsAt
  rw [conjunction_succ]
  refine .behind read ?_
  rw [peekKind_bind]
  simp only [linked, ↓reduceIte]
  exact nested_refused full _

theorem and_recurs {operator : Token} {first : List Token} {left : Expr} {levels : Nat}
    (reads : Reads config.defaultField .factor first left (some .logicalAnd) levels)
    (enough : levels ≤ room + 1) (written : operator.kind = .logicalAnd)
    (rest : Recurs config room .chain done ahead fault) :
    Recurs config (room + 1) .chain (first ++ operator :: done) ahead fault := by
  intro before middle passed stands free
  obtain ⟨halfway, through, behind⟩ := passed.split
  have linked : halfway.next = some .logicalAnd := behind.next_eq.trans (congrArg some written)
  have read := (reads_follows reads (room + 1) before halfway through linked free).1
    (Nat.lt_succ_of_le enough)
  unfold FailsAt
  rw [conjunction_succ]
  refine .behind read ?_
  rw [peekKind_bind]
  simp only [linked, ↓reduceIte]
  have left : halfway.depth + (room + 1) = config.maxDepth := by rwa [through.depth_eq]
  refine nested_fails left behind written fun found inside free followed => ?_
  exact Fails.bind (rest inside _ followed stands free) _

/-- Behind the clauses that were read the loop goes on with the one that breaks off. -/
theorem round_fails {clause : Parse TokenQueue Expr}
    {before halfway inside middle : Cursor TokenQueue} {left : Expr} {levels : Nat}
    {operator : Connective}
    (here : Reaches config (room + 1) levels clause before left halfway) (enough : levels ≤ room)
    (goes : ¬ Ends halfway.next) (joined : connective halfway = .ok operator inside)
    (failed : Fails config.maxDepth fault middle (clause inside)) :
    Fails config.maxDepth fault middle (disjunction clause before) := by
  obtain ⟨rounds, within, same⟩ := here.1 (Nat.lt_succ_of_le enough)
  obtain ⟨rounds, rfl⟩ := rounds_left within goes
  rw [same, alternatives_round goes]
  exact .behind joined (failed.bind _)

theorem or_recurs {operator : Token} {first : List Token} {left : Expr} {levels : Nat}
    (reads : Reads config.defaultField .disjunction first left (some .logicalOr) levels)
    (enough : levels ≤ room) (written : operator.kind = .logicalOr)
    (rest : Recurs config room .chain done ahead fault) :
    Recurs config room .disjunction (first ++ operator :: done) ahead fault := by
  intro before middle passed stands free
  obtain ⟨halfway, through, behind⟩ := passed.split
  have linked : halfway.next = some .logicalOr := behind.next_eq.trans (congrArg some written)
  have here := reads_follows reads room before halfway through linked free
  obtain ⟨sign, inside, -, followed, taken⟩ := consume_kind behind written
  have joined : connective halfway = .ok (.explicitOr (Spelling.of sign.text)) inside := by
    unfold connective
    rw [peekKind_bind]
    simp only [linked, ↓reduceIte]
    rw [bind_of_ok taken]
    rfl
  have depth := through.depth_eq
  have deep := followed.depth_eq.symm.trans behind.depth_eq
  exact round_fails here enough (by simp [Ends, linked]) joined
    (rest inside middle followed stands (by omega))

theorem adjacent_recurs {first : List Token} {left : Expr} {levels : Nat}
    {next : Option TokenKind}
    (reads : Reads config.defaultField .disjunction first left next levels)
    (enough : levels ≤ room) (begins : next = (firstKind done).or (kindOf ahead))
    (goes : ¬ Ends next) (unwritten : next ≠ some .logicalOr)
    (rest : Recurs config room .chain done ahead fault) :
    Recurs config room .disjunction (first ++ done) ahead fault := by
  intro before middle passed stands free
  obtain ⟨halfway, through, behind⟩ := passed.split
  have same : halfway.next = next := (begun behind stands).trans begins.symm
  have here := reads_follows reads room before halfway through same free
  subst same
  have joined : connective halfway = .ok .implicitOr halfway := by
    unfold connective
    rw [peekKind_bind]
    simp only [unwritten, ↓reduceIte]
    rfl
  have depth := through.depth_eq
  exact round_fails here enough goes joined (rest halfway middle behind stands (by omega))

/-! Factors -/

theorem factor_stranger {cursor : Cursor TokenQueue} {inner : Parse TokenQueue Expr}
    (lacks : Lacks factorKinds cursor.ahead) :
    factor config inner cursor = term config inner cursor := by
  unfold factor
  rw [peekKind_bind]
  cases next : cursor.next with
  | none => rfl
  | some kind =>
      cases kind
      case logicalNot | groupOpen | quotedString => simp [Lacks, factorKinds, next] at lacks
      all_goals rfl

theorem factor_group {cursor : Cursor TokenQueue} {inner : Parse TokenQueue Expr}
    (opens : cursor.next = some .groupOpen) :
    factor config inner cursor = group config inner cursor := by
  unfold factor
  rw [peekKind_bind, opens]

theorem factor_negation {cursor : Cursor TokenQueue} {inner : Parse TokenQueue Expr}
    (written : cursor.next = some .logicalNot) :
    factor config inner cursor = negation config inner cursor := by
  unfold factor
  rw [peekKind_bind, written]

theorem notRefused_recurs {operator : Token} (written : operator.kind = .logicalNot) :
    Recurs config 0 .factor [] (some operator) .tooDeep := by
  intro before middle passed stands left
  have next := begun passed stands
  cases passes_nil passed
  exact .of_eq (factor_negation (next.trans (congrArg some written))) (nested_refused left _)

theorem not_recurs {operator : Token} (written : operator.kind = .logicalNot)
    (operand : Recurs config room .expression done ahead fault) :
    Recurs config (room + 1) .factor (operator :: done) ahead fault := by
  intro before middle passed stands left
  refine .of_eq (factor_negation (passed.next_eq.trans (congrArg some written))) ?_
  refine nested_fails left passed written fun found inside free behind => ?_
  exact Fails.bind (operand inside _ behind stands free) _

theorem paren_recurs (broken : Breaks config.defaultField room .group done ahead fault)
    (body : Recurs config room .group done ahead fault) :
    Recurs config room .factor done ahead fault := by
  intro before middle passed stands left
  have opened := (begun passed stands).trans broken.group_opens
  exact .of_eq (factor_group opened) (body before middle passed stands left)

theorem stranger_recurs (lacks : Lacks factorKinds ahead) :
    Recurs config room .factor [] ahead (.unexpected (.token .identifier)) := by
  intro before middle passed stands _
  cases passes_nil passed
  have unnamed : Lacks [.identifier] before.ahead :=
    lacks_singleton.mpr ((stands ▸ lacks) .identifier (by simp [factorKinds]))
  exact .of_eq (factor_stranger (stands ▸ lacks)) ((consume_fails unnamed).bind _)

section Fields

variable {name colon : Token}

theorem value_recurs (names : name.kind = .identifier) (separates : colon.kind = .fieldSeparator)
    (broken : BreaksValue name.text done ahead fault) :
    Recurs config room .factor (name :: colon :: done) ahead fault := by
  intro before middle passed stands _
  obtain ⟨inside, behind, same⟩ :=
    term_fielded config (expression config room) passed names separates
  exact .of_eq same (value_fails broken behind stands)

theorem fieldGroup_recurs (names : name.kind = .identifier)
    (separates : colon.kind = .fieldSeparator)
    (broken : Breaks config.defaultField room .group done ahead fault)
    (body : Recurs config room .group done ahead fault) :
    Recurs config room .factor (name :: colon :: done) ahead fault := by
  intro before middle passed stands left
  obtain ⟨inside, behind, same⟩ :=
    term_fielded config (expression config room) passed names separates
  have depth := behind.depth_eq.symm.trans passed.depth_eq
  have opened := (begun behind stands).trans broken.group_opens
  refine .of_eq same ?_
  unfold value
  rw [peekKind_bind, opened]
  exact Fails.bind (body inside middle behind stands (by omega)) _

end Fields

theorem breaks_recurs {clause : Clause}
    (broken : Breaks config.defaultField room clause done ahead fault) :
    Recurs config room clause done ahead fault := by
  induction broken with
  | ofGroup broken ih => exact ofGroup_recurs broken ih
  | ofDisjunction _ bare ih => exact ofDisjunction_recurs bare ih
  | groupRefused => exact groupRefused_recurs _
  | inside opens _ ih => exact inside_recurs opens ih
  | unclosed opens body enough lacks => exact unclosed_recurs opens body enough lacks
  | first _ ih => exact first_recurs ih
  | or first enough written _ ih => exact or_recurs first enough written ih
  | adjacent first enough begins goes unwritten _ ih =>
      exact adjacent_recurs first enough begins goes unwritten ih
  | last _ ih => exact last_recurs ih
  | andRefused first written => exact andRefused_recurs first written
  | and first enough written _ ih => exact and_recurs first enough written ih
  | notRefused written => exact notRefused_recurs written
  | not written _ ih => exact not_recurs written ih
  | paren broken ih => exact paren_recurs broken ih
  | stranger lacks => exact stranger_recurs lacks
  | value names separates broken => exact value_recurs names separates broken
  | fieldGroup names separates broken ih => exact fieldGroup_recurs names separates broken ih

end Clauses

end Parse

/-! Lists of tokens -/

def Cursor.facing (location : Nat) : List SpannedToken → Cursor TokenQueue
  | [] => ⟨⟨[], location⟩, none, 0⟩
  | found :: rest => ⟨⟨rest, found.stop⟩, some found, 0⟩

namespace Cursor

theorem pull_facing (tokens : List SpannedToken) (location : Nat) (held : Option SpannedToken) :
    Parse.pull (⟨⟨tokens, location⟩, held, 0⟩ : Cursor TokenQueue) =
      .ok () (facing location tokens) := by
  cases tokens <;> rfl

theorem ahead_facing (location : Nat) (tokens : List SpannedToken) :
    (facing location tokens).ahead = tokens.head?.map (·.token) := by
  cases tokens <;> rfl

theorem raise_facing (limit location : Nat) (tokens : List SpannedToken) (fault : Fault) :
    fault.raise limit (facing location tokens) = fault.error limit location tokens.head? := by
  cases tokens <;> cases fault <;> rfl

theorem passes_facing (done rest : List SpannedToken) (location : Nat) :
    Passes (facing location (done ++ rest)) (done.map (·.token))
      (facing (lastStop location done) rest) := by
  induction done generalizing location with
  | nil => exact .refl _
  | cons found done ih => exact .next rfl (pull_facing _ _ (some found)) (ih found.stop)

theorem Passes.of_facing {location : Nat} {tokens : List SpannedToken} {taken : List Token}
    {middle : Cursor TokenQueue} (passed : Passes (facing location tokens) taken middle) :
    ∃ done rest, tokens = done ++ rest ∧ taken = done.map (·.token) ∧
      middle = facing (lastStop location done) rest := by
  generalize same : facing location tokens = before at passed
  induction passed generalizing location tokens with
  | refl => exact ⟨[], tokens, rfl, rfl, same.symm⟩
  | @next before halfway after found taken head pulled _ ih =>
      subst same
      cases tokens with
      | nil => cases head
      | cons first later =>
          cases head
          rw [facing, pull_facing] at pulled
          cases pulled
          obtain ⟨done, rest, rfl, rfl, rfl⟩ := ih rfl
          exact ⟨found :: done, rest, rfl, rfl, rfl⟩

end Cursor

section Lists

variable {config : Config}

theorem query_fails {done rest : List SpannedToken} {fault : Fault}
    (stops : Stops config.defaultField config.maxDepth (done.map (·.token))
      (rest.head?.map (·.token)) fault) :
    Parse.Fails config.maxDepth fault (Cursor.facing (lastStop 0 done) rest)
      (Parse.query config ⟨TokenQueue.ofTokens (done ++ rest), none, 0⟩) := by
  have passed := Cursor.passes_facing done rest 0
  have start : (Cursor.facing 0 (done ++ rest)).depth + config.maxDepth = config.maxDepth := by
    cases done ++ rest <;> exact Nat.zero_add _
  have stands := Cursor.ahead_facing (lastStop 0 done) rest
  generalize rest.head?.map (·.token) = ahead at stops stands
  unfold Parse.query
  refine .behind (Cursor.pull_facing (done ++ rest) 0 none) ?_
  cases stops with
  | within broken =>
      exact Parse.Fails.bind (Parse.breaks_recurs broken _ _ passed stands start) _
  | @beyond tree extra levels whole enough =>
      obtain ⟨found, head, -⟩ := Option.map_eq_some_iff.mp stands
      have next : (Cursor.facing (lastStop 0 done) rest).next = some extra.kind := by
        rw [← Cursor.kindOf_ahead, stands, kindOf_some]
      have read := (Parse.reads_follows whole config.maxDepth _ _ passed next start).1
        (Nat.lt_succ_of_le enough)
      refine .behind read ?_
      rw [Parse.bind_of_ok (Parse.peek_run _), head]
      exact ⟨_, Parse.unexpected_run config.maxDepth _ _⟩

/-- A list of tokens is refused exactly where a reading of its tokens breaks off, with the
error for the fault there. -/
theorem parseTokens_error_iff {tokens : List SpannedToken} {error : ParseError} :
    parseTokens config tokens = .error error ↔
      ∃ done rest fault, tokens = done ++ rest ∧
        Stops config.defaultField config.maxDepth (done.map (·.token))
          (rest.head?.map (·.token)) fault ∧
        error = .grammatical (fault.error config.maxDepth (lastStop 0 done) rest.head?) := by
  constructor
  · intro refused
    unfold parseTokens parseFeed at refused
    split at refused
    case h_1 => cases refused
    case h_2 failure stopped run =>
      cases refused
      cases Parse.query_raised rfl (Cursor.pull_facing tokens 0 none) run with
      | fault passed stops =>
          obtain ⟨done, rest, rfl, rfl, rfl⟩ := passed.of_facing
          rw [Cursor.ahead_facing] at stops
          exact ⟨done, rest, _, rfl, stops, by rw [Cursor.raise_facing]⟩
      | scan _ answer => cases answer
  · rintro ⟨done, rest, fault, rfl, stops, rfl⟩
    obtain ⟨stopped, run⟩ := query_fails stops
    unfold parseTokens parseFeed
    rw [run, Cursor.raise_facing]

end Lists

end SearchQuery
