import SearchQuery.Grammar.Machine
import SearchQuery.Proofs.Feed

/-!
The machine comes to what the parser comes to. Wherever a task stands first, the machine works
until it is done and then has the tree that the clause reads, at the same cursor, or fails as the
clause does. So a parse ends without any bound on its rounds or its recursion.
-/

namespace SearchQuery.Machine

open Parse
open Cursor (Passes)

variable {σ : Type} [TokenFeed σ] {config : Config}

/-! Steps -/

theorem after_add (first second : Nat) (m : Machine σ) :
    m.after config (first + second) = (m.after config first).after config second := by
  induction first generalizing m with
  | zero => rw [Nat.zero_add, after]
  | succ first ih => rw [Nat.succ_add, after, after, ih]

def Leads (config : Config) (before after : Machine σ) : Prop :=
  ∃ steps, before.after config steps = after

theorem Leads.refl (m : Machine σ) : Leads config m m := ⟨0, rfl⟩

theorem Leads.trans {first second third : Machine σ} (before : Leads config first second)
    (behind : Leads config second third) : Leads config first third := by
  obtain ⟨few, rfl⟩ := before
  obtain ⟨more, rfl⟩ := behind
  exact ⟨few + more, after_add few more first⟩

theorem Leads.head {m last : Machine σ} (behind : Leads config (m.step config) last) :
    Leads config m last := by
  obtain ⟨steps, rfl⟩ := behind
  exact ⟨steps + 1, rfl⟩

section Step

variable {task : Task} {tasks new : List Task} {stack built : List Expr} {before middle : Cursor σ}

theorem step_ok
    (performed : perform config stack (task.action config) before = .ok (new, built) middle) :
    (⟨task :: tasks, stack, before, none⟩ : Machine σ).step config =
      ⟨new ++ tasks, built, middle, none⟩ := by
  simp only [step, performed]

theorem step_error {error : ParseError}
    (performed : perform config stack (task.action config) before = .error error middle) :
    (⟨task :: tasks, stack, before, none⟩ : Machine σ).step config =
      ⟨task :: tasks, stack, middle, some error⟩ := by
  simp only [step, performed]

end Step

/-- What is not expected is refused with the same error by both. -/
theorem unexpected_stops (expected : Expected) (cursor : Cursor σ) :
    ∃ error : Nat → GrammarError, Choice.unexpected expected cursor.lookahead = .refuse error ∧
      ∀ α : Type, (unexpected expected : Parse σ α) cursor =
        .error (.grammatical (error (TokenFeed.location cursor.feed))) cursor := by
  cases ahead : cursor.lookahead with
  | none =>
      refine ⟨_, rfl, fun α => ?_⟩
      rw [unexpected, bind_of_ok (peek_run cursor), ahead]
      rfl
  | some found =>
      refine ⟨_, rfl, fun α => ?_⟩
      rw [unexpected, bind_of_ok (peek_run cursor), ahead]
      rfl

/-- The machine comes to where these tasks remain, with one more tree than these, or it fails, as
the run of a clause ended. -/
def Arrives (config : Config) (rest : List Task) (trees : List Expr) (m : Machine σ) :
    EStateM.Result ParseError (Cursor σ) Expr → Prop
  | .ok tree after => Leads config m ⟨rest, tree :: trees, after, none⟩
  | .error error stopped => ∃ left stack, Leads config m ⟨left, stack, stopped, some error⟩

namespace Arrives

variable {rest tasks new : List Task} {trees stack : List Expr} {task : Task}
  {before middle : Cursor σ} {run : EStateM.Result ParseError (Cursor σ) Expr}

theorem done {tree : Expr} : Arrives config rest trees ⟨rest, tree :: trees, before, none⟩
    ((pure tree : Parse σ Expr) before) := Leads.refl _

theorem further {m : Machine σ} (behind : Arrives config rest trees (m.step config) run) :
    Arrives config rest trees m run := by
  cases run with
  | ok tree after => exact Leads.head behind
  | error error stopped =>
      obtain ⟨left, stack, leads⟩ := behind
      exact ⟨left, stack, leads.head⟩

theorem fails {error : ParseError}
    (performed : perform config stack (task.action config) before = .error error middle) :
    Arrives config rest trees ⟨task :: tasks, stack, before, none⟩ (.error error middle) := by
  apply further
  rw [step_error performed]
  exact ⟨_, _, .refl _⟩

theorem goes {built : List Expr}
    (performed : perform config stack (task.action config) before = .ok (new, built) middle)
    (next : Arrives config rest trees ⟨new ++ tasks, built, middle, none⟩ run) :
    Arrives config rest trees ⟨task :: tasks, stack, before, none⟩ run := by
  apply further
  rwa [step_ok performed]

/-- A clause read within another one, whose tree the later tasks find. -/
theorem bind {m : Machine σ} {step : Parse σ Expr} {later : Expr → Parse σ Expr}
    (first : Arrives config tasks stack m (step before))
    (next : ∀ tree middle, step before = .ok tree middle →
      Arrives config rest trees ⟨tasks, tree :: stack, middle, none⟩ (later tree middle)) :
    Arrives config rest trees m ((step >>= later) before) := by
  cases ran : step before with
  | error error stopped =>
      rw [ran] at first
      rw [bind_of_error ran]
      exact first
  | ok tree middle =>
      rw [ran] at first
      rw [bind_of_ok ran]
      have behind := next tree middle ran
      cases last : later tree middle with
      | ok result after =>
          rw [last] at behind
          exact Leads.trans first behind
      | error error stopped =>
          rw [last] at behind
          obtain ⟨left, others, leads⟩ := behind
          exact ⟨left, others, Leads.trans first leads⟩

/-! The actions -/

theorem build {change : List Expr → List Expr} (does : task.action config = .build new change)
    (next : Arrives config rest trees ⟨new ++ tasks, change stack, before, none⟩ run) :
    Arrives config rest trees ⟨task :: tasks, stack, before, none⟩ run := by
  apply goes _ next
  rw [does]
  rfl

theorem look {choose : Option SpannedToken → Choice} (new : List Task)
    (does : task.action config = .look choose) (chosen : choose before.lookahead = .goOn new)
    (next : Arrives config rest trees ⟨new ++ tasks, stack, before, none⟩ run) :
    Arrives config rest trees ⟨task :: tasks, stack, before, none⟩ run := by
  apply goes _ next
  rw [does, perform, bind_of_ok (peek_run before), chosen]
  rfl

theorem refused {choose : Option SpannedToken → Choice} (error : Nat → GrammarError)
    (does : task.action config = .look choose) (chosen : choose before.lookahead = .refuse error) :
    Arrives config rest trees ⟨task :: tasks, stack, before, none⟩
      (.error (.grammatical (error (TokenFeed.location before.feed))) before) := by
  apply fails
  rw [does, perform, bind_of_ok (peek_run before), chosen]
  rfl

theorem unexpected_bind {α : Type} {choose : Option SpannedToken → Choice} {expected : Expected}
    {later : α → Parse σ Expr} (does : task.action config = .look choose)
    (chosen : choose before.lookahead = .unexpected expected before.lookahead) :
    Arrives config rest trees ⟨task :: tasks, stack, before, none⟩
      (((Parse.unexpected expected : Parse σ α) >>= later) before) := by
  obtain ⟨error, refusal, stops⟩ := unexpected_stops expected before
  rw [bind_of_error (stops α)]
  exact refused error does (chosen.trans refusal)

theorem unexpected {choose : Option SpannedToken → Choice} {expected : Expected}
    (does : task.action config = .look choose)
    (chosen : choose before.lookahead = .unexpected expected before.lookahead) :
    Arrives config rest trees ⟨task :: tasks, stack, before, none⟩
      ((Parse.unexpected expected : Parse σ Expr) before) := by
  rw [← bind_pure (Parse.unexpected expected : Parse σ Expr)]
  exact unexpected_bind does chosen

/-- A token is taken; what it is may still be refused. -/
theorem takeOrRefuse {kind : TokenKind} {choose : SpannedToken → Choice}
    {later : SpannedToken → Parse σ Expr} (does : task.action config = .take kind choose)
    (next : ∀ found middle, consume kind before = .ok found middle →
      (∃ new, choose found = .goOn new ∧
        Arrives config rest trees ⟨new ++ tasks, stack, middle, none⟩ (later found middle)) ∨
      ∃ error, choose found = .refuse error ∧ later found middle =
        .error (.grammatical (error (TokenFeed.location middle.feed))) middle) :
    Arrives config rest trees ⟨task :: tasks, stack, before, none⟩
      ((consume kind >>= later) before) := by
  cases taken : consume kind before with
  | error error stopped =>
      rw [bind_of_error taken]
      apply fails
      rw [does, perform, bind_of_error taken]
  | ok found middle =>
      rw [bind_of_ok taken]
      rcases next found middle taken with ⟨new, chosen, behind⟩ | ⟨error, chosen, failed⟩
      · apply goes _ behind
        rw [does, perform, bind_of_ok taken, chosen]
        rfl
      · rw [failed]
        apply fails
        rw [does, perform, bind_of_ok taken, chosen]
        rfl

theorem take {kind : TokenKind} {new : SpannedToken → List Task}
    {later : SpannedToken → Parse σ Expr}
    (does : task.action config = .take kind fun found => .goOn (new found))
    (next : ∀ found middle, consume kind before = .ok found middle →
      Arrives config rest trees ⟨new found ++ tasks, stack, middle, none⟩ (later found middle)) :
    Arrives config rest trees ⟨task :: tasks, stack, before, none⟩
      ((consume kind >>= later) before) :=
  takeOrRefuse does fun found middle taken => .inl ⟨new found, rfl, next found middle taken⟩

theorem nested {level : Level} {step : Parse σ Expr}
    (inside : before.depth < config.maxDepth →
      Arrives config (.leave level :: tasks) trees
        ⟨.opener level :: .leave level :: tasks, stack, before.atDepth (before.depth + 1), none⟩
        (step (before.atDepth (before.depth + 1)))) :
    Arrives config tasks trees ⟨.enter level :: tasks, stack, before, none⟩
      (Parse.nested config step before) := by
  have does : (Task.enter level).action config = .descend [.opener level, .leave level] := rfl
  by_cases free : before.depth < config.maxDepth
  · have descended : descend config before = .ok () (before.atDepth (before.depth + 1)) := by
      rw [descend_run, if_pos free]
    rw [Parse.nested, bind_of_ok descended]
    apply goes (by rw [does, perform, bind_of_ok descended]; rfl)
    apply bind (inside free)
    intro tree middle _
    have ascended : ascend middle = .ok () (middle.atDepth (middle.depth - 1)) := rfl
    rw [bind_of_ok ascended]
    apply goes (by rw [Task.action, perform, bind_of_ok ascended]; rfl)
    exact done
  · obtain ⟨offset, refused⟩ := tooDeep_run (α := Unit) config before
    have descended : descend config before =
        .error (.grammatical (.tooDeep config.maxDepth offset)) before := by
      rw [descend_run, if_neg free, refused]
    rw [Parse.nested, bind_of_error descended]
    apply fails
    rw [does, perform, bind_of_error descended]

end Arrives

omit [TokenFeed σ] in
theorem kind_lookahead (cursor : Cursor σ) :
    cursor.lookahead.map SpannedToken.kind = cursor.next := rfl

theorem consume_depth {kind : TokenKind} {before after : Cursor σ} {found : SpannedToken}
    (taken : consume kind before = .ok found after) : after.depth = before.depth :=
  (consume_ok taken).1.depth_eq

/-! Leaves and ranges -/

section Leaves

variable {rest tasks : List Task} {trees stack : List Expr} {before : Cursor σ}

theorem unfielded_arrives {later : Unit → Parse σ Expr}
    (next : Arrives config rest trees ⟨tasks, stack, before, none⟩ (later () before)) :
    Arrives config rest trees ⟨.unfielded :: tasks, stack, before, none⟩
      ((refuseField >>= later) before) := by
  cases ahead : before.lookahead with
  | none =>
      have free : refuseField before = .ok () before := by
        rw [refuseField, bind_of_ok (peek_run before), ahead]
        rfl
      rw [bind_of_ok free]
      exact .look [] rfl (by rw [ahead]) next
  | some found =>
      by_cases named : found.kind = .fieldSeparator
      · have refused : refuseField before =
            .error (.grammatical (.fieldInRange found.start)) before := by
          rw [refuseField, bind_of_ok (peek_run before), ahead]
          simp only [named, ↓reduceIte]
          rfl
        rw [bind_of_error refused]
        exact .refused (fun _ => .fieldInRange found.start) rfl (by rw [ahead]; exact if_pos named)
      · have free : refuseField before = .ok () before := by
          rw [refuseField, bind_of_ok (peek_run before), ahead]
          simp only [named, ↓reduceIte]
          rfl
        rw [bind_of_ok free]
        exact .look [] rfl (by rw [ahead]; exact if_neg named) next

theorem bound_arrives (use : BoundUse) {later : Atom → Parse σ Expr}
    (next : ∀ atom middle,
      Arrives config rest trees ⟨use.tasks atom ++ tasks, stack, middle, none⟩ (later atom middle)) :
    Arrives config rest trees ⟨.bound use :: tasks, stack, before, none⟩
      ((bound >>= later) before) := by
  unfold bound
  rw [bind_assoc, peekKind_bind]
  cases ahead : before.next with
  | none => exact .unexpected_bind rfl (by simp only [kind_lookahead, ahead])
  | some kind =>
      cases kind
      case identifier =>
        simp only [bind_assoc]
        apply Arrives.look [.bare use] rfl (by simp only [kind_lookahead, ahead])
        apply Arrives.take rfl
        intro found middle _
        apply unfielded_arrives
        exact next _ _
      case quotedString =>
        simp only [bind_assoc]
        apply Arrives.look [.quoted use] rfl (by simp only [kind_lookahead, ahead])
        apply Arrives.take rfl
        intro found middle _
        apply unfielded_arrives
        exact next _ _
      all_goals exact .unexpected_bind rfl (by simp only [kind_lookahead, ahead])

theorem range_arrives (field : String) :
    Arrives config rest trees ⟨.range field :: rest, trees, before, none⟩
      (range field before) := by
  apply Arrives.take rfl
  intro opening middle _
  apply bound_arrives
  intro lower middle
  apply Arrives.take rfl
  intro _ middle _
  apply bound_arrives
  intro upper middle
  apply Arrives.take rfl
  intro closing middle _
  exact .build rfl .done

theorem comparison_arrives (field : String) :
    Arrives config rest trees ⟨.comparison field :: rest, trees, before, none⟩
      (comparison field before) := by
  apply Arrives.takeOrRefuse rfl
  intro symbol middle _
  cases meant : Relation.ofSymbol? symbol.text with
  | some relation =>
      refine .inl ⟨[.bound (.only field relation)], rfl, ?_⟩
      apply bound_arrives
      intro atom middle
      exact .build rfl .done
  | none =>
      refine .inr ⟨_, rfl, rfl⟩

theorem phrase_arrives (field : String) :
    Arrives config rest trees ⟨.phrase field :: rest, trees, before, none⟩
      (phrase field before) := by
  apply Arrives.take rfl
  intro found middle _
  exact .build rfl .done

end Leaves

/-! Clauses -/

def Carries (config : Config) (depth : Nat) (task : Task) (clause : Parse σ Expr) : Prop :=
  ∀ before : Cursor σ, before.depth = depth → ∀ rest trees,
    Arrives config rest trees ⟨task :: rest, trees, before, none⟩ (clause before)

section Clauses

variable {depth room : Nat} {inner tail : Parse σ Expr}
  (inside : depth < config.maxDepth → Carries config (depth + 1) .expression inner)
  (following : depth < config.maxDepth → Carries config (depth + 1) .chain tail)
  (reads : Finds config.defaultField .expression room inner)
  (follows : Finds config.defaultField .chain room tail)

include inside

theorem group_carries : Carries config depth (.enter .group) (group config inner) := by
  intro before same rest trees
  apply Arrives.nested
  intro free
  apply Arrives.take rfl
  intro _ middle taken
  apply Arrives.bind
  · apply inside (same ▸ free)
    rw [consume_depth taken, Cursor.depth_atDepth, same]
  · intro body middle _
    apply Arrives.take rfl
    intro _ middle _
    exact .done

theorem negation_carries : Carries config depth (.enter .negation) (negation config inner) := by
  intro before same rest trees
  apply Arrives.nested
  intro free
  apply Arrives.take rfl
  intro found middle taken
  apply Arrives.bind
  · apply inside (same ▸ free)
    rw [consume_depth taken, Cursor.depth_atDepth, same]
  · intro operand middle _
    exact .build rfl .done

theorem value_carries (field : String) :
    Carries config depth (.value field) (value config inner field) := by
  intro before same rest trees
  unfold value
  rw [peekKind_bind]
  cases ahead : before.next with
  | none =>
      exact .refused (fun location => .missingValue field location) rfl
        (by simp only [kind_lookahead, ahead])
  | some kind =>
      cases kind
      case rangeOpen =>
        apply Arrives.look [.range field] rfl (by simp only [kind_lookahead, ahead])
        exact range_arrives field
      case relationalOperator =>
        apply Arrives.look [.comparison field] rfl (by simp only [kind_lookahead, ahead])
        exact comparison_arrives field
      case regex =>
        apply Arrives.look [.regex field] rfl (by simp only [kind_lookahead, ahead])
        apply Arrives.take rfl
        intro found middle _
        exact .build rfl .done
      case quotedString =>
        apply Arrives.look [.phrase field] rfl (by simp only [kind_lookahead, ahead])
        exact phrase_arrives field
      case identifier =>
        apply Arrives.look [.word field] rfl (by simp only [kind_lookahead, ahead])
        apply Arrives.take rfl
        intro found middle _
        exact .build rfl .done
      case groupOpen =>
        apply Arrives.look [.enter .group, .wrap field] rfl (by simp only [kind_lookahead, ahead])
        apply Arrives.bind (group_carries inside before same _ _)
        intro body middle _
        exact .build rfl .done
      all_goals exact .unexpected rfl (by simp only [kind_lookahead, ahead])

theorem term_carries : Carries config depth .term (term config inner) := by
  intro before same rest trees
  apply Arrives.take rfl
  intro name middle named
  rw [peekKind_bind]
  by_cases fielded : middle.next = some .fieldSeparator
  · simp only [fielded, ↓reduceIte]
    apply Arrives.look [.colon name.text] rfl (if_pos fielded)
    apply Arrives.take rfl
    intro _ last parted
    apply value_carries inside
    rw [consume_depth parted, consume_depth named, same]
  · simp only [fielded, ↓reduceIte]
    apply Arrives.look [.give (.term config.defaultField name.text)] rfl (if_neg fielded)
    exact .build rfl .done

theorem factor_carries : Carries config depth .factor (factor config inner) := by
  intro before same rest trees
  unfold factor
  rw [peekKind_bind]
  cases ahead : before.next with
  | none =>
      apply Arrives.look [.term] rfl (by simp only [kind_lookahead, ahead])
      exact term_carries inside before same rest trees
  | some kind =>
      cases kind
      case logicalNot =>
        apply Arrives.look [.enter .negation] rfl (by simp only [kind_lookahead, ahead])
        exact negation_carries inside before same rest trees
      case groupOpen =>
        apply Arrives.look [.enter .group] rfl (by simp only [kind_lookahead, ahead])
        exact group_carries inside before same rest trees
      case quotedString =>
        apply Arrives.look [.phrase config.defaultField] rfl (by simp only [kind_lookahead, ahead])
        exact phrase_arrives config.defaultField
      all_goals
        apply Arrives.look [.term] rfl (by simp only [kind_lookahead, ahead])
        exact term_carries inside before same rest trees

include following reads in
theorem chain_carries : Carries config depth .chain (chain config inner tail) := by
  intro before same rest trees
  apply Arrives.build rfl
  apply Arrives.bind (factor_carries inside before same _ _)
  intro left middle found
  rw [peekKind_bind]
  by_cases linked : middle.next = some .logicalAnd
  · simp only [linked, ↓reduceIte]
    apply Arrives.look [.enter .conjunction] rfl (if_pos linked)
    apply Arrives.nested
    intro free
    apply Arrives.take rfl
    intro operator deeper joined
    have here : middle.depth = depth := by
      obtain ⟨_, _, passed, _⟩ := factor_finds reads _ _ _ found
      rw [passed.depth_eq, same]
    rw [here] at free
    apply Arrives.bind
    · apply following free
      rw [consume_depth joined, Cursor.depth_atDepth, here]
    · intro right last _
      exact .build rfl .done
  · simp only [linked, ↓reduceIte]
    exact .look [] rfl (if_neg linked) .done

omit inside

theorem connective_arrives {rest : List Task} {trees stack : List Expr} {before : Cursor σ}
    {later : Connective → Parse σ Expr} (goes : ¬ Ends before.next)
    (next : ∀ operator middle, connective before = .ok operator middle →
      Arrives config rest trees
        ⟨.chain :: .join operator :: .alternatives :: rest, stack, middle, none⟩
        (later operator middle)) :
    Arrives config rest trees ⟨.alternatives :: rest, stack, before, none⟩
      ((connective >>= later) before) := by
  by_cases written : before.next = some .logicalOr
  · have taking : connective before = (consume .logicalOr >>= fun found =>
        pure (.explicitOr (Spelling.of found.text))) before := by
      rw [connective, peekKind_bind]
      simp only [written, ↓reduceIte]
    have whole : (connective >>= later) before = (consume .logicalOr >>= fun found =>
        later (.explicitOr (Spelling.of found.text))) before := by
      rw [connective, bind_assoc, peekKind_bind]
      simp only [written, ↓reduceIte, bind_assoc, pure_bind]
    rw [whole]
    apply Arrives.look [.written] rfl (by simp only [kind_lookahead, written])
    apply Arrives.take rfl
    intro found middle taken
    apply next
    rw [taking, bind_of_ok taken]
    rfl
  · have free : connective before = .ok .implicitOr before := by
      rw [connective, peekKind_bind]
      simp only [written, ↓reduceIte]
      rfl
    rw [bind_of_ok free]
    apply Arrives.look [.chain, .join .implicitOr, .alternatives] rfl _ (next _ _ free)
    cases ahead : before.next with
    | none => exact absurd (.inl ahead) goes
    | some kind =>
        cases kind
        case groupClose => exact absurd (.inr ahead) goes
        case logicalOr => exact absurd ahead written
        all_goals simp only [kind_lookahead, ahead]

theorem connective_depth {before after : Cursor σ} {operator : Connective}
    (linked : connective before = .ok operator after) : after.depth = before.depth := by
  rcases connective_ok linked with ⟨_, passed, _, _⟩ | ⟨rfl, _⟩
  · exact passed.depth_eq
  · rfl

-- The induction is on the rounds, which never run out while a token is ahead; the machine
-- has none to count.
theorem alternatives_arrive {field : String} {clause : Parse σ Expr} {depth room : Nat}
    (each : Carries config depth .chain clause) (finds : Finds field .chain room clause)
    (rounds : Nat) {left : Expr} {before : Cursor σ} (same : before.depth = depth)
    (enough : before.Within rounds) (rest : List Task) (trees : List Expr) :
    Arrives config rest trees ⟨.alternatives :: rest, left :: trees, before, none⟩
      (alternatives clause rounds left before) := by
  have stops {left : Expr} {before : Cursor σ} (ends : Ends before.next) :
      Arrives config rest trees ⟨.alternatives :: rest, left :: trees, before, none⟩
        ((pure left : Parse σ Expr) before) := by
    apply Arrives.look [] rfl _ .done
    rcases ends with ahead | ahead <;> simp only [kind_lookahead, ahead]
  induction rounds generalizing left before with
  | zero =>
      apply stops
      cases ahead : before.lookahead with
      | none => exact .inl (Cursor.next_eq_none ahead)
      | some token => exact absurd (enough (by simp [ahead])) (Nat.not_lt_zero _)
  | succ rounds ih =>
      by_cases ends : Ends before.next
      · rw [alternatives_stop ends]
        exact stops ends
      · rw [alternatives_round ends]
        apply connective_arrives ends
        intro operator middle linked
        have here : middle.depth = depth := (connective_depth linked).trans same
        apply Arrives.bind (each middle here _ _)
        intro right last found
        apply Arrives.build rfl
        apply ih
        · obtain ⟨_, _, passed, _⟩ := finds _ _ _ found
          rw [passed.depth_eq, here]
        · exact round_within finds linked found enough

theorem disjunction_carries {field : String} {clause : Parse σ Expr} {depth room : Nat}
    (each : Carries config depth .chain clause) (finds : Finds field .chain room clause) :
    Carries config depth .disjunction (disjunction clause) := by
  intro before same rest trees
  apply Arrives.build rfl
  apply Arrives.bind (each before same _ _)
  intro left middle found
  have counted : tokensLeft middle =
      .ok (TokenFeed.remaining middle.feed + middle.lookahead.toList.length) middle := rfl
  rw [bind_of_ok counted]
  apply alternatives_arrive each finds _ _ middle.within_tokensLeft
  obtain ⟨_, _, passed, _⟩ := finds _ _ _ found
  rw [passed.depth_eq, same]

include inside following reads follows in
theorem groupOrDisjunction_carries :
    Carries config depth .expression (groupOrDisjunction config inner tail) := by
  intro before same rest trees
  unfold groupOrDisjunction
  rw [peekKind_bind]
  by_cases opens : before.next = some .groupOpen
  · simp only [opens, ↓reduceIte]
    apply Arrives.look [.enter .group] rfl (if_pos opens)
    exact group_carries inside before same rest trees
  · simp only [opens, ↓reduceIte]
    apply Arrives.look [.disjunction] rfl (if_neg opens)
    exact disjunction_carries (chain_carries inside following reads) (chain_finds reads follows)
      before same rest trees

end Clauses

/-- From this depth the machine comes to what the parsers with this room come to. -/
def Carried (σ : Type) [TokenFeed σ] (config : Config) (depth room : Nat) : Prop :=
  Carries config depth .expression (expression config room : Parse σ Expr) ∧
    Carries config depth .chain (conjunction config room : Parse σ Expr)

theorem Carried.step {depth room : Nat}
    (deeper : depth < config.maxDepth → Carried σ config (depth + 1) room) :
    Carried σ config depth (room + 1) := by
  obtain ⟨reads, follows⟩ := expression_finds (σ := σ) config room
  unfold Carried
  rw [expression_succ, conjunction_succ]
  constructor
  · exact groupOrDisjunction_carries (fun free => (deeper free).1) (fun free => (deeper free).2)
      reads follows
  · exact chain_carries (fun free => (deeper free).1) (fun free => (deeper free).2) reads

theorem carried {depth : Nat} (room : Nat) (left : depth + room = config.maxDepth) :
    Carried σ config depth (room + 1) := by
  induction room generalizing depth with
  | zero => exact .step fun free => absurd free (by omega)
  | succ room ih => exact .step fun _ => ih (by omega)

/-! Queries -/

def EndsAs (m : Machine σ) : EStateM.Result ParseError (Cursor σ) Query → Prop
  | .ok query cursor => m = ⟨[], [query.body], cursor, none⟩
  | .error error cursor => m.failure = some error ∧ m.cursor = cursor

theorem finish_ends (body : Expr) (before : Cursor σ) :
    ((⟨[.finish], [body], before, none⟩ : Machine σ).step config).EndsAs
      ((peek >>= fun ahead => match ahead with
        | none => pure ⟨body⟩
        | some _ => unexpected .endOfInput) before) := by
  rw [bind_of_ok (peek_run before)]
  cases ahead : before.lookahead with
  | none =>
      have performed : perform config [body] (Task.finish.action config) before =
          .ok ([], [body]) before := by
        rw [Task.action, perform, bind_of_ok (peek_run before), ahead]
        rfl
      rw [step_ok performed]
      rfl
  | some found =>
      obtain ⟨error, refusal, stops⟩ := unexpected_stops .endOfInput before
      have performed : perform config [body] (Task.finish.action config) before =
          .error (.grammatical (error (TokenFeed.location before.feed))) before := by
        rw [Task.action, perform, bind_of_ok (peek_run before)]
        simp only [ahead] at refusal ⊢
        rw [refusal]
        rfl
      rw [step_error performed]
      simp only [stops Query]
      exact ⟨rfl, rfl⟩

/-- The machine stops, and as the parse does. -/
theorem ends_as_query (config : Config) (feed : σ) :
    ∃ steps, ((start feed).after config steps).EndsAs (query config ⟨feed, none, 0⟩) := by
  unfold query start
  cases pulled : pull (⟨feed, none, 0⟩ : Cursor σ) with
  | error error stopped =>
      rw [bind_of_error pulled]
      exact ⟨0, rfl, rfl⟩
  | ok _ middle =>
      rw [bind_of_ok pulled]
      have arrives := (carried config.maxDepth (Nat.zero_add _)).1 middle
        (Cursor.pull_depth pulled) [.finish] []
      cases found : expression config (config.maxDepth + 1) middle with
      | error error stopped =>
          rw [bind_of_error found]
          rw [found] at arrives
          obtain ⟨left, stack, steps, leads⟩ := arrives
          refine ⟨steps, ?_⟩
          rw [leads]
          exact ⟨rfl, rfl⟩
      | ok body last =>
          rw [bind_of_ok found]
          rw [found] at arrives
          obtain ⟨steps, leads⟩ := arrives
          refine ⟨steps + 1, ?_⟩
          rw [after_add, leads]
          exact finish_ends body last

section Ends

variable {m : Machine σ} {run other : EStateM.Result ParseError (Cursor σ) Query}

theorem EndsAs.step (ends : m.EndsAs run) : m.step config = m := by
  cases run with
  | ok query cursor =>
      cases ends
      rfl
  | error error cursor =>
      obtain ⟨failed, _⟩ := ends
      unfold Machine.step
      rw [failed]

theorem EndsAs.after (ends : m.EndsAs run) (steps : Nat) : m.after config steps = m := by
  induction steps with
  | zero => rfl
  | succ steps ih => rw [Machine.after, ends.step, ih]

omit [TokenFeed σ] in
/-- A machine ends as one run only. -/
theorem EndsAs.unique (ends : m.EndsAs run) (again : m.EndsAs other) : run = other := by
  cases run with
  | ok query cursor =>
      cases ends
      cases other with
      | ok result after =>
          cases query
          cases result
          cases again
          rfl
      | error error after => cases again.1
  | error error cursor =>
      obtain ⟨failed, rfl⟩ := ends
      cases other with
      | ok result after =>
          cases again
          cases failed
      | error other after =>
          obtain ⟨failed', rfl⟩ := again
          cases failed.symm.trans failed'
          rfl

end Ends

end SearchQuery.Machine
