import SearchQuery.Proofs.Machine

/-!
All that a step of the machine can do. It opens a level or leaves one, or it reads: the depth is
kept, and at most one token is pulled, only in the place of a token that stands ahead.
-/

namespace SearchQuery

open Parse

variable {σ α β : Type}

def Parse.leftAt : EStateM.Result ParseError (Cursor σ) α → Cursor σ
  | .ok _ cursor => cursor
  | .error _ cursor => cursor

def Cursor.Draws [TokenFeed σ] (before after : Cursor σ) : Prop :=
  after = before ∨ before.lookahead ≠ none ∧ after = leftAt (pull before)

section Draws

variable [TokenFeed σ] {before : Cursor σ}

theorem pull_leftAt_depth (before : Cursor σ) : (leftAt (pull before)).depth = before.depth := by
  unfold pull
  split <;> rfl

theorem Cursor.Draws.depth_eq {after : Cursor σ} (draws : before.Draws after) :
    after.depth = before.depth := by
  rcases draws with rfl | ⟨_, rfl⟩
  · rfl
  · exact pull_leftAt_depth before

omit [TokenFeed σ] in
/-- A run that ends with steps that stay leaves the cursor where its first step has. -/
theorem bind_leftAt {step : Parse σ α} {later : α → Parse σ β}
    (stays : ∀ value middle, leftAt (later value middle) = middle) :
    leftAt ((step >>= later) before) = leftAt (step before) := by
  cases run : step before with
  | ok value middle =>
      rw [bind_of_ok run, stays]
      rfl
  | error error stopped =>
      rw [bind_of_error run]
      rfl

theorem failAt_leftAt (expected : Expected) (found : Option SpannedToken) (cursor : Cursor σ) :
    leftAt ((failAt expected found : Parse σ α) cursor) = cursor := by
  cases found <;> rfl

theorem consume_draws (kind : TokenKind) : before.Draws (leftAt (consume kind before)) := by
  unfold consume
  rw [bind_of_ok (peek_run before)]
  cases ahead : before.lookahead with
  | none => exact .inl (failAt_leftAt _ _ before)
  | some found =>
      dsimp only
      split
      · refine .inr ⟨by simp [ahead], bind_leftAt fun _ _ => rfl⟩
      · exact .inl (failAt_leftAt _ _ before)

theorem choice_leftAt (choice : Choice) (cursor : Cursor σ) :
    leftAt (Parse.choice choice cursor) = cursor := by
  cases choice <;> rfl

theorem choice_ok {choice : Choice} {tasks : List Task} {after : Cursor σ}
    (chosen : Parse.choice choice before = .ok tasks after) : choice = .goOn tasks := by
  cases choice with
  | goOn tasks =>
      obtain ⟨rfl, _⟩ := pure_ok chosen
      rfl
  | refuse => cases chosen

end Draws

/-! Tasks that open no level and leave none -/

@[simp] theorem openLevels_append (first second : List Task) :
    openLevels (first ++ second) = openLevels first ++ openLevels second :=
  List.filterMap_append

def Choice.Flat : Choice → Prop
  | .goOn tasks => openLevels tasks = []
  | .refuse _ => True

theorem Choice.unexpected_flat (expected : Expected) (found : Option SpannedToken) :
    (Choice.unexpected expected found).Flat := by
  cases found <;> trivial

def Action.Flat : Action → Prop
  | .build tasks _ => openLevels tasks = []
  | .look choose => ∀ ahead, (choose ahead).Flat
  | .take _ choose => ∀ found, (choose found).Flat
  | .descend _ | .ascend => False

theorem BoundUse.tasks_flat (use : BoundUse) (atom : Atom) : openLevels (use.tasks atom) = [] := by
  cases use <;> rfl

/-- Levels are opened and left by the two tasks for it, and by no other. -/
theorem Task.action_flat (config : Config) (task : Task) :
    (∃ level, task = .enter level) ∨ (∃ level, task = .leave level) ∨
      openLevels [task] = [] ∧ (task.action config).Flat := by
  cases task
  case enter level => exact .inl ⟨level, rfl⟩
  case leave level => exact .inr (.inl ⟨level, rfl⟩)
  case opener level => cases level <;> exact .inr (.inr ⟨rfl, fun _ => rfl⟩)
  case comparison field =>
    refine .inr (.inr ⟨rfl, fun symbol => ?_⟩)
    dsimp only
    split
    · rfl
    · exact Choice.unexpected_flat _ _
  case bare use => exact .inr (.inr ⟨rfl, fun found => use.tasks_flat (.term found.text)⟩)
  case quoted use =>
    exact .inr (.inr ⟨rfl, fun found => use.tasks_flat (.phrase (unquote found.text))⟩)
  case expression | alternatives | links | factor | named =>
    refine .inr (.inr ⟨rfl, fun ahead => ?_⟩)
    dsimp only
    split <;> rfl
  case value field =>
    refine .inr (.inr ⟨rfl, fun ahead => ?_⟩)
    dsimp only
    split
    case h_1 => trivial
    case h_8 => exact Choice.unexpected_flat _ _
    all_goals rfl
  case bound use =>
    refine .inr (.inr ⟨rfl, fun ahead => ?_⟩)
    dsimp only
    split
    case h_3 => exact Choice.unexpected_flat _ _
    all_goals rfl
  case finish =>
    refine .inr (.inr ⟨rfl, fun ahead => ?_⟩)
    cases ahead with
    | none => rfl
    | some found => exact Choice.unexpected_flat _ _
  case unfielded =>
    refine .inr (.inr ⟨rfl, fun ahead => ?_⟩)
    cases ahead with
    | none => rfl
    | some found =>
        dsimp only
        split
        · trivial
        · rfl
  case disjunction | chain | give | wrap | negate | conjoin | join => exact .inr (.inr ⟨rfl, rfl⟩)
  case written | term | colon | phrase | regex | word | range | between | closing | closer =>
    exact .inr (.inr ⟨rfl, fun _ => rfl⟩)

section Flat

variable [TokenFeed σ] {config : Config} {action : Action} {trees : List Expr}
  {before : Cursor σ}

theorem perform_draws (flat : action.Flat) :
    before.Draws (leftAt (perform config trees action before)) := by
  cases action with
  | build tasks change => exact .inl rfl
  | look choose =>
      refine .inl ?_
      rw [perform, bind_of_ok (peek_run before), bind_leftAt fun _ _ => rfl, choice_leftAt]
  | take kind choose =>
      have stays : leftAt (perform config trees (.take kind choose) before) =
          leftAt (consume kind before) := by
        rw [perform]
        apply bind_leftAt
        intro found middle
        rw [bind_leftAt fun _ _ => rfl, choice_leftAt]
      rw [stays]
      exact consume_draws kind
  | descend | ascend => exact flat.elim

theorem perform_flat {new : List Task} {built : List Expr} {after : Cursor σ} (flat : action.Flat)
    (performed : perform config trees action before = .ok (new, built) after) :
    openLevels new = [] := by
  cases action with
  | build tasks change =>
      cases performed
      exact flat
  | look choose =>
      have quiet := flat before.lookahead
      rw [perform, bind_of_ok (peek_run before)] at performed
      obtain ⟨tasks, _, chosen, performed⟩ := bind_ok performed
      cases performed
      rwa [choice_ok chosen] at quiet
  | take kind choose =>
      obtain ⟨found, _, _, performed⟩ := bind_ok performed
      obtain ⟨tasks, _, chosen, performed⟩ := bind_ok performed
      cases performed
      have quiet := flat found
      rwa [choice_ok chosen] at quiet
  | descend | ascend => exact flat.elim

end Flat

namespace Machine

theorem EndsAs.cursor_eq {m : Machine σ} {run : EStateM.Result ParseError (Cursor σ) Query}
    (ends : m.EndsAs run) : m.cursor = leftAt run := by
  cases run with
  | ok query cursor =>
      cases ends
      rfl
  | error error cursor => exact ends.2

variable [TokenFeed σ] (config : Config)

inductive Goes : Machine σ → Machine σ → Prop where
  | halted {m} (idle : m.failure ≠ none ∨ m.tasks = []) : Goes m m
  | reads {task tasks new trees built before after} (flat : openLevels [task] = [])
      (further : openLevels new = []) (draws : before.Draws after) :
      Goes ⟨task :: tasks, trees, before, none⟩ ⟨new ++ tasks, built, after, none⟩
  | fails {tasks trees before after error} (draws : before.Draws after) :
      Goes ⟨tasks, trees, before, none⟩ ⟨tasks, trees, after, some error⟩
  | opens {level tasks trees before} (free : before.depth < config.maxDepth) :
      Goes ⟨.enter level :: tasks, trees, before, none⟩
        ⟨.opener level :: .leave level :: tasks, trees, before.atDepth (before.depth + 1), none⟩
  | leaves {level tasks trees before} :
      Goes ⟨.leave level :: tasks, trees, before, none⟩
        ⟨tasks, trees, before.atDepth (before.depth - 1), none⟩

theorem enter_goes (level : Level) (tasks : List Task) (trees : List Expr) (before : Cursor σ) :
    Goes config ⟨.enter level :: tasks, trees, before, none⟩
      ((⟨.enter level :: tasks, trees, before, none⟩ : Machine σ).step config) := by
  by_cases free : before.depth < config.maxDepth
  · have performed : perform config trees ((Task.enter level).action config) before =
        .ok ([.opener level, .leave level], trees) (before.atDepth (before.depth + 1)) := by
      rw [Task.action, perform, bind_of_ok (by rw [descend_run, if_pos free])]
      rfl
    rw [step_ok performed]
    exact .opens free
  · obtain ⟨offset, refused⟩ := tooDeep_run (α := Unit) config before
    have performed : perform config trees ((Task.enter level).action config) before =
        .error (.grammatical (.tooDeep config.maxDepth offset)) before := by
      rw [Task.action, perform, bind_of_error (by rw [descend_run, if_neg free, refused])]
    rw [step_error performed]
    exact .fails (.inl rfl)

theorem step_goes (m : Machine σ) : Goes config m (m.step config) := by
  obtain ⟨tasks, trees, before, failure⟩ := m
  cases failure with
  | some error => exact .halted (.inl (by simp))
  | none =>
      cases tasks with
      | nil => exact .halted (.inr rfl)
      | cons task tasks =>
          rcases task.action_flat config with ⟨level, rfl⟩ | ⟨level, rfl⟩ | ⟨flat, action⟩
          · exact enter_goes config level tasks trees before
          · have performed : perform config trees ((Task.leave level).action config) before =
                .ok ([], trees) (before.atDepth (before.depth - 1)) := rfl
            rw [step_ok performed]
            exact .leaves
          · have draws : before.Draws (leftAt (perform config trees (task.action config) before)) :=
              perform_draws action
            cases performed : perform config trees (task.action config) before with
            | ok result after =>
                obtain ⟨new, built⟩ := result
                rw [performed] at draws
                rw [step_ok performed]
                exact .reads flat (perform_flat action performed) draws
            | error error after =>
                rw [performed] at draws
                rw [step_error performed]
                exact .fails draws

/-- What every step keeps is so in all states that are reached. -/
theorem after_induction {holds : Machine σ → Prop}
    (kept : ∀ before next, Goes config before next → holds before → holds next) {m : Machine σ}
    (now : holds m) (steps : Nat) : holds (m.after config steps) := by
  induction steps generalizing m with
  | zero => exact now
  | succ steps ih => exact ih (kept m _ (step_goes config m) now)

omit config in
theorem start_cursor (feed : σ) : (start feed).cursor = leftAt (pull ⟨feed, none, 0⟩) := by
  unfold start
  cases pull (⟨feed, none, 0⟩ : Cursor σ) <;> rfl

omit config in
theorem start_tasks (feed : σ) : (start feed).tasks = [.expression, .finish] := by
  unfold start
  split <;> rfl

end Machine

end SearchQuery
