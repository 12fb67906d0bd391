import SearchQuery.Proofs.Progress
import SearchQuery.Proofs.Steps

/-!
The depth counts the open levels. It is raised where a level is opened and lowered where it is
left, and where an error comes between the two both the level and its count remain.
-/

namespace SearchQuery

open Parse

variable {σ α : Type} [TokenFeed σ]

/-! Clauses -/

def Parse.KeepsDepth (step : Parse σ α) : Prop :=
  ∀ before after result, step before = .ok result after → after.depth = before.depth

theorem Parse.Advances.keepsDepth {step : Parse σ α} (advances : Advances step) :
    KeepsDepth step := by
  intro before after result run
  obtain ⟨_, _, passed⟩ := advances before after result run
  exact passed.depth_eq

theorem Parse.clauses_keepDepth (config : Config) (room : Nat) :
    Clauses (σ := σ) KeepsDepth config room :=
  (clauses_advance config room).imp Advances.keepsDepth

theorem query_depth {config : Config} {before after : Cursor σ} {result : Query}
    (accepted : query config before = .ok result after) : after.depth = before.depth := by
  obtain ⟨middle, pulled, found, _⟩ := query_ok accepted
  rw [(clauses_keepDepth config _).expression _ _ _ found, Cursor.pull_depth pulled]

/-! Every state of the machine -/

namespace Machine

variable {config : Config} {m : Machine σ}

/-- The depth is the number of the levels that are open, and these are no more than allowed. -/
structure Balanced (config : Config) (m : Machine σ) : Prop where
  counts : m.cursor.depth = (openLevels m.tasks).length
  allowed : m.cursor.depth ≤ config.maxDepth

theorem Goes.balanced {next : Machine σ} (goes : Goes config m next)
    (balanced : Balanced config m) : Balanced config next := by
  obtain ⟨counts, allowed⟩ := balanced
  cases goes with
  | halted => exact ⟨counts, allowed⟩
  | @reads task tasks new trees built before after flat further draws =>
      have same : openLevels (new ++ tasks) = openLevels ([task] ++ tasks) := by
        rw [openLevels_append, openLevels_append, flat, further]
      constructor
      · rw [draws.depth_eq, same]
        exact counts
      · rw [draws.depth_eq]
        exact allowed
  | fails draws =>
      constructor
      · rw [draws.depth_eq]
        exact counts
      · rw [draws.depth_eq]
        exact allowed
  | opens free =>
      constructor
      · exact congrArg Nat.succ counts
      · exact free
  | leaves =>
      constructor
      · exact congrArg Nat.pred counts
      · exact Nat.le_trans (Nat.pred_le _) allowed

theorem start_balanced (config : Config) (feed : σ) : Balanced config (start feed) := by
  have none_open : (start feed).cursor.depth = 0 := by
    rw [start_cursor, pull_leftAt_depth]
  constructor
  · rw [none_open, start_tasks]
    rfl
  · rw [none_open]
    exact Nat.zero_le _

theorem after_balanced (config : Config) (feed : σ) (steps : Nat) :
    Balanced config ((start feed).after config steps) :=
  after_induction config (fun _ _ goes balanced => goes.balanced balanced)
    (start_balanced config feed) steps

omit [TokenFeed σ] in
theorem Balanced.leave_pos (balanced : Balanced config m) {level : Level} {tasks : List Task}
    (leaves : m.tasks = .leave level :: tasks) : 0 < m.cursor.depth := by
  rw [balanced.counts, leaves]
  exact Nat.succ_pos _

end Machine

/-- Wherever a parse stands its depth is the number of the open levels, no more than allowed, and
not nothing where a level is about to be left. The machine that says where a parse stands reads
every clause as the parser does and ends as it ends. A clause that is read leaves the depth as it
was, and a query that is read leaves none. -/
theorem depth_balanced (config : Config) (feed : σ) :
    (∀ steps, Machine.Balanced config ((Machine.start feed).after config steps)) ∧
      (∀ steps level tasks,
        ((Machine.start feed).after config steps).tasks = .leave level :: tasks →
          0 < ((Machine.start feed).after config steps).cursor.depth) ∧
      (∀ depth room, depth + room = config.maxDepth →
        Machine.Carried σ config depth (room + 1)) ∧
      (∃ steps, ((Machine.start feed).after config steps).EndsAs
        (query config ⟨feed, none, 0⟩)) ∧
      (∀ room, Clauses (σ := σ) KeepsDepth config room) ∧
      ∀ result after, query config ⟨feed, none, 0⟩ = .ok result after → after.depth = 0 := by
  have balanced := Machine.after_balanced config feed
  refine ⟨balanced, ?_, ?_, Machine.ends_as_query config feed, clauses_keepDepth config, ?_⟩
  · intro steps level tasks
    exact (balanced steps).leave_pos
  · intro depth room left
    exact Machine.carried room left
  · intro result after accepted
    exact query_depth accepted

def oneGroup : TokenQueue :=
  .ofTokens [⟨⟨.groupOpen, "("⟩, 0, 1⟩, ⟨⟨.identifier, "a"⟩, 1, 2⟩, ⟨⟨.groupClose, ")"⟩, 2, 3⟩]

theorem depth_balanced_oneGroup :
    ((Machine.start oneGroup).after ⟨"f", 1⟩ 13).tasks = [.leave .group, .finish] ∧
      0 < ((Machine.start oneGroup).after ⟨"f", 1⟩ 13).cursor.depth ∧
      Machine.Carried TokenQueue ⟨"f", 1⟩ 1 1 ∧
      query ⟨"f", 1⟩ ⟨oneGroup, none, 0⟩ = .ok ⟨.term "f" "a"⟩ ⟨⟨[], 3⟩, none, 0⟩ ∧
      (⟨⟨[], 3⟩, none, 0⟩ : Cursor TokenQueue).depth = 0 :=
  have leaves : ((Machine.start oneGroup).after ⟨"f", 1⟩ 13).tasks = [.leave .group, .finish] := by
    decide
  have accepted : query ⟨"f", 1⟩ ⟨oneGroup, none, 0⟩ =
      .ok ⟨.term "f" "a"⟩ ⟨⟨[], 3⟩, none, 0⟩ := by rfl
  have balanced := depth_balanced ⟨"f", 1⟩ oneGroup
  ⟨leaves, balanced.2.1 13 .group [.finish] leaves, balanced.2.2.1 1 0 rfl, accepted,
    balanced.2.2.2.2.2 _ _ accepted⟩

end SearchQuery
