import SearchQuery.Grammar.Parse
import SearchQuery.Proofs.Cursor
import SearchQuery.Proofs.Reading

/-!
Every successful run of the parser is a reading: the tokens it took form the
clause it ran for, the tree it gives is what they mean, and the levels they need
were there. One fact for each clause, from what its parts find; the recursion is
tied at the end by induction on the room.
-/

namespace SearchQuery.Parse

open Cursor (Passes)

variable {σ : Type} [TokenFeed σ]

def Finds (field : String) (clause : Clause) (room : Nat) (step : Parse σ Expr) : Prop :=
  ∀ before after tree, step before = .ok tree after →
    ∃ tokens levels, Passes before tokens after ∧
      Reads field clause tokens tree after.next levels ∧ levels < room

theorem nested_passes {before inside : Cursor σ} {tokens : List Token}
    (passed : Passes (before.atDepth (before.depth + 1)) tokens inside) :
    Passes before tokens (inside.atDepth (inside.depth - 1)) := by
  have depth := passed.depth_eq
  have outside := passed.atDepth before.depth
  simpa [depth] using outside

/-! Leaves and ranges -/

omit [TokenFeed σ] in
theorem refuseField_ok {before after : Cursor σ} {result : Unit}
    (run : refuseField before = .ok result after) :
    after = before ∧ before.next ≠ some .fieldSeparator := by
  unfold refuseField at run
  rw [bind_of_ok (peek_run before)] at run
  cases head : before.lookahead with
  | none =>
      simp only [head] at run
      exact ⟨(pure_ok run).2, by simp [Cursor.next, head]⟩
  | some found =>
      simp only [head] at run
      by_cases named : found.kind = .fieldSeparator
      · simp only [named, ↓reduceIte] at run
        exact absurd run fail_ne_ok
      · simp only [named, ↓reduceIte] at run
        exact ⟨(pure_ok run).2, by simpa [Cursor.next, head] using named⟩

theorem bound_ok {before after : Cursor σ} {atom : Atom} (run : bound before = .ok atom after) :
    ∃ token, Passes before [token] after ∧ token.atom? = some atom ∧
      after.next ≠ some .fieldSeparator := by
  unfold bound at run
  rw [peekKind_bind] at run
  cases ahead : before.next with
  | none =>
      simp only [ahead] at run
      exact absurd run unexpected_ne_ok
  | some kind =>
      cases kind
      case identifier | quotedString =>
        simp only [ahead] at run
        obtain ⟨found, middle, passed, kind, run⟩ := consume_bind_ok run
        obtain ⟨_, last, refused, ended⟩ := bind_ok run
        obtain ⟨rfl, unnamed⟩ := refuseField_ok refused
        obtain ⟨rfl, rfl⟩ := pure_ok ended
        exact ⟨found.token, passed, by simp [Token.atom?, kind, SpannedToken.text], unnamed⟩
      all_goals
        simp only [ahead] at run
        exact absurd run unexpected_ne_ok

theorem range_ok {field : String} {before after : Cursor σ} {tree : Expr}
    (run : range field before = .ok tree after) :
    ∃ tokens, Passes before tokens after ∧ ReadsValue field tokens tree after.next := by
  unfold range at run
  obtain ⟨opening, _, opened, opens, run⟩ := consume_bind_ok run
  obtain ⟨_, _, found, run⟩ := bind_ok run
  obtain ⟨lower, lowered, first, _⟩ := bound_ok found
  obtain ⟨middle, _, parted, between, run⟩ := consume_bind_ok run
  obtain ⟨_, _, found, run⟩ := bind_ok run
  obtain ⟨upper, uppered, second, _⟩ := bound_ok found
  obtain ⟨closing, _, closed, closes, run⟩ := consume_bind_ok run
  obtain ⟨rfl, rfl⟩ := pure_ok run
  have passed := opened.append (lowered.append (parted.append (uppered.append closed)))
  exact ⟨_, passed, .range opens first between second closes⟩

theorem comparison_ok {field : String} {before after : Cursor σ} {tree : Expr}
    (run : comparison field before = .ok tree after) :
    ∃ tokens, Passes before tokens after ∧ ReadsValue field tokens tree after.next := by
  unfold comparison at run
  obtain ⟨symbol, middle, passed, kind, run⟩ := consume_bind_ok run
  cases meant : Relation.ofSymbol? symbol.text with
  | none =>
      simp only [meant] at run
      exact absurd run failAt_ne_ok
  | some relation =>
      simp only [meant] at run
      obtain ⟨_, _, found, run⟩ := bind_ok run
      obtain ⟨token, bounded, atom, unnamed⟩ := bound_ok found
      obtain ⟨rfl, rfl⟩ := pure_ok run
      exact ⟨_, passed.append bounded, .comparison kind meant atom unnamed⟩

theorem phrase_ok {field : String} {before after : Cursor σ} {tree : Expr}
    (run : phrase field before = .ok tree after) :
    ∃ value, Passes before [value] after ∧ value.kind = .quotedString ∧
      tree = .phrase field (unquote value.text) := by
  unfold phrase at run
  obtain ⟨found, _, passed, kind, run⟩ := consume_bind_ok run
  obtain ⟨rfl, rfl⟩ := pure_ok run
  exact ⟨found.token, passed, kind, rfl⟩

/-! Clauses, each from what is nested in it -/

section Clauses

variable {config : Config} {inner tail : Parse σ Expr} {room : Nat}

theorem group_finds (inside : Finds config.defaultField .expression room inner) :
    Finds config.defaultField .group (room + 1) (group config inner) := by
  intro before after tree run
  obtain ⟨last, stepped, rfl⟩ := nested_ok run
  obtain ⟨opening, _, opened, opens, stepped⟩ := consume_bind_ok stepped
  obtain ⟨_, _, found, stepped⟩ := bind_ok stepped
  obtain ⟨tokens, levels, passed, reads, less⟩ := inside _ _ _ found
  obtain ⟨closing, _, closed, closes, stepped⟩ := consume_bind_ok stepped
  obtain ⟨rfl, rfl⟩ := pure_ok stepped
  -- the body was read up to the parenthesis that is taken next
  rw [closed.next_eq, closes] at reads
  have whole := nested_passes (opened.append (passed.append closed))
  exact ⟨_, _, whole, .group opens reads closes, Nat.succ_lt_succ less⟩

theorem value_finds (inside : Finds config.defaultField .expression room inner) {name : Token}
    {field : String} (names : name.kind = .identifier) (same : field = name.text)
    {colon : Token} (separates : colon.kind = .fieldSeparator)
    {before after : Cursor σ} {tree : Expr}
    (run : value config inner field before = .ok tree after) :
    ∃ tokens levels, Passes before tokens after ∧
      Reads config.defaultField .factor (name :: colon :: tokens) tree after.next levels ∧
      levels < room + 1 := by
  subst same
  unfold value at run
  rw [peekKind_bind] at run
  cases ahead : before.next with
  | none =>
      simp only [ahead] at run
      obtain ⟨_, _, _, run⟩ := bind_ok run
      exact absurd run fail_ne_ok
  | some kind =>
      cases kind <;> simp only [ahead] at run
      case rangeOpen =>
        obtain ⟨tokens, passed, reads⟩ := range_ok run
        exact ⟨tokens, 0, passed, .value names separates reads, Nat.succ_pos room⟩
      case relationalOperator =>
        obtain ⟨tokens, passed, reads⟩ := comparison_ok run
        exact ⟨tokens, 0, passed, .value names separates reads, Nat.succ_pos room⟩
      case regex =>
        obtain ⟨found, _, passed, kind, run⟩ := consume_bind_ok run
        obtain ⟨rfl, rfl⟩ := pure_ok run
        exact ⟨_, 0, passed, .value names separates (.regex kind), Nat.succ_pos room⟩
      case quotedString =>
        obtain ⟨value, passed, kind, rfl⟩ := phrase_ok run
        exact ⟨_, 0, passed, .value names separates (.phrase kind), Nat.succ_pos room⟩
      case identifier =>
        obtain ⟨found, _, passed, kind, run⟩ := consume_bind_ok run
        obtain ⟨rfl, rfl⟩ := pure_ok run
        exact ⟨_, 0, passed, .value names separates (.term kind), Nat.succ_pos room⟩
      case groupOpen =>
        obtain ⟨_, _, found, run⟩ := bind_ok run
        obtain ⟨tokens, levels, passed, reads, less⟩ := group_finds inside _ _ _ found
        obtain ⟨rfl, rfl⟩ := pure_ok run
        exact ⟨_, _, passed, .fieldGroup names separates reads, less⟩
      all_goals exact absurd run unexpected_ne_ok

theorem term_finds (inside : Finds config.defaultField .expression room inner) :
    Finds config.defaultField .factor (room + 1) (term config inner) := by
  intro before after tree run
  unfold term at run
  obtain ⟨name, middle, named, kind, run⟩ := consume_bind_ok run
  rw [peekKind_bind] at run
  by_cases fielded : middle.next = some .fieldSeparator
  · simp only [fielded, ↓reduceIte] at run
    obtain ⟨colon, _, parted, separates, run⟩ := consume_bind_ok run
    obtain ⟨tokens, levels, passed, reads, less⟩ := value_finds inside kind rfl separates run
    exact ⟨_, levels, named.append (parted.append passed), reads, less⟩
  · simp only [fielded, ↓reduceIte] at run
    obtain ⟨rfl, rfl⟩ := pure_ok run
    exact ⟨_, 0, named, .word kind fielded, Nat.succ_pos room⟩

theorem negation_finds (inside : Finds config.defaultField .expression room inner) :
    Finds config.defaultField .factor (room + 1) (negation config inner) := by
  intro before after tree run
  obtain ⟨last, stepped, rfl⟩ := nested_ok run
  obtain ⟨operator, _, started, written, stepped⟩ := consume_bind_ok stepped
  obtain ⟨_, _, found, stepped⟩ := bind_ok stepped
  obtain ⟨tokens, levels, passed, reads, less⟩ := inside _ _ _ found
  obtain ⟨rfl, rfl⟩ := pure_ok stepped
  exact ⟨_, _, nested_passes (started.append passed), .not written reads, Nat.succ_lt_succ less⟩

theorem factor_finds (inside : Finds config.defaultField .expression room inner) :
    Finds config.defaultField .factor (room + 1) (factor config inner) := by
  intro before after tree run
  unfold factor at run
  rw [peekKind_bind] at run
  cases ahead : before.next with
  | none =>
      simp only [ahead] at run
      exact term_finds inside _ _ _ run
  | some kind =>
      cases kind <;> simp only [ahead] at run
      case logicalNot => exact negation_finds inside _ _ _ run
      case groupOpen =>
        obtain ⟨tokens, levels, passed, reads, less⟩ := group_finds inside _ _ _ run
        exact ⟨tokens, levels, passed, .paren reads, less⟩
      case quotedString =>
        obtain ⟨value, passed, kind, rfl⟩ := phrase_ok run
        exact ⟨_, 0, passed, .phrase kind, Nat.succ_pos room⟩
      all_goals exact term_finds inside _ _ _ run

theorem chain_finds (inside : Finds config.defaultField .expression room inner)
    (rest : Finds config.defaultField .chain room tail) :
    Finds config.defaultField .chain (room + 1) (chain config inner tail) := by
  intro before after tree run
  unfold chain at run
  obtain ⟨left, middle, found, run⟩ := bind_ok run
  obtain ⟨tokens, levels, passed, reads, less⟩ := factor_finds inside _ _ _ found
  rw [peekKind_bind] at run
  by_cases linked : middle.next = some .logicalAnd
  · simp only [linked, ↓reduceIte] at run
    obtain ⟨last, stepped, rfl⟩ := nested_ok run
    obtain ⟨operator, _, joined, written, stepped⟩ := consume_bind_ok stepped
    obtain ⟨_, _, found, stepped⟩ := bind_ok stepped
    obtain ⟨later, deeper, followed, second, less'⟩ := rest _ _ _ found
    obtain ⟨rfl, rfl⟩ := pure_ok stepped
    rw [linked] at reads
    exact ⟨_, _, passed.append (nested_passes (joined.append followed)),
      .and reads written second, by omega⟩
  · simp only [linked, ↓reduceIte] at run
    obtain ⟨rfl, rfl⟩ := pure_ok run
    exact ⟨tokens, levels, passed, .last reads linked, less⟩

theorem connective_ok {before after : Cursor σ} {operator : Connective}
    (run : connective before = .ok operator after) :
    (∃ written, Passes before [written] after ∧ written.kind = .logicalOr ∧
      operator = .explicitOr (Spelling.of written.text)) ∨
    (after = before ∧ operator = .implicitOr) := by
  unfold connective at run
  rw [peekKind_bind] at run
  by_cases ahead : before.next = some .logicalOr
  · simp only [ahead, ↓reduceIte] at run
    obtain ⟨found, _, passed, kind, run⟩ := consume_bind_ok run
    obtain ⟨rfl, rfl⟩ := pure_ok run
    exact .inl ⟨found.token, passed, kind, rfl⟩
  · simp only [ahead, ↓reduceIte] at run
    obtain ⟨rfl, rfl⟩ := pure_ok run
    exact .inr ⟨rfl, rfl⟩

theorem alternatives_stop {clause : Parse σ Expr} {rounds : Nat} {left : Expr}
    {cursor : Cursor σ} (ends : Ends cursor.next) :
    alternatives clause rounds left cursor = .ok left cursor := by
  cases rounds with
  | zero => rfl
  | succ rounds =>
      unfold alternatives
      rw [peekKind_bind]
      rcases ends with ahead | ahead <;> simp only [ahead] <;> rfl

theorem alternatives_round {clause : Parse σ Expr} {rounds : Nat} {left : Expr}
    {cursor : Cursor σ} (goes : ¬ Ends cursor.next) :
    alternatives clause (rounds + 1) left cursor =
      (connective >>= fun operator => clause >>= fun right =>
        alternatives clause rounds (.binary operator left right)) cursor := by
  rw [alternatives, peekKind_bind]
  cases ahead : cursor.next with
  | none => exact absurd (.inl ahead) goes
  | some kind =>
      cases kind
      case groupClose => exact absurd (.inr ahead) goes
      all_goals rfl

/-- A round of the loop takes a token. -/
theorem round_within {field : String} {rounds : Nat} {clause : Parse σ Expr}
    {before middle after : Cursor σ} {operator : Connective} {right : Expr}
    (each : Finds field .chain room clause) (linked : connective before = .ok operator middle)
    (found : clause middle = .ok right after) (enough : before.Within (rounds + 1)) :
    after.Within rounds := by
  obtain ⟨tokens, _, followed, reads, _⟩ := each _ _ _ found
  rcases connective_ok linked with ⟨written, joined, _, _⟩ | ⟨rfl, _⟩
  · exact (joined.append followed).within (by simp) enough
  · exact followed.within reads.tokens_ne_nil enough

-- The loop keeps "all tokens since the start form a disjunction that means `left`";
-- that it stops only where an expression may end needs enough rounds.
theorem alternatives_finds {field : String} {clause : Parse σ Expr}
    (each : Finds field .chain room clause) (rounds : Nat) {start before after : Cursor σ}
    {tokens : List Token} {left tree : Expr} {levels : Nat}
    (passed : Passes start tokens before)
    (reads : Reads field .disjunction tokens left before.next levels) (less : levels < room)
    (enough : before.Within rounds)
    (run : alternatives clause rounds left before = .ok tree after) :
    Ends after.next ∧ ∃ tokens levels, Passes start tokens after ∧
      Reads field .disjunction tokens tree after.next levels ∧ levels < room := by
  induction rounds generalizing before tokens left levels with
  | zero =>
      obtain ⟨rfl, rfl⟩ := pure_ok run
      -- a token ahead would be one more than the rounds allow for
      have none_left : after.lookahead = none := by
        cases ahead : after.lookahead with
        | none => rfl
        | some token => exact absurd (enough (by simp [ahead])) (Nat.not_lt_zero _)
      exact ⟨.inl (Cursor.next_eq_none none_left), tokens, levels, passed, reads, less⟩
  | succ rounds ih =>
      by_cases ends : Ends before.next
      · rw [alternatives_stop ends] at run
        cases run
        exact ⟨ends, tokens, levels, passed, reads, less⟩
      · rw [alternatives_round ends] at run
        obtain ⟨operator, middle, linked, run⟩ := bind_ok run
        obtain ⟨right, last, found, run⟩ := bind_ok run
        have later := round_within each linked found enough
        obtain ⟨more, deeper, followed, second, less'⟩ := each _ _ _ found
        -- with the connective written its token is read too, else the clause begins at once
        rcases connective_ok linked with ⟨written, joined, kind, rfl⟩ | ⟨rfl, rfl⟩
        · rw [joined.next_eq, kind] at reads
          exact ih (passed.append (joined.append followed)) (.or reads kind second) (by omega)
            later run
        · have head : middle.next = firstKind more := by
            obtain ⟨token, rest, rfl⟩ := List.exists_cons_of_ne_nil second.tokens_ne_nil
            simpa using followed.next_eq
          rw [head] at reads
          exact ih (passed.append followed) (.adjacent reads second) (by omega) later run

theorem disjunction_finds {field : String} {clause : Parse σ Expr}
    (each : Finds field .chain room clause) {before after : Cursor σ} {tree : Expr}
    (run : disjunction clause before = .ok tree after) :
    Ends after.next ∧ ∃ tokens levels, Passes before tokens after ∧
      Reads field .disjunction tokens tree after.next levels ∧ levels < room := by
  unfold disjunction at run
  obtain ⟨left, middle, found, run⟩ := bind_ok run
  obtain ⟨tokens, levels, passed, reads, less⟩ := each _ _ _ found
  obtain ⟨rounds, _, counted, run⟩ := bind_ok run
  cases counted
  exact alternatives_finds each _ passed (.first reads) less middle.within_tokensLeft run

theorem groupOrDisjunction_finds (inside : Finds config.defaultField .expression room inner)
    (rest : Finds config.defaultField .chain room tail) :
    Finds config.defaultField .expression (room + 1) (groupOrDisjunction config inner tail) := by
  intro before after tree run
  unfold groupOrDisjunction at run
  rw [peekKind_bind] at run
  by_cases opens : before.next = some .groupOpen
  · simp only [opens, ↓reduceIte] at run
    obtain ⟨tokens, levels, passed, reads, less⟩ := group_finds inside _ _ _ run
    exact ⟨tokens, levels, passed, .ofGroup reads, less⟩
  · simp only [opens, ↓reduceIte] at run
    obtain ⟨ends, tokens, levels, passed, reads, less⟩ :=
      disjunction_finds (chain_finds inside rest) run
    have bare : firstKind tokens ≠ some .groupOpen := by
      obtain ⟨token, others, rfl⟩ := List.exists_cons_of_ne_nil reads.tokens_ne_nil
      rwa [passed.next_eq] at opens
    exact ⟨tokens, levels, passed, .ofDisjunction reads bare ends, less⟩

end Clauses

theorem expression_finds (config : Config) (room : Nat) :
    Finds config.defaultField .expression room (expression config room : Parse σ Expr) ∧
      Finds config.defaultField .chain room (conjunction config room : Parse σ Expr) := by
  induction room with
  | zero =>
      constructor <;> intro before after tree run
      · obtain ⟨offset, refused⟩ := tooDeep_run (α := Expr) config before
        rw [expression, refused] at run
        cases run
      · obtain ⟨offset, refused⟩ := tooDeep_run (α := Expr) config before
        rw [conjunction, refused] at run
        cases run
  | succ room ih =>
      constructor <;> intro before after tree run
      · rw [expression] at run
        exact groupOrDisjunction_finds ih.1 ih.2 _ _ _ run
      · rw [conjunction] at run
        exact chain_finds ih.1 ih.2 _ _ _ run

end SearchQuery.Parse
