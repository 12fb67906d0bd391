import SearchQuery.Proofs.Completeness

/-!
Every clause that is read takes a token. Until one is taken only clauses further down in the
grammar are called, and each round of the loop reads one more clause, so on finitely many tokens
the recursion and the loop come to their end.
-/

namespace SearchQuery.Parse

open Cursor (Passes)

variable {σ α : Type} [TokenFeed σ]

def Advances (step : Parse σ α) : Prop :=
  ∀ before after result, step before = .ok result after →
    ∃ token tokens, Passes before (token :: tokens) after

/-- What is so of every clause of the grammar, with this room for what is nested in it. -/
structure Clauses (holds : {α : Type} → Parse σ α → Prop) (config : Config) (room : Nat) :
    Prop where
  expression : holds (expression config room : Parse σ Expr)
  group : holds (group config (Parse.expression config room) : Parse σ Expr)
  disjunction : holds (disjunction (conjunction config room) : Parse σ Expr)
  conjunction : holds (conjunction config room : Parse σ Expr)
  factor : holds (factor config (Parse.expression config room) : Parse σ Expr)
  negation : holds (negation config (Parse.expression config room) : Parse σ Expr)
  term : holds (term config (Parse.expression config room) : Parse σ Expr)
  value : ∀ field, holds (value config (Parse.expression config room) field : Parse σ Expr)
  phrase : ∀ field, holds (phrase field : Parse σ Expr)
  range : ∀ field, holds (range field : Parse σ Expr)
  comparison : ∀ field, holds (comparison field : Parse σ Expr)
  bound : holds (bound : Parse σ Atom)

theorem Clauses.imp {holds follows : {α : Type} → Parse σ α → Prop} {config : Config} {room : Nat}
    (weaker : ∀ {α : Type} {step : Parse σ α}, holds step → follows step)
    (clauses : Clauses holds config room) : Clauses follows config room where
  expression := weaker clauses.expression
  group := weaker clauses.group
  disjunction := weaker clauses.disjunction
  conjunction := weaker clauses.conjunction
  factor := weaker clauses.factor
  negation := weaker clauses.negation
  term := weaker clauses.term
  value field := weaker (clauses.value field)
  phrase field := weaker (clauses.phrase field)
  range field := weaker (clauses.range field)
  comparison field := weaker (clauses.comparison field)
  bound := weaker clauses.bound

theorem Finds.advances {field : String} {clause : Clause} {room : Nat} {step : Parse σ Expr}
    (finds : Finds field clause room step) : Advances step := by
  intro before after tree run
  obtain ⟨tokens, levels, passed, reads, _⟩ := finds before after tree run
  obtain ⟨token, rest, rfl⟩ := List.exists_cons_of_ne_nil reads.tokens_ne_nil
  exact ⟨token, rest, passed⟩

/-- A name and a colon are read as a factor only if a value follows them. -/
theorem value_ne_nil {field : String} {name colon : Token} {tokens : List Token} {tree : Expr}
    {next : Option TokenKind} {levels : Nat} (names : name.kind = .identifier)
    (reads : Reads field .factor (name :: colon :: tokens) tree next levels) : tokens ≠ [] := by
  rintro rfl
  cases reads with
  | not written => cases names.symm.trans written
  | paren whole =>
      have opens := group_opens whole
      simp [names] at opens
  | value _ _ found => cases found
  | fieldGroup _ _ body => exact body.tokens_ne_nil rfl

theorem phrase_advances (field : String) : Advances (phrase field : Parse σ Expr) := by
  intro before after tree run
  obtain ⟨value, passed, _, _⟩ := phrase_ok run
  exact ⟨value, [], passed⟩

theorem range_advances (field : String) : Advances (range field : Parse σ Expr) := by
  intro before after tree run
  obtain ⟨tokens, passed, reads⟩ := range_ok run
  cases reads <;> exact ⟨_, _, passed⟩

theorem comparison_advances (field : String) : Advances (comparison field : Parse σ Expr) := by
  intro before after tree run
  obtain ⟨tokens, passed, reads⟩ := comparison_ok run
  cases reads <;> exact ⟨_, _, passed⟩

theorem bound_advances : Advances (bound : Parse σ Atom) := by
  intro before after atom run
  obtain ⟨token, passed, _, _⟩ := bound_ok run
  exact ⟨token, [], passed⟩

theorem value_advances {config : Config} {inner : Parse σ Expr} {room : Nat}
    (inside : Finds config.defaultField .expression room inner) (field : String) :
    Advances (value config inner field) := by
  intro before after tree run
  have names : (⟨.identifier, field⟩ : Token).kind = .identifier := rfl
  have separates : (⟨.fieldSeparator, ":"⟩ : Token).kind = .fieldSeparator := rfl
  obtain ⟨tokens, levels, passed, reads, _⟩ := value_finds inside names rfl separates run
  obtain ⟨token, rest, rfl⟩ := List.exists_cons_of_ne_nil (value_ne_nil names reads)
  exact ⟨token, rest, passed⟩

theorem disjunction_advances {field : String} {clause : Parse σ Expr} {room : Nat}
    (each : Finds field .chain room clause) : Advances (disjunction clause) := by
  have finds : Finds field .disjunction room (disjunction clause) :=
    fun before after tree run => (disjunction_finds each run).2
  exact finds.advances

theorem clauses_advance (config : Config) (room : Nat) :
    Clauses (σ := σ) Advances config room where
  expression := (expression_finds config room).1.advances
  group := (group_finds (expression_finds config room).1).advances
  disjunction := disjunction_advances (expression_finds config room).2
  conjunction := (expression_finds config room).2.advances
  factor := (factor_finds (expression_finds config room).1).advances
  negation := (negation_finds (expression_finds config room).1).advances
  term := (term_finds (expression_finds config room).1).advances
  value := value_advances (expression_finds config room).1
  phrase := phrase_advances
  range := range_advances
  comparison := comparison_advances
  bound := bound_advances

end SearchQuery.Parse
