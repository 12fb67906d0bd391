import SearchQuery.Proofs.Association
import SearchQuery.Proofs.Scope

/-!
Parentheses are compositional. A query means the same tree in them, alone or behind a
NOT or a field name, and of a group in the midst of other tokens nothing but its tree
is seen outside. So parentheses around a group that has some already change nothing.
-/

namespace SearchQuery

structure Parentheses where
  opening : Token
  closing : Token
  opens : opening.kind = .groupOpen
  closes : closing.kind = .groupClose

namespace Parentheses

def around (parens : Parentheses) (tokens : List Token) : List Token :=
  parens.opening :: (tokens ++ [parens.closing])

theorem around_append (parens : Parentheses) (tokens post : List Token) :
    parens.around tokens ++ post = parens.opening :: (tokens ++ parens.closing :: post) := by
  simp [around]

end Parentheses

section Groups

variable {field : String} {tokens others pre post : List Token} {tree : Expr} {limit : Nat}
  {left right : List SpannedToken} (parens : Parentheses)

theorem Accepts.reads_around (accepted : Accepts field tokens tree) :
    ∃ levels, Reads field .group (parens.around tokens) tree none levels :=
  accepted.group parens.opens parens.closes

theorem Accepts.around (accepted : Accepts field tokens tree) :
    Accepts field (parens.around tokens) tree := by
  obtain ⟨levels, group⟩ := accepted.reads_around parens
  let spanned : List SpannedToken := (parens.around tokens).map (⟨·, 0, 0⟩)
  have same : spanned.map (·.token) = parens.around tokens := by
    simp [spanned, Function.comp_def]
  exact ⟨spanned.length, spanned, same, (Reads.ofGroup group).answers same (Nat.le_refl _)⟩

/-- Tokens that mean the same may take each other's place between parentheses. -/
theorem Accepts.exchange {query : Query} (one : Accepts field tokens tree)
    (other : Accepts field others tree)
    (here : left.map (·.token) = pre ++ (parens.around tokens ++ post))
    (there : right.map (·.token) = pre ++ (parens.around others ++ post))
    (room : right.length ≤ limit) (answer : parseTokens ⟨field, limit⟩ left = .ok query) :
    parseTokens ⟨field, limit⟩ right = .ok query := by
  have scope : parens.opening.kind ∈ scopeKinds := by simp [scopeKinds, parens.opens]
  have ends : Ends (firstKind (parens.closing :: post)) := .inr (congrArg some parens.closes)
  obtain ⟨levels, reads, -⟩ := parseTokens_ok_iff.mp answer
  obtain ⟨depth, first⟩ := one.reads
  obtain ⟨deeper, second⟩ := other.reads
  rw [here, parens.around_append] at reads
  rw [parens.around_append] at there
  obtain ⟨total, -, exchanged⟩ :=
    reads.exchange scope (first.before_end ends) (second.before_end ends)
  exact exchanged.answers there room

theorem Accepts.exchange_iff (one : Accepts field tokens tree) (other : Accepts field others tree)
    (here : left.map (·.token) = pre ++ (parens.around tokens ++ post))
    (there : right.map (·.token) = pre ++ (parens.around others ++ post))
    (room : left.length ≤ limit) (enough : right.length ≤ limit) (query : Query) :
    parseTokens ⟨field, limit⟩ left = .ok query ↔
      parseTokens ⟨field, limit⟩ right = .ok query := by
  constructor
  · exact one.exchange parens other here there enough
  · exact other.exchange parens one there here room

end Groups

/-- What tokens that mean a tree do in parentheses, whatever the spans are and wherever the
limit of levels is not less than the number of tokens. -/
structure Composes (field : String) (parens : Parentheses) (tokens : List Token) (tree : Expr) :
    Prop where
  alone (limit : Nat) (spanned : List SpannedToken)
    (same : spanned.map (·.token) = parens.around tokens) (room : spanned.length ≤ limit) :
    parseTokens ⟨field, limit⟩ spanned = .ok ⟨tree⟩
  named (limit : Nat) (spanned : List SpannedToken) (name colon : Token)
    (names : name.kind = .identifier) (separates : colon.kind = .fieldSeparator)
    (same : spanned.map (·.token) = name :: colon :: parens.around tokens)
    (room : spanned.length ≤ limit) :
    parseTokens ⟨field, limit⟩ spanned = .ok ⟨.group name.text tree⟩
  negated (limit : Nat) (spanned : List SpannedToken) (negation : Token)
    (negates : negation.kind = .logicalNot)
    (same : spanned.map (·.token) = negation :: parens.around tokens)
    (room : spanned.length ≤ limit) :
    parseTokens ⟨field, limit⟩ spanned = .ok ⟨.not (.of negation.text) tree⟩
  exchanged (others pre post : List Token) (same : Accepts field others tree) (limit : Nat)
    (left right : List SpannedToken)
    (here : left.map (·.token) = pre ++ (parens.around tokens ++ post))
    (there : right.map (·.token) = pre ++ (parens.around others ++ post))
    (room : left.length ≤ limit) (enough : right.length ≤ limit) (query : Query) :
    parseTokens ⟨field, limit⟩ left = .ok query ↔ parseTokens ⟨field, limit⟩ right = .ok query
  doubled (more : Parentheses) (pre post : List Token) (limit : Nat)
    (left right : List SpannedToken)
    (here : left.map (·.token) = pre ++ (parens.around tokens ++ post))
    (there : right.map (·.token) = pre ++ (parens.around (more.around tokens) ++ post))
    (room : left.length ≤ limit) (enough : right.length ≤ limit) (query : Query) :
    parseTokens ⟨field, limit⟩ left = .ok query ↔ parseTokens ⟨field, limit⟩ right = .ok query

/-- Between parentheses a query keeps its meaning, and it is all that counts of it. -/
theorem composes_of_accepts {field : String} {tokens : List Token} {tree : Expr}
    (parens : Parentheses) (accepted : Accepts field tokens tree) :
    Composes field parens tokens tree := by
  obtain ⟨levels, group⟩ := accepted.reads_around parens
  constructor
  case alone =>
    intro limit spanned same room
    exact (Reads.ofGroup group).answers same room
  case named =>
    intro limit spanned name colon names separates same room
    have reads := (Reads.fieldGroup names separates group).alone (by simp [names])
    exact reads.answers same room
  case negated =>
    intro limit spanned negation negates same room
    have reads := (Reads.not negates (.ofGroup group)).alone (by simp [negates])
    exact reads.answers same room
  case exchanged =>
    intro others pre post other limit left right here there room enough
    exact accepted.exchange_iff parens other here there room enough
  case doubled =>
    intro more pre post limit left right here there room enough
    exact accepted.exchange_iff parens (accepted.around more) here there room enough

namespace Spaced

def parens : Parentheses := ⟨⟨.groupOpen, "("⟩, ⟨.groupClose, ")"⟩, rfl, rfl⟩

def tokens : List Token :=
  [⟨.identifier, "a"⟩, ⟨.groupOpen, "("⟩, ⟨.identifier, "b"⟩, ⟨.groupClose, ")"⟩]

def others : List Token := [⟨.identifier, "a"⟩, ⟨.identifier, "b"⟩]

def tree : Expr := .binary .implicitOr (.term "*" "a") (.term "*" "b")

def wide : List SpannedToken := (Tokenizer.ofString "x && (a (b)) AND f:c d").drain.1

def narrow : List SpannedToken := (Tokenizer.ofString "x && (a b) AND f:c d").drain.1

end Spaced

theorem composes_spaced :
    Accepts "*" Spaced.tokens Spaced.tree ∧
      Composes "*" Spaced.parens Spaced.tokens Spaced.tree ∧
      parseTokens ⟨"*", 13⟩ Spaced.wide = .ok ⟨.binary .implicitOr
        (.binary (.and .symbol) (.term "*" "x")
          (.binary (.and .word) Spaced.tree (.term "f" "c")))
        (.term "*" "d")⟩ := by
  have accepted : Accepts "*" Spaced.tokens Spaced.tree :=
    ⟨1, Spaced.tokens.map (⟨·, 0, 0⟩), rfl, by cbv⟩
  have other : Accepts "*" Spaced.others Spaced.tree :=
    ⟨0, Spaced.others.map (⟨·, 0, 0⟩), rfl, by cbv⟩
  have composes := composes_of_accepts Spaced.parens accepted
  refine ⟨accepted, composes, ?_⟩
  apply (composes.exchanged Spaced.others [⟨.identifier, "x"⟩, ⟨.logicalAnd, "&&"⟩]
    [⟨.logicalAnd, "AND"⟩, ⟨.identifier, "f"⟩, ⟨.fieldSeparator, ":"⟩, ⟨.identifier, "c"⟩,
      ⟨.identifier, "d"⟩] other 13 Spaced.wide Spaced.narrow ?_ ?_ ?_ ?_ _).mpr
  all_goals cbv

end SearchQuery
