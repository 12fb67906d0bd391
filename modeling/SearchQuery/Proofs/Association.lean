import Mathlib
import SearchQuery.Proofs.Feed

/-!
Which tree a row of operands and operators means. AND folds its operands to the right,
OR folds the chains of AND to the left, whether it is written or not. An operand means
the same tree wherever it stands in the row.
-/

namespace SearchQuery

def Accepts (field : String) (tokens : List Token) (tree : Expr) : Prop :=
  ∃ limit spanned, spanned.map SpannedToken.token = tokens ∧
    parseTokens ⟨field, limit⟩ spanned = .ok ⟨tree⟩

/-- What can be joined by operators. A NOT and the name of a field hold whole queries
only in parentheses. -/
inductive MeansOperand (field : String) : List Token → Expr → Prop where
  | term {value : Token} (kind : value.kind = .identifier) :
      MeansOperand field [value] (.term field value.text)
  | phrase {value : Token} (kind : value.kind = .quotedString) :
      MeansOperand field [value] (.phrase field (unquote value.text))
  | value {name colon : Token} {tokens : List Token} {tree : Expr}
      (names : name.kind = .identifier) (separates : colon.kind = .fieldSeparator)
      (found : ReadsValue name.text tokens tree none) :
      MeansOperand field (name :: colon :: tokens) tree
  | fieldGroup {name colon opening closing : Token} {tokens : List Token} {tree : Expr}
      (names : name.kind = .identifier) (separates : colon.kind = .fieldSeparator)
      (opens : opening.kind = .groupOpen) (inside : Accepts field tokens tree)
      (closes : closing.kind = .groupClose) :
      MeansOperand field (name :: colon :: opening :: (tokens ++ [closing])) (.group name.text tree)
  | negation {operator opening closing : Token} {tokens : List Token} {tree : Expr}
      (written : operator.kind = .logicalNot) (opens : opening.kind = .groupOpen)
      (inside : Accepts field tokens tree) (closes : closing.kind = .groupClose) :
      MeansOperand field (operator :: opening :: (tokens ++ [closing]))
        (.not (.of operator.text) tree)
  | paren {opening closing : Token} {tokens : List Token} {tree : Expr}
      (opens : opening.kind = .groupOpen) (inside : Accepts field tokens tree)
      (closes : closing.kind = .groupClose) :
      MeansOperand field (opening :: (tokens ++ [closing])) tree

structure Operand (field : String) where
  tokens : List Token
  tree : Expr
  means : MeansOperand field tokens tree

structure Operator (kind : TokenKind) where
  token : Token
  written : token.kind = kind

def Operator.spelling {kind : TokenKind} (operator : Operator kind) : Spelling :=
  .of operator.token.text

structure Chain (field : String) where
  front : List (Operand field × Operator .logicalAnd)
  last : Operand field

namespace Chain

variable {field : String} (chain : Chain field)

def tokens : List Token :=
  chain.front.flatMap (fun (operand, operator) => operand.tokens ++ [operator.token]) ++
    chain.last.tokens

def tree : Expr :=
  chain.front.foldr
    (fun (operand, operator) right => .binary (.and operator.spelling) operand.tree right)
    chain.last.tree

variable (operand : Operand field) (operator : Operator .logicalAnd)
  (front : List (Operand field × Operator .logicalAnd)) (last : Operand field)

theorem tokens_cons : tokens ⟨(operand, operator) :: front, last⟩ =
    operand.tokens ++ operator.token :: tokens ⟨front, last⟩ := by
  simp [tokens]

theorem tree_cons : tree ⟨(operand, operator) :: front, last⟩ =
    .binary (.and operator.spelling) operand.tree (tree ⟨front, last⟩) := rfl

end Chain

abbrev Junction := Option (Operator .logicalOr)

namespace Junction

def tokens : Junction → List Token
  | none => []
  | some operator => [operator.token]

def connective : Junction → Connective
  | none => .or .word true
  | some operator => .or operator.spelling false

end Junction

/-- Chains joined by OR. One that began with a parenthesis would end with it. -/
structure Row (field : String) where
  first : Chain field
  rest : List (Junction × Chain field)
  bare : firstKind first.tokens ≠ some .groupOpen

namespace Row

variable {field : String} (row : Row field)

def restTokens (rest : List (Junction × Chain field)) : List Token :=
  rest.flatMap fun (junction, chain) => junction.tokens ++ chain.tokens

def tokens : List Token := row.first.tokens ++ restTokens row.rest

def restTree (left : Expr) (rest : List (Junction × Chain field)) : Expr :=
  rest.foldl (fun left (junction, chain) => .binary junction.connective left chain.tree) left

def tree : Expr := restTree row.first.tree row.rest

end Row

/-! An operand is read as its tree -/

section Reading

variable {field : String} {clause : Clause} {tokens : List Token} {tree : Expr}
  {next : Option TokenKind} {levels : Nat}

theorem Accepts.reads (accepted : Accepts field tokens tree) :
    ∃ levels, Reads field .expression tokens tree none levels := by
  obtain ⟨limit, spanned, rfl, answer⟩ := accepted
  obtain ⟨levels, reads, -⟩ := parseTokens_ok_iff.mp answer
  exact ⟨levels, reads⟩

theorem Accepts.group {opening closing : Token} (accepted : Accepts field tokens tree)
    (opens : opening.kind = .groupOpen) (closes : closing.kind = .groupClose) :
    ∃ levels, Reads field .group (opening :: (tokens ++ [closing])) tree next levels := by
  obtain ⟨levels, reads⟩ := accepted.reads
  exact ⟨levels + 1, .group opens (reads.before_end (.inr rfl)) closes⟩

theorem MeansOperand.reads (means : MeansOperand field tokens tree)
    (unnamed : next ≠ some .fieldSeparator) :
    ∃ levels, Reads field .factor tokens tree next levels := by
  cases means with
  | term kind => exact ⟨0, .word kind unnamed⟩
  | phrase kind => exact ⟨0, .phrase kind⟩
  | value names separates found => exact ⟨0, .value names separates (found.before unnamed)⟩
  | fieldGroup names separates opens inside closes =>
      obtain ⟨levels, group⟩ := inside.group opens closes
      exact ⟨levels, .fieldGroup names separates group⟩
  | negation written opens inside closes =>
      obtain ⟨levels, group⟩ := inside.group opens closes
      exact ⟨levels + 1, .not written (.ofGroup group)⟩
  | paren opens inside closes =>
      obtain ⟨levels, group⟩ := inside.group opens closes
      exact ⟨levels, .paren group⟩

end Reading

/-! The two folds -/

section Folds

variable {field : String} {next : Option TokenKind}

theorem Chain.reads (chain : Chain field) (unchained : next ≠ some .logicalAnd)
    (unnamed : next ≠ some .fieldSeparator) :
    ∃ levels, Reads field .chain chain.tokens chain.tree next levels := by
  obtain ⟨front, last⟩ := chain
  induction front with
  | nil =>
      obtain ⟨levels, only⟩ := last.means.reads unnamed
      exact ⟨levels, .last only unchained⟩
  | cons pair front ih =>
      obtain ⟨operand, operator⟩ := pair
      obtain ⟨deeper, right⟩ := ih
      have before : some TokenKind.logicalAnd ≠ some .fieldSeparator := nofun
      obtain ⟨levels, left⟩ := operand.means.reads before
      rw [tokens_cons, tree_cons]
      exact ⟨_, .and left operator.written right⟩

theorem Chain.begins (chain : Chain field) : Reads.Begins (firstKind chain.tokens) := by
  obtain ⟨_, reads⟩ : ∃ levels, Reads field .chain chain.tokens chain.tree none levels :=
    chain.reads nofun nofun
  exact reads.begins

theorem Chain.tokens_ne_nil (chain : Chain field) : chain.tokens ≠ [] := by
  intro empty
  simpa [empty, Reads.Begins] using chain.begins

def kindAfter (rest : List (Junction × Chain field)) (next : Option TokenKind) : Option TokenKind :=
  (firstKind (Row.restTokens rest)).or next

theorem kindAfter_cons (junction : Junction) (chain : Chain field)
    (rest : List (Junction × Chain field)) :
    kindAfter ((junction, chain) :: rest) next = firstKind (junction.tokens ++ chain.tokens) := by
  have some_token : junction.tokens ++ chain.tokens ≠ [] := by
    simp [chain.tokens_ne_nil]
  obtain ⟨token, tokens, same⟩ := List.exists_cons_of_ne_nil some_token
  simp [kindAfter, Row.restTokens, same]

theorem kindAfter_separate (rest : List (Junction × Chain field)) (ends : Ends next) :
    kindAfter rest next ≠ some .logicalAnd ∧ kindAfter rest next ≠ some .fieldSeparator := by
  cases rest with
  | nil => exact ends.separate
  | cons pair rest =>
      obtain ⟨junction, chain⟩ := pair
      rw [kindAfter_cons]
      cases junction with
      | none => exact chain.begins.separate
      | some operator =>
          rw [Junction.tokens, List.singleton_append, firstKind_cons, operator.written]
          exact ⟨nofun, nofun⟩

-- What has been read so far is the left side of the next OR.
theorem Row.rest_reads (rest : List (Junction × Chain field)) {before : List Token} {left : Expr}
    {levels : Nat} (first : Reads field .disjunction before left (kindAfter rest next) levels)
    (ends : Ends next) :
    ∃ levels, Reads field .disjunction (before ++ restTokens rest) (restTree left rest) next
      levels := by
  induction rest generalizing before left levels with
  | nil => exact ⟨levels, by simpa [restTokens, restTree, kindAfter] using first⟩
  | cons pair rest ih =>
      obtain ⟨junction, chain⟩ := pair
      rw [kindAfter_cons] at first
      obtain ⟨unchained, unnamed⟩ := kindAfter_separate rest ends
      obtain ⟨deeper, second⟩ := chain.reads unchained unnamed
      have joined : ∃ levels, Reads field .disjunction (before ++ (junction.tokens ++ chain.tokens))
          (.binary junction.connective left chain.tree) (kindAfter rest next) levels := by
        cases junction with
        | none => exact ⟨_, .adjacent first second⟩
        | some operator =>
            rw [Junction.tokens, List.singleton_append, firstKind_cons, operator.written] at first
            exact ⟨_, .or first operator.written second⟩
      obtain ⟨levels, joined⟩ := joined
      simpa [restTokens, restTree] using ih joined

end Folds

/-- AND binds tighter than OR and associates to the right, OR associates to the left, and
the ORs that are not written are the implicit ones. -/
theorem parseTokens_row {field : String} {limit : Nat} {tokens : List SpannedToken}
    (row : Row field) (same : tokens.map (·.token) = row.tokens) (room : tokens.length ≤ limit) :
    parseTokens ⟨field, limit⟩ tokens = .ok ⟨row.tree⟩ := by
  have ends : Ends none := .inl rfl
  obtain ⟨unchained, unnamed⟩ := kindAfter_separate row.rest ends
  obtain ⟨_, first⟩ := row.first.reads unchained unnamed
  obtain ⟨levels, whole⟩ := Row.rest_reads row.rest (.first first) ends
  have bare : firstKind row.tokens ≠ some .groupOpen := by
    rw [Row.tokens, firstKind_append_of_ne_nil row.first.tokens_ne_nil]
    exact row.bare
  have reads : Reads field .expression row.tokens row.tree none levels :=
    .ofDisjunction whole bare ends
  rw [← same] at reads
  have bound := reads.levels_le
  rw [List.length_map] at bound
  exact parseTokens_ok_iff.mpr ⟨levels, reads, Nat.le_trans bound room⟩

namespace Mixed

def negated : Operand "*" :=
  have inside : Accepts "*" [⟨.identifier, "a"⟩] (.term "*" "a") :=
    ⟨0, [⟨⟨.identifier, "a"⟩, 0, 1⟩], rfl, by cbv⟩
  ⟨[⟨.logicalNot, "!"⟩, ⟨.groupOpen, "("⟩, ⟨.identifier, "a"⟩, ⟨.groupClose, ")"⟩],
    _, .negation rfl rfl inside rfl⟩

def compared : Operand "*" :=
  ⟨[⟨.identifier, "f"⟩, ⟨.fieldSeparator, ":"⟩, ⟨.relationalOperator, ">="⟩, ⟨.identifier, "1"⟩],
    .comparison "f" ⟨.term "1", .ge⟩, .value rfl rfl (.comparison rfl rfl rfl nofun)⟩

def parenthesised : Operand "*" :=
  have inside : Accepts "*" [⟨.identifier, "d"⟩, ⟨.identifier, "e"⟩]
      (.binary .implicitOr (.term "*" "d") (.term "*" "e")) :=
    ⟨0, [⟨⟨.identifier, "d"⟩, 0, 1⟩, ⟨⟨.identifier, "e"⟩, 2, 3⟩], rfl, by cbv⟩
  ⟨[⟨.groupOpen, "("⟩, ⟨.identifier, "d"⟩, ⟨.identifier, "e"⟩, ⟨.groupClose, ")"⟩],
    _, .paren rfl inside rfl⟩

def fielded : Operand "*" :=
  have inside : Accepts "*" [⟨.identifier, "h"⟩] (.term "*" "h") :=
    ⟨0, [⟨⟨.identifier, "h"⟩, 0, 1⟩], rfl, by cbv⟩
  ⟨[⟨.identifier, "g"⟩, ⟨.fieldSeparator, ":"⟩, ⟨.groupOpen, "("⟩, ⟨.identifier, "h"⟩,
    ⟨.groupClose, ")"⟩], _, .fieldGroup rfl rfl rfl inside rfl⟩

def row : Row "*" where
  first := ⟨[(negated, ⟨⟨.logicalAnd, "&&"⟩, rfl⟩)], compared⟩
  rest :=
    [(none, ⟨[], ⟨[⟨.quotedString, "'b c'"⟩], _, .phrase rfl⟩⟩),
     (some ⟨⟨.logicalOr, "||"⟩, rfl⟩, ⟨[(parenthesised, ⟨⟨.logicalAnd, "AND"⟩, rfl⟩)], fielded⟩)]
  bare := by decide

def tokens : List SpannedToken :=
  (Tokenizer.ofString "!(a) && f:>=1 'b c' || (d e) AND g:(h)").drain.1

end Mixed

theorem parseTokens_mixedRow :
    Mixed.tokens.map (·.token) = Mixed.row.tokens ∧ Mixed.tokens.length ≤ 21 ∧
      parseTokens ⟨"*", 21⟩ Mixed.tokens =
        .ok ⟨.binary (.or .symbol false)
          (.binary (.or .word true)
            (.binary (.and .symbol) (.not .symbol (.term "*" "a"))
              (.comparison "f" ⟨.term "1", .ge⟩))
            (.phrase "*" "b c"))
          (.binary (.and .word) (.binary (.or .word true) (.term "*" "d") (.term "*" "e"))
            (.group "g" (.term "*" "h")))⟩ := by
  have same : Mixed.tokens.map (·.token) = Mixed.row.tokens := by cbv
  have room : Mixed.tokens.length ≤ 21 := by cbv
  exact ⟨same, room, parseTokens_row Mixed.row same room⟩

end SearchQuery
