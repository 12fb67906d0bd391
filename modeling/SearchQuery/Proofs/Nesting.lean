import Mathlib
import SearchQuery.Proofs.Lexing

/-!
How deeply the trees that are accepted nest. A tree is never deeper than the levels
that reading it opens, so the limit bounds its depth, and there is a text for every
limit whose tree reaches it.
-/

namespace SearchQuery

/-- How many negations, groups of a field and right sides of AND are around some part of the
tree. An OR puts its sides no deeper than it stands. -/
def Expr.nesting : Expr → Nat
  | .not _ operand => 1 + operand.nesting
  | .group _ body => 1 + body.nesting
  | .binary (.and _) left right => max left.nesting (1 + right.nesting)
  | .binary (.or _ _) left right => max left.nesting right.nesting
  | .term .. | .phrase .. | .regex .. | .range .. | .comparison .. => 0

/-! The levels of a reading -/

section Reading

variable {field : String} {clause : Clause} {tokens : List Token} {tree : Expr}
  {next : Option TokenKind} {levels : Nat}

theorem ReadsValue.nesting_eq (reads : ReadsValue field tokens tree next) : tree.nesting = 0 := by
  cases reads <;> rfl

-- By induction on the reading. A group opens a level that its tree need not show, and
-- this is the level that pays for the group of a field.
theorem Reads.nesting_le (reads : Reads field clause tokens tree next levels) :
    tree.nesting ≤ levels ∧ (clause = .group → tree.nesting < levels) := by
  induction reads with
  | group _ _ _ ih => exact ⟨Nat.le_succ_of_le ih.1, fun _ => Nat.lt_succ_of_le ih.1⟩
  | ofGroup _ ih | ofDisjunction _ _ _ ih | first _ ih | last _ _ ih | paren _ ih =>
      exact ⟨ih.1, nofun⟩
  | or _ _ _ ihLeft ihRight | adjacent _ _ ihLeft ihRight =>
      constructor
      · have left := ihLeft.1
        have right := ihRight.1
        simp only [Connective.explicitOr, Connective.implicitOr, Expr.nesting]
        omega
      · exact nofun
  | and _ _ _ ihLeft ihRight =>
      constructor
      · have left := ihLeft.1
        have right := ihRight.1
        simp only [Expr.nesting]
        omega
      · exact nofun
  | not _ _ ih =>
      constructor
      · rw [Expr.nesting, Nat.add_comm]
        exact Nat.succ_le_succ ih.1
      · exact nofun
  | word | phrase => exact ⟨Nat.le_refl 0, nofun⟩
  | value _ _ found => exact ⟨Nat.le_of_eq found.nesting_eq, nofun⟩
  | fieldGroup _ _ _ ih =>
      constructor
      · rw [Expr.nesting, Nat.add_comm]
        exact ih.2 rfl
      · exact nofun

end Reading

/-! A text for every limit -/

section Negations

def negationTokens : Nat → List Token
  | 0 => [⟨.identifier, "a"⟩]
  | count + 1 => ⟨.logicalNot, "!"⟩ :: negationTokens count

def negations (field : String) : Nat → Expr
  | 0 => .term field "a"
  | count + 1 => .not .symbol (negations field count)

theorem nesting_negations (field : String) (count : Nat) :
    (negations field count).nesting = count := by
  induction count with
  | zero => rfl
  | succ count ih => rw [negations, Expr.nesting, ih, Nat.add_comm]

theorem reads_negations (field : String) (count : Nat) :
    Reads field .expression (negationTokens count) (negations field count) none count := by
  induction count with
  | zero =>
      have word : Reads field .factor [⟨.identifier, "a"⟩] (.term field "a") none 0 :=
        .word rfl (Ends.separate (.inl rfl)).2
      exact word.alone (by simp)
  | succ count ih =>
      have sign : Reads field .factor (⟨.logicalNot, "!"⟩ :: negationTokens count)
          (.not (.of "!") (negations field count)) none (count + 1) := .not rfl ih
      exact sign.alone (by simp)

theorem lexes_negations (count : Nat) :
    Lexes (List.replicate count '!' ++ ['a']) (negationTokens count) := by
  have blank : ∀ c ∈ ([] : List Char), Text.isBlank c = true := nofun
  induction count with
  | zero =>
      have word : Lexeme .identifier ['a'] := by
        refine ⟨nofun, List.all_eq_true.mp (by decide), by decide, ?_⟩
        rintro _ _ ⟨⟩
        decide
      exact Lexes.token blank word ⟨nofun, nofun, nofun⟩ (.done blank)
  | succ count ih =>
      have sign : Lexeme .logicalNot ['!'] := .inr rfl
      exact Lexes.token blank sign (apart_symbol nofun (by decide) (by decide)) ih

end Negations

/-- No accepted tree is nested deeper than the limit, which some tree reaches. -/
theorem nesting_le_maxDepth (config : Config) :
    (∀ {σ : Type} [TokenFeed σ] (feed : σ) (query : Query),
      parseFeed config feed = .ok query → query.body.nesting ≤ config.maxDepth) ∧
    ∃ text query, parseWith config text = .ok query ∧ query.body.nesting = config.maxDepth := by
  constructor
  · intro σ _ feed query accepted
    obtain ⟨tokens, levels, -, reads, enough⟩ := parseFeed_ok accepted
    exact Nat.le_trans reads.nesting_le.1 enough
  · let text := String.ofList (List.replicate config.maxDepth '!' ++ ['a'])
    have lexes : Lexes text.toList (negationTokens config.maxDepth) := by
      rw [String.toList_ofList]
      exact lexes_negations config.maxDepth
    have reads := reads_negations config.defaultField config.maxDepth
    exact ⟨text, _, parseWith_of_reads lexes reads (Nat.le_refl _), nesting_negations ..⟩

def conjoinedDeeply : Query :=
  ⟨.binary (.and .word) (.term "*" "a") (.binary (.and .word) (.term "*" "b")
    (.not .word (.group "f" (.term "*" "c"))))⟩

theorem nesting_le_maxDepth_conjoined :
    parseFeed ⟨"*", 4⟩ (Tokenizer.ofString "a AND b AND NOT f:(c)") = .ok conjoinedDeeply ∧
      conjoinedDeeply.body.nesting ≤ 4 := by
  have accepted :
      parseFeed ⟨"*", 4⟩ (Tokenizer.ofString "a AND b AND NOT f:(c)") = .ok conjoinedDeeply := by
    cbv
  exact ⟨accepted, (nesting_le_maxDepth ⟨"*", 4⟩).1 _ _ accepted⟩

end SearchQuery
