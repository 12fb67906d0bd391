import SearchQuery.Expect.Exact

/-!
Where two trees differ. Their nodes are compared in preorder, each for what it is apart from its
children, and the exact expectation of one tree fails on the other at the first node that is not
the same, with a message that begins with the path of this node.
-/

namespace SearchQuery

open Expect

inductive Head where
  | binary (operator : Connective)
  | not (spelling : Spelling)
  | term (field value : String)
  | phrase (field value : String)
  | regex (field value : String)
  | group (field : String)
  | range (field : String)
  | comparison (field : String)
  | bound (b : Bound)
  deriving DecidableEq, Repr

def Node.head : Node → Head
  | .expr (.binary operator _ _) => .binary operator
  | .expr (.not spelling _) => .not spelling
  | .expr (.term field value) => .term field value
  | .expr (.phrase field value) => .phrase field value
  | .expr (.regex field value) => .regex field value
  | .expr (.group field _) => .group field
  | .expr (.range field _ _) => .range field
  | .expr (.comparison field _) => .comparison field
  | .bound b => .bound b

/-- The nodes agree, one by one, up to those at this path. -/
inductive FirstDifference (path : String) : List Located → List Located → Prop where
  | here {first second : Node} {left right : List Located} (other : first.head ≠ second.head) :
      FirstDifference path (⟨path, first⟩ :: left) (⟨path, second⟩ :: right)
  | later {first second : Located} {left right : List Located} (place : first.path = second.path)
      (alike : first.node.head = second.node.head) (rest : FirstDifference path left right) :
      FirstDifference path (first :: left) (second :: right)

namespace FirstDifference

variable {path : String} {left right : List Located}

theorem irrefl (nodes : List Located) : ¬ FirstDifference path nodes nodes := by
  intro differs
  induction nodes with
  | nil => cases differs
  | cons first rest ih =>
      cases differs with
      | here other => exact other rfl
      | later _ _ differs => exact ih differs

theorem before (differs : FirstDifference path left right) (more others : List Located) :
    FirstDifference path (left ++ more) (right ++ others) := by
  induction differs with
  | here other => exact .here other
  | later place alike _ ih => exact .later place alike ih

theorem behind (shared : List Located) (differs : FirstDifference path left right) :
    FirstDifference path (shared ++ left) (shared ++ right) := by
  induction shared with
  | nil => exact differs
  | cons first rest ih => exact .later rfl rfl ih

end FirstDifference

/-! Failures and their paths -/

namespace Failure

/-- The path to the node at fault; the printed form belongs to no node. -/
def path? : Failure → Option String
  | wrongPrint .. => none
  | wrongType path .. | wrongField path .. | wrongOperator path .. => some path
  | wrongImplicit path .. | wrongRelation path .. | wrongValue path .. => some path
  | quotedBound path _ | bareBound path _ => some path

def preamble (failure : Failure) : String :=
  if failure.compared?.isSome then "assertion `left == right` failed: " else ""

def Names (failure : Failure) (path : String) : Prop :=
  ∃ told, failure.message = failure.preamble ++ (path ++ ":" ++ told)

theorem message_eq (failure : Failure) :
    ∃ shown, failure.message = failure.preamble ++ (failure.reason ++ shown) := by
  unfold message preamble
  cases failure.compared? with
  | none => exact ⟨"", by simp⟩
  | some values =>
      exact ⟨"\n  left: " ++ values.1 ++ "\n right: " ++ values.2,
        by simp [String.append_assoc]⟩

theorem colon_behind {first rest : String} (begins : first = ":" ++ rest) (path text : String) :
    ∃ told, path ++ (first ++ text) = path ++ (":" ++ told) :=
  ⟨rest ++ text, by rw [begins, String.append_assoc]⟩

theorem reason_eq {failure : Failure} {path : String} (placed : failure.path? = some path) :
    ∃ told, failure.reason = path ++ ":" ++ told := by
  unfold reason
  cases failure <;> cases placed <;> simp only [instead, String.append_assoc]
  case wrongImplicit =>
    have begins : ": Expected implicit=" = ":" ++ " Expected implicit=" := by decide
    exact colon_behind begins path _
  case wrongValue =>
    have begins : ": Expected value to " = ":" ++ " Expected value to " := by decide
    exact colon_behind begins path _
  case quotedBound =>
    have begins : ": Expected UnquotedTerm bound, found QuotedTerm \"" =
        ":" ++ " Expected UnquotedTerm bound, found QuotedTerm \"" := by decide
    exact colon_behind begins path _
  case bareBound =>
    have begins : ": Expected QuotedTerm bound, found UnquotedTerm " =
        ":" ++ " Expected QuotedTerm bound, found UnquotedTerm " := by decide
    exact colon_behind begins path _
  all_goals
    have begins : ": Expected " = ":" ++ " Expected " := by decide
    exact colon_behind begins path _

theorem names_of_path {failure : Failure} {path : String} (placed : failure.path? = some path) :
    failure.Names path := by
  obtain ⟨shown, message⟩ := failure.message_eq
  obtain ⟨told, reason⟩ := reason_eq placed
  refine ⟨told ++ shown, ?_⟩
  rw [message, reason]
  simp only [String.append_assoc]

end Failure

/-! Expectations at one node -/

namespace Expect

@[simp] theorem ok_bind {α β : Type} (value : α) (later : α → Outcome β) :
    ((.ok value : Outcome α) >>= later) = later value := rfl

@[simp] theorem error_bind {α β : Type} (failure : Failure) (later : α → Outcome β) :
    ((.error failure : Outcome α) >>= later) = .error failure := rfl

def Blames (path : String) (outcome : Outcome Unit) : Prop :=
  ∃ failure, outcome = .error failure ∧ failure.path? = some path

/-- A check that fails, with whatever would have come after it. -/
theorem blames_unless {path : String} {failure : Failure} {holds : Prop} [Decidable holds]
    (fails : ¬ holds) (placed : failure.path? = some path) (later : Unit → Outcome Unit) :
    Blames path ((if holds then .ok () else .error failure) >>= later) :=
  ⟨failure, by rw [if_neg fails, error_bind], placed⟩

theorem Leaf.blames (leaf : Leaf) {field value : String}
    (other : ¬ (field = leaf.field ∧ value = leaf.value)) :
    Blames leaf.path (do leaf.hasField field; leaf.hasValue value) := by
  by_cases same : leaf.field = field
  · have differs : leaf.value ≠ value := fun alike => other ⟨same.symm, alike.symm⟩
    refine ⟨.wrongValue leaf.path (.exact value) leaf.value, ?_, rfl⟩
    simp [Leaf.hasField, Leaf.hasValue, Leaf.hasMatch, sameField, matching, TextPattern.accepts,
      same, differs]
  · refine ⟨.wrongField leaf.path field leaf.field, ?_, rfl⟩
    simp [Leaf.hasField, sameField, same]

theorem Leaf.holds (leaf : Leaf) :
    (do leaf.hasField leaf.field; leaf.hasValue leaf.value) = .ok () := by
  simp [Leaf.hasField, Leaf.hasValue, Leaf.hasMatch, sameField, matching, TextPattern.accepts]

theorem Limit.blames (limit : Limit) {bound : Bound} (other : bound ≠ limit.bound) :
    Blames limit.path (bound.expect limit) := by
  obtain ⟨path, atom, relation⟩ := limit
  obtain ⟨wanted, related⟩ := bound
  by_cases same : relation = related
  · have differs : wanted ≠ atom := fun alike => other (by rw [alike, same])
    cases wanted with
    | term value =>
        cases atom with
        | term actual =>
            have unequal : actual ≠ value := fun alike => differs (by rw [alike])
            refine ⟨.wrongValue path (.exact value) actual, ?_, rfl⟩
            simp [Bound.expect, hasRelation, isTerm, matching, TextPattern.accepts, same, unequal]
        | phrase actual =>
            refine ⟨.quotedBound path actual, ?_, rfl⟩
            simp [Bound.expect, hasRelation, isTerm, same]
    | phrase value =>
        cases atom with
        | phrase actual =>
            have unequal : actual ≠ value := fun alike => differs (by rw [alike])
            refine ⟨.wrongValue path (.exact value) actual, ?_, rfl⟩
            simp [Bound.expect, hasRelation, isPhrase, matching, TextPattern.accepts, same, unequal]
        | term actual =>
            refine ⟨.bareBound path actual, ?_, rfl⟩
            simp [Bound.expect, hasRelation, isPhrase, same]
  · refine ⟨.wrongRelation path related relation, ?_, rfl⟩
    simp [Bound.expect, hasRelation, same]

theorem Limit.holds (path : String) (bound : Bound) : bound.expect ⟨path, bound⟩ = .ok () := by
  obtain ⟨atom, relation⟩ := bound
  cases atom <;>
    simp [Bound.expect, hasRelation, isTerm, isPhrase, matching, TextPattern.accepts]

end Expect

theorem Connective.eq_of_text {left right : Connective} (text : left.text = right.text)
    (implicit : left.isImplicit = right.isImplicit) : left = right := by
  cases left with
  | and spelling =>
      cases right with
      | and another =>
          revert text
          cases spelling <;> cases another <;> decide
      | or another flag =>
          revert text
          cases spelling <;> cases another <;> cases flag <;> decide
  | or spelling flag =>
      cases right with
      | and another =>
          revert text
          cases spelling <;> cases another <;> cases flag <;> decide
      | or another other =>
          have same : flag = other := implicit
          subst same
          revert text
          cases spelling <;> cases another <;> cases flag <;> decide

theorem Spelling.notText_inj {left right : Spelling} (same : left.notText = right.notText) :
    left = right := by
  revert same
  cases left <;> cases right <;> decide

theorem Expr.binary_blames {operator found : Connective} (differs : operator ≠ found)
    (path : String) (left right low high : Expr) :
    Blames path ((binary operator left right).expect ⟨path, .binary found low high⟩) := by
  by_cases text : operator.text = found.text
  · have implicit : operator.isImplicit ≠ found.isImplicit :=
      fun same => differs (Connective.eq_of_text text same)
    refine ⟨.wrongImplicit path operator.isImplicit found.isImplicit, ?_, rfl⟩
    simp [expect, Subject.binary, Compound.hasOperator, sameOperator, Compound.hasImplicit,
      text, implicit.symm]
  · exact blames_unless (Ne.symm text) rfl _

theorem Expr.blames {expected actual : Expr} (path : String)
    (other : (Node.expr expected).head ≠ (Node.expr actual).head) :
    Blames path (expected.expect ⟨path, actual⟩) := by
  cases expected with
  | binary operator left right =>
      cases actual with
      | binary found first second =>
          exact binary_blames (fun same => other (congrArg Head.binary same)) path left right _ _
      | _ => exact ⟨_, rfl, rfl⟩
  | not spelling operand =>
      cases actual with
      | not found only =>
          have differs : found.notText ≠ spelling.notText :=
            fun same => other (congrArg Head.not (Spelling.notText_inj same.symm))
          exact blames_unless differs rfl _
      | _ => exact ⟨_, rfl, rfl⟩
  | term field value =>
      cases actual with
      | term name text =>
          apply Leaf.blames ⟨path, name, text⟩
          rintro ⟨rfl, rfl⟩
          exact other rfl
      | _ => exact ⟨_, rfl, rfl⟩
  | phrase field value =>
      cases actual with
      | phrase name text =>
          apply Leaf.blames ⟨path, name, text⟩
          rintro ⟨rfl, rfl⟩
          exact other rfl
      | _ => exact ⟨_, rfl, rfl⟩
  | regex field value =>
      cases actual with
      | regex name text =>
          apply Leaf.blames ⟨path, name, text⟩
          rintro ⟨rfl, rfl⟩
          exact other rfl
      | _ => exact ⟨_, rfl, rfl⟩
  | group field body =>
      cases actual with
      | group name only =>
          have differs : name ≠ field := fun same => other (congrArg Head.group same.symm)
          exact blames_unless differs rfl _
      | _ => exact ⟨_, rfl, rfl⟩
  | range field lower upper =>
      cases actual with
      | range name low high =>
          have differs : name ≠ field := fun same => other (congrArg Head.range same.symm)
          exact blames_unless differs rfl _
      | _ => exact ⟨_, rfl, rfl⟩
  | comparison field bound =>
      cases actual with
      | comparison name only =>
          have differs : name ≠ field := fun same => other (congrArg Head.comparison same.symm)
          exact blames_unless differs rfl _
      | _ => exact ⟨_, rfl, rfl⟩

/-! Whole trees -/

theorem Expr.nodes_cons (e : Expr) (path : String) :
    ∃ below, e.nodes path = ⟨path, .expr e⟩ :: below := by
  cases e <;> exact ⟨_, rfl⟩

/-- The outcome says whether the two are the same, and if not, where they first differ. -/
def Tells (expected actual : List Located) (same : Prop) : Outcome Unit → Prop
  | .ok () => same
  | .error failure => ∃ path, FirstDifference path expected actual ∧ failure.path? = some path

namespace Tells

variable {expected actual : List Located} {same : Prop} {outcome : Outcome Unit}

theorem of_blames {path : String} (differs : FirstDifference path expected actual)
    (blames : Blames path outcome) : Tells expected actual same outcome := by
  obtain ⟨failure, rfl, placed⟩ := blames
  exact ⟨path, differs, placed⟩

theorem held (holds : outcome = .ok ()) (alike : same) : Tells expected actual same outcome := by
  rw [holds]
  exact alike

theorem congr {other : Prop} (tells : Tells expected actual same outcome) (alike : same ↔ other) :
    Tells expected actual other outcome := by
  cases outcome with
  | ok => exact alike.mp tells
  | error failure => exact tells

theorem below {first second : Located} (place : first.path = second.path)
    (alike : first.node.head = second.node.head) (tells : Tells expected actual same outcome) :
    Tells (first :: expected) (second :: actual) same outcome := by
  cases outcome with
  | ok => exact tells
  | error failure =>
      obtain ⟨path, differs, placed⟩ := tells
      exact ⟨path, .later place alike differs, placed⟩

theorem both {more others : List Located} {also : Prop} {next : Outcome Unit}
    (tells : Tells expected actual same outcome) (shared : same → expected = actual)
    (then_tells : Tells more others also next) :
    Tells (expected ++ more) (actual ++ others) (same ∧ also) (outcome >>= fun _ => next) := by
  cases outcome with
  | error failure =>
      obtain ⟨path, differs, placed⟩ := tells
      exact ⟨path, differs.before more others, placed⟩
  | ok =>
      rw [ok_bind]
      cases next with
      | ok => exact ⟨tells, then_tells⟩
      | error failure =>
          obtain ⟨path, differs, placed⟩ := then_tells
          rw [shared tells]
          exact ⟨path, differs.behind actual, placed⟩

end Tells

theorem Bound.expect_tells (expected actual : Bound) (path : String) :
    Tells [⟨path, .bound expected⟩] [⟨path, .bound actual⟩] (expected = actual)
      (expected.expect ⟨path, actual⟩) := by
  by_cases same : expected = actual
  · subst same
    exact .held (Limit.holds path expected) rfl
  · have other : (Node.bound expected).head ≠ (Node.bound actual).head :=
      fun alike => same (Head.bound.inj alike)
    exact .of_blames (.here other) (Limit.blames ⟨path, actual⟩ same)

theorem Expr.tells_of_alike {expected actual : Expr} {path : String}
    (below : (Node.expr expected).head = (Node.expr actual).head →
      Tells (expected.nodes path) (actual.nodes path) (expected = actual)
        (expected.expect ⟨path, actual⟩)) :
    Tells (expected.nodes path) (actual.nodes path) (expected = actual)
      (expected.expect ⟨path, actual⟩) := by
  by_cases alike : (Node.expr expected).head = (Node.expr actual).head
  · exact below alike
  · obtain ⟨left, first⟩ := expected.nodes_cons path
    obtain ⟨right, second⟩ := actual.nodes_cons path
    rw [first, second]
    exact .of_blames (.here alike) (blames path alike)

/-! Where a node is as expected, its children decide -/

section Children

variable (path field : String)

theorem Expr.expect_binary (operator : Connective) (left right low high : Expr) :
    (binary operator left right).expect ⟨path, .binary operator low high⟩ =
      (left.expect ⟨path ++ ".left", low⟩ >>= fun _ =>
        right.expect ⟨path ++ ".right", high⟩) := by
  simp [expect, Subject.binary, Compound.hasOperator, sameOperator, Compound.hasImplicit,
    Compound.leftSide, Compound.rightSide]

theorem Expr.expect_not (spelling : Spelling) (operand only : Expr) :
    (not spelling operand).expect ⟨path, .not spelling only⟩ =
      operand.expect ⟨path ++ ".operand", only⟩ := by
  simp [expect, Subject.negation, Negation.hasOperator, sameOperator, Negation.inside]

theorem Expr.expect_group (body only : Expr) :
    (group field body).expect ⟨path, .group field only⟩ =
      body.expect ⟨path ++ ".body", only⟩ := by
  simp [expect, Subject.group, Group.hasField, sameField, Group.inside]

theorem Expr.expect_range (lower upper low high : Bound) :
    (range field lower upper).expect ⟨path, .range field low high⟩ =
      (lower.expect ⟨path ++ ".left", low⟩ >>= fun _ =>
        upper.expect ⟨path ++ ".right", high⟩) := by
  simp [expect, Subject.range, Range.hasField, sameField, Range.lowerLimit, Range.upperLimit]

theorem Expr.expect_comparison (bound only : Bound) :
    (comparison field bound).expect ⟨path, .comparison field only⟩ =
      bound.expect ⟨path ++ ".operand", only⟩ := by
  simp [expect, Subject.comparison, Comparison.hasField, sameField, Comparison.limit]

end Children

theorem Expr.expect_tells (expected actual : Expr) (path : String) :
    Tells (expected.nodes path) (actual.nodes path) (expected = actual)
      (expected.expect ⟨path, actual⟩) := by
  induction expected generalizing actual path with
  | binary operator left right first second =>
      apply tells_of_alike
      intro alike
      cases actual <;> cases alike
      case binary.refl low high =>
        have both := (first low (path ++ ".left")).both (fun same => by rw [same])
          (second high (path ++ ".right"))
        rw [expect_binary]
        exact .below rfl rfl (both.congr (by simp))
  | not spelling operand ih =>
      apply tells_of_alike
      intro alike
      cases actual <;> cases alike
      case not.refl only =>
        rw [expect_not]
        exact .below rfl rfl ((ih only (path ++ ".operand")).congr (by simp))
  | group field body ih =>
      apply tells_of_alike
      intro alike
      cases actual <;> cases alike
      case group.refl only =>
        rw [expect_group]
        exact .below rfl rfl ((ih only (path ++ ".body")).congr (by simp))
  | range field lower upper =>
      apply tells_of_alike
      intro alike
      cases actual <;> cases alike
      case range.refl low high =>
        have both := (lower.expect_tells low (path ++ ".left")).both (fun same => by rw [same])
          (upper.expect_tells high (path ++ ".right"))
        rw [expect_range]
        exact .below rfl rfl (both.congr (by simp))
  | comparison field bound =>
      apply tells_of_alike
      intro alike
      cases actual <;> cases alike
      case comparison.refl only =>
        rw [expect_comparison]
        exact .below rfl rfl ((bound.expect_tells only (path ++ ".operand")).congr (by simp))
  | term field value | phrase field value | regex field value =>
      apply tells_of_alike
      intro alike
      cases actual <;> cases alike
      exact .held (Leaf.holds ⟨path, field, value⟩) rfl

/-- The exact expectation of a query holds of this query alone. On any other it fails at the first
node, in preorder, that is of another type or holds something else, and says its path. -/
theorem expect_exact (expected actual : Query) :
    (expected.expect actual = .ok () ↔ expected = actual) ∧
      (expected ≠ actual → ∃ failure path, expected.expect actual = .error failure ∧
        FirstDifference path expected.nodes actual.nodes ∧ failure.Names path) := by
  have tells := expected.body.expect_tells actual.body "body"
  have whole : expected.body.expect ⟨"body", actual.body⟩ = expected.expect actual := rfl
  rw [whole] at tells
  cases outcome : expected.expect actual with
  | ok =>
      rw [outcome] at tells
      have same : expected = actual := congrArg Query.mk tells
      exact ⟨⟨fun _ => same, fun _ => rfl⟩, fun other => absurd same other⟩
  | error failure =>
      rw [outcome] at tells
      obtain ⟨path, differs, placed⟩ := tells
      have other : expected ≠ actual := by
        rintro rfl
        exact FirstDifference.irrefl _ differs
      exact ⟨⟨nofun, fun same => absurd same other⟩,
        fun _ => ⟨failure, path, rfl, differs, Failure.names_of_path placed⟩⟩

def quotedLimit : Query :=
  ⟨.binary .implicitOr (.term "*" "a")
    (.not .word (.range "f" ⟨.phrase "x", .ge⟩ ⟨.term "y", .le⟩))⟩

def bareLimit : Query :=
  ⟨.binary .implicitOr (.term "*" "a")
    (.not .word (.range "f" ⟨.term "x", .ge⟩ ⟨.term "z", .le⟩))⟩

theorem expect_exact_quotedLimit :
    quotedLimit ≠ bareLimit ∧ ∃ failure path, quotedLimit.expect bareLimit = .error failure ∧
      FirstDifference path quotedLimit.nodes bareLimit.nodes ∧ failure.Names path := by
  have other : quotedLimit ≠ bareLimit := by decide
  exact ⟨other, (expect_exact quotedLimit bareLimit).2 other⟩

example : quotedLimit.expect bareLimit = .error (.bareBound "body.right.operand.left" "x") := by
  cbv

end SearchQuery
