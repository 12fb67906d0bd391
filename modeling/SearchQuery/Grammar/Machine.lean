import SearchQuery.Grammar.Parse

/-!
A parse as a machine. What is still to be done stands in a list of tasks and what has been read
in a list of trees. A step does the first task: it takes at most one token or changes the depth
by one level, and puts further tasks in its place. Nothing recurs and no bound is set to the steps.
-/

namespace SearchQuery

inductive Level where
  | group
  | negation
  | conjunction
  deriving DecidableEq, Repr

inductive BoundUse where
  | lower (field : String) (relation : Relation)
  | upper (field : String) (lower : Bound)
  | only (field : String) (relation : Relation)
  deriving DecidableEq, Repr

inductive Task where
  | expression
  | disjunction
  | alternatives
  | written
  | chain
  | links
  | factor
  | term
  | named (name : String)
  | colon (name : String)
  | value (field : String)
  | phrase (field : String)
  | regex (field : String)
  | word (field : String)
  | range (field : String)
  | between (field : String) (lower : Bound)
  | closing (field : String) (lower : Bound) (upper : Atom)
  | comparison (field : String)
  | bound (use : BoundUse)
  | bare (use : BoundUse)
  | quoted (use : BoundUse)
  | unfielded
  | enter (level : Level)
  | opener (level : Level)
  | closer
  | leave (level : Level)
  | give (tree : Expr)
  | wrap (field : String)
  | negate (spelling : Spelling)
  | conjoin (spelling : Spelling)
  | join (operator : Connective)
  | finish
  deriving DecidableEq, Repr

inductive Choice where
  | goOn (tasks : List Task)
  | refuse (error : (location : Nat) → GrammarError)

def Choice.unexpected (expected : Expected) : Option SpannedToken → Choice
  | some found => .refuse fun _ => .unexpectedToken expected found.token found.start
  | none => .refuse fun location => .unexpectedEnd expected location

inductive Action where
  | build (tasks : List Task) (trees : List Expr → List Expr)
  | look (choose : Option SpannedToken → Choice)
  | take (kind : TokenKind) (choose : SpannedToken → Choice)
  | descend (tasks : List Task)
  | ascend

def onLast (make : Expr → Expr) : List Expr → List Expr
  | tree :: trees => make tree :: trees
  | [] => []

/-- Replaces the two trees that were read last, the later of which stands first. -/
def onLastTwo (make : Expr → Expr → Expr) : List Expr → List Expr
  | right :: left :: trees => make left right :: trees
  | trees => trees

def BoundUse.tasks (atom : Atom) : BoundUse → List Task
  | .lower field relation => [.between field ⟨atom, relation⟩]
  | .upper field first => [.closing field first atom]
  | .only field relation => [.give (.comparison field ⟨atom, relation⟩)]

open Choice in
def Task.action (config : Config) : Task → Action
  | .expression => .look fun ahead =>
      if ahead.map SpannedToken.kind = some .groupOpen then goOn [.enter .group]
      else goOn [.disjunction]
  | .disjunction => .build [.chain, .alternatives] id
  | .alternatives => .look fun ahead =>
      match ahead.map SpannedToken.kind with
      | none | some .groupClose => goOn []
      | some .logicalOr => goOn [.written]
      | some _ => goOn [.chain, .join .implicitOr, .alternatives]
  | .written => .take .logicalOr fun found =>
      goOn [.chain, .join (.explicitOr (Spelling.of found.text)), .alternatives]
  | .chain => .build [.factor, .links] id
  | .links => .look fun ahead =>
      if ahead.map SpannedToken.kind = some .logicalAnd then goOn [.enter .conjunction]
      else goOn []
  | .factor => .look fun ahead =>
      match ahead.map SpannedToken.kind with
      | some .logicalNot => goOn [.enter .negation]
      | some .groupOpen => goOn [.enter .group]
      | some .quotedString => goOn [.phrase config.defaultField]
      | _ => goOn [.term]
  | .term => .take .identifier fun found => goOn [.named found.text]
  | .named name => .look fun ahead =>
      if ahead.map SpannedToken.kind = some .fieldSeparator then goOn [.colon name]
      else goOn [.give (.term config.defaultField name)]
  | .colon name => .take .fieldSeparator fun _ => goOn [.value name]
  | .value field => .look fun ahead =>
      match ahead.map SpannedToken.kind with
      | none => refuse fun location => .missingValue field location
      | some .rangeOpen => goOn [.range field]
      | some .relationalOperator => goOn [.comparison field]
      | some .regex => goOn [.regex field]
      | some .quotedString => goOn [.phrase field]
      | some .identifier => goOn [.word field]
      | some .groupOpen => goOn [.enter .group, .wrap field]
      | some _ => unexpected (.oneOf Parse.valueKinds) ahead
  | .phrase field => .take .quotedString fun found =>
      goOn [.give (.phrase field (unquote found.text))]
  | .regex field => .take .regex fun found => goOn [.give (.regex field found.text)]
  | .word field => .take .identifier fun found => goOn [.give (.term field found.text)]
  | .range field => .take .rangeOpen fun opening =>
      goOn [.bound (.lower field (.ofOpening opening.text))]
  | .between field lower => .take .rangeTo fun _ => goOn [.bound (.upper field lower)]
  | .closing field lower upper => .take .rangeClose fun closing =>
      goOn [.give (.range field lower ⟨upper, .ofClosing closing.text⟩)]
  | .comparison field => .take .relationalOperator fun symbol =>
      match Relation.ofSymbol? symbol.text with
      | some relation => goOn [.bound (.only field relation)]
      | none => unexpected (.token .relationalOperator) (some symbol)
  | .bound use => .look fun ahead =>
      match ahead.map SpannedToken.kind with
      | some .identifier => goOn [.bare use]
      | some .quotedString => goOn [.quoted use]
      | _ => unexpected (.oneOf Parse.boundKinds) ahead
  | .bare use => .take .identifier fun found => goOn (.unfielded :: use.tasks (.term found.text))
  | .quoted use => .take .quotedString fun found =>
      goOn (.unfielded :: use.tasks (.phrase (unquote found.text)))
  | .unfielded => .look fun ahead =>
      match ahead with
      | some found =>
          if found.kind = .fieldSeparator then refuse fun _ => .fieldInRange found.start
          else goOn []
      | none => goOn []
  | .enter level => .descend [.opener level, .leave level]
  | .opener .group => .take .groupOpen fun _ => goOn [.expression, .closer]
  | .opener .negation => .take .logicalNot fun found =>
      goOn [.expression, .negate (Spelling.of found.text)]
  | .opener .conjunction => .take .logicalAnd fun found =>
      goOn [.chain, .conjoin (Spelling.of found.text)]
  | .closer => .take .groupClose fun _ => goOn []
  | .leave _ => .ascend
  | .give tree => .build [] (tree :: ·)
  | .wrap field => .build [] (onLast (.group field))
  | .negate spelling => .build [] (onLast (.not spelling))
  | .conjoin spelling => .build [] (onLastTwo (.binary (.and spelling)))
  | .join operator => .build [] (onLastTwo (.binary operator))
  | .finish => .look fun ahead =>
      match ahead with
      | none => goOn []
      | some _ => unexpected .endOfInput ahead

namespace Parse

variable {σ : Type} [TokenFeed σ]

def choice : Choice → Parse σ (List Task)
  | .goOn tasks => return tasks
  | .refuse error => do fail (error (← location))

def perform (config : Config) (trees : List Expr) : Action → Parse σ (List Task × List Expr)
  | .build tasks change => return (tasks, change trees)
  | .look choose => return (← choice (choose (← peek)), trees)
  | .take kind choose => return (← choice (choose (← consume kind)), trees)
  | .descend tasks => do
      descend config
      return (tasks, trees)
  | .ascend => do
      ascend
      return ([], trees)

end Parse

structure Machine (σ : Type) where
  tasks : List Task
  trees : List Expr
  cursor : Cursor σ
  failure : Option ParseError

namespace Machine

variable {σ : Type} [TokenFeed σ] (config : Config)

/-- A machine that has failed or has nothing more to do stays as it is. -/
def step (m : Machine σ) : Machine σ :=
  match m.failure, m.tasks with
  | none, task :: rest =>
      match Parse.perform config m.trees (task.action config) m.cursor with
      | .ok (tasks, trees) cursor => ⟨tasks ++ rest, trees, cursor, none⟩
      | .error error cursor => { m with cursor, failure := some error }
  | _, _ => m

def after : Nat → Machine σ → Machine σ
  | 0, m => m
  | steps + 1, m => after steps (m.step config)

omit config in
def start (feed : σ) : Machine σ :=
  match Parse.pull ⟨feed, none, 0⟩ with
  | .ok () cursor => ⟨[.expression, .finish], [], cursor, none⟩
  | .error error cursor => ⟨[.expression, .finish], [], cursor, some error⟩

end Machine

/-- The levels that the tasks will leave, the innermost first. -/
def openLevels (tasks : List Task) : List Level :=
  tasks.filterMap fun task =>
    match task with
    | .leave level => some level
    | _ => none

end SearchQuery
