import SearchQuery.Grammar.Error
import SearchQuery.Proofs.Reading

/-!
How a list of tokens is refused, said without any parser: which tokens are taken
before the reading breaks off, which token it breaks off at, and why. The levels
that may still be opened decide only where one of them is refused.
-/

namespace SearchQuery

inductive Fault where
  | unexpected (expected : Expected)
  | missing (field : String)
  | fieldInRange
  | tooDeep
  deriving DecidableEq, Repr

/-- The error for a fault at the token ahead, or at `last` where no token is left. -/
def Fault.error (limit last : Nat) (ahead : Option SpannedToken) (fault : Fault) : GrammarError :=
  let offset := (ahead.map (·.start)).getD last
  match fault, ahead with
  | .unexpected expected, some found => .unexpectedToken expected found.token offset
  | .unexpected expected, none => .unexpectedEnd expected offset
  | .missing field, _ => .missingValue field offset
  | .fieldInRange, _ => .fieldInRange offset
  | .tooDeep, _ => .tooDeep limit offset

def Expected.kinds : Expected → List TokenKind
  | .token kind => [kind]
  | .oneOf kinds => kinds
  | .endOfInput => []

def kindOf (ahead : Option Token) : Option TokenKind := ahead.map (·.kind)

@[simp] theorem kindOf_none : kindOf none = none := rfl

@[simp] theorem kindOf_some (token : Token) : kindOf (some token) = some token.kind := rfl

def Lacks (kinds : List TokenKind) (ahead : Option Token) : Prop :=
  ∀ kind ∈ kinds, kindOf ahead ≠ some kind

theorem lacks_singleton {kind : TokenKind} {ahead : Option Token} :
    Lacks [kind] ahead ↔ kindOf ahead ≠ some kind := by
  simp [Lacks]

inductive BreaksBound : List Token → Option Token → Fault → Prop where
  | absent {ahead : Option Token} (lacks : Lacks Parse.boundKinds ahead) :
      BreaksBound [] ahead (.unexpected (.oneOf Parse.boundKinds))
  | named {bound colon : Token} {atom : Atom} (bounded : bound.atom? = some atom)
      (separates : colon.kind = .fieldSeparator) : BreaksBound [bound] (some colon) .fieldInRange

inductive BreaksValue (field : String) : List Token → Option Token → Fault → Prop where
  | missing : BreaksValue field [] none (.missing field)
  | stranger {found : Token} (lacks : Lacks Parse.valueKinds (some found)) :
      BreaksValue field [] (some found) (.unexpected (.oneOf Parse.valueKinds))
  | lower {opening : Token} {done : List Token} {ahead : Option Token} {fault : Fault}
      (opens : opening.kind = .rangeOpen) (broken : BreaksBound done ahead fault) :
      BreaksValue field (opening :: done) ahead fault
  | between {opening lower : Token} {low : Atom} {ahead : Option Token}
      (opens : opening.kind = .rangeOpen) (first : lower.atom? = some low)
      (unnamed : kindOf ahead ≠ some .fieldSeparator) (lacks : Lacks [.rangeTo] ahead) :
      BreaksValue field [opening, lower] ahead (.unexpected (.token .rangeTo))
  | upper {opening lower middle : Token} {low : Atom} {done : List Token} {ahead : Option Token}
      {fault : Fault} (opens : opening.kind = .rangeOpen) (first : lower.atom? = some low)
      (between : middle.kind = .rangeTo) (broken : BreaksBound done ahead fault) :
      BreaksValue field (opening :: lower :: middle :: done) ahead fault
  | unclosed {opening lower middle upper : Token} {low high : Atom} {ahead : Option Token}
      (opens : opening.kind = .rangeOpen) (first : lower.atom? = some low)
      (between : middle.kind = .rangeTo) (second : upper.atom? = some high)
      (unnamed : kindOf ahead ≠ some .fieldSeparator) (lacks : Lacks [.rangeClose] ahead) :
      BreaksValue field [opening, lower, middle, upper] ahead (.unexpected (.token .rangeClose))
  | symbol {sign : Token} (kind : sign.kind = .relationalOperator)
      (meaningless : Relation.ofSymbol? sign.text = none) :
      BreaksValue field [] (some sign) (.unexpected (.token .relationalOperator))
  | limit {sign : Token} {relation : Relation} {done : List Token} {ahead : Option Token}
      {fault : Fault} (kind : sign.kind = .relationalOperator)
      (meant : Relation.ofSymbol? sign.text = some relation)
      (broken : BreaksBound done ahead fault) : BreaksValue field (sign :: done) ahead fault

def factorKinds : List TokenKind := [.logicalNot, .groupOpen, .quotedString, .identifier]

/-- `Breaks field room clause done ahead fault`: where `room` more levels may be opened, the
clause takes the tokens `done` and breaks off at `ahead` for that reason. -/
inductive Breaks (field : String) :
    Nat → Clause → List Token → Option Token → Fault → Prop where
  | ofGroup {room done ahead fault} (broken : Breaks field room .group done ahead fault) :
      Breaks field room .expression done ahead fault
  | ofDisjunction {room done ahead fault}
      (broken : Breaks field room .disjunction done ahead fault)
      (bare : (firstKind done).or (kindOf ahead) ≠ some .groupOpen) :
      Breaks field room .expression done ahead fault
  | groupRefused {opening : Token} (opens : opening.kind = .groupOpen) :
      Breaks field 0 .group [] (some opening) .tooDeep
  | inside {room done ahead fault} {opening : Token} (opens : opening.kind = .groupOpen)
      (broken : Breaks field room .expression done ahead fault) :
      Breaks field (room + 1) .group (opening :: done) ahead fault
  | unclosed {room tokens tree levels ahead} {opening : Token} (opens : opening.kind = .groupOpen)
      (body : Reads field .expression tokens tree (kindOf ahead) levels) (enough : levels ≤ room)
      (lacks : Lacks [.groupClose] ahead) :
      Breaks field (room + 1) .group (opening :: tokens) ahead
        (.unexpected (.token .groupClose))
  | first {room done ahead fault} (broken : Breaks field room .chain done ahead fault) :
      Breaks field room .disjunction done ahead fault
  | or {room before left levels done ahead fault} {operator : Token}
      (first : Reads field .disjunction before left (some .logicalOr) levels)
      (enough : levels ≤ room) (written : operator.kind = .logicalOr)
      (broken : Breaks field room .chain done ahead fault) :
      Breaks field room .disjunction (before ++ operator :: done) ahead fault
  | adjacent {room before left levels done ahead fault next}
      (first : Reads field .disjunction before left next levels) (enough : levels ≤ room)
      (begins : next = (firstKind done).or (kindOf ahead)) (goes : ¬ Ends next)
      (unwritten : next ≠ some .logicalOr) (broken : Breaks field room .chain done ahead fault) :
      Breaks field room .disjunction (before ++ done) ahead fault
  | last {room done ahead fault} (broken : Breaks field room .factor done ahead fault) :
      Breaks field room .chain done ahead fault
  | andRefused {tokens tree} {operator : Token}
      (first : Reads field .factor tokens tree (some .logicalAnd) 0)
      (written : operator.kind = .logicalAnd) :
      Breaks field 0 .chain tokens (some operator) .tooDeep
  | and {room before left levels done ahead fault} {operator : Token}
      (first : Reads field .factor before left (some .logicalAnd) levels)
      (enough : levels ≤ room + 1) (written : operator.kind = .logicalAnd)
      (broken : Breaks field room .chain done ahead fault) :
      Breaks field (room + 1) .chain (before ++ operator :: done) ahead fault
  | notRefused {operator : Token} (written : operator.kind = .logicalNot) :
      Breaks field 0 .factor [] (some operator) .tooDeep
  | not {room done ahead fault} {operator : Token} (written : operator.kind = .logicalNot)
      (broken : Breaks field room .expression done ahead fault) :
      Breaks field (room + 1) .factor (operator :: done) ahead fault
  | paren {room done ahead fault} (broken : Breaks field room .group done ahead fault) :
      Breaks field room .factor done ahead fault
  | stranger {room ahead} (lacks : Lacks factorKinds ahead) :
      Breaks field room .factor [] ahead (.unexpected (.token .identifier))
  | value {room done ahead fault} {name colon : Token} (names : name.kind = .identifier)
      (separates : colon.kind = .fieldSeparator)
      (broken : BreaksValue name.text done ahead fault) :
      Breaks field room .factor (name :: colon :: done) ahead fault
  | fieldGroup {room done ahead fault} {name colon : Token} (names : name.kind = .identifier)
      (separates : colon.kind = .fieldSeparator)
      (broken : Breaks field room .group done ahead fault) :
      Breaks field room .factor (name :: colon :: done) ahead fault

/-- Where a whole query breaks off: inside its expression, or behind it. -/
inductive Stops (field : String) (limit : Nat) : List Token → Option Token → Fault → Prop where
  | within {done : List Token} {ahead : Option Token} {fault : Fault}
      (broken : Breaks field limit .expression done ahead fault) : Stops field limit done ahead fault
  | beyond {done : List Token} {tree : Expr} {extra : Token} {levels : Nat}
      (whole : Reads field .expression done tree (some extra.kind) levels)
      (enough : levels ≤ limit) : Stops field limit done (some extra) (.unexpected .endOfInput)

theorem Breaks.group_opens {field : String} {room : Nat} {done : List Token}
    {ahead : Option Token} {fault : Fault} (broken : Breaks field room .group done ahead fault) :
    (firstKind done).or (kindOf ahead) = some .groupOpen := by
  cases broken with
  | groupRefused opens | inside opens | unclosed opens => simp [opens]

end SearchQuery
