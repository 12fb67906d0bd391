import Mathlib.Data.List.Forall2
import SearchQuery.Proofs.Viability

/-!
What is accepted, which tree is read and where a reading breaks off depends on the
kinds of the tokens alone. Their texts become the texts of the tree and their spans
the offsets of the errors, and neither decides anything else.
-/

namespace SearchQuery

/-- Tokens of the same kind. As comparison signs both of them mean something. -/
structure Twins (token other : Token) : Prop where
  kind : other.kind = token.kind
  meant : Meaningful token
  means : Meaningful other

/-- Trees of the same clauses in the same places. The texts may differ, and so may the
fields, the spellings and the relations, which are all read from texts. -/
inductive Expr.Alike : Expr → Expr → Prop where
  | and {spelling other : Spelling} {left right first second : Expr} (lefts : Alike left first)
      (rights : Alike right second) :
      Alike (.binary (.and spelling) left right) (.binary (.and other) first second)
  | or {spelling other : Spelling} {implicit : Bool} {left right first second : Expr}
      (lefts : Alike left first) (rights : Alike right second) :
      Alike (.binary (.or spelling implicit) left right) (.binary (.or other implicit) first second)
  | not {spelling other : Spelling} {operand same : Expr} (operands : Alike operand same) :
      Alike (.not spelling operand) (.not other same)
  | term {field value other text : String} : Alike (.term field value) (.term other text)
  | phrase {field value other text : String} : Alike (.phrase field value) (.phrase other text)
  | regex {field value other text : String} : Alike (.regex field value) (.regex other text)
  | group {field other : String} {body same : Expr} (bodies : Alike body same) :
      Alike (.group field body) (.group other same)
  | range {field other : String} {lower upper low high : Bound}
      (lowers : lower.atom.isQuoted = low.atom.isQuoted)
      (uppers : upper.atom.isQuoted = high.atom.isQuoted) :
      Alike (.range field lower upper) (.range other low high)
  | comparison {field other : String} {bound same : Bound}
      (bounds : bound.atom.isQuoted = same.atom.isQuoted) :
      Alike (.comparison field bound) (.comparison other same)

inductive Fault.Alike : Fault → Fault → Prop where
  | unexpected (expected : Expected) : Alike (.unexpected expected) (.unexpected expected)
  | missing (field other : String) : Alike (.missing field) (.missing other)
  | fieldInRange : Alike .fieldInRange .fieldInRange
  | tooDeep : Alike .tooDeep .tooDeep

section Twins

open List (Forall₂)

variable {field : String} {tokens others : List Token} {ahead behind : Option Token}

theorem Twins.atom {token other : Token} {atom : Atom} (twins : Twins token other)
    (bounded : token.atom? = some atom) :
    ∃ same, other.atom? = some same ∧ atom.isQuoted = same.isQuoted := by
  have same := twins.kind
  unfold Token.atom? at bounded ⊢
  rw [same]
  split at bounded
  · cases bounded
    exact ⟨_, rfl, rfl⟩
  · cases bounded
    exact ⟨_, rfl, rfl⟩
  · cases bounded

theorem firstKind_twins (twins : Forall₂ Twins tokens others) :
    firstKind others = firstKind tokens := by
  cases twins with
  | nil => rfl
  | cons first _ => exact congrArg some first.kind

theorem kindOf_twins (twins : Option.Rel Twins ahead behind) : kindOf behind = kindOf ahead := by
  cases twins with
  | none => rfl
  | some twins => exact congrArg some twins.kind

theorem Lacks.twins {kinds : List TokenKind} (lacks : Lacks kinds ahead)
    (twins : Option.Rel Twins ahead behind) : Lacks kinds behind := by
  intro kind member
  rw [kindOf_twins twins]
  exact lacks kind member

theorem forall₂_split {α : Type} {related : α → α → Prop} {left right others : List α}
    (twins : Forall₂ related (left ++ right) others) :
    ∃ first second, others = first ++ second ∧ Forall₂ related left first ∧
      Forall₂ related right second := by
  induction left generalizing others with
  | nil => exact ⟨[], others, rfl, .nil, twins⟩
  | cons token left ih =>
      cases twins with
      | cons here rest =>
          obtain ⟨first, second, rfl, lefts, rights⟩ := ih rest
          exact ⟨_ :: first, second, rfl, .cons here lefts, rights⟩

theorem ReadsValue.alike {next : Option TokenKind} {tree : Expr}
    (reads : ReadsValue field tokens tree next) (twins : Forall₂ Twins tokens others)
    (name : String) : ∃ other, ReadsValue name others other next ∧ tree.Alike other := by
  cases reads with
  | term kind =>
      obtain _ | ⟨one, ⟨⟩⟩ := twins
      exact ⟨_, .term (one.kind.trans kind), .term⟩
  | phrase kind =>
      obtain _ | ⟨one, ⟨⟩⟩ := twins
      exact ⟨_, .phrase (one.kind.trans kind), .phrase⟩
  | regex kind =>
      obtain _ | ⟨one, ⟨⟩⟩ := twins
      exact ⟨_, .regex (one.kind.trans kind), .regex⟩
  | range opens first between second closes =>
      obtain _ | ⟨one, _ | ⟨two, _ | ⟨three, _ | ⟨four, _ | ⟨five, ⟨⟩⟩⟩⟩⟩⟩ := twins
      obtain ⟨low, lower, lowers⟩ := two.atom first
      obtain ⟨high, upper, uppers⟩ := four.atom second
      exact ⟨_, .range (one.kind.trans opens) lower (three.kind.trans between) upper
        (five.kind.trans closes), .range lowers uppers⟩
  | comparison kind meant bounded unnamed =>
      obtain _ | ⟨one, _ | ⟨two, ⟨⟩⟩⟩ := twins
      obtain ⟨relation, means⟩ := one.means (one.kind.trans kind)
      obtain ⟨atom, bound, bounds⟩ := two.atom bounded
      exact ⟨_, .comparison (one.kind.trans kind) means bound unnamed, .comparison bounds⟩

def ReadsAlike (field : String) (clause : Clause) (tokens : List Token) (tree : Expr)
    (next : Option TokenKind) (levels : Nat) : Prop :=
  ∃ other, Reads field clause tokens other next levels ∧ tree.Alike other

section Sides

variable {clause outer : Clause} {before after : List Token} {left right tree : Expr}
  {next : Option TokenKind} {levels deeper most : Nat} {operator : Token}

theorem ReadsAlike.lift (alike : ReadsAlike field clause tokens tree next levels)
    {kind : Option TokenKind} (wrap : ∀ other, Reads field clause tokens other next levels →
      Reads field outer others other kind most) :
    ReadsAlike field outer others tree kind most := by
  obtain ⟨other, reads, alike⟩ := alike
  exact ⟨other, wrap other reads, alike⟩

theorem ReadsAlike.or (lefts : ReadsAlike field .disjunction before left (some .logicalOr) levels)
    (written : operator.kind = .logicalOr)
    (rights : ReadsAlike field .chain after right next deeper) (spelling : Spelling) :
    ReadsAlike field .disjunction (before ++ operator :: after)
      (.binary (.explicitOr spelling) left right) next (max levels deeper) := by
  obtain ⟨first, reads, leftAlike⟩ := lefts
  obtain ⟨second, later, rightAlike⟩ := rights
  exact ⟨_, .or reads written later, .or leftAlike rightAlike⟩

theorem ReadsAlike.adjacent
    (lefts : ReadsAlike field .disjunction before left (firstKind after) levels)
    (rights : ReadsAlike field .chain after right next deeper) :
    ReadsAlike field .disjunction (before ++ after) (.binary .implicitOr left right) next
      (max levels deeper) := by
  obtain ⟨first, reads, leftAlike⟩ := lefts
  obtain ⟨second, later, rightAlike⟩ := rights
  exact ⟨_, .adjacent reads later, .or leftAlike rightAlike⟩

theorem ReadsAlike.and (lefts : ReadsAlike field .factor before left (some .logicalAnd) levels)
    (written : operator.kind = .logicalAnd)
    (rights : ReadsAlike field .chain after right next deeper) (spelling : Spelling) :
    ReadsAlike field .chain (before ++ operator :: after) (.binary (.and spelling) left right) next
      (max levels (deeper + 1)) := by
  obtain ⟨first, reads, leftAlike⟩ := lefts
  obtain ⟨second, later, rightAlike⟩ := rights
  exact ⟨_, .and reads written later, .and leftAlike rightAlike⟩

end Sides

theorem Reads.alike {clause : Clause} {tree : Expr} {next : Option TokenKind} {levels : Nat}
    (reads : Reads field clause tokens tree next levels) (twins : Forall₂ Twins tokens others) :
    ReadsAlike field clause others tree next levels := by
  induction reads generalizing others with
  | ofGroup _ ih => exact (ih twins).lift fun _ reads => .ofGroup reads
  | ofDisjunction _ bare ends ih =>
      rw [← firstKind_twins twins] at bare
      exact (ih twins).lift fun _ reads => .ofDisjunction reads bare ends
  | group opens _ closes ih =>
      obtain _ | ⟨opening, inside⟩ := twins
      obtain ⟨inner, _, rfl, body, _ | ⟨closing, ⟨⟩⟩⟩ := forall₂_split inside
      exact (ih body).lift fun _ reads =>
        .group (opening.kind.trans opens) reads (closing.kind.trans closes)
  | first _ ih => exact (ih twins).lift fun _ reads => .first reads
  | or _ written _ ihLeft ihRight =>
      obtain ⟨before, _, rfl, lefts, _ | ⟨operator, rights⟩⟩ := forall₂_split twins
      exact (ihLeft lefts).or (operator.kind.trans written) (ihRight rights) _
  | adjacent _ _ ihLeft ihRight =>
      obtain ⟨before, after, rfl, lefts, rights⟩ := forall₂_split twins
      rw [← firstKind_twins rights] at ihLeft
      exact (ihLeft lefts).adjacent (ihRight rights)
  | last _ stops ih => exact (ih twins).lift fun _ reads => .last reads stops
  | and _ written _ ihLeft ihRight =>
      obtain ⟨before, _, rfl, lefts, _ | ⟨operator, rights⟩⟩ := forall₂_split twins
      exact (ihLeft lefts).and (operator.kind.trans written) (ihRight rights) _
  | not written _ ih =>
      obtain _ | ⟨operator, operand⟩ := twins
      obtain ⟨other, reads, alike⟩ := ih operand
      exact ⟨_, .not (operator.kind.trans written) reads, .not alike⟩
  | paren _ ih => exact (ih twins).lift fun _ reads => .paren reads
  | word kind unnamed =>
      obtain _ | ⟨one, ⟨⟩⟩ := twins
      exact ⟨_, .word (one.kind.trans kind) unnamed, .term⟩
  | phrase kind =>
      obtain _ | ⟨one, ⟨⟩⟩ := twins
      exact ⟨_, .phrase (one.kind.trans kind), .phrase⟩
  | value names separates found =>
      obtain _ | ⟨name, _ | ⟨colon, rest⟩⟩ := twins
      obtain ⟨other, reads, alike⟩ := found.alike rest _
      exact ⟨other, .value (name.kind.trans names) (colon.kind.trans separates) reads, alike⟩
  | fieldGroup names separates _ ih =>
      obtain _ | ⟨name, _ | ⟨colon, rest⟩⟩ := twins
      obtain ⟨other, reads, alike⟩ := ih rest
      exact ⟨_, .fieldGroup (name.kind.trans names) (colon.kind.trans separates) reads,
        .group alike⟩

/-! Readings that break off -/

variable {fault : Fault}

theorem Fault.alike_self (fault : Fault) : fault.Alike fault := by
  cases fault with
  | unexpected expected => exact .unexpected expected
  | missing name => exact .missing name name
  | fieldInRange => exact .fieldInRange
  | tooDeep => exact .tooDeep

theorem BreaksBound.twins (broken : BreaksBound tokens ahead fault)
    (twins : Forall₂ Twins tokens others) (next : Option.Rel Twins ahead behind) :
    BreaksBound others behind fault := by
  cases broken with
  | absent lacks =>
      cases twins
      exact .absent (lacks.twins next)
  | named bounded separates =>
      obtain _ | ⟨bound, ⟨⟩⟩ := twins
      obtain ⟨_, same, _⟩ := bound.atom bounded
      cases next with
      | some colon => exact .named same (colon.kind.trans separates)

theorem BreaksValue.alike (broken : BreaksValue field tokens ahead fault)
    (twins : Forall₂ Twins tokens others) (next : Option.Rel Twins ahead behind) (name : String) :
    ∃ other, BreaksValue name others behind other ∧ fault.Alike other := by
  have same := kindOf_twins next
  cases broken with
  | missing =>
      cases twins
      cases next
      exact ⟨_, .missing, .missing field name⟩
  | stranger lacks =>
      cases twins
      have lacking := lacks.twins next
      cases next
      exact ⟨_, .stranger lacking, .unexpected _⟩
  | lower opens broken =>
      obtain _ | ⟨opening, rest⟩ := twins
      exact ⟨_, .lower (opening.kind.trans opens) (broken.twins rest next), fault.alike_self⟩
  | between opens first unnamed lacks =>
      obtain _ | ⟨opening, _ | ⟨lower, ⟨⟩⟩⟩ := twins
      obtain ⟨_, low, -⟩ := lower.atom first
      exact ⟨_, .between (opening.kind.trans opens) low (by rwa [same]) (lacks.twins next),
        .unexpected _⟩
  | upper opens first between broken =>
      obtain _ | ⟨opening, _ | ⟨lower, _ | ⟨middle, rest⟩⟩⟩ := twins
      obtain ⟨_, low, -⟩ := lower.atom first
      exact ⟨_, .upper (opening.kind.trans opens) low (middle.kind.trans between)
        (broken.twins rest next), fault.alike_self⟩
  | unclosed opens first between second unnamed lacks =>
      obtain _ | ⟨opening, _ | ⟨lower, _ | ⟨middle, _ | ⟨upper, ⟨⟩⟩⟩⟩⟩ := twins
      obtain ⟨_, low, -⟩ := lower.atom first
      obtain ⟨_, high, -⟩ := upper.atom second
      exact ⟨_, .unclosed (opening.kind.trans opens) low (middle.kind.trans between) high
        (by rwa [same]) (lacks.twins next), .unexpected _⟩
  | symbol kind meaningless =>
      -- the one place where a text decides, which is why the signs have to mean something
      cases next with
      | some sign =>
          obtain ⟨relation, meant⟩ := sign.meant kind
          rw [meaningless] at meant
          cases meant
  | limit kind _ broken =>
      obtain _ | ⟨sign, rest⟩ := twins
      obtain ⟨_, meant⟩ := sign.means (sign.kind.trans kind)
      exact ⟨_, .limit (sign.kind.trans kind) meant (broken.twins rest next), fault.alike_self⟩

def BreaksAlike (field : String) (room : Nat) (clause : Clause) (tokens : List Token)
    (ahead : Option Token) (fault : Fault) : Prop :=
  ∃ other, Breaks field room clause tokens ahead other ∧ fault.Alike other

theorem BreaksAlike.lift {room less : Nat} {clause outer : Clause}
    (alike : BreaksAlike field less clause tokens ahead fault)
    (wrap : ∀ other, Breaks field less clause tokens ahead other →
      Breaks field room outer others ahead other) :
    BreaksAlike field room outer others ahead fault := by
  obtain ⟨other, broken, alike⟩ := alike
  exact ⟨other, wrap other broken, alike⟩

/-- A level is refused at any token of the kind that would open it. -/
theorem refused_alike {room : Nat} {clause : Clause} {opener : Token} {kind : TokenKind}
    (next : Option.Rel Twins (some opener) behind) (opens : opener.kind = kind)
    (refused : ∀ other : Token, other.kind = kind →
      Breaks field room clause tokens (some other) .tooDeep) :
    BreaksAlike field room clause tokens behind .tooDeep := by
  cases next with
  | some twin => exact ⟨_, refused _ (twin.kind.trans opens), .tooDeep⟩

theorem Breaks.alike {room : Nat} {clause : Clause}
    (broken : Breaks field room clause tokens ahead fault)
    (twins : Forall₂ Twins tokens others) (next : Option.Rel Twins ahead behind) :
    BreaksAlike field room clause others behind fault := by
  have same := kindOf_twins next
  induction broken generalizing others with
  | ofGroup _ ih => exact (ih twins next same).lift fun _ broken => .ofGroup broken
  | ofDisjunction _ bare ih =>
      rw [← same, ← firstKind_twins twins] at bare
      exact (ih twins next same).lift fun _ broken => .ofDisjunction broken bare
  | groupRefused opens =>
      cases twins
      exact refused_alike next opens fun _ opens => .groupRefused opens
  | inside opens _ ih =>
      obtain _ | ⟨opening, rest⟩ := twins
      exact (ih rest next same).lift fun _ broken => .inside (opening.kind.trans opens) broken
  | unclosed opens body enough lacks =>
      obtain _ | ⟨opening, rest⟩ := twins
      obtain ⟨_, body, -⟩ := body.alike rest
      rw [← same] at body
      exact ⟨_, .unclosed (opening.kind.trans opens) body enough (lacks.twins next),
        .unexpected _⟩
  | first _ ih => exact (ih twins next same).lift fun _ broken => .first broken
  | or first enough written _ ih =>
      obtain ⟨before, _, rfl, lefts, _ | ⟨operator, rest⟩⟩ := forall₂_split twins
      obtain ⟨_, first, -⟩ := first.alike lefts
      exact (ih rest next same).lift fun _ broken =>
        .or first enough (operator.kind.trans written) broken
  | adjacent first enough begins goes unwritten _ ih =>
      obtain ⟨before, after, rfl, lefts, rest⟩ := forall₂_split twins
      obtain ⟨_, first, -⟩ := first.alike lefts
      rw [← same, ← firstKind_twins rest] at begins
      exact (ih rest next same).lift fun _ broken =>
        .adjacent first enough begins goes unwritten broken
  | last _ ih => exact (ih twins next same).lift fun _ broken => .last broken
  | andRefused first written =>
      obtain ⟨_, first, -⟩ := first.alike twins
      exact refused_alike next written fun _ written => .andRefused first written
  | and first enough written _ ih =>
      obtain ⟨before, _, rfl, lefts, _ | ⟨operator, rest⟩⟩ := forall₂_split twins
      obtain ⟨_, first, -⟩ := first.alike lefts
      exact (ih rest next same).lift fun _ broken =>
        .and first enough (operator.kind.trans written) broken
  | notRefused written =>
      cases twins
      exact refused_alike next written fun _ written => .notRefused written
  | not written _ ih =>
      obtain _ | ⟨operator, rest⟩ := twins
      exact (ih rest next same).lift fun _ broken => .not (operator.kind.trans written) broken
  | paren _ ih => exact (ih twins next same).lift fun _ broken => .paren broken
  | stranger lacks =>
      cases twins
      exact ⟨_, .stranger (lacks.twins next), .unexpected _⟩
  | value names separates broken =>
      obtain _ | ⟨name, _ | ⟨colon, rest⟩⟩ := twins
      obtain ⟨other, broken, alike⟩ := broken.alike rest next _
      exact ⟨other, .value (name.kind.trans names) (colon.kind.trans separates) broken, alike⟩
  | fieldGroup names separates _ ih =>
      obtain _ | ⟨name, _ | ⟨colon, rest⟩⟩ := twins
      exact (ih rest next same).lift fun _ broken =>
        .fieldGroup (name.kind.trans names) (colon.kind.trans separates) broken

theorem Stops.alike {limit : Nat} (stops : Stops field limit tokens ahead fault)
    (twins : Forall₂ Twins tokens others) (next : Option.Rel Twins ahead behind) :
    ∃ other, Stops field limit others behind other ∧ fault.Alike other := by
  cases stops with
  | within broken =>
      obtain ⟨other, broken, alike⟩ := broken.alike twins next
      exact ⟨other, .within broken, alike⟩
  | beyond whole enough =>
      obtain ⟨_, whole, -⟩ := whole.alike twins
      cases next with
      | some extra =>
          rw [← extra.kind] at whole
          exact ⟨_, .beyond whole enough, .unexpected _⟩

end Twins

/-! Lists of tokens -/

/-- Errors of one variant that want and find the same kinds: at the start of the token that
stands at the same place in each list, or where each list stops. -/
inductive ErrorsAlike (tokens others : List SpannedToken) : GrammarError → GrammarError → Prop where
  | unexpectedToken {expected : Expected} {place : Nat} {token other : SpannedToken}
      (here : tokens[place]? = some token) (there : others[place]? = some other)
      (kind : other.kind = token.kind) :
      ErrorsAlike tokens others (.unexpectedToken expected token.token token.start)
        (.unexpectedToken expected other.token other.start)
  | unexpectedEnd {expected : Expected} :
      ErrorsAlike tokens others (.unexpectedEnd expected (lastStop 0 tokens))
        (.unexpectedEnd expected (lastStop 0 others))
  | missingValue {field name : String} :
      ErrorsAlike tokens others (.missingValue field (lastStop 0 tokens))
        (.missingValue name (lastStop 0 others))
  | fieldInRange {place : Nat} {token other : SpannedToken} (here : tokens[place]? = some token)
      (there : others[place]? = some other) :
      ErrorsAlike tokens others (.fieldInRange token.start) (.fieldInRange other.start)
  | tooDeep {limit place : Nat} {token other : SpannedToken} (here : tokens[place]? = some token)
      (there : others[place]? = some other) :
      ErrorsAlike tokens others (.tooDeep limit token.start) (.tooDeep limit other.start)

inductive AnswersAlike (tokens others : List SpannedToken) :
    Except ParseError Query → Except ParseError Query → Prop where
  | accepted {tree other : Expr} (alike : tree.Alike other) :
      AnswersAlike tokens others (.ok ⟨tree⟩) (.ok ⟨other⟩)
  | refused {error other : GrammarError} (alike : ErrorsAlike tokens others error other) :
      AnswersAlike tokens others (.error (.grammatical error)) (.error (.grammatical other))

section Lists

open List (Forall₂)

variable {config : Config} {tokens others : List SpannedToken}

theorem twins_of_kinds (same : tokens.map (·.kind) = others.map (·.kind))
    (symbols : ∀ token ∈ tokens ++ others, token.kind = .relationalOperator →
      token.text ∈ [">", ">=", "<", "<="]) :
    Forall₂ (fun token other => Twins token.token other.token) tokens others := by
  have meaningful : ∀ token ∈ tokens ++ others, Meaningful token.token :=
    fun token member kind => ofSymbol_isSome (symbols token member kind)
  clear symbols
  induction tokens generalizing others with
  | nil =>
      cases List.map_eq_nil_iff.mp same.symm
      exact .nil
  | cons token tokens ih =>
      obtain ⟨other, later, rfl, kind, rest⟩ := List.map_eq_cons_iff.mp same.symm
      refine .cons ⟨kind, meaningful token (by simp), meaningful other (by simp)⟩
        (ih rest.symm fun token member => meaningful token ?_)
      simp only [List.mem_append, List.mem_cons] at member ⊢
      tauto

theorem map_token_twins (twins : Forall₂ (fun token other => Twins token.token other.token)
    tokens others) : Forall₂ Twins (tokens.map (·.token)) (others.map (·.token)) := by
  rwa [List.forall₂_map_left_iff, List.forall₂_map_right_iff]

/-- Two readings that break off alike at the same place are refused alike. -/
theorem Stops.errorsAlike {limit : Nat} {done rest first second : List SpannedToken}
    {fault other : Fault} (length : done.length = first.length)
    (twins : Forall₂ (fun token other => Twins token.token other.token) rest second)
    (stops : Stops config.defaultField limit (done.map (·.token)) (rest.head?.map (·.token)) fault)
    (alike : fault.Alike other) :
    ErrorsAlike (done ++ rest) (first ++ second) (fault.error limit (lastStop 0 done) rest.head?)
      (other.error limit (lastStop 0 first) second.head?) := by
  cases twins with
  | nil =>
      rw [List.append_nil, List.append_nil]
      cases alike with
      | unexpected => exact .unexpectedEnd
      | missing => exact .missingValue
      | fieldInRange => cases stops.apt (by simp)
      | tooDeep =>
          obtain ⟨opener, stands, -⟩ := stops.apt (by simp)
          cases stands
  | @cons token next rest second both _ =>
      have here : (done ++ token :: rest)[done.length]? = some token := by simp
      have there : (first ++ next :: second)[done.length]? = some next := by simp [length]
      cases alike with
      | unexpected => exact .unexpectedToken here there both.kind
      | missing => cases stops.apt (by simp)
      | fieldInRange => exact .fieldInRange here there
      | tooDeep => exact .tooDeep here there

/-- Lists of tokens of the same kinds get the same answer, but for their texts and spans. -/
theorem parseTokens_alike (config : Config) (tokens others : List SpannedToken)
    (same : tokens.map (·.kind) = others.map (·.kind))
    (symbols : ∀ token ∈ tokens ++ others, token.kind = .relationalOperator →
      token.text ∈ [">", ">=", "<", "<="]) :
    AnswersAlike tokens others (parseTokens config tokens) (parseTokens config others) := by
  have twins := twins_of_kinds same symbols
  cases answer : parseTokens config tokens with
  | ok result =>
      obtain ⟨levels, reads, enough⟩ := parseTokens_ok_iff.mp answer
      obtain ⟨tree, reads, alike⟩ := reads.alike (map_token_twins twins)
      have accepted : parseTokens config others = .ok ⟨tree⟩ :=
        parseTokens_ok_iff.mpr ⟨levels, reads, enough⟩
      rw [accepted]
      exact .accepted alike
  | error error =>
      obtain ⟨done, rest, fault, rfl, stops, rfl⟩ := parseTokens_error_iff.mp answer
      obtain ⟨first, second, rfl, taken, left⟩ := forall₂_split twins
      have next : Option.Rel Twins (rest.head?.map (·.token)) (second.head?.map (·.token)) := by
        cases left with
        | nil => exact .none
        | cons both _ => exact .some both
      obtain ⟨other, again, alike⟩ := stops.alike (map_token_twins taken) next
      have refused : parseTokens config (first ++ second) = .error (.grammatical
          (other.error config.maxDepth (lastStop 0 first) second.head?)) :=
        parseTokens_error_iff.mpr ⟨first, second, other, rfl, again, rfl⟩
      rw [refused]
      exact .refused (stops.errorsAlike taken.length_eq left alike)

end Lists

def symbolWritten : List SpannedToken :=
  [⟨⟨.logicalNot, "!"⟩, 0, 1⟩, ⟨⟨.identifier, "f"⟩, 1, 2⟩, ⟨⟨.fieldSeparator, ":"⟩, 2, 3⟩,
   ⟨⟨.relationalOperator, ">"⟩, 3, 4⟩, ⟨⟨.identifier, "1"⟩, 4, 5⟩, ⟨⟨.groupOpen, "("⟩, 6, 7⟩,
   ⟨⟨.identifier, "a"⟩, 7, 8⟩]

def wordWritten : List SpannedToken :=
  [⟨⟨.logicalNot, "NOT"⟩, 0, 3⟩, ⟨⟨.identifier, "price"⟩, 4, 9⟩, ⟨⟨.fieldSeparator, ":"⟩, 10, 11⟩,
   ⟨⟨.relationalOperator, "<="⟩, 12, 14⟩, ⟨⟨.identifier, "20"⟩, 15, 17⟩, ⟨⟨.groupOpen, "("⟩, 18, 19⟩,
   ⟨⟨.identifier, "b"⟩, 20, 21⟩]

theorem symbolWritten_alike_wordWritten :
    symbolWritten.map (·.kind) = wordWritten.map (·.kind) ∧
      (∀ token ∈ symbolWritten ++ wordWritten, token.kind = .relationalOperator →
        token.text ∈ [">", ">=", "<", "<="]) ∧
      AnswersAlike symbolWritten wordWritten (parseTokens {} symbolWritten)
        (parseTokens {} wordWritten) ∧
      parseTokens {} wordWritten =
        .error (.grammatical (.unexpectedEnd (.token .groupClose) 21)) := by
  have same : symbolWritten.map (·.kind) = wordWritten.map (·.kind) := by decide
  have symbols : ∀ token ∈ symbolWritten ++ wordWritten, token.kind = .relationalOperator →
      token.text ∈ [">", ">=", "<", "<="] := by decide
  exact ⟨same, symbols, parseTokens_alike {} symbolWritten wordWritten same symbols, by cbv⟩

end SearchQuery
