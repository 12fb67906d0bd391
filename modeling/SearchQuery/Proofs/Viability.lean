import SearchQuery.Proofs.Replay

/-!
Errors come at the earliest token and say what was wanted there. The tokens before
the one a reading breaks off at can still be completed to a query, and so can these
tokens with any of the wanted ones behind them.
-/

namespace SearchQuery

def levelKinds : List TokenKind := [.groupOpen, .logicalAnd, .logicalNot]

def Fault.Apt (ahead : Option Token) : Fault → Prop
  | .unexpected expected => expected.kinds ≠ []
  | .missing _ => ahead = none
  | .fieldInRange => kindOf ahead = some .fieldSeparator
  | .tooDeep => ∃ opener, ahead = some opener ∧ opener.kind ∈ levelKinds

section Apt

variable {field : String} {done : List Token} {ahead : Option Token} {fault : Fault}

theorem BreaksBound.apt (broken : BreaksBound done ahead fault) : fault.Apt ahead := by
  cases broken with
  | absent => simp [Fault.Apt, Expected.kinds, Parse.boundKinds]
  | named _ separates => simp [Fault.Apt, separates]

theorem BreaksValue.apt (broken : BreaksValue field done ahead fault) : fault.Apt ahead := by
  cases broken with
  | missing => rfl
  | stranger => simp [Fault.Apt, Expected.kinds, Parse.valueKinds]
  | between | unclosed | symbol => simp [Fault.Apt, Expected.kinds]
  | lower _ broken | upper _ _ _ broken | limit _ _ broken => exact broken.apt

theorem Breaks.apt {room : Nat} {clause : Clause}
    (broken : Breaks field room clause done ahead fault) : fault.Apt ahead := by
  induction broken with
  | groupRefused kind | andRefused _ kind | notRefused kind =>
      simp [Fault.Apt, levelKinds, kind]
  | unclosed | stranger => simp [Fault.Apt, Expected.kinds]
  | value _ _ broken => exact broken.apt
  | _ => assumption

/-- Where nothing is taken yet, any reading could begin with a name. -/
theorem Breaks.wants_identifier {room : Nat} {clause : Clause} {expected : Expected}
    (broken : Breaks field room clause done ahead fault) (start : done = [])
    (wants : fault = .unexpected expected) : expected = .token .identifier := by
  induction broken with
  | ofGroup _ ih | ofDisjunction _ _ ih | first _ ih | last _ ih | paren _ ih =>
      exact ih start wants
  | adjacent first => exact absurd (List.append_eq_nil_iff.mp start).1 first.tokens_ne_nil
  | groupRefused | andRefused | notRefused => cases wants
  | stranger => cases wants; rfl
  | or | and => simp at start
  | inside | unclosed | not | value | fieldGroup => cases start

end Apt

/-! Completing what was taken -/

def sample (kind : TokenKind) : Token :=
  ⟨kind, if kind = .relationalOperator then ">" else ""⟩

@[simp] theorem kind_sample (kind : TokenKind) : (sample kind).kind = kind := rfl

theorem atom_sample {kind : TokenKind} (bounds : kind ∈ Parse.boundKinds) :
    ∃ atom, (sample kind).atom? = some atom := by
  simp only [Parse.boundKinds, List.mem_cons, List.not_mem_nil, or_false] at bounds
  rcases bounds with rfl | rfl <;> exact ⟨_, rfl⟩

/-- `Remedy ahead fault more extra`: the tokens `more` may stand where a reading breaks
off for this reason, with that many levels more to be opened behind them. -/
inductive Remedy (ahead : Option Token) : Fault → List Token → Nat → Prop where
  | early {fault : Fault} : Remedy ahead fault [] 0
  | wanted {expected : Expected} {kind : TokenKind} (wanted : kind ∈ expected.kinds) :
      Remedy ahead (.unexpected expected) [sample kind] 1
  | deeper {opener : Token} (stands : ahead = some opener) : Remedy ahead .tooDeep [opener] 1

/-- Before the end the tokens begin a clause that opens no more levels than these. -/
def Completes (field : String) (room : Nat) (clause : Clause) (tokens : List Token) : Prop :=
  ∀ next, Ends next → ∃ whole tree levels, tokens <+: whole ∧
    Reads field clause whole tree next levels ∧ levels ≤ room

theorem firstKind_of_begins {tokens whole : List Token} (begins : tokens <+: whole)
    (some_token : tokens ≠ []) : firstKind whole = firstKind tokens := by
  obtain ⟨rest, rfl⟩ := begins
  exact firstKind_append_of_ne_nil some_token

section Completing

variable {field : String} {room extra : Nat} {done more : List Token} {ahead : Option Token}
  {fault : Fault}

theorem reads_sample (clause : Clause) (other : clause ≠ .group) {next : Option TokenKind}
    (ends : Ends next) :
    Reads field clause [sample .identifier] (.term field (sample .identifier).text) next 0 := by
  have factor : Reads field .factor [sample .identifier] _ next 0 := .word rfl ends.separate.2
  have chain := factor.last ends.separate.1
  cases clause with
  | group => exact absurd rfl other
  | factor => exact factor
  | chain => exact chain
  | disjunction => exact .first chain
  | expression => exact .ofDisjunction (.first chain) (by simp) ends

theorem reads_sampleGroup {opening : Token} (opens : opening.kind = .groupOpen)
    (next : Option TokenKind) :
    Reads field .group [opening, sample .identifier, sample .groupClose]
      (.term field (sample .identifier).text) next 1 :=
  .group opens (reads_sample .expression (by simp) (.inr rfl)) rfl

/-- Where nothing has to be there yet, a name will do. -/
theorem completes_nil {clause : Clause} (other : clause ≠ .group) (room : Nat) :
    Completes field room clause [] := by
  intro next ends
  exact ⟨_, _, 0, List.nil_prefix, reads_sample clause other ends, Nat.zero_le room⟩

/-- A clause that may consist of another one alone is completed as that one is, once it has
begun, and before that by a name. -/
theorem Completes.lift {clause other : Clause} {tokens : List Token} (ungrouped : other ≠ .group)
    (completes : tokens ≠ [] → Completes field room clause tokens)
    (lifts : ∀ {whole tree next levels}, tokens ≠ [] → Ends next → tokens <+: whole →
      Reads field clause whole tree next levels → Reads field other whole tree next levels) :
    Completes field room other tokens := by
  intro next ends
  by_cases none : tokens = []
  · rw [none]
    exact completes_nil ungrouped room next ends
  · obtain ⟨whole, tree, levels, begins, reads, enough⟩ := completes none next ends
    exact ⟨whole, tree, levels, begins, lifts none ends begins reads, enough⟩

theorem BreaksBound.completes (broken : BreaksBound done ahead fault)
    (remedy : Remedy ahead fault more extra) :
    ∃ bound atom, Token.atom? bound = some atom ∧ done ++ more <+: [bound] := by
  cases broken with
  | absent =>
      cases remedy with
      | early => exact ⟨sample .identifier, _, rfl, List.nil_prefix⟩
      | wanted wanted =>
          obtain ⟨atom, bounded⟩ := atom_sample wanted
          exact ⟨_, atom, bounded, List.prefix_refl _⟩
  | @named bound _ atom bounded =>
      cases remedy with
      | early => exact ⟨bound, atom, bounded, List.prefix_refl _⟩

def BeginsValue (field : String) (tokens : List Token) : Prop :=
  ∃ whole tree, tokens <+: whole ∧
    ∀ next, next ≠ some .fieldSeparator → ReadsValue field whole tree next

theorem beginsValue_nil (field : String) : BeginsValue field [] :=
  ⟨[sample .identifier], _, List.nil_prefix, fun _ _ => .term rfl⟩

theorem beginsValue_range {opening lower middle upper : Token} {low high : Atom}
    {tokens : List Token} (opens : opening.kind = .rangeOpen) (first : lower.atom? = some low)
    (between : middle.kind = .rangeTo) (second : upper.atom? = some high)
    (begins : tokens <+: [opening, lower, middle, upper, sample .rangeClose]) :
    BeginsValue field tokens :=
  ⟨_, _, begins, fun _ _ => .range opens first between second rfl⟩

theorem beginsValue_comparison {symbol : Token} {relation : Relation} {bound : Token} {atom : Atom}
    {tokens : List Token} (kind : symbol.kind = .relationalOperator)
    (meant : Relation.ofSymbol? symbol.text = some relation) (bounded : bound.atom? = some atom)
    (begins : tokens <+: [symbol, bound]) : BeginsValue field tokens :=
  ⟨_, _, begins, fun _ unnamed => .comparison kind meant bounded unnamed⟩

theorem beginsValue_wanted {kind : TokenKind} (wanted : kind ∈ Parse.valueKinds)
    (other : kind ≠ .groupOpen) : BeginsValue field [sample kind] := by
  have word : (sample .identifier).atom? = some (.term (sample .identifier).text) := rfl
  simp only [Parse.valueKinds, List.mem_cons, List.not_mem_nil, or_false] at wanted
  rcases wanted with rfl | rfl | rfl | rfl | rfl | rfl
  · exact beginsValue_range rfl word (kind_sample .rangeTo) word ⟨_, rfl⟩
  · exact beginsValue_comparison (kind_sample .relationalOperator) rfl word ⟨_, rfl⟩
  · exact ⟨_, _, List.prefix_refl _, fun _ _ => .regex rfl⟩
  · exact ⟨_, _, List.prefix_refl _, fun _ _ => .phrase rfl⟩
  · exact ⟨_, _, List.prefix_refl _, fun _ _ => .term rfl⟩
  · exact absurd rfl other

theorem Remedy.ahead_or {opener : Token} (remedy : Remedy (some opener) .tooDeep more extra) :
    (more = [] ∧ extra = 0) ∨ (more = [opener] ∧ extra = 1) := by
  cases remedy with
  | early => exact .inl ⟨rfl, rfl⟩
  | deeper stands => cases stands; exact .inr ⟨rfl, rfl⟩

/-- Where one kind is wanted, it is all that can be put there. -/
theorem Remedy.prefix_sample {kind : TokenKind}
    (remedy : Remedy ahead (.unexpected (.token kind)) more extra) : more <+: [sample kind] := by
  cases remedy with
  | early => exact List.nil_prefix
  | wanted wanted => rw [List.mem_singleton.mp wanted]

theorem BreaksValue.completes (broken : BreaksValue field done ahead fault)
    (remedy : Remedy ahead fault more extra) :
    BeginsValue field (done ++ more) ∨ (done ++ more = [sample .groupOpen] ∧ extra = 1) := by
  have word : (sample .identifier).atom? = some (.term (sample .identifier).text) := rfl
  have middle : (sample .rangeTo).kind = .rangeTo := rfl
  cases broken with
  | missing =>
      cases remedy with
      | early => exact .inl (beginsValue_nil field)
  | stranger =>
      cases remedy with
      | early => exact .inl (beginsValue_nil field)
      | @wanted _ kind wanted =>
          by_cases opens : kind = .groupOpen
          · exact .inr ⟨by rw [opens, List.nil_append], rfl⟩
          · exact .inl (beginsValue_wanted wanted opens)
  | @lower opening _ _ _ opens broken =>
      obtain ⟨bound, atom, bounded, begins⟩ := broken.completes remedy
      exact .inl (beginsValue_range opens bounded middle word
        ((List.prefix_append_right_inj [opening]).mpr (begins.trans ⟨_, rfl⟩)))
  | @between opening lower _ _ opens first =>
      exact .inl (beginsValue_range opens first middle word
        ((List.prefix_append_right_inj [opening, lower]).mpr
          (remedy.prefix_sample.trans ⟨_, rfl⟩)))
  | @upper opening lower parting _ _ _ _ opens first between broken =>
      obtain ⟨bound, atom, bounded, begins⟩ := broken.completes remedy
      exact .inl (beginsValue_range opens first between bounded
        ((List.prefix_append_right_inj [opening, lower, parting]).mpr (begins.trans ⟨_, rfl⟩)))
  | @unclosed opening lower parting upper _ _ _ opens first between second =>
      exact .inl (beginsValue_range opens first between second
        ((List.prefix_append_right_inj [opening, lower, parting, upper]).mpr
          remedy.prefix_sample))
  | symbol =>
      exact .inl (beginsValue_comparison (kind_sample .relationalOperator) rfl word
        (remedy.prefix_sample.trans ⟨_, rfl⟩))
  | @limit sign _ _ _ _ kind meant broken =>
      obtain ⟨bound, atom, bounded, begins⟩ := broken.completes remedy
      exact .inl (beginsValue_comparison kind meant bounded
        ((List.prefix_append_right_inj [sign]).mpr begins))

/-- With the remedy in its place a reading begins with a parenthesis only if it did before. -/
theorem Breaks.bare {clause : Clause} (broken : Breaks field room clause done ahead fault)
    (remedy : Remedy ahead fault more extra)
    (bare : (firstKind done).or (kindOf ahead) ≠ some .groupOpen) :
    firstKind (done ++ more) ≠ some .groupOpen := by
  cases done with
  | cons token rest => simpa using bare
  | nil =>
      cases remedy with
      | early => simp
      | wanted wanted =>
          rw [broken.wants_identifier rfl rfl] at wanted
          simp [List.mem_singleton.mp wanted]
      | deeper stands => simpa [stands] using bare

/-! Groups -/

theorem Completes.inside {total : Nat} {opening : Token} {tokens : List Token}
    (opens : opening.kind = .groupOpen) (body : Completes field room .expression tokens)
    (deeper : room < total) : Completes field total .group (opening :: tokens) := by
  intro next _
  obtain ⟨whole, tree, levels, begins, reads, enough⟩ := body (some .groupClose) (.inr rfl)
  refine ⟨_, tree, levels + 1, ?_, .group opens reads (kind_sample .groupClose), by omega⟩
  exact (List.prefix_append_right_inj [opening]).mpr (begins.trans ⟨_, rfl⟩)

theorem completes_unclosed {total levels : Nat} {opening : Token} {tree : Expr}
    (opens : opening.kind = .groupOpen)
    (body : Reads field .expression done tree (kindOf ahead) levels) (deeper : levels < total)
    (remedy : Remedy ahead (.unexpected (.token .groupClose)) more extra) :
    Completes field total .group (opening :: done ++ more) := by
  intro next _
  refine ⟨_, tree, levels + 1, ?_,
    .group opens (body.before_end (.inr rfl)) (kind_sample .groupClose), deeper⟩
  exact (List.prefix_append_right_inj (opening :: done)).mpr remedy.prefix_sample

/-! Levels that are refused -/

theorem completes_groupRefused {opening : Token} (opens : opening.kind = .groupOpen)
    (remedy : Remedy (some opening) .tooDeep more extra) (begun : more ≠ []) :
    Completes field extra .group more := by
  intro next _
  rcases remedy.ahead_or with ⟨none, -⟩ | ⟨rfl, rfl⟩
  · exact absurd none begun
  · exact ⟨_, _, 1, ⟨_, rfl⟩, reads_sampleGroup opens next, Nat.le_refl 1⟩

theorem completes_andRefused {operator : Token} {tree : Expr}
    (first : Reads field .factor done tree (some .logicalAnd) 0)
    (written : operator.kind = .logicalAnd)
    (remedy : Remedy (some operator) .tooDeep more extra) :
    Completes field extra .chain (done ++ more) := by
  intro next ends
  rcases remedy.ahead_or with ⟨rfl, rfl⟩ | ⟨rfl, rfl⟩
  · rw [List.append_nil]
    exact ⟨_, _, 0, List.prefix_refl _, (first.before_end ends).last ends.separate.1,
      Nat.le_refl 0⟩
  · refine ⟨_, _, _, ?_, .and first written (reads_sample .chain (by simp) ends), Nat.le_refl 1⟩
    simp

theorem completes_notRefused {operator : Token} (written : operator.kind = .logicalNot)
    (remedy : Remedy (some operator) .tooDeep more extra) :
    Completes field extra .factor more := by
  intro next ends
  rcases remedy.ahead_or with ⟨rfl, rfl⟩ | ⟨rfl, rfl⟩
  · exact completes_nil (by simp) 0 next ends
  · exact ⟨_, _, 1, ⟨_, rfl⟩, .not written (reads_sample .expression (by simp) ends),
      Nat.le_refl 1⟩

/-! Operators -/

section Operators

variable {total levels : Nat} {before tokens : List Token} {left : Expr} {operator : Token}

theorem Completes.or (first : Reads field .disjunction before left (some .logicalOr) levels)
    (written : operator.kind = .logicalOr) (enough : levels ≤ room)
    (second : Completes field room .chain tokens) :
    Completes field room .disjunction (before ++ operator :: tokens) := by
  intro next ends
  obtain ⟨whole, tree, deeper, begins, reads, within⟩ := second next ends
  refine ⟨before ++ operator :: whole, _, _, ?_, .or first written reads,
    Nat.max_le.mpr ⟨enough, within⟩⟩
  simpa using begins

theorem Completes.adjacent {next : Option TokenKind}
    (first : Reads field .disjunction before left next levels) (goes : ¬ Ends next)
    (enough : levels ≤ room) (second : Completes field room .chain tokens) :
    Completes field room .disjunction (before ++ tokens) := by
  intro behind ends
  obtain ⟨whole, tree, deeper, begins, reads, within⟩ := second behind ends
  obtain ⟨unchained, unnamed⟩ := reads.begins.separate
  have left := first.before (fun ends => absurd ends goes) unchained unnamed
  exact ⟨before ++ whole, _, _, (List.prefix_append_right_inj before).mpr begins,
    .adjacent left reads, Nat.max_le.mpr ⟨enough, within⟩⟩

theorem Completes.and (first : Reads field .factor before left (some .logicalAnd) levels)
    (written : operator.kind = .logicalAnd) (enough : levels ≤ total)
    (second : Completes field room .chain tokens) (deeper : room < total) :
    Completes field total .chain (before ++ operator :: tokens) := by
  intro next ends
  obtain ⟨whole, tree, levels, begins, reads, within⟩ := second next ends
  refine ⟨before ++ operator :: whole, _, _, ?_, .and first written reads,
    Nat.max_le.mpr ⟨enough, by omega⟩⟩
  simpa using begins

theorem Completes.not (written : operator.kind = .logicalNot)
    (operand : Completes field room .expression tokens) (deeper : room < total) :
    Completes field total .factor (operator :: tokens) := by
  intro next ends
  obtain ⟨whole, tree, levels, begins, reads, enough⟩ := operand next ends
  refine ⟨_, _, levels + 1, ?_, reads.not written, by omega⟩
  exact (List.prefix_append_right_inj [operator]).mpr begins

end Operators

/-! Fields -/

section Fields

variable {name colon : Token}

theorem completes_value (names : name.kind = .identifier)
    (separates : colon.kind = .fieldSeparator)
    (broken : BreaksValue name.text done ahead fault) (remedy : Remedy ahead fault more extra) :
    Completes field (room + extra) .factor (name :: colon :: done ++ more) := by
  intro next ends
  rcases broken.completes remedy with ⟨whole, tree, begins, reads⟩ | ⟨same, rfl⟩
  · exact ⟨_, _, 0, (List.prefix_append_right_inj [name, colon]).mpr begins,
      .value names separates (reads next ends.separate.2), Nat.zero_le _⟩
  · have begins : [name, colon] ++ (done ++ more) = [name, colon, sample .groupOpen] :=
      congrArg ([name, colon] ++ ·) same
    exact ⟨_, _, 1, ⟨_, congrArg (· ++ [sample .identifier, sample .groupClose]) begins⟩,
      .fieldGroup names separates (reads_sampleGroup (kind_sample .groupOpen) next), by omega⟩

/-- A group that has not begun may be any other value as well. -/
theorem Completes.fieldGroup {tokens : List Token} (names : name.kind = .identifier)
    (separates : colon.kind = .fieldSeparator)
    (body : tokens ≠ [] → Completes field room .group tokens) :
    Completes field room .factor (name :: colon :: tokens) := by
  intro next ends
  by_cases none : tokens = []
  · exact ⟨[name, colon, sample .identifier], _, 0,
      (List.prefix_append_right_inj [name, colon]).mpr (none ▸ List.nil_prefix),
      .value names separates (.term rfl), Nat.zero_le room⟩
  · obtain ⟨whole, tree, levels, begins, reads, enough⟩ := body none next ends
    exact ⟨_, _, levels, (List.prefix_append_right_inj [name, colon]).mpr begins,
      .fieldGroup names separates reads, enough⟩

end Fields

/-- Whatever a reading has taken when it breaks off, there is a way to go on. A group is the
one clause that need not have begun yet. -/
theorem Breaks.completes {clause : Clause} (broken : Breaks field room clause done ahead fault)
    (remedy : Remedy ahead fault more extra) (begun : clause = .group → done ++ more ≠ []) :
    Completes field (room + extra) clause (done ++ more) := by
  induction broken with
  | ofGroup _ ih =>
      exact .lift (by simp) (fun begun => ih remedy fun _ => begun) fun _ _ _ reads => reads.ofGroup
  | ofDisjunction broken bare ih =>
      refine .lift (by simp) (fun _ => ih remedy (by simp)) fun begun ends begins reads => ?_
      refine reads.ofDisjunction ?_ ends
      rw [firstKind_of_begins begins begun]
      exact broken.bare remedy bare
  | groupRefused opens =>
      rw [Nat.zero_add]
      exact completes_groupRefused opens remedy (begun rfl)
  | inside opens _ ih => exact .inside opens (ih remedy (by simp)) (by omega)
  | unclosed opens body enough => exact completes_unclosed opens body (by omega) remedy
  | first _ ih =>
      exact .lift (by simp) (fun _ => ih remedy (by simp)) fun _ _ _ reads => reads.first
  | or first enough written _ ih =>
      rw [List.append_assoc]
      exact .or first written (Nat.le_add_right_of_le enough) (ih remedy (by simp))
  | adjacent first enough _ goes _ _ ih =>
      rw [List.append_assoc]
      exact .adjacent first goes (Nat.le_add_right_of_le enough) (ih remedy (by simp))
  | last _ ih =>
      exact .lift (by simp) (fun _ => ih remedy (by simp)) fun _ ends _ reads =>
        reads.last ends.separate.1
  | andRefused first written =>
      rw [Nat.zero_add]
      exact completes_andRefused first written remedy
  | and first enough written _ ih =>
      rw [List.append_assoc]
      exact .and first written (Nat.le_add_right_of_le enough) (ih remedy (by simp)) (by omega)
  | notRefused written =>
      rw [Nat.zero_add]
      exact completes_notRefused written remedy
  | not written _ ih => exact .not written (ih remedy (by simp)) (by omega)
  | paren _ ih =>
      exact .lift (by simp) (fun begun => ih remedy fun _ => begun) fun _ _ _ reads => reads.paren
  | stranger =>
      intro next ends
      exact ⟨_, _, 0, remedy.prefix_sample, reads_sample .factor (by simp) ends, Nat.zero_le _⟩
  | value names separates broken => exact completes_value names separates broken remedy
  | fieldGroup names separates _ ih =>
      exact .fieldGroup names separates fun begun => ih remedy fun _ => begun

/-- Where a query breaks off, it can be completed. -/
theorem Stops.completes {limit : Nat} (stops : Stops field limit done ahead fault)
    (remedy : Remedy ahead fault more extra) :
    Completes field (limit + extra) .expression (done ++ more) := by
  cases stops with
  | within broken => exact broken.completes remedy (by simp)
  | beyond whole enough =>
      intro next ends
      cases remedy with
      | early =>
          rw [List.append_nil]
          exact ⟨_, _, _, List.prefix_refl _, whole.before_end ends, enough⟩
      | wanted wanted => simp [Expected.kinds] at wanted

/-- Something is always wanted, or else the query was already whole. -/
theorem Stops.wants {limit : Nat} {expected : Expected}
    (stops : Stops field limit done ahead (.unexpected expected)) :
    expected.kinds ≠ [] ∨ expected = .endOfInput ∧ ahead ≠ none ∧
      ∃ tree levels, Reads field .expression done tree none levels ∧ levels ≤ limit := by
  cases stops with
  | within broken => exact .inl broken.apt
  | beyond whole enough =>
      exact .inr ⟨rfl, by simp, _, _, whole.before_end (.inl rfl), enough⟩

theorem Stops.apt {limit : Nat} (stops : Stops field limit done ahead fault)
    (other : ∀ expected, fault ≠ .unexpected expected) : fault.Apt ahead := by
  cases stops with
  | within broken => exact broken.apt
  | beyond => exact absurd rfl (other _)

end Completing

/-! Numbered tokens -/

def numberedFrom : Nat → List Token → List SpannedToken
  | _, [] => []
  | place, token :: rest => ⟨token, place, place + 1⟩ :: numberedFrom (place + 1) rest

def numbered (tokens : List Token) : List SpannedToken := numberedFrom 0 tokens

section Numbered

theorem map_token_numberedFrom (place : Nat) (tokens : List Token) :
    (numberedFrom place tokens).map (·.token) = tokens := by
  induction tokens generalizing place with
  | nil => rfl
  | cons token rest ih => exact congrArg (token :: ·) (ih (place + 1))

theorem length_numberedFrom (place : Nat) (tokens : List Token) :
    (numberedFrom place tokens).length = tokens.length := by
  rw [← List.length_map, map_token_numberedFrom]

theorem numberedFrom_append (place : Nat) (left right : List Token) :
    numberedFrom place (left ++ right) =
      numberedFrom place left ++ numberedFrom (place + left.length) right := by
  induction left generalizing place with
  | nil => rfl
  | cons token left ih =>
      simp only [List.cons_append, numberedFrom, ih, List.length_cons]
      rw [Nat.add_right_comm, Nat.add_assoc]

theorem head_numberedFrom (place : Nat) (tokens : List Token) :
    (numberedFrom place tokens).head? =
      tokens.head?.map fun token => ⟨token, place, place + 1⟩ := by
  cases tokens <;> rfl

theorem lastStop_numberedFrom (place : Nat) (tokens : List Token) :
    lastStop place (numberedFrom place tokens) = place + tokens.length := by
  induction tokens generalizing place with
  | nil => rfl
  | cons token rest ih =>
      simp only [numberedFrom, lastStop, ih, List.length_cons]
      omega

variable {config : Config} {tokens : List Token}

theorem parseTokens_numbered_ok_iff {result : Query} :
    parseTokens config (numbered tokens) = .ok result ↔
      ∃ levels, Reads config.defaultField .expression tokens result.body none levels ∧
        levels ≤ config.maxDepth := by
  rw [parseTokens_ok_iff, numbered, map_token_numberedFrom]

theorem parseTokens_numbered_error_iff {error : ParseError} :
    parseTokens config (numbered tokens) = .error error ↔
      ∃ done rest fault, tokens = done ++ rest ∧
        Stops config.defaultField config.maxDepth done rest.head? fault ∧
        error = .grammatical (fault.error config.maxDepth done.length
          (rest.head?.map fun token => ⟨token, done.length, done.length + 1⟩)) := by
  rw [parseTokens_error_iff]
  have split (done rest : List Token) : numbered (done ++ rest) =
      numberedFrom 0 done ++ numberedFrom done.length rest := by
    rw [numbered, numberedFrom_append, Nat.zero_add]
  have last (done : List Token) : lastStop 0 (numberedFrom 0 done) = done.length := by
    rw [lastStop_numberedFrom, Nat.zero_add]
  constructor
  · rintro ⟨done, rest, fault, same, stops, rfl⟩
    have parts : tokens = done.map (·.token) ++ rest.map (·.token) := by
      rw [← List.map_append, ← same, numbered, map_token_numberedFrom]
    have cut := (split _ _).symm.trans ((congrArg numbered parts.symm).trans same)
    obtain ⟨first, second⟩ := List.append_inj cut (by rw [length_numberedFrom, List.length_map])
    refine ⟨_, _, fault, parts, ?_, ?_⟩
    · rwa [List.head?_map]
    · rw [← head_numberedFrom, second, ← last, first]
  · rintro ⟨done, rest, fault, rfl, stops, rfl⟩
    refine ⟨_, _, fault, split done rest, ?_, ?_⟩
    · rwa [map_token_numberedFrom, ← List.head?_map, map_token_numberedFrom]
    · rw [last, head_numberedFrom]

/-- After these tokens one of the kind may come: with it they begin a query that is
accepted wherever more nesting is allowed than here. -/
def Admits (config : Config) (tokens : List Token) (kind : TokenKind) : Prop :=
  ∃ text rest result, ∀ limit > config.maxDepth,
    parseTokens { config with maxDepth := limit } (numbered (tokens ++ ⟨kind, text⟩ :: rest)) =
      .ok result

/-- The error comes at the earliest token: with that token every list of tokens is refused
for the same reason, and without it some list is accepted. -/
structure Earliest (config : Config) (tokens : List Token) (error : GrammarError) : Prop where
  present : error.offset < tokens.length
  settled : ∀ others, tokens.take (error.offset + 1) <+: others →
    parseTokens config (numbered others) = .error (.grammatical error)
  viable : ∃ rest result, parseTokens config (numbered (tokens.take error.offset ++ rest)) =
    .ok result

def Warranted (config : Config) (tokens : List Token) : Expected → Prop
  | .endOfInput => ∃ result, parseTokens config (numbered tokens) = .ok result
  | .token kind => Admits config tokens kind
  | .oneOf kinds => kinds ≠ [] ∧ ∀ kind ∈ kinds, Admits config tokens kind

def Truthful (config : Config) (tokens : List Token) : GrammarError → Prop
  | .unexpectedToken expected found offset =>
      tokens[offset]? = some found ∧ Warranted config (tokens.take offset) expected
  | .unexpectedEnd expected offset =>
      offset = tokens.length ∧ expected ≠ .endOfInput ∧ Warranted config tokens expected
  | .missingValue _ offset => offset = tokens.length
  | .fieldInRange offset => tokens[offset]?.map (·.kind) = some .fieldSeparator
  | .tooDeep limit offset =>
      limit = config.maxDepth ∧ ∃ opener, tokens[offset]? = some opener ∧ opener.kind ∈ levelKinds

theorem Completes.accepted (completes : Completes config.defaultField config.maxDepth .expression
    tokens) : ∃ rest result, parseTokens config (numbered (tokens ++ rest)) = .ok result := by
  obtain ⟨_, tree, levels, ⟨rest, rfl⟩, reads, enough⟩ := completes none (.inl rfl)
  exact ⟨rest, ⟨tree⟩, parseTokens_numbered_ok_iff.mpr ⟨levels, reads, enough⟩⟩

variable {done : List Token} {ahead : Option Token} {fault : Fault}

theorem Stops.accepted (stops : Stops config.defaultField config.maxDepth done ahead fault) :
    ∃ rest result, parseTokens config (numbered (done ++ rest)) = .ok result := by
  refine Completes.accepted ?_
  simpa using stops.completes .early

theorem Stops.admits {expected : Expected} {kind : TokenKind}
    (stops : Stops config.defaultField config.maxDepth done ahead (.unexpected expected))
    (wanted : kind ∈ expected.kinds) : Admits config done kind := by
  obtain ⟨_, tree, levels, ⟨rest, rfl⟩, reads, enough⟩ :=
    stops.completes (.wanted wanted) none (.inl rfl)
  rw [List.append_assoc] at reads
  refine ⟨(sample kind).text, rest, ⟨tree⟩, fun limit more => ?_⟩
  exact parseTokens_numbered_ok_iff.mpr ⟨levels, reads, Nat.le_trans enough more⟩

theorem Stops.warranted {expected : Expected}
    (stops : Stops config.defaultField config.maxDepth done ahead (.unexpected expected)) :
    Warranted config done expected := by
  rcases stops.wants with some_kind | ⟨rfl, -, tree, levels, reads, enough⟩
  · cases expected with
    | endOfInput => exact absurd rfl some_kind
    | token kind => exact stops.admits (List.mem_singleton.mpr rfl)
    | oneOf kinds => exact ⟨some_kind, fun kind wanted => stops.admits wanted⟩
  · exact ⟨⟨tree⟩, parseTokens_numbered_ok_iff.mpr ⟨levels, reads, enough⟩⟩

/-- Whatever error the tokens are refused with, it tells the truth. -/
theorem Stops.truthful {rest : List Token}
    (stops : Stops config.defaultField config.maxDepth done rest.head? fault) :
    Truthful config (done ++ rest) (fault.error config.maxDepth done.length
      (rest.head?.map fun token => ⟨token, done.length, done.length + 1⟩)) := by
  cases rest with
  | nil =>
      rw [List.append_nil]
      cases fault with
      | unexpected expected =>
          refine ⟨rfl, ?_, stops.warranted⟩
          rintro rfl
          rcases stops.wants with some_kind | ⟨-, present, -⟩
          · exact some_kind rfl
          · exact present rfl
      | missing => rfl
      | fieldInRange => cases stops.apt (by simp)
      | tooDeep =>
          obtain ⟨opener, stands, -⟩ := stops.apt (by simp)
          cases stands
  | cons found later =>
      have stands : (done ++ found :: later)[done.length]? = some found := by simp
      cases fault with
      | unexpected expected =>
          refine ⟨stands, ?_⟩
          show Warranted config ((done ++ found :: later).take done.length) expected
          rw [List.take_left]
          exact stops.warranted
      | missing => cases stops.apt (by simp)
      | fieldInRange => exact (congrArg (Option.map _) stands).trans (stops.apt (by simp))
      | tooDeep =>
          obtain ⟨opener, same, opens⟩ := stops.apt (by simp)
          cases same
          exact ⟨rfl, _, stands, opens⟩

theorem Stops.earliest {rest : List Token} {token : Token}
    (stops : Stops config.defaultField config.maxDepth done (some token) fault) :
    Earliest config (done ++ token :: rest) (fault.error config.maxDepth done.length
      (some ⟨token, done.length, done.length + 1⟩)) := by
  have place : (fault.error config.maxDepth done.length
      (some ⟨token, done.length, done.length + 1⟩)).offset = done.length := by
    cases fault <;> rfl
  constructor
  case present =>
    rw [place]
    simp
  case settled =>
    rintro others ⟨later, rfl⟩
    rw [place]
    have same : (done ++ token :: rest).take (done.length + 1) ++ later =
        done ++ token :: later := by
      simp [List.take_append]
    exact parseTokens_numbered_error_iff.mpr ⟨done, token :: later, fault, same, stops, rfl⟩
  case viable =>
    rw [place, List.take_left]
    exact stops.accepted

/-- An error at a token comes as early as it can, and every error says what is the case. -/
theorem parseTokens_error_viable {error : GrammarError}
    (refused : parseTokens config (numbered tokens) = .error (.grammatical error)) :
    (error.atEnd = false → Earliest config tokens error) ∧ Truthful config tokens error := by
  obtain ⟨done, rest, fault, rfl, stops, same⟩ := parseTokens_numbered_error_iff.mp refused
  cases same
  refine ⟨fun inside => ?_, stops.truthful⟩
  cases rest with
  | cons token later => exact stops.earliest
  | nil =>
      cases fault with
      | unexpected | missing => cases inside
      | fieldInRange => cases stops.apt (by simp)
      | tooDeep =>
          obtain ⟨opener, stands, -⟩ := stops.apt (by simp)
          cases stands

end Numbered

def halfRange : List Token :=
  [⟨.identifier, "a"⟩, ⟨.logicalAnd, "AND"⟩, ⟨.groupOpen, "("⟩, ⟨.identifier, "f"⟩,
   ⟨.fieldSeparator, ":"⟩, ⟨.rangeOpen, "["⟩, ⟨.identifier, "b"⟩, ⟨.logicalAnd, "AND"⟩]

theorem halfRange_viable :
    parseTokens ⟨"*", 2⟩ (numbered halfRange) =
        .error (.grammatical (.unexpectedToken (.token .rangeTo) ⟨.logicalAnd, "AND"⟩ 7)) ∧
      Earliest ⟨"*", 2⟩ halfRange (.unexpectedToken (.token .rangeTo) ⟨.logicalAnd, "AND"⟩ 7) ∧
      Admits ⟨"*", 2⟩ (halfRange.take 7) .rangeTo := by
  have refused : parseTokens ⟨"*", 2⟩ (numbered halfRange) =
      .error (.grammatical (.unexpectedToken (.token .rangeTo) ⟨.logicalAnd, "AND"⟩ 7)) := by cbv
  obtain ⟨earliest, -, admits⟩ := parseTokens_error_viable refused
  exact ⟨refused, earliest rfl, admits⟩

end SearchQuery
