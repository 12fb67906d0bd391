import SearchQuery.Proofs.Replay

/-!
The scope of a NOT and of an opening parenthesis. Behind either of them one expression
is read, which ends where the tokens say, and nothing outside depends on how this
expression was written. So a NOT reaches as far as it would in parentheses up to the
end of the clause around it.
-/

namespace SearchQuery

/-! What stands at the front of some tokens -/

section Front

variable {field : String} {tree other : Expr} {levels deeper : Nat}

/-- The parser reads an expression off the front of its tokens, if the levels suffice. -/
theorem Reads.settles {done rest : List SpannedToken}
    (reads : Reads field .expression (done.map (·.token)) tree (firstKind (rest.map (·.token)))
      levels) (limit : Nat) :
    Parse.Settles ⟨field, limit⟩ (limit + 1) levels
      (Parse.expression ⟨field, limit⟩ (limit + 1) (Cursor.facing 0 (done ++ rest))) tree
      (Cursor.facing (lastStop 0 done) rest) := by
  have follows : Parse.Follows TokenQueue ⟨field, limit⟩ _ _ tree _ levels :=
    Parse.reads_follows reads
  have next : (Cursor.facing (lastStop 0 done) rest).next = firstKind (rest.map (·.token)) := by
    cases rest <;> rfl
  have start : (Cursor.facing 0 (done ++ rest)).depth + limit = limit := by
    cases done ++ rest <;> exact Nat.zero_add _
  exact follows limit _ _ (Cursor.passes_facing done rest 0) next start

theorem Cursor.facing_inj {place other : Nat} {first second : List SpannedToken}
    (same : Cursor.facing place first = Cursor.facing other second) : first = second := by
  cases first with
  | nil =>
      cases second with
      | nil => rfl
      | cons => cases same
  | cons head rest =>
      cases second with
      | nil => cases same
      | cons =>
          simp only [facing, Cursor.mk.injEq, TokenQueue.mk.injEq, Option.some.injEq] at same
          rw [same.1.1, same.2.1]

theorem Reads.deeper_le {done rest first second : List SpannedToken}
    (one : Reads field .expression (done.map (·.token)) tree (firstKind (rest.map (·.token)))
      levels)
    (two : Reads field .expression (first.map (·.token)) other (firstKind (second.map (·.token)))
      deeper) (same : done ++ rest = first ++ second) : deeper ≤ levels := by
  by_contra short
  have read := (one.settles levels).1 (Nat.lt_succ_self levels)
  obtain ⟨offset, stopped, refused⟩ := (two.settles levels).2 (Nat.lt_of_not_le short)
  rw [same, refused] at read
  cases read

/-- Which expression stands at the front, how far it goes and how many levels it takes
is settled by the tokens. -/
theorem Reads.front_unique {left right first second : List Token}
    (one : Reads field .expression left tree (firstKind first) levels)
    (two : Reads field .expression right other (firstKind second) deeper)
    (same : left ++ first = right ++ second) :
    left = right ∧ first = second ∧ tree = other ∧ levels = deeper := by
  -- the spans do not matter, so any will do
  let spanned : List Token → List SpannedToken := List.map (⟨·, 0, 0⟩)
  have plain : ∀ tokens, (spanned tokens).map (·.token) = tokens := by
    intro tokens
    simp [spanned, Function.comp_def]
  rw [← plain left, ← plain first] at one
  rw [← plain right, ← plain second] at two
  have both : spanned left ++ spanned first = spanned right ++ spanned second := by
    rw [← List.map_append, same, List.map_append]
  have enough := Reads.deeper_le two one both.symm
  have read := (one.settles deeper).1 (Nat.lt_succ_of_le enough)
  rw [both, (two.settles deeper).1 (Nat.lt_succ_self deeper)] at read
  injection read with trees cursors
  have rests : first = second := by
    rw [← plain first, ← Cursor.facing_inj cursors, plain]
  subst rests
  exact ⟨List.append_cancel_right same, rfl, trees.symm,
    Nat.le_antisymm enough (Reads.deeper_le one two both)⟩

end Front

/-! Scopes inside a clause -/

def scopeKinds : List TokenKind := [.logicalNot, .groupOpen]

/-- Behind the token a scope stands, and any other tokens that are read there as the same
expression could stand in its place. -/
inductive HasScope (field : String) (clause : Clause) (before : List Token) (opener : Token)
    (tree : Expr) (next : Option TokenKind) (levels : Nat) : List Token → Prop where
  | intro {scope behind : List Token} {inner : Expr} {depth : Nat}
      (reads : Reads field .expression scope inner ((firstKind behind).or next) depth)
      (replace : ∀ {others deeper},
        Reads field .expression others inner ((firstKind behind).or next) deeper →
        ∃ total ≤ levels + (deeper - depth),
          Reads field clause (before ++ opener :: (others ++ behind)) tree next total) :
      HasScope field clause before opener tree next levels (scope ++ behind)

theorem firstKind_or {tokens : List Token} (some_token : tokens ≠ [])
    (next : Option TokenKind) : (firstKind tokens).or next = firstKind tokens := by
  obtain ⟨token, rest, rfl⟩ := List.exists_cons_of_ne_nil some_token
  rfl

theorem firstKind_opener (before : List Token) (opener : Token) (rest : List Token) :
    firstKind (before ++ opener :: rest) = (firstKind before).or (some opener.kind) := by
  rw [firstKind_append, firstKind_cons]

namespace HasScope

variable {field : String} {clause outer : Clause} {before around : List Token} {opener : Token}
  {tree whole : Expr} {next between : Option TokenKind} {levels total : Nat} {rest : List Token}

theorem ofGroup {closing : Token} {tokens : List Token} (opens : opener.kind = .groupOpen)
    (body : Reads field .expression tokens tree (some .groupClose) levels)
    (closes : closing.kind = .groupClose) :
    HasScope field .group [] opener tree next (levels + 1) (tokens ++ [closing]) := by
  have stands : (firstKind [closing]).or next = some .groupClose := by simp [closes]
  apply HasScope.intro (stands ▸ body)
  intro others deeper other
  exact ⟨deeper + 1, by omega, .group opens (stands ▸ other) closes⟩

theorem ofNot {tokens : List Token} (negates : opener.kind = .logicalNot)
    (operand : Reads field .expression tokens tree next levels) :
    HasScope field .factor [] opener (.not (Spelling.of opener.text) tree) next (levels + 1)
      tokens := by
  rw [← List.append_nil tokens]
  apply HasScope.intro operand
  intro others deeper other
  rw [List.append_nil]
  exact ⟨deeper + 1, by omega, .not negates other⟩

/-- A clause with tokens on both sides of one that holds the scope. -/
theorem within (frame : List Token → List Token) (back : List Token)
    (framed : ∀ tokens, frame (before ++ opener :: tokens) = around ++ opener :: (tokens ++ back))
    (stands : between = (firstKind back).or next)
    (wrap : ∀ {tokens least extra},
      firstKind tokens = (firstKind before).or (some opener.kind) → least ≤ levels + extra →
      Reads field clause tokens tree between least →
      ∃ most ≤ total + extra, Reads field outer (frame tokens) whole next most)
    (inside : HasScope field clause before opener tree between levels rest) :
    HasScope field outer around opener whole next total (rest ++ back) := by
  cases inside with
  | @intro scope behind inner depth reads replace =>
      have same : (firstKind behind).or between = (firstKind (behind ++ back)).or next := by
        rw [firstKind_append, Option.or_assoc, stands]
      rw [List.append_assoc]
      refine .intro (same ▸ reads) fun other => ?_
      obtain ⟨least, enough, reads⟩ := replace (same ▸ other)
      obtain ⟨most, fits, reads⟩ := wrap (firstKind_opener ..) enough reads
      rw [framed, List.append_assoc] at reads
      exact ⟨most, fits, reads⟩

/-- A clause with tokens at most before one that holds the scope. -/
theorem under (frame : List Token → List Token)
    (framed : ∀ tokens, frame (before ++ opener :: tokens) = around ++ opener :: tokens)
    (wrap : ∀ {tokens least extra},
      firstKind tokens = (firstKind before).or (some opener.kind) → least ≤ levels + extra →
      Reads field clause tokens tree next least →
      ∃ most ≤ total + extra, Reads field outer (frame tokens) whole next most)
    (inside : HasScope field clause before opener tree next levels rest) :
    HasScope field outer around opener whole next total rest := by
  have framed : ∀ tokens, frame (before ++ opener :: tokens) = around ++ opener :: (tokens ++ []) :=
    fun tokens => by rw [framed, List.append_nil]
  rw [← List.append_nil rest]
  exact within frame [] framed rfl wrap inside

/-- A clause that is another one and nothing more. -/
theorem same (wrap : ∀ {tokens least},
      firstKind tokens = (firstKind before).or (some opener.kind) →
      Reads field clause tokens tree next least → Reads field outer tokens tree next least)
    (inside : HasScope field clause before opener tree next levels rest) :
    HasScope field outer before opener tree next levels rest :=
  under id (fun _ => rfl) (fun first enough reads => ⟨_, enough, wrap first reads⟩) inside

end HasScope

theorem cons_eq_opener {found opener : Token} {tokens before rest : List Token}
    (parts : found :: tokens = before ++ opener :: rest) (other : found.kind ≠ opener.kind) :
    ∃ early, before = found :: early ∧ tokens = early ++ opener :: rest := by
  rcases List.cons_eq_append_iff.mp parts with ⟨-, own⟩ | inside
  · cases own
    exact absurd rfl other
  · exact inside

/-- One that is not the operator between them stands on one side of it. -/
theorem append_cons_eq_opener {left right before rest : List Token} {operator opener : Token}
    (parts : left ++ operator :: right = before ++ opener :: rest)
    (other : operator.kind ≠ opener.kind) :
    (∃ later, left = before ++ opener :: later ∧ rest = later ++ operator :: right) ∨
      ∃ early, before = left ++ operator :: early ∧ right = early ++ opener :: rest := by
  rcases append_eq_append_cons parts with inside | ⟨early, rfl, same⟩
  · exact .inl inside
  · obtain ⟨later, rfl, tail⟩ := cons_eq_opener same other
    exact .inr ⟨later, rfl, tail⟩

section Scopes

variable {field : String} {clause : Clause} {tokens before rest : List Token} {opener : Token}
  {tree : Expr} {next : Option TokenKind} {levels : Nat}

theorem ReadsValue.scopeless (reads : ReadsValue field tokens tree next) :
    ∀ found ∈ tokens, found.kind ∉ scopeKinds := by
  have bound : ∀ {found : Token} {atom : Atom}, found.atom? = some atom →
      found.kind ∉ scopeKinds := by
    intro found atom same
    rcases Parse.atom_cases same with ⟨kind, -⟩ | ⟨kind, -⟩ <;> simp [scopeKinds, kind]
  cases reads with
  | term kind | phrase kind | regex kind => simp [scopeKinds, kind]
  | range opens first between second closes =>
      simp only [List.forall_mem_cons]
      exact ⟨by simp [scopeKinds, opens], bound first, by simp [scopeKinds, between], bound second,
        by simp [scopeKinds, closes], nofun⟩
  | comparison kind _ bounded _ =>
      simp only [List.forall_mem_cons]
      exact ⟨by simp [scopeKinds, kind], bound bounded, nofun⟩

def Scoped (field : String) (clause : Clause) (tokens : List Token) (tree : Expr)
    (next : Option TokenKind) (levels : Nat) (opener : Token) : Prop :=
  ∀ before rest, tokens = before ++ opener :: rest →
    HasScope field clause before opener tree next levels rest

theorem Scoped.unlike {found : Token} {kind : TokenKind} (opens : opener.kind ∈ scopeKinds)
    (written : found.kind = kind) (closed : kind ∉ scopeKinds) : found.kind ≠ opener.kind := by
  rintro same
  exact closed (written ▸ same ▸ opens)

theorem Scoped.group {opening closing : Token} (opens : opening.kind = .groupOpen)
    (body : Reads field .expression tokens tree (some .groupClose) levels)
    (closes : closing.kind = .groupClose) (other : closing.kind ≠ opener.kind)
    (inside : Scoped field .expression tokens tree (some .groupClose) levels opener) :
    Scoped field .group (opening :: (tokens ++ [closing])) tree next (levels + 1) opener := by
  intro before rest parts
  rcases List.cons_eq_append_iff.mp parts with ⟨rfl, same⟩ | ⟨early, rfl, tail⟩
  · cases same
    exact .ofGroup opens body closes
  · rcases append_cons_eq_opener tail other with ⟨later, rfl, rfl⟩ | ⟨_, -, none⟩
    · apply (inside _ _ rfl).within (fun tokens => opening :: (tokens ++ [closing])) [closing]
        (by simp) (by simp [closes])
      intro _ _ _ _ enough reads
      exact ⟨_, by omega, .group opens reads closes⟩
    · simp at none

theorem Scoped.not {operator : Token} (written : operator.kind = .logicalNot)
    (operand : Reads field .expression tokens tree next levels)
    (inside : Scoped field .expression tokens tree next levels opener) :
    Scoped field .factor (operator :: tokens) (.not (Spelling.of operator.text) tree) next
      (levels + 1) opener := by
  intro before rest parts
  rcases List.cons_eq_append_iff.mp parts with ⟨rfl, same⟩ | ⟨early, rfl, rfl⟩
  · cases same
    exact .ofNot written operand
  · apply (inside _ _ rfl).under (operator :: ·) (fun _ => rfl)
    intro _ _ _ _ enough reads
    exact ⟨_, by omega, .not written reads⟩

theorem Scoped.fieldGroup {name colon : Token} (names : name.kind = .identifier)
    (separates : colon.kind = .fieldSeparator) (opens : opener.kind ∈ scopeKinds)
    (inside : Scoped field .group tokens tree next levels opener) :
    Scoped field .factor (name :: colon :: tokens) (.group name.text tree) next levels
      opener := by
  intro before rest parts
  obtain ⟨_, rfl, tail⟩ := cons_eq_opener parts (unlike opens names (by decide))
  obtain ⟨early, rfl, inner⟩ := cons_eq_opener tail (unlike opens separates (by decide))
  apply (inside _ _ inner).under (name :: colon :: ·) (fun _ => rfl)
  intro _ _ _ _ enough reads
  exact ⟨_, enough, .fieldGroup names separates reads⟩

theorem Scoped.value {name colon : Token} {total : Nat} (names : name.kind = .identifier)
    (separates : colon.kind = .fieldSeparator) (opens : opener.kind ∈ scopeKinds)
    (found : ReadsValue name.text tokens tree next) :
    Scoped field .factor (name :: colon :: tokens) tree next total opener := by
  intro before rest parts
  obtain ⟨_, rfl, tail⟩ := cons_eq_opener parts (unlike opens names (by decide))
  obtain ⟨early, rfl, inner⟩ := cons_eq_opener tail (unlike opens separates (by decide))
  exact absurd opens (found.scopeless opener (by simp [inner]))

section Sides

variable {left right : List Token} {first second : Expr} {operator : Token} {fewer : Nat}

theorem Scoped.or
    (reads : Reads field .disjunction left first (some .logicalOr) levels)
    (written : operator.kind = .logicalOr) (other : operator.kind ≠ opener.kind)
    (later : Reads field .chain right second next fewer)
    (inLeft : Scoped field .disjunction left first (some .logicalOr) levels opener)
    (inRight : Scoped field .chain right second next fewer opener) :
    Scoped field .disjunction (left ++ operator :: right)
      (.binary (.explicitOr (Spelling.of operator.text)) first second) next (max levels fewer)
      opener := by
  intro before rest parts
  rcases append_cons_eq_opener parts other with ⟨behind, rfl, rfl⟩ | ⟨early, rfl, rfl⟩
  · apply (inLeft _ _ rfl).within (· ++ operator :: right) (operator :: right) (by simp)
      (by simp [written])
    intro _ _ _ _ enough reads
    exact ⟨_, by omega, .or reads written later⟩
  · apply (inRight _ _ rfl).under (left ++ operator :: ·) (by simp)
    intro _ _ _ _ enough later
    exact ⟨_, by omega, .or reads written later⟩

theorem Scoped.adjacent
    (reads : Reads field .disjunction left first (firstKind right) levels)
    (later : Reads field .chain right second next fewer)
    (inLeft : Scoped field .disjunction left first (firstKind right) levels opener)
    (inRight : Scoped field .chain right second next fewer opener) :
    Scoped field .disjunction (left ++ right) (.binary .implicitOr first second) next
      (max levels fewer) opener := by
  intro before rest parts
  rcases append_eq_append_cons parts with ⟨behind, rfl, rfl⟩ | ⟨early, rfl, rfl⟩
  · apply (inLeft _ _ rfl).within (· ++ right) right (by simp)
      (firstKind_or later.tokens_ne_nil _).symm
    intro _ _ _ _ enough reads
    exact ⟨_, by omega, .adjacent reads later⟩
  · apply (inRight _ _ rfl).under (left ++ ·) (by simp)
    intro _ _ _ same enough later
    rw [firstKind_opener, ← same] at reads
    exact ⟨_, by omega, .adjacent reads later⟩

theorem Scoped.and
    (reads : Reads field .factor left first (some .logicalAnd) levels)
    (written : operator.kind = .logicalAnd) (other : operator.kind ≠ opener.kind)
    (later : Reads field .chain right second next fewer)
    (inLeft : Scoped field .factor left first (some .logicalAnd) levels opener)
    (inRight : Scoped field .chain right second next fewer opener) :
    Scoped field .chain (left ++ operator :: right)
      (.binary (.and (Spelling.of operator.text)) first second) next (max levels (fewer + 1))
      opener := by
  intro before rest parts
  rcases append_cons_eq_opener parts other with ⟨behind, rfl, rfl⟩ | ⟨early, rfl, rfl⟩
  · apply (inLeft _ _ rfl).within (· ++ operator :: right) (operator :: right) (by simp)
      (by simp [written])
    intro _ _ _ _ enough reads
    exact ⟨_, by omega, .and reads written later⟩
  · apply (inRight _ _ rfl).under (left ++ operator :: ·) (by simp)
    intro _ _ _ _ enough later
    exact ⟨_, by omega, .and reads written later⟩

end Sides

/-- Every NOT and every opening parenthesis of a clause opens a scope. By induction on
the reading: the token belongs to one of the parts, or it is the clause's own. -/
theorem Reads.scoped (reads : Reads field clause tokens tree next levels)
    (opens : opener.kind ∈ scopeKinds) : Scoped field clause tokens tree next levels opener := by
  induction reads with
  | ofGroup _ ih => exact fun _ _ parts => (ih _ _ parts).same fun _ reads => .ofGroup reads
  | ofDisjunction _ bare ends ih =>
      intro before rest parts
      rw [parts, firstKind_opener] at bare
      exact (ih _ _ parts).same fun first reads => .ofDisjunction reads (first ▸ bare) ends
  | group own body closes ih =>
      exact .group own body closes (Scoped.unlike opens closes (by decide)) ih
  | first _ ih => exact fun _ _ parts => (ih _ _ parts).same fun _ reads => .first reads
  | or first written second ihLeft ihRight =>
      exact .or first written (Scoped.unlike opens written (by decide)) second ihLeft ihRight
  | adjacent first second ihLeft ihRight => exact .adjacent first second ihLeft ihRight
  | last _ stops ih => exact fun _ _ parts => (ih _ _ parts).same fun _ reads => .last reads stops
  | and first written second ihLeft ihRight =>
      exact .and first written (Scoped.unlike opens written (by decide)) second ihLeft ihRight
  | not written operand ih => exact .not written operand ih
  | paren _ ih => exact fun _ _ parts => (ih _ _ parts).same fun _ reads => .paren reads
  | word kind | phrase kind =>
      intro before rest parts
      obtain ⟨_, -, none⟩ := cons_eq_opener parts (Scoped.unlike opens kind (by decide))
      simp at none
  | value names separates found => exact .value names separates opens found
  | fieldGroup names separates _ ih => exact .fieldGroup names separates opens ih

/-- In the place of a scope any tokens may stand that are read there as the same
expression. -/
theorem Reads.exchange {first second behind : List Token} {inner : Expr} {depth deeper : Nat}
    (reads : Reads field clause (before ++ opener :: (first ++ behind)) tree none levels)
    (opens : opener.kind ∈ scopeKinds)
    (one : Reads field .expression first inner (firstKind behind) depth)
    (other : Reads field .expression second inner (firstKind behind) deeper) :
    ∃ total ≤ levels + (deeper - depth),
      Reads field clause (before ++ opener :: (second ++ behind)) tree none total := by
  have inside := reads.scoped opens _ _ rfl
  generalize parts : first ++ behind = rest at inside
  cases inside with
  | intro found replace =>
      simp only [Option.or_none] at found replace
      obtain ⟨rfl, rfl, rfl, rfl⟩ := one.front_unique found parts
      exact replace other

end Scopes

/-! Negation -/

section Negation

variable {field : String} {limit enough : Nat} {pre operand post : List SpannedToken}
  {negation opening closing : SpannedToken} {inner : Query}

/-- Up to the end of the clause around it a NOT reaches as far without parentheses as
with them, whatever stands before it and whatever the operand begins with. -/
theorem parseTokens_not_group_iff (negates : negation.kind = .logicalNot)
    (opens : opening.kind = .groupOpen) (closes : closing.kind = .groupClose)
    (accepted : parseTokens ⟨field, enough⟩ operand = .ok inner)
    (closed : ∀ found, post.head? = some found → found.kind = .groupClose)
    (room : pre.length + 1 + operand.length + post.length ≤ limit) (query : Query) :
    parseTokens ⟨field, limit⟩ (pre ++ negation :: (operand ++ post)) = .ok query ↔
      parseTokens ⟨field, limit⟩
        (pre ++ negation :: opening :: (operand ++ closing :: post)) = .ok query := by
  obtain ⟨depth, whole, -⟩ := parseTokens_ok_iff.mp accepted
  have ends : Ends (firstKind (post.map (·.token))) := by
    cases post with
    | nil => exact .inl rfl
    | cons found later => exact .inr (congrArg some (closed found rfl))
  have plain := whole.before_end ends
  have grouped : Reads field .expression
      (opening.token :: (operand.map (·.token) ++ [closing.token])) inner.body
      (firstKind (post.map (·.token))) (depth + 1) :=
    .ofGroup (.group opens (whole.before_end (.inr rfl)) closes)
  have scope : negation.token.kind ∈ scopeKinds := List.mem_cons.mpr (.inl negates)
  constructor
  · intro answer
    obtain ⟨levels, reads, -⟩ := parseTokens_ok_iff.mp answer
    simp only [List.map_append, List.map_cons] at reads
    -- one level more is opened, and at least one token of the given ones opened none
    have fewer := reads.levels_lt
    obtain ⟨total, most, reads⟩ := reads.exchange scope plain grouped
    simp only [List.length_append, List.length_cons, List.length_map] at fewer
    refine parseTokens_ok_iff.mpr ⟨total, by simpa using reads, ?_⟩
    simp only
    omega
  · intro answer
    obtain ⟨levels, reads, least⟩ := parseTokens_ok_iff.mp answer
    have parts : (pre ++ negation :: opening :: (operand ++ closing :: post)).map (·.token) =
        pre.map (·.token) ++ negation.token ::
          (opening.token :: (operand.map (·.token) ++ [closing.token]) ++ post.map (·.token)) := by
      simp
    rw [parts] at reads
    obtain ⟨total, most, reads⟩ := reads.exchange scope grouped plain
    refine parseTokens_ok_iff.mpr ⟨total, by simpa using reads, ?_⟩
    simp only at least ⊢
    omega

def beforeNegation : List SpannedToken :=
  [⟨⟨.groupOpen, "("⟩, 0, 1⟩, ⟨⟨.identifier, "a"⟩, 1, 2⟩, ⟨⟨.logicalAnd, "AND"⟩, 3, 6⟩]

def negatedTokens : List SpannedToken :=
  [⟨⟨.identifier, "b"⟩, 11, 12⟩, ⟨⟨.logicalOr, "OR"⟩, 13, 15⟩, ⟨⟨.identifier, "c"⟩, 16, 17⟩]

def negatedAlternatives : Query := ⟨.binary (.explicitOr .word) (.term "*" "b") (.term "*" "c")⟩

/-- What `(a AND NOT b OR c)` means, and `(a AND NOT (b OR c))` as well. -/
def conjoinedNegation : Query :=
  ⟨.binary (.and .word) (.term "*" "a") (.not .word negatedAlternatives.body)⟩

theorem parseTokens_not_group_conjoined :
    parseTokens ⟨"*", 0⟩ negatedTokens = .ok negatedAlternatives ∧
      parseTokens ⟨"*", 8⟩ (beforeNegation ++ ⟨⟨.logicalNot, "NOT"⟩, 7, 10⟩ ::
        (negatedTokens ++ [⟨⟨.groupClose, ")"⟩, 17, 18⟩])) = .ok conjoinedNegation ∧
      parseTokens ⟨"*", 8⟩ (beforeNegation ++ ⟨⟨.logicalNot, "NOT"⟩, 7, 10⟩ ::
        ⟨⟨.groupOpen, "("⟩, 10, 11⟩ :: (negatedTokens ++ ⟨⟨.groupClose, ")"⟩, 17, 18⟩ ::
          [⟨⟨.groupClose, ")"⟩, 17, 18⟩])) = .ok conjoinedNegation := by
  have accepted : parseTokens ⟨"*", 0⟩ negatedTokens = .ok negatedAlternatives := by cbv
  have answer : parseTokens ⟨"*", 8⟩ (beforeNegation ++ ⟨⟨.logicalNot, "NOT"⟩, 7, 10⟩ ::
      (negatedTokens ++ [⟨⟨.groupClose, ")"⟩, 17, 18⟩])) = .ok conjoinedNegation := by cbv
  have closed : ∀ found, [(⟨⟨.groupClose, ")"⟩, 17, 18⟩ : SpannedToken)].head? = some found →
      found.kind = .groupClose := by
    rintro _ ⟨⟩
    rfl
  have room : beforeNegation.length + 1 + negatedTokens.length + 1 ≤ 8 := by decide
  exact ⟨accepted, answer,
    (parseTokens_not_group_iff rfl rfl rfl accepted closed room conjoinedNegation).mp answer⟩

end Negation

end SearchQuery
