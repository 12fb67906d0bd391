import SearchQuery.Proofs.Replay
import SearchQuery.Proofs.Reprint

/-!
The default field of the settings. It decides nothing about what is accepted or where a
reading breaks off. It becomes the field of the words and phrases that were written
with none, also inside a group that has a field of its own.
-/

namespace SearchQuery

/-- The leaves that search everywhere search in the default field instead. -/
def Expr.withDefault (default : String) : Expr → Expr
  | .binary operator left right =>
      .binary operator (left.withDefault default) (right.withDefault default)
  | .not spelling operand => .not spelling (operand.withDefault default)
  | .term field value => .term (if field = implicitField then default else field) value
  | .phrase field value => .phrase (if field = implicitField then default else field) value
  | .regex field value => .regex field value
  | .group field body => .group field (body.withDefault default)
  | .range field lower upper => .range field lower upper
  | .comparison field bound => .comparison field bound

def Query.withDefault (default : String) (query : Query) : Query :=
  ⟨query.body.withDefault default⟩

section Tokens

variable {default : String} {clause : Clause} {tokens done : List Token} {tree : Expr}
  {next : Option TokenKind} {levels limit room : Nat} {ahead : Option Token} {fault : Fault}

theorem ReadsValue.withDefault_eq {name : String} (reads : ReadsValue name tokens tree next)
    (named : name ≠ implicitField) : tree.withDefault default = tree := by
  cases reads <;> simp [Expr.withDefault, named]

/-- The same tokens are read with any default field, by the same clauses. -/
theorem Reads.withDefault (reads : Reads implicitField clause tokens tree next levels)
    (spelt : ∀ found ∈ tokens, found.Spelt) :
    Reads default clause tokens (tree.withDefault default) next levels := by
  induction reads with
  | ofGroup _ ih => exact .ofGroup (ih spelt)
  | ofDisjunction _ bare ends ih => exact .ofDisjunction (ih spelt) bare ends
  | group opens _ closes ih =>
      simp only [List.forall_mem_cons, List.forall_mem_append] at spelt
      exact .group opens (ih spelt.2.1) closes
  | first _ ih => exact .first (ih spelt)
  | or _ written _ before after =>
      simp only [List.forall_mem_append, List.forall_mem_cons] at spelt
      exact .or (before spelt.1) written (after spelt.2.2)
  | adjacent _ _ before after =>
      rw [List.forall_mem_append] at spelt
      exact .adjacent (before spelt.1) (after spelt.2)
  | last _ stops ih => exact .last (ih spelt) stops
  | and _ written _ before after =>
      simp only [List.forall_mem_append, List.forall_mem_cons] at spelt
      exact .and (before spelt.1) written (after spelt.2.2)
  | not written _ ih =>
      rw [List.forall_mem_cons] at spelt
      exact .not written (ih spelt.2)
  | paren _ ih => exact .paren (ih spelt)
  | word kind unnamed => exact .word kind unnamed
  | phrase kind => exact .phrase kind
  | value names separates found =>
      -- no name that was written is the implicit field, so the leaf keeps its own
      rw [List.forall_mem_cons] at spelt
      have named := of_decide_eq_false (spelt.1.field_eq names)
      rw [found.withDefault_eq named]
      exact .value names separates found
  | fieldGroup names separates _ ih =>
      simp only [List.forall_mem_cons] at spelt
      exact .fieldGroup names separates (ih spelt.2.2)

/-- A reading breaks off at the same token and for the same reason. -/
theorem Breaks.withDefault (broken : Breaks implicitField room clause done ahead fault)
    (spelt : ∀ found ∈ done, found.Spelt) : Breaks default room clause done ahead fault := by
  induction broken with
  | ofGroup _ ih => exact .ofGroup (ih spelt)
  | ofDisjunction _ bare ih => exact .ofDisjunction (ih spelt) bare
  | groupRefused opens => exact .groupRefused opens
  | inside opens _ ih =>
      rw [List.forall_mem_cons] at spelt
      exact .inside opens (ih spelt.2)
  | unclosed opens body enough lacks =>
      rw [List.forall_mem_cons] at spelt
      exact .unclosed opens (body.withDefault spelt.2) enough lacks
  | first _ ih => exact .first (ih spelt)
  | or first enough written _ ih =>
      simp only [List.forall_mem_append, List.forall_mem_cons] at spelt
      exact .or (first.withDefault spelt.1) enough written (ih spelt.2.2)
  | adjacent first enough begins goes unwritten _ ih =>
      rw [List.forall_mem_append] at spelt
      exact .adjacent (first.withDefault spelt.1) enough begins goes unwritten (ih spelt.2)
  | last _ ih => exact .last (ih spelt)
  | andRefused first written => exact .andRefused (first.withDefault spelt) written
  | and first enough written _ ih =>
      simp only [List.forall_mem_append, List.forall_mem_cons] at spelt
      exact .and (first.withDefault spelt.1) enough written (ih spelt.2.2)
  | notRefused written => exact .notRefused written
  | not written _ ih =>
      rw [List.forall_mem_cons] at spelt
      exact .not written (ih spelt.2)
  | paren _ ih => exact .paren (ih spelt)
  | stranger lacks => exact .stranger lacks
  | value names separates broken => exact .value names separates broken
  | fieldGroup names separates _ ih =>
      simp only [List.forall_mem_cons] at spelt
      exact .fieldGroup names separates (ih spelt.2.2)

theorem Stops.withDefault (stops : Stops implicitField limit done ahead fault)
    (spelt : ∀ found ∈ done, found.Spelt) : Stops default limit done ahead fault := by
  cases stops with
  | within broken => exact .within (broken.withDefault spelt)
  | beyond whole enough => exact .beyond (whole.withDefault spelt) enough

end Tokens

/-! Parsing -/

theorem parseTokens_withDefault (default : String) (limit : Nat) {tokens : List SpannedToken}
    (spelt : ∀ found ∈ tokens, found.token.Spelt) :
    parseTokens ⟨default, limit⟩ tokens =
      (parseTokens ⟨implicitField, limit⟩ tokens).map (Query.withDefault default) := by
  cases answer : parseTokens ⟨implicitField, limit⟩ tokens with
  | ok query =>
      obtain ⟨levels, reads, enough⟩ := parseTokens_ok_iff.mp answer
      exact parseTokens_ok_iff.mpr
        ⟨levels, reads.withDefault (List.forall_mem_map.mpr spelt), enough⟩
  | error error =>
      obtain ⟨done, rest, fault, rfl, stops, rfl⟩ := parseTokens_error_iff.mp answer
      rw [List.forall_mem_append] at spelt
      exact parseTokens_error_iff.mpr
        ⟨done, rest, fault, rfl, stops.withDefault (List.forall_mem_map.mpr spelt.1), rfl⟩

/-- What is done to an accepted tree does not matter to where the feed ends. -/
theorem pulledAnswer_map (last : Nat) (failure : Option LexError)
    (listed : Except ParseError Query) (change : Query → Query) :
    pulledAnswer last failure (listed.map change) =
      (pulledAnswer last failure listed).map change := by
  cases failure with
  | none => cases listed <;> rfl
  | some failed =>
      cases listed with
      | ok query => rfl
      | error error =>
          by_cases atEnd : error.atEnd = true
          · simp [pulledAnswer, Except.map, reachesEnd, atEnd]
          · simp [pulledAnswer, Except.map, reachesEnd, atEnd]

/-- With any default field a text is parsed as with the implicit one. Where that fails
the error is the same, and else the two trees differ only in the leaves that were
written without a field. -/
theorem parseWith_withDefault (default : String) (limit : Nat) (source : String) :
    parseWith ⟨default, limit⟩ source =
      (parseWith ⟨implicitField, limit⟩ source).map (Query.withDefault default) := by
  have spelt := (Tokenizer.ofString source).drain_spelt
  rw [parseWith_eq_pulledAnswer, parseWith_eq_pulledAnswer,
    parseTokens_withDefault default limit spelt, pulledAnswer_map]

example :
    parseWith ⟨"text", 3⟩ "a !(title:(b 'c') d:e) year:>9" =
      .ok ⟨.binary .implicitOr (.binary .implicitOr (.term "text" "a")
        (.not .symbol (.binary .implicitOr
          (.group "title" (.binary .implicitOr (.term "text" "b") (.phrase "text" "c")))
          (.term "d" "e")))) (.comparison "year" ⟨.term "9", .gt⟩)⟩ := by cbv

end SearchQuery
