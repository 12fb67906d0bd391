import Mathlib
import SearchQuery.Proofs.Reprint

/-!
Printing and parsing undo each other. A tree that was parsed is parsed again from its
printed text, within twice the levels of the first time, unless a bare bound of a
comparison runs into the relation before it.
-/

namespace SearchQuery

structure Expr.Readable (e : Expr) : Prop where
  shaped : e.Shaped
  bare : e.opensWithGroup = false
  spelt : ∀ found ∈ e.tokens, found.Spelt
  clears : e.tokens.Pairwise Clears

namespace Expr.Readable

variable {e : Expr} (readable : e.Readable)

include readable

theorem reads : Reads implicitField .expression e.tokens e none e.levels :=
  (readsBack e readable.shaped).expression readable.bare (.inl rfl)

theorem lexes (unglued : e.Unglued) : Lexes e.print.toList e.tokens :=
  lexes_print readable.spelt readable.clears unglued

theorem parse_print {limit : Nat} (unglued : e.Unglued) (enough : e.levels ≤ limit) :
    parseWith ⟨implicitField, limit⟩ e.print = .ok ⟨e⟩ :=
  parseWith_of_reads (readable.lexes unglued) readable.reads enough

theorem refuse_print {limit : Nat} (unglued : e.Unglued) (tight : limit < e.levels) :
    ∃ offset, parseWith ⟨implicitField, limit⟩ e.print =
      .error (.grammatical (.tooDeep limit offset)) :=
  parseWith_refused (readable.lexes unglued) readable.reads tight

end Expr.Readable

section Parsed

variable {source : String} {limit : Nat} {query : Query}

theorem readable_of_parse (accepted : parseWith ⟨implicitField, limit⟩ source = .ok query) :
    query.body.Readable ∧ query.body.levels ≤ 2 * limit := by
  obtain ⟨tokens, levels, lexes, reads, enough⟩ := parseWith_ok accepted
  have same := reads.reprints lexes.spelt
  have least := reads.printed_levels_le
  refine ⟨⟨reads.shaped lexes.spelt, reads.bare, same.spelt lexes.spelt,
    same.clears lexes.spelt lexes.clears⟩, ?_⟩
  simp only [slack] at least
  exact Nat.le_trans least (Nat.mul_le_mul_left 2 enough)

/-- Twice the levels are enough, since only the parentheses after a NOT are new. -/
theorem parse_print_of_parse {deeper : Nat}
    (accepted : parseWith ⟨implicitField, limit⟩ source = .ok query)
    (unglued : query.body.Unglued) (room : 2 * limit ≤ deeper) :
    parseWith ⟨implicitField, deeper⟩ query.print = .ok query := by
  obtain ⟨readable, least⟩ := readable_of_parse accepted
  exact readable.parse_print unglued (Nat.le_trans least room)

/-- What `!!'a"b' c:{1 TO 2]` means. Printed, it takes twice the levels. -/
def doubleNegation : Query :=
  ⟨.not .symbol (.not .symbol (.binary .implicitOr (.phrase "*" "a\"b")
    (.range "c" ⟨.term "1", .gt⟩ ⟨.term "2", .le⟩)))⟩

theorem parse_print_doubleNegation :
    parseWith ⟨implicitField, 2⟩ "!!'a\"b' c:\x7b1 TO 2]" = .ok doubleNegation ∧
      doubleNegation.body.Unglued ∧ doubleNegation.body.levels = 2 * 2 ∧
      parseWith ⟨implicitField, 4⟩ doubleNegation.print = .ok doubleNegation := by
  have accepted : parseWith ⟨implicitField, 2⟩ "!!'a\"b' c:\x7b1 TO 2]" = .ok doubleNegation := by
    cbv
  have unglued : doubleNegation.body.Unglued := by decide
  have room : 2 * 2 ≤ 4 := by decide
  exact ⟨accepted, unglued, by decide, parse_print_of_parse accepted unglued room⟩

end Parsed

/-! Where the round trip fails -/

/-- The first places that differ hold the same token, requoted. -/
theorem Reprints.parting {before later after : List Token} {found shown : Token}
    (same : Reprints (before ++ found :: later) (before ++ shown :: after))
    (plain : found.isParenthesis = false) (hidden : shown.isParenthesis = false) :
    found.requoted = shown := by
  unfold Reprints at same
  simp only [unwrapped_append, unwrapped_cons plain, unwrapped_cons hidden, List.map_append,
    List.map_cons] at same
  have rest := (List.append_inj same (List.length_map _)).2
  exact (List.cons.inj rest).1

/-- A text in which a bound runs into its relation is not read as the tree it was
printed from. -/
theorem unglued_of_parse_print {e : Expr} {limit : Nat} (readable : e.Readable)
    (accepted : parseWith ⟨implicitField, limit⟩ e.print = .ok ⟨e⟩) : e.Unglued := by
  obtain ⟨tokens, levels, lexes, reads, -⟩ := parseWith_ok accepted
  by_contra glued
  have same := reads.reprints lexes.spelt
  obtain ⟨before, found, relation, later, after, rfl, shown, kind, other⟩ :=
    lexes_print_glued readable.spelt readable.clears glued lexes
  rw [shown] at same
  have plain := Token.isParenthesis_of_kind kind (by decide)
  have shownKind : relation.token.kind = .relationalOperator := rfl
  have hidden := Token.isParenthesis_of_kind shownKind (by decide)
  have equal := same.parting plain hidden
  rw [Token.requoted_eq (by rw [kind]; decide)] at equal
  exact other equal

theorem levels_le_of_parse_print {e : Expr} {limit : Nat} (readable : e.Readable)
    (unglued : e.Unglued) (accepted : parseWith ⟨implicitField, limit⟩ e.print = .ok ⟨e⟩) :
    e.levels ≤ limit := by
  by_contra tight
  obtain ⟨offset, refused⟩ := readable.refuse_print unglued (Nat.lt_of_not_le tight)
  rw [accepted] at refused
  cases refused

/-- With the default settings the printed text is parsed to the same tree exactly if
no bound runs into its relation and the parentheses it gains leave it within the
levels allowed. -/
theorem parse_print_iff {source : String} {query : Query} (accepted : parse source = .ok query) :
    parse query.print = .ok query ↔
      query.body.Unglued ∧ query.body.levels ≤ defaultMaxDepth := by
  obtain ⟨readable, -⟩ :=
    readable_of_parse (show parseWith ⟨implicitField, defaultMaxDepth⟩ source = _ from accepted)
  constructor
  · intro again
    change parseWith ⟨implicitField, defaultMaxDepth⟩ query.body.print = _ at again
    have unglued := unglued_of_parse_print readable again
    exact ⟨unglued, levels_le_of_parse_print readable unglued again⟩
  · rintro ⟨unglued, enough⟩
    exact readable.parse_print unglued enough

def groupedAlternatives : Query :=
  ⟨.binary .implicitOr (.binary (.and .symbol) (.term "*" "x") (.phrase "*" "y"))
    (.binary (.or .symbol false) (.term "*" "z") (.comparison "f" ⟨.term "=w", .le⟩))⟩

theorem parse_print_groupedAlternatives :
    parse "x && 'y' (z || f:<= =w)" = .ok groupedAlternatives ∧
      groupedAlternatives.body.Unglued ∧ groupedAlternatives.body.levels ≤ defaultMaxDepth ∧
      parse groupedAlternatives.print = .ok groupedAlternatives := by
  have accepted : parse "x && 'y' (z || f:<= =w)" = .ok groupedAlternatives := by cbv
  have unglued : groupedAlternatives.body.Unglued := by decide
  have enough : groupedAlternatives.body.levels ≤ defaultMaxDepth := by decide
  exact ⟨accepted, unglued, enough, (parse_print_iff accepted).mpr ⟨unglued, enough⟩⟩

/-- What `f:> =a` means: after the blank, the sign belongs to the bound. -/
def spacedComparison : Query := ⟨.comparison "f" ⟨.term "=a", .gt⟩⟩

/-- It is printed without the blank, and then the sign belongs to the relation. -/
theorem parse_print_spacedComparison :
    parse "f:> =a" = .ok spacedComparison ∧
      parse spacedComparison.print = .ok ⟨.comparison "f" ⟨.term "a", .ge⟩⟩ ∧
      parse spacedComparison.print ≠ .ok spacedComparison := by
  have printed : parse spacedComparison.print = .ok ⟨.comparison "f" ⟨.term "a", .ge⟩⟩ := by cbv
  refine ⟨by cbv, printed, ?_⟩
  rw [printed]
  decide

end SearchQuery
