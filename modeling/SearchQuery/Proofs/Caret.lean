import SearchQuery.Grammar.Excerpt
import SearchQuery.Proofs.Lines
import SearchQuery.Proofs.Pointing

/-!
The excerpt that is shown with an error. The caret stands below the character at the
offset, counted in characters, and the excerpt has two lines unless the query itself is
written on several.
-/

namespace SearchQuery

def caretLine (column : Nat) : String := String.ofList (List.replicate column ' ') ++ "^"

theorem caretLine_unbroken (column : Nat) : '\n' ∉ (caretLine column).toList := by
  simp [caretLine, List.mem_replicate]

/-- At the start of a character the caret is moved by the characters in front of it, and by
the three that stand in front of the query. -/
theorem excerpt_eq_ofLines (before after : String) :
    excerpt (before ++ after) before.utf8ByteSize =
      Text.ofLines [">> " ++ (before ++ after), caretLine (">> " ++ before).length] := by
  have inside : min before.utf8ByteSize (Text.byteLength (before ++ after).toList) =
      Text.byteLength before.toList := by
    simp
  have column : caretColumn (before ++ after) before.utf8ByteSize = before.length := by
    simp only [caretColumn, inside]
    rw [String.toList_append, Text.column_byteLength]
    rfl
  have moved : (">> " ++ before).length = 3 + before.length := by
    rw [String.length_append]
    rfl
  rw [← String.toList_inj]
  simp [excerpt, column, caretLine, moved, List.replicate_add, List.replicate]

/-- Two lines, the second of which marks a character of the first, are all there is exactly
if the query has no newline. -/
theorem twoLines_iff {source context marks : String} (unbroken : '\n' ∉ marks.toList)
    (parts : context = Text.ofLines [">> " ++ source, marks]) :
    (∃ first second, Text.ConsistsOf context [first, second]) ↔ '\n' ∉ source.toList := by
  subst parts
  constructor
  · rintro ⟨first, second, consists⟩
    have counted : (Text.ofLines [">> " ++ source, marks]).toList.count '\n' = 2 := consists.count
    have lines := Text.count_ofLines_iff.mp counted (">> " ++ source) List.mem_cons_self
    simpa using lines
  · intro outside
    refine ⟨_, _, rfl, ?_⟩
    simp only [List.forall_mem_cons]
    exact ⟨by simpa using outside, unbroken, nofun⟩

/-- The excerpt for an error of a query is the query behind its mark and a caret below the
character at which the error is, or behind the last one; the two are lines exactly if no
newline stands in the query. -/
theorem excerpt_of_refused {source : String} {error : ParseError}
    (refused : parse source = .error error) :
    ∃ before after, source = before ++ after ∧ before.utf8ByteSize = error.offset ∧
      excerpt source error.offset =
        Text.ofLines [">> " ++ source, caretLine (">> " ++ before).length] ∧
      ((∃ first second, Text.ConsistsOf (excerpt source error.offset) [first, second]) ↔
        '\n' ∉ source.toList) := by
  unfold parse at refused
  rw [parseWith_eq_pulledAnswer] at refused
  have cuts := (Tokenizer.ofString source).drain_cuts
  have points := pulledAnswer_points cuts (Tokenizer.ofString source).drain_spelt refused
  obtain ⟨piece, before, after, rfl, stands⟩ := points.standsAt
  rw [String.append_assoc, ← stands]
  have parts := excerpt_eq_ofLines before (piece ++ after)
  exact ⟨before, piece ++ after, rfl, rfl, parts, twoLines_iff (caretLine_unbroken _) parts⟩

/-- A tabulator and two letters of two bytes stand before the star that begins no token. -/
theorem excerpt_of_refused_star :
    parse "\t'é ü' AND b *ü" = .error (.lexical ⟨15, '*'⟩) ∧
      ∃ before after, "\t'é ü' AND b *ü" = before ++ after ∧ before.utf8ByteSize = 15 ∧
        excerpt "\t'é ü' AND b *ü" 15 =
          Text.ofLines [">> " ++ "\t'é ü' AND b *ü", caretLine (">> " ++ before).length] ∧
        ((∃ first second, Text.ConsistsOf (excerpt "\t'é ü' AND b *ü" 15) [first, second]) ↔
          '\n' ∉ "\t'é ü' AND b *ü".toList) := by
  have refused : parse "\t'é ü' AND b *ü" = .error (.lexical ⟨15, '*'⟩) := by cbv
  exact ⟨refused, excerpt_of_refused refused⟩

/-- A query on two lines is shown on two, and the caret is on a third one. -/
theorem excerpt_not_twoLines :
    parse "a\nAND" = .error (.grammatical (.unexpectedEnd (.token .identifier) 5)) ∧
      excerpt "a\nAND" 5 = ">> a\nAND\n        ^\n" ∧
      ¬ ∃ first second, Text.ConsistsOf (excerpt "a\nAND" 5) [first, second] := by
  have refused : parse "a\nAND" = .error (.grammatical (.unexpectedEnd (.token .identifier) 5)) := by
    cbv
  refine ⟨refused, by cbv, ?_⟩
  rw [show excerpt "a\nAND" 5 = _ from excerpt_eq_ofLines "a\nAND" "",
    twoLines_iff (caretLine_unbroken _) rfl]
  decide

end SearchQuery
