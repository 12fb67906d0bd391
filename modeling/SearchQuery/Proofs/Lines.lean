import SearchQuery.Proofs.Scanning

/-!
Texts that are made of lines. A newline stands behind every line, behind the last one too,
so a text is made of lines in one way only.
-/

namespace SearchQuery.Text

def ofLines (lines : List String) : String := String.join (lines.map (· ++ "\n"))

/-- The text is made of exactly these lines, none of which has a newline of its own. -/
structure ConsistsOf (text : String) (lines : List String) : Prop where
  parts : text = ofLines lines
  unbroken : ∀ line ∈ lines, '\n' ∉ line.toList

@[simp] theorem ofLines_nil : ofLines [] = "" := rfl

@[simp] theorem ofLines_cons (line : String) (lines : List String) :
    ofLines (line :: lines) = line ++ "\n" ++ ofLines lines := by
  simp [ofLines, String.join_cons]

theorem toList_ofLines_cons (line : String) (lines : List String) :
    (ofLines (line :: lines)).toList = line.toList ++ '\n' :: (ofLines lines).toList := by
  simp

theorem count_ofLines (lines : List String) :
    (ofLines lines).toList.count '\n' =
      lines.length + (lines.flatMap String.toList).count '\n' := by
  induction lines with
  | nil => rfl
  | cons line lines ih =>
      rw [toList_ofLines_cons, List.count_append, List.count_cons_self, ih, List.flatMap_cons,
        List.count_append, List.length_cons]
      omega

/-- There are as many newlines as lines exactly if no line is broken by one. -/
theorem count_ofLines_iff {lines : List String} :
    (ofLines lines).toList.count '\n' = lines.length ↔ ∀ line ∈ lines, '\n' ∉ line.toList := by
  have unbroken_iff : (lines.flatMap String.toList).count '\n' = 0 ↔
      ∀ line ∈ lines, '\n' ∉ line.toList := by
    simp [List.count_eq_zero]
  rw [count_ofLines, ← unbroken_iff]
  omega

theorem ConsistsOf.count {text : String} {lines : List String} (consists : ConsistsOf text lines) :
    text.toList.count '\n' = lines.length := by
  rw [consists.parts]
  exact count_ofLines_iff.mpr consists.unbroken

theorem ofLines_inj {lines others : List String} (unbroken : ∀ line ∈ lines, '\n' ∉ line.toList)
    (whole : ∀ line ∈ others, '\n' ∉ line.toList) (same : ofLines lines = ofLines others) :
    lines = others := by
  have members : ∀ {line : String}, '\n' ∉ line.toList →
      ∀ c ∈ line.toList, (c != '\n') = true := by
    intro line outside c member
    rw [bne_iff_ne]
    rintro rfl
    exact outside member
  have ends : ∀ rest c, ('\n' :: rest).head? = some c → (c != '\n') = false := by
    rintro rest c ⟨⟩
    rfl
  induction lines generalizing others with
  | nil =>
      cases others with
      | nil => rfl
      | cons other others =>
          have sizes := congrArg (·.toList.length) same
          simp at sizes
  | cons line lines ih =>
      cases others with
      | nil =>
          have sizes := congrArg (·.toList.length) same
          simp at sizes
      | cons other others =>
          rw [List.forall_mem_cons] at unbroken whole
          have letters := congrArg String.toList same
          rw [toList_ofLines_cons, toList_ofLines_cons] at letters
          obtain ⟨here, later⟩ := Pattern.run_unique (members unbroken.1) (ends _)
            (members whole.1) (ends _) letters
          injection later with _ later
          rw [String.toList_inj.mp here, ih unbroken.2 whole.2 (String.toList_inj.mp later)]

/-- A text is made of lines in one way only. -/
theorem ConsistsOf.unique {text : String} {lines others : List String}
    (first : ConsistsOf text lines) (second : ConsistsOf text others) : lines = others :=
  ofLines_inj first.unbroken second.unbroken (first.parts.symm.trans second.parts)

end SearchQuery.Text
