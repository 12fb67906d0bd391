import SearchQuery.Json.Printer
import SearchQuery.Json.Value

/-!
Reading JSON text back. Whatever value is written with indentation, and whatever characters
its strings hold, the text is read as this value.
-/

namespace SearchQuery.Json

/-! Strings -/

theorem fourDigits_control {n : Nat} (control : n < 0x20) (rest : List Char) :
    fourDigits ('0' :: '0' :: (n / 16).digitChar :: (n % 16).digitChar :: rest) =
      .ok (n, rest) := by
  have digits : ∀ n : Fin 0x20, Text.byteLength
        ['0', '0', (n.val / 16).digitChar, (n.val % 16).digitChar] = 4 ∧
      hexNumber? ['0', '0', (n.val / 16).digitChar, (n.val % 16).digitChar] = some n.val := by
    decide
  obtain ⟨size, number⟩ := digits ⟨n, control⟩
  simp only [fourDigits, List.take_succ_cons, List.take_zero, List.drop_succ_cons, List.drop_zero,
    size, number]
  rfl

theorem numberedChar_control {c : Char} (control : c.toNat < 0x20) (rest : List Char) :
    numberedChar ('0' :: '0' :: (c.toNat / 16).digitChar :: (c.toNat % 16).digitChar :: rest) =
      .ok (c, rest) := by
  have notTrailing : isTrailingHalf c.toNat = false := by
    simp [isTrailingHalf]
    omega
  have notLeading : isLeadingHalf c.toNat = false := by
    simp [isLeadingHalf]
    omega
  simp only [numberedChar, fourDigits_control control, bind, Except.bind, notTrailing, notLeading,
    Bool.false_eq_true, ↓reduceIte, Char.ofNat_toNat]
  rfl

/-- A character that was escaped is read as itself. -/
theorem quotedChars_escapeChar (c : Char) {steps : Nat} {rest chars behind : List Char}
    (later : quotedChars escapedChar id steps rest = .ok (chars, behind)) :
    quotedChars escapedChar id (steps + 1) (escapeChar c ++ rest) = .ok (c :: chars, behind) := by
  unfold escapeChar
  split
  case h_8 quotation backslash _ _ _ _ _ =>
    split
    case isTrue control =>
      have escaped : escapedChar ('u' :: '0' :: '0' :: (c.toNat / 16).digitChar ::
          (c.toNat % 16).digitChar :: rest) = .ok (c, rest) := by
        rw [← numberedChar_control control rest]
        rfl
      simp only [quotedChars, List.cons_append, List.nil_append, escaped, later, bind, Except.bind]
      rfl
    case isFalse shown =>
      simp only [quotedChars, List.cons_append, List.nil_append, if_neg quotation,
        if_neg backslash, if_neg shown, later, bind, Except.bind]
      rfl
  all_goals
    simp only [quotedChars, escapedChar, namedEscape?, List.cons_append, List.nil_append, later,
      bind, Except.bind]
    rfl

theorem quotedChars_escaped {chars : List Char} {steps : Nat} (enough : chars.length < steps)
    (rest : List Char) :
    quotedChars escapedChar id steps (chars.flatMap escapeChar ++ '"' :: rest) =
      .ok (chars, rest) := by
  induction chars generalizing steps with
  | nil =>
      cases steps with
      | zero => cases enough
      | succ steps => rfl
  | cons c chars ih =>
      cases steps with
      | zero => cases enough
      | succ steps =>
          rw [List.flatMap_cons, List.append_assoc]
          exact quotedChars_escapeChar c (ih (Nat.lt_of_succ_lt_succ enough))

theorem escapeChar_ne_nil (c : Char) : escapeChar c ≠ [] := by
  unfold escapeChar
  split
  case h_8 => split <;> exact List.cons_ne_nil _ _
  all_goals exact List.cons_ne_nil _ _

theorem length_le_escaped (chars : List Char) :
    chars.length ≤ (chars.flatMap escapeChar).length := by
  induction chars with
  | nil => exact Nat.le_refl 0
  | cons c chars ih =>
      have positive := List.length_pos_iff.mpr (escapeChar_ne_nil c)
      rw [List.flatMap_cons, List.length_append, List.length_cons]
      omega

theorem toList_quote (s : String) (rest : List Char) :
    (quote s).toList ++ rest = '"' :: (s.toList.flatMap escapeChar ++ '"' :: rest) := by
  simp [quote]

theorem stringTail_escaped (s : String) (rest : List Char) :
    stringTail (s.toList.flatMap escapeChar ++ '"' :: rest) = .ok (s, rest) := by
  have enough : s.toList.length < (s.toList.flatMap escapeChar ++ '"' :: rest).length := by
    have fewer := length_le_escaped s.toList
    rw [List.length_append, List.length_cons]
    omega
  simp only [stringTail, quotedChars_escaped enough, bind, Except.bind, String.ofList_toList]
  rfl

/-! Blanks -/

theorem skipBlanks_line {c : Char} (shown : isJsonBlank c = false) (level : Nat)
    (rest : List Char) :
    skipBlanks ('\n' :: ((indentation level).toList ++ c :: rest)) = c :: rest := by
  have blanks : ∀ d ∈ '\n' :: (indentation level).toList, isJsonBlank d = true := by
    intro d member
    simp only [indentation, String.toList_ofList, List.mem_cons, List.mem_replicate] at member
    rcases member with rfl | ⟨-, rfl⟩ <;> rfl
  rw [skipBlanks, ← List.cons_append, List.dropWhile_append_of_pos blanks,
    List.dropWhile_cons_of_neg (by simp [shown])]

theorem readValue_blank (steps : Nat) (cs : List Char) :
    readValue steps (' ' :: cs) = readValue steps cs := by
  have skipped : skipBlanks (' ' :: cs) = skipBlanks cs := rfl
  cases steps with
  | zero => rfl
  | succ steps => simp only [readValue, skipped]

/-! Members -/

def front (first : Bool) : List Char := if first then ['\n'] else [',', '\n']

theorem nextKey_first {cs rest : List Char} {key : String}
    (skipped : skipBlanks cs = '"' :: (key.toList.flatMap escapeChar ++ '"' :: rest)) :
    Config.nextKey true cs = .ok (some key, rest) := by
  have taken : Config.nextKey true cs =
      (stringTail (key.toList.flatMap escapeChar ++ '"' :: rest)).map
        fun pair => (some pair.1, pair.2) := by
    unfold Config.nextKey
    rw [skipped]
    rfl
  rw [taken, stringTail_escaped]
  rfl

theorem nextKey_later {cs rest : List Char} {key : String}
    (skipped : skipBlanks cs = '"' :: (key.toList.flatMap escapeChar ++ '"' :: rest)) :
    Config.nextKey false (',' :: cs) = .ok (some key, rest) := by
  have comma : skipBlanks (',' :: cs) = ',' :: cs := rfl
  have taken : Config.nextKey false (',' :: cs) =
      (stringTail (key.toList.flatMap escapeChar ++ '"' :: rest)).map
        fun pair => (some pair.1, pair.2) := by
    unfold Config.nextKey
    rw [comma]
    simp [skipped]
  rw [taken, stringTail_escaped]
  rfl

theorem nextKey_front (first : Bool) (level : Nat) (key : String) (rest : List Char) :
    Config.nextKey first
        (front first ++ ((indentation level).toList ++ ((quote key).toList ++ rest))) =
      .ok (some key, rest) := by
  have skipped := skipBlanks_line (c := '"') rfl level
    (key.toList.flatMap escapeChar ++ '"' :: rest)
  rw [toList_quote]
  cases first with
  | true => exact nextKey_first skipped
  | false => exact nextKey_later skipped

theorem nextKey_closing (level : Nat) (rest : List Char) :
    Config.nextKey false ('\n' :: ((indentation level).toList ++ '\x7d' :: rest)) =
      .ok (none, rest) := by
  unfold Config.nextKey
  rw [skipBlanks_line rfl]
  rfl

/-- A member is read if its value and those behind it are. -/
theorem readMembers_front {steps level : Nat} {first : Bool} {key : String} {value : Json}
    {later : List (String × Json)} {behind rest : List Char}
    (here : readValue steps ((pretty level value).toList ++ behind) = .ok (value, behind))
    (others : readMembers steps false behind = .ok (later, rest)) :
    readMembers (steps + 1) first
        (front first ++ ((prettyMember level (key, value)).toList ++ behind)) =
      .ok ((key, value) :: later, rest) := by
  have parts : (prettyMember level (key, value)).toList ++ behind =
      (indentation level).toList ++ ((quote key).toList ++
        ':' :: ' ' :: ((pretty level value).toList ++ behind)) := by
    simp [prettyMember]
  rw [parts, readMembers, nextKey_front]
  have separated : ∀ cs, colon (':' :: cs) = .ok ((), cs) := fun _ => rfl
  simp only [bind, Except.bind, separated, readValue_blank, here, others]
  rfl

/-! Values -/

/-- What an object inherits from the values of its members holds of every value. -/
theorem members_induction {motive : Json → Prop} (bool : ∀ value, motive (.bool value))
    (string : ∀ value, motive (.string value))
    (object : ∀ members : List (String × Json), (∀ member ∈ members, motive member.2) →
      motive (.object members)) (json : Json) : motive json :=
  @Json.rec motive (fun members => ∀ member ∈ members, motive member.2)
    (fun member => motive member.2) bool string object nofun
    (fun _ _ here later => List.forall_mem_cons.mpr ⟨here, later⟩) (fun _ _ below => below) json

/-- The value is read as itself where it is written, whatever stands behind it. -/
def Rereads (level : Nat) (value : Json) : Prop :=
  ∀ (steps : Nat) (rest : List Char), (pretty level value).length ≤ steps →
    readValue steps ((pretty level value).toList ++ rest) = .ok (value, rest)

theorem length_prettyMember (level : Nat) (key : String) (value : Json) :
    (prettyMember level (key, value)).length =
      (indentation level).length + (quote key).length + 2 + (pretty level value).length := by
  simp only [prettyMember, String.length_append]
  rfl

theorem readMembers_pretty {level outer : Nat} {members : List (String × Json)}
    (below : ∀ member ∈ members, Rereads level member.2) {steps : Nat}
    (enough : (prettyMembers level members).length < steps) (rest : List Char) :
    readMembers steps false ((prettyMembers level members).toList ++
        '\n' :: ((indentation outer).toList ++ '\x7d' :: rest)) =
      .ok (members, rest) := by
  induction members generalizing steps with
  | nil =>
      obtain ⟨steps, rfl⟩ := Nat.exists_eq_add_of_lt enough
      simp only [prettyMembers, String.toList_empty, List.nil_append, readMembers,
        nextKey_closing, bind, Except.bind]
      rfl
  | cons member later ih =>
      obtain ⟨key, value⟩ := member
      rw [List.forall_mem_cons] at below
      have size : (prettyMembers level ((key, value) :: later)).length =
          2 + (prettyMember level (key, value)).length + (prettyMembers level later).length := by
        simp only [prettyMembers, String.length_append]
        rfl
      rw [length_prettyMember] at size
      cases steps with
      | zero => cases enough
      | succ steps =>
          have parts : ∀ cs, (prettyMembers level ((key, value) :: later)).toList ++ cs =
              front false ++ ((prettyMember level (key, value)).toList ++
                ((prettyMembers level later).toList ++ cs)) := by
            simp [prettyMembers, front]
          rw [parts]
          have room : (pretty level value).length ≤ steps := by omega
          exact readMembers_front (below.1 steps _ room) (ih below.2 (by omega))

theorem length_pretty_pos (level : Nat) (value : Json) : 0 < (pretty level value).length := by
  have mark : "\"".length = 1 := rfl
  have brace : "\x7d".length = 1 := rfl
  cases value with
  | bool value => cases value <;> (rw [pretty]; decide)
  | string value =>
      simp only [pretty, quote, String.length_append, mark]
      omega
  | object members =>
      cases members with
      | nil =>
          rw [pretty]
          decide
      | cons member later =>
          simp only [pretty, String.length_append, brace]
          omega

theorem exists_step {level steps : Nat} {value : Json}
    (enough : (pretty level value).length ≤ steps) : ∃ fewer, steps = fewer + 1 :=
  Nat.exists_eq_succ_of_ne_zero
    (Nat.ne_of_gt (Nat.lt_of_lt_of_le (length_pretty_pos level value) enough))

theorem readValue_object {steps : Nat} {cs rest : List Char} {members : List (String × Json)}
    (inside : readMembers steps true cs = .ok (members, rest)) :
    readValue (steps + 1) ('\x7b' :: cs) = .ok (.object members, rest) := by
  have here : skipBlanks ('\x7b' :: cs) = '\x7b' :: cs := rfl
  rw [readValue, here]
  simp only [inside, bind, Except.bind]
  rfl

theorem rereads_object {level : Nat} {members : List (String × Json)}
    (below : ∀ member ∈ members, Rereads (level + 1) member.2) :
    Rereads level (.object members) := by
  intro steps rest enough
  cases members with
  | nil =>
      have size : (pretty level (.object [])).length = 2 := by
        rw [pretty]
        rfl
      obtain ⟨fewer, rfl⟩ := Nat.exists_eq_add_of_le (size ▸ enough)
      rw [pretty, Nat.add_comm]
      exact readValue_object rfl
  | cons member later =>
      obtain ⟨key, value⟩ := member
      rw [List.forall_mem_cons] at below
      have size : (pretty level (.object ((key, value) :: later))).length =
          2 + (prettyMember (level + 1) (key, value)).length +
            (prettyMembers (level + 1) later).length + 1 + (indentation level).length + 1 := by
        simp only [pretty, String.length_append]
        rfl
      rw [length_prettyMember] at size
      have parts : (pretty level (.object ((key, value) :: later))).toList ++ rest =
          '\x7b' :: (front true ++ ((prettyMember (level + 1) (key, value)).toList ++
            ((prettyMembers (level + 1) later).toList ++
              '\n' :: ((indentation level).toList ++ '\x7d' :: rest)))) := by
        simp [pretty, front]
      -- A step for the brace and one for the member; the value has what is left.
      obtain ⟨fewer, rfl⟩ : ∃ fewer, steps = fewer + 2 := ⟨steps - 2, by omega⟩
      have room : (pretty (level + 1) value).length ≤ fewer := by omega
      rw [parts]
      apply readValue_object
      exact readMembers_front (below.1 fewer _ room) (readMembers_pretty below.2 (by omega) rest)

/-- By induction on the value: the reader has a step less for what is inside an object, and
that is shorter by a character at least. -/
theorem rereads (value : Json) : ∀ level, Rereads level value := by
  induction value using members_induction with
  | bool value =>
      intro level steps rest enough
      obtain ⟨fewer, rfl⟩ := exists_step enough
      cases value with
      | true => rw [pretty]; rfl
      | false => rw [pretty]; rfl
  | string value =>
      intro level steps rest enough
      obtain ⟨fewer, rfl⟩ := exists_step enough
      have here : skipBlanks ('"' :: (value.toList.flatMap escapeChar ++ '"' :: rest)) =
          '"' :: (value.toList.flatMap escapeChar ++ '"' :: rest) := rfl
      rw [pretty, toList_quote, readValue, here]
      simp only [stringTail_escaped, bind, Except.bind]
      rfl
  | object members below =>
      intro level
      exact rereads_object fun member inside => below member inside (level + 1)

theorem read_pretty (level : Nat) (value : Json) : read (pretty level value) = .ok value := by
  have taken := rereads value level (pretty level value).length [] (Nat.le_refl _)
  rw [List.append_nil] at taken
  simp only [read, taken, bind, Except.bind]
  rfl

end SearchQuery.Json
