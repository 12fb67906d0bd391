import SearchQuery.Json.Skip

/-!
Skipping takes one value off the front of a text and looks at its form alone. What is
read as a string or as a natural number is skipped as well, up to the same place.
-/

namespace SearchQuery.Json

section Steps

variable {ε α β : Type} {first : Except ε α}

theorem bind_eq_ok {later : α → Except ε β} {result : β} :
    (first >>= later) = .ok result ↔ ∃ value, first = .ok value ∧ later value = .ok result := by
  cases first with
  | error => simp [bind, Except.bind]
  | ok => simp [bind, Except.bind]

theorem map_eq_ok {change : α → β} {result : β} :
    first.map change = .ok result ↔ ∃ value, first = .ok value ∧ change value = result := by
  cases first with
  | error => simp [Except.map]
  | ok => simp [Except.map]

theorem bind_congr_ok {later other : α → Except ε β}
    (same : ∀ value, first = .ok value → later value = other value) :
    first >>= later = first >>= other := by
  cases first with
  | error => rfl
  | ok value => exact same value rfl

theorem guard_ok {refused : Prop} [Decidable refused] {error : JsonError}
    {later : PUnit → Except JsonError α} {result : α}
    (passed : (if refused then throw error >>= later else later ()) = .ok result) :
    ¬ refused ∧ later () = .ok result := by
  by_cases stops : refused
  · rw [if_pos stops] at passed
    cases passed
  · rw [if_neg stops] at passed
    exact ⟨stops, passed⟩

end Steps

/-! What is left of a text -/

section Suffixes

variable {cs rest : List Char}

theorem skipBlanks_suffix (cs : List Char) : skipBlanks cs <:+ cs := List.dropWhile_suffix _

theorem skipDigits_suffix (cs : List Char) : skipDigits cs <:+ cs := List.dropWhile_suffix _

theorem letters_suffix {word : List Char} (read : letters word cs = .ok ((), rest)) :
    rest <:+ cs := by
  induction word generalizing cs with
  | nil =>
      cases read
      exact List.suffix_refl _
  | cons letter word ih =>
      cases cs with
      | nil => cases read
      | cons c cs =>
          simp only [letters] at read
          split at read
          · exact (ih read).trans (List.suffix_cons c cs)
          · cases read

theorem colon_suffix (read : colon cs = .ok ((), rest)) : ':' :: rest <:+ cs := by
  unfold colon at read
  split at read
  case h_2 here =>
    cases read
    exact here ▸ skipBlanks_suffix cs
  all_goals cases read

theorem fourDigits_suffix {n : Nat} (read : fourDigits cs = .ok (n, rest)) : rest <:+ cs := by
  unfold fourDigits at read
  split at read
  · cases read
  · split at read <;> cases read
    exact List.drop_suffix 4 cs

theorem skippedEscape_suffix (read : skippedEscape cs = .ok ((), rest)) : rest <:+ cs := by
  cases cs with
  | nil => cases read
  | cons c cs =>
      simp only [skippedEscape] at read
      split at read
      · cases read
        exact List.suffix_cons c _
      · split at read
        · obtain ⟨⟨n, behind⟩, digits, same⟩ := map_eq_ok.mp read
          cases same
          exact (fourDigits_suffix digits).trans (List.suffix_cons c cs)
        · cases read

theorem quotedChars_suffix {steps : Nat} {units : List Unit}
    (read : quotedChars skippedEscape (fun _ => ()) steps cs = .ok (units, rest)) :
    rest <:+ cs := by
  induction steps generalizing cs units with
  | zero => cases read
  | succ steps ih =>
      cases cs with
      | nil => cases read
      | cons c cs =>
          simp only [quotedChars] at read
          split at read
          · cases read
            exact List.suffix_cons c _
          · split at read
            · obtain ⟨⟨_, behind⟩, escaped, read⟩ := bind_eq_ok.mp read
              obtain ⟨⟨_, left⟩, later, same⟩ := bind_eq_ok.mp read
              cases same
              exact ((ih later).trans (skippedEscape_suffix escaped)).trans (List.suffix_cons c cs)
            · split at read
              · cases read
              · obtain ⟨⟨_, left⟩, later, same⟩ := bind_eq_ok.mp read
                cases same
                exact (ih later).trans (List.suffix_cons c cs)

theorem skippedString_suffix (read : skippedString cs = .ok ((), rest)) : rest <:+ cs := by
  obtain ⟨⟨_, left⟩, inside, same⟩ := bind_eq_ok.mp read
  cases same
  exact quotedChars_suffix inside

theorem skipSign_suffix (cs : List Char) : (skipSign cs).2 <:+ cs := by
  unfold skipSign
  split
  · exact List.suffix_cons '+' _
  · exact List.suffix_cons '-' _
  · exact List.suffix_refl cs

theorem skippedExponent_suffix (read : skippedExponent cs = .ok rest) : rest <:+ cs := by
  simp only [skippedExponent] at read
  split at read <;> cases read
  exact (skipDigits_suffix _).trans (skipSign_suffix cs)

theorem skippedExponent_behind {c : Char} {behind : List Char} (inside : c :: behind <:+ cs)
    (read : (do return ((), ← skippedExponent behind)) = Except.ok (ε := JsonError) ((), rest)) :
    rest <:+ cs := by
  obtain ⟨left, skipped, same⟩ := bind_eq_ok.mp read
  cases same
  exact (skippedExponent_suffix skipped).trans ((List.suffix_cons c behind).trans inside)

theorem skipDigits_tail (digit : startsWithDigit cs = true) : skipDigits cs <:+ cs.tail := by
  cases cs with
  | nil => cases digit
  | cons c cs =>
      have taken : c.isDigit = true := by simpa [startsWithDigit] using digit
      rw [skipDigits, List.dropWhile_cons_of_pos taken]
      exact skipDigits_suffix cs

/-- A numeral has at least one digit. -/
theorem skippedNumeral_suffix (read : skippedNumeral cs = .ok ((), rest)) : rest <:+ cs.tail := by
  unfold skippedNumeral at read
  obtain ⟨digit, read⟩ := guard_ok read
  have digits : skipDigits cs <:+ cs.tail := skipDigits_tail (by simpa using digit)
  obtain ⟨-, read⟩ := guard_ok read
  simp only at read
  split at read
  case h_1 behind here =>
    rw [here] at digits
    obtain ⟨-, read⟩ := guard_ok read
    have places := (skipDigits_suffix behind).trans ((List.suffix_cons '.' behind).trans digits)
    split at read
    case h_1 | h_2 =>
      rename_i found
      rw [found] at places
      exact skippedExponent_behind places read
    case h_3 =>
      cases read
      exact places
  case h_2 | h_3 =>
    rename_i found
    rw [found] at digits
    exact skippedExponent_behind digits read
  case h_4 =>
    cases read
    exact digits

theorem skipKey_suffix {container : Container} (read : container.skipKey cs = .ok rest) :
    rest <:+ cs := by
  cases container with
  | list =>
      cases read
      exact List.suffix_refl cs
  | object =>
      simp only [Container.skipKey] at read
      have blanks := skipBlanks_suffix cs
      split at read
      case h_2 behind here =>
        obtain ⟨⟨_, left⟩, key, read⟩ := bind_eq_ok.mp read
        obtain ⟨⟨_, value⟩, separated, same⟩ := bind_eq_ok.mp read
        cases same
        rw [here] at blanks
        have after := (List.suffix_cons ':' value).trans (colon_suffix separated)
        exact (after.trans (skippedString_suffix key)).trans
          ((List.suffix_cons '"' behind).trans blanks)
      all_goals cases read

theorem enter_suffix {container : Container} {empty : Bool}
    (read : container.enter cs = .ok (empty, rest)) : rest <:+ cs := by
  unfold Container.enter at read
  have blanks := skipBlanks_suffix cs
  split at read
  · cases read
  · rename_i c behind here
    rw [here] at blanks
    split at read
    · cases read
      exact (List.suffix_cons c _).trans blanks
    · obtain ⟨left, key, same⟩ := map_eq_ok.mp read
      cases same
      exact (skipKey_suffix key).trans blanks

section Values

variable {steps : Nat} {opened : List Container}

def StepsOn (steps : Nat) (opened : List Container) (cs rest : List Char) : Prop :=
  (∃ behind, behind <:+ cs ∧ skipAfter steps opened behind = .ok rest) ∨
    ∃ container inside, inside <:+ cs ∧ skipValue steps (container :: opened) inside = .ok rest

theorem stepsOn_scalar {scan : Scan Unit} {behind : List Char}
    (suffix : ∀ {left}, scan behind = .ok ((), left) → left <:+ cs)
    (read : (do skipAfter steps opened (← scan behind).2) = .ok rest) :
    StepsOn steps opened cs rest := by
  obtain ⟨⟨_, left⟩, scanned, read⟩ := bind_eq_ok.mp read
  exact .inl ⟨left, suffix scanned, read⟩

theorem stepsOn_container {container : Container} {behind : List Char} (inside : behind <:+ cs)
    (read : (do
      let (empty, inside) ← container.enter behind
      if empty then skipAfter steps opened inside
      else skipValue steps (container :: opened) inside) = .ok rest) :
    StepsOn steps opened cs rest := by
  obtain ⟨⟨empty, left⟩, enters, read⟩ := bind_eq_ok.mp read
  have after := (enter_suffix enters).trans inside
  cases empty with
  | true => exact .inl ⟨left, after, read⟩
  | false => exact .inr ⟨container, left, after, read⟩

theorem skipValue_cases (skipped : skipValue (steps + 1) opened cs = .ok rest) :
    StepsOn steps opened cs rest := by
  have begun : ∀ {c : Char} {behind : List Char}, skipBlanks cs = c :: behind → behind <:+ cs := by
    intro c behind here
    exact (List.suffix_cons c behind).trans (here ▸ skipBlanks_suffix cs)
  rw [skipValue] at skipped
  split at skipped
  case h_1 => cases skipped
  case h_2 here | h_3 here | h_4 here =>
    exact stepsOn_scalar (fun word => (letters_suffix word).trans (begun here)) skipped
  case h_5 here =>
    exact stepsOn_scalar (fun string => (skippedString_suffix string).trans (begun here)) skipped
  case h_6 here =>
    exact stepsOn_scalar (fun number => ((skippedNumeral_suffix number).trans
      (List.tail_suffix _)).trans (begun here)) skipped
  case h_7 here | h_8 here => exact stepsOn_container (begun here) skipped
  case h_9 here =>
    split at skipped
    · exact stepsOn_scalar (fun number => (skippedNumeral_suffix number).trans (begun here)) skipped
    · cases skipped

theorem skipAfter_cases {container : Container}
    (skipped : skipAfter (steps + 1) (container :: opened) cs = .ok rest) :
    ∃ behind, behind <:+ cs ∧ (skipValue steps (container :: opened) behind = .ok rest ∨
      skipAfter steps opened behind = .ok rest) := by
  have blanks := skipBlanks_suffix cs
  rw [skipAfter] at skipped
  split at skipped
  · cases skipped
  · rename_i c behind here
    rw [here] at blanks
    have after := (List.suffix_cons c behind).trans blanks
    split at skipped
    · obtain ⟨value, key, read⟩ := bind_eq_ok.mp skipped
      exact ⟨value, (skipKey_suffix key).trans after, .inl read⟩
    · split at skipped
      · exact ⟨behind, after, .inr skipped⟩
      · cases skipped

theorem skipped_suffix (steps : Nat) (opened : List Container) (cs : List Char) :
    (skipValue steps opened cs = .ok rest → rest <:+ cs) ∧
      (skipAfter steps opened cs = .ok rest → rest <:+ cs) := by
  induction steps generalizing opened cs with
  | zero =>
      refine ⟨nofun, fun skipped => ?_⟩
      cases opened with
      | nil =>
          cases skipped
          exact List.suffix_refl _
      | cons => cases skipped
  | succ steps ih =>
      constructor
      · intro skipped
        rcases skipValue_cases skipped with ⟨behind, after, read⟩ | ⟨container, inside, after, read⟩
        · exact ((ih opened behind).2 read).trans after
        · exact ((ih (container :: opened) inside).1 read).trans after
      · intro skipped
        cases opened with
        | nil =>
            cases skipped
            exact List.suffix_refl _
        | cons container opened =>
            obtain ⟨behind, after, read | read⟩ := skipAfter_cases skipped
            · exact ((ih (container :: opened) behind).1 read).trans after
            · exact ((ih opened behind).2 read).trans after

theorem skip_suffix (skipped : skip cs = .ok rest) : rest <:+ cs :=
  (skipped_suffix cs.length [] cs).1 skipped

end Values

end Suffixes

/-! Steps -/

section Bounds

variable {cs inside : List Char} {opened : List Container} {steps others : Nat}

def Agree (steps others : Nat) (cs : List Char) : Prop :=
  ∀ opened, skipValue steps opened cs = skipValue others opened cs ∧
    skipAfter steps opened cs = skipAfter others opened cs

theorem scalar_agrees {scan : Scan Unit} {behind : List Char}
    (suffix : ∀ {left}, scan behind = .ok ((), left) → left <:+ inside)
    (agree : ∀ left, left <:+ inside → Agree steps others left) :
    (do skipAfter steps opened (← scan behind).2) =
      (do skipAfter others opened (← scan behind).2) := by
  apply bind_congr_ok
  rintro ⟨_, left⟩ scanned
  exact (agree left (suffix scanned) opened).2

theorem container_agrees {container : Container}
    (agree : ∀ left, left <:+ inside → Agree steps others left) :
    (do let (empty, rest) ← container.enter inside
        if empty then skipAfter steps opened rest else skipValue steps (container :: opened) rest) =
      (do let (empty, rest) ← container.enter inside
          if empty then skipAfter others opened rest
          else skipValue others (container :: opened) rest) := by
  apply bind_congr_ok
  rintro ⟨empty, left⟩ entered
  have left := agree left (enter_suffix entered)
  simp only [(left opened).2, (left (container :: opened)).1]

theorem agree_nil (steps others : Nat) : Agree steps others [] := by
  intro opened
  have value : ∀ steps, skipValue steps opened [] = .error .truncated := by
    intro steps
    cases steps <;> rfl
  have after : ∀ steps, skipAfter steps opened [] = skipAfter 0 opened [] := by
    intro steps
    cases opened <;> cases steps <;> rfl
  exact ⟨(value steps).trans (value others).symm, (after steps).trans (after others).symm⟩

theorem skipValue_agrees
    (agree : ∀ {c behind}, skipBlanks cs = c :: behind →
      ∀ left, left <:+ behind → Agree steps others left) :
    skipValue (steps + 1) opened cs = skipValue (others + 1) opened cs := by
  rw [skipValue, skipValue]
  split
  case h_1 => rfl
  case h_2 here | h_3 here | h_4 here => exact scalar_agrees letters_suffix (agree here)
  case h_5 here => exact scalar_agrees skippedString_suffix (agree here)
  case h_6 here =>
    exact scalar_agrees skippedNumeral_suffix fun left inside =>
      agree here left (inside.trans (List.tail_suffix _))
  case h_7 here | h_8 here => exact container_agrees (agree here)
  case h_9 here =>
    split
    · exact scalar_agrees skippedNumeral_suffix (agree here)
    · rfl

theorem skipAfter_agrees
    (agree : ∀ {c behind}, skipBlanks cs = c :: behind →
      ∀ left, left <:+ behind → Agree steps others left) :
    skipAfter (steps + 1) opened cs = skipAfter (others + 1) opened cs := by
  cases opened with
  | nil => rfl
  | cons container opened =>
      rw [skipAfter, skipAfter]
      split
      · rfl
      · rename_i c behind here
        split
        · apply bind_congr_ok
          intro value key
          exact (agree here value (skipKey_suffix key) (container :: opened)).1
        · split
          · exact (agree here behind (List.suffix_refl behind) opened).2
          · rfl

theorem agree_of_enough (enough : cs.length ≤ steps) (more : cs.length ≤ others) :
    Agree steps others cs := by
  induction steps generalizing others cs with
  | zero =>
      cases List.length_eq_zero_iff.mp (Nat.le_zero.mp enough)
      exact agree_nil 0 others
  | succ steps ih =>
      cases others with
      | zero =>
          cases List.length_eq_zero_iff.mp (Nat.le_zero.mp more)
          exact agree_nil (steps + 1) 0
      | succ others =>
          have shorter : ∀ {c behind}, skipBlanks cs = c :: behind →
              ∀ left, left <:+ behind → Agree steps others left := by
            intro c behind here left inside
            have size := (here ▸ skipBlanks_suffix cs).length_le
            have less := inside.length_le
            rw [List.length_cons] at size
            exact ih (by omega) (by omega)
          exact fun opened => ⟨skipValue_agrees shorter, skipAfter_agrees shorter⟩

/-- A step for each character is enough: more of them do not change what is skipped. -/
theorem skipValue_steps (enough : cs.length ≤ steps) : skipValue steps [] cs = skip cs :=
  (agree_of_enough enough (Nat.le_refl _) []).1

end Bounds

/-! Strings that are read -/

section Strings

variable {cs rest later : List Char}

def SkipsTo (rest cs : List Char) : Prop :=
  ∀ steps, cs.length ≤ steps →
    ∃ units, quotedChars skippedEscape (fun _ => ()) steps cs = .ok (units, rest)

theorem skipsTo_end (rest : List Char) : SkipsTo rest ('"' :: rest) := by
  intro steps enough
  obtain ⟨fewer, rfl⟩ := Nat.exists_eq_add_of_lt (Nat.lt_of_lt_of_le (Nat.succ_pos _) enough)
  exact ⟨[], rfl⟩

theorem SkipsTo.plain {c : Char} (ordinary : c ≠ '"' ∧ c ≠ '\\') (shown : ¬ c.toNat < 0x20)
    (skips : SkipsTo rest cs) : SkipsTo rest (c :: cs) := by
  intro steps enough
  cases steps with
  | zero => cases enough
  | succ steps =>
      obtain ⟨units, read⟩ := skips steps (Nat.le_of_succ_le_succ enough)
      refine ⟨() :: units, ?_⟩
      simp only [quotedChars, if_neg ordinary.1, if_neg ordinary.2, if_neg shown, read, bind,
        Except.bind]
      rfl

theorem SkipsTo.escape (escaped : skippedEscape cs = .ok ((), later))
    (skips : SkipsTo rest later) : SkipsTo rest ('\\' :: cs) := by
  intro steps enough
  cases steps with
  | zero => cases enough
  | succ steps =>
      have shorter := (skippedEscape_suffix escaped).length_le
      obtain ⟨units, read⟩ := skips steps (Nat.le_trans shorter (Nat.le_of_succ_le_succ enough))
      refine ⟨() :: units, ?_⟩
      simp only [quotedChars, escaped, read, bind, Except.bind]
      rfl

theorem trailingHalf_eq {n : Nat} (read : trailingHalf cs = .ok (n, rest)) :
    ∃ digits, cs = '\\' :: 'u' :: digits ∧ fourDigits digits = .ok (n, rest) := by
  unfold trailingHalf at read
  split at read
  case h_3 digits =>
    obtain ⟨⟨m, left⟩, number, read⟩ := bind_eq_ok.mp read
    simp only at read
    split at read <;> cases read
    exact ⟨digits, rfl, number⟩
  all_goals cases read

theorem skippedEscape_number {n : Nat} (number : fourDigits cs = .ok (n, rest)) :
    skippedEscape ('u' :: cs) = .ok ((), rest) := by
  simp only [skippedEscape, namedEscape?, number]
  rfl

theorem numberedChar_cases {c : Char} (read : numberedChar cs = .ok (c, rest)) :
    ∃ n behind, fourDigits cs = .ok (n, behind) ∧
      (rest = behind ∨ ∃ m, trailingHalf behind = .ok (m, rest)) := by
  obtain ⟨⟨n, behind⟩, number, read⟩ := bind_eq_ok.mp read
  refine ⟨n, behind, number, ?_⟩
  simp only at read
  split at read
  · cases read
  · split at read
    · obtain ⟨⟨m, left⟩, half, same⟩ := bind_eq_ok.mp read
      simp only [pure, Except.pure, Except.ok.injEq, Prod.mk.injEq] at same
      exact .inr ⟨m, same.2 ▸ half⟩
    · simp only [pure, Except.pure, Except.ok.injEq, Prod.mk.injEq] at read
      exact .inl read.2.symm

/-- A character that is read takes one escape to skip, or two where it is written in halves. -/
theorem skippedEscape_of_escapedChar {c : Char} (read : escapedChar cs = .ok (c, later)) :
    skippedEscape cs = .ok ((), later) ∨ ∃ half, skippedEscape cs = .ok ((), '\\' :: half) ∧
      skippedEscape half = .ok ((), later) := by
  cases cs with
  | nil => cases read
  | cons sign cs =>
      simp only [escapedChar] at read
      split at read
      case h_1 named =>
        cases read
        refine .inl ?_
        simp only [skippedEscape, named]
      case h_2 =>
        split at read
        case isTrue numbered =>
          subst numbered
          obtain ⟨n, behind, number, rfl | ⟨m, half⟩⟩ := numberedChar_cases read
          · exact .inl (skippedEscape_number number)
          · obtain ⟨digits, rfl, second⟩ := trailingHalf_eq half
            exact .inr ⟨_, skippedEscape_number number, skippedEscape_number second⟩
        case isFalse => cases read

theorem skipsTo_of_quotedChars {steps : Nat} {chars : List Char}
    (read : quotedChars escapedChar id steps cs = .ok (chars, rest)) : SkipsTo rest cs := by
  induction steps generalizing cs chars with
  | zero => cases read
  | succ steps ih =>
      cases cs with
      | nil => cases read
      | cons c cs =>
          simp only [quotedChars] at read
          split at read
          case isTrue closes =>
            cases read
            exact closes ▸ skipsTo_end rest
          case isFalse going =>
            split at read
            case isTrue escapes =>
              obtain ⟨⟨first, behind⟩, escaped, read⟩ := bind_eq_ok.mp read
              obtain ⟨⟨others, left⟩, inside, same⟩ := bind_eq_ok.mp read
              cases same
              subst escapes
              rcases skippedEscape_of_escapedChar escaped with skipped | ⟨half, first, second⟩
              · exact .escape skipped (ih inside)
              · exact .escape first (.escape second (ih inside))
            case isFalse ordinary =>
              split at read
              case isTrue => cases read
              case isFalse shown =>
                obtain ⟨⟨others, left⟩, inside, same⟩ := bind_eq_ok.mp read
                cases same
                exact .plain ⟨going, ordinary⟩ shown (ih inside)

theorem skippedString_of_stringTail {value : String} (read : stringTail cs = .ok (value, rest)) :
    skippedString cs = .ok ((), rest) := by
  obtain ⟨⟨chars, left⟩, inside, same⟩ := bind_eq_ok.mp read
  cases same
  obtain ⟨units, skipped⟩ := skipsTo_of_quotedChars inside cs.length (Nat.le_refl _)
  exact bind_eq_ok.mpr ⟨_, skipped, rfl⟩

end Strings

/-! Natural numbers that are read -/

section Numerals

variable {cs rest : List Char} {n digits : Nat} {shift : Int}

theorem absorb_le (small : n ≤ maxNatural) : (absorb n cs).1 ≤ maxNatural := by
  induction cs generalizing n with
  | nil => exact small
  | cons c cs ih =>
      simp only [absorb]
      split
      · rename_i fits
        exact ih fits.2
      · exact small

theorem skipDigits_absorb (n : Nat) (cs : List Char) :
    skipDigits (absorb n cs).2 = skipDigits cs := by
  induction cs generalizing n with
  | nil => rfl
  | cons c cs ih =>
      simp only [absorb]
      split
      · rename_i fits
        rw [ih, skipDigits, skipDigits, List.dropWhile_cons_of_pos fits.1]
      · rfl

/-! A numeral with a point or an exponent is no natural number. -/

theorem otherNumeral_ne {exponent : Int} :
    otherNumeral digits exponent cs ≠ .ok (.natural n, rest) := by
  unfold otherNumeral
  split <;> exact nofun

theorem exponentPart_ne : exponentPart digits shift cs ≠ .ok (.natural n, rest) := by
  intro read
  obtain ⟨_, _, read⟩ := bind_eq_ok.mp read
  exact otherNumeral_ne read

theorem fractionPart_ne : fractionPart digits shift cs ≠ .ok (.natural n, rest) := by
  intro read
  obtain ⟨_, _, read⟩ := bind_eq_ok.mp read
  simp only [afterDigits] at read
  split at read
  · exact exponentPart_ne read
  · exact exponentPart_ne read
  · exact otherNumeral_ne read

theorem startsWithDigit_of_needDigit (digit : needDigit cs = .ok ()) :
    startsWithDigit cs = true := by
  unfold needDigit at digit
  split at digit
  · cases digit
  · rename_i c behind
    split at digit
    · rename_i here
      simpa [startsWithDigit] using here
    · cases digit

/-- The form of a natural number: digits of which the first is no idle zero. -/
structure Natural (cs rest : List Char) : Prop where
  digit : startsWithDigit cs = true
  shortest : ¬ (cs.head? = some '0' ∧ startsWithDigit (cs.drop 1) = true)
  ended : skipDigits cs = rest
  whole : ∀ c, rest.head? = some c → c ≠ '.' ∧ c ≠ 'e' ∧ c ≠ 'E'

theorem numeral_natural (read : numeral false cs = .ok (.natural n, rest)) :
    Natural cs rest ∧ n ≤ maxNatural := by
  obtain ⟨_, digit, read⟩ := bind_eq_ok.mp read
  obtain ⟨shortest, read⟩ := guard_ok read
  simp only [skipDigits_absorb] at read
  have small : (absorb 0 cs).1 ≤ maxNatural := absorb_le (Nat.zero_le _)
  split at read
  case h_1 => exact absurd read fractionPart_ne
  case h_2 | h_3 => exact absurd read exponentPart_ne
  case h_4 noPoint noSmall noCapital =>
    split at read
    · exact absurd read otherNumeral_ne
    · cases read
      refine ⟨⟨startsWithDigit_of_needDigit digit, shortest, rfl, fun c head => ?_⟩, small⟩
      obtain ⟨behind, here⟩ := List.head?_eq_some_iff.mp head
      refine ⟨?_, ?_, ?_⟩ <;> rintro rfl
      · exact noPoint behind here
      · exact noSmall behind here
      · exact noCapital behind here

theorem Natural.skipped (natural : Natural cs rest) : skippedNumeral cs = .ok ((), rest) := by
  obtain ⟨digit, shortest, ended, whole⟩ := natural
  unfold skippedNumeral
  simp only [digit, shortest, ended, Bool.not_true, Bool.false_eq_true, ↓reduceIte]
  split
  · exact absurd rfl (whole '.' rfl).1
  · exact absurd rfl (whole 'e' rfl).2.1
  · exact absurd rfl (whole 'E' rfl).2.2
  · rfl

end Numerals

/-! Values that are read -/

section Values

variable {cs inside rest : List Char}

theorem skip_value {c : Char} (begins : skipBlanks cs = c :: inside) :
    ∃ steps, skip cs = skipValue (steps + 1) [] cs := by
  cases cs with
  | nil => cases begins
  | cons first cs => exact ⟨cs.length, rfl⟩

theorem skip_string (opens : skipBlanks cs = '"' :: inside)
    (skipped : skippedString inside = .ok ((), rest)) : skip cs = .ok rest := by
  obtain ⟨steps, same⟩ := skip_value opens
  rw [same, skipValue, opens]
  simp only [skipped, bind, Except.bind, skipAfter]

theorem skip_natural {c : Char} (begins : skipBlanks cs = c :: inside) (digit : c.isDigit = true)
    (natural : Natural (c :: inside) rest) : skip cs = .ok rest := by
  obtain ⟨steps, same⟩ := skip_value begins
  rw [same, skipValue, begins]
  split
  case h_9 here =>
    cases here
    simp only [digit, natural.skipped, bind, Except.bind, skipAfter, ↓reduceIte]
  case h_1 here => cases here
  all_goals
    rename_i here
    cases here
    exact absurd digit (by decide)

end Values

end SearchQuery.Json
