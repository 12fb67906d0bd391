import Mathlib.Data.List.DropRight
import SearchQuery.Config.Decode
import SearchQuery.Proofs.Skipping

/-!
What a configuration says. The value of a key in an object is the setting, given once at
most, and the elements of a list are the settings in their order. Whatever is left out is
decoded to its default.
-/

namespace SearchQuery.Config

open Json

section Values

variable {cs rest : List Char}

theorem skip_of_text {value : String} (read : text cs = .ok (value, rest)) :
    skip cs = .ok rest := by
  unfold text at read
  split at read
  · rename_i opens
    exact skip_string opens (skippedString_of_stringTail read)
  · cases read

theorem natural_cases {n : Nat} (read : natural cs = .ok (n, rest)) :
    ∃ c inside, skipBlanks cs = c :: inside ∧ c.isDigit = true ∧
      numeral false (c :: inside) = .ok (.natural n, rest) := by
  unfold natural at read
  split at read
  · rename_i c inside begins
    split at read
    · rename_i digit
      split at read <;> cases read
      exact ⟨c, inside, begins, digit, by assumption⟩
    · cases read
  · cases read

theorem skip_of_natural {n : Nat} (read : natural cs = .ok (n, rest)) : skip cs = .ok rest := by
  obtain ⟨c, inside, begins, digit, number⟩ := natural_cases read
  exact skip_natural begins digit (numeral_natural number).1

theorem natural_le {n : Nat} (read : natural cs = .ok (n, rest)) : n ≤ maxNatural := by
  obtain ⟨c, inside, -, -, number⟩ := natural_cases read
  exact (numeral_natural number).2

end Values

/-! Objects -/

/-- The entries of an object up to its closing brace: each key with the text that begins with
its value. -/
inductive Entries : (first : Bool) → List Char → List (String × List Char) → List Char → Prop where
  | closed {first : Bool} {cs rest : List Char} (ends : nextKey first cs = .ok (none, rest)) :
      Entries first cs [] rest
  | entry {first : Bool} {cs behind value later rest : List Char} {key : String}
      {entries : List (String × List Char)} (named : nextKey first cs = .ok (some key, behind))
      (separated : colon behind = .ok ((), value)) (skipped : skip value = .ok later)
      (others : Entries false later entries rest) :
      Entries first cs ((key, value) :: entries) rest

def valuesOf (key : String) (entries : List (String × List Char)) : List (List Char) :=
  (entries.filter fun entry => entry.1 = key).map Prod.snd

inductive Fills {α : Type} (read : Scan α) : Option α → List (List Char) → Option α → Prop where
  | kept {setting : Option α} : Fills read setting [] setting
  | given {cs rest : List Char} {value : α} (reads : read cs = .ok (value, rest)) :
      Fills read none [cs] (some value)

theorem fills_nil {α : Type} {read : Scan α} {before after : Option α} :
    Fills read before [] after ↔ after = before := by
  constructor
  · rintro ⟨⟩
    rfl
  · rintro rfl
    exact .kept

theorem fills_singleton {α : Type} {read : Scan α} {before after : Option α} {cs : List Char} :
    Fills read before [cs] after ↔
      before = none ∧ ∃ value rest, read cs = .ok (value, rest) ∧ after = some value := by
  constructor
  · rintro (_ | reads)
    exact ⟨rfl, _, _, reads, rfl⟩
  · rintro ⟨rfl, value, rest, reads, rfl⟩
    exact .given reads

theorem fills_append {α : Type} {read : Scan α} {before after : Option α}
    {values others : List (List Char)} :
    Fills read before (values ++ others) after ↔
      ∃ between, Fills read before values between ∧ Fills read between others after := by
  constructor
  · intro fills
    cases values with
    | nil => exact ⟨before, .kept, fills⟩
    | cons cs values =>
        generalize same : cs :: values ++ others = all at fills
        cases fills with
        | kept => cases same
        | @given _ _ value reads =>
            obtain ⟨rfl, none_left⟩ := List.cons.inj same
            obtain ⟨rfl, rfl⟩ := List.append_eq_nil_iff.mp none_left
            exact ⟨some value, .given reads, .kept⟩
  · rintro ⟨between, first, second⟩
    cases first with
    | kept => exact second
    | given reads =>
        cases second with
        | kept => exact .given reads

structure Takes (given : Given) (entries : List (String × List Char)) (result : Given) : Prop where
  defaultField :
    Fills text given.defaultField (valuesOf "default_field" entries) result.defaultField
  maxDepth : Fills natural given.maxDepth (valuesOf "max_depth" entries) result.maxDepth

section Members

variable {given result : Given} {key : String} {cs rest : List Char}

theorem valuesOf_cons (key : String) (entry : String × List Char)
    (entries : List (String × List Char)) :
    valuesOf key (entry :: entries) = valuesOf key [entry] ++ valuesOf key entries := by
  simp only [valuesOf, ← List.map_append, ← List.filter_append, List.cons_append, List.nil_append]

theorem takes_nil : Takes given [] result ↔ result = given := by
  constructor
  · rintro ⟨first, second⟩
    have field := fills_nil.mp first
    have depth := fills_nil.mp second
    cases result
    cases field
    cases depth
    rfl
  · rintro rfl
    exact ⟨.kept, .kept⟩

theorem takes_cons {entry : String × List Char} {entries : List (String × List Char)} :
    Takes given (entry :: entries) result ↔
      ∃ between, Takes given [entry] between ∧ Takes between entries result := by
  constructor
  · rintro ⟨field, depth⟩
    rw [valuesOf_cons] at field depth
    obtain ⟨named, early, late⟩ := fills_append.mp field
    obtain ⟨limited, before, after⟩ := fills_append.mp depth
    exact ⟨⟨named, limited⟩, ⟨early, before⟩, ⟨late, after⟩⟩
  · rintro ⟨between, ⟨early, before⟩, ⟨late, after⟩⟩
    constructor
    · rw [valuesOf_cons]
      exact fills_append.mpr ⟨_, early, late⟩
    · rw [valuesOf_cons]
      exact fills_append.mpr ⟨_, before, after⟩

theorem takes_defaultField {inside : List Char} :
    Takes given [("default_field", inside)] result ↔
      given.defaultField = none ∧ ∃ value rest, text inside = .ok (value, rest) ∧
        result = { given with defaultField := some value } := by
  constructor
  · rintro ⟨field, depth⟩
    obtain ⟨fresh, value, rest, reads, filled⟩ := fills_singleton.mp field
    have kept := fills_nil.mp depth
    cases result
    cases filled
    cases kept
    exact ⟨fresh, value, rest, reads, rfl⟩
  · rintro ⟨fresh, value, rest, reads, rfl⟩
    exact ⟨fills_singleton.mpr ⟨fresh, value, rest, reads, rfl⟩, fills_nil.mpr rfl⟩

theorem takes_maxDepth {inside : List Char} :
    Takes given [("max_depth", inside)] result ↔
      given.maxDepth = none ∧ ∃ value rest, natural inside = .ok (value, rest) ∧
        result = { given with maxDepth := some value } := by
  constructor
  · rintro ⟨field, depth⟩
    have kept := fills_nil.mp field
    obtain ⟨fresh, value, rest, reads, filled⟩ := fills_singleton.mp depth
    cases result
    cases filled
    cases kept
    exact ⟨fresh, value, rest, reads, rfl⟩
  · rintro ⟨fresh, value, rest, reads, rfl⟩
    exact ⟨fills_nil.mpr rfl, fills_singleton.mpr ⟨fresh, value, rest, reads, rfl⟩⟩

theorem takes_other {inside : List Char} (field : key ≠ "default_field")
    (depth : key ≠ "max_depth") : Takes given [(key, inside)] result ↔ result = given := by
  have noField : valuesOf "default_field" [(key, inside)] = [] := by simp [valuesOf, field]
  have noDepth : valuesOf "max_depth" [(key, inside)] = [] := by simp [valuesOf, depth]
  constructor
  · rintro ⟨first, second⟩
    rw [noField, fills_nil] at first
    rw [noDepth, fills_nil] at second
    cases result
    cases first
    cases second
    rfl
  · rintro rfl
    exact ⟨noField ▸ .kept, noDepth ▸ .kept⟩

/-- A known key must be new, and its value is read behind the colon. -/
theorem known_ok_iff {α : Type} {setting : Option α} {read : Scan α} {put : α → Given}
    (skips : ∀ {cs value rest}, read cs = .ok (value, rest) → skip cs = .ok rest)
    (takes : ∀ {inside}, Takes given [(key, inside)] result ↔
      setting = none ∧ ∃ value rest, read inside = .ok (value, rest) ∧ result = put value) :
    (do if setting.isSome then throw .mistyped
        let (_, cs) ← colon cs
        let (value, cs) ← read cs
        return (put value, cs)) = Except.ok (ε := JsonError) (result, rest) ↔
      ∃ inside, colon cs = .ok ((), inside) ∧ skip inside = .ok rest ∧
        Takes given [(key, inside)] result := by
  constructor
  · intro done
    obtain ⟨fresh, done⟩ := guard_ok done
    obtain ⟨⟨_, inside⟩, separated, done⟩ := bind_eq_ok.mp done
    obtain ⟨⟨value, left⟩, reads, same⟩ := bind_eq_ok.mp done
    cases same
    exact ⟨inside, separated, skips reads,
      takes.mpr ⟨by simpa using fresh, value, rest, reads, rfl⟩⟩
  · rintro ⟨inside, separated, skipped, taken⟩
    obtain ⟨rfl, value, left, reads, rfl⟩ := takes.mp taken
    cases (skips reads).symm.trans skipped
    simp only [separated, reads, bind, Except.bind]
    rfl

theorem other_ok_iff (field : key ≠ "default_field") (depth : key ≠ "max_depth") :
    (do let (_, cs) ← colon cs
        return (given, ← skip cs)) = Except.ok (ε := JsonError) (result, rest) ↔
      ∃ inside, colon cs = .ok ((), inside) ∧ skip inside = .ok rest ∧
        Takes given [(key, inside)] result := by
  constructor
  · intro done
    obtain ⟨⟨_, inside⟩, separated, done⟩ := bind_eq_ok.mp done
    obtain ⟨left, skipped, same⟩ := bind_eq_ok.mp done
    cases same
    exact ⟨inside, separated, skipped, (takes_other field depth).mpr rfl⟩
  · rintro ⟨inside, separated, skipped, taken⟩
    cases (takes_other field depth).mp taken
    simp only [separated, skipped, bind, Except.bind]
    rfl

theorem member_ok_iff :
    member given key cs = .ok (result, rest) ↔
      ∃ inside, colon cs = .ok ((), inside) ∧ skip inside = .ok rest ∧
        Takes given [(key, inside)] result := by
  unfold member
  split
  case isTrue known =>
    subst known
    exact known_ok_iff skip_of_text takes_defaultField
  case isFalse field =>
    split
    case isTrue known =>
      subst known
      exact known_ok_iff skip_of_natural takes_maxDepth
    case isFalse depth => exact other_ok_iff field depth

/-! Every entry takes a character at least -/

theorem stringTail_length {value : String} (read : stringTail cs = .ok (value, rest)) :
    rest.length ≤ cs.length :=
  (skippedString_suffix (skippedString_of_stringTail read)).length_le

theorem keyed_shorter {c : Char} {behind : List Char} {found : Option String}
    (inside : c :: behind <:+ cs)
    (read : (stringTail behind).map (fun pair => (some pair.1, pair.2)) = .ok (found, rest)) :
    rest.length < cs.length := by
  obtain ⟨⟨key, left⟩, string, same⟩ := map_eq_ok.mp read
  cases same
  exact Nat.lt_of_le_of_lt (stringTail_length string) inside.length_le

theorem nextKey_shorter {first : Bool} {found : Option String}
    (read : nextKey first cs = .ok (found, rest)) : rest.length < cs.length := by
  have blanks := skipBlanks_suffix cs
  unfold nextKey at read
  split at read
  case h_1 => cases read
  case h_2 here =>
    cases read
    rw [here] at blanks
    exact blanks.length_le
  case h_3 c behind _ here =>
    rw [here] at blanks
    split at read
    · split at read
      · exact keyed_shorter blanks read
      · cases read
    · split at read
      · have later := (skipBlanks_suffix behind).trans ((List.suffix_cons c behind).trans blanks)
        split at read
        case h_2 found =>
          rw [found] at later
          exact keyed_shorter later read
        all_goals cases read
      · cases read

theorem entries_of_members {steps : Nat} {first : Bool}
    (done : members steps first given cs = .ok (result, rest)) :
    ∃ entries, Entries first cs entries rest ∧ Takes given entries result := by
  induction steps generalizing first given cs with
  | zero => cases done
  | succ steps ih =>
      obtain ⟨⟨found, behind⟩, named, done⟩ := bind_eq_ok.mp done
      cases found with
      | none =>
          cases done
          exact ⟨[], .closed named, takes_nil.mpr rfl⟩
      | some key =>
          obtain ⟨⟨between, later⟩, taken, done⟩ := bind_eq_ok.mp done
          obtain ⟨inside, separated, skipped, takes⟩ := member_ok_iff.mp taken
          obtain ⟨entries, others, rest⟩ := ih done
          exact ⟨(key, inside) :: entries, .entry named separated skipped others,
            takes_cons.mpr ⟨between, takes, rest⟩⟩

/-- A step for each character is enough, since every entry takes one at least. -/
theorem members_of_entries {steps : Nat} {first : Bool} {entries : List (String × List Char)}
    (listed : Entries first cs entries rest) (takes : Takes given entries result)
    (enough : cs.length ≤ steps) : members steps first given cs = .ok (result, rest) := by
  induction listed generalizing given steps with
  | closed ends =>
      have some_char := nextKey_shorter ends
      obtain ⟨steps, rfl⟩ := Nat.exists_eq_add_of_lt (Nat.lt_of_lt_of_le some_char enough)
      cases takes_nil.mp takes
      simp only [members, ends, bind, Except.bind]
      rfl
  | entry named separated skipped others ih =>
      have some_char := nextKey_shorter named
      have shorter := (colon_suffix separated).length_le
      have left := (skip_suffix skipped).length_le
      rw [List.length_cons] at shorter
      obtain ⟨steps, rfl⟩ := Nat.exists_eq_add_of_lt (Nat.lt_of_lt_of_le some_char enough)
      obtain ⟨between, here, later⟩ := takes_cons.mp takes
      have taken := member_ok_iff.mpr ⟨_, separated, skipped, here⟩
      simp only [members, named, taken, bind, Except.bind]
      exact ih later (by omega)

end Members

/-- A setting is the value of its key, or the default where the key is left out. -/
inductive Setting {α : Type} (read : Scan α) (default : α) : List (List Char) → α → Prop where
  | left_out : Setting read default [] default
  | given {cs rest : List Char} {value : α} (reads : read cs = .ok (value, rest)) :
      Setting read default [cs] value

theorem setting_iff {α : Type} {read : Scan α} {default value : α} {values : List (List Char)} :
    Setting read default values value ↔
      ∃ found, Fills read none values found ∧ found.getD default = value := by
  constructor
  · rintro (_ | reads)
    · exact ⟨none, .kept, rfl⟩
    · exact ⟨_, .given reads, rfl⟩
  · rintro ⟨_, _ | reads, rfl⟩
    · exact .left_out
    · exact .given reads

theorem decode_of_inside {source : String} {read : Except JsonError (Given × List Char)}
    {config : Config}
    (same : decode source = (do
      let (given, rest) ← read
      if (skipBlanks rest).isEmpty then return given.complete else throw .malformed)) :
    decode source = .ok config ↔
      ∃ given rest, read = .ok (given, rest) ∧ skipBlanks rest = [] ∧ given.complete = config := by
  rw [same]
  constructor
  · intro done
    obtain ⟨⟨given, rest⟩, inside, done⟩ := bind_eq_ok.mp done
    simp only at done
    split at done
    · rename_i ends
      cases done
      exact ⟨given, rest, inside, List.isEmpty_iff.mp ends, rfl⟩
    · cases done
  · rintro ⟨given, rest, inside, ends, rfl⟩
    simp only [inside, ends, bind, Except.bind]
    rfl

/-- An object is decoded where each of the settings is the value of its key, or the default where
the key is left out. -/
theorem decode_object_iff {source : String} {inside : List Char} {config : Config}
    (opens : skipBlanks source.toList = '\x7b' :: inside) :
    decode source = .ok config ↔
      ∃ entries rest, Entries true inside entries rest ∧ skipBlanks rest = [] ∧
        Setting text implicitField (valuesOf "default_field" entries) config.defaultField ∧
        Setting natural defaultMaxDepth (valuesOf "max_depth" entries) config.maxDepth := by
  have read : decode source = (do
      let (given, rest) ← members inside.length true {} inside
      if (skipBlanks rest).isEmpty then return given.complete else throw .malformed) := by
    unfold decode
    rw [opens]
    rfl
  rw [decode_of_inside read]
  constructor
  · rintro ⟨given, rest, done, ends, rfl⟩
    obtain ⟨entries, listed, takes⟩ := entries_of_members done
    exact ⟨entries, rest, listed, ends, setting_iff.mpr ⟨_, takes.defaultField, rfl⟩,
      setting_iff.mpr ⟨_, takes.maxDepth, rfl⟩⟩
  · rintro ⟨entries, rest, listed, ends, field, depth⟩
    obtain ⟨named, first, sameField⟩ := setting_iff.mp field
    obtain ⟨limited, second, sameDepth⟩ := setting_iff.mp depth
    have takes : Takes {} entries ⟨named, limited⟩ := ⟨first, second⟩
    refine ⟨_, rest, members_of_entries listed takes (Nat.le_refl _), ends, ?_⟩
    cases config
    cases sameField
    cases sameDepth
    rfl

example : decode "\x7b\"notes\": [null, 1.5], \"max_depth\": 3\x7d" = .ok { maxDepth := 3 } := by
  decide +kernel

/-! Lists -/

section Lists

variable {cs rest : List Char} {given : Given}

theorem skipBlanks_skipBlanks (cs : List Char) : skipBlanks (skipBlanks cs) = skipBlanks cs :=
  List.dropWhile_idempotent isJsonBlank cs

theorem listEnd_iff : listEnd cs = .ok ((), rest) ↔ skipBlanks cs = ']' :: rest := by
  unfold listEnd
  constructor
  · intro ends
    split at ends <;> cases ends
    assumption
  · intro ends
    rw [ends]
    rfl

structure Reader {α : Type} (read : Scan α) : Prop where
  blanks : ∀ cs, read (skipBlanks cs) = read cs
  begins : ∀ {cs value rest}, read cs = .ok (value, rest) →
    ∃ c behind, skipBlanks cs = c :: behind ∧ c ≠ ']'

theorem reader_text : Reader text where
  blanks cs := by
    unfold text
    rw [skipBlanks_skipBlanks]
  begins read := by
    unfold text at read
    split at read
    · rename_i opens
      exact ⟨_, _, opens, by decide⟩
    · cases read

theorem reader_natural : Reader natural where
  blanks cs := by
    unfold natural
    rw [skipBlanks_skipBlanks]
  begins read := by
    obtain ⟨c, behind, begins, digit, -⟩ := natural_cases read
    refine ⟨c, behind, begins, ?_⟩
    rintro rfl
    exact absurd digit (by decide)

theorem Reader.goes {α : Type} {read : Scan α} {value : α} (reader : Reader read)
    (reads : read cs = .ok (value, rest)) (behind : List Char) : skipBlanks cs ≠ ']' :: behind := by
  intro closes
  obtain ⟨c, tail, begins, other⟩ := reader.begins reads
  rw [closes] at begins
  cases begins
  exact other rfl

section Elements

variable {α : Type} {read : Scan α} {found : Option α}

theorem element_ended (first : Bool) (read : Scan α) (ends : skipBlanks cs = ']' :: rest) :
    element first read cs = .ok (none, ']' :: rest) := by
  unfold element
  rw [ends]
  rfl

theorem present_iff {pending : Except JsonError (α × List Char)} :
    pending.map (fun pair => (some pair.1, pair.2)) = .ok (found, rest) ↔
      ∃ value, found = some value ∧ pending = .ok (value, rest) := by
  rw [map_eq_ok]
  constructor
  · rintro ⟨⟨value, left⟩, reads, same⟩
    cases same
    exact ⟨value, rfl, reads⟩
  · rintro ⟨value, rfl, reads⟩
    exact ⟨(value, rest), reads, rfl⟩

theorem element_first_iff (reader : Reader read) (goes : ∀ behind, skipBlanks cs ≠ ']' :: behind) :
    element true read cs = .ok (found, rest) ↔
      ∃ value, found = some value ∧ read cs = .ok (value, rest) := by
  unfold element
  cases here : skipBlanks cs with
  | nil =>
      refine ⟨nofun, ?_⟩
      rintro ⟨value, -, reads⟩
      obtain ⟨c, behind, begins, -⟩ := reader.begins reads
      rw [here] at begins
      cases begins
  | cons c behind =>
      have other : c ≠ ']' := fun closes => goes behind (closes ▸ here)
      simp only [if_neg other, ↓reduceIte, present_iff]
      rw [← here, reader.blanks]

theorem element_later_iff (reader : Reader read) (goes : ∀ behind, skipBlanks cs ≠ ']' :: behind) :
    element false read cs = .ok (found, rest) ↔
      ∃ value later, found = some value ∧ skipBlanks cs = ',' :: later ∧
        read later = .ok (value, rest) := by
  unfold element
  cases here : skipBlanks cs with
  | nil =>
      refine ⟨nofun, ?_⟩
      rintro ⟨value, later, -, parted, -⟩
      cases parted
  | cons c behind =>
      have other : c ≠ ']' := fun closes => goes behind (closes ▸ here)
      by_cases comma : c = ','
      · subst comma
        simp only [if_neg other, Bool.false_eq_true, ↓reduceIte]
        constructor
        · intro done
          split at done
          case h_3 =>
            obtain ⟨value, same, reads⟩ := present_iff.mp done
            rw [reader.blanks] at reads
            exact ⟨value, behind, same, rfl, reads⟩
          all_goals cases done
        · rintro ⟨value, later, rfl, parted, reads⟩
          cases parted
          obtain ⟨d, tail, begins, other⟩ := reader.begins reads
          rw [← reader.blanks, begins] at reads
          rw [begins]
          split
          case h_1 none => cases none
          case h_2 closes =>
            cases closes
            exact absurd rfl other
          case h_3 => exact present_iff.mpr ⟨value, rfl, reads⟩
      · simp only [if_neg other, if_neg comma, Bool.false_eq_true, ↓reduceIte]
        refine ⟨nofun, ?_⟩
        rintro ⟨value, later, -, parted, -⟩
        cases parted
        exact absurd rfl comma

end Elements

inductive Gives : List Char → Config → List Char → Prop where
  | none {cs rest : List Char} (ends : skipBlanks cs = ']' :: rest) : Gives cs {} rest
  | field {cs behind rest : List Char} {field : String} (reads : text cs = .ok (field, behind))
      (ends : skipBlanks behind = ']' :: rest) : Gives cs { defaultField := field } rest
  | both {cs behind later after rest : List Char} {field : String} {depth : Nat}
      (reads : text cs = .ok (field, behind)) (parted : skipBlanks behind = ',' :: later)
      (limits : natural later = .ok (depth, after)) (ends : skipBlanks after = ']' :: rest) :
      Gives cs ⟨field, depth⟩ rest

theorem elements_eq {field : Option String} {depth : Option Nat} {behind after : List Char}
    (first : element true text cs = .ok (field, behind))
    (second : element false natural behind = .ok (depth, after))
    (ends : skipBlanks after = ']' :: rest) : elements cs = .ok (⟨field, depth⟩, rest) := by
  simp only [elements, first, second, listEnd_iff.mpr ends, bind, Except.bind]
  rfl

theorem gives_of_elements (done : elements cs = .ok (given, rest)) :
    Gives cs given.complete rest := by
  obtain ⟨⟨field, behind⟩, first, done⟩ := bind_eq_ok.mp done
  obtain ⟨⟨depth, after⟩, second, done⟩ := bind_eq_ok.mp done
  obtain ⟨⟨_, left⟩, ends, same⟩ := bind_eq_ok.mp done
  cases same
  have ends := listEnd_iff.mp ends
  by_cases empty : ∃ tail, skipBlanks cs = ']' :: tail
  · obtain ⟨tail, closed⟩ := empty
    cases (element_ended true text closed).symm.trans first
    cases (element_ended false natural rfl).symm.trans second
    cases ends
    exact .none closed
  · obtain ⟨name, rfl, reads⟩ :=
      (element_first_iff reader_text fun tail here => empty ⟨tail, here⟩).mp first
    by_cases short : ∃ tail, skipBlanks behind = ']' :: tail
    · obtain ⟨tail, closed⟩ := short
      cases (element_ended false natural closed).symm.trans second
      cases ends
      exact .field reads closed
    · obtain ⟨limit, later, rfl, parted, limits⟩ :=
        (element_later_iff reader_natural fun tail here => short ⟨tail, here⟩).mp second
      exact .both reads parted limits ends

theorem elements_of_gives {config : Config} (gives : Gives cs config rest) :
    ∃ given : Given, elements cs = .ok (given, rest) ∧ given.complete = config := by
  cases gives with
  | none ends =>
      have first := element_ended true text ends
      exact ⟨_, elements_eq first (element_ended false natural rfl) rfl, rfl⟩
  | field reads ends =>
      have first := (element_first_iff reader_text (reader_text.goes reads)).mpr ⟨_, rfl, reads⟩
      exact ⟨_, elements_eq first (element_ended false natural ends) rfl, rfl⟩
  | both reads parted limits ends =>
      have first := (element_first_iff reader_text (reader_text.goes reads)).mpr ⟨_, rfl, reads⟩
      have goes : ∀ tail, skipBlanks _ ≠ ']' :: tail := fun tail closes => by
        rw [parted] at closes
        cases closes
      have second := (element_later_iff reader_natural goes).mpr ⟨_, _, rfl, parted, limits⟩
      exact ⟨_, elements_eq first second ends, rfl⟩

end Lists

/-- A list is decoded where it gives the settings in their order; those that it is too short for
keep their defaults. -/
theorem decode_list_iff {source : String} {inside : List Char} {config : Config}
    (opens : skipBlanks source.toList = '[' :: inside) :
    decode source = .ok config ↔ ∃ rest, Gives inside config rest ∧ skipBlanks rest = [] := by
  have read : decode source = (do
      let (given, rest) ← elements inside
      if (skipBlanks rest).isEmpty then return given.complete else throw .malformed) := by
    unfold decode
    rw [opens]
    rfl
  rw [decode_of_inside read]
  constructor
  · rintro ⟨given, rest, done, ends, rfl⟩
    exact ⟨rest, gives_of_elements done, ends⟩
  · rintro ⟨rest, gives, ends⟩
    obtain ⟨given, done, same⟩ := elements_of_gives gives
    exact ⟨given, rest, done, ends, same⟩

/-- Nothing but an object or a list is a configuration. -/
theorem opens_of_decode {source : String} {config : Config} (decoded : decode source = .ok config) :
    ∃ inside, skipBlanks source.toList = '\x7b' :: inside ∨
      skipBlanks source.toList = '[' :: inside := by
  unfold decode at decoded
  split at decoded
  case h_1 inside opens => exact ⟨inside, .inr opens⟩
  case h_2 inside opens => exact ⟨inside, .inl opens⟩
  case h_3 => cases decoded

theorem defaultMaxDepth_le : defaultMaxDepth ≤ maxNatural := by decide

theorem Setting.natural_le {values : List (List Char)} {depth : Nat}
    (setting : Setting natural defaultMaxDepth values depth) : depth ≤ maxNatural := by
  cases setting with
  | left_out => exact defaultMaxDepth_le
  | given reads => exact Config.natural_le reads

/-- A depth that was decoded fits a word. -/
theorem decode_maxDepth_le {source : String} {config : Config}
    (decoded : decode source = .ok config) : config.maxDepth ≤ maxNatural := by
  obtain ⟨inside, opens | opens⟩ := opens_of_decode decoded
  · obtain ⟨entries, rest, -, -, -, depth⟩ := (decode_object_iff opens).mp decoded
    exact depth.natural_le
  · obtain ⟨rest, gives, -⟩ := (decode_list_iff opens).mp decoded
    cases gives with
    | none | field => exact defaultMaxDepth_le
    | both _ _ limits => exact natural_le limits

end SearchQuery.Config
