import SearchQuery.Proofs.Reprint
import SearchQuery.Proofs.Spans
import SearchQuery.Proofs.Viability

/-!
Every error of a text points at its cause. Its offset is that of a character or of a
token for which it says truly why the text goes no further, or the end of the text
where nothing but white space was left.
-/

namespace SearchQuery

/-! Faults -/

def Fault.Fair (ahead : Option Token) : Fault → Prop
  | .unexpected expected => Lacks expected.kinds ahead
  | .missing _ | .fieldInRange | .tooDeep => True

section Fair

variable {field : String} {done : List Token} {ahead : Option Token} {fault : Fault}

theorem BreaksBound.fair (broken : BreaksBound done ahead fault) : fault.Fair ahead := by
  cases broken with
  | absent lacks => exact lacks
  | named => trivial

theorem BreaksValue.fair (broken : BreaksValue field done ahead fault)
    (meaningful : ∀ found, ahead = some found → Meaningful found) : fault.Fair ahead := by
  cases broken with
  | missing => trivial
  | stranger lacks | between _ _ _ lacks | unclosed _ _ _ _ _ lacks => exact lacks
  | lower _ broken | upper _ _ _ broken | limit _ _ broken => exact broken.fair
  | symbol kind meaningless =>
      -- every sign that can be spelt is one of the four relations
      obtain ⟨relation, meant⟩ := meaningful _ rfl kind
      rw [meaningless] at meant
      cases meant

theorem Breaks.fair {room : Nat} {clause : Clause}
    (broken : Breaks field room clause done ahead fault)
    (meaningful : ∀ found, ahead = some found → Meaningful found) : fault.Fair ahead := by
  induction broken with
  | unclosed _ _ _ lacks => exact lacks
  | groupRefused | andRefused | notRefused => trivial
  | stranger lacks =>
      apply lacks_singleton.mpr
      exact lacks .identifier (by decide)
  | value _ _ broken => exact broken.fair meaningful
  | ofGroup _ ih | ofDisjunction _ _ ih | inside _ _ ih | first _ ih | or _ _ _ _ ih
  | adjacent _ _ _ _ _ _ ih | last _ ih | and _ _ _ _ ih | not _ _ ih | paren _ ih
  | fieldGroup _ _ _ ih => exact ih meaningful

theorem Stops.fair {limit : Nat} (stops : Stops field limit done ahead fault)
    (meaningful : ∀ found, ahead = some found → Meaningful found) : fault.Fair ahead := by
  cases stops with
  | within broken => exact broken.fair meaningful
  | beyond => exact fun _ member => absurd member List.not_mem_nil

end Fair

/-! Places in a text -/

def StandsAt (source piece : String) (offset : Nat) : Prop :=
  ∃ before after, source = before ++ piece ++ after ∧ before.utf8ByteSize = offset

namespace StandsAt

variable {source piece : String} {offset : Nat}

theorem le (stands : StandsAt source piece offset) : offset ≤ source.utf8ByteSize := by
  obtain ⟨before, after, rfl, rfl⟩ := stands
  simp only [String.utf8ByteSize_append, Nat.add_assoc]
  exact Nat.le_add_right _ _

theorem isValid (stands : StandsAt source piece offset) :
    String.Pos.Raw.IsValid source ⟨offset⟩ := by
  obtain ⟨before, after, rfl, rfl⟩ := stands
  apply String.Pos.Raw.isValid_iff_exists_append.mpr
  exact ⟨before, piece ++ after, String.append_assoc, rfl⟩

end StandsAt

def BlankBehind (source : String) (tokens : List SpannedToken) : Prop :=
  ∃ before blanks, source = before ++ blanks ∧ before.utf8ByteSize = lastStop 0 tokens ∧
    ∀ c ∈ blanks.toList, Text.isBlank c = true

theorem Cuts.blank_behind {place : Nat} {text : List Char} {tokens : List SpannedToken}
    {failure : Option LexError} (cuts : Cuts place text tokens failure) (whole : failure = none) :
    ∃ before blanks, text = before ++ blanks ∧
      place + Text.byteLength before = lastStop place tokens ∧
      ∀ c ∈ blanks, Text.isBlank c = true := by
  induction cuts with
  | ended blank => exact ⟨[], _, rfl, rfl, blank⟩
  | failed => cases whole
  | @token _ _ _ blanks text _ _ _ _ _ _ _ starts stops _ ih =>
      obtain ⟨before, rest, rfl, stands, blank⟩ := ih whole
      refine ⟨blanks ++ (text ++ before), rest, by simp, ?_, blank⟩
      rw [lastStop, ← stands]
      simp only [Text.byteLength_append]
      omega

section Source

variable {source : String} {tokens : List SpannedToken} {failure : Option LexError}
  (cuts : Cuts 0 source.toList tokens failure)

include cuts

theorem blankBehind_of_cuts (whole : failure = none) : BlankBehind source tokens := by
  obtain ⟨before, blanks, parts, stands, blank⟩ := cuts.blank_behind whole
  refine ⟨String.ofList before, String.ofList blanks, ?_, ?_, ?_⟩
  · rw [← String.ofList_append, ← parts, String.ofList_toList]
  · rw [← Text.byteLength_ofList, ← stands, Nat.zero_add]
  · rwa [String.toList_ofList]

theorem standsAt_of_cuts {token : SpannedToken} (member : token ∈ tokens) :
    StandsAt source token.text token.start := by
  obtain ⟨before, after, parts, starts, -, -⟩ := cuts.lossless.cut token member
  exact ⟨before, after, parts, starts.symm⟩

end Source

/-! Errors -/

/-- What each error says about the text at its offset. -/
def ParseError.Points (config : Config) (source : String) (tokens : List SpannedToken) :
    ParseError → Prop
  | .lexical error =>
      ∃ before after, source = before ++ String.singleton error.found ++ after ∧
        before.utf8ByteSize = error.offset ∧
        ∀ rule ∈ rules, rule.pattern (error.found :: after.toList) = none
  | .grammatical (.unexpectedToken expected found offset) =>
      (∃ token ∈ tokens, token.token = found ∧ token.start = offset) ∧
        StandsAt source found.text offset ∧ found.kind ∉ expected.kinds
  | .grammatical (.fieldInRange offset) => StandsAt source ":" offset
  | .grammatical (.tooDeep limit offset) =>
      limit = config.maxDepth ∧
        ∃ token ∈ tokens, token.start = offset ∧ StandsAt source token.text offset ∧
          token.kind ∈ [.groupOpen, .logicalAnd, .logicalNot]
  | .grammatical (.unexpectedEnd _ offset) | .grammatical (.missingValue _ offset) =>
      offset = source.utf8ByteSize ∧ BlankBehind source tokens

/-- The offset is where some piece of the text begins, or its end. -/
theorem ParseError.Points.standsAt {config : Config} {source : String}
    {tokens : List SpannedToken} {error : ParseError}
    (points : error.Points config source tokens) : ∃ piece, StandsAt source piece error.offset := by
  have ending : ∃ piece, StandsAt source piece source.utf8ByteSize := ⟨"", source, "", by simp⟩
  cases error with
  | lexical error =>
      obtain ⟨before, after, parts, stands, -⟩ := points
      exact ⟨_, before, after, parts, stands⟩
  | grammatical error =>
      cases error with
      | unexpectedToken expected found offset => exact ⟨_, points.2.1⟩
      | unexpectedEnd expected offset | missingValue field offset => exact points.1 ▸ ending
      | fieldInRange offset => exact ⟨_, points⟩
      | tooDeep limit offset =>
          obtain ⟨-, token, -, -, stands, -⟩ := points
          exact ⟨_, stands⟩

/-- An error ends the tokens exactly if none is left at the fault. -/
theorem Stops.atEnd {field : String} {limit : Nat} {done : List Token}
    {ahead : Option SpannedToken} {fault : Fault}
    (stops : Stops field limit done (ahead.map (·.token)) fault) (last : Nat) :
    (fault.error limit last ahead).atEnd = ahead.isNone := by
  cases fault with
  | unexpected expected => cases ahead <;> rfl
  | missing field =>
      have stands := stops.apt (by simp)
      cases ahead with
      | none => rfl
      | some found => cases stands
  | fieldInRange =>
      have stands := stops.apt (by simp)
      cases ahead with
      | none => cases stands
      | some found => rfl
  | tooDeep =>
      have stands := stops.apt (by simp)
      cases ahead with
      | none =>
          obtain ⟨_, ⟨⟩, -⟩ := stands
      | some found => rfl

theorem pulledAnswer_of_not_atEnd {last : Nat} {failure : Option LexError} {error : GrammarError}
    (other : error.atEnd = false) :
    pulledAnswer last failure (.error (.grammatical error)) = .error (.grammatical error) := by
  cases failure with
  | none =>
      simp [pulledAnswer, Except.mapError, ParseError.endingAt, error.endingAt_of_not_atEnd other]
  | some failed => simp [pulledAnswer, reachesEnd, ParseError.atEnd, other]

theorem ParseError.points_end {config : Config} {source : String} {tokens : List SpannedToken}
    {error : GrammarError} (atEnd : error.atEnd = true) (blank : BlankBehind source tokens) :
    (ParseError.grammatical (error.endingAt source.utf8ByteSize)).Points config source tokens := by
  cases error with
  | unexpectedEnd expected offset | missingValue field offset => exact ⟨rfl, blank⟩
  | unexpectedToken | fieldInRange | tooDeep => cases atEnd

section Cut

variable {config : Config} {source : String} {tokens : List SpannedToken}
  {failure : Option LexError} (cuts : Cuts 0 source.toList tokens failure)
  (spelt : ∀ found ∈ tokens, found.token.Spelt)

include cuts spelt

/-- A fault at a token is an error that points at this token. -/
theorem Fault.points_token {done later : List SpannedToken} {found : SpannedToken} {fault : Fault}
    (parts : tokens = done ++ found :: later) (last : Nat)
    (stops : Stops config.defaultField config.maxDepth (done.map (·.token)) (some found.token)
      fault) :
    (ParseError.grammatical (fault.error config.maxDepth last (some found))).Points config source
      tokens := by
  have member : found ∈ tokens := by simp [parts]
  have stands := standsAt_of_cuts cuts member
  have meaningful : ∀ ahead, some found.token = some ahead → Meaningful ahead := by
    rintro _ ⟨⟩
    exact meaningful_of_spelt (spelt found member)
  cases fault with
  | unexpected expected =>
      refine ⟨⟨found, member, rfl, rfl⟩, stands, fun wanted => ?_⟩
      exact stops.fair meaningful found.kind wanted rfl
  | missing field => cases stops.apt (by simp)
  | fieldInRange =>
      have separates : found.token.kind = .fieldSeparator := Option.some.inj (stops.apt (by simp))
      have colon := (spelt found member).colon_eq separates
      rw [show found.text = ":" from congrArg Token.text colon] at stands
      exact stands
  | tooDeep =>
      obtain ⟨_, ⟨⟩, opens⟩ := stops.apt (by simp)
      exact ⟨rfl, found, member, rfl, stands, opens⟩

/-- The answer for a text points at the cause of its error, if it is one. -/
theorem pulledAnswer_points {error : ParseError}
    (refused : pulledAnswer source.utf8ByteSize failure (parseTokens config tokens) =
      .error error) : error.Points config source tokens := by
  have lexical : ∀ failed, failure = some failed →
      (ParseError.lexical failed).Points config source tokens := by
    intro failed some_failure
    obtain ⟨before, after, parts, stands, -, unruled, -⟩ := cuts.lossless.fails failed some_failure
    exact ⟨before, after, parts, stands.symm, unruled⟩
  cases answer : parseTokens config tokens with
  | ok query =>
      rw [answer] at refused
      cases failure with
      | none => cases refused
      | some failed =>
          cases refused
          exact lexical failed rfl
  | error stopped =>
      rw [answer] at refused
      obtain ⟨done, rest, fault, parts, stops, rfl⟩ := parseTokens_error_iff.mp answer
      have atEnd := stops.atEnd (lastStop 0 done)
      cases rest with
      | nil =>
          cases failure with
          | none =>
              cases refused
              exact ParseError.points_end atEnd (blankBehind_of_cuts cuts rfl)
          | some failed =>
              simp only [pulledAnswer, reachesEnd, ParseError.atEnd, atEnd] at refused
              cases refused
              exact lexical failed rfl
      | cons found later =>
          have points := Fault.points_token cuts spelt parts (lastStop 0 done) stops
          rw [pulledAnswer_of_not_atEnd atEnd] at refused
          cases refused
          exact points

end Cut

/-- Every error of a text has an offset inside it, where a character begins or the text
ends, and what the error says of this place is true. -/
theorem parseWith_error_points {config : Config} {source : String} {error : ParseError}
    (refused : parseWith config source = .error error) :
    error.offset ≤ source.utf8ByteSize ∧ String.Pos.Raw.IsValid source ⟨error.offset⟩ ∧
      error.Points config source (Tokenizer.ofString source).drain.1 := by
  rw [parseWith_eq_pulledAnswer] at refused
  have cuts := (Tokenizer.ofString source).drain_cuts
  have points := pulledAnswer_points cuts (Tokenizer.ofString source).drain_spelt refused
  obtain ⟨piece, stands⟩ := points.standsAt
  exact ⟨stands.le, stands.isValid, points⟩

/-- The range in `été:["a" to b]` is refused at its word, which is not the keyword. -/
theorem parseWith_error_points_lowercase :
    parseWith {} "été:[\"a\" to b]" =
        .error (.grammatical (.unexpectedToken (.token .rangeTo) ⟨.identifier, "to"⟩ 11)) ∧
      11 ≤ "été:[\"a\" to b]".utf8ByteSize ∧
      String.Pos.Raw.IsValid "été:[\"a\" to b]" ⟨11⟩ ∧
      (ParseError.grammatical (.unexpectedToken (.token .rangeTo) ⟨.identifier, "to"⟩ 11)).Points {}
        "été:[\"a\" to b]" (Tokenizer.ofString "été:[\"a\" to b]").drain.1 := by
  have refused : parseWith {} "été:[\"a\" to b]" =
      .error (.grammatical (.unexpectedToken (.token .rangeTo) ⟨.identifier, "to"⟩ 11)) := by cbv
  exact ⟨refused, parseWith_error_points refused⟩

end SearchQuery
