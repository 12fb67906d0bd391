import Mathlib.Data.Nat.Find
import SearchQuery.Proofs.Spans
import SearchQuery.Proofs.Viability

/-!
The nesting limit is a threshold. From some limit on, no more than the number of
tokens, the answer is always the same, and below it the query is refused as too
deep, the later the higher the limit.
-/

namespace SearchQuery

section Breaks

variable {field : String} {room : Nat} {clause : Clause} {done : List Token}
  {ahead : Option Token} {fault : Fault}

/-- With more levels to open a reading breaks off at the same place, unless it was for want
of levels. -/
theorem Breaks.mono (broken : Breaks field room clause done ahead fault)
    (other : fault ≠ .tooDeep) {more : Nat} (least : room ≤ more) :
    Breaks field more clause done ahead fault := by
  induction broken generalizing more with
  | ofGroup _ ih => exact .ofGroup (ih other least)
  | ofDisjunction _ bare ih => exact .ofDisjunction (ih other least) bare
  | groupRefused | andRefused | notRefused => exact absurd rfl other
  | inside opens _ ih =>
      cases more with
      | zero => cases least
      | succ more => exact .inside opens (ih other (Nat.le_of_succ_le_succ least))
  | unclosed opens body enough lacks =>
      cases more with
      | zero => cases least
      | succ more =>
          exact .unclosed opens body (Nat.le_trans enough (Nat.le_of_succ_le_succ least)) lacks
  | first _ ih => exact .first (ih other least)
  | or first enough written _ ih =>
      exact .or first (Nat.le_trans enough least) written (ih other least)
  | adjacent first enough begins goes unwritten _ ih =>
      exact .adjacent first (Nat.le_trans enough least) begins goes unwritten (ih other least)
  | last _ ih => exact .last (ih other least)
  | and first enough written _ ih =>
      cases more with
      | zero => cases least
      | succ more =>
          exact .and first (Nat.le_trans enough least) written
            (ih other (Nat.le_of_succ_le_succ least))
  | not written _ ih =>
      cases more with
      | zero => cases least
      | succ more => exact .not written (ih other (Nat.le_of_succ_le_succ least))
  | paren _ ih => exact .paren (ih other least)
  | stranger lacks => exact .stranger lacks
  | value names separates broken => exact .value names separates broken
  | fieldGroup names separates _ ih => exact .fieldGroup names separates (ih other least)

/-- Before a level is refused each of the others was opened at a token of its own. -/
theorem Breaks.room_le (broken : Breaks field room clause done ahead fault)
    (deep : fault = .tooDeep) : room ≤ done.length := by
  induction broken with
  | groupRefused | andRefused | notRefused => exact Nat.zero_le _
  | unclosed | stranger => cases deep
  | value _ _ broken =>
      cases deep
      cases broken with
      | lower _ broken | upper _ _ _ broken | limit _ _ broken => cases broken
  | ofGroup _ ih | ofDisjunction _ _ ih | first _ ih | last _ ih | paren _ ih => exact ih deep
  | inside _ _ ih | or _ _ _ _ ih | adjacent _ _ _ _ _ _ ih | and _ _ _ _ ih | not _ _ ih
  | fieldGroup _ _ _ ih =>
      have less := ih deep
      simp only [List.length_append, List.length_cons]
      omega

theorem Stops.mono {limit : Nat} (stops : Stops field limit done ahead fault)
    (other : fault ≠ .tooDeep) {more : Nat} (least : limit ≤ more) :
    Stops field more done ahead fault := by
  cases stops with
  | within broken => exact .within (broken.mono other least)
  | beyond whole enough => exact .beyond whole (Nat.le_trans enough least)

theorem Stops.limit_le {limit : Nat} (stops : Stops field limit done ahead .tooDeep) :
    limit ≤ done.length := by
  cases stops with
  | within broken => exact broken.room_le rfl

end Breaks

/-- With a higher limit the tokens go further before a level is refused. -/
theorem Stops.further {field : String} {fewer more : Nat} (less : fewer < more)
    {tokens done later : List Token} {opener other : Token}
    (first : done ++ [opener] <+: tokens) (second : later ++ [other] <+: tokens)
    (stops : Stops field fewer done (some opener) .tooDeep)
    (again : Stops field more later (some other) .tooDeep) : done.length < later.length := by
  -- otherwise the list that completes the tokens of the first refusal would be refused as well
  by_contra short
  obtain ⟨whole, tree, levels, begins, reads, enough⟩ :=
    stops.completes (.deeper rfl) none (.inl rfl)
  have earlier : later ++ [other] <+: done ++ [opener] :=
    List.prefix_of_prefix_length_le second first (by simp; omega)
  obtain ⟨rest, rfl⟩ := earlier.trans begins
  have parts : later ++ [other] ++ rest = later ++ other :: rest := List.append_assoc _ _ _
  rw [parts] at reads
  have accepted : parseTokens ⟨field, more⟩ (numbered (later ++ other :: rest)) = .ok ⟨tree⟩ :=
    parseTokens_numbered_ok_iff.mpr ⟨levels, reads, Nat.le_trans enough less⟩
  have refused : parseTokens ⟨field, more⟩ (numbered (later ++ other :: rest)) = .error _ :=
    parseTokens_numbered_error_iff.mpr ⟨later, other :: rest, .tooDeep, rfl, again, rfl⟩
  rw [accepted] at refused
  cases refused

/-! Answers -/

theorem Fault.error_limit {fault : Fault} (other : fault ≠ .tooDeep) (limit more last : Nat)
    (ahead : Option SpannedToken) : fault.error limit last ahead = fault.error more last ahead := by
  cases fault with
  | unexpected => cases ahead <;> rfl
  | missing | fieldInRange => rfl
  | tooDeep => exact absurd rfl other

theorem Fault.eq_tooDeep_of_error {fault : Fault} {limit last other offset : Nat}
    {ahead : Option SpannedToken} (raised : fault.error limit last ahead = .tooDeep other offset) :
    fault = .tooDeep := by
  cases fault with
  | unexpected => cases ahead <;> cases raised
  | missing | fieldInRange => cases raised
  | tooDeep => rfl

def RefusesDepth (answer : Except ParseError Query) : Prop :=
  ∃ limit offset, answer = .error (.grammatical (.tooDeep limit offset))

/-- The answers for all limits: from some limit on, which is no more than the number of tokens,
they are the same, and below it the query is too deep, at tokens that open levels and that
stand the further back the higher the limit is. -/
def Threshold (tokens : List SpannedToken) (answer : Nat → Except ParseError Query) : Prop :=
  ∃ result need, need ≤ tokens.length ∧ ¬ RefusesDepth result ∧
    (∀ limit ≥ need, answer limit = result) ∧
    ∃ place : Nat → Nat,
      (∀ limit < need, answer limit = .error (.grammatical (.tooDeep limit (place limit)))) ∧
      (∀ fewer more, fewer < more → more < need → place fewer < place more) ∧
      ∀ limit < need, ∃ token ∈ tokens, token.start = place limit ∧ token.kind ∈ levelKinds

section Lists

variable {field : String} {tokens : List SpannedToken} {limit : Nat}

/-- Where the limit is too low, some tokens are taken and the next would open a level. -/
theorem parseTokens_deep (deep : RefusesDepth (parseTokens ⟨field, limit⟩ tokens)) :
    ∃ done opener rest, tokens = done ++ opener :: rest ∧ opener.kind ∈ levelKinds ∧
      Stops field limit (done.map (·.token)) (some opener.token) .tooDeep ∧
      parseTokens ⟨field, limit⟩ tokens =
        .error (.grammatical (.tooDeep limit opener.start)) := by
  obtain ⟨_, _, refused⟩ := deep
  obtain ⟨done, rest, fault, rfl, stops, raised⟩ := parseTokens_error_iff.mp refused
  cases Fault.eq_tooDeep_of_error (ParseError.grammatical.inj raised).symm
  obtain ⟨opener, stands, opens⟩ := stops.apt (by simp)
  cases rest with
  | nil => cases stands
  | cons found rest =>
      cases stands
      exact ⟨done, found, rest, rfl, opens, stops, by rw [refused, raised]; rfl⟩

/-- An answer that is not about the limit stands for every higher limit. -/
theorem parseTokens_mono {more : Nat} (shallow : ¬ RefusesDepth (parseTokens ⟨field, limit⟩ tokens))
    (least : limit ≤ more) :
    parseTokens ⟨field, more⟩ tokens = parseTokens ⟨field, limit⟩ tokens := by
  cases answer : parseTokens ⟨field, limit⟩ tokens with
  | ok result =>
      obtain ⟨levels, reads, enough⟩ := parseTokens_ok_iff.mp answer
      exact parseTokens_ok_iff.mpr ⟨levels, reads, Nat.le_trans enough least⟩
  | error error =>
      obtain ⟨done, rest, fault, rfl, stops, rfl⟩ := parseTokens_error_iff.mp answer
      have other : fault ≠ .tooDeep := by
        rintro rfl
        exact shallow ⟨_, _, answer⟩
      exact parseTokens_error_iff.mpr ⟨done, rest, fault, rfl, stops.mono other least, by
        rw [fault.error_limit other]⟩

/-- There are as many tokens as levels before the one that is refused. -/
theorem lt_length_of_deep (deep : RefusesDepth (parseTokens ⟨field, limit⟩ tokens)) :
    limit < tokens.length := by
  obtain ⟨done, opener, rest, rfl, -, stops, -⟩ := parseTokens_deep deep
  have opened := stops.limit_le
  rw [List.length_map] at opened
  rw [List.length_append, List.length_cons]
  omega

theorem start_lt_start {first second rest later : List SpannedToken} {opener other : SpannedToken}
    (rising : tokens.Pairwise fun first second => first.start < second.start)
    (here : tokens = first ++ opener :: rest) (there : tokens = second ++ other :: later)
    (shorter : first.length < second.length) : opener.start < other.start := by
  have begins : first ++ [opener] <+: tokens := ⟨rest, by simp [here]⟩
  have earlier : first ++ [opener] <+: second :=
    List.prefix_of_prefix_length_le begins ⟨_, there.symm⟩ (by simpa using shorter)
  rw [there] at rising
  exact (List.pairwise_append.mp rising).2.2 opener (earlier.subset (by simp)) other
    List.mem_cons_self

/-- The higher the limit, the further back the token that is refused. -/
theorem deep_places_rise {more fewerPlace morePlace : Nat}
    (rising : tokens.Pairwise fun first second => first.start < second.start)
    (less : limit < more)
    (first : parseTokens ⟨field, limit⟩ tokens = .error (.grammatical (.tooDeep limit fewerPlace)))
    (second : parseTokens ⟨field, more⟩ tokens = .error (.grammatical (.tooDeep more morePlace))) :
    fewerPlace < morePlace := by
  obtain ⟨done, opener, rest, here, -, stops, same⟩ := parseTokens_deep ⟨_, _, first⟩
  obtain ⟨later, other, after, there, -, again, also⟩ := parseTokens_deep ⟨_, _, second⟩
  cases first.symm.trans same
  cases second.symm.trans also
  have begins : done.map (·.token) ++ [opener.token] <+: tokens.map (·.token) :=
    ⟨rest.map (·.token), by simp [here]⟩
  have goes : later.map (·.token) ++ [other.token] <+: tokens.map (·.token) :=
    ⟨after.map (·.token), by simp [there]⟩
  have shorter := Stops.further less begins goes stops again
  exact start_lt_start rising here there (by simpa using shorter)

theorem parseTokens_threshold (field : String)
    (rising : tokens.Pairwise fun first second => first.start < second.start) :
    Threshold tokens fun limit => parseTokens ⟨field, limit⟩ tokens := by
  classical
  have reached : ∃ limit, ¬ RefusesDepth (parseTokens ⟨field, limit⟩ tokens) :=
    ⟨tokens.length, fun deep => Nat.lt_irrefl _ (lt_length_of_deep deep)⟩
  have within : Nat.find reached ≤ tokens.length :=
    Nat.find_min' reached fun deep => Nat.lt_irrefl _ (lt_length_of_deep deep)
  have refused : ∀ limit, limit < Nat.find reached → ∃ place,
      parseTokens ⟨field, limit⟩ tokens = .error (.grammatical (.tooDeep limit place)) ∧
        ∃ token ∈ tokens, token.start = place ∧ token.kind ∈ levelKinds := by
    intro limit below
    have deep := Classical.not_not.mp (Nat.find_min reached below)
    obtain ⟨done, opener, rest, here, opens, -, same⟩ := parseTokens_deep deep
    exact ⟨opener.start, same, opener, by simp [here], rfl, opens⟩
  choose! place deep using refused
  refine ⟨_, Nat.find reached, within, Nat.find_spec reached,
    fun limit enough => parseTokens_mono (Nat.find_spec reached) enough, place,
    fun limit below => (deep limit below).1, ?_, fun limit below => (deep limit below).2⟩
  intro fewer more less below
  exact deep_places_rise rising less (deep fewer (Nat.lt_trans less below)).1 (deep more below).1

end Lists

/-! Texts -/

theorem Cuts.rising {place : Nat} {text : List Char} {tokens : List SpannedToken}
    {failure : Option LexError} (cuts : Cuts place text tokens failure) :
    tokens.Pairwise fun first second => first.start < second.start := by
  refine cuts.ordered.imp_of_mem fun member _ behind => ?_
  obtain ⟨_, _, _, _, _, some_byte⟩ := cuts.occupies _ member
  exact Nat.lt_of_lt_of_le some_byte behind

/-- Behind the tokens a text may fail, but never because of the limit. -/
theorem refusesDepth_pulledAnswer {last : Nat} {failure : Option LexError}
    {answer : Except ParseError Query} (deep : RefusesDepth (pulledAnswer last failure answer)) :
    RefusesDepth answer := by
  obtain ⟨limit, offset, same⟩ := deep
  unfold pulledAnswer at same
  split at same
  case h_1 =>
    cases answer with
    | ok => cases same
    | error error =>
        cases error with
        | lexical => cases same
        | grammatical error => cases error <;> first | exact ⟨_, _, rfl⟩ | cases same
  case h_2 =>
    split at same
    · cases same
    · exact ⟨limit, offset, same⟩

theorem pulledAnswer_deep (last : Nat) (failure : Option LexError) (limit offset : Nat) :
    pulledAnswer last failure (.error (.grammatical (.tooDeep limit offset))) =
      .error (.grammatical (.tooDeep limit offset)) := by
  cases failure <;> rfl

theorem Threshold.pulled {tokens : List SpannedToken} {answer : Nat → Except ParseError Query}
    (threshold : Threshold tokens answer) (last : Nat) (failure : Option LexError) :
    Threshold tokens fun limit => pulledAnswer last failure (answer limit) := by
  obtain ⟨result, need, within, shallow, settled, place, said, rises, opens⟩ := threshold
  refine ⟨pulledAnswer last failure result, need, within,
    fun deep => shallow (refusesDepth_pulledAnswer deep), fun limit enough => ?_, place,
    fun limit below => ?_, rises, opens⟩
  · exact congrArg _ (settled limit enough)
  · exact (congrArg _ (said limit below)).trans (pulledAnswer_deep last failure limit _)

/-- The nesting limit is a threshold for every list of tokens and for every text. -/
theorem nesting_threshold (field : String) :
    (∀ tokens : List SpannedToken,
      (tokens.Pairwise fun first second => first.start < second.start) →
      Threshold tokens fun limit => parseTokens ⟨field, limit⟩ tokens) ∧
    ∀ source : String, Threshold (Tokenizer.ofString source).drain.1
      fun limit => parseWith ⟨field, limit⟩ source := by
  constructor
  · exact fun tokens rising => parseTokens_threshold field rising
  · intro source
    have supplied := (Tokenizer.ofString source).drain_supplies
    have rising := (Tokenizer.ofString source).drain_cuts.rising
    have same (limit : Nat) := (parseFeed_eq ⟨field, limit⟩ supplied fun token member =>
      meaningful_of_spelt (Tokenizer.supplies_spelt supplied token member)).2
    have threshold := (parseTokens_threshold field rising).pulled
      (Tokenizer.ofString source).finish (Tokenizer.ofString source).drain.2
    exact (funext same) ▸ threshold

/-- The tokens of `((a) AND b`, where two levels are opened before the AND is refused. -/
def openGroups : List SpannedToken :=
  [⟨⟨.groupOpen, "("⟩, 0, 1⟩, ⟨⟨.groupOpen, "("⟩, 1, 2⟩, ⟨⟨.identifier, "a"⟩, 2, 3⟩,
   ⟨⟨.groupClose, ")"⟩, 3, 4⟩, ⟨⟨.logicalAnd, "AND"⟩, 5, 8⟩, ⟨⟨.identifier, "b"⟩, 9, 10⟩]

theorem openGroups_threshold :
    (openGroups.Pairwise fun first second => first.start < second.start) ∧
      Threshold openGroups (fun limit => parseTokens ⟨"*", limit⟩ openGroups) ∧
      Threshold (Tokenizer.ofString "NOT ((a*").drain.1
        (fun limit => parseWith ⟨"*", limit⟩ "NOT ((a*") := by
  have rising : openGroups.Pairwise fun first second => first.start < second.start := by decide
  exact ⟨rising, (nesting_threshold "*").1 openGroups rising, (nesting_threshold "*").2 _⟩

end SearchQuery
