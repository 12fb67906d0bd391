import SearchQuery.Proofs.Supply
import SearchQuery.Token.Session

/-!
What a tokenizer answers, in whatever mix its tokens are asked for. Each pull takes one step
along the tokens of the text, then comes its failure or its end, and after that only the end.
A copy set aside starts again where it was taken.
-/

namespace SearchQuery

def answerAt (tokens : List SpannedToken) (failure : Option LexError) (number : Nat) :
    Except LexError (Option SpannedToken) :=
  if number = tokens.length then failure.elim (.ok none) .error else .ok tokens[number]?

def placeAt (tokens : List SpannedToken) (last number : Nat) : Nat :=
  (tokens[number]?.map (·.stop)).getD last

/-- A failure comes once, behind the last token. -/
def failureLeft : List SpannedToken → Option LexError → Option LexError
  | [], _ => none
  | _ :: _, failure => failure

section Numbers

variable (tokens : List SpannedToken) (failure : Option LexError) (last number : Nat)

theorem answerAt_succ :
    answerAt tokens failure (number + 1) =
      answerAt tokens.tail (failureLeft tokens failure) number := by
  cases tokens with
  | nil => cases number <;> rfl
  | cons found later =>
      by_cases spent : number = later.length <;> simp [answerAt, failureLeft, spent]

theorem placeAt_succ : placeAt tokens last (number + 1) = placeAt tokens.tail last number := by
  cases tokens <;> rfl

variable {tokens number}

theorem answerAt_of_getElem {token : SpannedToken} (given : tokens[number]? = some token) :
    answerAt tokens failure number = .ok (some token) := by
  have inside := (List.getElem?_eq_some_iff.mp given).1
  simp [answerAt, given, Nat.ne_of_lt inside]

theorem answerAt_length :
    answerAt tokens failure tokens.length = failure.elim (.ok none) .error := by
  simp [answerAt]

theorem answerAt_of_lt (beyond : tokens.length < number) :
    answerAt tokens failure number = .ok none := by
  rw [answerAt, if_neg (Nat.ne_of_gt beyond), List.getElem?_eq_none (Nat.le_of_lt beyond)]

theorem placeAt_of_getElem {token : SpannedToken} (given : tokens[number]? = some token) :
    placeAt tokens last number = token.stop := by
  simp [placeAt, given]

theorem placeAt_of_le (beyond : tokens.length ≤ number) : placeAt tokens last number = last := by
  simp [placeAt, beyond]

end Numbers

def Form.answer : Form → Except LexError (Option SpannedToken) → Answer
  | .token, pulled => .token (spanless pulled)
  | .spanned, pulled => .spanned pulled

namespace Tokenizer

variable {t : Tokenizer} {tokens : List SpannedToken} {failure : Option LexError}

theorem pull_eq (t : Tokenizer) (form : Form) :
    t.pull form = (form.answer t.next.1, t.next.2) := by
  cases form <;> rfl

theorem supplies_nil (place : Nat) : Supplies place (⟨[], place⟩ : Tokenizer) [] none :=
  .ended (next_ended _ nofun) (Nat.add_zero place)

/-- One pull takes the first of the tokens, or the failure, or finds the end. -/
theorem supplies_next (supplied : Supplies t.finish t tokens failure) :
    t.next.1 = answerAt tokens failure 0 ∧ t.next.2.location = placeAt tokens t.finish 0 ∧
      Supplies t.next.2.finish t.next.2 tokens.tail (failureLeft tokens failure) ∧
      (tokens = [] → t.next.2.rest = []) := by
  rw [finish_next]
  generalize same : t.finish = last at supplied ⊢
  cases supplied with
  | ended answer _ | failed answer =>
      have spent := exhausted answer nofun
      rw [show t.next = _ from answer, spent, same]
      exact ⟨rfl, rfl, supplies_nil last, fun _ => rfl⟩
  | more answer rest =>
      obtain ⟨_, _, _, -, -, -, -, -, stands, -⟩ := next_found answer
      rw [show t.next = _ from answer]
      exact ⟨rfl, by rw [stands]; rfl, rest, nofun⟩

theorem location_le_next (t : Tokenizer) : t.location ≤ t.next.2.location := by
  have skipped : t.location ≤ t.skipBlanks.location := Nat.le_add_right _ _
  apply Nat.le_trans skipped
  unfold next scan
  split
  · exact Nat.le_refl _
  · split
    · exact Nat.le_add_right _ _
    · exact Nat.le_add_right _ _

theorem collect_step {after : Tokenizer} {pulled : Except LexError (Option SpannedToken)}
    (answer : t.next = (pulled, after)) :
    t.collect = match spanless pulled with
      | none => .ok []
      | some (.error error) => .error error
      | some (.ok token) => after.collect.map (token :: ·) := by
  have seen : t.nextToken.1 = spanless pulled := by rw [nextToken, answer]
  have left : t.nextToken.2 = after := by rw [nextToken, answer]
  rw [← seen, ← left, collect]
  split
  case h_1 given | h_2 given | h_3 given => rw [given]

/-- Tokens collected one by one are those of the text, up to its failure. -/
theorem collect_eq {last : Nat} (supplied : Supplies last t tokens failure) :
    t.collect = failure.elim (.ok (tokens.map (·.token))) .error := by
  induction supplied with
  | ended answer _ =>
      rw [collect_step answer]
      rfl
  | failed answer =>
      rw [collect_step answer]
      rfl
  | @more _ _ _ _ failure answer _ ih =>
      rw [collect_step answer]
      simp only [spanless, ih]
      cases failure <;> rfl

end Tokenizer

namespace Session

def pulls (forms : List Form) : List Step := forms.map .pull

def after (session : Session) (steps : List Step) : Session :=
  steps.foldl (fun session step => (session.step step).2) session

/-- A copy set aside is taken up as it was left, and the pulls since are answered again. -/
def Replays (session : Session) (earlier : List Step) (since : List Form) : Prop :=
  ∃ t seen, session.run (earlier ++ .save :: (pulls since ++ .restore :: pulls since)) =
    session.run earlier ++ (none, ⟨t, t⟩) :: (seen ++ (none, ⟨t, t⟩) :: seen)

section Runs

variable (session : Session) (steps : List Step)

theorem length_run : (session.run steps).length = steps.length := by
  induction steps generalizing session with
  | nil => rfl
  | cons step steps ih => simp [run, ih]

theorem run_append (others : List Step) :
    session.run (steps ++ others) = session.run steps ++ (session.after steps).run others := by
  induction steps generalizing session with
  | nil => rfl
  | cons step steps ih => simp [run, ih, after]

theorem saved_after_pulls (forms : List Form) :
    (session.after (pulls forms)).saved = session.saved := by
  induction forms generalizing session with
  | nil => rfl
  | cons form forms ih => exact ih _

theorem run_replays (earlier : List Step) (since : List Form) :
    session.Replays earlier since := by
  let t := (session.after earlier).current
  refine ⟨t, run ⟨t, t⟩ (pulls since), ?_⟩
  have aside : (session.after earlier).step .save = (none, ⟨t, t⟩) := rfl
  have kept : (after ⟨t, t⟩ (pulls since)).saved = t := saved_after_pulls ⟨t, t⟩ since
  have back : (after ⟨t, t⟩ (pulls since)).step .restore = (none, ⟨t, t⟩) := by rw [step, kept]
  rw [run_append, run, aside, run_append, run, back]

end Runs

variable {t : Tokenizer} {tokens : List SpannedToken} {failure : Option LexError}

/-- Pulls go along the tokens, whatever their forms. -/
theorem run_pulls (supplied : Supplies t.finish t tokens failure) (saved : Tokenizer)
    {forms : List Form} {number : Nat} {form : Form} (asked : forms[number]? = some form) :
    ∃ left : Tokenizer, (run ⟨t, saved⟩ (pulls forms))[number]? =
        some (some (form.answer (answerAt tokens failure number)), ⟨left, saved⟩) ∧
      left.location = placeAt tokens t.finish number ∧
      (tokens.length ≤ number → left.rest = []) := by
  induction forms generalizing t tokens failure number with
  | nil => cases asked
  | cons first forms ih =>
      obtain ⟨answered, placed, others, spent⟩ := Tokenizer.supplies_next supplied
      cases number with
      | zero =>
          cases asked
          refine ⟨t.next.2, ?_, placed, fun none_left => ?_⟩
          · simp [pulls, run, step, Tokenizer.pull_eq, answered]
          · exact spent (List.length_eq_zero_iff.mp (Nat.le_zero.mp none_left))
      | succ number =>
          obtain ⟨left, seen, place, rest⟩ := ih others asked
          refine ⟨left, ?_, ?_, fun none_left => ?_⟩
          · rw [answerAt_succ, ← seen]
            simp [pulls, run, step, Tokenizer.pull_eq]
          · rw [place, placeAt_succ, Tokenizer.finish_next]
          · apply rest
            rw [List.length_tail]
            exact Nat.sub_le_of_le_add none_left

theorem run_forward (session : Session) (forms : List Form) :
    (session.current.location ::
      (session.run (pulls forms)).map (·.2.current.location)).Pairwise (· ≤ ·) := by
  induction forms generalizing session with
  | nil => exact List.pairwise_singleton ..
  | cons form forms ih =>
      have later := ih (session.step (.pull form)).2
      have further : session.current.location ≤ (session.step (.pull form)).2.current.location := by
        simpa [step, Tokenizer.pull_eq] using session.current.location_le_next
      apply List.Pairwise.cons _ later
      rw [List.forall_mem_cons]
      refine ⟨further, fun place member => ?_⟩
      exact Nat.le_trans further ((List.pairwise_cons.mp later).1 place member)

/-- What pulls in these forms see of a text that has these tokens and then its failure or end. -/
structure Follows (source : String) (tokens : List SpannedToken) (failure : Option LexError)
    (forms : List Form) (seen : List (Option Answer × Session)) : Prop where
  answered : seen.length = forms.length
  token : ∀ (number : Nat) form token, forms[number]? = some form →
    tokens[number]? = some token → ∃ session : Session,
      seen[number]? = some (some (form.answer (.ok (some token))), session) ∧
        session.current.location = token.stop
  ending : ∀ form, forms[tokens.length]? = some form → ∃ session : Session,
    seen[tokens.length]? = some (some (form.answer (failure.elim (.ok none) .error)), session)
  silent : ∀ (number : Nat) form, tokens.length < number → forms[number]? = some form →
    ∃ session : Session, seen[number]? = some (some (form.answer (.ok none)), session)
  exhausted : ∀ (number : Nat) answer (session : Session), tokens.length ≤ number →
    seen[number]? = some (answer, session) →
      session.current.location = source.utf8ByteSize ∧ session.current.atEnd = true
  forward : (0 :: seen.map (·.2.current.location)).Pairwise (· ≤ ·)

theorem run_follows {source : String} {tokens : List SpannedToken} {failure : Option LexError}
    (drained : (Tokenizer.ofString source).drain = (tokens, failure)) (forms : List Form) :
    Follows source tokens failure forms ((ofString source).run (pulls forms)) := by
  have supplied := (Tokenizer.ofString source).drain_supplies
  rw [drained] at supplied
  have finish : (Tokenizer.ofString source).finish = source.utf8ByteSize := by
    simp [Tokenizer.finish, Tokenizer.ofString]
  have pulled : ∀ {number form}, forms[number]? = some form → ∃ left : Tokenizer,
      ((ofString source).run (pulls forms))[number]? =
          some (some (form.answer (answerAt tokens failure number)),
            ⟨left, Tokenizer.ofString source⟩) ∧
        left.location = placeAt tokens source.utf8ByteSize number ∧
        (tokens.length ≤ number → left.rest = []) := by
    rw [← finish]
    exact run_pulls supplied (Tokenizer.ofString source)
  constructor
  case answered => rw [length_run, pulls, List.length_map]
  case token =>
    intro number form token asked given
    obtain ⟨left, seen, place, -⟩ := pulled asked
    rw [answerAt_of_getElem failure given] at seen
    rw [placeAt_of_getElem _ given] at place
    exact ⟨_, seen, place⟩
  case ending =>
    intro form asked
    obtain ⟨left, seen, -, -⟩ := pulled asked
    rw [answerAt_length] at seen
    exact ⟨_, seen⟩
  case silent =>
    intro number form beyond asked
    obtain ⟨left, seen, -, -⟩ := pulled asked
    rw [answerAt_of_lt failure beyond] at seen
    exact ⟨_, seen⟩
  case exhausted =>
    intro number answer session beyond given
    have inside : number < forms.length := by
      have within := (List.getElem?_eq_some_iff.mp given).1
      rwa [length_run, pulls, List.length_map] at within
    obtain ⟨left, seen, place, spent⟩ := pulled (List.getElem?_eq_getElem inside)
    rw [placeAt_of_le _ beyond] at place
    rw [seen] at given
    cases given
    exact ⟨place, by simp [Tokenizer.atEnd, spent beyond]⟩
  case forward => exact run_forward (ofString source) forms

end Session

/-- Each pull is answered by the next token of the text, then once by its failure, if it has
one, and then by the end, and all tokens at once are the same tokens. -/
theorem session_follows (source : String) :
    ∃ tokens failure, (Tokenizer.ofString source).drain = (tokens, failure) ∧
      (∀ forms, Session.Follows source tokens failure forms
        ((Session.ofString source).run (Session.pulls forms))) ∧
      (∀ earlier since, (Session.ofString source).Replays earlier since) ∧
      tokenizeSpanned source = failure.elim (.ok tokens) .error ∧
      (Tokenizer.ofString source).collect = (tokenizeSpanned source).map (List.map (·.token)) ∧
      tokenize source = (Tokenizer.ofString source).collect := by
  cases drained : (Tokenizer.ofString source).drain with
  | mk tokens failure =>
      have supplied := (Tokenizer.ofString source).drain_supplies
      rw [drained] at supplied
      have listed := tokenize_of_drain drained
      rw [← Tokenizer.collect_eq supplied] at listed
      refine ⟨tokens, failure, rfl, Session.run_follows drained, ?_, ?_, listed.symm, listed⟩
      · exact Session.run_replays (Session.ofString source)
      · exact tokenizeSpanned_of_drain drained

example : ((Session.ofString "a #").run [.pull .token, .save, .pull .spanned, .pull .token, .restore,
    .pull .token]).map (·.1) =
      [some (.token (some (.ok ⟨.identifier, "a"⟩))), none, some (.spanned (.error ⟨2, '#'⟩)),
       some (.token none), none, some (.token (some (.error ⟨2, '#'⟩)))] :=
  rfl

end SearchQuery
