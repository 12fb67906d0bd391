import Mathlib
import SearchQuery.Proofs.Feed

/-!
Which lists of tokens are queries. The grammar below speaks of kinds alone and is
ambiguous: an operand of NOT, an operator that is left out and the end of a chain
leave open what belongs together. The parser decides by one token ahead. It is
shown to accept exactly what some derivation allows.
-/

namespace SearchQuery

inductive Symbol where
  | basic
  | alternatives
  | conjunction
  | operand
  | value
  | bound
  deriving DecidableEq, Repr

/-- The kinds of token in a query, by the grammar.

    basic        := "(" basic ")" | alternatives, these not starting with "("
    alternatives := conjunction (OR? conjunction)*
    conjunction  := operand (AND conjunction)?
    operand      := NOT basic | "(" basic ")" | PHRASE | NAME | NAME ":" value
    value        := ("[" | "{") bound TO bound ("]" | "}") | COMPARISON bound
                  | REGEX | PHRASE | NAME | "(" basic ")"
    bound        := NAME | PHRASE
-/
inductive Derives : Symbol → List TokenKind → Prop where
  | group {body} (inside : Derives .basic body) :
      Derives .basic (.groupOpen :: (body ++ [.groupClose]))
  | plain {body} (whole : Derives .alternatives body) (bare : body.head? ≠ some .groupOpen) :
      Derives .basic body
  | single {body} (only : Derives .conjunction body) : Derives .alternatives body
  | or {before after} (first : Derives .alternatives before)
      (second : Derives .conjunction after) :
      Derives .alternatives (before ++ .logicalOr :: after)
  | adjacent {before after} (first : Derives .alternatives before)
      (second : Derives .conjunction after) : Derives .alternatives (before ++ after)
  | last {body} (only : Derives .operand body) : Derives .conjunction body
  | and {before after} (first : Derives .operand before) (second : Derives .conjunction after) :
      Derives .conjunction (before ++ .logicalAnd :: after)
  | not {body} (operand : Derives .basic body) : Derives .operand (.logicalNot :: body)
  | paren {body} (inside : Derives .basic body) :
      Derives .operand (.groupOpen :: (body ++ [.groupClose]))
  | phrase : Derives .operand [.quotedString]
  | name : Derives .operand [.identifier]
  | fielded {body} (found : Derives .value body) :
      Derives .operand (.identifier :: .fieldSeparator :: body)
  | range {lower upper} (first : Derives .bound lower) (second : Derives .bound upper) :
      Derives .value (.rangeOpen :: (lower ++ .rangeTo :: (upper ++ [.rangeClose])))
  | comparison {limit} (bounded : Derives .bound limit) :
      Derives .value (.relationalOperator :: limit)
  | regex : Derives .value [.regex]
  | quoted : Derives .value [.quotedString]
  | word : Derives .value [.identifier]
  | fieldGroup {body} (inside : Derives .basic body) :
      Derives .value (.groupOpen :: (body ++ [.groupClose]))
  | nameBound : Derives .bound [.identifier]
  | phraseBound : Derives .bound [.quotedString]

def kinds (tokens : List Token) : List TokenKind := tokens.map (·.kind)

@[simp] theorem kinds_nil : kinds [] = [] := rfl

@[simp] theorem kinds_cons (token : Token) (rest : List Token) :
    kinds (token :: rest) = token.kind :: kinds rest := rfl

@[simp] theorem kinds_append (left right : List Token) :
    kinds (left ++ right) = kinds left ++ kinds right := List.map_append

theorem head_kinds (tokens : List Token) : (kinds tokens).head? = firstKind tokens := by
  cases tokens <;> rfl

theorem kinds_eq_singleton {tokens : List Token} {kind : TokenKind}
    (same : kinds tokens = [kind]) : ∃ token : Token, tokens = [token] ∧ token.kind = kind := by
  obtain ⟨token, rest, rfl, first, empty⟩ := List.map_eq_cons_iff.mp same
  cases List.map_eq_nil_iff.mp empty
  exact ⟨token, rfl, first⟩

/-! What is read is derived -/

def DerivesClause (tokens : List Token) : Clause → Prop
  | .expression => Derives .basic (kinds tokens)
  | .group => ∃ body, kinds tokens = .groupOpen :: (body ++ [.groupClose]) ∧ Derives .basic body
  | .disjunction => Derives .alternatives (kinds tokens)
  | .chain => Derives .conjunction (kinds tokens)
  | .factor => Derives .operand (kinds tokens)

theorem bound_derives {token : Token} {atom : Atom} (found : token.atom? = some atom) :
    Derives .bound [token.kind] := by
  rcases Parse.atom_cases found with ⟨kind, _⟩ | ⟨kind, _⟩
  · exact kind ▸ .nameBound
  · exact kind ▸ .phraseBound

theorem value_derives {field : String} {tokens : List Token} {tree : Expr}
    {next : Option TokenKind} (reads : ReadsValue field tokens tree next) :
    Derives .value (kinds tokens) := by
  cases reads with
  | term kind => simpa [kind] using Derives.word
  | phrase kind => simpa [kind] using Derives.quoted
  | regex kind => simpa [kind] using Derives.regex
  | range opens first between second closes =>
      simpa [opens, between, closes] using
        Derives.range (bound_derives first) (bound_derives second)
  | comparison kind _ bounded _ =>
      simpa [kind] using Derives.comparison (bound_derives bounded)

theorem reads_derives {field : String} {clause : Clause} {tokens : List Token} {tree : Expr}
    {next : Option TokenKind} {levels : Nat}
    (reads : Reads field clause tokens tree next levels) : DerivesClause tokens clause := by
  induction reads with
  | ofGroup _ ih =>
      obtain ⟨body, same, inside⟩ := ih
      unfold DerivesClause
      rw [same]
      exact .group inside
  | ofDisjunction _ bare _ ih => exact .plain ih (by rwa [head_kinds])
  | group opens _ closes ih => exact ⟨_, by simp [opens, closes], ih⟩
  | first _ ih => exact .single ih
  | or _ written _ ihLeft ihRight =>
      unfold DerivesClause
      rw [kinds_append, kinds_cons, written]
      exact .or ihLeft ihRight
  | adjacent _ _ ihLeft ihRight =>
      unfold DerivesClause
      rw [kinds_append]
      exact .adjacent ihLeft ihRight
  | last _ _ ih => exact .last ih
  | and _ written _ ihLeft ihRight =>
      unfold DerivesClause
      rw [kinds_append, kinds_cons, written]
      exact .and ihLeft ihRight
  | not written _ ih =>
      unfold DerivesClause
      rw [kinds_cons, written]
      exact .not ih
  | paren _ ih =>
      obtain ⟨body, same, inside⟩ := ih
      unfold DerivesClause
      rw [same]
      exact .paren inside
  | word kind => simpa [DerivesClause, kind] using Derives.name
  | phrase kind => simpa [DerivesClause, kind] using Derives.phrase
  | value names separates found =>
      simpa [DerivesClause, names, separates] using Derives.fielded (value_derives found)
  | fieldGroup names separates _ ih =>
      obtain ⟨body, same, inside⟩ := ih
      simpa [DerivesClause, names, separates, same] using
        Derives.fielded (Derives.fieldGroup inside)

/-! What is derived is read

A derivation may end an operand of NOT where the parser goes on. So a reading is
not looked for along the derivation: it is shown that whatever is read can swallow
what follows it, be it joined by an operator or by none. -/

def Joint (joint : List Token) : Prop :=
  joint = [] ∨ ∃ operator : Token, joint = [operator] ∧
    (operator.kind = .logicalOr ∨ operator.kind = .logicalAnd)

/-- The tokens can be continued by any disjunction to the end of an expression. -/
def Absorbs (field : String) (tokens : List Token) : Prop :=
  ∀ joint rest tree next levels, Joint joint → Reads field .disjunction rest tree next levels →
    Ends next → ∃ whole deeper,
      Reads field .disjunction (tokens ++ (joint ++ rest)) whole next deeper

section Absorption

variable {field : String} {clause : Clause} {tokens : List Token} {tree : Expr}
  {next : Option TokenKind} {levels : Nat}

-- What can stand before the first chain of a disjunction can stand before all of it.
theorem Reads.prepend {before : List Token} {kind : Option TokenKind}
    (chains : ∀ rest tree next levels, firstKind rest = kind →
      Reads field .chain rest tree next levels →
      ∃ whole deeper, Reads field .disjunction (before ++ rest) whole next deeper)
    (reads : Reads field .disjunction tokens tree next levels) (begins : firstKind tokens = kind) :
    ∃ whole deeper, Reads field .disjunction (before ++ tokens) whole next deeper := by
  generalize same : Clause.disjunction = clause at reads
  induction reads with
  | first only => exact chains _ _ _ _ begins only
  | or first written second ih =>
      rw [firstKind_append_of_ne_nil first.tokens_ne_nil] at begins
      obtain ⟨whole, deeper, left⟩ := ih begins rfl
      rw [← List.append_assoc]
      exact ⟨_, _, .or left written second⟩
  | adjacent first second ih =>
      rw [firstKind_append_of_ne_nil first.tokens_ne_nil] at begins
      obtain ⟨whole, deeper, left⟩ := ih begins rfl
      rw [← List.append_assoc]
      exact ⟨_, _, .adjacent left second⟩
  | ofGroup | ofDisjunction | group | last | and | not | paren | word | phrase | value
  | fieldGroup => cases same

/-- A factor that ends wherever no colon follows can be continued. -/
theorem absorbs_of_closed (closed : ∀ next, next ≠ some .fieldSeparator →
    ∃ tree levels, Reads field .factor tokens tree next levels) : Absorbs field tokens := by
  rintro joint rest tree next levels (rfl | ⟨operator, rfl, kind⟩) reads _
  · refine Reads.prepend (fun chain right behind deep begins second => ?_) reads rfl
    obtain ⟨unchained, unnamed⟩ := second.begins.separate
    obtain ⟨left, levels, first⟩ := closed (firstKind chain) unnamed
    exact ⟨_, _, .adjacent (.first (.last first unchained)) second⟩
  · rw [← List.append_assoc]
    refine Reads.prepend (fun chain right behind deep begins second => ?_) reads rfl
    rw [List.append_assoc]
    rcases kind with kind | kind
    · obtain ⟨left, levels, first⟩ := closed (some .logicalOr) (by simp)
      exact ⟨_, _, .or (.first (.last first (by simp))) kind second⟩
    · obtain ⟨left, levels, first⟩ := closed (some .logicalAnd) (by simp)
      exact ⟨_, _, .first (.and first kind second)⟩

theorem absorbs_group (reads : Reads field .group tokens tree next levels) :
    Absorbs field tokens :=
  absorbs_of_closed fun other _ => ⟨tree, levels, .paren (reads.group_next other)⟩

theorem absorbs_value {name colon : Token} (names : name.kind = .identifier)
    (separates : colon.kind = .fieldSeparator) (found : ReadsValue name.text tokens tree next) :
    Absorbs field (name :: colon :: tokens) :=
  absorbs_of_closed fun _ unnamed => ⟨_, _, .value names separates (found.before unnamed)⟩

/-- What is before a clause of its own goes with it when that clause goes on. -/
theorem Absorbs.prepend {before after : List Token} (absorbs : Absorbs field after)
    (some_token : after ≠ [])
    (chains : ∀ rest tree next levels, firstKind rest = firstKind after →
      Reads field .chain rest tree next levels →
      ∃ whole deeper, Reads field .disjunction (before ++ rest) whole next deeper) :
    Absorbs field (before ++ after) := by
  intro joint rest tree next levels joined reads ends
  obtain ⟨whole, deeper, later⟩ := absorbs joint rest tree next levels joined reads ends
  rw [List.append_assoc]
  exact Reads.prepend chains later (firstKind_append_of_ne_nil some_token)

/-- What can be said of the tokens of each clause: an expression is a group, to which
nothing can be added, or it goes on. -/
def Continues (field : String) (tokens : List Token) : Clause → Prop
  | .expression => (∃ tree levels, Reads field .group tokens tree none levels) ∨
      (firstKind tokens ≠ some .groupOpen ∧ tokens ≠ [] ∧ Absorbs field tokens)
  | .group => True
  | .disjunction | .chain | .factor => Absorbs field tokens

theorem absorbs_not {operator : Token} (written : operator.kind = .logicalNot)
    (operand : Continues field tokens .expression) : Absorbs field (operator :: tokens) := by
  rcases operand with ⟨tree, levels, group⟩ | ⟨bare, some_token, absorbs⟩
  · exact absorbs_of_closed fun other _ => ⟨_, _, .not written (.ofGroup (group.group_next other))⟩
  · intro joint rest tree next levels joined reads ends
    -- what follows goes to the operand, which is greedy and does not begin with a group
    obtain ⟨whole, deeper, later⟩ := absorbs joint rest tree next levels joined reads ends
    have unopened : firstKind (tokens ++ (joint ++ rest)) ≠ some .groupOpen := by
      rwa [firstKind_append_of_ne_nil some_token]
    have operand : Reads field .expression _ whole next deeper :=
      .ofDisjunction later unopened ends
    exact ⟨_, _, .first (.last (.not written operand) ends.separate.1)⟩

theorem Reads.continues (reads : Reads field clause tokens tree next levels) :
    Continues field tokens clause := by
  induction reads with
  | ofGroup whole => exact .inl ⟨_, _, whole.group_next none⟩
  | ofDisjunction whole bare _ ih => exact .inr ⟨bare, whole.tokens_ne_nil, ih⟩
  | group => trivial
  | first _ ih | last _ _ ih => exact ih
  | @or operator before after _ _ _ _ _ first written second _ ih =>
      rw [List.append_cons]
      refine Absorbs.prepend ih second.tokens_ne_nil fun rest right behind deep _ later => ?_
      rw [← List.append_cons]
      exact ⟨_, _, .or first written later⟩
  | adjacent first second _ ih =>
      refine Absorbs.prepend ih second.tokens_ne_nil fun rest right behind deep begins later => ?_
      rw [← begins] at first
      exact ⟨_, _, .adjacent first later⟩
  | @and operator before after _ _ _ _ _ first written second _ ih =>
      rw [List.append_cons]
      refine Absorbs.prepend ih second.tokens_ne_nil fun rest right behind deep _ later => ?_
      rw [← List.append_cons]
      exact ⟨_, _, .first (.and first written later)⟩
  | not written _ ih => exact absorbs_not written ih
  | paren whole => exact absorbs_group whole
  | word kind => exact absorbs_of_closed fun other bare => ⟨_, _, .word kind bare⟩
  | phrase kind => exact absorbs_of_closed fun other _ => ⟨_, _, .phrase kind⟩
  | value names separates found => exact absorbs_value names separates found
  | fieldGroup names separates body =>
      exact absorbs_of_closed fun other _ =>
        ⟨_, _, .fieldGroup names separates (body.group_next other)⟩

end Absorption

def Meaningful (token : Token) : Prop :=
  token.kind = .relationalOperator → ∃ relation, Relation.ofSymbol? token.text = some relation

def ReadsSymbol (field : String) (tokens : List Token) : Symbol → Prop
  | .basic => ∀ next, Ends next → ∃ tree levels, Reads field .expression tokens tree next levels
  | .alternatives | .conjunction | .operand =>
      ∀ next, Ends next → ∃ tree levels, Reads field .disjunction tokens tree next levels
  | .value => ∀ name colon : Token, name.kind = .identifier → colon.kind = .fieldSeparator →
      ∀ next, Ends next →
        ∃ tree levels, Reads field .factor (name :: colon :: tokens) tree next levels
  | .bound => ∃ token atom, tokens = [token] ∧ token.atom? = some atom

def Promised (field : String) (symbol : Symbol) (word : List TokenKind) : Prop :=
  ∀ tokens, kinds tokens = word → (∀ token ∈ tokens, Meaningful token) →
    ReadsSymbol field tokens symbol

section Promises

variable {field : String} {tokens : List Token} {kind : TokenKind}
  {body before after : List TokenKind}

theorem readsSymbol_of_factor
    (factor : ∀ next, Ends next → ∃ tree levels, Reads field .factor tokens tree next levels) :
    ReadsSymbol field tokens .operand := by
  intro next ends
  obtain ⟨tree, levels, reads⟩ := factor next ends
  exact ⟨tree, levels, .first (.last reads ends.separate.1)⟩

/-! Parentheses -/

theorem Promised.enclosed (inside : Promised field .basic body)
    (same : kinds tokens = .groupOpen :: (body ++ [.groupClose]))
    (meaningful : ∀ token ∈ tokens, Meaningful token) (next : Option TokenKind) :
    ∃ tree levels, Reads field .group tokens tree next levels := by
  obtain ⟨opening, rest, rfl, opens, behind⟩ := List.map_eq_cons_iff.mp same
  obtain ⟨inner, last, rfl, enclosed, ended⟩ := List.map_eq_append_iff.mp behind
  obtain ⟨closing, rfl, closes⟩ := kinds_eq_singleton ended
  simp only [List.forall_mem_cons, List.forall_mem_append] at meaningful
  obtain ⟨tree, levels, reads⟩ :=
    inside inner enclosed meaningful.2.1 (some .groupClose) (.inr rfl)
  exact ⟨_, _, .group opens reads closes⟩

theorem Promised.group (inside : Promised field .basic body) :
    Promised field .basic (.groupOpen :: (body ++ [.groupClose])) := by
  intro tokens same meaningful next _
  obtain ⟨tree, levels, reads⟩ := inside.enclosed same meaningful next
  exact ⟨tree, levels, .ofGroup reads⟩

theorem Promised.paren (inside : Promised field .basic body) :
    Promised field .operand (.groupOpen :: (body ++ [.groupClose])) := by
  intro tokens same meaningful
  apply readsSymbol_of_factor
  intro next _
  obtain ⟨tree, levels, reads⟩ := inside.enclosed same meaningful next
  exact ⟨tree, levels, .paren reads⟩

theorem Promised.fieldGroup (inside : Promised field .basic body) :
    Promised field .value (.groupOpen :: (body ++ [.groupClose])) := by
  intro tokens same meaningful name colon names separates next _
  obtain ⟨tree, levels, reads⟩ := inside.enclosed same meaningful next
  exact ⟨_, _, .fieldGroup names separates reads⟩

/-! Operators -/

/-- Two readings that belong to parts of one derivation can be joined. -/
theorem readsSymbol_joined {left joint right : List Token} (joined : Joint joint)
    (first : ReadsSymbol field left .operand) (second : ReadsSymbol field right .operand) :
    ReadsSymbol field (left ++ (joint ++ right)) .operand := by
  intro next ends
  obtain ⟨tree, _, reads⟩ := first none (.inl rfl)
  obtain ⟨later, levels, rest⟩ := second next ends
  exact reads.continues joint right later next levels joined rest ends

theorem Promised.joined (joins : kind = .logicalOr ∨ kind = .logicalAnd)
    (first : Promised field .operand before) (second : Promised field .operand after) :
    Promised field .operand (before ++ kind :: after) := by
  intro tokens same meaningful
  obtain ⟨left, rest, rfl, sameLeft, same⟩ := List.map_eq_append_iff.mp same
  obtain ⟨operator, right, rfl, rfl, sameRight⟩ := List.map_eq_cons_iff.mp same
  simp only [List.forall_mem_append, List.forall_mem_cons] at meaningful
  exact readsSymbol_joined (.inr ⟨operator, rfl, joins⟩) (first left sameLeft meaningful.1)
    (second right sameRight meaningful.2.2)

theorem Promised.adjacent (first : Promised field .operand before)
    (second : Promised field .operand after) : Promised field .operand (before ++ after) := by
  intro tokens same meaningful
  obtain ⟨left, right, rfl, sameLeft, sameRight⟩ := List.map_eq_append_iff.mp same
  rw [List.forall_mem_append] at meaningful
  exact readsSymbol_joined (.inl rfl) (first left sameLeft meaningful.1)
    (second right sameRight meaningful.2)

theorem Promised.not (operand : Promised field .basic body) :
    Promised field .operand (.logicalNot :: body) := by
  intro tokens same meaningful
  obtain ⟨operator, rest, rfl, written, same⟩ := List.map_eq_cons_iff.mp same
  rw [List.forall_mem_cons] at meaningful
  apply readsSymbol_of_factor
  intro next ends
  obtain ⟨tree, levels, reads⟩ := operand rest same meaningful.2 next ends
  exact ⟨_, _, .not written reads⟩

theorem Promised.plain (whole : Promised field .alternatives body)
    (bare : body.head? ≠ some .groupOpen) : Promised field .basic body := by
  intro tokens same meaningful next ends
  obtain ⟨tree, levels, reads⟩ := whole tokens same meaningful next ends
  exact ⟨tree, levels, .ofDisjunction reads (by rwa [← head_kinds, same]) ends⟩

/-! Fields and their values -/

theorem Promised.fielded (found : Promised field .value body) :
    Promised field .operand (.identifier :: .fieldSeparator :: body) := by
  intro tokens same meaningful
  obtain ⟨name, rest, rfl, names, same⟩ := List.map_eq_cons_iff.mp same
  obtain ⟨colon, rest, rfl, separates, same⟩ := List.map_eq_cons_iff.mp same
  simp only [List.forall_mem_cons] at meaningful
  exact readsSymbol_of_factor (found rest same meaningful.2.2 name colon names separates)

theorem Promised.range (first : Promised field .bound before)
    (second : Promised field .bound after) :
    Promised field .value
      (.rangeOpen :: (before ++ .rangeTo :: (after ++ [.rangeClose]))) := by
  intro tokens same meaningful name colon names separates next _
  obtain ⟨opening, rest, rfl, opens, same⟩ := List.map_eq_cons_iff.mp same
  obtain ⟨lowers, rest, rfl, sameLower, same⟩ := List.map_eq_append_iff.mp same
  obtain ⟨middle, rest, rfl, between, same⟩ := List.map_eq_cons_iff.mp same
  obtain ⟨uppers, rest, rfl, sameUpper, same⟩ := List.map_eq_append_iff.mp same
  obtain ⟨closing, rfl, closes⟩ := kinds_eq_singleton same
  simp only [List.forall_mem_cons, List.forall_mem_append] at meaningful
  obtain ⟨-, lowerMeans, -, upperMeans, -⟩ := meaningful
  obtain ⟨lower, low, rfl, lowered⟩ := first lowers sameLower lowerMeans
  obtain ⟨upper, high, rfl, uppered⟩ := second uppers sameUpper upperMeans
  exact ⟨_, _, .value names separates (.range opens lowered between uppered closes)⟩

theorem Promised.comparison (bounded : Promised field .bound body) :
    Promised field .value (.relationalOperator :: body) := by
  intro tokens same meaningful name colon names separates next ends
  obtain ⟨sign, limits, rfl, written, same⟩ := List.map_eq_cons_iff.mp same
  rw [List.forall_mem_cons] at meaningful
  obtain ⟨limit, atom, rfl, meant⟩ := bounded limits same meaningful.2
  obtain ⟨relation, known⟩ := meaningful.1 written
  exact ⟨_, _, .value names separates (.comparison written known meant ends.separate.2)⟩

/-! Single tokens -/

theorem promised_word : Promised field .operand [.identifier] := by
  intro tokens same _
  obtain ⟨token, rfl, written⟩ := kinds_eq_singleton same
  exact readsSymbol_of_factor fun next ends => ⟨_, _, .word written ends.separate.2⟩

theorem promised_phrase : Promised field .operand [.quotedString] := by
  intro tokens same _
  obtain ⟨token, rfl, written⟩ := kinds_eq_singleton same
  exact readsSymbol_of_factor fun next _ => ⟨_, _, .phrase written⟩

theorem promised_value (reads : ∀ token : Token, token.kind = kind → ∀ (name : String)
      (next : Option TokenKind), ∃ tree, ReadsValue name [token] tree next) :
    Promised field .value [kind] := by
  intro tokens same _ name colon names separates next _
  obtain ⟨token, rfl, written⟩ := kinds_eq_singleton same
  obtain ⟨tree, found⟩ := reads token written name.text next
  exact ⟨_, _, .value names separates found⟩

theorem promised_bound
    (reads : ∀ token : Token, token.kind = kind → ∃ atom, token.atom? = some atom) :
    Promised field .bound [kind] := by
  intro tokens same _
  obtain ⟨token, rfl, written⟩ := kinds_eq_singleton same
  obtain ⟨atom, found⟩ := reads token written
  exact ⟨token, atom, rfl, found⟩

theorem derives_reads {symbol : Symbol} {word : List TokenKind} (derives : Derives symbol word) :
    Promised field symbol word := by
  induction derives with
  | group _ ih => exact ih.group
  | plain _ bare ih => exact ih.plain bare
  | single _ ih | last _ ih => exact ih
  | or _ _ ihLeft ihRight => exact .joined (.inl rfl) ihLeft ihRight
  | adjacent _ _ ihLeft ihRight => exact .adjacent ihLeft ihRight
  | and _ _ ihLeft ihRight => exact .joined (.inr rfl) ihLeft ihRight
  | not _ ih => exact ih.not
  | paren _ ih => exact ih.paren
  | phrase => exact promised_phrase
  | name => exact promised_word
  | fielded _ ih => exact ih.fielded
  | range _ _ ihLower ihUpper => exact ihLower.range ihUpper
  | comparison _ ih => exact ih.comparison
  | regex => exact promised_value fun _ written _ _ => ⟨_, .regex written⟩
  | quoted => exact promised_value fun _ written _ _ => ⟨_, .phrase written⟩
  | word => exact promised_value fun _ written _ _ => ⟨_, .term written⟩
  | fieldGroup _ ih => exact ih.fieldGroup
  | nameBound =>
      exact promised_bound fun token written =>
        ⟨.term token.text, by simp [Token.atom?, written]⟩
  | phraseBound =>
      exact promised_bound fun token written =>
        ⟨.phrase (unquote token.text), by simp [Token.atom?, written]⟩

end Promises

theorem ofSymbol_isSome {text : String} (listed : text ∈ [">", ">=", "<", "<="]) :
    ∃ relation, Relation.ofSymbol? text = some relation := by
  simp only [List.mem_cons, List.not_mem_nil, or_false] at listed
  rcases listed with rfl | rfl | rfl | rfl
  · exact ⟨_, Relation.ofSymbol_symbol .gt⟩
  · exact ⟨_, Relation.ofSymbol_symbol .ge⟩
  · exact ⟨_, Relation.ofSymbol_symbol .lt⟩
  · exact ⟨_, Relation.ofSymbol_symbol .le⟩

/-- The parser accepts exactly the language of the grammar. No level is opened
without a token, so a limit of as many levels as there are tokens is no limit. -/
theorem parseTokens_accepts_iff_derives (field : String) (limit : Nat)
    (tokens : List SpannedToken)
    (symbols : ∀ token ∈ tokens, token.kind = .relationalOperator →
      token.text ∈ [">", ">=", "<", "<="])
    (room : tokens.length ≤ limit) :
    (∃ query, parseTokens ⟨field, limit⟩ tokens = .ok query) ↔
      Derives .basic (tokens.map (·.kind)) := by
  have same : kinds (tokens.map (·.token)) = tokens.map (·.kind) := by
    simp [kinds, SpannedToken.kind]
  constructor
  · rintro ⟨query, accepted⟩
    obtain ⟨levels, reads, _⟩ := parseTokens_ok_iff.mp accepted
    exact same ▸ reads_derives reads
  · intro derives
    have meaningful : ∀ token ∈ tokens.map (·.token), Meaningful token := by
      intro token member kind
      obtain ⟨spanned, given, rfl⟩ := List.mem_map.mp member
      exact ofSymbol_isSome (symbols spanned given kind)
    have promised : ReadsSymbol field (tokens.map (·.token)) .basic :=
      derives_reads derives _ same meaningful
    obtain ⟨tree, levels, reads⟩ := promised none (.inl rfl)
    have bound := reads.levels_le
    rw [List.length_map] at bound
    exact ⟨⟨tree⟩, parseTokens_ok_iff.mpr ⟨levels, reads, Nat.le_trans bound room⟩⟩

/-- The tokens of `!(a:>=b) c`. -/
def negatedComparison : List SpannedToken :=
  [⟨⟨.logicalNot, "!"⟩, 0, 1⟩, ⟨⟨.groupOpen, "("⟩, 1, 2⟩, ⟨⟨.identifier, "a"⟩, 2, 3⟩,
   ⟨⟨.fieldSeparator, ":"⟩, 3, 4⟩, ⟨⟨.relationalOperator, ">="⟩, 4, 6⟩,
   ⟨⟨.identifier, "b"⟩, 6, 7⟩, ⟨⟨.groupClose, ")"⟩, 7, 8⟩, ⟨⟨.identifier, "c"⟩, 9, 10⟩]

theorem negatedComparison_derives :
    (∀ token ∈ negatedComparison, token.kind = .relationalOperator →
      token.text ∈ [">", ">=", "<", "<="]) ∧ negatedComparison.length ≤ 8 ∧
    (∃ query, parseTokens ⟨"*", 8⟩ negatedComparison = .ok query) ∧
    Derives .basic (negatedComparison.map (·.kind)) := by
  have symbols : ∀ token ∈ negatedComparison, token.kind = .relationalOperator →
      token.text ∈ [">", ">=", "<", "<="] := by decide
  have room : negatedComparison.length ≤ 8 := by decide
  have accepted : ∃ query, parseTokens ⟨"*", 8⟩ negatedComparison = .ok query :=
    ⟨⟨.binary .implicitOr (.not .symbol (.comparison "a" ⟨.term "b", .ge⟩)) (.term "*" "c")⟩,
      by cbv⟩
  exact ⟨symbols, room, accepted,
    (parseTokens_accepts_iff_derives "*" 8 negatedComparison symbols room).mp accepted⟩

end SearchQuery
