import SearchQuery.Proofs.Printing
import SearchQuery.Query.Node

/-!
What holds at every node of a tree that was parsed: which texts and relations can stand
there, and which of its children cannot begin with a group that is not all of them.
-/

namespace SearchQuery

structure IsName (text : String) : Prop where
  some_char : text ≠ ""
  members : ∀ c ∈ text.toList, isIdentifierChar c = true
  ordinary : text ∉ ["AND", "OR", "NOT", "TO"]
  begins : text.toList.head? ∉ [some '-', some '!']

def IsWritten (field : String) : Prop := IsName field ∧ field ≠ implicitField

def Atom.Lawful : Atom → Prop
  | .term value => IsName value
  | .phrase value => IsQuotable value

/-- What the root satisfies, whatever holds of the nodes below it. -/
def Expr.Lawful (default : String) : Expr → Prop
  | .binary operator left right =>
      (operator.isImplicit = true → operator = .or .word true) ∧
        (operator.isAnd = true → left.isBinary = true → left.opensWithGroup = false) ∧
        (right.isOr = true → right.opensWithGroup = false)
  | .not _ operand => operand.opensWithGroup = false
  | .term field value => (field = default ∨ IsName field) ∧ IsName value
  | .phrase field value => (field = default ∨ IsName field) ∧ IsQuotable value
  | .regex field value => IsWritten field ∧ IsRegex value
  | .group field body => IsWritten field ∧ body.opensWithGroup = false
  | .range field lower upper =>
      IsWritten field ∧ (lower.relation = .ge ∨ lower.relation = .gt) ∧
        (upper.relation = .le ∨ upper.relation = .lt)
  | .comparison field _ => IsWritten field

def Node.Lawful (default : String) : Node → Prop
  | .expr e => e.Lawful default
  | .bound b => b.atom.Lawful

/-! Texts of tokens -/

namespace Token.Spelt

variable {found : Token}

theorem isName (spelt : found.Spelt) (kind : found.kind = .identifier) : IsName found.text := by
  obtain ⟨some_char, members, ordinary, begins⟩ := spelt.lexeme kind
  constructor
  case some_char =>
    intro empty
    rw [empty] at some_char
    exact some_char rfl
  case members => exact members
  case ordinary =>
    intro keyword
    apply ordinary
    exact List.mem_map_of_mem keyword
  case begins =>
    cases same : found.text.toList with
    | nil => exact absurd same some_char
    | cons c rest =>
        obtain ⟨noMinus, noBang, -⟩ := begins c rest same
        simp [noMinus, noBang]

theorem isWritten (spelt : found.Spelt) (kind : found.kind = .identifier) :
    IsWritten found.text :=
  ⟨spelt.isName kind, of_decide_eq_false (spelt.field_eq kind)⟩

theorem isQuotable (spelt : found.Spelt) (kind : found.kind = .quotedString) :
    IsQuotable (unquote found.text) := by
  obtain ⟨quote, body, delimiter, outside, -, value⟩ := spelt.quoted kind
  rw [value, IsQuotable, String.toList_ofList]
  rintro ⟨double, single⟩
  rcases delimiter with rfl | rfl
  · exact outside double
  · exact outside single

theorem isRegex (spelt : found.Spelt) (kind : found.kind = .regex) : IsRegex found.text :=
  spelt.lexeme kind

theorem atom_lawful (spelt : found.Spelt) {atom : Atom} (same : found.atom? = some atom) :
    atom.Lawful := by
  rcases Parse.atom_cases same with ⟨kind, rfl⟩ | ⟨kind, rfl⟩
  · exact spelt.isName kind
  · exact spelt.isQuotable kind

end Token.Spelt

/-! Trees -/

def Expr.LawfulThroughout (default : String) (e : Expr) : Prop :=
  ∀ path, ∀ located ∈ e.nodes path, located.node.Lawful default

namespace Expr.LawfulThroughout

variable {default : String}

theorem leaf {e : Expr} (childless : e.isLeaf = true) (root : e.Lawful default) :
    e.LawfulThroughout default := by
  intro path
  cases e with
  | term | phrase | regex =>
      simp only [nodes, List.forall_mem_singleton]
      exact root
  | binary | not | group | range | comparison => cases childless

theorem binary {operator : Connective} {left right : Expr}
    (root : (Expr.binary operator left right).Lawful default)
    (before : left.LawfulThroughout default) (after : right.LawfulThroughout default) :
    (Expr.binary operator left right).LawfulThroughout default := by
  intro path
  simp only [nodes, List.forall_mem_cons, List.forall_mem_append]
  exact ⟨root, before _, after _⟩

theorem not {spelling : Spelling} {operand : Expr}
    (root : (Expr.not spelling operand).Lawful default)
    (below : operand.LawfulThroughout default) :
    (Expr.not spelling operand).LawfulThroughout default := by
  intro path
  simp only [nodes, List.forall_mem_cons]
  exact ⟨root, below _⟩

theorem group {field : String} {body : Expr} (root : (Expr.group field body).Lawful default)
    (below : body.LawfulThroughout default) :
    (Expr.group field body).LawfulThroughout default := by
  intro path
  simp only [nodes, List.forall_mem_cons]
  exact ⟨root, below _⟩

theorem range {field : String} {lower upper : Bound}
    (root : (Expr.range field lower upper).Lawful default) (first : lower.atom.Lawful)
    (second : upper.atom.Lawful) : (Expr.range field lower upper).LawfulThroughout default := by
  intro path
  simp only [nodes, List.forall_mem_cons]
  exact ⟨root, first, second, nofun⟩

theorem comparison {field : String} {bound : Bound}
    (root : (Expr.comparison field bound).Lawful default) (only : bound.atom.Lawful) :
    (Expr.comparison field bound).LawfulThroughout default := by
  intro path
  simp only [nodes, List.forall_mem_cons]
  exact ⟨root, only, nofun⟩

end Expr.LawfulThroughout

section Read

variable {field : String} {clause : Clause} {tokens : List Token} {tree : Expr}
  {next : Option TokenKind} {levels : Nat}

theorem ReadsValue.lawful {name default : String} (reads : ReadsValue name tokens tree next)
    (spelt : ∀ found ∈ tokens, found.Spelt) (written : IsWritten name) :
    tree.LawfulThroughout default := by
  cases reads with
  | term kind =>
      rw [List.forall_mem_singleton] at spelt
      exact .leaf rfl ⟨.inr written.1, spelt.isName kind⟩
  | phrase kind =>
      rw [List.forall_mem_singleton] at spelt
      exact .leaf rfl ⟨.inr written.1, spelt.isQuotable kind⟩
  | regex kind =>
      rw [List.forall_mem_singleton] at spelt
      exact .leaf rfl ⟨written, spelt.isRegex kind⟩
  | range _ first _ second _ =>
      simp only [List.forall_mem_cons] at spelt
      apply Expr.LawfulThroughout.range _ (spelt.2.1.atom_lawful first)
        (spelt.2.2.2.1.atom_lawful second)
      exact ⟨written, Relation.ofOpening_lower _, Relation.ofClosing_upper _⟩
  | comparison _ _ bounded _ =>
      simp only [List.forall_mem_cons] at spelt
      exact .comparison written (spelt.2.1.atom_lawful bounded)

/-- By induction on the reading: a child that may not begin with a group was itself
read as a clause that does not. -/
theorem Reads.lawful (reads : Reads field clause tokens tree next levels)
    (spelt : ∀ found ∈ tokens, found.Spelt) : tree.LawfulThroughout field := by
  induction reads with
  | ofGroup _ ih | ofDisjunction _ _ _ ih | first _ ih | last _ _ ih | paren _ ih => exact ih spelt
  | group _ _ _ ih =>
      simp only [List.forall_mem_cons, List.forall_mem_append] at spelt
      exact ih spelt.2.1
  | or _ _ second before after =>
      simp only [List.forall_mem_append, List.forall_mem_cons] at spelt
      apply Expr.LawfulThroughout.binary _ (before spelt.1) (after spelt.2.2)
      exact ⟨nofun, nofun, fun alternatives => second.bare (.inr alternatives)⟩
  | adjacent _ second before after =>
      simp only [List.forall_mem_append] at spelt
      apply Expr.LawfulThroughout.binary _ (before spelt.1) (after spelt.2)
      exact ⟨fun _ => rfl, nofun, fun alternatives => second.bare (.inr alternatives)⟩
  | and first _ second before after =>
      simp only [List.forall_mem_append, List.forall_mem_cons] at spelt
      apply Expr.LawfulThroughout.binary _ (before spelt.1) (after spelt.2.2)
      exact ⟨nofun, fun _ _ => first.bare.1, fun alternatives => second.bare (.inr alternatives)⟩
  | not _ operand ih =>
      rw [List.forall_mem_cons] at spelt
      exact .not operand.bare (ih spelt.2)
  | word kind _ =>
      rw [List.forall_mem_singleton] at spelt
      exact .leaf rfl ⟨.inl rfl, spelt.isName kind⟩
  | phrase kind =>
      rw [List.forall_mem_singleton] at spelt
      exact .leaf rfl ⟨.inl rfl, spelt.isQuotable kind⟩
  | value names _ found =>
      simp only [List.forall_mem_cons] at spelt
      exact found.lawful spelt.2.2 (spelt.1.isWritten names)
  | fieldGroup names _ body ih =>
      simp only [List.forall_mem_cons] at spelt
      exact .group ⟨spelt.1.isWritten names, body.bare⟩ (ih spelt.2.2)

end Read

/-- Whatever the settings, a text is parsed to a tree whose body does not open with a
group that is not all of it and whose every node is lawful. -/
theorem nodes_lawful_of_parse {config : Config} {source : String} {query : Query}
    (accepted : parseWith config source = .ok query) :
    query.body.opensWithGroup = false ∧
      ∀ located ∈ query.nodes, located.node.Lawful config.defaultField := by
  obtain ⟨tokens, levels, lexes, reads, -⟩ := parseWith_ok accepted
  exact ⟨reads.bare, reads.lawful lexes.spelt "body"⟩

def everyKind : Query :=
  ⟨.binary .implicitOr (.binary .implicitOr (.binary .implicitOr
    (.binary .implicitOr (.term "text" "x")
      (.not .symbol (.binary (.and .symbol)
        (.group "title" (.binary (.or .symbol false) (.term "text" "a")
          (.phrase "text" "say \"b\"")))
        (.range "year" ⟨.term "1999", .ge⟩ ⟨.phrase "c", .lt⟩))))
    (.regex "path" "/u*/")) (.comparison "z" ⟨.term "3", .ge⟩)) (.term "text" "v")⟩

theorem nodes_lawful_everyKind :
    parseWith ⟨"text", 3⟩
        "x !(title:(a || 'say \"b\"') && year:[1999 TO \"c\"\x7d) path:/u*/ z:>= 3 (v)" =
      .ok everyKind ∧
      everyKind.body.opensWithGroup = false ∧
        ∀ located ∈ everyKind.nodes, located.node.Lawful "text" := by
  have accepted : parseWith ⟨"text", 3⟩
      "x !(title:(a || 'say \"b\"') && year:[1999 TO \"c\"\x7d) path:/u*/ z:>= 3 (v)" =
      .ok everyKind := by cbv
  exact ⟨accepted, nodes_lawful_of_parse accepted⟩

end SearchQuery
