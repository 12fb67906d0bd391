import Mathlib
import SearchQuery.Grammar.Parse
import SearchQuery.Proofs.Lines
import SearchQuery.Proofs.Places
import SearchQuery.Query.Outline

/-!
The outline of a tree. A line is drawn for each place, in preorder, and what stands in front
of a node tells which of its ancestors have siblings still to come. Unless a label is broken
by a newline, the outline shows the shape of the tree and every label of it.
-/

namespace SearchQuery

/-! What is drawn -/

namespace Node

def hasLater (root : Node) (address : List Nat) : Bool :=
  match address.getLast? with
  | none => false
  | some step => (root.at? (address.dropLast ++ [step + 1])).isSome

/-- Two characters for each ancestor, the body first: a bar below one with a later sibling. -/
def indent (root : Node) (address : List Nat) : String :=
  String.join ((List.range address.length).map fun level =>
    if root.hasLater (address.take level) then "│ " else "  ")

def lineAt (root : Node) (place : Place) : String :=
  root.indent place.address ++ connector (!root.hasLater place.address) ++ " "
    ++ place.node.typeName ++ ": " ++ shorten place.node.label

def caption (node : Node) : String × String := (node.typeName, shorten node.label)

/-- The same addresses lead to nodes in both, and those show the same. -/
def Resembles (left right : Node) : Prop :=
  ∀ address, (left.at? address).map caption = (right.at? address).map caption

section Below

variable {root node : Node} {address : List Nat} (found : root.at? address = some node)

include found

theorem hasLater_append (step : Nat) :
    root.hasLater (address ++ [step]) = decide (step + 1 < node.children.length) := by
  rw [Bool.eq_iff_iff]
  simp [hasLater, at?_append, found, at?]

theorem at?_child (step : Nat) {child : Node} (below : node.children[step]? = some child) :
    root.at? (address ++ [step]) = some child := by
  simp [at?_append, found, at?, below]

end Below

theorem indent_append (root : Node) (address : List Nat) (step : Nat) :
    root.indent (address ++ [step]) = beneath (root.indent address) (!root.hasLater address) := by
  have above : (List.range address.length).map (fun level =>
      if root.hasLater ((address ++ [step]).take level) then "│ " else "  ") =
      (List.range address.length).map fun level =>
        if root.hasLater (address.take level) then "│ " else "  " := by
    apply List.map_congr_left
    intro level member
    rw [List.take_append_of_le_length (Nat.le_of_lt (List.mem_range.mp member))]
  simp only [indent, List.length_append, List.length_singleton, List.range_succ, List.map_append,
    above, String.join_append, beneath]
  cases later : root.hasLater address <;> simp [later]

def lineBelow (root : Node) (address : List Nat) (place : Place) : String :=
  root.lineAt ⟨address ++ place.address, place.node⟩ ++ "\n"

theorem line_eq (root : Node) (address : List Nat) (node : Node) :
    node.line (root.indent address) (!root.hasLater address) =
      root.lineBelow address ⟨[], node⟩ := by
  rw [lineBelow, List.append_nil]
  rfl

theorem lineBelow_under (root : Node) (address : List Nat) (step : Nat) (place : Place) :
    root.lineBelow address (place.under step) = root.lineBelow (address ++ [step]) place := by
  simp [lineBelow, Place.under]

theorem line_child {root node : Node} {address : List Nat} (found : root.at? address = some node)
    (step : Nat) (child : Node) :
    child.line (beneath (root.indent address) (!root.hasLater address))
        (!decide (step + 1 < node.children.length)) =
      root.lineBelow address ⟨[step], child⟩ := by
  rw [← indent_append _ _ step, ← hasLater_append found, line_eq, ← lineBelow_under]
  rfl

end Node

open Node in
/-- By induction on the expression below an address: what stands in front of its lines is the
indentation of the address. -/
theorem Expr.lines_eq {root : Node} (e : Expr) {address : List Nat}
    (found : root.at? address = some (.expr e)) :
    e.lines (root.indent address) (!root.hasLater address) =
      e.places.map (root.lineBelow address) := by
  induction e generalizing address with
  | binary operator left right first second =>
      -- What is in front of a child is the indentation of its own address.
      have before := first (root.at?_child found 0 rfl)
      have after := second (root.at?_child found 1 rfl)
      rw [indent_append, hasLater_append found] at before after
      simp only [lines, places, List.map_cons, List.map_append, List.map_map, Function.comp_def,
        lineBelow_under, line_eq, ← before, ← after]
      rfl
  | not _ _ ih | group _ _ ih =>
      have only := ih (root.at?_child found 0 rfl)
      rw [indent_append, hasLater_append found] at only
      simp only [lines, places, List.map_cons, List.map_map, Function.comp_def, lineBelow_under,
        line_eq, ← only]
      rfl
  | range field lower upper =>
      have first := line_child found 0 (.bound lower)
      have second := line_child found 1 (.bound upper)
      simp only [lines, places, List.map_cons, List.map_nil, line_eq, ← first, ← second]
      rfl
  | comparison field bound =>
      have only := line_child found 0 (.bound bound)
      simp only [lines, places, List.map_cons, List.map_nil, line_eq, ← only]
      rfl
  | term | phrase | regex => simp only [lines, places, List.map_cons, List.map_nil, line_eq]

/-- The outline has a line for each place behind the one for the query itself. -/
theorem Query.outline_eq (query : Query) :
    query.outline = Text.ofLines ("Query" :: query.root.places.map query.root.lineAt) := by
  have body : query.root.at? [] = some (.expr query.body) := rfl
  have drawn : query.body.lines "" true = query.root.places.map (query.root.lineBelow []) :=
    query.body.lines_eq body
  have below : query.root.lineBelow [] = fun place => query.root.lineAt place ++ "\n" := rfl
  rw [outline, drawn, Text.ofLines, List.map_cons, List.map_map, below]
  rfl

/-! What can be read off a line -/

namespace Node

theorem length_indent (root : Node) (address : List Nat) :
    (root.indent address).length = 2 * address.length := by
  have pair : ∀ later : Bool, (if later then "│ " else "  ").length = 2 := by decide
  have pairs : ∀ levels : List Nat, (String.join (levels.map fun level =>
      if root.hasLater (address.take level) then "│ " else "  ")).length = 2 * levels.length := by
    intro levels
    induction levels with
    | nil => rfl
    | cons level levels ih =>
        rw [List.map_cons, String.join_cons, String.length_append, ih, pair, List.length_cons]
        omega
  exact (pairs _).trans (by rw [List.length_range])

theorem mem_indent {root : Node} {address : List Nat} {c : Char}
    (member : c ∈ (root.indent address).toList) : c = '│' ∨ c = ' ' := by
  simp only [indent, String.toList_join, List.mem_flatMap, List.mem_map] at member
  obtain ⟨_, ⟨level, -, rfl⟩, member⟩ := member
  split at member
  · simpa using member
  · exact .inr (by simpa using member)

theorem typeName_isAlpha (node : Node) : ∀ c ∈ node.typeName.toList, c.isAlpha = true := by
  rw [← List.all_eq_true]
  cases node with
  | bound b =>
      rw [typeName]
      decide
  | expr e => cases e <;> simp only [typeName, Expr.typeName] <;> decide

/-- The line as the indentation, the connector and what is shown of the node. -/
theorem toList_lineAt (root : Node) (place : Place) :
    ∃ turn : Char, (turn = '└' ∨ turn = '├') ∧
      (root.lineAt place).toList = (root.indent place.address).toList ++
        turn :: '─' :: ' ' :: (place.node.typeName.toList ++
          ':' :: ' ' :: (shorten place.node.label).toList) := by
  cases later : root.hasLater place.address with
  | false => exact ⟨'└', .inl rfl, by simp [lineAt, later, connector]⟩
  | true => exact ⟨'├', .inr rfl, by simp [lineAt, later, connector]⟩

theorem newline_mem_lineAt_iff {root : Node} {place : Place} :
    '\n' ∈ (root.lineAt place).toList ↔ '\n' ∈ (shorten place.node.label).toList := by
  obtain ⟨turn, bend, parts⟩ := root.toList_lineAt place
  have front : '\n' ∉ (root.indent place.address).toList := fun member => by
    rcases mem_indent member with same | same <;> cases same
  have name : '\n' ∉ place.node.typeName.toList := fun member => by
    cases place.node.typeName_isAlpha _ member
  have corner : '\n' ≠ turn := by
    rcases bend with rfl | rfl <;> decide
  rw [parts]
  simp [front, name, corner]

/-- Lines that are the same show the same of their nodes. -/
theorem caption_eq_of_lineAt {root other : Node} {place spot : Place}
    (same : root.lineAt place = other.lineAt spot) : place.node.caption = spot.node.caption := by
  obtain ⟨turn, bend, parts⟩ := root.toList_lineAt place
  obtain ⟨corner, bent, others⟩ := other.toList_lineAt spot
  rw [← String.toList_inj, parts, others] at same
  have guides : ∀ {drawn : Node} {address : List Nat}, ∀ c ∈ (drawn.indent address).toList,
      (c = '│' || c = ' ') = true := by
    intro drawn address c member
    simpa using mem_indent member
  have ends : ∀ {turn : Char} {rest : List Char}, turn = '└' ∨ turn = '├' → ∀ c,
      (turn :: rest).head? = some c → (c = '│' || c = ' ') = false := by
    rintro turn rest (rfl | rfl) c ⟨⟩ <;> rfl
  -- A connector ends the indentation and the colon ends the name, so both are cut where they end.
  obtain ⟨-, behind⟩ := Pattern.run_unique guides (ends bend) guides (ends bent) same
  simp only [List.cons.injEq, true_and] at behind
  have colon : ∀ {label : List Char}, ∀ c, (':' :: label).head? = some c → c.isAlpha = false := by
    rintro label c ⟨⟩
    rfl
  obtain ⟨names, labels⟩ := Pattern.run_unique place.node.typeName_isAlpha colon
    spot.node.typeName_isAlpha colon behind.2
  simp only [List.cons.injEq, true_and] at labels
  exact Prod.ext (String.toList_inj.mp names) (String.toList_inj.mp labels)

/-! The tree that the lines show -/

def captions (node : Node) : List (String × String) :=
  node.places.map fun place => place.node.caption

theorem captions_eq (node : Node) :
    node.captions = node.caption :: node.children.flatMap captions := by
  have below : ∀ children : List Node, ∀ first,
      ((children.zipIdx first).flatMap fun child => child.1.places.map (Place.under child.2)).map
        (fun place => place.node.caption) = children.flatMap captions := by
    intro children
    induction children with
    | nil => exact fun _ => rfl
    | cons child children ih =>
        intro first
        rw [List.zipIdx_cons, List.flatMap_cons, List.map_append, ih, List.map_map,
          List.flatMap_cons]
        rfl
  rw [captions, places_eq, List.map_cons, below]

def childCount (typeName : String) : Nat :=
  if typeName ∈ ["BinaryExpression", "BinaryRange"] then 2
  else if typeName ∈ ["UnaryExpression", "FieldGroup", "UnaryRange"] then 1
  else 0

theorem length_children (node : Node) : node.children.length = childCount node.typeName := by
  cases node with
  | bound b => rfl
  | expr e => cases e <;> rfl

theorem resembles_of_children {left right : Node} (head : left.caption = right.caption)
    (below : List.Forall₂ Resembles left.children right.children) : left.Resembles right := by
  intro address
  cases address with
  | nil => exact congrArg some head
  | cons step rest =>
      simp only [at?]
      generalize left.children = lefts, right.children = rights at below ⊢
      induction below generalizing step with
      | nil => rfl
      | cons same _ ih =>
          cases step with
          | zero => exact same rest
          | succ step => exact ih step

/-- The captions of as many trees in a row tell where each of them ends, if those of a single
tree do. -/
theorem captions_row {lefts rights : List Node} {rest behind : List (String × String)}
    (single : ∀ left ∈ lefts, ∀ {right rest behind},
      left.captions ++ rest = right.captions ++ behind → left.Resembles right ∧ rest = behind)
    (sizes : lefts.length = rights.length)
    (same : lefts.flatMap captions ++ rest = rights.flatMap captions ++ behind) :
    List.Forall₂ Resembles lefts rights ∧ rest = behind := by
  induction lefts generalizing rights with
  | nil =>
      cases rights with
      | nil => exact ⟨.nil, same⟩
      | cons right rights => cases sizes
  | cons left lefts ih =>
      cases rights with
      | nil => cases sizes
      | cons right rights =>
          rw [List.forall_mem_cons] at single
          simp only [List.flatMap_cons, List.append_assoc] at same
          obtain ⟨alike, later⟩ := single.1 same
          obtain ⟨others, ended⟩ := ih single.2 (Nat.succ.inj sizes) later
          exact ⟨.cons alike others, ended⟩

/-- By induction on the children: a caption tells how many there are, so the captions in
preorder are those of one tree only. -/
theorem captions_unique {left right : Node} {rest behind : List (String × String)}
    (same : left.captions ++ rest = right.captions ++ behind) :
    left.Resembles right ∧ rest = behind := by
  induction left using children_induction generalizing right rest behind with
  | inherits left ih =>
      rw [captions_eq, captions_eq right, List.cons_append, List.cons_append] at same
      injection same with head below
      have names : left.typeName = right.typeName := congrArg Prod.fst head
      have sizes : left.children.length = right.children.length := by
        rw [length_children, length_children, names]
      obtain ⟨alike, ended⟩ := captions_row (fun child member => ih child member) sizes below
      exact ⟨resembles_of_children head alike, ended⟩

end Node

/-! Outlines -/

/-- No label is broken by a newline as far as it is shown. -/
def Query.Unbroken (query : Query) : Prop :=
  ∀ located ∈ query.nodes, '\n' ∉ (shorten located.node.label).toList

instance (query : Query) : Decidable query.Unbroken :=
  inferInstanceAs (Decidable (∀ located ∈ query.nodes, _))

theorem Query.unbroken_iff {query : Query} :
    query.Unbroken ↔ ∀ line ∈ "Query" :: query.root.places.map query.root.lineAt,
      '\n' ∉ line.toList := by
  have shown : query.Unbroken ↔
      ∀ node ∈ query.root.places.map (·.node), '\n' ∉ (shorten node.label).toList := by
    rw [query.places_nodes, List.forall_mem_map]
    rfl
  rw [shown, List.forall_mem_cons, List.forall_mem_map, List.forall_mem_map]
  simp [Node.newline_mem_lineAt_iff]

/-- The outline is a line for the query and one for each node in preorder, but these are lines
exactly if no label is broken; there are more newlines otherwise. -/
theorem outline_lines_iff (query : Query) :
    query.outline = Text.ofLines ("Query" :: query.root.places.map query.root.lineAt) ∧
      query.root.places.map (·.node) = query.nodes.map (·.node) ∧
      (Text.ConsistsOf query.outline ("Query" :: query.root.places.map query.root.lineAt) ↔
        query.Unbroken) ∧
      (query.outline.toList.count '\n' = 1 + query.nodes.length ↔ query.Unbroken) := by
  have size : ("Query" :: query.root.places.map query.root.lineAt).length =
      1 + query.nodes.length := by
    have same := congrArg List.length query.places_nodes
    simp only [List.length_map] at same
    simp [same, Nat.add_comm]
  refine ⟨query.outline_eq, query.places_nodes, ?_, ?_⟩
  · rw [Query.unbroken_iff]
    exact ⟨fun consists => consists.unbroken, fun unbroken => ⟨query.outline_eq, unbroken⟩⟩
  · rw [Query.unbroken_iff, query.outline_eq, ← size]
    exact Text.count_ofLines_iff

/-- The phrase `"a\nb"` is drawn on two lines. -/
theorem outline_brokenPhrase :
    parse "\"a\nb\"" = .ok ⟨.phrase "*" "a\nb"⟩ ∧
      (Query.mk (.phrase "*" "a\nb")).outline = "Query\n└─ QuotedTerm: *:\"a\nb\"\n" ∧
      (Query.mk (.phrase "*" "a\nb")).outline.toList.count '\n' ≠
        1 + (Query.mk (.phrase "*" "a\nb")).nodes.length := by
  exact ⟨by cbv, by cbv, by cbv⟩

/-- In a tree without broken labels the lines are those of its nodes, each at the depth of its
address and with the connectors of its ancestors, and a tree with the same outline has the
same shape, and the same names and labels are shown everywhere in it. -/
theorem outline_connectors {query : Query} (unbroken : query.Unbroken) :
    Text.ConsistsOf query.outline ("Query" :: query.root.places.map query.root.lineAt) ∧
      (∀ place, place ∈ query.root.places ↔
        query.root.at? place.address = some place.node) ∧
      (∀ address, (query.root.indent address).length = 2 * address.length) ∧
      ∀ other : Query, other.Unbroken → query.outline = other.outline →
        query.root.Resembles other.root := by
  have shown : Text.ConsistsOf query.outline
      ("Query" :: query.root.places.map query.root.lineAt) :=
    ⟨query.outline_eq, Query.unbroken_iff.mp unbroken⟩
  refine ⟨shown, fun place => Node.mem_places_iff, query.root.length_indent, ?_⟩
  intro other whole same
  have drawn := shown.unique ⟨same.trans other.outline_eq, Query.unbroken_iff.mp whole⟩
  injection drawn with _ drawn
  have captions : query.root.captions = other.root.captions := by
    rw [← List.forall₂_eq_eq_eq, List.forall₂_map_left_iff, List.forall₂_map_right_iff] at drawn
    rw [Node.captions, Node.captions, ← List.forall₂_eq_eq_eq, List.forall₂_map_left_iff,
      List.forall₂_map_right_iff]
    exact drawn.imp fun _ _ => Node.caption_eq_of_lineAt
  have alike : query.root.captions ++ [] = other.root.captions ++ [] := by rw [captions]
  exact (Node.captions_unique alike).1

/-- Two trees that differ only in what the outline leaves out: the newline behind the place
where the label is cut, where the field of a word ends, and how the implicit OR is written. -/
def cutBreak : Query :=
  ⟨.binary (.or .word true)
    (.group "f" (.not .symbol (.phrase "*" "0123456789012345678901234567\n")))
    (.binary (.and .word) (.range "é" ⟨.term "x", .ge⟩ ⟨.phrase "y", .lt⟩) (.term "a" "b:c"))⟩

def cutWord : Query :=
  ⟨.binary (.or .symbol true)
    (.group "f" (.not .symbol (.phrase "*" "0123456789012345678901234567 8")))
    (.binary (.and .word) (.range "é" ⟨.term "x", .ge⟩ ⟨.phrase "y", .lt⟩) (.term "a:b" "c"))⟩

theorem outline_connectors_cut :
    cutBreak.Unbroken ∧
      Text.ConsistsOf cutBreak.outline
        ("Query" :: cutBreak.root.places.map cutBreak.root.lineAt) ∧
      cutWord.Unbroken ∧ cutBreak.outline = cutWord.outline ∧ cutBreak ≠ cutWord ∧
      cutBreak.root.Resembles cutWord.root := by
  have unbroken : cutBreak.Unbroken := by decide
  have whole : cutWord.Unbroken := by decide
  have same : cutBreak.outline = cutWord.outline := by decide +kernel
  obtain ⟨lines, -, -, shows⟩ := outline_connectors unbroken
  exact ⟨unbroken, lines, whole, same, by decide, shows cutWord whole same⟩

end SearchQuery
