import SearchQuery.Query.Node

/-!
Places in a query tree. An address leads down from a node by the number of a child at each
step; every node has its place in preorder, and a tree is known by what its places show.
-/

namespace SearchQuery

def Node.children : Node → List Node
  | .expr (.binary _ left right) => [.expr left, .expr right]
  | .expr (.not _ operand) => [.expr operand]
  | .expr (.group _ body) => [.expr body]
  | .expr (.range _ lower upper) => [.bound lower, .bound upper]
  | .expr (.comparison _ only) => [.bound only]
  | .expr (.term ..) | .expr (.phrase ..) | .expr (.regex ..) | .bound _ => []

def Node.at? : Node → List Nat → Option Node
  | node, [] => some node
  | node, step :: rest => node.children[step]?.bind fun child => child.at? rest

@[ext]
structure Place where
  address : List Nat
  node : Node
  deriving DecidableEq, Repr

def Place.under (step : Nat) (place : Place) : Place := ⟨step :: place.address, place.node⟩

theorem Place.under_eq_iff {step first : Nat} {place : Place} {rest : List Nat} {found : Node} :
    place.under step = ⟨first :: rest, found⟩ ↔ step = first ∧ place = ⟨rest, found⟩ := by
  simp [Place.under, Place.ext_iff, and_assoc]

def Expr.places : Expr → List Place
  | .binary operator left right =>
      ⟨[], .expr (.binary operator left right)⟩ ::
        (left.places.map (Place.under 0) ++ right.places.map (Place.under 1))
  | .not spelling operand =>
      ⟨[], .expr (.not spelling operand)⟩ :: operand.places.map (Place.under 0)
  | .group field body => ⟨[], .expr (.group field body)⟩ :: body.places.map (Place.under 0)
  | .range field lower upper =>
      [⟨[], .expr (.range field lower upper)⟩, ⟨[0], .bound lower⟩, ⟨[1], .bound upper⟩]
  | .comparison field bound =>
      [⟨[], .expr (.comparison field bound)⟩, ⟨[0], .bound bound⟩]
  | .term field value => [⟨[], .expr (.term field value)⟩]
  | .phrase field value => [⟨[], .expr (.phrase field value)⟩]
  | .regex field value => [⟨[], .expr (.regex field value)⟩]

def Node.places : Node → List Place
  | .expr e => e.places
  | .bound b => [⟨[], .bound b⟩]

def Query.root (query : Query) : Node := .expr query.body

namespace Node

/-- The node itself, then what is below each of its children in turn. -/
theorem places_eq (node : Node) :
    node.places = ⟨[], node⟩ ::
      node.children.zipIdx.flatMap fun child => child.1.places.map (Place.under child.2) := by
  cases node with
  | bound b => rfl
  | expr e => cases e <;> simp [places, Expr.places, children, Place.under]

/-- What is inherited from the children holds of every node. -/
theorem children_induction {motive : Node → Prop}
    (inherits : ∀ node, (∀ child ∈ node.children, motive child) → motive node) (node : Node) :
    motive node := by
  have childless : ∀ leaf : Node, leaf.children = [] → motive leaf := by
    intro leaf none
    apply inherits
    simp [none]
  cases node with
  | bound b => exact childless _ rfl
  | expr e =>
      induction e with
      | binary operator left right first second =>
          apply inherits
          simpa [children] using ⟨first, second⟩
      | not spelling operand only =>
          apply inherits
          simpa [children] using only
      | group field body only =>
          apply inherits
          simpa [children] using only
      | range field lower upper =>
          apply inherits
          simpa [children] using ⟨childless (.bound lower) rfl, childless (.bound upper) rfl⟩
      | comparison field only =>
          apply inherits
          simpa [children] using childless (.bound only) rfl
      | term | phrase | regex => exact childless _ rfl

/-- A place is one of the places exactly if its address leads to its node. -/
theorem mem_places_iff {node found : Node} {address : List Nat} :
    ⟨address, found⟩ ∈ node.places ↔ node.at? address = some found := by
  induction address generalizing node with
  | nil =>
      rw [places_eq]
      simp [at?, Place.under, eq_comm]
  | cons step rest ih =>
      rw [places_eq]
      simp [at?, ih, Place.under_eq_iff, List.mem_zipIdx_iff_getElem?, Option.bind_eq_some_iff]

theorem at?_append (node : Node) (address more : List Nat) :
    node.at? (address ++ more) = (node.at? address).bind fun found => found.at? more := by
  induction address generalizing node with
  | nil => rfl
  | cons step rest ih => simp [at?, ih, Option.bind_assoc]

end Node

/-- The places are those of the nodes with their paths. -/
theorem Expr.places_nodes (e : Expr) (path : String) :
    e.places.map (·.node) = (e.nodes path).map (·.node) := by
  induction e generalizing path with
  | binary operator left right first second =>
      simp [places, nodes, Place.under, Function.comp_def, ← first, ← second]
  | not spelling operand ih => simp [places, nodes, Place.under, Function.comp_def, ← ih]
  | group field body ih => simp [places, nodes, Place.under, Function.comp_def, ← ih]
  | term | phrase | regex | range | comparison => rfl

theorem Query.places_nodes (query : Query) :
    query.root.places.map (·.node) = query.nodes.map (·.node) :=
  query.body.places_nodes "body"

end SearchQuery
