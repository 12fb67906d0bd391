import SearchQuery.Proofs.Rereading
import SearchQuery.Query.Encode

/-!
Query trees as JSON lose nothing. The text of a tree is read as its JSON value, and no other
tree has this value, whatever order the members of its objects are put in.
-/

namespace SearchQuery

namespace Json

/-- Values that are the same if objects are maps: the order of the members does not count. -/
inductive Same : Json → Json → Prop where
  | bool (value : Bool) : Same (.bool value) (.bool value)
  | string (value : String) : Same (.string value) (.string value)
  | object {members others : List (String × Json)}
      (keys : ∀ key, (members.lookup key).isSome = (others.lookup key).isSome)
      (values : ∀ key value other, members.lookup key = some value →
        others.lookup key = some other → Same value other) :
      Same (.object members) (.object others)

namespace Same

theorem bool_eq {value other : Bool} (same : Same (.bool value) (.bool other)) :
    value = other := by
  cases same
  rfl

theorem string_eq {value other : String} (same : Same (.string value) (.string other)) :
    value = other := by
  cases same
  rfl

theorem member {members others : List (String × Json)}
    (same : Same (.object members) (.object others)) (key : String) {value other : Json}
    (found : members.lookup key = some value) (again : others.lookup key = some other) :
    Same value other := by
  cases same with
  | object _ values => exact values key value other found again

theorem refl (value : Json) : Same value value := by
  induction value using members_induction with
  | bool value => exact .bool value
  | string value => exact .string value
  | object members below =>
      apply object (fun _ => rfl)
      intro key value other found again
      rw [found] at again
      cases again
      obtain ⟨before, after, rfl, -⟩ := List.lookup_eq_some_iff.mp found
      exact below (key, value) (by simp)

end Same

end Json

/-! Operators and bounds -/

section Parts

open Json

theorem Spelling.encodeNot_inj {spelling other : Spelling}
    (same : spelling.encodeNot.Same other.encodeNot) : spelling = other := by
  have written : spelling.notText = other.notText := (same.member "value" rfl rfl).string_eq
  revert written
  cases spelling <;> cases other <;> decide

theorem Connective.encode_inj {operator other : Connective}
    (same : operator.encode.Same other.encode) : operator = other := by
  cases operator with
  | and spelling =>
      cases other with
      | and another =>
          have written := (same.member "value" rfl rfl).string_eq
          revert written
          cases spelling <;> cases another <;> decide
      | or another implicit =>
          have kinds := (same.member "type" rfl rfl).string_eq
          exact absurd kinds (by decide)
  | or spelling implicit =>
      cases other with
      | and another =>
          have kinds := (same.member "type" rfl rfl).string_eq
          exact absurd kinds (by decide)
      | or another inferred =>
          have written := (same.member "value" rfl rfl).string_eq
          cases (same.member "implicit" rfl rfl).bool_eq
          revert written
          cases spelling <;> cases another <;> cases implicit <;> decide

theorem Relation.encode_inj {relation other : Relation}
    (same : relation.encode.Same other.encode) : relation = other := by
  have named : relation.name = other.name := same.string_eq
  revert named
  cases relation <;> cases other <;> decide

theorem Atom.encode_inj {atom other : Atom} (same : atom.encode.Same other.encode) :
    atom = other := by
  have kinds : atom.typeName = other.typeName := (same.member "type" rfl rfl).string_eq
  have values : atom.value = other.value := (same.member "value" rfl rfl).string_eq
  cases atom with
  | term value =>
      cases other with
      | term another => exact congrArg Atom.term values
      | phrase another => simp [Atom.typeName] at kinds
  | phrase value =>
      cases other with
      | term another => simp [Atom.typeName] at kinds
      | phrase another => exact congrArg Atom.phrase values

theorem Bound.encode_inj {bound other : Bound} (same : bound.encode.Same other.encode) :
    bound = other := by
  have atoms := Atom.encode_inj (same.member "operand" rfl rfl)
  have relations := Relation.encode_inj (same.member "operator" rfl rfl)
  cases bound
  cases other
  cases atoms
  cases relations
  rfl

end Parts

/-! Trees -/

theorem Expr.encode_typeName (e : Expr) :
    ∃ members, e.encode = .object (("type", .string e.typeName) :: members) := by
  cases e <;> exact ⟨_, rfl⟩

theorem Expr.typeName_eq_of_encode {e other : Expr} (same : e.encode.Same other.encode) :
    e.typeName = other.typeName := by
  obtain ⟨members, parts⟩ := e.encode_typeName
  obtain ⟨others, again⟩ := other.encode_typeName
  rw [parts, again] at same
  exact (same.member "type" rfl rfl).string_eq

theorem leafJson_inj {type name field value another word : String}
    (same : (leafJson type field value).Same (leafJson name another word)) :
    field = another ∧ value = word :=
  ⟨(same.member "field" rfl rfl).string_eq, (same.member "value" rfl rfl).string_eq⟩

/-- By induction on the expression: the type names the constructor, and each part of it is
the value of a key. -/
theorem Expr.encode_inj {e other : Expr} (same : e.encode.Same other.encode) : e = other := by
  have kinds := typeName_eq_of_encode same
  induction e generalizing other with
  | binary operator left right first second =>
      cases other with
      | binary another before after =>
          have operators := Connective.encode_inj (same.member "operator" rfl rfl)
          have lefts := same.member "left" rfl rfl
          have rights := same.member "right" rfl rfl
          rw [operators, first lefts (typeName_eq_of_encode lefts),
            second rights (typeName_eq_of_encode rights)]
      | _ => simp [typeName] at kinds
  | not spelling operand ih =>
      cases other with
      | not another below =>
          have spellings := Spelling.encodeNot_inj (same.member "operator" rfl rfl)
          have operands := same.member "operand" rfl rfl
          rw [spellings, ih operands (typeName_eq_of_encode operands)]
      | _ => simp [typeName] at kinds
  | group field body ih =>
      cases other with
      | group another below =>
          have fields := (same.member "field" rfl rfl).string_eq
          have bodies := same.member "body" rfl rfl
          rw [fields, ih bodies (typeName_eq_of_encode bodies)]
      | _ => simp [typeName] at kinds
  | range field lower upper =>
      cases other with
      | range another below above =>
          rw [(same.member "field" rfl rfl).string_eq,
            Bound.encode_inj (same.member "left" rfl rfl),
            Bound.encode_inj (same.member "right" rfl rfl)]
      | _ => simp [typeName] at kinds
  | comparison field bound =>
      cases other with
      | comparison another limit =>
          rw [(same.member "field" rfl rfl).string_eq,
            Bound.encode_inj (same.member "operand" rfl rfl)]
      | _ => simp [typeName] at kinds
  | term field value =>
      cases other with
      | term another word =>
          obtain ⟨rfl, rfl⟩ := leafJson_inj same
          rfl
      | _ => simp [typeName] at kinds
  | phrase field value =>
      cases other with
      | phrase another word =>
          obtain ⟨rfl, rfl⟩ := leafJson_inj same
          rfl
      | _ => simp [typeName] at kinds
  | regex field value =>
      cases other with
      | regex another word =>
          obtain ⟨rfl, rfl⟩ := leafJson_inj same
          rfl
      | _ => simp [typeName] at kinds

/-- The text of a query is read as its value, and two queries have the same value, up to the
order of members, only if they are the same. -/
theorem jsonText_faithful (query : Query) :
    Json.read query.jsonText = .ok query.encode ∧
      ∀ other : Query, query.encode.Same other.encode ↔ query = other := by
  refine ⟨Json.read_pretty 0 query.encode, fun other => ⟨fun same => ?_, ?_⟩⟩
  · have bodies := Expr.encode_inj (same.member "body" rfl rfl)
    cases query
    cases other
    exact congrArg Query.mk bodies
  · rintro rfl
    exact Json.Same.refl query.encode

end SearchQuery
