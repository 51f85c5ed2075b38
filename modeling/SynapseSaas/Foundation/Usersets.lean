import Mathlib.Data.Set.Basic

/-! Relationship tuples and what a model derives from them: each relation of an object
has a rewrite that says which users are in it. -/

set_option autoImplicit false

namespace Usersets

structure Tuple (Object Relation : Type) where
  user : Object
  relation : Relation
  object : Object
  deriving DecidableEq, Repr

inductive Rewrite (Relation : Type) where
  | this
  | computed (relation : Relation)
  | tupleToUserset (tupleset relation : Relation)
  | union (children : List (Rewrite Relation))

/-- The rewrites of the relations of an object, and the users its tuples may name. -/
structure Model (Object Relation : Type) where
  rewrite : Object → Relation → Option (Rewrite Relation)
  accepts : Object → Relation → Object → Bool

section Derivations

variable {Object Relation : Type} (model : Model Object Relation) (tuples : Set (Tuple Object Relation))

/-- The user is in what the rewrite describes for this relation of the object. -/
inductive Member (user : Object) : Object → Relation → Rewrite Relation → Prop where
  | this {object : Object} {relation : Relation} :
      ⟨user, relation, object⟩ ∈ tuples → model.accepts object relation user →
      Member user object relation .this
  | computed {object : Object} {relation other : Relation} {rewrite : Rewrite Relation} :
      model.rewrite object other = some rewrite → Member user object other rewrite →
      Member user object relation (.computed other)
  | tupleToUserset {object parent : Object} {relation tupleset other : Relation}
      {rewrite : Rewrite Relation} :
      ⟨parent, tupleset, object⟩ ∈ tuples → model.accepts object tupleset parent →
      model.rewrite parent other = some rewrite → Member user parent other rewrite →
      Member user object relation (.tupleToUserset tupleset other)
  | union {object : Object} {relation : Relation} {children : List (Rewrite Relation)}
      {child : Rewrite Relation} :
      child ∈ children → Member user object relation child →
      Member user object relation (.union children)

/-- The answer to whether the user has the relation to the object. -/
def Check (user : Object) (relation : Relation) (object : Object) : Prop :=
  ∃ rewrite, model.rewrite object relation = some rewrite ∧
    Member model tuples user object relation rewrite

variable {model tuples} {user object : Object} {relation : Relation}

theorem check_iff {rewrite : Rewrite Relation} (known : model.rewrite object relation = some rewrite) :
    Check model tuples user relation object ↔ Member model tuples user object relation rewrite := by
  unfold Check
  simp [known]

theorem member_this : Member model tuples user object relation .this ↔
    ⟨user, relation, object⟩ ∈ tuples ∧ model.accepts object relation user := by
  constructor
  · intro member
    cases member with
    | this stored accepted => exact ⟨stored, accepted⟩
  · intro direct
    exact .this direct.1 direct.2

theorem member_computed {other : Relation} :
    Member model tuples user object relation (.computed other) ↔
      Check model tuples user other object := by
  constructor
  · intro member
    cases member with
    | computed known member => exact ⟨_, known, member⟩
  · intro check
    obtain ⟨rewrite, known, member⟩ := check
    exact .computed known member

theorem member_union {children : List (Rewrite Relation)} :
    Member model tuples user object relation (.union children) ↔
      ∃ child ∈ children, Member model tuples user object relation child := by
  constructor
  · intro member
    cases member with
    | union inside member => exact ⟨_, inside, member⟩
  · intro some
    obtain ⟨child, inside, member⟩ := some
    exact .union inside member

/-- A relation of directly related users. -/
theorem check_this (known : model.rewrite object relation = some .this) :
    Check model tuples user relation object ↔
      ⟨user, relation, object⟩ ∈ tuples ∧ model.accepts object relation user := by
  rw [check_iff known, member_this]

end Derivations

end Usersets
