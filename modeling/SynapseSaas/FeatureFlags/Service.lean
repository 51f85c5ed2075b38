import SynapseSaas.Foundation.Table

/-! Feature flags and their overrides: user override, organization override, global default.
Ids of rows are drawn fresh. -/

set_option autoImplicit false

namespace SynapseSaas.FeatureFlags

structure FeatureFlag where
  id : Nat
  key : String
  enabled : Bool
  rolloutPercentage : Option Nat
  archived : Bool
  deriving DecidableEq, Repr

instance : Keyed FeatureFlag where
  Key := String
  decEq := inferInstance
  id := FeatureFlag.id
  keys flag := [flag.key]

structure FeatureFlagOverride where
  id : Nat
  flagKey : String
  organizationId : Option Nat
  userId : Option Nat
  enabled : Bool
  note : Option String
  deriving DecidableEq, Repr

/-- No index on overrides is unique. -/
instance : Keyed FeatureFlagOverride where
  Key := Empty
  decEq := inferInstance
  id := FeatureFlagOverride.id
  keys _ := []

/-- What a request of the service fails with. -/
inductive FlagError where
  | flagNotFound (key : String)
  | overrideNotFound
  | notExactlyOne
  | multipleResults        -- a lookup of at most one row matched several
  | integrity              -- a foreign key names no row
  | stale                  -- an UPDATE of one row matched none
  deriving DecidableEq, Repr

def FlagError.message : FlagError → String
  | .flagNotFound key => "Flag '" ++ key ++ "' not found"
  | .overrideNotFound => "Override not found"
  | .notExactlyOne => "Override requires exactly one of organization_id or user_id"
  | .multipleResults => "Multiple rows were found when one or none was required"
  | .integrity => "violates foreign key constraint"
  | .stale => "UPDATE statement on table 'feature_flag_overrides' expected to update 1 row(s); 0 were matched."

def scalarOneOrNone {Row : Type} : List Row → Except FlagError (Option Row)
  | [] => .ok none
  | [row] => .ok (some row)
  | _ => .error .multipleResults

/-- `_flag`. -/
def findFlag (flags : Table FeatureFlag) (key : String) : Except FlagError (Option FeatureFlag) :=
  scalarOneOrNone (flags.rows.filter fun flag => flag.key = key ∧ flag.archived = false)

/-- `_override`: by the user if there is one, else by the organization. -/
def findOverride (overrides : List FeatureFlagOverride) (flagKey : String)
    (organizationId userId : Option Nat) : Except FlagError (Option FeatureFlagOverride) :=
  match userId, organizationId with
  | some user, _ =>
      scalarOneOrNone (overrides.filter fun row => row.flagKey = flagKey ∧ row.userId = some user)
  | none, some organization =>
      scalarOneOrNone (overrides.filter fun row => row.flagKey = flagKey ∧
        row.organizationId = some organization ∧ row.userId = none)
  | none, none => .ok none

def buckets : Nat := 10000

section Evaluate

/-! `digest` is the number that the first four bytes of SHA-256 make of a text, `str` the text
of an id; nothing is assumed of either. -/

variable (digest : String → Nat) (str : Nat → String)

def bucketOf (flagKey identifier : String) : Nat := digest (flagKey ++ ":" ++ identifier) % buckets

def inRollout (flagKey identifier : String) (percentage : Nat) : Bool :=
  bucketOf digest flagKey identifier < buckets * percentage / 100

/-- `str(user_id or organization_id or "anonymous")`. -/
def identifierOf (organizationId userId : Option Nat) : String :=
  ((userId <|> organizationId).map str).getD "anonymous"

/-- What a flag comes to without an override. -/
def globalDefault (flag : FeatureFlag) (organizationId userId : Option Nat) : Bool :=
  match flag.rolloutPercentage with
  | some percentage =>
      inRollout digest flag.key (identifierOf str organizationId userId) percentage
  | none => flag.enabled

/-- `_evaluate`: the most specific override wins. -/
def evaluate (flags : Table FeatureFlag) (overrides : List FeatureFlagOverride) (flagKey : String)
    (organizationId userId : Option Nat) : Except FlagError Bool := do
  match ← findFlag flags flagKey with
  | none => return false
  | some flag =>
      if userId.isSome then
        if let some override ← findOverride overrides flagKey none userId then
          return override.enabled
      if organizationId.isSome then
        if let some override ← findOverride overrides flagKey organizationId none then
          return override.enabled
      return globalDefault digest str flag organizationId userId

end Evaluate

/-- Whom an override is for. -/
inductive Subject where
  | organization (id : Nat)
  | user (id : Nat)
  deriving DecidableEq, Repr

structure Scope where
  flagKey : String
  subject : Subject
  deriving DecidableEq, Repr

namespace Subject

def organizationId : Subject → Option Nat
  | .organization id => some id
  | .user _ => none

def userId : Subject → Option Nat
  | .organization _ => none
  | .user id => some id

/-- The one subject that a request names. -/
def named : Option Nat → Option Nat → Option Subject
  | some id, none => some (.organization id)
  | none, some id => some (.user id)
  | _, _ => none

end Subject

/-- The override is for this flag and subject. -/
def FeatureFlagOverride.within (scope : Scope) (row : FeatureFlagOverride) : Bool :=
  row.flagKey = scope.flagKey ∧ row.organizationId = scope.subject.organizationId ∧
    row.userId = scope.subject.userId

/-- The override is for a subject, and for one only. -/
def FeatureFlagOverride.Scoped (row : FeatureFlagOverride) : Prop :=
  ∃ scope, row.within scope

theorem within_iff {scope : Scope} {row : FeatureFlagOverride} : row.within scope ↔
    row.flagKey = scope.flagKey ∧ row.organizationId = scope.subject.organizationId ∧
      row.userId = scope.subject.userId := by
  simp [FeatureFlagOverride.within]

/-- The scope of a row is unique. -/
theorem within_unique {first second : Scope} {row : FeatureFlagOverride} (left : row.within first)
    (right : row.within second) : first = second := by
  obtain ⟨flag, organization, user⟩ := within_iff.mp left
  obtain ⟨flag', organization', user'⟩ := within_iff.mp right
  obtain ⟨firstKey, firstSubject⟩ := first
  obtain ⟨secondKey, secondSubject⟩ := second
  simp only at flag flag' organization organization' user user'
  have keys : firstKey = secondKey := flag.symm.trans flag'
  have subjects : firstSubject = secondSubject := by
    cases firstSubject <;> cases secondSubject <;>
      simp_all [Subject.organizationId, Subject.userId]
  rw [keys, subjects]

def rowsOf (overrides : List FeatureFlagOverride) (scope : Scope) : List FeatureFlagOverride :=
  overrides.filter fun row => row.within scope

/-- Where every row is for one subject, the two lookups are lookups by scope. -/
theorem findOverride_scope {overrides : List FeatureFlagOverride}
    (owned : ∀ row ∈ overrides, row.Scoped) (scope : Scope) :
    findOverride overrides scope.flagKey scope.subject.organizationId scope.subject.userId =
      scalarOneOrNone (rowsOf overrides scope) := by
  obtain ⟨flagKey, subject⟩ := scope
  cases subject with
  | organization id =>
      simp only [findOverride, Subject.organizationId, Subject.userId, rowsOf]
      congr 1
  | user id =>
      simp only [findOverride, Subject.organizationId, Subject.userId, rowsOf]
      congr 1
      apply List.filter_congr
      intro row here
      obtain ⟨⟨key, subject⟩, own⟩ := owned row here
      obtain ⟨-, organization, user⟩ := within_iff.mp own
      cases subject <;> simp_all [FeatureFlagOverride.within, Subject.organizationId, Subject.userId]

theorem scalarOneOrNone_eq {Row : Type} {rows : List Row} (few : rows.length ≤ 1) :
    scalarOneOrNone rows = .ok rows.head? := by
  match rows with
  | [] => rfl
  | [row] => rfl
  | _ :: _ :: _ => simp at few

/-- A key names one flag at most. -/
theorem findFlag_eq (flags : Table FeatureFlag) (key : String) : findFlag flags key =
    .ok (flags.rows.filter fun flag => flag.key = key ∧ flag.archived = false).head? := by
  apply scalarOneOrNone_eq
  apply flags.length_filter_le_one
  intro first left second right mine yours
  have mine : first.key = key := (of_decide_eq_true mine).1
  have yours : second.key = key := (of_decide_eq_true yours).1
  have indexed : key ∈ Keyed.keys first := List.mem_singleton.mpr mine.symm
  exact flags.eq_of_key left right indexed (List.mem_singleton.mpr yours.symm)

section Evaluate

variable (digest : String → Nat) (str : Nat → String)

/-- What a flag should come to, by what stands for each scope. -/
def resolve (standing : Scope → Option Bool) (flags : Table FeatureFlag) (flagKey : String)
    (organizationId userId : Option Nat) : Bool :=
  match (flags.rows.filter fun flag => flag.key = flagKey ∧ flag.archived = false).head? with
  | none => false
  | some flag =>
      ((userId.bind fun id => standing ⟨flagKey, .user id⟩) <|>
        organizationId.bind fun id => standing ⟨flagKey, .organization id⟩).getD
        (globalDefault digest str flag organizationId userId)

/-- The value of the override for a scope. -/
def standing (overrides : List FeatureFlagOverride) (scope : Scope) : Option Bool :=
  (rowsOf overrides scope).head?.map (·.enabled)

/-- Where each scope has one override at most, evaluation does not fail and goes by them. -/
theorem evaluate_eq (flags : Table FeatureFlag) {overrides : List FeatureFlagOverride}
    (owned : ∀ row ∈ overrides, row.Scoped) (unique : ∀ scope, (rowsOf overrides scope).length ≤ 1)
    (flagKey : String) (organizationId userId : Option Nat) :
    evaluate digest str flags overrides flagKey organizationId userId =
      .ok (resolve digest str (standing overrides) flags flagKey organizationId userId) := by
  have byUser (id : Nat) : findOverride overrides flagKey none (some id) =
      .ok (rowsOf overrides ⟨flagKey, .user id⟩).head? :=
    (findOverride_scope owned ⟨flagKey, .user id⟩).trans (scalarOneOrNone_eq (unique _))
  have byOrganization (id : Nat) : findOverride overrides flagKey (some id) none =
      .ok (rowsOf overrides ⟨flagKey, .organization id⟩).head? :=
    (findOverride_scope owned ⟨flagKey, .organization id⟩).trans (scalarOneOrNone_eq (unique _))
  rw [evaluate, findFlag_eq, resolve]
  cases (flags.rows.filter fun flag => flag.key = flagKey ∧ flag.archived = false).head? with
  | none => rfl
  | some flag =>
      -- The user's override first, then the organization's.
      have second : (if organizationId.isSome then do
            if let some override ← findOverride overrides flagKey organizationId none then
              return override.enabled
            return globalDefault digest str flag organizationId userId
          else return globalDefault digest str flag organizationId userId : Except FlagError Bool) =
          .ok ((organizationId.bind fun id => standing overrides ⟨flagKey, .organization id⟩).getD
            (globalDefault digest str flag organizationId userId)) := by
        cases organizationId with
        | none => rfl
        | some organization =>
            cases found : (rowsOf overrides ⟨flagKey, .organization organization⟩).head? <;>
              simp [byOrganization, standing, found, bind, Except.bind, pure, Except.pure]
      cases userId with
      | none => exact second
      | some user =>
          cases found : (rowsOf overrides ⟨flagKey, .user user⟩).head? with
          | some row => simp [byUser, standing, found, bind, Except.bind, pure, Except.pure]
          | none =>
              have first : standing overrides ⟨flagKey, .user user⟩ = none := by simp [standing, found]
              simp only [Option.bind_some, first, byUser, found]
              exact second

end Evaluate

end SynapseSaas.FeatureFlags
