import SynapseSaas.Core.CacheSystem
import SynapseSaas.Core.Errors
import SynapseSaas.Foundation.Observation
import Mathlib.Data.List.Sort

/-! The repository every tenant-owned model goes through: each read is filtered by the
tenant, each object added is stamped with it.

The session does not flush before a query, so what was added is not seen by reads. The
rows stand in the order a scan returns them. -/

set_option autoImplicit false

namespace SynapseSaas.Repository

structure Record (Fields : Type) where
  id : Nat
  organizationId : Option Nat
  fields : Fields
  deriving DecidableEq, Repr

/-- What a WHERE clause asks of a row; none for a value its column's type refuses. -/
abbrev Condition (Fields : Type) := Option (Record Fields → Bool)

/-- A mapped class: whether it has the tenant column, and the comparisons with its others. -/
structure Model (Fields : Type) where
  name : String
  tenantMixin : Bool
  column : String → Option (Value → Condition Fields)

structure Context where
  organizationId : Nat
  isPlatform : Bool

inductive RepositoryError where
  | domain (error : DomainError)
  | typeError (message : String)
  | valueError (message : String)
  | database (error : OtherError)
  deriving DecidableEq, Repr

abbrev Outcome (α : Type) := Except RepositoryError α

/-- Keyword filters, the one on the organization apart; no value means no filter. -/
structure Filters where
  organizationId : Option Nat := none
  others : List (String × Option Value) := []

structure TenantRepository (Fields : Type) where
  model : Model Fields
  explicitTenantId : Option Nat
  currentTenant : Option Context

/-- The rows of the model's table, and the objects the session has pending. -/
structure Store (Fields : Type) where
  rows : List (Record Fields)
  added : List (Record Fields)

inductive Call (Fields : Type) where
  | get (id : Nat)
  | list (limit offset : Int) (filters : Filters)
  | count (filters : Filters)
  | «exists» (filters : Filters)
  | first (filters : Filters)
  | add (object : Record Fields)
  | addMany (objects : List (Record Fields))
  | deleteWhere (filters : Filters)

inductive Reply (Fields : Type) where
  | row (found : Option (Record Fields))
  | rows (found : List (Record Fields))
  | number (count : Nat)
  | truth (answer : Bool)
  deriving DecidableEq

def tenantViolation {α : Type} (message : String) : Outcome α :=
  .error (.domain ⟨.tenantViolation, message, []⟩)

namespace TenantRepository

variable {Fields : Type} (repository : TenantRepository Fields)

def tenantId : Outcome Nat :=
  match repository.explicitTenantId with
  | some tenant => .ok tenant
  | none =>
      match repository.currentTenant with
      | none => tenantViolation
          "No tenant context active — pass tenant_id explicitly or run inside a tenant scope"
      | some ctx =>
          if ctx.isPlatform then tenantViolation
            "Platform scope cannot use TenantRepository without an explicit tenant_id"
          else .ok ctx.organizationId

def orgColumn : Outcome (Record Fields → Option Nat) :=
  if repository.model.tenantMixin then .ok Record.organizationId
  else .error (.typeError (repository.model.name ++ " does not inherit TenantMixin"))

def inOrganization (column : Record Fields → Option Nat) (organization : Nat) : Condition Fields :=
  some fun row => column row = some organization

/-- The conditions that scope a statement. -/
def scopeOf (explicitOrg : Option Nat) : Outcome (List (Condition Fields)) :=
  match explicitOrg with
  | some organization => do
      let column ← repository.orgColumn
      return [inOrganization column organization]
  | none =>
      let ctx := if repository.explicitTenantId.isNone then repository.currentTenant else none
      if ctx.any (·.isPlatform) then return []
      else do
        let column ← repository.orgColumn
        let tenant ← repository.tenantId
        return [inOrganization column tenant]

def applyFilters : List (String × Option Value) → Outcome (List (Condition Fields))
  | [] => return []
  | (_, none) :: rest => applyFilters rest
  | (attr, some value) :: rest =>
      match repository.model.column attr with
      | none => .error (.valueError (repository.model.name ++ " has no column " ++ quoted attr))
      | some compare => do
          let conditions ← applyFilters rest
          return compare value :: conditions

/-- The WHERE clause of a call. -/
def wherever (filters : Filters) : Outcome (List (Condition Fields)) := do
  let scope ← repository.scopeOf filters.organizationId
  let conditions ← repository.applyFilters filters.others
  return scope ++ conditions

end TenantRepository

section Statements

variable {Fields : Type}

def meets (conditions : List (Condition Fields)) (row : Record Fields) : Bool :=
  conditions.all fun condition => condition.any fun holds => holds row

/-- A statement with a value that is refused fails whatever the rows are. -/
def select (conditions : List (Condition Fields)) (rows : List (Record Fields)) :
    Outcome (List (Record Fields)) :=
  if conditions.any (·.isNone) then .error (.database .invalidData)
  else .ok (rows.filter (meets conditions))

def scalarOneOrNone : List (Record Fields) → Outcome (Option (Record Fields))
  | [] => .ok none
  | [row] => .ok (some row)
  | _ => .error (.database .multipleResults)

/-- `ORDER BY id LIMIT limit OFFSET offset`; neither may be negative. -/
def page (limit offset : Int) (rows : List (Record Fields)) : Outcome (List (Record Fields)) :=
  if limit < 0 ∨ offset < 0 then .error (.database .invalidData)
  else .ok (((rows.insertionSort fun first second => first.id ≤ second.id).drop offset.toNat).take
    limit.toNat)

end Statements

namespace TenantRepository

variable {Fields : Type} (repository : TenantRepository Fields)

def get (rows : List (Record Fields)) (id : Nat) : Outcome (Option (Record Fields)) := do
  let scope ← repository.scopeOf none
  let found ← select (some (fun row => row.id = id) :: scope) rows
  scalarOneOrNone found

def list (rows : List (Record Fields)) (limit offset : Int) (filters : Filters) :
    Outcome (List (Record Fields)) := do
  let conditions ← repository.wherever filters
  let found ← select conditions rows
  page limit offset found

def count (rows : List (Record Fields)) (filters : Filters) : Outcome Nat := do
  let conditions ← repository.wherever filters
  let found ← select conditions rows
  return found.length

def first (rows : List (Record Fields)) (filters : Filters) : Outcome (Option (Record Fields)) := do
  let conditions ← repository.wherever filters
  let found ← select conditions rows
  return found.head?

/-- The object as it is added; one of another organization is refused. -/
def stamp (object : Record Fields) : Outcome (Record Fields) :=
  if repository.model.tenantMixin = false then
    .error (.typeError (repository.model.name ++ " does not inherit TenantMixin"))
  else do
    let tenant ← repository.tenantId
    match object.organizationId with
    | none => return { object with organizationId := some tenant }
    | some incoming =>
        if incoming ≠ tenant then tenantViolation ("Cannot attach " ++ repository.model.name ++
          " to organization " ++ uuidText incoming ++ " while operating as tenant " ++ uuidText tenant)
        else return object

/-- The objects up to the first that is refused are added. -/
def addMany : List (Record Fields) → Store Fields → Outcome (List (Record Fields)) × Store Fields
  | [], store => (.ok [], store)
  | object :: rest, store =>
      match repository.stamp object with
      | .error failure => (.error failure, store)
      | .ok stamped =>
          let (results, store) := addMany rest { store with added := store.added ++ [stamped] }
          (results.map (stamped :: ·), store)

/-- DELETE, with the count of the rows it removed. -/
def deleteWhere (rows : List (Record Fields)) (filters : Filters) :
    Outcome (Nat × List (Record Fields)) := do
  let conditions ← repository.wherever filters
  let found ← select conditions rows
  return (found.length, rows.filter fun row => !meets conditions row)

/-- One call of a repository in a session. -/
def serve (store : Store Fields) : Call Fields → Outcome (Reply Fields) × Store Fields
  | .get id => ((repository.get store.rows id).map .row, store)
  | .list limit offset filters => ((repository.list store.rows limit offset filters).map .rows, store)
  | .count filters => ((repository.count store.rows filters).map .number, store)
  | .exists filters => ((repository.count store.rows filters).map fun count => .truth (0 < count), store)
  | .first filters => ((repository.first store.rows filters).map .row, store)
  | .add object =>
      match repository.stamp object with
      | .error failure => (.error failure, store)
      | .ok stamped => (.ok (.row (some stamped)), { store with added := store.added ++ [stamped] })
  | .addMany objects =>
      let (results, store) := repository.addMany objects store
      (results.map .rows, store)
  | .deleteWhere filters =>
      match repository.deleteWhere store.rows filters with
      | .error failure => (.error failure, store)
      | .ok (removed, rows) => (.ok (.number removed), { store with rows })

end TenantRepository

/-! Calls on behalf of one tenant. -/

/-- The repository works for the tenant: given explicitly, or by the context of a request. -/
def TenantRepository.InScope {Fields : Type} (repository : TenantRepository Fields) (tenant : Nat) :
    Prop :=
  repository.explicitTenantId = some tenant ∨
    repository.explicitTenantId = none ∧ repository.currentTenant = some ⟨tenant, false⟩

/-- The call names no organization. -/
def Call.Unfiltered {Fields : Type} : Call Fields → Prop
  | .list _ _ filters | .count filters | .exists filters | .first filters | .deleteWhere filters =>
      filters.organizationId = none
  | .get _ | .add _ | .addMany _ => True

instance Call.unfilteredDecidable {Fields : Type} : DecidablePred (@Call.Unfiltered Fields)
  | .list _ _ filters | .count filters | .exists filters | .first filters | .deleteWhere filters =>
      inferInstanceAs (Decidable (filters.organizationId = none))
  | .get _ | .add _ | .addMany _ => inferInstanceAs (Decidable True)

section Tenants

variable {Fields : Type}

def owned (tenant : Nat) (row : Record Fields) : Bool := row.organizationId = some tenant

def Store.ofTenant (store : Store Fields) (tenant : Nat) : List (Record Fields) :=
  store.rows.filter (owned tenant)

def Store.ofOthers (store : Store Fields) (tenant : Nat) : List (Record Fields) :=
  store.rows.filter fun row => !owned tenant row

/-- The two have the same rows of the tenant. -/
def Agree (tenant : Nat) (first second : Store Fields) : Prop :=
  first.ofTenant tenant = second.ofTenant tenant

def inTenant (tenant : Nat) : Condition Fields :=
  TenantRepository.inOrganization Record.organizationId tenant

/-- The conditions keep to the rows of the tenant. -/
def Confined (tenant : Nat) (conditions : List (Condition Fields)) : Prop :=
  inTenant tenant ∈ conditions

variable {repository : TenantRepository Fields} {tenant : Nat} {filters : Filters}
  {conditions : List (Condition Fields)} {rows : List (Record Fields)}

theorem owned_of_meets (confined : Confined tenant conditions) {row : Record Fields}
    (met : meets conditions row) : owned tenant row := by
  have holds := List.all_eq_true.mp met _ confined
  exact decide_eq_true (by simpa [inTenant, TenantRepository.inOrganization] using holds)

/-- Confined conditions are asked of the rows of the tenant only. -/
theorem filter_meets (confined : Confined tenant conditions) :
    rows.filter (meets conditions) = (rows.filter (owned tenant)).filter (meets conditions) := by
  rw [List.filter_filter]
  apply List.filter_congr
  intro row _
  cases met : meets conditions row with
  | false => rfl
  | true => simp [owned_of_meets confined met]

theorem select_agree {other : List (Record Fields)} (confined : Confined tenant conditions)
    (agree : rows.filter (owned tenant) = other.filter (owned tenant)) :
    select conditions rows = select conditions other := by
  unfold select
  rw [filter_meets confined, agree, ← filter_meets confined]

theorem tenantId_inScope (scope : repository.InScope tenant) : repository.tenantId = .ok tenant := by
  unfold TenantRepository.tenantId
  rcases scope with explicit | ⟨ambient, current⟩
  · rw [explicit]
  · rw [ambient, current]
    rfl

theorem scopeOf_inScope (scope : repository.InScope tenant) :
    repository.scopeOf none = .ok [inTenant tenant] ∨
      ∃ failure, repository.scopeOf none = .error failure := by
  have tenantOnly : (if repository.explicitTenantId.isNone then repository.currentTenant else none).any
      (·.isPlatform) = false := by
    rcases scope with explicit | ⟨ambient, current⟩
    · rw [explicit]
      rfl
    · rw [ambient, current]
      rfl
  unfold TenantRepository.scopeOf
  simp only [tenantOnly, Bool.false_eq_true, if_false, tenantId_inScope scope]
  unfold TenantRepository.orgColumn
  by_cases mixin : repository.model.tenantMixin = true
  · rw [if_pos mixin]
    exact .inl rfl
  · rw [if_neg mixin]
    exact .inr ⟨_, rfl⟩

/-- The WHERE clause of a call that names no organization. -/
theorem wherever_confined (scope : repository.InScope tenant) (unfiltered : filters.organizationId = none)
    (done : repository.wherever filters = .ok conditions) : Confined tenant conditions := by
  unfold TenantRepository.wherever at done
  rw [unfiltered] at done
  rcases scopeOf_inScope scope with confined | ⟨failure, failed⟩
  · rw [confined] at done
    cases others : repository.applyFilters filters.others with
    | error failure =>
        rw [others] at done
        cases done
    | ok rest =>
        rw [others] at done
        cases done
        exact List.mem_cons_self
  · rw [failed] at done
    cases done

theorem stamp_organization (scope : repository.InScope tenant) {object stamped : Record Fields}
    (done : repository.stamp object = .ok stamped) : stamped.organizationId = some tenant := by
  unfold TenantRepository.stamp at done
  rw [tenantId_inScope scope] at done
  split at done
  · cases done
  · cases incoming : object.organizationId with
    | none =>
        simp only [incoming] at done
        cases done
        rfl
    | some other =>
        simp only [incoming] at done
        change (if other ≠ tenant then _ else _) = _ at done
        split at done
        · cases done
        · next same =>
            cases done
            rw [incoming, not_ne_iff.mp same]

/-- An object stamped with another organization is refused. -/
theorem stamp_foreign (scope : repository.InScope tenant) {object : Record Fields} {other : Nat}
    (stamped : object.organizationId = some other) (foreign : other ≠ tenant) :
    ∃ failure, repository.stamp object = .error failure := by
  unfold TenantRepository.stamp
  rw [tenantId_inScope scope]
  split
  · exact ⟨_, rfl⟩
  · simp only [stamped]
    change ∃ failure, (if other ≠ tenant then _ else _) = _
    rw [if_pos foreign]
    exact ⟨_, rfl⟩

/-- What adding several objects does does not depend on the store. -/
theorem addMany_spec (scope : repository.InScope tenant) (objects : List (Record Fields)) :
    ∃ results new, (∀ object ∈ new, object.organizationId = some tenant) ∧
      ∀ store : Store Fields,
        repository.addMany objects store = (results, { store with added := store.added ++ new }) := by
  induction objects with
  | nil => exact ⟨.ok [], [], by simp, fun store => by simp [TenantRepository.addMany]⟩
  | cons object rest ih =>
      cases done : repository.stamp object with
      | error failure =>
          exact ⟨.error failure, [], by simp, fun store => by simp [TenantRepository.addMany, done]⟩
      | ok stamped =>
          obtain ⟨results, new, mine, later⟩ := ih
          refine ⟨results.map (stamped :: ·), stamped :: new, ?_, fun store => ?_⟩
          · exact List.forall_mem_cons.mpr ⟨stamp_organization scope done, mine⟩
          · simp [TenantRepository.addMany, done, later]

end Tenants

section Calls

variable {Fields : Type} {repository : TenantRepository Fields} {tenant : Nat}
  {first second store : Store Fields} {filters : Filters}

/-- A call that reads answers alike where the tenant's rows are alike. -/
theorem read_agree {α : Type} (scope : repository.InScope tenant) (agree : Agree tenant first second)
    (unfiltered : filters.organizationId = none) (finish : List (Record Fields) → Outcome α) :
    (do
      let conditions ← repository.wherever filters
      let found ← select conditions first.rows
      finish found) =
    (do
      let conditions ← repository.wherever filters
      let found ← select conditions second.rows
      finish found) := by
  cases conditions_eq : repository.wherever filters with
  | error failure => rfl
  | ok conditions =>
      have confined := wherever_confined scope unfiltered conditions_eq
      change (select conditions first.rows >>= finish) = (select conditions second.rows >>= finish)
      rw [select_agree confined agree]

theorem count_agree (scope : repository.InScope tenant) (agree : Agree tenant first second)
    (unfiltered : filters.organizationId = none) :
    repository.count first.rows filters = repository.count second.rows filters :=
  read_agree scope agree unfiltered fun found => pure found.length

theorem get_agree (scope : repository.InScope tenant) (agree : Agree tenant first second) (id : Nat) :
    repository.get first.rows id = repository.get second.rows id := by
  unfold TenantRepository.get
  rcases scopeOf_inScope scope with confined | ⟨failure, failed⟩
  · rw [confined]
    have keeps : Confined tenant [some (fun row : Record Fields => decide (row.id = id)), inTenant tenant] :=
      List.mem_cons_of_mem _ List.mem_cons_self
    change (select [some fun row => decide (row.id = id), inTenant tenant] first.rows >>= scalarOneOrNone) =
      (select [some fun row => decide (row.id = id), inTenant tenant] second.rows >>= scalarOneOrNone)
    rw [select_agree keeps agree]
  · rw [failed]
    rfl

/-- A DELETE fails, or removes what it selects; the rest stays. -/
theorem deleteWhere_cases (scope : repository.InScope tenant)
    (unfiltered : filters.organizationId = none) :
    (∃ failure, ∀ rows, repository.deleteWhere rows filters = .error failure) ∨
      ∃ conditions, Confined tenant conditions ∧ ∀ rows, repository.deleteWhere rows filters =
        .ok ((rows.filter (meets conditions)).length, rows.filter fun row => !meets conditions row) := by
  unfold TenantRepository.deleteWhere
  cases conditions_eq : repository.wherever filters with
  | error failure => exact .inl ⟨failure, fun _ => rfl⟩
  | ok conditions =>
      by_cases refused : conditions.any (·.isNone)
      · refine .inl ⟨.database .invalidData, fun rows => ?_⟩
        simp [Except.bind, bind, select, refused]
      · refine .inr ⟨conditions, wherever_confined scope unfiltered conditions_eq, fun rows => ?_⟩
        simp [Except.bind, bind, select, refused, pure, Except.pure]

theorem deleteWhere_agree (scope : repository.InScope tenant) (agree : Agree tenant first second)
    (unfiltered : filters.organizationId = none) :
    (repository.serve first (.deleteWhere filters)).1 = (repository.serve second (.deleteWhere filters)).1 ∧
      Agree tenant (repository.serve first (.deleteWhere filters)).2
        (repository.serve second (.deleteWhere filters)).2 := by
  simp only [TenantRepository.serve]
  rcases deleteWhere_cases scope unfiltered with ⟨failure, failed⟩ | ⟨conditions, confined, done⟩
  · rw [failed, failed]
    exact ⟨rfl, agree⟩
  · have same : first.rows.filter (meets conditions) = second.rows.filter (meets conditions) := by
      have alike : first.rows.filter (owned tenant) = second.rows.filter (owned tenant) := agree
      rw [filter_meets confined, alike, ← filter_meets confined]
    rw [done, done]
    refine ⟨by rw [same], ?_⟩
    unfold Agree Store.ofTenant at agree ⊢
    have left (rows : List (Record Fields)) :
        (rows.filter fun row => !meets conditions row).filter (owned tenant) =
          (rows.filter (owned tenant)).filter fun row => !meets conditions row := by
      rw [List.filter_filter, List.filter_filter]
      apply List.filter_congr
      intro row _
      exact Bool.and_comm _ _
    rw [left, left, agree]

/-- The rows of others, and what was added: only objects of the tenant. -/
structure Respects (tenant : Nat) (before after : Store Fields) : Prop where
  others : after.ofOthers tenant = before.ofOthers tenant
  added : ∃ new, after.added = before.added ++ new ∧ ∀ object ∈ new, object.organizationId = some tenant

theorem Respects.refl (store : Store Fields) : Respects tenant store store :=
  ⟨rfl, [], (List.append_nil _).symm, by simp⟩

theorem Respects.trans {third : Store Fields} (left : Respects tenant first second)
    (right : Respects tenant second third) : Respects tenant first third := by
  obtain ⟨one, added, mine⟩ := left.added
  obtain ⟨two, more, also⟩ := right.added
  refine ⟨right.others.trans left.others, one ++ two, ?_, ?_⟩
  · rw [more, added, List.append_assoc]
  · exact List.forall_mem_append.mpr ⟨mine, also⟩

/-- One call keeps to its tenant. -/
theorem serve_respects (scope : repository.InScope tenant) (store : Store Fields) {call : Call Fields}
    (unfiltered : call.Unfiltered) : Respects tenant store (repository.serve store call).2 := by
  cases call with
  | get id => exact Respects.refl store
  | list limit offset filters => exact Respects.refl store
  | count filters => exact Respects.refl store
  | «exists» filters => exact Respects.refl store
  | first filters => exact Respects.refl store
  | add object =>
      simp only [TenantRepository.serve]
      cases done : repository.stamp object with
      | error failure => exact Respects.refl store
      | ok stamped =>
          refine ⟨rfl, [stamped], rfl, ?_⟩
          intro other member
          rw [List.mem_singleton.mp member]
          exact stamp_organization scope done
  | addMany objects =>
      obtain ⟨results, new, mine, done⟩ := addMany_spec scope objects
      simp only [TenantRepository.serve, done]
      exact ⟨rfl, new, rfl, mine⟩
  | deleteWhere filters =>
      simp only [TenantRepository.serve]
      rcases deleteWhere_cases scope unfiltered with ⟨failure, failed⟩ | ⟨conditions, confined, done⟩
      · rw [failed]
        exact Respects.refl store
      · rw [done]
        refine ⟨?_, [], (List.append_nil _).symm, by simp⟩
        unfold Store.ofOthers
        rw [List.filter_filter]
        apply List.filter_congr
        intro row _
        -- A row of another organization does not meet the conditions.
        cases met : meets conditions row with
        | false => simp
        | true => simp [owned_of_meets confined met]

/-- One call answers alike where the rows of the tenant are alike. -/
theorem serve_agree (scope : repository.InScope tenant) (agree : Agree tenant first second)
    {call : Call Fields} (unfiltered : call.Unfiltered) :
    (repository.serve first call).1 = (repository.serve second call).1 ∧
      Agree tenant (repository.serve first call).2 (repository.serve second call).2 := by
  cases call with
  | get id => exact ⟨congrArg (Except.map Reply.row) (get_agree scope agree id), agree⟩
  | list limit offset filters =>
      exact ⟨congrArg (Except.map Reply.rows) (read_agree scope agree unfiltered (page limit offset)), agree⟩
  | count filters =>
      simp only [TenantRepository.serve, count_agree scope agree unfiltered]
      exact ⟨trivial, agree⟩
  | «exists» filters =>
      simp only [TenantRepository.serve, count_agree scope agree unfiltered]
      exact ⟨trivial, agree⟩
  | first filters =>
      exact ⟨congrArg (Except.map Reply.row)
        (read_agree scope agree unfiltered fun found => pure found.head?), agree⟩
  | add object =>
      simp only [TenantRepository.serve]
      cases done : repository.stamp object with
      | error failure => exact ⟨rfl, agree⟩
      | ok stamped => exact ⟨rfl, agree⟩
  | addMany objects =>
      obtain ⟨results, new, -, done⟩ := addMany_spec scope objects
      simp only [TenantRepository.serve, done]
      exact ⟨trivial, agree⟩
  | deleteWhere filters => exact deleteWhere_agree scope agree unfiltered

/-- Whatever a tenant's calls are, their answers depend on the tenant's rows alone and they
change nothing of another organization; an object stamped with one is refused. -/
theorem tenant_isolation (scope : repository.InScope tenant) (agree : Agree tenant first second)
    {calls : List (Call Fields)} (unfiltered : ∀ call ∈ calls, call.Unfiltered) :
    Observation.replies repository.serve first calls = Observation.replies repository.serve second calls ∧
      Respects tenant first (Runs.run (Observation.next repository.serve) first calls) ∧
      ∀ object organization, object.organizationId = some organization → organization ≠ tenant →
        ∃ failure, repository.serve (Runs.run (Observation.next repository.serve) first calls)
          (.add object) =
            (.error failure, Runs.run (Observation.next repository.serve) first calls) := by
  refine ⟨?_, ?_, ?_⟩
  · exact Observation.replies_eq repository.serve
      (fun _ _ _ allowed alike => serve_agree scope alike allowed) agree unfiltered
  · exact Observation.run_allowed repository.serve
      (fun state _ allowed before => before.trans (serve_respects scope state allowed))
      (Respects.refl first) unfiltered
  · intro object organization stamped foreign
    obtain ⟨failure, refused⟩ := stamp_foreign scope stamped foreign
    exact ⟨failure, by simp only [TenantRepository.serve, refused]⟩

/-- A class of named things, asked for by name. -/
def namedModel : Model String where
  name := "Project"
  tenantMixin := true
  column attr := if attr = "name" then some fun value => some fun row => .str row.fields = value else none

def projects : TenantRepository String := ⟨namedModel, none, some ⟨1, false⟩⟩

def projectCalls : List (Call String) :=
  [.list 50 0 {}, .add ⟨7, none, "c"⟩, .count { others := [("name", some (.str "a"))] }, .get 2,
    .deleteWhere { others := [("name", some (.str "a"))] }, .first {}]

/-- The other organization's projects differ; the calls of the first never tell. -/
theorem tenant_isolation_projects :
    Observation.replies projects.serve ⟨[⟨1, some 1, "a"⟩, ⟨2, some 2, "b"⟩], []⟩ projectCalls =
        Observation.replies projects.serve ⟨[⟨3, some 2, "a"⟩, ⟨1, some 1, "a"⟩], []⟩ projectCalls ∧
      (Runs.run (Observation.next projects.serve) ⟨[⟨1, some 1, "a"⟩, ⟨2, some 2, "b"⟩], []⟩
        projectCalls).rows = [⟨2, some 2, "b"⟩] := by
  have scope : projects.InScope 1 := .inr ⟨rfl, rfl⟩
  have agree : Agree 1 ⟨[⟨1, some 1, "a"⟩, ⟨2, some 2, "b"⟩], []⟩
      (⟨[⟨3, some 2, "a"⟩, ⟨1, some 1, "a"⟩], []⟩ : Store String) := rfl
  have unfiltered : ∀ call ∈ projectCalls, call.Unfiltered := by decide
  exact ⟨(tenant_isolation scope agree unfiltered).1, by decide⟩

end Calls

end SynapseSaas.Repository
