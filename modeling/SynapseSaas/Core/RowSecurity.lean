import SynapseSaas.Entitlements.CachedBody
import SynapseSaas.Foundation.LocalSettings
import SynapseSaas.Foundation.Observation
import Mathlib.Data.List.Forall2

/-! Row-level security on the connections of a pool: what each request binds, the policies that
read it back, and why no request sees what another one bound.

This is the mode in which the API connects as a role the policies apply to. A statement comes
with the rows its table shows it, whatever other transactions have left there. -/

set_option autoImplicit false

namespace SynapseSaas.RowSecurity

open CachedBody (UUID)
open LocalSettings (Connection Scoping)

inductive Guc where
  | currentTenant
  | currentUser
  | rlsPlatform
  deriving DecidableEq

/-- What a request binds in its transaction. -/
inductive Binding where
  | tenant (organizationId : UUID)
  | user (userId : UUID)
  | platform
  deriving DecidableEq

/-- `set_rls_tenant`, `set_rls_user` and `set_rls_platform`. -/
def Binding.setGuc (connection : Connection Guc) : Binding → Connection Guc
  | .tenant organizationId => connection.setLocal .currentTenant organizationId.str
  | .user userId => connection.setLocal .currentUser userId.str
  | .platform => connection.setLocal .rlsPlatform "on"

/-! The policies. -/

structure Row where
  id : Nat
  organizationId : Option UUID
  userId : Option UUID
  body : String
  deriving DecidableEq

inductive DatabaseError where
  | invalidText
  | rowSecurity
  deriving DecidableEq

/-- Table to (organization_id nullable, user-scoped rows allowed). -/
def TENANT_POLICIES : List (String × (Bool × Bool)) :=
  [("agents", (false, false)), ("audit_logs", (true, false)), ("billing_customers", (false, false)),
    ("entitlements", (false, false)), ("example_projects", (false, false)),
    ("feature_flag_overrides", (true, true)), ("invoice_lines", (false, false)),
    ("invoices", (false, false)), ("memberships", (false, true)), ("outbox_events", (true, false)),
    ("roles", (true, false)), ("stored_files", (false, false)), ("subscriptions", (false, false)),
    ("usage_counters", (false, false)), ("usage_events", (false, false)),
    ("webhook_deliveries", (false, false)), ("webhook_endpoints", (false, false))]

/-- A value of SQL's logic; none is NULL. -/
abbrev Truth := Option Bool

def Truth.or : Truth → Truth → Truth
  | some true, _ | _, some true => some true
  | some false, some false => some false
  | _, _ => none

def equals {α : Type} [DecidableEq α] : Option α → Option α → Truth
  | some left, some right => some (left = right)
  | _, _ => none

/-- `NULLIF(current_setting(name, true), '')::uuid`. -/
def castUuid (setting : Option String) : Except DatabaseError (Option UUID) :=
  match setting.filter (· ≠ "") with
  | none => .ok none
  | some text =>
      match UUID.parse text with
      | some value => .ok (some value)
      | none => .error .invalidText

def _predicate (nullableOrg userScoped : Bool) (setting : Guc → Option String) (row : Row) :
    Except DatabaseError Truth := do
  let tenant ← castUuid (setting .currentTenant)
  let user ← if userScoped then castUuid (setting .currentUser) else pure none
  let clauses := [equals row.organizationId tenant, equals (setting .rlsPlatform) (some "on")] ++
    (if nullableOrg then [some row.organizationId.isNone] else []) ++
    (if userScoped then [equals row.userId user] else [])
  return clauses.foldl Truth.or (some false)

/-- Whether the policy of the table, if it has one, admits the row. -/
def admits (table : String) (setting : Guc → Option String) (row : Row) : Except DatabaseError Bool :=
  match TENANT_POLICIES.lookup table with
  | none => .ok true
  | some (nullableOrg, userScoped) =>
      (_predicate nullableOrg userScoped setting row).map (· = some true)

/-! Statements under the policies. -/

inductive Statement where
  | select (keep : Row → Bool)
  | insert (row : Row)
  | update (keep : Row → Bool) (change : Row → Row)
  | delete (keep : Row → Bool)

/-- What a statement returns, and the rows it leaves. -/
structure Answer where
  returned : List Row
  rows : List Row
  deriving DecidableEq

section Statements

variable {policy : Row → Except DatabaseError Bool}

/-- The rows the policy admits. -/
def admitted (policy : Row → Except DatabaseError Bool) : List Row → Except DatabaseError (List Row)
  | [] => .ok []
  | row :: rest => do
      let here ← policy row
      let later ← admitted policy rest
      return if here then row :: later else later

/-- UPDATE of a row that is admitted; a new row that is not fails the statement. -/
def updateRow (policy : Row → Except DatabaseError Bool) (keep : Row → Bool) (change : Row → Row)
    (row : Row) : Except DatabaseError Row := do
  if (← policy row) && keep row then
    if ← policy (change row) then return change row else throw .rowSecurity
  else return row

def perform (policy : Row → Except DatabaseError Bool) (rows : List Row) :
    Statement → Except DatabaseError Answer
  | .select keep => do
      let found ← admitted policy rows
      return ⟨found.filter keep, rows⟩
  | .insert row => do
      if ← policy row then return ⟨[], rows ++ [row]⟩ else throw .rowSecurity
  | .update keep change => do
      let after ← rows.mapM (updateRow policy keep change)
      return ⟨[], after⟩
  | .delete keep => do
      let after ← admitted (fun row => do return !((← policy row) && keep row)) rows
      return ⟨[], after⟩

end Statements

/-! The pool, by the number of the connection. -/

inductive PoolAction where
  | checkout (connection : Nat)
  | bind (connection : Nat) (binding : Binding)
  | nest (connection : Nat) (scoping : Scoping)
  | statement (connection : Nat) (table : String) (rows : List Row) (statement : Statement)
  | finish (connection : Nat)

def PoolAction.connection : PoolAction → Nat
  | .checkout id | .bind id _ | .nest id _ | .statement id _ _ _ | .finish id => id

abbrev Pool := Nat → Connection Guc

/-- Only a connection that is in no transaction is handed out, and a request sends what it
sends within its transaction. -/
def Pool.step (pool : Pool) : PoolAction → Option (Except DatabaseError Answer) × Pool
  | .checkout id =>
      (none, if (pool id).frames = [] then Function.update pool id (pool id).opened else pool)
  | .bind id binding =>
      (none, if (pool id).frames = [] then pool
        else Function.update pool id (binding.setGuc (pool id)))
  | .nest id scoping => (none, Function.update pool id ((pool id).nested scoping))
  | .statement id table rows statement =>
      (if (pool id).frames = [] then none
        else some (perform (admits table (pool id).setting) rows statement), pool)
  | .finish id => (none, Function.update pool id (pool id).ended)

/-! What a request may see, in terms of what it has bound itself. -/

structure Bound where
  tenant : Option UUID := none
  user : Option UUID := none
  platform : Bool := false
  deriving DecidableEq

def Bound.bind (bound : Bound) : Binding → Bound
  | .tenant organizationId => { bound with tenant := some organizationId }
  | .user userId => { bound with user := some userId }
  | .platform => { bound with platform := true }

/-- The row is the tenant's; or the scope is the platform; or the table has rows of no tenant
and it is one; or the table is user-scoped and it is the user's own. -/
def Bound.admits (bound : Bound) (table : String) (row : Row) : Bool :=
  match TENANT_POLICIES.lookup table with
  | none => true
  | some (nullableOrg, userScoped) =>
      (row.organizationId.isSome && decide (row.organizationId = bound.tenant)) || bound.platform ||
        (nullableOrg && row.organizationId.isNone) ||
        (userScoped && row.userId.isSome && decide (row.userId = bound.user))

def Bound.policy (bound : Bound) (table : String) (row : Row) : Except DatabaseError Bool :=
  .ok (bound.admits table row)

/-- What each open transaction has bound, by its connection; the empty list where there is none. -/
abbrev Scopes := Nat → List Bound

def Scopes.step (scopes : Scopes) : PoolAction → Option (Except DatabaseError Answer) × Scopes
  | .checkout id => (none, if scopes id = [] then Function.update scopes id [{}] else scopes)
  | .bind id binding =>
      (none, Function.update scopes id ((scopes id).modifyHead (Bound.bind · binding)))
  | .nest id scoping => (none, Function.update scopes id (LocalSettings.nest scoping (scopes id)))
  | .statement id table rows statement =>
      ((scopes id).head?.map fun bound => perform (bound.policy table) rows statement, scopes)
  | .finish id => (none, Function.update scopes id [])

/-! The settings of a connection say what was bound, and nothing else. -/

/-- The values of a frame are the texts of what was bound in it. -/
structure Reads (values : Guc → Option String) (bound : Bound) : Prop where
  tenant : values .currentTenant = bound.tenant.map UUID.str
  user : values .currentUser = bound.user.map UUID.str
  platform : values .rlsPlatform = if bound.platform then some "on" else none

theorem str_ne_empty (value : UUID) : value.str ≠ "" := by
  intro empty
  have parsed := CachedBody.UUID.parse_str value
  rw [empty] at parsed
  exact absurd parsed (by simp [UUID.parse, CachedBody.without, CachedBody.stripBraces])

/-- A setting that was never made, or is over, casts to NULL. -/
theorem castUuid_setting (value : Option UUID) (known : Bool) :
    castUuid ((value.map UUID.str).or (if known then some "" else none)) = .ok value := by
  cases value with
  | none => cases known <;> rfl
  | some value =>
      have kept : (some value.str).filter (· ≠ "") = some value.str := by
        simp [Option.filter, str_ne_empty]
      rw [Option.map_some, Option.some_or, castUuid, kept]
      simp only [CachedBody.UUID.parse_str]

theorem platform_setting (bound known : Bool) :
    equals (((if bound then some "on" else none : Option String)).or
      (if known then some "" else none)) (some "on") = some true ↔ bound = true := by
  cases bound <;> cases known <;> decide

theorem or_eq_true {left right : Truth} :
    left.or right = some true ↔ left = some true ∨ right = some true := by
  rcases left with _ | _ | _ <;> rcases right with _ | _ | _ <;> decide

theorem equals_eq_true {α : Type} [DecidableEq α] {left right : Option α} :
    equals left right = some true ↔ left.isSome ∧ left = right := by
  cases left <;> cases right <;> simp [equals]

theorem admits_eq {connection : Connection Guc} {values : Guc → Option String}
    {outer : List (Guc → Option String)} {bound : Bound}
    (inside : connection.frames = values :: outer) (reads : Reads values bound) (table : String) :
    admits table connection.setting = bound.policy table := by
  have setting (name : Guc) : connection.setting name =
      (values name).or (if connection.known name then some "" else none) := by
    rw [Connection.setting, inside]
    rfl
  have tenant : castUuid (connection.setting .currentTenant) = .ok bound.tenant := by
    rw [setting, reads.tenant, castUuid_setting]
  have user : castUuid (connection.setting .currentUser) = .ok bound.user := by
    rw [setting, reads.user, castUuid_setting]
  have platform : equals (connection.setting .rlsPlatform) (some "on") = some true ↔
      bound.platform = true := by
    rw [setting, reads.platform, platform_setting]
  funext row
  unfold admits Bound.policy Bound.admits
  cases policed : TENANT_POLICIES.lookup table with
  | none => rfl
  | some policy =>
      obtain ⟨nullableOrg, userScoped⟩ := policy
      have evaluated : ∃ truth, _predicate nullableOrg userScoped connection.setting row = .ok truth ∧
          (truth = some true ↔
            (row.organizationId.isSome ∧ row.organizationId = bound.tenant) ∨ bound.platform = true ∨
              (nullableOrg = true ∧ row.organizationId = none) ∨
              (userScoped = true ∧ row.userId.isSome ∧ row.userId = bound.user)) := by
        cases nullableOrg <;> cases userScoped <;>
          refine ⟨_, by simp only [_predicate, tenant, user]; rfl, ?_⟩ <;>
          simp [or_eq_true, equals_eq_true, platform, or_assoc]
      obtain ⟨truth, evaluated, meaning⟩ := evaluated
      simp only [evaluated, Except.map]
      congr 1
      rw [Bool.eq_iff_iff, decide_eq_true_iff, meaning]
      simp [or_assoc, and_assoc]

/-! The pool says what each request bound. -/

def Faithful (pool : Pool) (scopes : Scopes) : Prop :=
  ∀ id, List.Forall₂ Reads (pool id).frames (scopes id)

theorem Reads.bind {values : Guc → Option String} {bound : Bound} (reads : Reads values bound)
    {known : Guc → Bool} {outer : List (Guc → Option String)} (binding : Binding) :
    ∃ after, (binding.setGuc ⟨known, values :: outer⟩).frames = after :: outer ∧
      Reads after (bound.bind binding) := by
  obtain ⟨tenant, user, platform⟩ := reads
  cases binding with
  | tenant organizationId =>
      exact ⟨_, rfl, Function.update_self .., (Function.update_of_ne (by decide) ..).trans user,
        (Function.update_of_ne (by decide) ..).trans platform⟩
  | user userId =>
      exact ⟨_, rfl, (Function.update_of_ne (by decide) ..).trans tenant, Function.update_self ..,
        (Function.update_of_ne (by decide) ..).trans platform⟩
  | platform =>
      exact ⟨_, rfl, (Function.update_of_ne (by decide) ..).trans tenant,
        (Function.update_of_ne (by decide) ..).trans user, Function.update_self ..⟩

theorem Faithful.update {pool : Pool} {scopes : Scopes} (faithful : Faithful pool scopes) {id : Nat}
    {connection : Connection Guc} {bounds : List Bound}
    (here : List.Forall₂ Reads connection.frames bounds) :
    Faithful (Function.update pool id connection) (Function.update scopes id bounds) := by
  intro other
  by_cases same : other = id
  · rw [same, Function.update_self, Function.update_self]
    exact here
  · rw [Function.update_of_ne same, Function.update_of_ne same]
    exact faithful other

/-- One action answers what the scopes say, and leaves the connections saying what they say. -/
theorem Faithful.step {pool : Pool} {scopes : Scopes} (faithful : Faithful pool scopes)
    (action : PoolAction) :
    (pool.step action).1 = (scopes.step action).1 ∧
      Faithful (pool.step action).2 (scopes.step action).2 := by
  cases action with
  | checkout id =>
      refine ⟨rfl, ?_⟩
      have here := faithful id
      simp only [Pool.step, Scopes.step]
      cases frames : (pool id).frames with
      | nil =>
          rw [frames] at here
          rw [List.forall₂_nil_left_iff.mp here, if_pos rfl, if_pos rfl]
          exact faithful.update (.cons ⟨rfl, rfl, rfl⟩ .nil)
      | cons values outer =>
          rw [frames] at here
          obtain ⟨bound, bounds, -, -, inside⟩ := List.forall₂_cons_left_iff.mp here
          rw [inside, if_neg (by simp), if_neg (by simp)]
          exact faithful
  | bind id binding =>
      refine ⟨rfl, ?_⟩
      have here := faithful id
      simp only [Pool.step, Scopes.step]
      cases frames : (pool id).frames with
      | nil =>
          rw [frames] at here
          have idle := List.forall₂_nil_left_iff.mp here
          rw [if_pos rfl, idle, List.modifyHead_nil, ← idle, Function.update_eq_self]
          exact faithful
      | cons values outer =>
          rw [frames] at here
          obtain ⟨bound, bounds, reads, rest, inside⟩ := List.forall₂_cons_left_iff.mp here
          rw [if_neg (by simp), inside, List.modifyHead_cons]
          obtain ⟨after, told, next⟩ := reads.bind binding
          have connection : pool id = ⟨(pool id).known, values :: outer⟩ := by rw [← frames]
          rw [connection]
          exact faithful.update (told ▸ .cons next rest)
  | nest id scoping =>
      exact ⟨rfl, faithful.update (LocalSettings.nest_alike (faithful id) scoping)⟩
  | statement id table rows statement =>
      refine ⟨?_, faithful⟩
      have here := faithful id
      simp only [Pool.step, Scopes.step]
      cases frames : (pool id).frames with
      | nil =>
          rw [frames] at here
          rw [if_pos rfl, List.forall₂_nil_left_iff.mp here]
          rfl
      | cons values outer =>
          rw [frames] at here
          obtain ⟨bound, bounds, reads, -, inside⟩ := List.forall₂_cons_left_iff.mp here
          rw [if_neg (by simp), inside, admits_eq frames reads]
          rfl
  | finish id => exact ⟨rfl, faithful.update .nil⟩

theorem Faithful.start : Faithful (fun _ => Connection.fresh) fun _ => [] := fun _ => .nil

/-- Whatever requests do on the connections of a pool, in whatever order, each statement answers
as if only what its own request has bound in its transaction existed. -/
theorem pool_answers_by_own_scope (actions : List PoolAction) :
    Observation.replies Pool.step (fun _ => Connection.fresh) actions =
      Observation.replies Scopes.step (fun _ => []) actions :=
  (Observation.replies_simulated Pool.step Faithful
    (fun _ _ action faithful => faithful.step action) Faithful.start actions).1

/-! What a statement does within its scope. -/

section Within

variable {allowed : Row → Bool} {rows : List Row}

theorem admitted_pure :
    admitted (fun row => (.ok (allowed row) : Except DatabaseError Bool)) rows =
      .ok (rows.filter allowed) := by
  induction rows with
  | nil => rfl
  | cons row rest ih =>
      rw [admitted, ih, List.filter_cons]
      rfl

/-- What can be told of a statement from within the scope. -/
def seen (allowed : Row → Bool) (outcome : Except DatabaseError Answer) :
    Except DatabaseError (List Row × List Row) :=
  outcome.map fun answer => (answer.returned, answer.rows.filter allowed)

theorem select_spec (keep : Row → Bool) :
    perform (fun row => .ok (allowed row)) rows (.select keep) =
      .ok ⟨(rows.filter allowed).filter keep, rows⟩ := by
  rw [perform, admitted_pure]
  rfl

theorem delete_spec (keep : Row → Bool) :
    perform (fun row => .ok (allowed row)) rows (.delete keep) =
      .ok ⟨[], rows.filter fun row => !(allowed row && keep row)⟩ := by
  change (admitted (fun row => .ok !(allowed row && keep row)) rows >>= _) = _
  rw [admitted_pure]
  rfl

/-- What an UPDATE makes of a row: a row that is not admitted is not touched. -/
def updated (allowed keep : Row → Bool) (change : Row → Row) (row : Row) : Row :=
  if allowed row && keep row then change row else row

/-- Every row the UPDATE changes is admitted again. -/
def Stays (allowed keep : Row → Bool) (change : Row → Row) (rows : List Row) : Prop :=
  ∀ row ∈ rows, allowed row = true → keep row = true → allowed (change row) = true

instance {keep : Row → Bool} {change : Row → Row} : Decidable (Stays allowed keep change rows) :=
  inferInstanceAs (Decidable (∀ row ∈ rows, _))

theorem updateRow_spec (keep : Row → Bool) (change : Row → Row) (row : Row) :
    updateRow (fun row => .ok (allowed row)) keep change row =
      if allowed row = true → keep row = true → allowed (change row) = true then
        .ok (updated allowed keep change row)
      else .error .rowSecurity := by
  cases inside : allowed row <;> cases touched : keep row <;> cases again : allowed (change row) <;>
    simp [updateRow, updated, inside, touched, again, bind, Except.bind, pure, Except.pure, throw,
      throwThe, MonadExceptOf.throw]

theorem update_spec (keep : Row → Bool) (change : Row → Row) :
    perform (fun row => .ok (allowed row)) rows (.update keep change) =
      if Stays allowed keep change rows then .ok ⟨[], rows.map (updated allowed keep change)⟩
      else .error .rowSecurity := by
  have mapped : rows.mapM (updateRow (fun row => .ok (allowed row)) keep change) =
      if Stays allowed keep change rows then .ok (rows.map (updated allowed keep change))
      else .error .rowSecurity := by
    induction rows with
    | nil => exact (if_pos fun _ member => absurd member List.not_mem_nil).symm
    | cons row rest ih =>
        have split : Stays allowed keep change (row :: rest) ↔
            (allowed row = true → keep row = true → allowed (change row) = true) ∧
              Stays allowed keep change rest := List.forall_mem_cons
        rw [List.mapM_cons, ih, updateRow_spec, if_congr split rfl rfl]
        by_cases here : allowed row = true → keep row = true → allowed (change row) = true
        · rw [if_pos here]
          by_cases later : Stays allowed keep change rest
          · rw [if_pos later, if_pos ⟨here, later⟩]
            rfl
          · rw [if_neg later, if_neg fun both => later both.2]
            rfl
        · rw [if_neg here, if_neg (not_and_of_not_left (Stays allowed keep change rest) here)]
          rfl
  rw [perform, mapped]
  split <;> rfl

theorem allowed_updated {keep : Row → Bool} {change : Row → Row}
    (stays : Stays allowed keep change rows) {row : Row} (member : row ∈ rows) :
    allowed (updated allowed keep change row) = allowed row := by
  unfold updated
  split
  · rename_i both
    obtain ⟨inside, touched⟩ := (Bool.and_eq_true ..).mp both
    rw [inside, stays row member inside touched]
  · rfl

theorem updated_of_not_allowed {keep : Row → Bool} {change : Row → Row} {row : Row}
    (outside : allowed row = false) : updated allowed keep change row = row := by
  rw [updated, outside, Bool.false_and, if_neg Bool.false_ne_true]

theorem stays_filter {keep : Row → Bool} {change : Row → Row} :
    Stays allowed keep change (rows.filter allowed) ↔ Stays allowed keep change rows := by
  constructor
  · exact fun stays row member inside => stays row (List.mem_filter.mpr ⟨member, inside⟩) inside
  · exact fun stays row member => stays row (List.mem_of_mem_filter member)

/-- The rows outside the scope make no difference to what is seen within it. -/
theorem seen_perform (statement : Statement) :
    seen allowed (perform (fun row => .ok (allowed row)) rows statement) =
      seen allowed (perform (fun row => .ok (allowed row)) (rows.filter allowed) statement) := by
  cases statement with
  | select keep =>
      rw [select_spec, select_spec]
      simp [seen, Except.map, List.filter_filter]
  | insert row =>
      simp only [perform, bind, Except.bind]
      split
      · simp [seen, pure, Except.pure, Except.map, List.filter_append, List.filter_filter]
      · rfl
  | update keep change =>
      rw [update_spec, update_spec, if_congr stays_filter rfl rfl]
      split
      · rename_i stays
        have kept : (rows.map (updated allowed keep change)).filter allowed =
            (rows.filter allowed).map (updated allowed keep change) := by
          rw [List.filter_map]
          congr 1
          exact List.filter_congr fun row member => allowed_updated stays member
        have again : ((rows.filter allowed).map (updated allowed keep change)).filter allowed =
            (rows.filter allowed).map (updated allowed keep change) := by
          rw [← kept, List.filter_filter]
          simp
        simp only [seen, Except.map, kept, again]
      · rfl
  | delete keep =>
      rw [delete_spec, delete_spec]
      simp only [seen, Except.map, List.filter_filter]
      congr 2
      apply List.filter_congr
      intro row _
      cases allowed row <;> simp

/-- The rows outside the scope stay what they were, in their order. -/
theorem perform_kept {statement : Statement} {answer : Answer}
    (done : perform (fun row => .ok (allowed row)) rows statement = .ok answer) :
    answer.rows.filter (fun row => !allowed row) = rows.filter fun row => !allowed row := by
  cases statement with
  | select keep =>
      rw [select_spec] at done
      cases done
      rfl
  | insert row =>
      simp only [perform, bind, Except.bind] at done
      split at done
      · rename_i inside
        cases done
        simp [List.filter_append, inside]
      · cases done
  | update keep change =>
      rw [update_spec] at done
      split at done
      · rename_i stays
        cases done
        have outside : rows.filter ((fun row => !allowed row) ∘ updated allowed keep change) =
            rows.filter fun row => !allowed row :=
          List.filter_congr fun row member => congrArg (!·) (allowed_updated stays member)
        rw [List.filter_map, outside]
        have untouched (row : Row) (member : row ∈ rows.filter fun row => !allowed row) :
            updated allowed keep change row = row :=
          updated_of_not_allowed (by simpa using List.of_mem_filter member)
        exact (List.map_congr_left untouched).trans (List.map_id _)
      · cases done
  | delete keep =>
      rw [delete_spec] at done
      cases done
      rw [List.filter_filter]
      apply List.filter_congr
      intro row _
      cases allowed row <;> simp

theorem perform_returned {statement : Statement} {answer : Answer}
    (done : perform (fun row => .ok (allowed row)) rows statement = .ok answer) :
    ∀ row ∈ answer.returned, allowed row = true := by
  cases statement with
  | select keep =>
      rw [select_spec] at done
      cases done
      exact fun row member => List.of_mem_filter (List.mem_of_mem_filter member)
  | insert row =>
      simp only [perform, bind, Except.bind] at done
      split at done
      · cases done
        exact fun _ member => absurd member List.not_mem_nil
      · cases done
  | update keep change =>
      rw [update_spec] at done
      split at done
      · cases done
        exact fun _ member => absurd member List.not_mem_nil
      · cases done
  | delete keep =>
      rw [delete_spec] at done
      cases done
      exact fun _ member => absurd member List.not_mem_nil

end Within

/-- The pool and the scopes a run ends with say the same. -/
theorem Faithful.run (actions : List PoolAction) :
    Faithful (Runs.run (Observation.next Pool.step) (fun _ => Connection.fresh) actions)
      (Runs.run (Observation.next Scopes.step) (fun _ => []) actions) :=
  (Observation.replies_simulated Pool.step Faithful
    (fun _ _ action faithful => faithful.step action) Faithful.start actions).2

/-- What a statement answers within what its request has bound. -/
theorem answer_of_scope (earlier : List PoolAction) {id : Nat} {bound : Bound}
    (own : (Runs.run (Observation.next Scopes.step) (fun _ => []) earlier id).head? = some bound)
    (table : String) (rows : List Row) (statement : Statement) :
    ((Runs.run (Observation.next Pool.step) (fun _ => Connection.fresh) earlier).step
      (.statement id table rows statement)).1 =
        some (perform (fun row => .ok (bound.admits table row)) rows statement) := by
  rw [((Faithful.run earlier).step (.statement id table rows statement)).1]
  simp only [Scopes.step, own, Option.map_some]
  rfl

theorem Scopes.step_elsewhere {scopes : Scopes} {action : PoolAction} {id : Nat}
    (apart : id ≠ action.connection) : (scopes.step action).2 id = scopes id := by
  cases action with
  | checkout other =>
      simp only [Scopes.step]
      split
      · exact Function.update_of_ne apart ..
      · rfl
  | bind other binding => exact Function.update_of_ne apart ..
  | nest other scoping => exact Function.update_of_ne apart ..
  | statement other table rows statement => rfl
  | finish other => exact Function.update_of_ne apart ..

theorem Scopes.step_here {scopes other : Scopes} {action : PoolAction}
    (same : scopes action.connection = other action.connection) :
    (scopes.step action).2 action.connection = (other.step action).2 action.connection := by
  cases action with
  | checkout id =>
      simp only [Scopes.step, PoolAction.connection] at same ⊢
      rw [same]
      split
      · rw [Function.update_self, Function.update_self]
      · exact same
  | bind id binding =>
      simp only [Scopes.step, PoolAction.connection, Function.update_self] at same ⊢
      rw [same]
  | nest id scoping =>
      simp only [Scopes.step, PoolAction.connection, Function.update_self] at same ⊢
      rw [same]
  | statement id table rows statement => exact same
  | finish id => simp only [Scopes.step, PoolAction.connection, Function.update_self]

/-- What a request has bound depends on nothing done on other connections. -/
theorem Scopes.run_own {scopes other : Scopes} {id : Nat} (same : scopes id = other id)
    (actions : List PoolAction) :
    Runs.run (Observation.next Scopes.step) scopes actions id =
      Runs.run (Observation.next Scopes.step) other
        (actions.filter fun action => action.connection = id) id := by
  induction actions generalizing scopes other with
  | nil => exact same
  | cons action rest ih =>
      by_cases mine : action.connection = id
      · rw [List.filter_cons_of_pos (by simpa using mine), Runs.run_cons, Runs.run_cons]
        apply ih
        subst mine
        exact Scopes.step_here same
      · rw [List.filter_cons_of_neg (by simpa using mine), Runs.run_cons]
        apply ih
        exact (Scopes.step_elsewhere (Ne.symm mine)).trans same

theorem Scopes.run_bindings {scopes : Scopes} {id : Nat} {bound : Bound} {outer : List Bound}
    (here : scopes id = bound :: outer) (bindings : List Binding) :
    Runs.run (Observation.next Scopes.step) scopes (bindings.map (.bind id)) id =
      bindings.foldl Bound.bind bound :: outer := by
  induction bindings generalizing scopes bound with
  | nil => exact here
  | cons binding rest ih =>
      rw [List.map_cons, Runs.run_cons, List.foldl_cons]
      apply ih
      simp [Observation.next, Scopes.step, here]

/-- A connection in no transaction, on which a request opens one and binds. -/
theorem head_after_bindings {earlier during : List PoolAction} {id : Nat} {bindings : List Binding}
    (idle : (Runs.run (Observation.next Pool.step) (fun _ => Connection.fresh) earlier id).frames = [])
    (own : during.filter (fun action => action.connection = id) =
      .checkout id :: bindings.map (.bind id)) :
    (Runs.run (Observation.next Scopes.step) (fun _ => []) (earlier ++ during) id).head? =
      some (bindings.foldl Bound.bind {}) := by
  have vacant : Runs.run (Observation.next Scopes.step) (fun _ => []) earlier id = [] :=
    List.forall₂_nil_left_iff.mp (idle ▸ Faithful.run earlier id)
  rw [Runs.run_append, Scopes.run_own rfl during, own, Runs.run_cons]
  have opened : Observation.next Scopes.step
      (Runs.run (Observation.next Scopes.step) (fun _ => []) earlier) (.checkout id) id = [{}] := by
    simp [Observation.next, Scopes.step, vacant]
  rw [Scopes.run_bindings opened]
  rfl

/-- In whatever state the requests have left the pool: what a statement answers, and whether it
fails, depends only on the rows its request's own bindings admit, and the others stay as they
are. -/
theorem statements_keep_to_scope (earlier : List PoolAction) (id : Nat) (table : String)
    (rows others : List Row) (statement : Statement) {bound : Bound}
    (own : (Runs.run (Observation.next Scopes.step) (fun _ => []) earlier id).head? = some bound)
    (agree : rows.filter (bound.admits table) = others.filter (bound.admits table)) :
    let pool := Runs.run (Observation.next Pool.step) (fun _ => Connection.fresh) earlier
    ∃ outcome other, (pool.step (.statement id table rows statement)).1 = some outcome ∧
      (pool.step (.statement id table others statement)).1 = some other ∧
      seen (bound.admits table) outcome = seen (bound.admits table) other ∧
      ∀ answer, outcome = .ok answer → answer.rows.filter (fun row => !bound.admits table row) =
        rows.filter fun row => !bound.admits table row := by
  intro pool
  refine ⟨_, _, answer_of_scope earlier own table rows statement,
    answer_of_scope earlier own table others statement, ?_, fun answer done => perform_kept done⟩
  rw [seen_perform, agree, ← seen_perform]

def firstTenant : UUID := ⟨List.replicate 32 1, rfl⟩
def secondTenant : UUID := ⟨List.replicate 32 2, rfl⟩

/-- A platform request and one of the first tenant, both over; then one of the second tenant
on their connection. -/
def reusedConnection : List PoolAction :=
  [.checkout 0, .bind 0 .platform, .finish 0, .checkout 0, .bind 0 (.tenant firstTenant),
    .nest 0 .savepoint, .finish 0, .checkout 0, .bind 0 (.tenant secondTenant)]

/-- The invoices of the first tenant might as well not be there. -/
theorem statements_keep_to_scope_reused :
    ∃ outcome other,
      ((Runs.run (Observation.next Pool.step) (fun _ => Connection.fresh) reusedConnection).step
        (.statement 0 "invoices" [⟨1, some firstTenant, none, "a"⟩, ⟨2, some secondTenant, none, "b"⟩]
          (.select fun _ => true))).1 = some outcome ∧
      ((Runs.run (Observation.next Pool.step) (fun _ => Connection.fresh) reusedConnection).step
        (.statement 0 "invoices" [⟨2, some secondTenant, none, "b"⟩] (.select fun _ => true))).1 =
          some other ∧
      seen (Bound.admits ⟨some secondTenant, none, false⟩ "invoices") outcome =
        seen (Bound.admits ⟨some secondTenant, none, false⟩ "invoices") other := by
  have own : (Runs.run (Observation.next Scopes.step) (fun _ => []) reusedConnection 0).head? =
      some ⟨some secondTenant, none, false⟩ := rfl
  obtain ⟨outcome, other, first, second, same, -⟩ := statements_keep_to_scope reusedConnection 0
    "invoices" [⟨1, some firstTenant, none, "a"⟩, ⟨2, some secondTenant, none, "b"⟩]
    [⟨2, some secondTenant, none, "b"⟩] (.select fun _ => true) own (by decide)
  exact ⟨outcome, other, first, second, same⟩

end SynapseSaas.RowSecurity
