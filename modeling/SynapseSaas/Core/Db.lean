import SynapseSaas.Billing.Models
import SynapseSaas.Subscriptions.Models
import Mathlib.Data.List.Sort

/-! The database and the transactions services run on it.

Tables with unique indexes are `Table`s; the catalog, the usage counters and the
entitlement grants are read here and written elsewhere. -/

set_option autoImplicit false

namespace SynapseSaas

structure User where
  id : Nat
  email : String
  displayName : Option String
  deriving DecidableEq, Repr

structure Organization where
  id : Nat
  slug : String
  name : String
  ownerUserId : Option Nat
  deriving DecidableEq, Repr

structure Metric where
  key : String
  overageUnit : Option { unit : Int // 0 < unit }
  overagePriceCents : Option Int
  deriving DecidableEq, Repr

structure UsageCounter where
  organizationId : Nat
  metric : String
  periodStart : Int
  quantityTotal : Int
  deriving DecidableEq, Repr

structure Entitlement where
  organizationId : Nat
  featureKey : String
  source : String
  enabled : Bool
  startsAt : Int
  endsAt : Option Int
  limitValue : Option Int
  revokedAt : Option Int
  deriving DecidableEq, Repr

structure OutboxEvent where
  eventType : String
  aggregateType : String
  aggregateId : Nat
  organizationId : Option Nat
  payload : List (String × Value)
  audience : String
  deriving DecidableEq, Repr

def internalEvents : List String :=
  ["member.invite_email", "user.password_reset_link", "invoice.email", "authz.tuples_changed"]

def audienceFor (eventType : String) : String :=
  if eventType ∈ internalEvents then "internal" else "public"

structure Db where
  users : List User := []
  organizations : List Organization := []
  plans : List Plan := []
  metrics : List Metric := []
  usageCounters : List UsageCounter := []
  entitlements : List Entitlement := []
  subscriptions : Table Subscription := Table.empty
  billingCustomers : Table BillingCustomer := Table.empty
  invoices : Table Invoice := Table.empty
  providerWebhookEvents : Table ProviderWebhookEvent := Table.empty
  outboxEvents : List OutboxEvent := []

/-- A unique index refusing a write surfaces as an integrity error. -/
def accepted {α : Type} : Option α → Result α
  | some value => .ok value
  | none => .error (.other .integrity)

namespace Db

variable (db : Db)

def insertSubscription (make : Nat → Subscription) : Result (Subscription × Db) := do
  let table ← accepted (db.subscriptions.insert make)
  return (make db.subscriptions.next, { db with subscriptions := table })

def putSubscription (subscription : Subscription) : Result Db := do
  let table ← accepted (db.subscriptions.put subscription)
  return { db with subscriptions := table }

def insertInvoice (make : Nat → Invoice) : Result (Invoice × Db) := do
  let table ← accepted (db.invoices.insert make)
  return (make db.invoices.next, { db with invoices := table })

def putInvoice (invoice : Invoice) : Result Db := do
  let table ← accepted (db.invoices.put invoice)
  return { db with invoices := table }

def insertBillingCustomer (make : Nat → BillingCustomer) : Result (BillingCustomer × Db) := do
  let table ← accepted (db.billingCustomers.insert make)
  return (make db.billingCustomers.next, { db with billingCustomers := table })

def appendOutbox (eventType aggregateType : String) (aggregateId : Nat)
    (organizationId : Option Nat) (payload : List (String × Value)) : Db :=
  { db with outboxEvents := db.outboxEvents ++
      [⟨eventType, aggregateType, aggregateId, organizationId, payload, audienceFor eventType⟩] }

/-- The occupying subscription of an organization: the latest by creation. -/
def currentForOrg (organization : Nat) : Option Subscription :=
  ((db.subscriptions.rows.filter fun row =>
    row.organizationId = organization ∧ row.status.occupying).insertionSort fun first second =>
      second.createdAt ≤ first.createdAt).head?

def planByKey (key : String) : Result Plan :=
  match db.plans.find? fun plan => plan.key = key ∧ plan.archivedAt.isNone with
  | some plan => .ok plan
  | none => raise .planNotFound ("Plan " ++ quoted key ++ " not found")

/-- The plan a subscription refers to; the foreign key keeps it in the catalog. -/
def planOf (subscription : Subscription) : Option Plan :=
  db.plans.find? fun plan => plan.id = subscription.planId

end Db

theorem accepted_eq_ok {α : Type} {found : Option α} {value : α} :
    accepted found = .ok value ↔ found = some value := by
  cases found <;> simp [accepted]

/-- A write succeeds iff its table accepts it. -/
theorem write_eq_ok {α β : Type} {found : Option α} {write : α → β} {result : β} :
    (do let table ← accepted found; return write table : Result β) = .ok result ↔
      ∃ table, found = some table ∧ result = write table := by
  simp only [Result.bind_eq_ok, accepted_eq_ok, pure, Except.pure, Except.ok.injEq]
  simp only [eq_comm]

namespace Db

variable {db next : Db}

theorem mem_of_currentForOrg {organization : Nat} {subscription : Subscription}
    (found : db.currentForOrg organization = some subscription) :
    subscription ∈ db.subscriptions.rows ∧ subscription.organizationId = organization ∧
      subscription.status.occupying := by
  have sorted := List.mem_of_mem_head? found
  rw [List.mem_insertionSort, List.mem_filter] at sorted
  exact ⟨sorted.1, of_decide_eq_true sorted.2⟩

theorem exists_currentForOrg {subscription : Subscription}
    (here : subscription ∈ db.subscriptions.rows) (occupying : subscription.status.occupying) :
    ∃ found, db.currentForOrg subscription.organizationId = some found := by
  rw [← Option.isSome_iff_exists, currentForOrg, List.isSome_head?, ← List.length_pos_iff,
    List.length_insertionSort, List.length_pos_iff_exists_mem]
  exact ⟨subscription, List.mem_filter.mpr ⟨here, decide_eq_true ⟨rfl, occupying⟩⟩⟩

/-- The index on occupying subscriptions makes the order of the lookup moot. -/
theorem currentForOrg_eq_some {organization : Nat} {subscription : Subscription} :
    db.currentForOrg organization = some subscription ↔
      subscription ∈ db.subscriptions.rows ∧ subscription.organizationId = organization ∧
        subscription.status.occupying := by
  constructor
  · intro found
    exact mem_of_currentForOrg found
  · rintro ⟨here, rfl, occupying⟩
    obtain ⟨other, found⟩ := exists_currentForOrg here occupying
    have ⟨there, same, alike⟩ := mem_of_currentForOrg found
    rw [found, Table.occupying_unique db.subscriptions there here same alike occupying]

theorem currentForOrg_eq_none {organization : Nat} :
    db.currentForOrg organization = none ↔
      ∀ row ∈ db.subscriptions.rows, row.organizationId = organization → ¬ row.status.occupying := by
  rw [Option.eq_none_iff_forall_ne_some]
  simp only [ne_eq, currentForOrg_eq_some, not_and]

theorem planByKey_eq_ok {key : String} {plan : Plan} (found : db.planByKey key = .ok plan) :
    plan.key = key := by
  unfold planByKey at found
  split at found
  · next other located =>
      cases found
      have selected := List.find?_some located
      simp only [decide_eq_true_eq] at selected
      exact selected.1
  · cases found

/-- One subscription overwritten, events possibly added, nothing else touched. -/
structure WritesSubscription (db : Db) (old new : Subscription) (next : Db) : Prop where
  member : old ∈ db.subscriptions.rows
  same : new.id = old.id
  written : db.subscriptions.put new = some next.subscriptions
  rest : next =
    { db with subscriptions := next.subscriptions, outboxEvents := next.outboxEvents }

structure InsertsSubscription (db : Db) (new : Subscription) (next : Db) : Prop where
  inserted : ∃ make, db.subscriptions.insert make = some next.subscriptions ∧
    new = make db.subscriptions.next
  rest : next =
    { db with subscriptions := next.subscriptions, outboxEvents := next.outboxEvents }

structure WritesInvoice (db : Db) (old new : Invoice) (next : Db) : Prop where
  member : old ∈ db.invoices.rows
  same : new.id = old.id
  written : db.invoices.put new = some next.invoices
  rest : next = { db with invoices := next.invoices, outboxEvents := next.outboxEvents }

structure InsertsInvoice (db : Db) (new : Invoice) (next : Db) : Prop where
  inserted : ∃ make, db.invoices.insert make = some next.invoices ∧ new = make db.invoices.next
  rest : next = { db with invoices := next.invoices, outboxEvents := next.outboxEvents }

theorem putSubscription_writes {old new : Subscription} (put : db.putSubscription new = .ok next)
    (member : old ∈ db.subscriptions.rows) (same : new.id = old.id) :
    db.WritesSubscription old new next := by
  obtain ⟨table, written, rfl⟩ := write_eq_ok.mp put
  exact ⟨member, same, written, rfl⟩

theorem putSubscription_accepts {old new : Subscription} (member : old ∈ db.subscriptions.rows)
    (same : new.id = old.id) (keys : ∀ key ∈ new.keys, key ∈ old.keys) :
    ∃ next, db.putSubscription new = .ok next := by
  obtain ⟨table, put⟩ := Table.put_accepted db.subscriptions member same keys
  exact ⟨_, write_eq_ok.mpr ⟨table, put, rfl⟩⟩

theorem putInvoice_accepts {old new : Invoice} (member : old ∈ db.invoices.rows)
    (same : new.id = old.id) (keys : ∀ key ∈ Keyed.keys new, key ∈ Keyed.keys old) :
    ∃ next, db.putInvoice new = .ok next := by
  obtain ⟨table, put⟩ := Table.put_accepted db.invoices member same keys
  exact ⟨_, write_eq_ok.mpr ⟨table, put, rfl⟩⟩

theorem insertSubscription_inserts {make : Nat → Subscription} {new : Subscription}
    (insert : db.insertSubscription make = .ok (new, next)) :
    db.InsertsSubscription new next ∧ new = make db.subscriptions.next := by
  obtain ⟨table, inserted, eq⟩ := write_eq_ok.mp insert
  cases eq
  exact ⟨⟨⟨make, inserted, rfl⟩, rfl⟩, rfl⟩

theorem putInvoice_writes {old new : Invoice} (put : db.putInvoice new = .ok next)
    (member : old ∈ db.invoices.rows) (same : new.id = old.id) :
    db.WritesInvoice old new next := by
  obtain ⟨table, written, rfl⟩ := write_eq_ok.mp put
  exact ⟨member, same, written, rfl⟩

theorem insertInvoice_inserts {make : Nat → Invoice} {new : Invoice}
    (insert : db.insertInvoice make = .ok (new, next)) :
    db.InsertsInvoice new next ∧ new = make db.invoices.next := by
  obtain ⟨table, inserted, eq⟩ := write_eq_ok.mp insert
  cases eq
  exact ⟨⟨⟨make, inserted, rfl⟩, rfl⟩, rfl⟩

namespace WritesSubscription

variable {old new : Subscription}

theorem outbox (writes : db.WritesSubscription old new next) (eventType aggregateType : String)
    (aggregateId : Nat) (organization : Option Nat) (payload : List (String × Value)) :
    db.WritesSubscription old new
      (next.appendOutbox eventType aggregateType aggregateId organization payload) :=
  ⟨writes.member, writes.same, writes.written, by rw [writes.rest]; rfl⟩

theorem invoices (writes : db.WritesSubscription old new next) : next.invoices = db.invoices := by
  rw [writes.rest]

theorem mem (writes : db.WritesSubscription old new next) (other : Subscription) :
    other ∈ next.subscriptions.rows ↔ other = new ∨ other ∈ db.subscriptions.rows ∧ other ≠ old :=
  Table.mem_put writes.member writes.same writes.written other

/-- Writing an occupying subscription makes it the organization's. -/
theorem current (writes : db.WritesSubscription old new next) (occupying : new.status.occupying) :
    next.currentForOrg new.organizationId = some new :=
  currentForOrg_eq_some.mpr ⟨(writes.mem new).mpr (.inl rfl), rfl, occupying⟩

/-- Ending the occupying subscription leaves none. -/
theorem vacated (writes : db.WritesSubscription old new next) (was : old.status.occupying)
    (ended : ¬ new.status.occupying) : next.currentForOrg old.organizationId = none := by
  rw [currentForOrg_eq_none]
  intro row member mine occupying
  rcases (writes.mem row).mp member with rfl | ⟨here, distinct⟩
  · exact ended occupying
  · exact distinct (Table.occupying_unique _ here writes.member mine occupying was)

end WritesSubscription

namespace InsertsSubscription

variable {new : Subscription}

theorem outbox (inserts : db.InsertsSubscription new next) (eventType aggregateType : String)
    (aggregateId : Nat) (organization : Option Nat) (payload : List (String × Value)) :
    db.InsertsSubscription new
      (next.appendOutbox eventType aggregateType aggregateId organization payload) :=
  ⟨inserts.inserted, by rw [inserts.rest]; rfl⟩

theorem rows (inserts : db.InsertsSubscription new next) :
    next.subscriptions.rows = db.subscriptions.rows ++ [new] := by
  obtain ⟨make, inserted, rfl⟩ := inserts.inserted
  exact Table.insert_rows inserted

theorem invoices (inserts : db.InsertsSubscription new next) : next.invoices = db.invoices := by
  rw [inserts.rest]

theorem current (inserts : db.InsertsSubscription new next) (occupying : new.status.occupying) :
    next.currentForOrg new.organizationId = some new :=
  currentForOrg_eq_some.mpr ⟨by rw [inserts.rows]; simp, rfl, occupying⟩

end InsertsSubscription

namespace WritesInvoice

variable {old new : Invoice}

theorem outbox (writes : db.WritesInvoice old new next) (eventType aggregateType : String)
    (aggregateId : Nat) (organization : Option Nat) (payload : List (String × Value)) :
    db.WritesInvoice old new
      (next.appendOutbox eventType aggregateType aggregateId organization payload) :=
  ⟨writes.member, writes.same, writes.written, by rw [writes.rest]; rfl⟩

theorem perm (writes : db.WritesInvoice old new next) :
    ∃ others, db.invoices.rows.Perm (old :: others) ∧ next.invoices.rows.Perm (new :: others) :=
  Table.put_perm writes.member writes.same writes.written

theorem countP (writes : db.WritesInvoice old new next) (selects : Invoice → Bool) :
    next.invoices.rows.countP selects + (if selects old then 1 else 0) =
      db.invoices.rows.countP selects + (if selects new then 1 else 0) := by
  obtain ⟨others, before, after⟩ := writes.perm
  rw [before.countP_eq, after.countP_eq, List.countP_cons, List.countP_cons]
  omega

theorem mem (writes : db.WritesInvoice old new next) (other : Invoice) :
    other ∈ next.invoices.rows ↔ other = new ∨ other ∈ db.invoices.rows ∧ other ≠ old :=
  Table.mem_put writes.member writes.same writes.written other

theorem subscriptions (writes : db.WritesInvoice old new next) :
    next.subscriptions = db.subscriptions := by
  rw [writes.rest]

end WritesInvoice

namespace InsertsInvoice

variable {new : Invoice}

theorem outbox (inserts : db.InsertsInvoice new next) (eventType aggregateType : String)
    (aggregateId : Nat) (organization : Option Nat) (payload : List (String × Value)) :
    db.InsertsInvoice new
      (next.appendOutbox eventType aggregateType aggregateId organization payload) :=
  ⟨inserts.inserted, by rw [inserts.rest]; rfl⟩

theorem rows (inserts : db.InsertsInvoice new next) :
    next.invoices.rows = db.invoices.rows ++ [new] := by
  obtain ⟨make, inserted, rfl⟩ := inserts.inserted
  exact Table.insert_rows inserted

theorem subscriptions (inserts : db.InsertsInvoice new next) :
    next.subscriptions = db.subscriptions := by
  rw [inserts.rest]

end InsertsInvoice

end Db

/-! A small catalog and an organization on it, to evaluate the definitions on. -/

section Sample

def samplePlan : Plan where
  id := 1
  key := "starter"
  name := "Starter"
  priceCents := some 1000
  currency := "PHP"
  interval := some .month
  trialDays := 14
  archivedAt := none
  features := []
  limits := [⟨"api_calls", some 100, none, some ⟨10, 5, by decide⟩⟩]

def sampleSubscription (start : Int) : Subscription where
  id := 0
  organizationId := 1
  planId := 1
  status := .active
  currentPeriodStart := start
  currentPeriodEnd := start + 30 * day
  trialEndsAt := none
  cancelAtPeriodEnd := false
  canceledAt := none
  provider := some "manual"
  providerSubscriptionId := some "sub_1"
  planSnapshot := some (snapshot samplePlan)
  pendingAdjustments := []
  createdAt := start

def sampleDb (subscription : Subscription) : Db where
  organizations := [⟨1, "acme", "Acme", none⟩]
  plans := [samplePlan]
  subscriptions := ⟨[subscription], subscription.id + 1, by
    simp [Table.Consistent, Keyed.id]⟩

end Sample

end SynapseSaas
