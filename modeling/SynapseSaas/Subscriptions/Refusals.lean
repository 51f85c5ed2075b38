import SynapseSaas.Foundation.Outcomes
import SynapseSaas.Subscriptions.Service

/-! Which unique index refuses a write of a subscription.

An integrity error does not say. Here a write that is refused names the index
entries another row holds, and what callers see is the same result without them. -/

set_option autoImplicit false

namespace SynapseSaas

open Outcomes

/-- An entry of `uq_subscriptions_one_per_org`. -/
def SubscriptionKey.onePerOrg : SubscriptionKey → Bool
  | .occupies _ => true
  | .providerRef _ _ => false

/-- Why an operation stopped: a unique index of the subscriptions, or anything else. -/
inductive Stop where
  | refused (entries : List SubscriptionKey)
  | raised (failure : Failure)
  deriving DecidableEq

namespace Stop

def failure : Stop → Failure
  | .refused _ => .other .integrity
  | .raised failure => failure

/-- The index of occupying subscriptions is among those that refused. -/
def onePerOrg : Stop → Bool
  | .refused entries => entries.any (·.onePerOrg)
  | .raised _ => false

end Stop

abbrev Explained (α : Type) := Except Stop α

namespace Explained

variable {α β : Type}

/-- What callers see of an explained computation. -/
def result (computed : Explained α) : Result α := computed.mapError Stop.failure

/-- A part that writes no subscription. -/
def elsewhere (result : Result α) : Explained α := result.mapError .raised

/-- It returns as promised, or stops for another reason than the occupied organization. -/
def Unhindered (promised : α → Prop) (computed : Explained α) : Prop :=
  Settles promised (fun stop => stop.onePerOrg = false) computed

theorem result_bind (computed : Explained α) (next : α → Explained β) :
    result (computed >>= next) = computed.result >>= fun value => (next value).result :=
  mapError_bind _ _ _

@[simp] theorem result_ok (value : α) : result (.ok value) = .ok value := rfl

@[simp] theorem result_pure (value : α) : result (pure value) = pure value := rfl

@[simp] theorem result_elsewhere (computed : Result α) : (elsewhere computed).result = computed := by
  cases computed <;> rfl

theorem unhindered_elsewhere {promised : α → Prop} {computed : Result α}
    (returns : ∀ value, computed = .ok value → promised value) :
    (elsewhere computed).Unhindered promised := by
  cases computed with
  | ok value => exact returns value rfl
  | error failure => exact rfl

/-- Such a part may come first, whatever it computes. -/
theorem Unhindered.after_elsewhere {promised : β → Prop} {computed : Result α}
    {next : α → Explained β}
    (later : ∀ value, computed = .ok value → (next value).Unhindered promised) :
    Unhindered promised (elsewhere computed >>= next) :=
  Settles.bind (unhindered_elsewhere fun _ returned => returned) later

theorem unhindered_raise {promised : α → Prop} (cls : ErrorClass) (message : String)
    (extras : List (String × Value)) :
    (elsewhere (raise cls message extras)).Unhindered promised := rfl

end Explained

namespace Db

variable (db : Db)

/-- The index entries of a row that another row holds. -/
def contested (subscription : Subscription) : List SubscriptionKey :=
  subscription.keys.filter fun key => db.subscriptions.rows.any fun other =>
    other.id ≠ subscription.id ∧ key ∈ other.keys

def explainPut (subscription : Subscription) : Explained Db :=
  (db.putSubscription subscription).mapError fun _ => .refused (db.contested subscription)

def explainInsert (make : Nat → Subscription) : Explained (Subscription × Db) :=
  (db.insertSubscription make).mapError fun _ =>
    .refused (db.contested (make db.subscriptions.next))

/-- Every subscription belongs to an organization that is there, as the foreign key demands. -/
def Housed : Prop :=
  ∀ row ∈ db.subscriptions.rows, ∃ organization ∈ db.organizations,
    organization.id = row.organizationId

end Db

namespace Db

variable {db next : Db} {subscription existing : Subscription}

@[simp] theorem result_explainPut : (db.explainPut subscription).result =
    db.putSubscription subscription := by
  unfold explainPut putSubscription accepted
  cases db.subscriptions.put subscription <;> rfl

@[simp] theorem result_explainInsert {make : Nat → Subscription} :
    (db.explainInsert make).result = db.insertSubscription make := by
  unfold explainInsert insertSubscription accepted
  cases db.subscriptions.insert make <;> rfl

theorem mem_contested {key : SubscriptionKey} : key ∈ db.contested subscription ↔
    key ∈ subscription.keys ∧
      ∃ other ∈ db.subscriptions.rows, other.id ≠ subscription.id ∧ key ∈ other.keys := by
  simp [contested]

/-- A write is refused exactly when another row holds an entry it claims. -/
theorem explainPut_refused (member : existing ∈ db.subscriptions.rows)
    (same : subscription.id = existing.id) :
    (∃ stop, db.explainPut subscription = .error stop) ↔ db.contested subscription ≠ [] := by
  constructor
  · rintro ⟨stop, refused⟩ uncontested
    -- With no entry contested the table accepts the row.
    have free : ∀ other ∈ db.subscriptions.rows, Keyed.id other ≠ Keyed.id existing →
        ∀ key ∈ Keyed.keys subscription, key ∉ Keyed.keys other := by
      intro other here apart key mine yours
      have held : key ∈ db.contested subscription :=
        mem_contested.mpr ⟨mine, other, here, fun eq => apart (eq.trans same), yours⟩
      rw [uncontested] at held
      cases held
    obtain ⟨table, put⟩ := Table.put_free db.subscriptions member same free
    rw [explainPut, putSubscription, put] at refused
    cases refused
  · intro contested
    obtain ⟨key, held⟩ := List.exists_mem_of_ne_nil _ contested
    obtain ⟨mine, other, here, apart, yours⟩ := mem_contested.mp held
    cases ended : db.explainPut subscription with
    | error stop => exact ⟨stop, rfl⟩
    | ok next =>
        -- Otherwise both rows would stand in one table under one entry.
        have put : db.putSubscription subscription = .ok next := by
          rw [← result_explainPut, ended, Explained.result_ok]
        have writes := putSubscription_writes put member same
        have kept : other ∈ next.subscriptions.rows :=
          (writes.mem other).mpr (.inr ⟨here, fun eq => apart (eq ▸ same.symm)⟩)
        have written : subscription ∈ next.subscriptions.rows := (writes.mem _).mpr (.inl rfl)
        exact absurd (congrArg Subscription.id (Table.eq_of_key _ kept written yours mine)) apart

theorem contested_onePerOrg :
    (Stop.refused (db.contested subscription)).onePerOrg ↔ subscription.status.occupying ∧
      ∃ other ∈ db.subscriptions.rows, other.id ≠ subscription.id ∧ other.status.occupying ∧
        other.organizationId = subscription.organizationId := by
  simp only [Stop.onePerOrg, List.any_eq_true, mem_contested]
  constructor
  · rintro ⟨key, ⟨mine, other, here, apart, yours⟩, indexed⟩
    cases key with
    | occupies organization =>
        obtain ⟨occupying, rfl⟩ := (subscription.occupies_mem_keys organization).mp mine
        obtain ⟨alike, same⟩ := (other.occupies_mem_keys _).mp yours
        exact ⟨occupying, other, here, apart, alike, same⟩
    | providerRef provider reference => cases indexed
  · rintro ⟨occupying, other, here, apart, alike, same⟩
    refine ⟨.occupies subscription.organizationId, ⟨?_, other, here, apart, ?_⟩, rfl⟩
    · exact (subscription.occupies_mem_keys _).mpr ⟨occupying, rfl⟩
    · exact (other.occupies_mem_keys _).mpr ⟨alike, same⟩

/-- The index of occupying subscriptions refuses a row exactly when the row occupies
its organization and so does another. -/
theorem explainPut_onePerOrg (member : existing ∈ db.subscriptions.rows)
    (same : subscription.id = existing.id) :
    (∃ stop, db.explainPut subscription = .error stop ∧ stop.onePerOrg) ↔
      subscription.status.occupying ∧
        ∃ other ∈ db.subscriptions.rows, other.id ≠ subscription.id ∧ other.status.occupying ∧
          other.organizationId = subscription.organizationId := by
  rw [← contested_onePerOrg]
  -- A refused write names the contested entries.
  have names : ∀ stop, db.explainPut subscription = .error stop →
      stop = .refused (db.contested subscription) := by
    intro stop refused
    unfold explainPut at refused
    cases put : db.putSubscription subscription with
    | ok next =>
        rw [put] at refused
        cases refused
    | error failure =>
        rw [put] at refused
        cases refused
        rfl
  constructor
  · rintro ⟨stop, refused, occupied⟩
    rw [← names stop refused]
    exact occupied
  · intro occupied
    have contested : db.contested subscription ≠ [] := by
      intro uncontested
      rw [uncontested] at occupied
      cases occupied
    obtain ⟨stop, refused⟩ := (explainPut_refused member same).mpr contested
    exact ⟨stop, refused, names stop refused ▸ occupied⟩

/-- The organizations are those there were, and every subscription still belongs to one. -/
structure Keeps (db next : Db) : Prop where
  organizations : next.organizations = db.organizations
  housed : next.Housed

theorem Housed.keeps (housed : db.Housed) (organizations : next.organizations = db.organizations)
    (subscriptions : next.subscriptions = db.subscriptions) : db.Keeps next := by
  refine ⟨organizations, ?_⟩
  unfold Housed
  rw [organizations, subscriptions]
  exact housed

theorem Keeps.trans {middle : Db} (first : db.Keeps middle) (second : middle.Keeps next) :
    db.Keeps next :=
  ⟨second.organizations.trans first.organizations, second.housed⟩

theorem Keeps.emit (keeps : db.Keeps next) (eventType : String) (plan : Option Plan)
    (extra : List (String × Value)) : db.Keeps (next.emit eventType subscription plan extra) :=
  ⟨keeps.organizations, keeps.housed⟩

/-- Rewriting the row that occupies its organization, or one that does not occupy
it afterwards, meets no other occupying row. -/
theorem explainPut_unhindered (housed : db.Housed) (member : existing ∈ db.subscriptions.rows)
    (same : subscription.id = existing.id)
    (mine : subscription.organizationId = existing.organizationId)
    (occupied : subscription.status.occupying → existing.status.occupying) :
    (db.explainPut subscription).Unhindered fun next =>
      db.WritesSubscription existing subscription next ∧ db.Keeps next := by
  unfold explainPut
  cases put : db.putSubscription subscription with
  | ok next =>
      have writes := putSubscription_writes put member same
      have organizations : next.organizations = db.organizations := by rw [writes.rest]
      refine ⟨writes, organizations, ?_⟩
      intro row here
      rw [organizations]
      rcases (writes.mem row).mp here with rfl | ⟨old, -⟩
      · rw [mine]
        exact housed existing member
      · exact housed row old
  | error failure =>
      -- Another occupying row would have stood beside the one rewritten.
      refine Bool.eq_false_iff.mpr fun hindered => ?_
      obtain ⟨occupying, other, here, apart, alike, shared⟩ := contested_onePerOrg.mp hindered
      have one := Table.occupying_unique _ here member (shared.trans mine) alike (occupied occupying)
      exact apart (one ▸ same.symm)

/-- A row for an organization that nothing occupies meets no other. -/
theorem explainInsert_unhindered {make : Nat → Subscription} (housed : db.Housed)
    (home : ∃ organization ∈ db.organizations,
      organization.id = (make db.subscriptions.next).organizationId)
    (vacant : db.currentForOrg (make db.subscriptions.next).organizationId = none) :
    (db.explainInsert make).Unhindered fun created =>
      created.1 ∈ created.2.subscriptions.rows ∧ db.Keeps created.2 := by
  unfold explainInsert
  cases insert : db.insertSubscription make with
  | ok created =>
      obtain ⟨row, next⟩ := created
      obtain ⟨inserts, eq⟩ := insertSubscription_inserts insert
      have organizations : next.organizations = db.organizations := by rw [inserts.rest]
      refine ⟨by rw [inserts.rows]; simp, organizations, ?_⟩
      intro other here
      rw [organizations]
      rw [inserts.rows, List.mem_append, List.mem_singleton] at here
      rcases here with old | rfl
      · exact housed other old
      · rw [eq]
        exact home
  | error failure =>
      refine Bool.eq_false_iff.mpr fun hindered => ?_
      obtain ⟨-, other, here, -, alike, shared⟩ := contested_onePerOrg.mp hindered
      exact currentForOrg_eq_none.mp vacant other here shared alike

end Db

end SynapseSaas
