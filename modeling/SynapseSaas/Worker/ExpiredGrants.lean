import SynapseSaas.Entitlements.Service
import SynapseSaas.Foundation.Table

/-! The job that marks lapsed grants revoked, against resolution, which tests the same
window for itself. -/

set_option autoImplicit false

namespace SynapseSaas

structure GrantRow where
  id : Nat
  entitlement : Entitlement
  deriving DecidableEq, Repr

instance : Keyed GrantRow where
  Key := Empty
  decEq := inferInstance
  id := GrantRow.id
  keys _ := []

/-- `revoked_at IS NULL AND ends_at IS NOT NULL AND ends_at <= now()`. -/
def GrantRow.lapsed (now : Int) (row : GrantRow) : Bool :=
  row.entitlement.revokedAt.isNone ∧ row.entitlement.endsAt.any fun ends => ends ≤ now

def GrantRow.revoke (now : Int) (row : GrantRow) : GrantRow :=
  { row with entitlement := { row.entitlement with revokedAt := some now } }

/-- UPDATE of `revoked_at` in the row with an id. -/
def revokeGrant (grants : Table GrantRow) (now : Int) (id : Nat) : Table GrantRow :=
  grants.revise (fun row => if row.id = id then row.revoke now else row) fun row => by
    split
    · exact ⟨rfl, rfl⟩
    · exact ⟨rfl, rfl⟩

structure ExpiryPass where
  entitlements : Table GrantRow
  outboxEvents : List OutboxEvent
  touched : List Nat                -- organizations to invalidate after the commit

/-- One row of the batch; a row that is gone is passed over. -/
def expireGrant (now : Int) (pass : ExpiryPass) (row : GrantRow) : ExpiryPass :=
  match pass.entitlements.get row.id with
  | none => pass
  | some found =>
      { entitlements := revokeGrant pass.entitlements now found.id
        outboxEvents := pass.outboxEvents ++
          [⟨"entitlement.expired", "entitlement", row.id, some row.entitlement.organizationId,
            [("feature_key", .str row.entitlement.featureKey)], "public"⟩]
        touched := pass.touched.insert row.entitlement.organizationId }

/-- The pass and the number of rows it found. The database and the job read one clock. -/
def expireEntitlements (now : Int) (entitlements : Table GrantRow)
    (outboxEvents : List OutboxEvent) : ExpiryPass × Nat :=
  let rows := entitlements.rows.filter (GrantRow.lapsed now)
  (rows.foldl (expireGrant now) ⟨entitlements, outboxEvents, []⟩, rows.length)

/-- The grants `_compute` selects for an organization. -/
def grantsOf (entitlements : Table GrantRow) (organization : Nat) : List EntitlementGrant :=
  (entitlements.rows.filter fun row => row.entitlement.organizationId = organization ∧
    row.entitlement.revokedAt.isNone).map (·.entitlement.grant)

def allGrants (entitlements : Table GrantRow) : List EntitlementGrant :=
  entitlements.rows.map (·.entitlement.grant)

variable {now later : Int}

/-- The selection of the job and the window of resolution are exact complements, at the
boundary instant too. -/
theorem lapsed_inactive {row : GrantRow} (lapsed : row.lapsed now) (after : now ≤ later) :
    row.entitlement.grant.isActive later = false := by
  simp only [GrantRow.lapsed, decide_eq_true_eq] at lapsed
  obtain ⟨-, past⟩ := lapsed
  cases ends : row.entitlement.endsAt with
  | none => simp [ends] at past
  | some instant =>
      simp only [ends, Option.any_some, decide_eq_true_eq] at past
      have ended : ¬later < instant := not_lt.mpr (past.trans after)
      simp [EntitlementGrant.isActive, Entitlement.grant, ends, ended]

theorem revoked_inactive (row : GrantRow) :
    (row.revoke now).entitlement.grant.isActive later = false := by
  simp [EntitlementGrant.isActive, Entitlement.grant, GrantRow.revoke]

/-- What the pass makes of a row. -/
def GrantRow.expired (now : Int) (row : GrantRow) : GrantRow :=
  if row.lapsed now then row.revoke now else row

theorem expireGrant_rows {pass : ExpiryPass} {row : GrantRow}
    (present : ∃ found ∈ pass.entitlements.rows, found.id = row.id) :
    (expireGrant now pass row).entitlements.rows =
      pass.entitlements.rows.map fun other => if other.id = row.id then other.revoke now else other := by
  obtain ⟨found, here, same⟩ := present
  have read : pass.entitlements.get row.id = some found := Table.get_eq_some.mpr ⟨here, same⟩
  simp only [expireGrant, read, revokeGrant, Table.revise, same]

/-- Rows keep their ids, so a batch revokes the rows it names and no other. -/
theorem expireGrants_rows {batch : List GrantRow} {pass : ExpiryPass}
    (present : ∀ row ∈ batch, ∃ found ∈ pass.entitlements.rows, found.id = row.id) :
    (batch.foldl (expireGrant now) pass).entitlements.rows =
      pass.entitlements.rows.map fun other =>
        if other.id ∈ batch.map GrantRow.id then other.revoke now else other := by
  induction batch generalizing pass with
  | nil => simp
  | cons row batch ih =>
      have first : (expireGrant now pass row).entitlements.rows = _ :=
        expireGrant_rows (present row List.mem_cons_self)
      rw [List.foldl_cons, ih, first, List.map_map]
      · apply List.map_congr_left
        intro other _
        by_cases same : other.id = row.id
        · simp [same, GrantRow.revoke]
        · simp [same]
      · intro next member
        obtain ⟨found, here, same⟩ := present next (List.mem_cons_of_mem _ member)
        rw [first]
        refine ⟨_, List.mem_map_of_mem here, ?_⟩
        split
        · exact same
        · exact same

theorem expireEntitlements_rows (now : Int) (entitlements : Table GrantRow)
    (outboxEvents : List OutboxEvent) :
    (expireEntitlements now entitlements outboxEvents).1.entitlements.rows =
      entitlements.rows.map (GrantRow.expired now) := by
  rw [expireEntitlements, expireGrants_rows]
  · apply List.map_congr_left
    intro row here
    have named : row.id ∈ (entitlements.rows.filter (GrantRow.lapsed now)).map GrantRow.id ↔
        row.lapsed now := by
      constructor
      · intro member
        obtain ⟨other, chosen, same⟩ := List.mem_map.mp member
        obtain ⟨there, lapsed⟩ := List.mem_filter.mp chosen
        rwa [← entitlements.eq_of_id there here same]
      · intro lapsed
        exact List.mem_map_of_mem (List.mem_filter.mpr ⟨here, lapsed⟩)
    simp only [named, GrantRow.expired]
  · intro row member
    exact ⟨row, (List.mem_filter.mp member).1, rfl⟩

/-- A pass leaves the grants that resolution looks at, one for one. -/
theorem expired_active (rows : List GrantRow) (after : now ≤ later) (chosen : GrantRow → Bool) :
    (((rows.map (GrantRow.expired now)).filter chosen).map (·.entitlement.grant)).filter
        (·.isActive later) =
      ((rows.filter chosen).map (·.entitlement.grant)).filter (·.isActive later) := by
  induction rows with
  | nil => rfl
  | cons row rest ih =>
      -- Either the pass leaves the row, or resolution skips it before and after.
      cases lapsed : row.lapsed now with
      | false =>
          have same : row.expired now = row := if_neg (by simp [lapsed])
          rw [List.map_cons, same, List.filter_cons, List.filter_cons]
          split
          · rw [List.map_cons, List.map_cons, List.filter_cons, List.filter_cons, ih]
          · exact ih
      | true =>
          have changed : row.expired now = row.revoke now := if_pos lapsed
          have before := lapsed_inactive lapsed after
          have afterwards : (row.revoke now).entitlement.grant.isActive later = false :=
            revoked_inactive row
          rw [List.map_cons, changed, List.filter_cons, List.filter_cons]
          split <;> split <;>
            simp only [List.map_cons, List.filter_cons, before, afterwards, Bool.false_eq_true,
              if_false, ih]

/-- Resolution reads its grants through the window test alone. -/
theorem resolveEffective_congr {first second : List EntitlementGrant} (inputs : EntitlementInputs)
    (same : first.filter (·.isActive inputs.now) = second.filter (·.isActive inputs.now)) :
    resolveEffective { inputs with grants := first } =
      resolveEffective { inputs with grants := second } := by
  simp only [resolveEffective, same]
  rfl

/-- Marking lapsed grants revoked changes no resolution from then on, and no grant that is
active is revoked. -/
theorem expiry_changes_nothing (entitlements : Table GrantRow) (outboxEvents : List OutboxEvent)
    (now : Int) :
    let expired := (expireEntitlements now entitlements outboxEvents).1.entitlements
    (∀ inputs : EntitlementInputs, now ≤ inputs.now →
      resolveEffective { inputs with grants := allGrants expired } =
        resolveEffective { inputs with grants := allGrants entitlements } ∧
      ∀ organization,
        resolveEffective { inputs with grants := grantsOf expired organization } =
          resolveEffective { inputs with grants := grantsOf entitlements organization }) ∧
    ∀ row ∈ entitlements.rows, row.entitlement.grant.isActive now → row ∈ expired.rows := by
  intro expired
  have rows : expired.rows = entitlements.rows.map (GrantRow.expired now) :=
    expireEntitlements_rows now entitlements outboxEvents
  refine ⟨fun inputs after => ⟨?_, fun organization => ?_⟩, ?_⟩
  · apply resolveEffective_congr
    have same := expired_active entitlements.rows after fun _ => true
    simp only [List.filter_true] at same
    rw [allGrants, rows, same, allGrants]
  · apply resolveEffective_congr
    rw [grantsOf, rows, expired_active entitlements.rows after, grantsOf]
  · intro row here active
    rw [rows]
    refine List.mem_map.mpr ⟨row, here, if_neg ?_⟩
    intro lapsed
    rw [lapsed_inactive lapsed le_rfl] at active
    cases active

def boundaryGrants : Table GrantRow :=
  ⟨[⟨0, ⟨3, "exports", "trial", true, 10, some 40, some 500, none⟩⟩], 1, by decide⟩

def boundaryInputs (grants : List EntitlementGrant) : EntitlementInputs :=
  { organizationId := 3, now := 40, planKey := none, subscriptionStatus := none, planFeatures := [],
    planLimits := [], grants, metricOverage := [], graceOnPastDue := true }

/-- The job runs in the instant in which a grant ends, and revokes it. -/
theorem boundary_grant_revoked :
    let expired := (expireEntitlements 40 boundaryGrants []).1.entitlements
    expired.rows ≠ boundaryGrants.rows ∧
      resolveEffective (boundaryInputs (grantsOf expired 3)) =
        resolveEffective (boundaryInputs (grantsOf boundaryGrants 3)) :=
  ⟨by decide,
    ((expiry_changes_nothing boundaryGrants [] 40).1 (boundaryInputs []) (by decide)).2 3⟩

end SynapseSaas
