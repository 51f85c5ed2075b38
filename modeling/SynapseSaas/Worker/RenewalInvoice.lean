import SynapseSaas.Worker.Renewals

/-! What the invoice of a renewal bills. -/

set_option autoImplicit false

namespace SynapseSaas

/-- An invoice a renewal opened for the ended period of a subscription. -/
structure OpenedFor (subscription : Subscription) (invoice : Invoice) : Prop where
  organization : invoice.organizationId = subscription.organizationId
  status : invoice.status = .open
  numbered : invoice.number.isSome
  period : invoice.periodStart.map dateOf = some subscription.billedPeriod

/-- The invoice is the one computed from the database as it stood at the renewal. -/
def ComputedAt (env : Env) (db : Db) (subscription : Subscription) (invoice : Invoice) : Prop :=
  invoice.lines = planLines subscription ++
    overageLines (effectiveForOrg env db subscription.organizationId) db
      subscription.organizationId subscription.billedPeriod ++
    adjustmentLines subscription.pendingAdjustments

instance (env : Env) (db : Db) (subscription : Subscription) (invoice : Invoice) :
    Decidable (ComputedAt env db subscription invoice) :=
  inferInstanceAs (Decidable (_ = _))

def january : Int := Calendar.firstDay 24312

def januarySubscription : Subscription := sampleSubscription (midnight january)

def januaryUsage : List UsageCounter := [⟨1, "api_calls", january, 150⟩]

def onFebruaryFirst : Env := { now := midnight (january + 31) }

/-- A database where the tenant drafted January on the tenth and the usage came
after. -/
def draftedOnTheTenth : Db :=
  { Transaction.commit (sampleDb januarySubscription)
      ((InvoicingService.draftForOrg { now := midnight (january + 9) } (sampleDb januarySubscription)
        1 none).map (·.2)) with
    usageCounters := januaryUsage }

end SynapseSaas
