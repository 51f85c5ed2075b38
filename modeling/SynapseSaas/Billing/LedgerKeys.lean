import SynapseSaas.Billing.WebhookBodies

/-! Which webhook bodies the ledger can tell apart, and recognize when they are
delivered again.

What a body reports is its occurrence. A provider's event id names one of its
events; the id of a Xendit callback names an invoice, so there the status tells
which occurrence of the invoice it is. -/

set_option autoImplicit false

namespace SynapseSaas

variable {Occurrence : Type} {provider : ProviderName}

namespace ProviderName

/-- The id the provider assigned, if the body carries one. -/
def assigned : (provider : ProviderName) → provider.Body → Option String
  | manual, body => present body.id
  | stripe, body => present body.id
  | paddle, body => present body.eventId
  | xendit, body => present body.id
  | paymongo, body => present body.id

/-- An assigned id stands for one occurrence, at Xendit for one of each status. -/
def Assigns (provider : ProviderName) (occurrence : provider.Body → Occurrence) : Prop :=
  ∀ first second id, provider.assigned first = some id → provider.assigned second = some id →
    (occurrence first = occurrence second ↔
      (provider = xendit → provider.eventType first = provider.eventType second))

/-- Accepted deliveries of these bodies, whenever they are made. -/
def VerifiedAs (provider : ProviderName) (body : provider.Body) (id : String) : Prop :=
  ∃ now token verified, provider.verifyWebhook now token ⟨true, some body⟩ = .ok verified ∧
    verified.providerEventId = id

/-- A body delivered again gets the id it had. -/
def Recognizes (provider : ProviderName) (body : provider.Body) : Prop :=
  ∀ id id', provider.VerifiedAs body id → provider.VerifiedAs body id' → id = id'

/-- Bodies that report different occurrences get different ids. -/
def Separates (provider : ProviderName) (occurrence : provider.Body → Occurrence)
    (first second : provider.Body) : Prop :=
  occurrence first ≠ occurrence second →
    ∀ id id', provider.VerifiedAs first id → provider.VerifiedAs second id' → id ≠ id'

/-- The bodies carry what their ids must be made of. A Stripe body without an id
is filed under the empty text; every other one gets a random id. -/
def Carries (provider : ProviderName) (occurrence : provider.Body → Occurrence)
    (first second : provider.Body) : Prop :=
  if provider = stripe then
    occurrence first = occurrence second ∨ (provider.assigned first).isSome ∨
      (provider.assigned second).isSome
  else
    (provider.assigned first).isSome ∧ (provider.assigned second).isSome ∧
      (provider = xendit → provider.assigned first = provider.assigned second →
        provider.eventType first = provider.eventType second)

end ProviderName

/-- What an id falls back to. -/
def ProviderName.fallback (provider : ProviderName) (token : String) : String :=
  if provider = .stripe then "" else provider.name ++ "_" ++ token

theorem present_ne_empty {text : Option String} {value : String} (shown : present text = some value) :
    value ≠ "" := by
  have kept := (Option.filter_eq_some_iff.mp shown).2
  simpa using kept

theorem getD_present (text : Option String) : text.getD "" = (present text).getD "" := by
  cases text with
  | none => rfl
  | some text =>
      by_cases empty : text = ""
      · simp [present, Option.filter, empty]
      · simp [present, Option.filter, empty]

section Ids

variable {body first second : provider.Body} {token : String}

theorem eventId_eq (token : String) (body : provider.Body) :
    provider.eventId token body = (provider.assigned body).getD (provider.fallback token) := by
  cases provider with
  | stripe => exact getD_present body.id
  | manual => rfl
  | paddle => rfl
  | xendit => rfl
  | paymongo => rfl

theorem verifiedAs_iff {id : String} :
    provider.VerifiedAs body id ↔ ∃ token, id = provider.eventId token body := by
  constructor
  · rintro ⟨now, token, verified, accepted, rfl⟩
    cases accepted
    exact ⟨token, rfl⟩
  · rintro ⟨token, rfl⟩
    exact ⟨0, token, _, rfl, rfl⟩

theorem verifiedAs_assigned {id id' : String} (carried : provider.assigned body = some id) :
    provider.VerifiedAs body id' ↔ id' = id := by
  simp [verifiedAs_iff, eventId_eq, carried]

theorem verifiedAs_fallback {id : String} (missing : provider.assigned body = none) :
    provider.VerifiedAs body id ↔ ∃ token, id = provider.fallback token := by
  simp [verifiedAs_iff, eventId_eq, missing]

theorem assigned_ne_empty {id : String} (carried : provider.assigned body = some id) : id ≠ "" := by
  cases provider <;> exact present_ne_empty carried

/-- A random id is not the one another delivery draws. -/
theorem fallback_varies (minted : provider ≠ .stripe) :
    provider.fallback "" ≠ provider.fallback "0" := by
  cases provider with
  | stripe => exact absurd rfl minted
  | manual => decide
  | paddle => decide
  | xendit => decide
  | paymongo => decide

theorem recognizes_iff :
    provider.Recognizes body ↔ provider = .stripe ∨ (provider.assigned body).isSome := by
  cases carried : provider.assigned body with
  | some id =>
      simp only [Option.isSome_some, or_true, iff_true]
      intro left right mine yours
      rw [(verifiedAs_assigned carried).mp mine, (verifiedAs_assigned carried).mp yours]
  | none =>
      simp only [Option.isSome_none, Bool.false_eq_true, or_false]
      constructor
      · intro recognizes
        by_contra minted
        exact fallback_varies minted (recognizes _ _ ((verifiedAs_fallback carried).mpr ⟨_, rfl⟩)
          ((verifiedAs_fallback carried).mpr ⟨_, rfl⟩))
      · rintro rfl left right mine yours
        obtain ⟨_, rfl⟩ := (verifiedAs_fallback carried).mp mine
        obtain ⟨_, rfl⟩ := (verifiedAs_fallback carried).mp yours
        rfl

end Ids

/-- Two accepted bodies are recognized when they come again, and told apart when
they report different occurrences, exactly if they carry what that takes. -/
theorem ledger_keys_iff (provider : ProviderName) (occurrence : provider.Body → Occurrence)
    (assigns : provider.Assigns occurrence) (first second : provider.Body) :
    (provider.Recognizes first ∧ provider.Recognizes second ∧
        provider.Separates occurrence first second) ↔
      provider.Carries occurrence first second := by
  rw [recognizes_iff, recognizes_iff]
  by_cases stripe : provider = .stripe
  · -- Stripe's ids are never random, so only the empty one can be shared.
    subst stripe
    simp only [true_or, true_and, ProviderName.Carries, if_true]
    cases left : ProviderName.stripe.assigned first with
    | some id =>
        simp only [Option.isSome_some, true_or, or_true, iff_true]
        intro differ named other mine yours same
        rw [(verifiedAs_assigned left).mp mine] at same
        cases right : ProviderName.stripe.assigned second with
        | some id' =>
            rw [(verifiedAs_assigned right).mp yours] at same
            exact differ ((assigns first second id left (same ▸ right)).mpr fun xendit => by cases xendit)
        | none =>
            obtain ⟨_, rfl⟩ := (verifiedAs_fallback right).mp yours
            exact assigned_ne_empty left same
    | none =>
        cases right : ProviderName.stripe.assigned second with
        | some id =>
            simp only [Option.isSome_some, or_true, iff_true]
            intro _ named other mine yours same
            obtain ⟨_, rfl⟩ := (verifiedAs_fallback left).mp mine
            rw [(verifiedAs_assigned right).mp yours] at same
            exact assigned_ne_empty right same.symm
        | none =>
            simp only [Option.isSome_none, Bool.false_eq_true, or_false]
            constructor
            · intro separates
              by_contra differ
              exact separates differ "" "" ((verifiedAs_fallback left).mpr ⟨"", rfl⟩)
                ((verifiedAs_fallback right).mpr ⟨"", rfl⟩) rfl
            · intro same differ
              exact absurd same differ
  · simp only [stripe, false_or, ProviderName.Carries, if_false]
    cases left : provider.assigned first with
    | none => simp
    | some id =>
        cases right : provider.assigned second with
        | none => simp
        | some id' =>
            simp only [Option.isSome_some, true_and, Option.some.injEq]
            constructor
            · rintro separates xendit rfl
              by_contra differ
              have distinct : occurrence first ≠ occurrence second := fun same =>
                differ ((assigns first second id left right).mp same xendit)
              exact separates distinct id id ((verifiedAs_assigned left).mpr rfl)
                ((verifiedAs_assigned right).mpr rfl) rfl
            · intro carries differ named other mine yours same
              rw [(verifiedAs_assigned left).mp mine, (verifiedAs_assigned right).mp yours] at same
              subst same
              exact differ ((assigns first second id left right).mpr fun xendit =>
                carries xendit rfl)

/-! A Xendit invoice that expires and is paid after all, and a PayMongo event
without an id of its own. -/

def expiredCallback : XenditBody := { id := some "inv_1", status := some "EXPIRED" }
def paidCallback : XenditBody := { expiredCallback with status := some "PAID" }

/-- Every body of Xendit reports its invoice's status. -/
theorem xendit_assigns :
    ProviderName.xendit.Assigns fun body : XenditBody =>
      (present body.id, body.status.getD "") := by
  intro first second id left right
  have here : present first.id = some id := left
  have there : present second.id = some id := right
  simp only [Prod.mk.injEq, here, there, true_and, ProviderName.eventType, forall_const]

theorem ledger_keys_iff_expired_then_paid :
    (ProviderName.xendit.Recognizes expiredCallback ∧ ProviderName.xendit.Recognizes paidCallback ∧
        ProviderName.xendit.Separates (fun body : XenditBody =>
          (present body.id, body.status.getD "")) expiredCallback paidCallback) ↔
      ProviderName.xendit.Carries (fun body : XenditBody =>
        (present body.id, body.status.getD "")) expiredCallback paidCallback :=
  ledger_keys_iff .xendit _ xendit_assigns expiredCallback paidCallback

/-- The payment is filed under the id of the expiry, and the same PayMongo body
under an id of its own each time. -/
theorem payment_filed_as_expiry :
    (∃ id, ProviderName.xendit.VerifiedAs expiredCallback id ∧
      ProviderName.xendit.VerifiedAs paidCallback id) ∧
    expiredCallback.status ≠ paidCallback.status ∧
    ∃ id id', ProviderName.paymongo.VerifiedAs { type := some "payment.paid" } id ∧
      ProviderName.paymongo.VerifiedAs { type := some "payment.paid" } id' ∧ id ≠ id' :=
  ⟨⟨"inv_1", (verifiedAs_assigned rfl).mpr rfl, (verifiedAs_assigned rfl).mpr rfl⟩, by decide,
    _, _, (verifiedAs_fallback rfl).mpr ⟨"", rfl⟩, (verifiedAs_fallback rfl).mpr ⟨"0", rfl⟩, by decide⟩

end SynapseSaas
