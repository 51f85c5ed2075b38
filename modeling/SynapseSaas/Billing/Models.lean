import SynapseSaas.Core.Time
import SynapseSaas.Core.Errors
import SynapseSaas.Foundation.Table

/-! Customers, invoices with their lines, and the inbound webhook ledger.

The rows of `invoice_lines` are kept in the invoice they belong to. -/

set_option autoImplicit false

namespace SynapseSaas

structure BillingCustomer where
  id : Nat
  organizationId : Nat
  provider : String
  providerCustomerId : Option String
  email : Option String
  name : Option String
  currency : Option String
  deriving DecidableEq, Repr

inductive BillingCustomerKey where
  | organization (id : Nat)
  | providerRef (provider customer : String)
  deriving DecidableEq, Repr

instance : Keyed BillingCustomer where
  Key := BillingCustomerKey
  decEq := inferInstance
  id := BillingCustomer.id
  keys customer := .organization customer.organizationId ::
    match customer.providerCustomerId with
    | some reference => [.providerRef customer.provider reference]
    | none => []

inductive InvoiceStatus where
  | draft | open | paid | void | uncollectible
  deriving DecidableEq, Repr

def InvoiceStatus.name : InvoiceStatus → String
  | .draft => "draft"
  | .open => "open"
  | .paid => "paid"
  | .void => "void"
  | .uncollectible => "uncollectible"

inductive LineKind where
  | plan | overage | credit | custom
  deriving DecidableEq, Repr

/-- The `properties` object of a line, by what wrote it. -/
inductive LineProperties where
  | none
  | overage (unitsOver included overageUnit : Int)
  | adjustment (kind : String) (fromPlan toPlan : Option String)
      (fromPriceCents toPriceCents : Option Int) (createdAt : Int)
  deriving DecidableEq, Repr

structure InvoiceLine where
  kind : LineKind
  description : String
  quantity : Int
  unitAmountCents : Int
  amountCents : Int
  metric : Option String := .none
  properties : LineProperties := .none
  deriving DecidableEq, Repr

/-- `INV-YYYYMM-####`, kept as its month and its running number. -/
structure InvoiceNumber where
  month : Int
  sequence : Nat
  deriving DecidableEq, Repr

/-- Decimal digits, padded with zeros to a width. -/
def padded (width : Nat) (number : Nat) : String :=
  let digits := toString number
  String.ofList (List.replicate (width - digits.length) '0') ++ digits

def InvoiceNumber.render (number : InvoiceNumber) : String :=
  "INV-" ++ padded 4 (number.month / 12).toNat ++ padded 2 (number.month % 12 + 1).toNat ++ "-" ++
    padded 4 number.sequence

structure Invoice where
  id : Nat
  organizationId : Nat
  billingCustomerId : Option Nat := none
  provider : Option String := none
  providerInvoiceId : Option String := none
  number : Option InvoiceNumber := none
  currency : String := "PHP"
  subtotalCents : Int := 0
  taxCents : Int := 0
  totalCents : Int := 0
  status : InvoiceStatus := .draft
  periodStart : Option Int := none
  periodEnd : Option Int := none
  hostedUrl : Option String := none
  issuedAt : Option Int := none
  paidAt : Option Int := none
  createdAt : Int
  lines : List InvoiceLine := []
  deriving DecidableEq, Repr

inductive InvoiceKey where
  | providerRef (provider invoice : String)
  | number (organization : Nat) (number : InvoiceNumber)
  deriving DecidableEq, Repr

def Invoice.providerKeys (invoice : Invoice) : List InvoiceKey :=
  match invoice.provider, invoice.providerInvoiceId with
  | some provider, some reference => [.providerRef provider reference]
  | _, _ => []

def Invoice.numberKeys (invoice : Invoice) : List InvoiceKey :=
  match invoice.number with
  | some number => [.number invoice.organizationId number]
  | none => []

instance : Keyed Invoice where
  Key := InvoiceKey
  decEq := inferInstance
  id := Invoice.id
  keys invoice := invoice.providerKeys ++ invoice.numberKeys

theorem Invoice.providerRef_mem_keys {invoice : Invoice} {provider reference : String} :
    InvoiceKey.providerRef provider reference ∈ Keyed.keys invoice ↔
      invoice.provider = some provider ∧ invoice.providerInvoiceId = some reference := by
  have apart : InvoiceKey.providerRef provider reference ∉ invoice.numberKeys := by
    unfold Invoice.numberKeys
    split <;> simp
  rw [show Keyed.keys invoice = invoice.providerKeys ++ invoice.numberKeys from rfl,
    List.mem_append, or_iff_left apart]
  unfold Invoice.providerKeys
  split
  · next other mine someProvider someReference =>
      simp [someProvider, someReference, eq_comm]
  · next missing =>
      simp only [List.not_mem_nil, false_iff]
      rintro ⟨someProvider, someReference⟩
      exact missing _ _ someProvider someReference

/-- The inbound idempotency ledger: one row per provider event. -/
structure ProviderWebhookEvent where
  id : Nat
  provider : String
  providerEventId : String
  eventType : Option String
  processedAt : Option Int := none
  error : Option String := none
  deriving DecidableEq, Repr

instance : Keyed ProviderWebhookEvent where
  Key := String × String
  decEq := inferInstance
  id := ProviderWebhookEvent.id
  keys event := [(event.provider, event.providerEventId)]

end SynapseSaas
