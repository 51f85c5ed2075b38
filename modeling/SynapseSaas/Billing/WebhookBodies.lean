import SynapseSaas.Billing.Webhooks

/-! The bodies of the providers' webhooks, what verification reads from one, and
the normalized events its provider's client translates it to.

A body is the JSON object after parsing: a key that is missing is `none`. -/

set_option autoImplicit false

namespace SynapseSaas

inductive ProviderName where
  | manual | stripe | paddle | xendit | paymongo
  deriving DecidableEq, Repr

def ProviderName.name : ProviderName → String
  | .manual => "manual"
  | .stripe => "stripe"
  | .paddle => "paddle"
  | .xendit => "xendit"
  | .paymongo => "paymongo"

/-- The metadata of a checkout as the provider carries it back. -/
structure Metadata where
  planKey : Option String := none
  orgId : Option String := none
  currency : Option String := none
  deriving DecidableEq, Repr

structure ManualData where
  subscriptionId : Option String := none
  customerId : Option String := none
  planKey : Option String := none
  status : Option String := none
  amountCents : Option Int := none
  currency : Option String := none
  deriving DecidableEq, Repr

structure ManualBody where
  id : Option String := none
  type : Option String := none
  data : ManualData := {}
  deriving DecidableEq, Repr

/-- `data.object` of a Stripe event. -/
structure StripeObject where
  id : Option String := none
  customer : Option String := none
  subscription : Option String := none
  metadata : Metadata := {}
  status : Option String := none
  currentPeriodEnd : Option Int := none
  amountPaid : Option Int := none
  amountDue : Option Int := none
  currency : Option String := none
  hostedInvoiceUrl : Option String := none
  deriving DecidableEq, Repr

structure StripeBody where
  id : Option String := none
  type : Option String := none
  created : Option Int := none
  object : StripeObject := {}
  deriving DecidableEq, Repr

structure PaddleData where
  id : Option String := none
  customerId : Option String := none
  subscriptionId : Option String := none
  customData : Metadata := {}
  status : Option String := none
  total : Option Int := none             -- `totals.total`
  currencyCode : Option String := none
  deriving DecidableEq, Repr

structure PaddleBody where
  eventId : Option String := none
  eventType : Option String := none
  data : PaddleData := {}
  deriving DecidableEq, Repr

/-- A decimal number as its text spells it: `units / 10 ^ places`. -/
structure Decimal where
  units : Int
  places : Nat
  deriving DecidableEq, Repr

/-- A Xendit callback is the invoice it reports, with its new status. -/
structure XenditBody where
  id : Option String := none
  status : Option String := none
  externalId : Option String := none
  customerId : Option String := none
  amount : Option Decimal := none
  currency : Option String := none
  created : Option String := none
  invoiceUrl : Option String := none
  deriving DecidableEq, Repr

/-- `data.attributes` of a PayMongo event. -/
structure PaymongoAttributes where
  type : Option String := none
  lineItems : List (Option Int) := []    -- the `amount` of each
  amount : Option Int := none
  metadata : Metadata := {}
  deriving DecidableEq, Repr

structure PaymongoBody where
  id : Option String := none
  type : Option String := none
  attributes : PaymongoAttributes := {}
  deriving DecidableEq, Repr

/-- What each provider sends. -/
abbrev ProviderName.Body : ProviderName → Type
  | .manual => ManualBody
  | .stripe => StripeBody
  | .paddle => PaddleBody
  | .xendit => XenditBody
  | .paymongo => PaymongoBody

/-! ### Verification -/

/-- A request to a webhook route: whether its headers authenticate these bytes
for the provider (a signature within its tolerance, or the shared token), and
what the bytes parse to. -/
structure WebhookRequest (provider : ProviderName) where
  authentic : Bool
  body : Option provider.Body

structure Verified (provider : ProviderName) where
  providerEventId : String
  eventType : String
  parsed : provider.Body
  receivedAt : Int

/-- `str(parsed.get(key) or fallback)`. -/
def orElse (value : Option String) (fallback : String) : String := (present value).getD fallback

namespace ProviderName

/-- The refusal of a request whose headers do not authenticate it. -/
def mismatch : ProviderName → String
  | manual => "Missing or invalid manual webhook token"
  | stripe => "Stripe webhook signature mismatch"
  | paddle => "Paddle webhook signature mismatch"
  | xendit => "Missing or invalid X-Callback-Token"
  | paymongo => "PayMongo webhook signature mismatch"

def malformed : ProviderName → String
  | manual => "Malformed manual webhook body"
  | stripe => "Malformed Stripe webhook body"
  | paddle => "Malformed Paddle webhook body"
  | xendit => "Malformed Xendit webhook body"
  | paymongo => "Malformed PayMongo webhook body"

/-- The id verification files a body under; `token` is `secrets.token_hex(8)`. -/
def eventId (token : String) : (provider : ProviderName) → provider.Body → String
  | manual, body => orElse body.id ("manual_" ++ token)
  | stripe, body => body.id.getD ""
  | paddle, body => orElse body.eventId ("paddle_" ++ token)
  | xendit, body => orElse body.id ("xendit_" ++ token)
  | paymongo, body => orElse body.id ("paymongo_" ++ token)

def eventType : (provider : ProviderName) → provider.Body → String
  | manual, body => body.type.getD "manual.event"
  | stripe, body => body.type.getD ""
  | paddle, body => body.eventType.getD ""
  | xendit, body => body.status.getD ""
  | paymongo, body => body.type.getD (body.attributes.type.getD "")

def verifyWebhook (provider : ProviderName) (now : Int) (token : String)
    (request : WebhookRequest provider) : Result (Verified provider) := do
  match request.authentic, request.body with
  | true, some body =>
      return {
        providerEventId := provider.eventId token body
        eventType := provider.eventType body
        parsed := body
        receivedAt := now }
  | true, none => raise .webhookSignatureInvalid provider.malformed
  | false, body =>
      -- Paddle parses the body before it looks at the signature.
      if provider = paddle ∧ body.isNone then raise .webhookSignatureInvalid provider.malformed
      else raise .webhookSignatureInvalid provider.mismatch

end ProviderName

/-! ### Translation -/

/-- `datetime.fromtimestamp(seconds, tz=UTC)`: the years 1 to 9999. -/
def fromTimestamp (seconds : Int) : Except String Int :=
  if -62135596800 ≤ seconds ∧ seconds ≤ 253402300799 then .ok (seconds * second)
  else .error "timestamp out of range"

/-- `part in text`. -/
def occursIn (part text : String) : Bool := decide (part.toList <:+: text.toList)

/-- `(currency or "").upper() or None`; currency codes are ASCII. -/
def upperCurrency (currency : Option String) : Option String :=
  present (some ((present currency).getD "").toUpper)

/-- A number in a boolean position of Python. -/
def nonzero (number : Option Int) : Option Int := number.filter (· ≠ 0)

def manualEvents : List (String × BillingEventType) :=
  [("manual.subscription.activated", .subscriptionActivated),
    ("manual.subscription.canceled", .subscriptionCanceled),
    ("manual.invoice.paid", .invoicePaid)]

def stripeEvents : List (String × BillingEventType) :=
  [("customer.subscription.created", .subscriptionCreated),
    ("customer.subscription.updated", .subscriptionUpdated),
    ("customer.subscription.deleted", .subscriptionCanceled),
    ("invoice.paid", .invoicePaid),
    ("invoice.payment_failed", .invoiceFailed),
    ("checkout.session.completed", .checkoutCompleted)]

/-- `status_map`: the Stripe statuses taken over, each under its own name. -/
def stripeStatuses : List String :=
  ["trialing", "active", "past_due", "canceled", "unpaid", "incomplete"]

def paddleEvents : List (String × BillingEventType) :=
  [("transaction.completed", .checkoutCompleted),
    ("subscription.activated", .subscriptionActivated),
    ("subscription.updated", .subscriptionUpdated),
    ("subscription.canceled", .subscriptionCanceled),
    ("subscription.past_due", .subscriptionPastDue)]

def xenditEvents : List (String × BillingEventType) :=
  [("PAID", .invoicePaid), ("EXPIRED", .invoiceFailed)]

def paymongoEvents : List (String × BillingEventType) :=
  [("checkout_session.completed", .checkoutCompleted),
    ("payment.paid", .invoicePaid),
    ("payment.failed", .other "payment.failed")]

/-- `minor_units`: major units to cents, halves away from zero. -/
def Decimal.minorUnits (amount : Decimal) : Int :=
  Rounding.divHalfUp (amount.units * 100) (10 ^ amount.places)

/-- `int(text)` of an optional sign and ASCII digits. -/
def intOfDigits (text : List Char) : Option Int :=
  let value (digits : List Char) : Option Int :=
    if digits ≠ [] ∧ digits.all Char.isDigit then
      some (digits.foldl (fun number digit => 10 * number + (digit.toNat - 48)) 0)
    else none
  match text with
  | '-' :: digits => (value digits).map Neg.neg
  | digits => value digits

/-- When a Stripe event was created; `now` in whole seconds if it does not say. -/
def StripeBody.occurredAt (body : StripeBody) (now : Int) : Except String Int :=
  fromTimestamp (body.created.getD (now / second))

/-- When a Xendit invoice was created, if its text is digits and dashes only. -/
def XenditBody.occurredAt (body : XenditBody) (now : Int) : Except String Int :=
  match present body.created with
  | none => .ok now
  | some text =>
      let digits := text.toList.filter (· ≠ '-')
      if digits ≠ [] ∧ digits.all Char.isDigit then
        match intOfDigits (text.toList.take 10) with
        | some seconds => fromTimestamp seconds
        | none => .error ("invalid literal for int() with base 10: " ++
            quoted (String.ofList (text.toList.take 10)))
      else .ok now

/-- The first amount of a line item that has one, or else the amount itself. -/
def PaymongoAttributes.amountCents (attributes : PaymongoAttributes) : Option Int :=
  attributes.lineItems.findSome? nonzero <|> nonzero attributes.amount

namespace Verified

variable (now : Int) (currency : String)

def translateManual (verified : Verified .manual) : List NormalizedBillingEvent :=
  let data := verified.parsed.data
  match manualEvents.lookup (verified.parsed.type.getD "") with
  | none => []
  | some canonical =>
      [{ eventType := canonical
         occurredAt := verified.receivedAt
         providerSubscriptionId := data.subscriptionId
         providerCustomerId := data.customerId
         planKey := data.planKey
         status := data.status
         amountCents := data.amountCents
         currency := data.currency }]

def translateStripe (verified : Verified .stripe) : Except String (List NormalizedBillingEvent) := do
  let data := verified.parsed.object
  let occurredAt ← verified.parsed.occurredAt now
  match stripeEvents.lookup verified.eventType with
  | none => return []
  | some canonical =>
      let periodEnd ← data.currentPeriodEnd.mapM fromTimestamp
      return [{
        eventType := canonical
        occurredAt := occurredAt
        providerCustomerId := data.customer
        providerSubscriptionId :=
          if occursIn "subscription" verified.eventType then data.id else data.subscription
        providerInvoiceId := if occursIn "invoice" verified.eventType then data.id else none
        planKey := data.metadata.planKey
        status := data.status.filter (· ∈ stripeStatuses)
        currentPeriodEnd := periodEnd
        amountCents := nonzero data.amountPaid <|> data.amountDue
        currency := upperCurrency data.currency
        hostedUrl := data.hostedInvoiceUrl }]

def translatePaddle (verified : Verified .paddle) : List NormalizedBillingEvent :=
  let data := verified.parsed.data
  match paddleEvents.lookup verified.eventType with
  | none => []
  | some canonical =>
      [{ eventType := canonical
         occurredAt := verified.receivedAt
         providerCustomerId := data.customerId
         providerSubscriptionId :=
          if occursIn "subscription" verified.eventType then data.id else data.subscriptionId
         planKey := data.customData.planKey
         status := data.status
         amountCents := data.total
         currency := upperCurrency data.currencyCode }]

def translateXendit (verified : Verified .xendit) : Except String (List NormalizedBillingEvent) := do
  let data := verified.parsed
  match xenditEvents.lookup verified.eventType with
  | none => return []
  | some canonical =>
      let occurredAt ← data.occurredAt now
      return [{
        eventType := canonical
        occurredAt := occurredAt
        providerInvoiceId := data.id
        providerCustomerId := data.customerId
        amountCents := data.amount.map Decimal.minorUnits
        currency := some (data.currency.getD currency)
        hostedUrl := data.invoiceUrl }]

def translatePaymongo (verified : Verified .paymongo) : List NormalizedBillingEvent :=
  let attributes := verified.parsed.attributes
  match paymongoEvents.lookup verified.eventType with
  | none => []
  | some canonical =>
      [{ eventType := canonical
         occurredAt := verified.receivedAt
         planKey := attributes.metadata.planKey
         amountCents := attributes.amountCents
         currency := some (attributes.metadata.currency.getD currency) }]

/-- `translate_webhook`; `currency` is the currency the client was built with. -/
def translateWebhook : {provider : ProviderName} → Verified provider →
    Except String (List NormalizedBillingEvent)
  | .manual, verified => .ok verified.translateManual
  | .stripe, verified => verified.translateStripe now
  | .paddle, verified => .ok verified.translatePaddle
  | .xendit, verified => verified.translateXendit now currency
  | .paymongo, verified => .ok (verified.translatePaymongo currency)

/-- The delivery a verified request is handled as. -/
def webhook {provider : ProviderName} (verified : Verified provider) : VerifiedWebhook where
  providerName := provider.name
  providerEventId := verified.providerEventId
  eventType := verified.eventType
  translated := verified.translateWebhook now currency

end Verified

end SynapseSaas
