import SynapseSaas.Billing.WebhookBodies

/-! Starting a checkout: what each provider's API is asked to sell, what it gives
back, and the webhook by which it reports the sale as paid. -/

set_option autoImplicit false

namespace SynapseSaas

structure CreateCheckoutRequest where
  planKey : String
  planName : String
  priceCents : Int
  currency : String
  interval : String
  providerCustomerId : Option String
  successUrl : Option String
  cancelUrl : Option String
  organizationId : Nat
  deriving DecidableEq, Repr

structure CheckoutResult where
  url : Option String
  provider : String
  providerCheckoutId : Option String
  manualInstructions : Option String := none
  deriving DecidableEq, Repr

/-- The body posted to a provider's API; a key it lacks is `none`. -/
structure CheckoutPost where
  path : String
  amount : Decimal
  currency : String
  description : String
  interval : Option String := none
  metadata : Metadata := {}
  externalId : Option String := none
  customer : Option String := none
  successUrl : Option String := none
  cancelUrl : Option String := none
  deriving DecidableEq, Repr

/-- What is read from the API's answer. -/
structure CheckoutAnswer where
  id : Option String
  url : Option String
  deriving DecidableEq, Repr

/-- `str.lower` of a currency code, which is ASCII. -/
def lowerCurrency (currency : String) : String := currency.toLower

/-- Digits in groups of three. -/
def thousands (number : Nat) : String :=
  if number < 1000 then toString number
  else
    let rest := toString (number % 1000)
    thousands (number / 1000) ++ "," ++ String.ofList (List.replicate (3 - rest.length) '0') ++ rest

def formatMoney (cents : Int) (currency : String) : String :=
  let symbol := ([("PHP", "₱"), ("USD", "$"), ("EUR", "€")].lookup currency).getD (currency ++ " ")
  let sign := if cents < 0 then "-" else ""
  let rest := toString (cents.natAbs % 100)
  symbol ++ sign ++ thousands (cents.natAbs / 100) ++ "." ++
    (if rest.length < 2 then "0" else "") ++ rest

namespace CreateCheckoutRequest

variable (request : CreateCheckoutRequest)

def metadata : Metadata :=
  { planKey := some request.planKey, orgId := some (toString request.organizationId) }

def manualInstructions : String :=
  "Confirm the " ++ request.planName ++ " plan (" ++
    formatMoney request.priceCents request.currency ++ "/" ++ request.interval ++ "). " ++
    "No payment provider is configured; the subscription activates immediately " ++
    "and invoices are recorded by the system."

def stripePost : CheckoutPost :=
  { path := "/checkout/sessions"
    amount := ⟨request.priceCents, 0⟩
    currency := lowerCurrency request.currency
    description := request.planName
    interval := some request.interval
    metadata := request.metadata
    customer := present request.providerCustomerId
    successUrl := present request.successUrl
    cancelUrl := present request.cancelUrl }

def paddlePost : CheckoutPost :=
  { path := "/transactions"
    amount := ⟨request.priceCents, 0⟩
    currency := lowerCurrency request.currency
    description := request.planName
    metadata := request.metadata }

def xenditPost (token : String) : CheckoutPost :=
  { path := "/invoices"
    amount := ⟨request.priceCents, 2⟩     -- major units
    currency := request.currency
    description := request.planName ++ " (" ++ request.interval ++ "ly)"
    externalId := some ("synapse_" ++ request.planKey ++ "_" ++ token)
    successUrl := request.successUrl
    cancelUrl := request.cancelUrl }

def paymongoPost : CheckoutPost :=
  { path := "/checkout_sessions"
    amount := ⟨request.priceCents, 0⟩
    currency := request.currency
    description := request.planName
    metadata := request.metadata }

end CreateCheckoutRequest

/-- A key the client indexes rather than gets. -/
def required (value : Option String) : Result String :=
  match value with
  | some text => .ok text
  | none => .error (.other .unreadable)

namespace ProviderName

/-- The client of a provider over what its API answers. -/
def client (api : BillingApi) : ProviderName → Provider
  | manual => manualProvider api
  | stripe => stripeProvider api
  | paddle => paddleProvider api
  | xendit => xenditProvider api
  | paymongo => paymongoProvider api

theorem client_name (api : BillingApi) (provider : ProviderName) :
    (provider.client api).name = provider.name := by
  cases provider <;> rfl

/-- `create_checkout`; `sell` is what the API answers to a post. -/
def createCheckout (token : String) (sell : CheckoutPost → ApiResponse CheckoutAnswer)
    (request : CreateCheckoutRequest) : ProviderName → Result CheckoutResult
  | manual =>
      .ok { url := none, provider := "manual", providerCheckoutId := some ("manualco_" ++ token)
            manualInstructions := some request.manualInstructions }
  | stripe => do
      let answer ← jsonRequest "Stripe" (sell request.stripePost)
      let id ← required answer.id
      return { url := answer.url, provider := "stripe", providerCheckoutId := some id }
  | paddle => do
      let answer ← textRequest "Paddle" (sell request.paddlePost)
      return { url := answer.url, provider := "paddle"
               providerCheckoutId := some (answer.id.getD "") }
  | xendit => do
      let answer ← textRequest "Xendit" (sell (request.xenditPost token))
      return { url := answer.url, provider := "xendit", providerCheckoutId := answer.id }
  | paymongo => do
      let answer ← textRequest "PayMongo" (sell request.paymongoPost)
      let id ← required answer.id
      return { url := answer.url, provider := "paymongo", providerCheckoutId := some id }

end ProviderName

namespace BillingService

def checkoutRequest (customer : BillingCustomer) (organization : Organization) (plan : Plan)
    (successUrl cancelUrl : Option String) : CreateCheckoutRequest where
  planKey := plan.key
  planName := plan.name
  priceCents := plan.priceCents.getD 0
  currency := plan.currency
  interval := (plan.interval.map Interval.name).getD "month"
  providerCustomerId := customer.providerCustomerId
  successUrl := successUrl
  cancelUrl := cancelUrl
  organizationId := organization.id

/-- Create a checkout with the provider. -/
def startCheckout (env : Env) (provider : ProviderName) (api : BillingApi)
    (sell : CheckoutPost → ApiResponse CheckoutAnswer) (db : Db) (organization : Organization)
    (plan : Plan) (successUrl cancelUrl : Option String) (contactUser : Option User) :
    Result (BillingCustomer × CheckoutResult × Db) := do
  let (customer, db) ← ensureCustomer env (provider.client api) db organization contactUser
  let result ← provider.createCheckout api.token sell
    (checkoutRequest customer organization plan successUrl cancelUrl)
  return (customer, result, db)

end BillingService

/-- An instant `datetime` can hold, in seconds. -/
def Datable (seconds : Int) : Prop := -62135596800 ≤ seconds ∧ seconds ≤ 253402300799

instance (seconds : Int) : Decidable (Datable seconds) := inferInstanceAs (Decidable (_ ∧ _))

/-- Every timestamp of the body can be read; one it leaves out is the present. -/
def StripeBody.Readable (body : StripeBody) (now : Int) : Prop :=
  Datable (body.created.getD (now / second)) ∧
    ∀ seconds, body.object.currentPeriodEnd = some seconds → Datable seconds

/-- The webhook reports the checkout as paid: it carries back what the request
sent and the answer gave. What neither did, the provider sets as it likes. -/
def ProviderName.Reports (now : Int) (request : CreateCheckoutRequest) (result : CheckoutResult) :
    (provider : ProviderName) → Verified provider → Prop
  | .manual, verified =>
      verified.parsed.type = some "manual.subscription.activated" ∧
        verified.parsed.data.planKey = some request.planKey
  | .stripe, verified =>
      verified.eventType = "checkout.session.completed" ∧ verified.parsed.Readable now ∧
        verified.parsed.object.id = result.providerCheckoutId ∧
        verified.parsed.object.metadata = request.metadata ∧
        ∀ customer, present request.providerCustomerId = some customer →
          verified.parsed.object.customer = some customer
  | .paddle, verified =>
      verified.eventType = "transaction.completed" ∧
        verified.parsed.data.id = result.providerCheckoutId ∧
        verified.parsed.data.customData = request.metadata
  | .xendit, verified =>
      verified.eventType = "PAID" ∧ verified.parsed.id = result.providerCheckoutId ∧
        ∃ token, verified.parsed.externalId = (request.xenditPost token).externalId
  | .paymongo, verified => verified.parsed.attributes.metadata = request.metadata

end SynapseSaas
