import SynapseSaas.Core.Errors
import SynapseSaas.Core.Settings
import Mathlib.Data.List.Lattice

/-! Billing providers: what each supports, and how its client turns the answers
of its API into results. The API itself is a parameter. -/

set_option autoImplicit false

namespace SynapseSaas

inductive BillingCapability where
  | hostedCheckout | billingPortal | recurringHosted | planSync | webhookSigned | clientConfirm
  deriving DecidableEq, Repr

structure CreateCustomerRequest where
  email : String
  name : Option String
  organizationId : Nat
  currency : String
  deriving DecidableEq, Repr

structure BillingCustomerRef where
  providerCustomerId : String
  email : Option String
  name : Option String
  deriving DecidableEq, Repr

structure ChangePlanRequest where
  planKey : String
  priceCents : Int
  currency : String
  interval : String
  deriving DecidableEq, Repr

structure SubscriptionRef where
  providerSubscriptionId : String
  deriving DecidableEq, Repr

/-- The body of an error answer: JSON with or without a message, or plain text. -/
inductive ErrorBody where
  | json (text : String) (message : Option String)
  | plain (text : String)
  deriving DecidableEq, Repr

def ErrorBody.text : ErrorBody → String
  | .json text _ => text
  | .plain text => text

inductive ApiResponse (α : Type) where
  | ok (value : α)
  | error (status : Nat) (body : ErrorBody)      -- status 400 or above
  | unreachable
  deriving Repr

/-- An answer that says nothing about the request: the service timed out, was
throttling or failed. The same request may succeed later. -/
def ApiResponse.outage {α : Type} : ApiResponse α → Bool
  | .ok _ => false
  | .error status _ => status = 408 ∨ status = 429 ∨ 500 ≤ status
  | .unreachable => true

/-- What the provider's API answers while an operation runs, and the random
token a client without an API mints references from. -/
structure BillingApi where
  token : String
  createCustomer : CreateCustomerRequest → ApiResponse String
  changePlan : String → ChangePlanRequest → ApiResponse String

/-- An API that answers nothing. -/
def noApi : BillingApi := ⟨"", fun _ => .unreachable, fun _ _ => .unreachable⟩

/-- A client that quotes the body of an error answer as text. -/
def textRequest {α : Type} (label : String) : ApiResponse α → Result α
  | .ok value => .ok value
  | .error _ body => raise .billingProvider (label ++ " API error: " ++ body.text)
  | .unreachable => .error (.other .transport)

/-- A client that reads the message out of an error answer's JSON, and fails on
any other body. -/
def jsonRequest {α : Type} (label : String) : ApiResponse α → Result α
  | .ok value => .ok value
  | .error _ (.json text message) =>
      raise .billingProvider (label ++ " API error: " ++ message.getD text)
  | .error _ (.plain _) => .error (.other .unreadable)
  | .unreachable => .error (.other .transport)

structure Provider where
  name : String
  supports : List BillingCapability
  createCustomer : CreateCustomerRequest → Result BillingCustomerRef
  changePlan : String → ChangePlanRequest → Result SubscriptionRef

def CreateCustomerRequest.ref (request : CreateCustomerRequest) (reference : String) :
    BillingCustomerRef :=
  ⟨reference, some request.email, request.name⟩

def manualProvider (api : BillingApi) : Provider where
  name := "manual"
  supports := [.hostedCheckout, .clientConfirm]
  createCustomer request := .ok (request.ref ("manual_" ++ api.token))
  changePlan reference _ := .ok ⟨reference⟩

def stripeProvider (api : BillingApi) : Provider where
  name := "stripe"
  supports := [.hostedCheckout, .billingPortal, .recurringHosted, .planSync, .webhookSigned]
  createCustomer request := request.ref <$> jsonRequest "Stripe" (api.createCustomer request)
  changePlan reference request :=
    SubscriptionRef.mk <$> jsonRequest "Stripe" (api.changePlan reference request)

def paddleProvider (api : BillingApi) : Provider where
  name := "paddle"
  supports := [.hostedCheckout, .webhookSigned]
  createCustomer request := request.ref <$> textRequest "Paddle" (api.createCustomer request)
  changePlan reference _ := .ok ⟨reference⟩

def xenditProvider (api : BillingApi) : Provider where
  name := "xendit"
  supports := [.hostedCheckout, .webhookSigned]
  createCustomer request := request.ref <$> textRequest "Xendit" (api.createCustomer request)
  changePlan reference _ := .ok ⟨reference⟩

def paymongoProvider (api : BillingApi) : Provider where
  name := "paymongo"
  supports := [.hostedCheckout, .webhookSigned]
  createCustomer request := .ok (request.ref ("paymongo_" ++ api.token))
  changePlan reference _ := .ok ⟨reference⟩

def providers (api : BillingApi) : List Provider :=
  [manualProvider api, stripeProvider api, paddleProvider api, xenditProvider api,
    paymongoProvider api]

/-- A provider whose client needs a secret key to be configured. -/
def keyed (settings : Settings) (provider : Provider) (label secret : String) :
    Result Provider :=
  if provider.name ∈ settings.secretKeys then .ok provider
  else raise .billingProviderNotConfigured
    (label ++ " is selected but " ++ secret ++ " is not set")

/-- The provider the settings select. -/
def buildProvider (settings : Settings) (api : BillingApi) : Result Provider :=
  match settings.billingProvider with
  | "manual" => .ok (manualProvider api)
  | "stripe" => keyed settings (stripeProvider api) "Stripe" "SYNAPSE_STRIPE_SECRET_KEY"
  | "xendit" => keyed settings (xenditProvider api) "Xendit" "SYNAPSE_XENDIT_SECRET_KEY"
  | "paymongo" => keyed settings (paymongoProvider api) "PayMongo" "SYNAPSE_PAYMONGO_SECRET_KEY"
  | "paddle" => keyed settings (paddleProvider api) "Paddle" "SYNAPSE_PADDLE_SECRET_KEY"
  | name => raise .billingProviderNotConfigured ("Unknown billing provider '" ++ name ++ "'")

theorem keyed_eq_ok {settings : Settings} {provider built : Provider} {label secret : String}
    (ok : keyed settings provider label secret = .ok built) : built = provider := by
  unfold keyed at ok
  split at ok
  · cases ok
    rfl
  · cases ok

theorem buildProvider_mem {settings : Settings} {api : BillingApi} {provider : Provider}
    (built : buildProvider settings api = .ok provider) : provider ∈ providers api := by
  unfold buildProvider at built
  split at built
  · cases built
    simp [providers]
  · simp [providers, keyed_eq_ok built]
  · simp [providers, keyed_eq_ok built]
  · simp [providers, keyed_eq_ok built]
  · simp [providers, keyed_eq_ok built]
  · cases built

/-- Providers whose recurring charges are issued here: those without `recurringHosted`. -/
def locallyBilledProviderNames : List String :=
  ((providers noApi).filter fun provider =>
    BillingCapability.recurringHosted ∉ provider.supports).map (·.name)

example : locallyBilledProviderNames = ["manual", "paddle", "xendit", "paymongo"] := by decide

end SynapseSaas
