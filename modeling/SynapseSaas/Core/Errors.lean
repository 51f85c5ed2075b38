import SynapseSaas.Foundation.Outcomes
import Mathlib.Data.List.Basic

/-! The errors services raise, and the result of a request.

A `DomainError` is a deterministic business rejection rendered as a problem
document. Everything else that can escape a service (constraint violations,
lost connections, transport errors of a provider's API) is an outage to the
caller: the request answers 500 and its transaction rolls back.
-/

set_option autoImplicit false

namespace SynapseSaas

/-- JSON values as event payloads and problem extras carry them. -/
inductive Value where
  | null
  | str (text : String)
  | int (number : Int)
  | list (items : List String)
  deriving DecidableEq, Repr

def Value.ofOption : Option String → Value
  | none => .null
  | some text => .str text

/-- Python's `repr` of a plain string. -/
def quoted (text : String) : String := "'" ++ text ++ "'"

/-- The repr of a list of strings. -/
def quotedList (texts : List String) : String :=
  "[" ++ ", ".intercalate (texts.map quoted) ++ "]"

inductive ErrorClass where
  | subscriptionState | planNotFound | subscriptionNotFound | trialNotAllowed
  | checkoutConfirmNotAllowed | checkoutRequired
  | billingProvider | billingProviderNotConfigured
  | invoiceNotFound | validationFailed
  | unknownMetric | usageLimitExceeded
  | authentication | invalidCredentials | userNotFound
  | tenantNotResolved | organizationSuspended | permissionDenied | apiKeyNotFound
  | organizationNotFound | membershipLimitReached | notAMember | inviteNotFound
  | roleNotFound | systemRoleImmutable | conflict
  | webhookSignatureInvalid
  | storage | tenantViolation | presignUnsupported | uploadIncomplete | notFound
  | rateLimited
  deriving DecidableEq, Repr

def ErrorClass.status : ErrorClass → Nat
  | .subscriptionState | .trialNotAllowed | .checkoutConfirmNotAllowed | .checkoutRequired => 409
  | .billingProviderNotConfigured => 409
  | .planNotFound | .subscriptionNotFound | .invoiceNotFound => 404
  | .billingProvider => 502
  | .validationFailed | .unknownMetric => 422
  | .usageLimitExceeded => 402
  | .authentication | .invalidCredentials => 401
  | .userNotFound | .tenantNotResolved | .apiKeyNotFound => 404
  | .organizationSuspended | .permissionDenied => 403
  | .organizationNotFound | .notAMember | .inviteNotFound | .roleNotFound => 404
  | .membershipLimitReached => 402
  | .systemRoleImmutable | .conflict => 409
  | .webhookSignatureInvalid | .storage => 400
  | .tenantViolation => 403
  | .presignUnsupported | .uploadIncomplete => 409
  | .notFound => 404
  | .rateLimited => 429

def ErrorClass.title : ErrorClass → String
  | .subscriptionState => "invalid_subscription_transition"
  | .planNotFound => "plan_not_found"
  | .subscriptionNotFound => "subscription_not_found"
  | .trialNotAllowed => "trial_not_allowed"
  | .checkoutConfirmNotAllowed => "checkout_confirm_not_allowed"
  | .checkoutRequired => "checkout_required"
  | .billingProvider => "billing_provider_error"
  | .billingProviderNotConfigured => "billing_provider_not_configured"
  | .invoiceNotFound => "invoice_not_found"
  | .validationFailed => "validation_failed"
  | .unknownMetric => "unknown_metric"
  | .usageLimitExceeded => "usage_limit_exceeded"
  | .authentication => "unauthorized"
  | .invalidCredentials => "invalid_credentials"
  | .userNotFound => "user_not_found"
  | .tenantNotResolved => "not_found"
  | .organizationSuspended => "organization_suspended"
  | .permissionDenied => "permission_denied"
  | .apiKeyNotFound => "api_key_not_found"
  | .organizationNotFound | .notAMember => "not_found"
  | .membershipLimitReached => "usage_limit_exceeded"
  | .inviteNotFound => "invite_not_found"
  | .roleNotFound => "role_not_found"
  | .systemRoleImmutable => "system_role_immutable"
  | .conflict => "conflict"
  | .webhookSignatureInvalid => "webhook_signature_invalid"
  | .storage => "storage_error"
  | .tenantViolation => "tenant_violation"
  | .presignUnsupported => "presign_unsupported"
  | .uploadIncomplete => "upload_incomplete"
  | .notFound => "not_found"
  | .rateLimited => "rate_limited"

structure DomainError where
  cls : ErrorClass
  message : String
  extras : List (String × Value) := []
  deriving DecidableEq, Repr

/-- Exceptions that are not domain errors. -/
inductive OtherError where
  | integrity           -- a unique index refused a write
  | multipleResults     -- a lookup of at most one row matched several
  | invalidData         -- a value that its column's type refuses
  | noResult            -- a lookup of exactly one row matched none
  | transport           -- a provider's API could not be reached
  | unreadable          -- a provider's answer could not be decoded
  | outage              -- the database failed under the statement
  deriving DecidableEq, Repr

inductive Failure where
  | domain (error : DomainError)
  | other (error : OtherError)
  deriving DecidableEq, Repr

abbrev Result (α : Type) := Except Failure α

def raise {α : Type} (cls : ErrorClass) (message : String)
    (extras : List (String × Value) := []) : Result α :=
  .error (.domain ⟨cls, message, extras⟩)

@[simp] theorem Result.ok_bind {α β : Type} (value : α) (next : α → Result β) :
    ((.ok value : Result α) >>= next) = next value := rfl

@[simp] theorem Result.error_bind {α β : Type} (failure : Failure) (next : α → Result β) :
    ((.error failure : Result α) >>= next) = .error failure := rfl

/-- A successful sequence is a successful first part and a successful rest. -/
theorem Result.bind_eq_ok {α β : Type} {first : Result α} {next : α → Result β} {result : β} :
    (first >>= next) = .ok result ↔ ∃ value, first = .ok value ∧ next value = .ok result :=
  Outcomes.bind_eq_ok

/-- A result that evaluates to a value with a decidable property. -/
theorem Result.exists_ok {α : Type} {result : Result α} {property : α → Prop}
    [DecidablePred property] (holds : result.toOption.any (fun value => property value)) :
    ∃ value, result = .ok value ∧ property value := by
  cases result with
  | error failure => cases holds
  | ok value => exact ⟨value, rfl, by simpa [Except.toOption] using holds⟩

end SynapseSaas
