import SynapseSaas.Billing.WebhookBodies
import SynapseSaas.Core.PythonText

/-! The signature headers of Stripe and PayMongo. A `v1` may repeat, as it does while a
secret is rotated: the one client keeps the first of them, the other the last. -/

set_option autoImplicit false

namespace SynapseSaas.SignatureHeaders

/-- HMAC-SHA256 of a message under a secret, as the hexadecimal text. -/
abbrev Hmac := List UInt8 → List UInt8 → Text

def WEBHOOK_TOLERANCE_SECONDS : Int := 300

def utf8 (text : String) : List UInt8 := text.toUTF8.data.toList

variable (hmac : Hmac)

def signPayload (payload : List UInt8) (secret : String) (timestamp : Int) : Text :=
  hmac (utf8 secret) (utf8 (toString timestamp ++ ".") ++ payload)

def verifySignature (payload : List UInt8) (secret : String) (timestamp : Int)
    (signature : Text) : Bool :=
  signPayload hmac payload secret timestamp = signature

/-- `part.strip().partition("=")`. -/
def entry (part : Text) : Text × Text := part.strip.partition '='

def timeKey : Text := ['t']
def v1Key : Text := ['v', '1']

/-- The loop of `_parse_stripe_signature` with its two variables. -/
def stripeParts : Option Int → List Text → List Text → Option (Int × Text)
  | timestamp, signatures, [] =>
    match timestamp, signatures with
    | some timestamp, signature :: _ => some (timestamp, signature)
    | _, _ => none
  | timestamp, signatures, part :: rest =>
    let (key, value) := entry part
    if key = timeKey then
      match value.int? with
      | some timestamp => stripeParts (some timestamp) signatures rest
      | none => none
    else if key = v1Key ∧ value ≠ [] then
      stripeParts timestamp (signatures ++ [value]) rest
    else stripeParts timestamp signatures rest

def parseStripeSignature (header : Text) : Option (Int × Text) :=
  stripeParts none [] (header.splitOn ',')

/-- The loop of PayMongo's `verify_webhook` with its two variables. -/
def paymongoParts : Option Int → Option Text → List Text → Option Int × Option Text
  | timestamp, signature, [] => (timestamp, signature)
  | timestamp, signature, part :: rest =>
    let (key, value) := entry part
    if key = timeKey then paymongoParts value.int? signature rest
    else if key = v1Key ∧ value ≠ [] then paymongoParts timestamp (some value) rest
    else paymongoParts timestamp signature rest

/-- The request of a provider that signs; `loads` is what the bytes parse to. -/
structure SignedRequest (provider : ProviderName) where
  header : Text
  body : List UInt8
  loads : List UInt8 → Option provider.Body

/-- Within the tolerance of the clock, which counts microseconds. -/
def Fresh (now timestamp : Int) : Prop :=
  ¬ |now - timestamp * second| > WEBHOOK_TOLERANCE_SECONDS * second

instance (now timestamp : Int) : Decidable (Fresh now timestamp) :=
  inferInstanceAs (Decidable (¬ _))

def invalid {α : Type} (message : String) : Result α := raise .webhookSignatureInvalid message

/-- `StripeBillingProvider.verify_webhook`. -/
def verifyStripe (secret : String) (now : Int) (request : SignedRequest .stripe) :
    Result (Verified .stripe) :=
  match parseStripeSignature request.header with
  | none => invalid "Malformed Stripe-Signature header"
  | some (timestamp, signature) =>
    if ¬ Fresh now timestamp then invalid "Stripe webhook timestamp outside tolerance window"
    else if ¬ verifySignature hmac request.body secret timestamp signature then
      invalid "Stripe webhook signature mismatch"
    else ProviderName.stripe.verifyWebhook now "" ⟨true, request.loads request.body⟩

/-- `PayMongoBillingProvider.verify_webhook`; `token` is `secrets.token_hex(8)`. -/
def verifyPaymongo (secret : String) (now : Int) (token : String)
    (request : SignedRequest .paymongo) : Result (Verified .paymongo) :=
  match paymongoParts none none (request.header.splitOn ',') with
  | (some timestamp, some signature) =>
    if ¬ Fresh now timestamp then invalid "PayMongo webhook timestamp outside tolerance"
    else if ¬ verifySignature hmac request.body secret timestamp signature then
      invalid "PayMongo webhook signature mismatch"
    else ProviderName.paymongo.verifyWebhook now token ⟨true, request.loads request.body⟩
  | _ => invalid "Malformed Paymongo-Signature header"

/-- The errors that refuse a signature; the bodies are parsed after it. -/
def stripeRefusals : List String :=
  ["Malformed Stripe-Signature header", "Stripe webhook timestamp outside tolerance window",
    "Stripe webhook signature mismatch"]

def paymongoRefusals : List String :=
  ["Malformed Paymongo-Signature header", "PayMongo webhook timestamp outside tolerance",
    "PayMongo webhook signature mismatch"]

def Accepted {α : Type} (refusals : List String) (result : Result α) : Prop :=
  ∀ message ∈ refusals, result ≠ invalid message

/-- What the header gives for a key, in its order. -/
def valuesOf (key : Text) (parts : List Text) : List Text :=
  ((parts.map entry).filter fun entry => entry.1 = key).map Prod.snd

def timestamps (header : Text) : List Text := valuesOf timeKey (header.splitOn ',')

def v1Values (header : Text) : List Text := valuesOf v1Key (header.splitOn ',')

/-- If some `v1` is the signature of the body, the first that is not empty is. -/
def FirstMatches (header signature : Text) : Prop :=
  signature ∈ v1Values header → (v1Values header).find? (· ≠ []) = some signature

/-- If some `v1` is the signature of the body, the last that is not empty is. -/
def LastMatches (header signature : Text) : Prop :=
  signature ∈ v1Values header → (v1Values header).reverse.find? (· ≠ []) = some signature

variable {hmac : Hmac}

theorem valuesOf_cons_of_eq {key : Text} {part : Text} (parts : List Text)
    (own : (entry part).1 = key) :
    valuesOf key (part :: parts) = (entry part).2 :: valuesOf key parts := by
  rw [valuesOf, List.map_cons, List.filter_cons_of_pos (by simpa using own), List.map_cons]
  rfl

theorem valuesOf_cons_of_ne {key : Text} {part : Text} (parts : List Text)
    (other : (entry part).1 ≠ key) : valuesOf key (part :: parts) = valuesOf key parts := by
  rw [valuesOf, List.map_cons, List.filter_cons_of_neg (by simpa using other)]
  rfl

theorem key_ne {part : Text} (own : (entry part).1 = timeKey) : (entry part).1 ≠ v1Key := by
  rw [own]
  decide

/-- Where every `t` reads as one number and one was or is to come, the loop ends with that
number and the first `v1` that is not empty. -/
theorem stripeParts_eq {number : Int} {parts : List Text} {timestamp : Option Int}
    {signatures : List Text} (same : ∀ text ∈ valuesOf timeKey parts, text.int? = some number)
    (given : timestamp = some number ∨ valuesOf timeKey parts ≠ [] ∧ timestamp = none) :
    stripeParts timestamp signatures parts =
      (signatures ++ (valuesOf v1Key parts).filter (· ≠ [])).head?.map fun signature =>
        (number, signature) := by
  induction parts generalizing timestamp signatures with
  | nil =>
      obtain rfl | ⟨absent, -⟩ := given
      · cases signatures with
        | nil => rfl
        | cons signature others => rfl
      · exact absurd rfl absent
  | cons part rest ih =>
      rw [stripeParts]
      dsimp only
      by_cases time : (entry part).1 = timeKey
      · rw [valuesOf_cons_of_eq rest time] at same
        obtain ⟨here, later⟩ := List.forall_mem_cons.mp same
        rw [if_pos time, here, valuesOf_cons_of_ne rest (key_ne time)]
        exact ih later (.inl rfl)
      · rw [valuesOf_cons_of_ne rest time] at same given
        rw [if_neg time]
        by_cases own : (entry part).1 = v1Key
        · rw [valuesOf_cons_of_eq rest own]
          by_cases empty : (entry part).2 = []
          · rw [if_neg (fun both => both.2 empty), List.filter_cons_of_neg (by simpa using empty)]
            exact ih same given
          · rw [if_pos ⟨own, empty⟩, ih same given, List.filter_cons_of_pos (by simpa using empty),
              List.append_assoc, List.singleton_append]
        · rw [valuesOf_cons_of_ne rest own, if_neg (fun both => own both.1)]
          exact ih same given

/-- The same for PayMongo's loop, which keeps the last `v1` that is not empty. -/
theorem paymongoParts_eq {number : Int} {parts : List Text} {timestamp : Option Int}
    {signature : Option Text} (same : ∀ text ∈ valuesOf timeKey parts, text.int? = some number)
    (given : timestamp = some number ∨ valuesOf timeKey parts ≠ [] ∧ timestamp = none) :
    paymongoParts timestamp signature parts =
      (some number, ((valuesOf v1Key parts).filter (· ≠ [])).getLast?.or signature) := by
  induction parts generalizing timestamp signature with
  | nil =>
      obtain rfl | ⟨absent, -⟩ := given
      · rw [paymongoParts]
        rfl
      · exact absurd rfl absent
  | cons part rest ih =>
      rw [paymongoParts]
      dsimp only
      by_cases time : (entry part).1 = timeKey
      · rw [valuesOf_cons_of_eq rest time] at same
        obtain ⟨here, later⟩ := List.forall_mem_cons.mp same
        rw [if_pos time, here, valuesOf_cons_of_ne rest (key_ne time)]
        exact ih later (.inl rfl)
      · rw [valuesOf_cons_of_ne rest time] at same given
        rw [if_neg time]
        by_cases own : (entry part).1 = v1Key
        · rw [valuesOf_cons_of_eq rest own]
          by_cases empty : (entry part).2 = []
          · rw [if_neg (fun both => both.2 empty), List.filter_cons_of_neg (by simpa using empty)]
            exact ih same given
          · rw [if_pos ⟨own, empty⟩, ih same given, List.filter_cons_of_pos (by simpa using empty),
              List.getLast?_cons]
            cases ((valuesOf v1Key rest).filter (· ≠ [])).getLast? <;> rfl
        · rw [valuesOf_cons_of_ne rest own, if_neg (fun both => own both.1)]
          exact ih same given

/-- Once the signature has passed, only the body can be refused. -/
theorem verifyWebhook_accepted {provider : ProviderName} {refusals : List String}
    (apart : provider.malformed ∉ refusals) (now : Int) (token : String)
    (body : Option provider.Body) :
    Accepted refusals (provider.verifyWebhook now token ⟨true, body⟩) := by
  intro message listed refused
  cases body with
  | some body => cases refused
  | none =>
      rw [ProviderName.verifyWebhook, invalid, raise, raise] at refused
      injection refused with refused
      injection refused with refused
      injection refused with _ same
      rw [same] at apart
      exact apart listed

theorem refused_of_mem {α : Type} {refusals : List String} {message : String}
    (listed : message ∈ refusals) : ¬ Accepted refusals (invalid message : Result α) :=
  fun accepted => accepted message listed rfl

section

variable {secret : String} {now : Int} {text : Text} {timestamp : Int}

theorem verifyStripe_accepted {request : SignedRequest .stripe}
    (single : timestamps request.header = [text]) (number : text.int? = some timestamp)
    (fresh : Fresh now timestamp) :
    Accepted stripeRefusals (verifyStripe hmac secret now request) ↔
      (v1Values request.header).find? (· ≠ []) =
        some (signPayload hmac request.body secret timestamp) := by
  have read : parseStripeSignature request.header =
      ((v1Values request.header).filter (· ≠ [])).head?.map fun signature =>
        (timestamp, signature) := by
    rw [parseStripeSignature, @stripeParts_eq timestamp]
    · rfl
    · intro other listed
      rw [← timestamps, single, List.mem_singleton] at listed
      rw [listed, number]
    · exact .inr ⟨by rw [← timestamps, single]; exact List.cons_ne_nil _ _, rfl⟩
  rw [← List.head?_filter, verifyStripe, read]
  cases ((v1Values request.header).filter (· ≠ [])).head? with
  | none => exact iff_of_false (refused_of_mem (by simp [stripeRefusals])) nofun
  | some signature =>
      rw [Option.map_some]
      dsimp only
      rw [if_neg (not_not_intro fresh), Option.some.injEq]
      by_cases same : signPayload hmac request.body secret timestamp = signature
      · rw [if_neg (by simpa [verifySignature] using same)]
        exact iff_of_true (verifyWebhook_accepted (by decide) _ _ _) same.symm
      · rw [if_pos (by simpa [verifySignature] using same)]
        exact iff_of_false (refused_of_mem (by simp [stripeRefusals])) (Ne.symm same)

theorem verifyPaymongo_accepted {request : SignedRequest .paymongo} {token : String}
    (single : timestamps request.header = [text]) (number : text.int? = some timestamp)
    (fresh : Fresh now timestamp) :
    Accepted paymongoRefusals (verifyPaymongo hmac secret now token request) ↔
      (v1Values request.header).reverse.find? (· ≠ []) =
        some (signPayload hmac request.body secret timestamp) := by
  have read : paymongoParts none none (request.header.splitOn ',') =
      (some timestamp, ((v1Values request.header).filter (· ≠ [])).getLast?) := by
    rw [@paymongoParts_eq timestamp, Option.or_none]
    · rfl
    · intro other listed
      rw [← timestamps, single, List.mem_singleton] at listed
      rw [listed, number]
    · exact .inr ⟨by rw [← timestamps, single]; exact List.cons_ne_nil _ _, rfl⟩
  rw [← List.head?_filter, List.filter_reverse, List.head?_reverse, verifyPaymongo, read]
  cases ((v1Values request.header).filter (· ≠ [])).getLast? with
  | none => exact iff_of_false (refused_of_mem (by simp [paymongoRefusals])) nofun
  | some signature =>
      dsimp only
      rw [if_neg (not_not_intro fresh), Option.some.injEq]
      by_cases same : signPayload hmac request.body secret timestamp = signature
      · rw [if_neg (by simpa [verifySignature] using same)]
        exact iff_of_true (verifyWebhook_accepted (by decide) _ _ _) same.symm
      · rw [if_pos (by simpa [verifySignature] using same)]
        exact iff_of_false (refused_of_mem (by simp [paymongoRefusals])) (Ne.symm same)

end

/-- Where only what is held is chosen, the two agree exactly if what is held is chosen. -/
theorem iff_iff_back {chosen held : Prop} (only : chosen → held) :
    (chosen ↔ held) ↔ (held → chosen) :=
  ⟨Iff.mpr, fun back => ⟨only, back⟩⟩

/-- With one fresh `t`, Stripe's client accepts what some `v1` signs exactly if the first
`v1` that is not empty does whenever any does, PayMongo's exactly if the last does. -/
theorem accepted_iff_some_v1_iff (hmac : Hmac) (secret : String) (now : Int) (token : String)
    (header : Text) (body : List UInt8) (loadsStripe : List UInt8 → Option StripeBody)
    (loadsPaymongo : List UInt8 → Option PaymongoBody) (text : Text) (timestamp : Int)
    (single : timestamps header = [text]) (number : text.int? = some timestamp)
    (fresh : Fresh now timestamp) :
    ((Accepted stripeRefusals (verifyStripe hmac secret now ⟨header, body, loadsStripe⟩) ↔
        signPayload hmac body secret timestamp ∈ v1Values header) ↔
      FirstMatches header (signPayload hmac body secret timestamp)) ∧
    ((Accepted paymongoRefusals
        (verifyPaymongo hmac secret now token ⟨header, body, loadsPaymongo⟩) ↔
        signPayload hmac body secret timestamp ∈ v1Values header) ↔
      LastMatches header (signPayload hmac body secret timestamp)) := by
  constructor
  · rw [verifyStripe_accepted single number fresh]
    exact iff_iff_back fun found => List.mem_of_find?_eq_some found
  · rw [verifyPaymongo_accepted single number fresh]
    exact iff_iff_back fun found => List.mem_reverse.mp (List.mem_of_find?_eq_some found)

/-- A function in the place of HMAC that tells two secrets apart. -/
def sampleHmac : Hmac :=
  fun secret _ => if secret = utf8 "whsec_new" then "b7".toList else "a3".toList

theorem accepted_iff_some_v1_iff_single :
    ((Accepted stripeRefusals (verifyStripe sampleHmac "whsec_new" (1700000000 * second)
          ⟨"t=1700000000,v0=x,v1=b7".toList, [], fun _ => none⟩) ↔
        signPayload sampleHmac [] "whsec_new" 1700000000 ∈
          v1Values "t=1700000000,v0=x,v1=b7".toList) ↔
      FirstMatches "t=1700000000,v0=x,v1=b7".toList
        (signPayload sampleHmac [] "whsec_new" 1700000000)) ∧
    ((Accepted paymongoRefusals (verifyPaymongo sampleHmac "whsec_new" (1700000000 * second) ""
          ⟨"t=1700000000,v0=x,v1=b7".toList, [], fun _ => none⟩) ↔
        signPayload sampleHmac [] "whsec_new" 1700000000 ∈
          v1Values "t=1700000000,v0=x,v1=b7".toList) ↔
      LastMatches "t=1700000000,v0=x,v1=b7".toList
        (signPayload sampleHmac [] "whsec_new" 1700000000)) :=
  accepted_iff_some_v1_iff sampleHmac "whsec_new" (1700000000 * second) ""
    "t=1700000000,v0=x,v1=b7".toList [] (fun _ => none) (fun _ => none) "1700000000".toList
    1700000000 (by decide) (by decide) (by decide)

/-- While a secret is rotated, the signature under the current one comes second for
Stripe's client, or first for PayMongo's, and is refused. -/
theorem rotation_refused :
    ¬ (Accepted stripeRefusals (verifyStripe sampleHmac "whsec_new" (1700000000 * second)
          ⟨"t=1700000000,v1=a3,v1=b7".toList, [], fun _ => none⟩) ↔
        signPayload sampleHmac [] "whsec_new" 1700000000 ∈
          v1Values "t=1700000000,v1=a3,v1=b7".toList) ∧
    ¬ (Accepted paymongoRefusals (verifyPaymongo sampleHmac "whsec_new" (1700000000 * second) ""
          ⟨"t=1700000000,v1=b7,v1=a3".toList, [], fun _ => none⟩) ↔
        signPayload sampleHmac [] "whsec_new" 1700000000 ∈
          v1Values "t=1700000000,v1=b7,v1=a3".toList) := by
  have number : Text.int? "1700000000".toList = some 1700000000 := by decide
  rw [verifyStripe_accepted (by decide) number (by decide),
    verifyPaymongo_accepted (by decide) number (by decide)]
  decide +kernel

end SynapseSaas.SignatureHeaders
