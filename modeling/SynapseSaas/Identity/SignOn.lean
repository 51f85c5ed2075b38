import SynapseSaas.Core.PythonText
import SynapseSaas.Foundation.TextEncodings
import SynapseSaas.Identity.LoginState

/-! A single sign-on from its start to the redirect its callback answers with: what the start
was asked to return to lies in the cache, as JSON, until the callback with its state. -/

set_option autoImplicit false

namespace SynapseSaas.Identity

open Tasks (Task)

def dashboard : Text := ['/', 'd', 'a', 's', 'h', 'b', 'o', 'a', 'r', 'd']

/-- A path on the same origin, as the guards of the API and of the console tell one. -/
def ownPath : Option Text → Text
  | none => dashboard
  | some raw =>
      if raw ≠ [] ∧ ['/'] <+: raw ∧ ¬ ['/', '/'] <+: raw then raw else dashboard

def _safe_return_to (raw : Option Text) : Text := ownPath raw

theorem ownPath_slash (raw : Option Text) : ∃ rest, ownPath raw = '/' :: rest := by
  cases raw with
  | none => exact ⟨_, rfl⟩
  | some raw =>
      rw [ownPath]
      split
      · next own =>
          obtain ⟨rest, same⟩ := own.2.1
          exact ⟨rest, same.symm⟩
      · exact ⟨_, rfl⟩

/-- What has passed one guard passes the other unchanged. -/
theorem ownPath_ownPath (raw : Option Text) : ownPath (some (ownPath raw)) = ownPath raw := by
  cases raw with
  | none => rfl
  | some raw =>
      by_cases own : raw ≠ [] ∧ ['/'] <+: raw ∧ ¬ ['/', '/'] <+: raw
      · have same : ownPath (some raw) = raw := if_pos own
        rw [same, same]
      · have same : ownPath (some raw) = dashboard := if_neg own
        rw [same]
        rfl

/-- What is kept of a login between its start and its callback. -/
structure PendingLogin where
  verifier : Text
  nonce : Text
  returnTo : Text
  deriving DecidableEq, Repr

/-- `json.dumps`. -/
def PendingLogin.dumps (pending : PendingLogin) : String :=
  String.ofList (TextEncodings.dumps
    [("verifier".toList, pending.verifier), ("nonce".toList, pending.nonce),
      ("return_to".toList, pending.returnTo)])

/-- `json.loads`, and the members the callback reads; of members with one name the last counts. -/
def PendingLogin.loads (raw : String) : Result PendingLogin := do
  match TextEncodings.loads raw.toList with
  | none => .error (.other .unreadable)
  | some members =>
      let pending := members.reverse
      match pending.lookup "verifier".toList, pending.lookup "nonce".toList,
          pending.lookup "return_to".toList with
      | some verifier, some nonce, some returnTo => return ⟨verifier, nonce, returnTo⟩
      | _, _, _ => .error (.other .unreadable)

theorem PendingLogin.loads_dumps (pending : PendingLogin) :
    PendingLogin.loads pending.dumps = .ok pending := by
  rw [dumps, loads, String.toList_ofList, TextEncodings.loads_dumps]
  rfl

/-- The characters `quote(text, safe="/")` leaves. -/
def quoteKept (char : Char) : Bool := char.isAlphanum ∨ char ∈ ['_', '.', '-', '~', '/']

/-- The characters a `RedirectResponse` leaves of the address it is given. -/
def locationKept (char : Char) : Bool :=
  char.isAlphanum ∨ char ∈ ['_', '.', '-', '~', ':', '/', '%', '#', '?', '=', '@', '[', ']', '!',
    '$', '&', '\'', '(', ')', '*', '+', ',', ';']

/-- The address the callback sends the browser to. -/
def target (webOrigin returnTo : Text) : Text :=
  webOrigin.rdropWhile (· = '/') ++ "/auth/callback?return_to=".toList ++
    TextEncodings.percentEncode quoteKept returnTo

/-- The header of the redirect. -/
def location (webOrigin returnTo : Text) : Text :=
  TextEncodings.percentEncode locationKept (target webOrigin returnTo)

/-- What a request to `oidc_start` comes with, and what is drawn for it. -/
structure StartRequest where
  state : String
  verifier : Text
  nonce : Text
  query : Text
  deriving DecidableEq, Repr

section Start

variable (replaced : List UInt8 → List Char)

/-- A parameter of the query of a request; of parameters with one name the last counts. -/
def queryParam (name query : Text) : Option Text :=
  (TextEncodings.formFields replaced query).reverse.lookup name

namespace StartRequest

variable (request : StartRequest)

def returnTo : Text := _safe_return_to (queryParam replaced "return_to".toList request.query)

def pending : PendingLogin := ⟨request.verifier, request.nonce, request.returnTo replaced⟩

end StartRequest

end Start

/-! The starts and the callbacks share the cache. -/

/-- The cache and, for the record only, the starts that have begun. -/
structure SignOns where
  world : World Unit
  started : List StartRequest

namespace SignOns

def initial : SignOns := ⟨.initial (), []⟩

/-- An operation on the cache. -/
def lift {Answer : Type} (operation : World Unit → Answer × World Unit) (signOns : SignOns) :
    Answer × SignOns :=
  ((operation signOns.world).1, { signOns with world := (operation signOns.world).2 })

def record (request : StartRequest) (signOns : SignOns) : Unit × SignOns :=
  ((), { signOns with started := signOns.started ++ [request] })

def expire (key : String) (signOns : SignOns) : SignOns :=
  { signOns with world := signOns.world.expire key }

end SignOns

def signOnBackend : CacheBackend SignOns where
  get key := SignOns.lift (redisBackend.get key)
  set key value ex := SignOns.lift (redisBackend.set key value ex)
  delete keys := SignOns.lift (redisBackend.delete keys)
  incr key := SignOns.lift (redisBackend.incr key)

section Endpoints

variable (replaced : List UInt8 → List Char) (webOrigin : Text)
  (signIn : OidcReturn → PendingLogin → Result Unit)

/-- `oidc_start`, as far as the cache is concerned. -/
def oidc_start (request : StartRequest) : Task SignOns Unit := do
  .operate (SignOns.record request)
  oidcStart signOnBackend request.state (request.pending replaced).dumps

/-- What follows the check of the state: `signIn` is the exchange of the code, the user it is
linked to and the tokens issued. -/
def finish (returned : OidcReturn) (raw : String) : Result Text := do
  let pending ← PendingLogin.loads raw
  signIn returned pending
  return location webOrigin pending.returnTo

/-- `oidc_callback`, with the header of its redirect. -/
def oidc_callback (returned : OidcReturn) : Task SignOns (Result Text) := do
  let consumed ← oidcCallback signOnBackend returned
  return do
    let raw ← consumed
    finish webOrigin signIn returned raw

inductive SignOnRequest where
  | start (request : StartRequest)
  | callback (returned : OidcReturn)
  deriving DecidableEq

inductive SignOnAnswer where
  | sent
  | answered (result : Result Text)

def serveSignOn : SignOnRequest → Task SignOns SignOnAnswer
  | .start request => do
      oidc_start replaced request
      return .sent
  | .callback returned => do
      let result ← oidc_callback webOrigin signIn returned
      return .answered result

end Endpoints

/-! Every body under a state is what a start with that state has left. -/

/-- What lies in the cache under a state is the pending login of a start with it. -/
def Carried (replaced : List UInt8 → List Char) (signOns : SignOns) : Prop :=
  ∀ state version entry, signOns.world.redis (stateBodyKey state version) = some entry →
    ∃ request ∈ signOns.started, request.state = state ∧
      entry.value = (request.pending replaced).dumps

def carriedDiscipline (replaced : List UInt8 → List Char) : Tasks.Discipline SignOns where
  valid := Carried replaced
  grows before after := before.started ⊆ after.started
  refl _ := List.Subset.refl _
  trans := List.Subset.trans

/-- A redirect goes where a start with the state was asked to return to, and the code was
exchanged for that start. -/
def Returns (replaced : List UInt8 → List Char) (webOrigin : Text)
    (signIn : OidcReturn → PendingLogin → Result Unit) (returned : OidcReturn) (sent : Text)
    (signOns : SignOns) : Prop :=
  ∃ request ∈ signOns.started, given returned.state = some request.state ∧
    signIn returned (request.pending replaced) = .ok () ∧
    sent = location webOrigin (request.returnTo replaced)

def SignOnPromise (replaced : List UInt8 → List Char) (webOrigin : Text)
    (signIn : OidcReturn → PendingLogin → Result Unit) :
    SignOnRequest → SignOnAnswer → SignOns → Prop
  | .callback returned, .answered (.ok sent), signOns =>
      Returns replaced webOrigin signIn returned sent signOns
  | _, _, _ => True

section Safety

variable {replaced : List UInt8 → List Char} {signOns : SignOns}

/-- Nothing else than a pending login is written under a state. -/
theorem Carried.put (carried : Carried replaced signOns) {request : StartRequest}
    (begun : request ∈ signOns.started) (version : Nat) :
    Carried replaced (SignOns.lift (redisBackend.set (stateBodyKey request.state version)
      (request.pending replaced).dumps OIDC_STATE_TTL_SECONDS) signOns).2 := by
  intro state number entry found
  by_cases same : stateBodyKey state number = stateBodyKey request.state version
  · obtain ⟨-, rfl, rfl⟩ := Space.bodyKey_injective same
    refine ⟨request, begun, rfl, ?_⟩
    simp only [SignOns.lift, redisBackend, Redis.put, if_true, Option.some.injEq] at found
    rw [← found]
  · simp only [SignOns.lift, redisBackend, Redis.put, if_neg same] at found
    exact carried state number entry found

/-- Counters and the cache's forgetting leave the bodies. -/
theorem Carried.of_bodies (carried : Carried replaced signOns) {redis : Redis}
    (same : ∀ state version entry, redis (stateBodyKey state version) = some entry →
      signOns.world.redis (stateBodyKey state version) = some entry) :
    Carried replaced { signOns with world := { signOns.world with redis } } :=
  fun state version entry found => carried state version entry (same state version entry found)

theorem incr_body (redis : Redis) (state other : String) (version : Nat) :
    (redis.incr (stateVersionKey state)).2 (stateBodyKey other version) =
      redis (stateBodyKey other version) := by
  unfold Redis.incr
  split
  · exact put_version_body _
  · split
    · rfl
    · exact put_version_body _

/-- Whoever reads a body under a state finds the pending login of a start with it. -/
theorem safe_readBody (state : String) (version : Nat) :
    (carriedDiscipline replaced).Safe
      (fun body later => ∀ raw, body = some raw → ∃ request ∈ later.started,
        request.state = state ∧ raw = (request.pending replaced).dumps)
      (.operate (signOnBackend.get (stateBodyKey state version))) signOns := by
  apply Tasks.Discipline.Safe.operate
  · exact fun later passed => .refl passed.valid
  · intro later last passed after raw read
    obtain ⟨entry, found, rfl⟩ := Option.map_eq_some_iff.mp read
    obtain ⟨request, begun, same, left⟩ := passed.valid state version entry found
    exact ⟨request, after.grows begun, same, left⟩

theorem safe_currentVersion (valid : Carried replaced signOns) (state : String) :
    (carriedDiscipline replaced).Safe (fun _ _ => True)
      (oidcState.currentVersion signOnBackend state) signOns := by
  have reads : (carriedDiscipline replaced).Safe (fun _ _ => True)
      (.operate (signOnBackend.get (stateVersionKey state))) signOns :=
    .operate (fun later passed => .refl passed.valid) fun _ _ _ _ => trivial
  exact Tasks.Discipline.Safe.bind (.refl valid) reads fun _ _ _ _ _ _ => trivial

/-- The counter of a state is raised. -/
theorem safe_delete (valid : Carried replaced signOns) (state : String) :
    (carriedDiscipline replaced).Safe (fun _ _ => True)
      (oidcState.delete signOnBackend state) signOns := by
  have raises : (carriedDiscipline replaced).Safe (fun _ _ => True)
      (.operate (signOnBackend.incr (stateVersionKey state))) signOns := by
    refine .operate (fun later passed => ⟨?_, List.Subset.refl _⟩) fun _ _ _ _ => trivial
    refine passed.valid.of_bodies fun other version entry found => ?_
    exact (incr_body later.world.redis state other version).symm.trans found
  have bumps : (carriedDiscipline replaced).Safe (fun _ _ => True)
      (oidcState.bump signOnBackend state) signOns := by
    refine Tasks.Discipline.Safe.bind (.refl valid) raises fun version later _ _ => ?_
    cases version <;> exact fun _ _ => trivial
  exact Tasks.Discipline.Safe.bind (.refl valid) bumps fun _ _ _ _ _ _ => trivial

theorem safe_start (valid : Carried replaced signOns) (request : StartRequest) :
    (carriedDiscipline replaced).Safe (fun _ _ => True) (oidc_start replaced request) signOns := by
  have records : (carriedDiscipline replaced).Safe (fun _ later => request ∈ later.started)
      (.operate (SignOns.record request)) signOns := by
    refine .operate (fun later passed => ⟨?_, List.subset_append_left _ _⟩) ?_
    · intro state version entry found
      obtain ⟨other, begun, kept⟩ := passed.valid state version entry found
      exact ⟨other, List.mem_append_left _ begun, kept⟩
    · exact fun later last _ after => after.grows (by simp [SignOns.record])
  refine Tasks.Discipline.Safe.bind (.refl valid) records fun _ begun passed recorded => ?_
  have reads := safe_currentVersion passed.valid request.state
  refine Tasks.Discipline.Safe.bind (.refl passed.valid) reads fun version read later _ => ?_
  refine .operate (fun last after => ⟨?_, List.Subset.refl _⟩) fun _ _ _ _ => trivial
  exact after.valid.put (after.grows (later.grows recorded)) version

theorem safe_consume (valid : Carried replaced signOns) (state : String) :
    (carriedDiscipline replaced).Safe
      (fun result later => ∀ raw, result = .ok raw → ∃ request ∈ later.started,
        request.state = state ∧ raw = (request.pending replaced).dumps)
      (consumeState signOnBackend state) signOns := by
  have looks : (carriedDiscipline replaced).Safe
      (fun read later => ∀ raw, read.1 = some raw → ∃ request ∈ later.started,
        request.state = state ∧ raw = (request.pending replaced).dumps)
      (oidcState.getVersioned signOnBackend state) signOns := by
    have reads := safe_currentVersion valid state
    refine Tasks.Discipline.Safe.bind (.refl valid) reads fun version later _ _ => ?_
    exact safe_readBody state version
  have gets : (carriedDiscipline replaced).Safe
      (fun body later => ∀ raw, body = some raw → ∃ request ∈ later.started,
        request.state = state ∧ raw = (request.pending replaced).dumps)
      (oidcState.get signOnBackend state) signOns :=
    Tasks.Discipline.Safe.bind (.refl valid) looks fun read later _ told last after raw found => by
      obtain ⟨request, begun, kept⟩ := told raw found
      exact ⟨request, after.grows begun, kept⟩
  refine Tasks.Discipline.Safe.bind (.refl valid) gets fun body found passed told => ?_
  cases body with
  | none => exact fun _ _ raw impossible => by cases impossible
  | some raw =>
      refine Tasks.Discipline.Safe.bind (.refl passed.valid)
        (safe_delete passed.valid state) fun _ later after _ => ?_
      rintro last ended raw ⟨⟩
      obtain ⟨request, begun, kept⟩ := told raw rfl
      exact ⟨request, ended.grows (after.grows begun), kept⟩

variable {webOrigin : Text} {signIn : OidcReturn → PendingLogin → Result Unit}

theorem safe_callback (valid : Carried replaced signOns) (returned : OidcReturn) :
    (carriedDiscipline replaced).Safe
      (fun result later => ∀ sent, result = .ok sent →
        Returns replaced webOrigin signIn returned sent later)
      (oidc_callback webOrigin signIn returned) signOns := by
  have consumes : (carriedDiscipline replaced).Safe
      (fun result later => ∀ raw, result = .ok raw → ∃ request ∈ later.started,
        given returned.state = some request.state ∧ raw = (request.pending replaced).dumps)
      (oidcCallback signOnBackend returned) signOns := by
    unfold oidcCallback
    split
    · exact fun _ _ raw impossible => by cases impossible
    · next state _ _ stated =>
        apply (safe_consume valid state).weaken (.refl valid)
        rintro result later _ told raw ok
        obtain ⟨request, begun, rfl, left⟩ := told raw ok
        exact ⟨request, begun, stated, left⟩
    · exact fun _ _ raw impossible => by cases impossible
  refine Tasks.Discipline.Safe.bind (.refl valid) consumes fun result later _ told => ?_
  intro last after sent ok
  obtain ⟨raw, read, finished⟩ := Result.bind_eq_ok.mp ok
  obtain ⟨request, begun, stated, rfl⟩ := told raw read
  obtain ⟨pending, loaded, rest⟩ := Result.bind_eq_ok.mp finished
  obtain ⟨⟨⟩, signedIn, same⟩ := Result.bind_eq_ok.mp rest
  cases loaded.symm.trans (PendingLogin.loads_dumps _)
  exact ⟨request, after.grows begun, stated, signedIn, (Except.ok.inj same).symm⟩

/-- Starts, callbacks and the cache's forgetting keep what lies under the states. -/
theorem signOns_follow : Tasks.Follows (carriedDiscipline replaced)
    (serveSignOn replaced webOrigin signIn) SignOns.expire
    (fun request _ => SignOnPromise replaced webOrigin signIn request) where
  served request origin valid := by
    cases request with
    | start request =>
        exact Tasks.Discipline.Safe.bind (.refl valid) (safe_start valid request)
          fun _ _ _ _ _ _ => trivial
    | callback returned =>
        refine Tasks.Discipline.Safe.bind (.refl valid) (safe_callback valid returned) ?_
        intro result later _ told last after
        cases result with
        | error failure => trivial
        | ok sent =>
            obtain ⟨request, begun, kept⟩ := told sent rfl
            exact ⟨request, after.grows begun, kept⟩
  happened key signOns valid := by
    refine ⟨valid.of_bodies fun state version entry found => ?_, List.Subset.refl _⟩
    exact Redis.expire_of_some found

end Safety

end SynapseSaas.Identity
