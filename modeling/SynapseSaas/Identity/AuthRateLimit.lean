import SynapseSaas.Core.SharedLimiter
import SynapseSaas.Identity.ClientAddress
import SynapseSaas.Identity.RateBuckets
import Mathlib.Data.List.Perm.Subperm

/-! The limits on the credential endpoints: one bucket for the address a request comes from, and
one for the account it names. -/

set_option autoImplicit false

namespace SynapseSaas.AuthRateLimit

open RateLimiting
open Tasks (Task)

structure AuthRateSettings where
  perIp : Nat := 20
  perIdentity : Nat := 5
  windowSeconds : Nat := 60

/-- The endpoints, with the field of the body that names the account. -/
def authRoutes : List (String × Option String) :=
  [("/v1/auth/login", some "email"),
    ("/v1/auth/register", some "email"),
    ("/v1/auth/forgot-password", some "email"),
    ("/v1/auth/reset-password", none),
    ("/v1/auth/refresh", none),
    ("/v1/auth/oidc/start", none),
    ("/v1/auth/oidc/callback", none),
    ("/v1/auth/invite", none)]

/-- A request, the body being none where it cannot be decoded, and how its connections to Redis
hold. -/
structure AuthRequest where
  id : Nat
  path : String
  method : String
  peer : ClientAddress.Request
  body : Option Json
  byIp : Link
  byIdentity : Link

inductive Bucket where
  | ip
  | identity

def Bucket.label : Bucket → String
  | .ip => "auth:ip:"
  | .identity => "auth:id:"

/-- A request goes to its handler, with the readings of the checks Redis answered, or is refused
by one of them. -/
inductive Response where
  | handled (byIp byIdentity : Option Reading)
  | tooMany (retryAfter : Int) (reading : Reading)

def Response.reading : Bucket → Response → Option Reading
  | .ip, .handled byIp _ => byIp
  | .identity, .handled _ byIdentity => byIdentity
  | _, .tooMany _ _ => none

def AuthRateSettings.limit (settings : AuthRateSettings) : Bucket → Nat
  | .ip => settings.perIp
  | .identity => settings.perIdentity

section Dispatch

variable (ttl : TtlReply) (rules : Identity.AddressRules) (library : ClientAddress.IpLibrary)
  (trusted : List Text) (settings : AuthRateSettings)

namespace AuthRequest

def link (request : AuthRequest) : Bucket → Link
  | .ip => request.byIp
  | .identity => request.byIdentity

def address (request : AuthRequest) : String :=
  String.ofList (ClientAddress.clientIp library trusted request.peer)

/-- `body_identity`, for a POST to a route with a field for it. -/
def identity (request : AuthRequest) : Option String → Option String
  | none => none
  | some field =>
      if request.method = "POST" then
        (request.body.bind (rules.peekIdentity field)).filter (· ≠ "")
      else none

/-- What a bucket counts the request under. -/
def name (request : AuthRequest) : Bucket → Option String
  | .ip => (authRoutes.lookup request.path).map fun _ => request.address library trusted
  | .identity => (authRoutes.lookup request.path).bind (request.identity rules)

end AuthRequest

/-- The check of one bucket. -/
def check (request : AuthRequest) (bucket : Bucket) (name : String) :
    Task Counters (Option (Result Unit × Reading)) :=
  checkRedis ttl (request.link bucket) request.id (bucket.label ++ name) (settings.limit bucket)
    settings.windowSeconds

/-- The second half of `dispatch`, after the bucket of the address has let the request through. -/
def dispatchAccount (request : AuthRequest) (identityField : Option String)
    (byIp : Option Reading) : Task Counters Response :=
  match request.identity rules identityField with
  | none => return .handled byIp none
  | some identity => do
      match ← check ttl settings request .identity identity with
      | some (.error failure, reading) =>
          return .tooMany ((retryAfter (.error failure)).getD 60) reading
      | byIdentity => return .handled byIp (byIdentity.map Prod.snd)

/-- `AuthRateLimitMiddleware.dispatch`. Where Redis fails the request goes on. -/
def dispatch (request : AuthRequest) : Task Counters Response :=
  match authRoutes.lookup request.path with
  | none => return .handled none none
  | some identityField => do
      match ← check ttl settings request .ip (request.address library trusted) with
      | some (.error failure, reading) =>
          return .tooMany ((retryAfter (.error failure)).getD 60) reading
      | byIp => dispatchAccount ttl rules settings request identityField (byIp.map Prod.snd)

end Dispatch

/-! What a response promises. -/

section Promises

variable {ttl : TtlReply} {rules : Identity.AddressRules} {library : ClientAddress.IpLibrary}
  {trusted : List Text} {settings : AuthRateSettings} {request : AuthRequest} {redis : Counters}
  {bucket : Bucket}

/-- All keys have the window of the settings. -/
def windows (settings : AuthRateSettings) : String → Nat := fun _ => settings.windowSeconds

/-- The reading of a check that let the request through. -/
structure Passed (settings : AuthRateSettings) (request : AuthRequest) (bucket : Bucket)
    (name : String) (reading : Reading) (redis : Counters) : Prop where
  caller : reading.hit.caller = request.id
  key : reading.hit.key = "rl:" ++ (bucket.label ++ name)
  recorded : reading.hit ∈ redis.hits
  fits : reading.hit.number ≤ settings.limit bucket

/-- A bucket has consented, or Redis has not answered. -/
def Consents (settings : AuthRateSettings) (request : AuthRequest) (bucket : Bucket)
    (name : String) (reading : Option Reading) (redis : Counters) : Prop :=
  (∀ told ∈ reading, Passed settings request bucket name told redis) ∧
    (request.link bucket = ⟨.up, .up⟩ → reading.isSome)

/-- Who is handled has the consent of the buckets that count it, and who is refused meets a
counter that ends. -/
def Promised (names : Bucket → Option String) (settings : AuthRateSettings)
    (request : AuthRequest) : Response → Counters → Prop
  | .handled byIp byIdentity, redis => ∀ bucket, ∀ name ∈ names bucket,
      Consents settings request bucket name (Response.reading bucket (.handled byIp byIdentity))
        redis
  | .tooMany retryAfter reading, redis => Noted reading.hit
      (Ending reading (reading.since + 1000 * (retryAfter + 1))) redis

theorem Consents.later {name : String} {reading : Option Reading} {after : Counters}
    (consents : Consents settings request bucket name reading redis)
    (later : (discipline (windows settings)).Later redis after) :
    Consents settings request bucket name reading after := by
  refine ⟨fun told here => ?_, consents.2⟩
  have passed := consents.1 told here
  exact ⟨passed.caller, passed.key, later.grows.hits.subset passed.recorded, passed.fits⟩

theorem consents_of_heard {name : String} {answer : Option (Result Unit × Reading)}
    (heard : Heard (request.link bucket = ⟨.up, .up⟩)
      (Answered request.id ("rl:" ++ (bucket.label ++ name)) (settings.limit bucket)) answer redis)
    (ok : ∀ told ∈ answer, told.1.isOk = true) :
    Consents settings request bucket name (answer.map Prod.snd) redis := by
  refine ⟨?_, fun good => ?_⟩
  · intro reading here
    obtain ⟨told, member, rfl⟩ := Option.map_eq_some_iff.mp here
    have answered := heard.told told member
    exact ⟨answered.caller, answered.key, answered.recorded, answered.passed (ok told member)⟩
  · rw [Option.isSome_map]
    exact heard.heard good

theorem safe_check (ttl : TtlReply) (request : AuthRequest) (bucket : Bucket)
    (positive : 0 < settings.windowSeconds) (regular : Regular (windows settings) redis)
    (name : String) :
    (discipline (windows settings)).Safe
      (Heard (request.link bucket = ⟨.up, .up⟩)
        (Answered request.id ("rl:" ++ (bucket.label ++ name)) (settings.limit bucket)))
      (check ttl settings request bucket name) redis :=
  safe_checkRedis (request.link bucket) positive regular

/-- A refusal says when the counter that refuses ends. -/
theorem promised_refusal {names : Bucket → Option String} {name : String} {good : Prop}
    {failure : Failure} {reading : Reading} {after : Counters}
    (positive : 0 < settings.windowSeconds) (regular : Regular (windows settings) redis)
    (heard : Heard good
      (Answered request.id ("rl:" ++ (bucket.label ++ name)) (settings.limit bucket))
      (some (.error failure, reading)) redis)
    (later : (discipline (windows settings)).Later redis after) :
    Promised names settings request
      (.tooMany ((retryAfter (.error failure)).getD 60) reading) after := by
  have answered := heard.told _ rfl
  obtain ⟨seconds, told⟩ := Option.isSome_iff_exists.mp (answered.refused rfl)
  rw [Promised, told]
  exact (answered.ending seconds told).ending_later positive regular later

/-- What is left of `dispatch` once the bucket of the address consents. -/
theorem safe_dispatchAccount {names : Bucket → Option String} {identityField : Option String}
    {byIp : Option Reading} (positive : 0 < settings.windowSeconds)
    (regular : Regular (windows settings) redis)
    (account : names .identity = request.identity rules identityField)
    (consents : ∀ name ∈ names .ip, Consents settings request .ip name byIp redis) :
    (discipline (windows settings)).Safe (Promised names settings request)
      (dispatchAccount ttl rules settings request identityField byIp) redis := by
  unfold dispatchAccount
  cases named : request.identity rules identityField with
  | none =>
      rintro later passed (_ | _) name here
      · exact (consents name here).later passed
      · rw [account, named] at here
        cases here
  | some identity =>
      have counts := safe_check ttl request .identity positive regular identity
      refine Tasks.Discipline.Safe.bind (.refl regular) counts fun answer later passed heard => ?_
      -- Whatever Redis answers, if it does not refuse.
      have handled (ok : ∀ told ∈ answer, told.1.isOk = true) {last : Counters}
          (after : (discipline (windows settings)).Later later last) :
          Promised names settings request (.handled byIp (answer.map Prod.snd)) last := by
        rintro (_ | _) name here
        · exact ((consents name here).later passed).later after
        · rw [account, named] at here
          cases here
          exact (consents_of_heard heard ok).later after
      match answer with
      | some (.error failure, reading) =>
          exact fun last after => promised_refusal positive passed.valid heard after
      | none => exact fun last after => handled nofun after
      | some (.ok _, reading) =>
          refine fun last after => handled ?_ after
          rintro told ⟨⟩
          rfl

theorem safe_dispatch (positive : 0 < settings.windowSeconds)
    (regular : Regular (windows settings) redis) (request : AuthRequest) :
    (discipline (windows settings)).Safe
      (Promised (request.name rules library trusted) settings request)
      (dispatch ttl rules library trusted settings request) redis := by
  unfold dispatch
  cases route : authRoutes.lookup request.path with
  | none =>
      rintro later passed (_ | _) name here
      · rw [AuthRequest.name, route] at here
        cases here
      · rw [AuthRequest.name, route] at here
        cases here
  | some identityField =>
      have address : request.name rules library trusted .ip =
          some (request.address library trusted) := by
        rw [AuthRequest.name, route]
        rfl
      have account : request.name rules library trusted .identity =
          request.identity rules identityField := by
        rw [AuthRequest.name, route]
        rfl
      have counts := safe_check ttl request .ip positive regular
        (request.address library trusted)
      refine Tasks.Discipline.Safe.bind (.refl regular) counts fun answer later passed heard => ?_
      have goesOn (ok : ∀ told ∈ answer, told.1.isOk = true) :
          (discipline (windows settings)).Safe
            (Promised (request.name rules library trusted) settings request)
            (dispatchAccount ttl rules settings request identityField (answer.map Prod.snd))
            later := by
        refine safe_dispatchAccount positive passed.valid account fun name here => ?_
        rw [address] at here
        cases here
        exact consents_of_heard heard ok
      match answer with
      | some (.error failure, reading) =>
          exact fun last after => promised_refusal positive passed.valid heard after
      | none => exact goesOn nofun
      | some (.ok _, reading) =>
          refine goesOn ?_
          rintro told ⟨⟩
          rfl

end Promises

/-! The system: requests at any process, over one Redis whose clock runs on. -/

section System

variable (ttl : TtlReply) (rules : Identity.AddressRules) (library : ClientAddress.IpLibrary)
  (trusted : List Text) (settings : AuthRateSettings)

abbrev Requests := Tasks.System AuthRequest Counters Response

def elapses (duration : Nat) (redis : Counters) : Counters := redis.elapse duration

def system (start : Counters) (actions : List (Tasks.Action AuthRequest Nat)) : Requests :=
  Runs.run (Tasks.step (dispatch ttl rules library trusted settings) elapses) ⟨start, []⟩ actions

/-- The request names the account, or comes from the address, and was handed on by a bucket that
counted it in the interval. -/
def handedOn (bucket : Bucket) (name : String) (opening : Int)
    (running : Tasks.Running AuthRequest Counters Response) : Bool :=
  match running.task with
  | .done response =>
      running.request.name rules library trusted bucket = some name ∧
        (response.reading bucket).any fun reading =>
          opening ≤ reading.hit.time ∧ reading.hit.time < opening + 1000 * settings.windowSeconds
  | .atomic _ _ => false

/-- In an interval as long as the window a bucket hands on at most twice its limit, and nobody
it counts goes past it unless Redis fails. -/
structure Limited (requests : Requests) (bucket : Bucket) (name : String) (opening : Int) :
    Prop where
  few : requests.running.countP (handedOn rules library trusted settings bucket name opening) ≤
    2 * settings.limit bucket
  consented : ∀ running ∈ requests.running, ∀ byIp byIdentity,
    running.task = .done (.handled byIp byIdentity) →
    running.request.name rules library trusted bucket = some name →
    running.request.link bucket = ⟨.up, .up⟩ →
    (Response.reading bucket (.handled byIp byIdentity)).isSome

variable {ttl rules library trusted settings}

theorem follows (positive : 0 < settings.windowSeconds) :
    Tasks.Follows (discipline (windows settings)) (dispatch ttl rules library trusted settings)
      elapses fun request _ => Promised (request.name rules library trusted) settings request :=
  ⟨fun request _ regular => safe_dispatch positive regular request,
    fun duration _ regular => elapse_later regular duration⟩

theorem sound (ttl : TtlReply) (rules : Identity.AddressRules) (library : ClientAddress.IpLibrary)
    (trusted : List Text) {start : Counters} (positive : 0 < settings.windowSeconds)
    (regular : Regular (windows settings) start) (actions : List (Tasks.Action AuthRequest Nat)) :
    Tasks.Sound (discipline (windows settings))
      (fun request _ => Promised (request.name rules library trusted) settings request)
      (system ttl rules library trusted settings start actions) :=
  (Tasks.always_sound (follows positive) regular actions).last

/-- Requests that each have a hit of their own are no more than the hits. -/
theorem countP_le_of_own {requests : List (Tasks.Running AuthRequest Counters Response)}
    {hits : List Hit} {chosen : Tasks.Running AuthRequest Counters Response → Bool}
    {counted : Hit → Bool} (own : (requests.map (·.request.id)).Nodup)
    (has : ∀ running ∈ requests, chosen running = true →
      ∃ hit ∈ hits, counted hit = true ∧ hit.caller = running.request.id) :
    requests.countP chosen ≤ hits.countP counted := by
  have nodup : ((requests.filter chosen).map (·.request.id)).Nodup :=
    own.sublist (List.filter_sublist.map _)
  have subset : (requests.filter chosen).map (·.request.id) ⊆
      (hits.filter counted).map (·.caller) := by
    intro id member
    obtain ⟨running, kept, rfl⟩ := List.mem_map.mp member
    obtain ⟨here, picked⟩ := List.mem_filter.mp kept
    obtain ⟨hit, there, fits, same⟩ := has running here picked
    exact List.mem_map.mpr ⟨hit, List.mem_filter.mpr ⟨there, fits⟩, same⟩
  have shorter := (List.subperm_of_subset nodup subset).length_le
  rw [List.countP_eq_length_filter, List.countP_eq_length_filter]
  simpa using shorter

end System

section Samples

/-- Redis before its first hit. -/
def unused (now : Int) : Counters := ⟨now, fun _ => none, []⟩

theorem unused_regular (settings : AuthRateSettings) (now : Int) :
    Regular (windows settings) (unused now) :=
  ⟨nofun, nofun, fun _ _ => rfl, nofun⟩

/-- TTL rounds half a second and more up. -/
def nearest : TtlReply where
  seconds left := (left + 500) / 1000
  nonneg _ _ := by omega
  near _ _ := by omega

def login (id : Nat) (email : String) : AuthRequest where
  id := id
  path := "/v1/auth/login"
  method := "POST"
  peer := ⟨some "203.0.113.9".toList, []⟩
  body := some (Identity.attempt email)
  byIp := ⟨.up, .up⟩
  byIdentity := ⟨.up, .up⟩

/-- Two guesses at one account, the second counted before the first has set the time to live. -/
def guesses : List (Tasks.Action AuthRequest Nat) :=
  [.start (login 1 "ann@x.io"), .start (login 2 "Ann@x.io"), .advance 0, .advance 1, .advance 1,
    .advance 0, .advance 0, .advance 1, .happen 30, .advance 1, .advance 0]

/-- Counters that stand at one and have less than a second and a half left. -/
def nearlyOver : Counters := ⟨0, fun _ => some ⟨1, some 1400, 0, some 0, [0]⟩, []⟩

end Samples

section Results

variable {settings : AuthRateSettings}

/-- Whatever requests, each with an id of its own, run beside each other at any processes over one
Redis, and whichever of their commands are lost. -/
theorem attempts_limited (ttl : TtlReply) (rules : Identity.AddressRules)
    (library : ClientAddress.IpLibrary) (trusted : List Text)
    (positive : 0 < settings.windowSeconds) {start : Counters}
    (regular : Regular (windows settings) start) (actions : List (Tasks.Action AuthRequest Nat))
    (own : ((actions.filterMap Tasks.Action.request?).map (·.id)).Nodup) (bucket : Bucket)
    (name : String) (opening : Int) :
    Limited rules library trusted settings
      (system ttl rules library trusted settings start actions) bucket name opening := by
  have sound := sound ttl rules library trusted positive regular actions
  have started : (system ttl rules library trusted settings start actions).running.map (·.request) =
      actions.filterMap Tasks.Action.request? :=
    Tasks.run_requests ⟨start, []⟩ actions
  have ids : ((system ttl rules library trusted settings start actions).running.map
      (·.request.id)).Nodup := by
    rw [← started, List.map_map] at own
    exact own
  refine ⟨?_, ?_⟩
  · refine (countP_le_of_own ids ?_).trans
      (sound.valid.twice ("rl:" ++ (bucket.label ++ name)) (settings.limit bucket) opening)
    intro running member chosen
    unfold handedOn at chosen
    split at chosen
    · next response ended =>
        obtain ⟨named, read⟩ := of_decide_eq_true chosen
        have promised := sound.told member ended
        cases response with
        | tooMany => cases bucket <;> cases read
        | handled byIp byIdentity =>
            obtain ⟨reading, here, inside⟩ := (Option.any_eq_true _ _).mp read
            have passed := (promised bucket name named).1 reading here
            obtain ⟨after, before⟩ := of_decide_eq_true inside
            refine ⟨reading.hit, List.mem_filter.mpr ⟨passed.recorded, decide_eq_true passed.key⟩,
              decide_eq_true ⟨passed.fits, after, before⟩, passed.caller⟩
    · cases chosen
  · intro running member byIp byIdentity ended named good
    exact ((sound.told member ended) bucket name named).2 good

theorem attempts_limited_two_guesses :
    Limited Identity.simpleRules ClientAddress.samples [] { perIdentity := 1 }
      (system nearest Identity.simpleRules ClientAddress.samples [] { perIdentity := 1 } (unused 0)
        guesses) .identity "ann@x.io" 0 :=
  attempts_limited nearest Identity.simpleRules ClientAddress.samples [] (by decide)
    (unused_regular _ 0) guesses (by decide) .identity "ann@x.io" 0

/-- Whoever waits a second longer than a refusal says no longer meets the counter that refused,
unless calls that had counted before the refusal have set its time to live again. -/
theorem refusals_end (ttl : TtlReply) (rules : Identity.AddressRules)
    (library : ClientAddress.IpLibrary) (trusted : List Text)
    (positive : 0 < settings.windowSeconds) {start : Counters}
    (regular : Regular (windows settings) start) (actions : List (Tasks.Action AuthRequest Nat)) :
    Runs.Always (Tasks.step (dispatch ttl rules library trusted settings) elapses)
      (fun requests => ∀ running ∈ requests.running, ∀ seconds reading,
        running.task = .done (.tooMany seconds reading) →
        reading.since + 1000 * (seconds + 1) ≤ requests.shared.now →
        ∀ counter, requests.shared.live reading.hit.key = some counter →
          reading.hit.time < counter.began ∨
            reading.renewals < counter.renewals.length ∧
              ∀ time ∈ counter.renewals, time ≤ reading.since)
      ⟨start, []⟩ actions := by
  apply (Tasks.always_sound (follows positive) regular actions).mono
  intro requests sound running member seconds reading ended waited counter alive
  exact (sound.told member ended).ends sound.valid waited alive

theorem refusals_end_two_guesses :
    Runs.Always (Tasks.step (dispatch nearest Identity.simpleRules ClientAddress.samples []
        { perIdentity := 1 }) elapses)
      (fun requests => ∀ running ∈ requests.running, ∀ seconds reading,
        running.task = .done (.tooMany seconds reading) →
        reading.since + 1000 * (seconds + 1) ≤ requests.shared.now →
        ∀ counter, requests.shared.live reading.hit.key = some counter →
          reading.hit.time < counter.began ∨
            reading.renewals < counter.renewals.length ∧
              ∀ time ∈ counter.renewals, time ≤ reading.since)
      ⟨unused 0, []⟩ (guesses ++ [.happen 61000, .start (login 3 "ann@x.io"), .advance 2]) :=
  refusals_end nearest Identity.simpleRules ClientAddress.samples [] (by decide)
    (unused_regular _ 0) (guesses ++ [.happen 61000, .start (login 3 "ann@x.io"), .advance 2])

/-- One second, as the refusal says, may be too short a wait. -/
example :
    ((checkRedis nearest ⟨.up, .up⟩ 7 "ann" 1 60).run nearlyOver).1.map
        (fun answer => retryAfter answer.1) = some (some 1) ∧
      ((checkRedis nearest ⟨.up, .up⟩ 7 "ann" 1 60).run (nearlyOver.elapse 1000)).1.map
        (fun answer => retryAfter answer.1) = some (some 1) := by
  decide

end Results

end SynapseSaas.AuthRateLimit
