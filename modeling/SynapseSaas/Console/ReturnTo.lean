import SynapseSaas.Foundation.References
import SynapseSaas.Identity.SignOn

/-! The console's ends of a single sign-on: the link on its login page, and the page the
callback redirects to, which goes on to where the login came from. -/

set_option autoImplicit false

namespace SynapseSaas.Console

open Identity TextEncodings

/-- The characters `encodeURIComponent` leaves. -/
def uriKept (char : Char) : Bool :=
  char.isAlphanum ∨ char ∈ ['-', '_', '.', '!', '~', '*', '\'', '(', ')']

/-- The characters a browser leaves of a query. -/
def queryKept (char : Char) : Bool :=
  (32 < char.toNat ∧ char.toNat < 127) ∧ char ∉ ['"', '#', '<', '>', '\'']

/-- The query a browser sends for an address. -/
def sentQuery (address : Text) : Text := percentEncode queryKept (References.query address)

def ssoHref (apiUrl : Text) (returnTo : Option Text) : Text :=
  apiUrl ++ "/v1/auth/oidc/start?return_to=".toList ++
    percentEncode uriKept (returnTo.getD dashboard)

/-- `params.get(name)`; of parameters with one name the first counts. -/
def searchParam (replaced : List UInt8 → List Char) (name query : Text) : Option Text :=
  (formFields replaced query).lookup name

def safeReturnTo (raw : Option Text) : Text := ownPath raw

/-- What the landing page goes on to. -/
def landing (replaced : List UInt8 → List Char) (address : Text) : Text :=
  safeReturnTo (searchParam replaced "return_to".toList (sentQuery address))

/-! A text in a parameter of an address, from the one who writes it to the one who reads it. -/

/-- Nothing that separates fields, ends a query or is not read is left as it is. -/
structure FieldSafe (kept : Char → Bool) : Prop where
  percent : kept '%' = false
  plus : kept '+' = false
  ampersand : kept '&' = false
  equals : kept '=' = false
  hash : kept '#' = false
  blank : ∀ number ≤ 32, kept (Char.ofNat number) = false

def returnToName : Text := ['r', 'e', 't', 'u', 'r', 'n', '_', 't', 'o']

/-- The parameter, as it is written. -/
def returnToField (kept : Char → Bool) (text : Text) : Text :=
  percentEncode kept returnToName ++ '=' :: percentEncode kept text

theorem fieldSafe_quote : FieldSafe quoteKept := by
  constructor <;> decide

theorem fieldSafe_landed : FieldSafe fun char => quoteKept char && queryKept char := by
  constructor <;> decide

theorem fieldSafe_uri : FieldSafe uriKept := by
  constructor <;> decide

theorem fieldSafe_sent : FieldSafe fun char => uriKept char && queryKept char := by
  constructor <;> decide

section Carriage

variable {kept : Char → Bool} {front : Text}

theorem FieldSafe.not_edge (safe : FieldSafe kept) {char : Char} (keeps : kept char) :
    ¬ References.edge char := by
  intro edge
  have dropped := safe.blank char.toNat (by simpa [References.edge] using edge)
  rw [Char.ofNat_toNat, keeps] at dropped
  cases dropped

theorem FieldSafe.not_edge_percentEncode (safe : FieldSafe kept) (text : Text) :
    References.Plain (percentEncode kept text) :=
  forall_mem_percentEncode (by decide) (by decide) fun _ _ keeps => safe.not_edge keeps

theorem FieldSafe.query (safe : FieldSafe kept) (unasked : '?' ∉ front) (whole : '#' ∉ front)
    (text : Text) :
    References.query (front ++ '?' :: returnToField kept text) = returnToField kept text := by
  have hash (text : Text) : '#' ∉ percentEncode kept text :=
    not_mem_percentEncode safe.hash (by decide) (by decide)
  apply References.query_eq unasked whole
  · intro char member
    rcases List.mem_append.mp member with name | value
    · exact safe.not_edge_percentEncode _ char name
    · rcases List.mem_cons.mp value with rfl | value
      · decide
      · exact safe.not_edge_percentEncode _ char value
  · simp [returnToField, hash]

theorem FieldSafe.read (safe : FieldSafe kept) (replaced : List UInt8 → List Char) (text : Text) :
    formFields replaced (returnToField kept text) = [(returnToName, text)] :=
  formFields_percentEncode replaced safe.percent safe.plus safe.ampersand safe.equals _ _

/-- What a parameter is written with may be encoded again on its way. -/
theorem percentEncode_returnToField {again : Char → Bool} (percent : again '%')
    (digits : ∀ number < 16, again (hexDigit number)) (equals : again '=') (text : Text) :
    percentEncode again (returnToField kept text) =
      returnToField (fun char => kept char && again char) text := by
  rw [returnToField, percentEncode_append, percentEncode_percentEncode percent digits]
  have rest : percentEncode again ('=' :: percentEncode kept text) =
      '=' :: percentEncode again (percentEncode kept text) := by
    rw [percentEncode, List.flatMap_cons, percentEncodeChar, if_pos equals]
    rfl
  rw [rest, percentEncode_percentEncode percent digits]
  rfl

/-- What the API quotes, the header of a redirect leaves. -/
theorem quoteKept_locationKept :
    (fun char => quoteKept char && locationKept char) = quoteKept := by
  funext char
  rw [Bool.and_eq_left_iff_imp]
  simp only [quoteKept, locationKept, decide_eq_true_eq, List.mem_cons, List.not_mem_nil, or_false]
  tauto

/-- The header of the redirect, taken apart. -/
theorem location_eq (webOrigin text : Text) :
    location webOrigin text =
      percentEncode locationKept (webOrigin.rdropWhile (· = '/') ++ "/auth/callback".toList) ++
        '?' :: returnToField quoteKept text := by
  have parts : "/auth/callback?return_to=".toList =
      "/auth/callback".toList ++ '?' :: percentEncode quoteKept returnToName ++ ['='] := by
    decide
  have whole : target webOrigin text =
      (webOrigin.rdropWhile (· = '/') ++ "/auth/callback".toList) ++
        '?' :: returnToField quoteKept text := by
    rw [target, parts, returnToField]
    simp
  have mark (rest : Text) :
      percentEncode locationKept ('?' :: rest) = '?' :: percentEncode locationKept rest := rfl
  rw [location, whole, percentEncode_append, mark,
    percentEncode_returnToField (by decide) (by decide) (by decide), quoteKept_locationKept]

/-- The landing page is given the text the API was to return to. -/
theorem landing_location (replaced : List UInt8 → List Char) {webOrigin : Text}
    (unasked : '?' ∉ webOrigin) (whole : '#' ∉ webOrigin) (text : Text) :
    landing replaced (location webOrigin text) = safeReturnTo (some text) := by
  have absent {char : Char} (free : char ∉ webOrigin) (path : char ∉ "/auth/callback".toList)
      (percent : '%' ≠ char) (digits : ∀ number < 16, hexDigit number ≠ char) :
      char ∉ percentEncode locationKept
        (webOrigin.rdropWhile (· = '/') ++ "/auth/callback".toList) := by
    intro member
    refine @forall_mem_percentEncode _ _ (· ≠ char) percent digits ?_ char member rfl
    rintro other here - rfl
    rcases List.mem_append.mp here with origin | later
    · exact free ((List.rdropWhile_prefix _ _).subset origin)
    · exact path later
  have query : sentQuery (location webOrigin text) =
      returnToField (fun char => quoteKept char && queryKept char) text := by
    rw [sentQuery, location_eq,
      fieldSafe_quote.query (absent unasked (by decide) (by decide) (by decide))
        (absent whole (by decide) (by decide) (by decide)),
      percentEncode_returnToField (by decide) (by decide) (by decide)]
  have name : "return_to".toList = returnToName := by decide
  rw [landing, query, searchParam, fieldSafe_landed.read, name, List.lookup_cons, beq_self_eq_true]

/-- A start is asked for what the link that led to it names. -/
theorem queryParam_ssoHref (replaced : List UInt8 → List Char) {apiUrl : Text}
    (unasked : '?' ∉ apiUrl) (whole : '#' ∉ apiUrl) (shown : Option Text) :
    queryParam replaced "return_to".toList (sentQuery (ssoHref apiUrl shown)) =
      some (shown.getD dashboard) := by
  have parts : "/v1/auth/oidc/start?return_to=".toList =
      "/v1/auth/oidc/start".toList ++ '?' :: percentEncode uriKept returnToName ++ ['='] := by
    decide
  have link : ssoHref apiUrl shown = (apiUrl ++ "/v1/auth/oidc/start".toList) ++
      '?' :: returnToField uriKept (shown.getD dashboard) := by
    rw [ssoHref, parts, returnToField]
    simp
  have query : sentQuery (ssoHref apiUrl shown) =
      returnToField (fun char => uriKept char && queryKept char) (shown.getD dashboard) := by
    rw [sentQuery, link,
      fieldSafe_uri.query (List.not_mem_append unasked (by decide))
        (List.not_mem_append whole (by decide)),
      percentEncode_returnToField (by decide) (by decide) (by decide)]
  have name : "return_to".toList = returnToName := by decide
  rw [query, queryParam, fieldSafe_sent.read, name, List.reverse_singleton, List.lookup_cons,
    beq_self_eq_true]

end Carriage

/-! What whole runs of sign-ons come to. -/

section Runs

variable (replaced decoded : List UInt8 → List Char) (webOrigin apiUrl : Text)
  (signIn : OidcReturn → PendingLogin → Result Unit)

abbrev SignOnSystem := Tasks.System SignOnRequest SignOns SignOnAnswer

abbrev signOnStep : SignOnSystem → Tasks.Action SignOnRequest String → SignOnSystem :=
  Tasks.step (serveSignOn replaced webOrigin signIn) SignOns.expire

/-- Where a callback has let somebody in: he came from a start with the state of the callback,
the code was exchanged for that start, and the rest is as said. -/
def EveryReturn (said : StartRequest → Text → Prop) (system : SignOnSystem) : Prop :=
  ∀ running ∈ system.running, ∀ returned sent, running.request = .callback returned →
    running.task = .done (.answered (.ok sent)) →
    ∃ request ∈ system.shared.started, given returned.state = some request.state ∧
      signIn returned (request.pending replaced) = .ok () ∧ said request sent

variable {replaced webOrigin signIn}

theorem always_everyReturn {said : StartRequest → Text → Prop}
    (holds : ∀ request, said request (location webOrigin (request.returnTo replaced)))
    (actions : List (Tasks.Action SignOnRequest String)) :
    Runs.Always (signOnStep replaced webOrigin signIn) (EveryReturn replaced signIn said)
      ⟨.initial, []⟩ actions := by
  have valid : (carriedDiscipline replaced).valid SignOns.initial := by
    intro state version entry found
    cases found
  apply (Tasks.always_sound (@signOns_follow replaced webOrigin signIn) valid actions).mono
  intro system sound running member returned sent asked ended
  have kept := sound.told member ended
  rw [asked] at kept
  obtain ⟨request, begun, stated, signedIn, rfl⟩ := kept
  exact ⟨request, begun, stated, signedIn, holds request⟩

theorem landing_returnTo (replaced decoded : List UInt8 → List Char)
    (origin : '?' ∉ webOrigin ∧ '#' ∉ webOrigin) (request : StartRequest) :
    landing decoded (location webOrigin (request.returnTo replaced)) =
      request.returnTo replaced := by
  rw [landing_location decoded origin.1 origin.2]
  exact ownPath_ownPath _

/-! A sign-on from a link to the login page that somebody else has written. -/

def localConsole : Text := "http://localhost:3000".toList
def localApi : Text := "http://localhost:8000".toList
def lure : Text := ['/', '\\', 'e', '.', 'x']

def lured : List (Tasks.Action SignOnRequest String) :=
  [.start (.start ⟨"s", [], [], sentQuery (ssoHref localApi (some lure))⟩), .advance 0, .advance 0,
    .advance 0, .start (.callback ⟨some "c", some "s", none⟩), .advance 1, .advance 1, .advance 1]

/-- What the callbacks that let somebody in redirect to. -/
def redirects (system : SignOnSystem) : List Text :=
  system.running.filterMap fun running =>
    match running.task with
    | .done (.answered (.ok sent)) => some sent
    | _ => none

/-- However starts, callbacks and the cache's forgetting interleave, whoever a callback lets in
lands on the path that a start with its state was asked to return to, as the guard let it pass;
a start from the login page was asked for what that page shows. -/
theorem sign_on_returns (replaced decoded : List UInt8 → List Char) (webOrigin apiUrl : Text)
    (signIn : OidcReturn → PendingLogin → Result Unit)
    (origin : '?' ∉ webOrigin ∧ '#' ∉ webOrigin) (api : '?' ∉ apiUrl ∧ '#' ∉ apiUrl)
    (actions : List (Tasks.Action SignOnRequest String)) :
    Runs.Always (signOnStep replaced webOrigin signIn)
      (EveryReturn replaced signIn fun request sent =>
        landing decoded sent = request.returnTo replaced ∧
        ∀ shown, request.query = sentQuery (ssoHref apiUrl shown) →
          landing decoded sent = safeReturnTo (some (shown.getD dashboard)))
      ⟨.initial, []⟩ actions := by
  apply always_everyReturn
  intro request
  have landed := landing_returnTo replaced decoded origin request
  refine ⟨landed, fun shown link => ?_⟩
  rw [landed, StartRequest.returnTo, link, queryParam_ssoHref replaced api.1 api.2]
  rfl

theorem sign_on_returns_lured :
    Runs.Always (signOnStep (fun _ => []) localConsole fun _ _ => .ok ())
      (EveryReturn (fun _ => []) (fun _ _ => .ok ()) fun request sent =>
        landing (fun _ => []) sent = request.returnTo (fun _ => []) ∧
        ∀ shown, request.query = sentQuery (ssoHref localApi shown) →
          landing (fun _ => []) sent = safeReturnTo (some (shown.getD dashboard)))
      ⟨.initial, []⟩ lured :=
  sign_on_returns (fun _ => []) (fun _ => []) localConsole localApi (fun _ _ => .ok ())
    (by decide) (by decide) lured

/-- A sign-on leaves the console's origin exactly if between the first slash of what its start
was asked to return to and another slash of either kind there are only tabs and newlines. -/
theorem sign_on_stays_iff (replaced decoded : List UInt8 → List Char) (webOrigin : Text)
    (signIn : OidcReturn → PendingLogin → Result Unit)
    (origin : '?' ∉ webOrigin ∧ '#' ∉ webOrigin)
    (actions : List (Tasks.Action SignOnRequest String)) :
    Runs.Always (signOnStep replaced webOrigin signIn)
      (EveryReturn replaced signIn fun request sent =>
        (∃ path, References.reference (landing decoded sent) = .path path) ↔
          ¬ References.BeginsSlash (request.returnTo replaced).tail)
      ⟨.initial, []⟩ actions := by
  apply always_everyReturn
  intro request
  rw [landing_returnTo replaced decoded origin request]
  obtain ⟨rest, same⟩ := ownPath_slash (queryParam replaced "return_to".toList request.query)
  have begins : request.returnTo replaced = '/' :: rest := same
  rw [begins]
  exact References.path_iff rest

theorem sign_on_stays_iff_lured :
    Runs.Always (signOnStep (fun _ => []) localConsole fun _ _ => .ok ())
      (EveryReturn (fun _ => []) (fun _ _ => .ok ()) fun request sent =>
        (∃ path, References.reference (landing (fun _ => []) sent) = .path path) ↔
          ¬ References.BeginsSlash (request.returnTo (fun _ => [])).tail)
      ⟨.initial, []⟩ lured :=
  sign_on_stays_iff (fun _ => []) (fun _ => []) localConsole (fun _ _ => .ok ()) (by decide) lured

/-- A backslash passes both guards, and the browser reads it as a slash. -/
example :
    (redirects (Runs.run (signOnStep (fun _ => []) localConsole fun _ _ => .ok ())
        ⟨.initial, []⟩ lured)).map
        (fun sent => References.reference (landing (fun _ => []) sent)) =
      [.authority ['e', '.', 'x']] := by
  decide

end Runs

end SynapseSaas.Console
