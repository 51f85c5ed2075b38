import SynapseSaas.Console.Endpoints

/-! The console's sessions. Within a tab all callers share one exchange of tokens; the tabs of a
browser share its cookie and know nothing of each other. -/

set_option autoImplicit false

namespace SynapseSaas.Console

open ReadCommitted Identity IdentityService

/-- `refreshPromise` of a tab: the exchange its callers share, or how it ended. -/
inductive RefreshPromise where
  /-- Under way to the server, with the cookie as it was. -/
  | sent (cookie : Option String) (instant : Int)
  /-- Served; the response, which sets the cookie, is under way. -/
  | answered (issued : Option String) (instant : Int)
  | settled (refreshed : Bool)
  deriving DecidableEq

namespace RefreshPromise

/-- When the message under way was sent. -/
def since? : RefreshPromise → Option Int
  | .sent _ instant => some instant
  | .answered _ instant => some instant
  | .settled _ => none

def presented? : RefreshPromise → Option String
  | .sent cookie _ => cookie
  | _ => none

def issued? : RefreshPromise → Option String
  | .answered issued _ => issued
  | _ => none

end RefreshPromise

/-- A browser with its tabs, and the server. -/
structure Browser (tabs : Nat) where
  server : IdentityStore
  now : Int
  cookie : Option String
  refreshPromise : Fin tabs → Option RefreshPromise

/-- What happens in a browser, and what others ask of the server. A sign-in and a logout are
answered at once. -/
inductive BrowserAction (tabs : Nat) where
  | elapse (duration : Nat)
  | refreshTokens (tab : Fin tabs)
  | reaches (tab : Fin tabs) (successor : String)
  | arrives (tab : Fin tabs)
  | fails (tab : Fin tabs)
  | clears (tab : Fin tabs)
  | login (userId : Nat) (organizationId : Option Nat) (hash : String)
  | logout
  | elsewhere (request : SessionRequest)

namespace Browser

variable {tabs : Nat}

def put (state : Browser tabs) (tab : Fin tabs) (promise : Option RefreshPromise) : Browser tabs :=
  { state with refreshPromise := Function.update state.refreshPromise tab promise }

def step (settings : IdentitySettings) (state : Browser tabs) : BrowserAction tabs → Browser tabs
  | .elapse duration => { state with now := state.now + duration }
  | .refreshTokens tab =>
      match state.refreshPromise tab with
      | none => state.put tab (some (.sent state.cookie state.now))
      -- Callers join the exchange under way, or the one that has just ended.
      | some _ => state
  | .reaches tab successor =>
      match state.refreshPromise tab with
      | some (.sent cookie _) =>
          let (issued, server) :=
            refreshEndpoint settings state.server state.now successor cookie
          { state.put tab (some (.answered issued state.now)) with server }
      | _ => state
  | .arrives tab =>
      match state.refreshPromise tab with
      | some (.answered issued _) =>
          { state.put tab (some (.settled issued.isSome)) with cookie := issued.or state.cookie }
      | _ => state
  -- The request or its response is lost.
  | .fails tab =>
      match state.refreshPromise tab with
      | some (.settled _) => state
      | some _ => state.put tab (some (.settled false))
      | none => state
  -- `setTimeout(() => (refreshPromise = null), 0)`.
  | .clears tab =>
      match state.refreshPromise tab with
      | some (.settled _) => state.put tab none
      | _ => state
  | .login userId organizationId hash =>
      let request := SessionRequest.signIn userId organizationId hash state.now
      { state with
        server := requestStep settings state.server request
        cookie := (setCookie (answer settings state.server request)).or state.cookie }
  | .logout =>
      match state.cookie with
      | none => state
      | some hash =>
          { state with
            server := requestStep settings state.server (.logout hash state.now), cookie := none }
  | .elsewhere request => { state with server := requestStep settings state.server request }

/-- The tokens the browser has, or has under way. -/
def held (state : Browser tabs) : List String :=
  state.cookie.toList ++ (List.finRange tabs).flatMap fun tab =>
    (state.refreshPromise tab).toList.flatMap fun promise =>
      promise.presented?.toList ++ promise.issued?.toList

/-- No response that carries a token is lost, and neither a logout nor a request of others revokes
a token that is under way. -/
def Lossless (settings : IdentitySettings) (state : Browser tabs) : BrowserAction tabs → Prop
  | .fails tab => ∀ promise ∈ state.refreshPromise tab, promise.issued? = none
  | .logout => ∀ tab, ∀ promise ∈ state.refreshPromise tab, ∀ hash ∈ promise.presented?,
      state.cookie ≠ some hash
  | .elsewhere request => ∀ hash ∈ state.held,
      (requestStep settings state.server request).rows (.refreshToken hash) =
        state.server.rows (.refreshToken hash)
  | _ => True

/-- No message is under way for longer than the delay. -/
def Prompt (delay : Nat) (state : Browser tabs) : BrowserAction tabs → Prop
  | .elapse duration => ∀ tab, ∀ promise ∈ state.refreshPromise tab, ∀ instant ∈ promise.since?,
      state.now + duration ≤ instant + delay
  | _ => True

/-- No refresh is taken for the reuse of a stolen token. -/
def Unpunished (settings : IdentitySettings) (state : Browser tabs) : BrowserAction tabs → Prop
  | .reaches tab successor => ∀ promise ∈ state.refreshPromise tab, ∀ hash ∈ promise.presented?,
      answer settings state.server (.refresh hash successor state.now) ≠ some .reuseDetected
  | _ => True

instance losslessDecidable (settings : IdentitySettings) (state : Browser tabs) :
    (action : BrowserAction tabs) → Decidable (Lossless settings state action)
  | .fails tab =>
      inferInstanceAs (Decidable (∀ promise ∈ state.refreshPromise tab, promise.issued? = none))
  | .logout => inferInstanceAs (Decidable (∀ tab, ∀ promise ∈ state.refreshPromise tab,
      ∀ hash ∈ promise.presented?, state.cookie ≠ some hash))
  | .elsewhere request => inferInstanceAs (Decidable (∀ hash ∈ state.held,
      (requestStep settings state.server request).rows (.refreshToken hash) =
        state.server.rows (.refreshToken hash)))
  | .elapse _ | .refreshTokens _ | .reaches _ _ | .arrives _ | .clears _ | .login _ _ _ =>
      isTrue trivial

instance promptDecidable (delay : Nat) (state : Browser tabs) :
    (action : BrowserAction tabs) → Decidable (Prompt delay state action)
  | .elapse duration => inferInstanceAs (Decidable (∀ tab, ∀ promise ∈ state.refreshPromise tab,
      ∀ instant ∈ promise.since?, state.now + duration ≤ instant + delay))
  | .refreshTokens _ | .reaches _ _ | .arrives _ | .fails _ | .clears _ | .login _ _ _ | .logout
  | .elsewhere _ => isTrue trivial

instance unpunishedDecidable (settings : IdentitySettings) (state : Browser tabs) :
    (action : BrowserAction tabs) → Decidable (Unpunished settings state action)
  | .reaches tab successor => inferInstanceAs (Decidable (∀ promise ∈ state.refreshPromise tab,
      ∀ hash ∈ promise.presented?,
        answer settings state.server (.refresh hash successor state.now) ≠ some .reuseDetected))
  | .elapse _ | .refreshTokens _ | .arrives _ | .fails _ | .clears _ | .login _ _ _ | .logout
  | .elsewhere _ => isTrue trivial

/-- What holds of the tokens in a browser whose messages are prompt. -/
structure Sound (delay : Nat) (state : Browser tabs) : Prop where
  /-- Unless the cookie's successor is under way, the cookie is current. -/
  cookie : ∀ hash, state.cookie = some hash → Unrevoked state.server hash ∨
    ∃ instant tab issued, Replaced state.server hash instant ∧
      state.refreshPromise tab = some (.answered (some issued) instant)
  sent : ∀ tab hash instant, state.refreshPromise tab = some (.sent (some hash) instant) →
    Unrevoked state.server hash ∨
      ∃ replacedAt, Replaced state.server hash replacedAt ∧ instant ≤ replacedAt + delay
  issued : ∀ tab hash instant, state.refreshPromise tab = some (.answered (some hash) instant) →
    Unrevoked state.server hash ∧ state.cookie ≠ some hash ∧
      (∀ other sentAt, state.refreshPromise other ≠ some (.sent (some hash) sentAt)) ∧
      ∀ other answeredAt, state.refreshPromise other = some (.answered (some hash) answeredAt) →
        other = tab
  prompt : ∀ tab, ∀ promise ∈ state.refreshPromise tab, ∀ instant ∈ promise.since?,
    instant ≤ state.now ∧ state.now ≤ instant + delay

section Soundness

variable {settings : IdentitySettings} {delay : Nat} {state : Browser tabs}

theorem put_eq_some {tab other : Fin tabs} {promise : Option RefreshPromise}
    {found : RefreshPromise} :
    (state.put tab promise).refreshPromise other = some found ↔
      other = tab ∧ promise = some found ∨
        other ≠ tab ∧ state.refreshPromise other = some found := by
  by_cases same : other = tab
  · subst same
    simp [put]
  · simp [put, same]

theorem put_of_ne {tab other : Fin tabs} {promise : Option RefreshPromise} (apart : other ≠ tab) :
    (state.put tab promise).refreshPromise other = state.refreshPromise other :=
  Function.update_of_ne apart ..

theorem mem_held {hash : String} : hash ∈ state.held ↔ state.cookie = some hash ∨
    ∃ tab promise, state.refreshPromise tab = some promise ∧
      (promise.presented? = some hash ∨ promise.issued? = some hash) := by
  simp [held]

/-- Rows that the browser holds no token of may change. -/
theorem Sound.served (sound : state.Sound delay) {server : IdentityStore}
    (kept : ∀ hash ∈ state.held,
      server.rows (.refreshToken hash) = state.server.rows (.refreshToken hash)) :
    Sound delay { state with server } where
  cookie hash own := by
    have same := kept hash (mem_held.mpr (.inl own))
    simp only [Unrevoked, Replaced, same]
    exact sound.cookie hash own
  sent tab hash instant here := by
    have same := kept hash (mem_held.mpr (.inr ⟨tab, _, here, .inl rfl⟩))
    simp only [Unrevoked, Replaced, same]
    exact sound.sent tab hash instant here
  issued tab hash instant here := by
    have same := kept hash (mem_held.mpr (.inr ⟨tab, _, here, .inr rfl⟩))
    simp only [Unrevoked, same]
    exact sound.issued tab hash instant here
  prompt := sound.prompt

/-- What the browser holds is on record. -/
theorem Sound.stored (sound : state.Sound delay) {hash : String} (member : hash ∈ state.held) :
    state.server.rows (.refreshToken hash) ≠ none := by
  have known : Unrevoked state.server hash ∨ ∃ instant, Replaced state.server hash instant := by
    rcases mem_held.mp member with own | ⟨tab, promise, here, presented | issued⟩
    · rcases sound.cookie hash own with current | ⟨instant, _, _, replaced, -⟩
      · exact .inl current
      · exact .inr ⟨instant, replaced⟩
    · cases promise with
      | sent cookie instant =>
          cases presented
          rcases sound.sent tab hash instant here with current | ⟨replacedAt, replaced, -⟩
          · exact .inl current
          · exact .inr ⟨replacedAt, replaced⟩
      | answered issued instant => cases presented
      | settled refreshed => cases presented
    · cases promise with
      | sent cookie instant => cases issued
      | answered hash' instant =>
          cases issued
          exact .inl (sound.issued tab hash instant here).1
      | settled refreshed => cases issued
  rcases known with ⟨token, found, -⟩ | ⟨instant, token, found, -⟩ <;> simp [found]

/-- The exchange of a tab that carries no token may go on, or end, without one. -/
theorem Sound.idled (sound : state.Sound delay) {tab : Fin tabs} {promise : Option RefreshPromise}
    (before : ∀ old ∈ state.refreshPromise tab, old.issued? = none)
    (carries : ∀ new ∈ promise, new.presented? = none ∧ new.issued? = none)
    (recent : ∀ new ∈ promise, ∀ instant ∈ new.since?, instant = state.now) :
    Sound delay (state.put tab promise) where
  cookie hash own := by
    rcases sound.cookie hash own with current | ⟨instant, other, issued, replaced, there⟩
    · exact .inl current
    · refine .inr ⟨instant, other, issued, replaced, put_eq_some.mpr (.inr ⟨?_, there⟩)⟩
      rintro rfl
      cases before _ there
  sent other hash instant here := by
    rcases put_eq_some.mp here with ⟨-, rfl⟩ | ⟨-, there⟩
    · cases (carries _ rfl).1
    · exact sound.sent other hash instant there
  issued other hash instant here := by
    rcases put_eq_some.mp here with ⟨-, rfl⟩ | ⟨-, there⟩
    · cases (carries _ rfl).2
    · obtain ⟨current, apart, unsent, alone⟩ := sound.issued other hash instant there
      refine ⟨current, apart, fun third sentAt sent => ?_, fun third answeredAt answered => ?_⟩
      · rcases put_eq_some.mp sent with ⟨-, rfl⟩ | ⟨-, known⟩
        · cases (carries _ rfl).1
        · exact unsent third sentAt known
      · rcases put_eq_some.mp answered with ⟨-, rfl⟩ | ⟨-, known⟩
        · cases (carries _ rfl).2
        · exact alone third answeredAt known
  prompt other new here instant since := by
    rcases put_eq_some.mp here with ⟨-, rfl⟩ | ⟨-, there⟩
    · have now := recent new rfl instant since
      simp only [put]
      omega
    · exact sound.prompt other new there instant since

theorem Sound.elapse (sound : state.Sound delay) {duration : Nat}
    (prompt : Prompt delay state (.elapse duration)) :
    Sound delay (step settings state (.elapse duration)) where
  cookie := sound.cookie
  sent := sound.sent
  issued := sound.issued
  prompt tab promise here instant since := by
    have earlier := (sound.prompt tab promise here instant since).1
    have later := prompt tab promise here instant since
    simp only [step]
    omega

/-- A tab sends the cookie, or joins the exchange it has. -/
theorem Sound.refreshTokens (sound : state.Sound delay) (tab : Fin tabs) :
    Sound delay (step settings state (.refreshTokens tab)) := by
  simp only [step]
  cases idle : state.refreshPromise tab with
  | some promise => exact sound
  | none =>
      refine ⟨fun hash own => ?_, fun other hash instant here => ?_,
        fun other hash instant here => ?_, fun other promise here instant since => ?_⟩
      · rcases sound.cookie hash own with current | ⟨instant, other, issued, replaced, there⟩
        · exact .inl current
        · refine .inr ⟨instant, other, issued, replaced, put_eq_some.mpr (.inr ⟨?_, there⟩)⟩
          rintro rfl
          cases idle.symm.trans there
      · rcases put_eq_some.mp here with ⟨rfl, sent⟩ | ⟨-, there⟩
        · simp only [Option.some.injEq, RefreshPromise.sent.injEq] at sent
          obtain ⟨own, rfl⟩ := sent
          -- What is sent is the cookie: its successor, if any, is under way since then.
          rcases sound.cookie hash own with current | ⟨instant, third, issued, replaced, there⟩
          · exact .inl current
          · exact .inr ⟨instant, replaced, (sound.prompt third _ there instant rfl).2⟩
        · exact sound.sent other hash instant there
      · rcases put_eq_some.mp here with ⟨-, sent⟩ | ⟨-, there⟩
        · cases sent
        · obtain ⟨current, apart, unsent, alone⟩ := sound.issued other hash instant there
          refine ⟨current, apart, fun third sentAt sent => ?_, fun third answeredAt answered => ?_⟩
          · rcases put_eq_some.mp sent with ⟨-, own⟩ | ⟨-, known⟩
            · simp only [Option.some.injEq, RefreshPromise.sent.injEq] at own
              exact apart own.1
            · exact unsent third sentAt known
          · rcases put_eq_some.mp answered with ⟨-, own⟩ | ⟨-, known⟩
            · cases own
            · exact alone third answeredAt known
      · rcases put_eq_some.mp here with ⟨-, sent⟩ | ⟨-, there⟩
        · cases sent
          cases since
          simp only [put]
          omega
        · exact sound.prompt other promise there instant since

/-- A token that is rotated on its way is a moment old, and its successor nobody else's. -/
theorem Sound.rotated (sound : state.Sound delay) {tab : Fin tabs} {presented : String}
    {sentAt : Int} (here : state.refreshPromise tab = some (.sent (some presented) sentAt))
    {server : IdentityStore} {successor : String}
    (vacant : state.server.rows (.refreshToken successor) = none)
    (replaced : Replaced server presented state.now) (current : Unrevoked server successor)
    (kept : ∀ hash, hash ≠ presented → hash ≠ successor →
      server.rows (.refreshToken hash) = state.server.rows (.refreshToken hash)) :
    Sound delay { state.put tab (some (.answered (some successor) state.now)) with server } := by
  have new {hash : String} (member : hash ∈ state.held) : hash ≠ successor := by
    rintro rfl
    exact sound.stored member vacant
  refine ⟨fun hash own => ?_, fun other hash instant sent => ?_,
    fun other hash instant answered => ?_, fun other promise there instant since => ?_⟩
  · by_cases rotated : hash = presented
    · subst rotated
      exact .inr ⟨_, tab, successor, replaced, put_eq_some.mpr (.inl ⟨rfl, rfl⟩)⟩
    · have same := kept hash rotated (new (mem_held.mpr (.inl own)))
      simp only [Unrevoked, Replaced, same]
      rcases sound.cookie hash own with current | ⟨instant, other, issued, replaced, there⟩
      · exact .inl current
      · refine .inr ⟨instant, other, issued, replaced, put_eq_some.mpr (.inr ⟨?_, there⟩)⟩
        rintro rfl
        cases here.symm.trans there
  · rcases put_eq_some.mp sent with ⟨-, answered⟩ | ⟨-, there⟩
    · cases answered
    · by_cases rotated : hash = presented
      · subst rotated
        have earlier := (sound.prompt other _ there instant rfl).1
        exact .inr ⟨_, replaced, by omega⟩
      · have same := kept hash rotated (new (mem_held.mpr (.inr ⟨other, _, there, .inl rfl⟩)))
        simp only [Unrevoked, Replaced, same]
        exact sound.sent other hash instant there
  · rcases put_eq_some.mp answered with ⟨rfl, own⟩ | ⟨apart, there⟩
    · simp only [Option.some.injEq, RefreshPromise.answered.injEq] at own
      obtain ⟨rfl, rfl⟩ := own
      refine ⟨current, fun own => new (mem_held.mpr (.inl own)) rfl, fun third sentAt sent => ?_,
        fun third answeredAt answered => ?_⟩
      · rcases put_eq_some.mp sent with ⟨-, answered⟩ | ⟨-, known⟩
        · cases answered
        · exact new (mem_held.mpr (.inr ⟨third, _, known, .inl rfl⟩)) rfl
      · rcases put_eq_some.mp answered with ⟨same, -⟩ | ⟨-, known⟩
        · exact same
        · exact absurd rfl (new (mem_held.mpr (.inr ⟨third, _, known, .inr rfl⟩)))
    · obtain ⟨unrevoked, foreign, unsent, alone⟩ := sound.issued other hash instant there
      have member : hash ∈ state.held := mem_held.mpr (.inr ⟨other, _, there, .inr rfl⟩)
      have unpresented : hash ≠ presented := by
        rintro rfl
        exact unsent tab sentAt here
      have same := kept hash unpresented (new member)
      refine ⟨by simpa only [Unrevoked, same] using unrevoked, foreign, fun third sentAt sent => ?_,
        fun third answeredAt answered => ?_⟩
      · rcases put_eq_some.mp sent with ⟨-, answered⟩ | ⟨-, known⟩
        · cases answered
        · exact unsent third sentAt known
      · rcases put_eq_some.mp answered with ⟨-, own⟩ | ⟨-, known⟩
        · simp only [Option.some.injEq, RefreshPromise.answered.injEq] at own
          exact absurd own.1.symm (new member)
        · exact alone third answeredAt known
  · rcases put_eq_some.mp there with ⟨-, answered⟩ | ⟨-, known⟩
    · cases answered
      cases since
      exact ⟨le_refl _, by simp only [put]; omega⟩
    · exact sound.prompt other promise known instant since

/-- A refresh reaches the server with a token that is current, or was until a moment ago. -/
theorem Sound.reaches (sound : state.Sound delay)
    (within : 2 * (delay : Int) ≤ settings.refreshReuseGrace) (tab : Fin tabs)
    (successor : String) :
    Unpunished settings state (.reaches tab successor) ∧
      Sound delay (step settings state (.reaches tab successor)) := by
  cases here : state.refreshPromise tab with
  | none => simp [Unpunished, step, here, sound]
  | some promise =>
      cases promise with
      | answered issued instant => simp [Unpunished, RefreshPromise.presented?, step, here, sound]
      | settled refreshed => simp [Unpunished, RefreshPromise.presented?, step, here, sound]
      | sent cookie sentAt =>
          have refused :
              Sound delay (state.put tab (some (.answered none state.now))) := by
            refine sound.idled ?_ ?_ ?_ <;> simp [here, RefreshPromise.issued?,
              RefreshPromise.presented?, RefreshPromise.since?]
          cases cookie with
          | none =>
              refine ⟨by simp [Unpunished, RefreshPromise.presented?, here], ?_⟩
              simp only [step, here, refreshEndpoint]
              exact refused
          | some presented =>
              have unpunished (given : Option SessionAnswer)
                  (harmless : given ≠ some .reuseDetected)
                  (told : answer settings state.server (.refresh presented successor state.now) =
                    given) : Unpunished settings state (.reaches tab successor) := by
                simpa [Unpunished, RefreshPromise.presented?, here, told] using harmless
              simp only [step, here, refreshEndpoint]
              rcases sound.sent tab presented sentAt here with
                current | ⟨replacedAt, replaced, recent⟩
              · rcases @refresh_current settings state.server presented successor state.now
                    current with
                  ⟨told, same⟩ | ⟨⟨userId, told⟩, vacant, replaced, fresh, kept⟩
                · refine ⟨unpunished none (by simp) told, ?_⟩
                  rw [told, same]
                  exact refused
                · refine ⟨unpunished _ (by simp) told, ?_⟩
                  rw [told]
                  exact sound.rotated here vacant replaced fresh kept
              · have arrived := (sound.prompt tab _ here sentAt rfl).2
                obtain ⟨told, same⟩ := @refresh_recent settings state.server presented successor
                  state.now replacedAt replaced (by omega)
                refine ⟨unpunished none (by simp) told, ?_⟩
                rw [told, same]
                exact refused

/-- The response arrives, and with it the cookie it sets. -/
theorem Sound.arrives (sound : state.Sound delay) (tab : Fin tabs) :
    Sound delay (step settings state (.arrives tab)) := by
  simp only [step]
  cases here : state.refreshPromise tab with
  | none => exact sound
  | some promise =>
      cases promise with
      | sent cookie instant => exact sound
      | settled refreshed => exact sound
      | answered issued instant =>
          cases issued with
          | none =>
              refine sound.idled ?_ ?_ ?_ <;> simp [here, RefreshPromise.issued?,
                RefreshPromise.presented?, RefreshPromise.since?]
          | some fresh =>
              obtain ⟨current, -, unsent, alone⟩ := sound.issued tab fresh instant here
              refine ⟨fun hash own => ?_, fun other hash sentAt sent => ?_,
                fun other hash answeredAt answered => ?_, fun other promise there since => ?_⟩
              · cases own
                exact .inl current
              · rcases put_eq_some.mp sent with ⟨-, settled⟩ | ⟨-, there⟩
                · cases settled
                · exact sound.sent other hash sentAt there
              · rcases put_eq_some.mp answered with ⟨-, settled⟩ | ⟨apart, there⟩
                · cases settled
                · obtain ⟨unrevoked, -, unpresented, only⟩ :=
                    sound.issued other hash answeredAt there
                  refine ⟨unrevoked, ?_, fun third sentAt sent => ?_,
                    fun third later answered => ?_⟩
                  · rintro own
                    cases own
                    exact apart (alone other answeredAt there)
                  · rcases put_eq_some.mp sent with ⟨-, settled⟩ | ⟨-, known⟩
                    · cases settled
                    · exact unpresented third sentAt known
                  · rcases put_eq_some.mp answered with ⟨-, settled⟩ | ⟨-, known⟩
                    · cases settled
                    · exact only third later known
              · rcases put_eq_some.mp there with ⟨-, settled⟩ | ⟨-, known⟩
                · cases settled
                  exact fun member => absurd member (by simp [RefreshPromise.since?])
                · exact sound.prompt other promise known since

theorem Sound.fails (sound : state.Sound delay) {tab : Fin tabs}
    (lossless : Lossless settings state (.fails tab)) :
    Sound delay (step settings state (.fails tab)) := by
  simp only [step]
  cases here : state.refreshPromise tab with
  | none => exact sound
  | some promise =>
      have ended : Sound delay (state.put tab (some (.settled false))) := by
        refine sound.idled lossless ?_ ?_ <;> simp [RefreshPromise.issued?,
          RefreshPromise.presented?, RefreshPromise.since?]
      cases promise with
      | settled refreshed => exact sound
      | sent cookie instant => exact ended
      | answered issued instant => exact ended

theorem Sound.clears (sound : state.Sound delay) (tab : Fin tabs) :
    Sound delay (step settings state (.clears tab)) := by
  simp only [step]
  cases here : state.refreshPromise tab with
  | none => exact sound
  | some promise =>
      cases promise with
      | sent cookie instant => exact sound
      | answered issued instant => exact sound
      | settled refreshed => refine sound.idled ?_ ?_ ?_ <;> simp [here, RefreshPromise.issued?]

/-- A sign-in gives the browser a token of its own. -/
theorem Sound.login (sound : state.Sound delay) (userId : Nat) (organizationId : Option Nat)
    (hash : String) : Sound delay (step settings state (.login userId organizationId hash)) := by
  simp only [step]
  rcases @signIn_issued settings state.server state.now userId organizationId hash with
    ⟨told, same⟩ | ⟨told, vacant, current, kept⟩
  · rw [told, same]
    exact sound
  · rw [told]
    have new {other : String} (member : other ∈ state.held) : other ≠ hash := by
      rintro rfl
      exact sound.stored member vacant
    have served := sound.served fun other member => kept other (new member)
    refine ⟨fun other own => ?_, served.sent, fun tab other instant here => ?_, served.prompt⟩
    · cases own
      exact .inl current
    · obtain ⟨unrevoked, -, unsent, alone⟩ := served.issued tab other instant here
      refine ⟨unrevoked, ?_, unsent, alone⟩
      rintro own
      cases own
      exact new (mem_held.mpr (.inr ⟨tab, _, here, .inr rfl⟩)) rfl

theorem Sound.logout (sound : state.Sound delay) (lossless : Lossless settings state .logout) :
    Sound delay (step settings state .logout) := by
  simp only [step]
  cases own : state.cookie with
  | none => exact sound
  | some hash =>
      -- Without its cookie the browser holds only what is under way, which is not the cookie.
      have under_way : Sound delay { state with cookie := none } := by
        refine ⟨fun other signedOut => ?_, sound.sent, fun tab other instant here => ?_,
          sound.prompt⟩
        · cases signedOut
        · obtain ⟨unrevoked, -, unsent, alone⟩ := sound.issued tab other instant here
          exact ⟨unrevoked, by simp, unsent, alone⟩
      apply under_way.served
      intro other member
      apply logout_rows
      rintro rfl
      rcases mem_held.mp member with signedOut | ⟨tab, promise, here, presented | issued⟩
      · cases signedOut
      · exact lossless tab promise here other presented own
      · cases promise with
        | sent cookie instant => cases issued
        | settled refreshed => cases issued
        | answered fresh instant =>
            cases issued
            exact (sound.issued tab other instant here).2.1 own

/-- One step: where messages are prompt, no refresh is punished, and the tokens stay sound. -/
theorem Sound.step (sound : state.Sound delay)
    (within : 2 * (delay : Int) ≤ settings.refreshReuseGrace) (action : BrowserAction tabs)
    (lossless : Lossless settings state action) (prompt : Prompt delay state action) :
    Unpunished settings state action ∧ Sound delay (step settings state action) := by
  cases action with
  | elapse duration => exact ⟨trivial, sound.elapse prompt⟩
  | refreshTokens tab => exact ⟨trivial, sound.refreshTokens tab⟩
  | reaches tab successor => exact sound.reaches within tab successor
  | arrives tab => exact ⟨trivial, sound.arrives tab⟩
  | fails tab => exact ⟨trivial, sound.fails lossless⟩
  | clears tab => exact ⟨trivial, sound.clears tab⟩
  | login userId organizationId hash => exact ⟨trivial, sound.login userId organizationId hash⟩
  | logout => exact ⟨trivial, sound.logout lossless⟩
  | elsewhere request => exact ⟨trivial, sound.served lossless⟩

end Soundness

/-- A browser that is not signed in. -/
def opened (tabs : Nat) (server : IdentityStore) (now : Int) : Browser tabs :=
  ⟨server, now, none, fun _ => none⟩

theorem opened_sound {delay : Nat} {server : IdentityStore} {now : Int} :
    Sound delay (opened tabs server now) where
  cookie _ own := by cases own
  sent _ _ _ here := by cases here
  issued _ _ _ here := by cases here
  prompt _ _ here := by cases here

/-- A user with an account signs in and opens a second tab. Both tabs refresh with the one cookie;
the second request is served while the response to the first is under way. -/
def twoTabs (meanwhile : Nat) : List (BrowserAction 2) :=
  [.login 1 none "first", .refreshTokens 0, .refreshTokens 1, .reaches 0 "second",
    .elapse meanwhile, .reaches 1 "third", .arrives 0, .arrives 1, .clears 1, .refreshTokens 1,
    .reaches 1 "fourth"]

def signedUp : IdentityStore :=
  ⟨fun
    | .user _ => some ⟨none, true⟩
    | .refreshToken _ => none
    | .resetToken _ => none, []⟩

/-- A request that is served after the grace period ends the session. -/
example : ¬ Runs.Guarded (step quickSettings) (Unpunished quickSettings) (opened 2 signedUp 0)
    (twoTabs 6) := by decide +kernel

end Browser

end SynapseSaas.Console
