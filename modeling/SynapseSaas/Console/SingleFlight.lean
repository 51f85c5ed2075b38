import SynapseSaas.Console.Refresh

/-! Within a tab, and among tabs that take turns, the time a message takes does not matter. -/

set_option autoImplicit false

namespace SynapseSaas.Console

open ReadCommitted Identity IdentityService

namespace Browser

variable {tabs : Nat}

/-- A message of the tab is under way. -/
def Busy (state : Browser tabs) (tab : Fin tabs) : Prop :=
  ∃ promise ∈ state.refreshPromise tab, promise.since?.isSome

instance (state : Browser tabs) : DecidablePred state.Busy := fun tab =>
  inferInstanceAs (Decidable (∃ promise ∈ state.refreshPromise tab, promise.since?.isSome))

/-- No tab asks for tokens while another does. -/
def InTurn (state : Browser tabs) : BrowserAction tabs → Prop
  | .refreshTokens tab => ∀ other, state.Busy other → other = tab
  | _ => True

/-- Each refresh that is served presents a token that is not revoked. -/
def PresentsCurrent (state : Browser tabs) : BrowserAction tabs → Prop
  | .reaches tab _ => ∀ promise ∈ state.refreshPromise tab, ∀ hash ∈ promise.presented?,
      Unrevoked state.server hash
  | _ => True

/-- What holds of the tokens in a browser whose tabs take turns. -/
structure Single (state : Browser tabs) : Prop where
  cookie : ∀ hash, state.cookie = some hash → Unrevoked state.server hash ∨
    ∃ tab issued instant, state.refreshPromise tab = some (.answered (some issued) instant)
  sent : ∀ tab hash instant, state.refreshPromise tab = some (.sent (some hash) instant) →
    Unrevoked state.server hash
  issued : ∀ tab hash instant, state.refreshPromise tab = some (.answered (some hash) instant) →
    Unrevoked state.server hash ∧ state.cookie ≠ some hash
  alone : ∀ first second, state.Busy first → state.Busy second → first = second

section Turns

variable {settings : IdentitySettings} {state : Browser tabs}

theorem busy_of_some {tab : Fin tabs} {promise : RefreshPromise}
    (here : state.refreshPromise tab = some promise) (since : promise.since?.isSome) :
    state.Busy tab := ⟨promise, here, since⟩

/-- The tab whose turn it is may do as it likes with tokens that are current. -/
theorem single_of_turn {tab : Fin tabs} (turn : ∀ other, state.Busy other → other = tab)
    {promise : Option RefreshPromise} {server : IdentityStore} {cookie : Option String}
    (held : ∀ hash, cookie = some hash → Unrevoked server hash ∨
      ∃ issued instant, promise = some (.answered (some issued) instant))
    (sent : ∀ hash instant, promise = some (.sent (some hash) instant) → Unrevoked server hash)
    (issued : ∀ hash instant, promise = some (.answered (some hash) instant) →
      Unrevoked server hash ∧ cookie ≠ some hash) :
    Single { state.put tab promise with server, cookie } where
  cookie hash own := by
    rcases held hash own with current | ⟨issued, instant, answered⟩
    · exact .inl current
    · exact .inr ⟨tab, issued, instant, put_eq_some.mpr (.inl ⟨rfl, answered⟩)⟩
  sent other hash instant here := by
    rcases put_eq_some.mp here with ⟨-, own⟩ | ⟨apart, there⟩
    · exact sent hash instant own
    · exact absurd (turn other (busy_of_some there rfl)) apart
  issued other hash instant here := by
    rcases put_eq_some.mp here with ⟨-, own⟩ | ⟨apart, there⟩
    · exact issued hash instant own
    · exact absurd (turn other (busy_of_some there rfl)) apart
  alone := by
    have mine (other : Fin tabs)
        (busy : Busy { state.put tab promise with server, cookie } other) : other = tab := by
      obtain ⟨found, here, since⟩ := busy
      rcases put_eq_some.mp here with ⟨same, -⟩ | ⟨-, there⟩
      · exact same
      · exact turn other (busy_of_some there since)
    intro first second left right
    rw [mine first left, mine second right]

theorem Single.turn (single : state.Single) {tab : Fin tabs} (busy : state.Busy tab)
    (other : Fin tabs) (too : state.Busy other) : other = tab := single.alone other tab too busy

theorem Single.served (single : state.Single) {server : IdentityStore}
    (kept : ∀ hash ∈ state.held,
      server.rows (.refreshToken hash) = state.server.rows (.refreshToken hash)) :
    Single { state with server } where
  cookie hash own := by
    have same := kept hash (mem_held.mpr (.inl own))
    simp only [Unrevoked, same]
    exact single.cookie hash own
  sent tab hash instant here := by
    have same := kept hash (mem_held.mpr (.inr ⟨tab, _, here, .inl rfl⟩))
    simp only [Unrevoked, same]
    exact single.sent tab hash instant here
  issued tab hash instant here := by
    have same := kept hash (mem_held.mpr (.inr ⟨tab, _, here, .inr rfl⟩))
    simp only [Unrevoked, same]
    exact single.issued tab hash instant here
  alone := single.alone

theorem Single.refreshTokens (single : state.Single) {tab : Fin tabs}
    (inTurn : InTurn state (.refreshTokens tab)) :
    Single (step settings state (.refreshTokens tab)) := by
  simp only [step]
  cases idle : state.refreshPromise tab with
  | some promise => exact single
  | none =>
      have current (hash : String) (own : state.cookie = some hash) :
          Unrevoked state.server hash := by
        rcases single.cookie hash own with current | ⟨other, issued, instant, there⟩
        · exact current
        · cases inTurn other (busy_of_some there rfl)
          cases idle.symm.trans there
      refine single_of_turn inTurn (fun hash own => .inl (current hash own)) ?_ ?_
      · intro hash instant sent
        simp only [Option.some.injEq, RefreshPromise.sent.injEq] at sent
        exact current hash sent.1
      · intro hash instant answered
        cases answered

theorem Single.reaches (single : state.Single) (tab : Fin tabs) (successor : String) :
    PresentsCurrent state (.reaches tab successor) ∧
      Single (step settings state (.reaches tab successor)) := by
  cases here : state.refreshPromise tab with
  | none => simp [PresentsCurrent, step, here, single]
  | some promise =>
      cases promise with
      | answered issued instant =>
          simp [PresentsCurrent, RefreshPromise.presented?, step, here, single]
      | settled refreshed => simp [PresentsCurrent, RefreshPromise.presented?, step, here, single]
      | sent cookie sentAt =>
          have turn := single.turn (busy_of_some here rfl)
          have current (hash : String) (own : state.cookie = some hash) :
              Unrevoked state.server hash := by
            rcases single.cookie hash own with current | ⟨other, issued, instant, there⟩
            · exact current
            · cases turn other (busy_of_some there rfl)
              cases here.symm.trans there
          have refused : Single (state.put tab (some (.answered none state.now))) :=
            single_of_turn turn (fun hash own => .inl (current hash own))
              (fun hash instant sent => by cases sent)
              (fun hash instant answered => by cases answered)
          cases cookie with
          | none =>
              refine ⟨by simp [PresentsCurrent, RefreshPromise.presented?, here], ?_⟩
              simp only [step, here, refreshEndpoint]
              exact refused
          | some presented =>
              have unrevoked := single.sent tab presented sentAt here
              have presents : PresentsCurrent state (.reaches tab successor) := by
                simpa [PresentsCurrent, RefreshPromise.presented?, here] using unrevoked
              refine ⟨presents, ?_⟩
              simp only [step, here, refreshEndpoint]
              rcases @refresh_current settings state.server presented successor state.now
                  unrevoked with
                ⟨told, same⟩ | ⟨⟨userId, told⟩, vacant, replaced, fresh, kept⟩
              · rw [told, same]
                exact refused
              · rw [told]
                refine single_of_turn turn (fun hash own => .inr ⟨_, _, rfl⟩) ?_ ?_
                · intro hash instant sent
                  cases sent
                · intro hash instant answered
                  cases answered
                  refine ⟨fresh, fun own => ?_⟩
                  obtain ⟨token, found, -⟩ := current successor own
                  cases vacant.symm.trans found

theorem Single.arrives (single : state.Single) (tab : Fin tabs) :
    Single (step settings state (.arrives tab)) := by
  simp only [step]
  cases here : state.refreshPromise tab with
  | none => exact single
  | some promise =>
      cases promise with
      | sent cookie instant => exact single
      | settled refreshed => exact single
      | answered issued instant =>
          refine single_of_turn (single.turn (busy_of_some here rfl)) ?_
            (fun hash instant sent => by cases sent)
            (fun hash instant answered => by cases answered)
          intro hash own
          cases issued with
          | some fresh =>
              cases own
              exact .inl (single.issued tab hash instant here).1
          | none =>
              rcases single.cookie hash own with current | ⟨other, issued, instant, there⟩
              · exact .inl current
              · cases single.turn (busy_of_some here rfl) other (busy_of_some there rfl)
                cases here.symm.trans there

theorem Single.fails (single : state.Single) {tab : Fin tabs}
    (lossless : Lossless settings state (.fails tab)) :
    Single (step settings state (.fails tab)) := by
  simp only [step]
  cases here : state.refreshPromise tab with
  | none => exact single
  | some promise =>
      have ended (busy : state.Busy tab) : Single (state.put tab (some (.settled false))) := by
        refine single_of_turn (single.turn busy) ?_ (fun hash instant sent => by cases sent)
          (fun hash instant answered => by cases answered)
        intro hash own
        rcases single.cookie hash own with current | ⟨other, issued, instant, there⟩
        · exact .inl current
        · cases single.turn busy other (busy_of_some there rfl)
          cases lossless _ there
      cases promise with
      | settled refreshed => exact single
      | sent cookie instant => exact ended (busy_of_some here rfl)
      | answered issued instant => exact ended (busy_of_some here rfl)

theorem Single.clears (single : state.Single) (tab : Fin tabs) :
    Single (step settings state (.clears tab)) := by
  simp only [step]
  cases here : state.refreshPromise tab with
  | none => exact single
  | some promise =>
      cases promise with
      | sent cookie instant => exact single
      | answered issued instant => exact single
      | settled refreshed =>
          refine ⟨fun hash own => ?_, fun other hash instant sent => ?_,
            fun other hash instant answered => ?_, fun first second left right => ?_⟩
          · rcases single.cookie hash own with current | ⟨other, issued, instant, there⟩
            · exact .inl current
            · refine .inr ⟨other, issued, instant, put_eq_some.mpr (.inr ⟨?_, there⟩)⟩
              rintro rfl
              cases here.symm.trans there
          · rcases put_eq_some.mp sent with ⟨-, gone⟩ | ⟨-, there⟩
            · cases gone
            · exact single.sent other hash instant there
          · rcases put_eq_some.mp answered with ⟨-, gone⟩ | ⟨-, there⟩
            · cases gone
            · exact single.issued other hash instant there
          · have still (other : Fin tabs) (busy : Busy (state.put tab none) other) :
                state.Busy other := by
              obtain ⟨found, there, since⟩ := busy
              rcases put_eq_some.mp there with ⟨-, gone⟩ | ⟨-, known⟩
              · cases gone
              · exact busy_of_some known since
            exact single.alone first second (still first left) (still second right)

/-- A sign-in, or a logout, that leaves what is under way as it is. -/
theorem Single.renewed (single : state.Single) {server : IdentityStore} {cookie : Option String}
    (own : ∀ hash, cookie = some hash → Unrevoked server hash)
    (kept : ∀ tab promise hash, state.refreshPromise tab = some promise →
      promise.presented? = some hash ∨ promise.issued? = some hash →
      Unrevoked state.server hash →
        server.rows (.refreshToken hash) = state.server.rows (.refreshToken hash))
    (apart : ∀ tab hash instant, state.refreshPromise tab = some (.answered (some hash) instant) →
      cookie ≠ some hash) :
    Single { state with server, cookie } where
  cookie hash mine := .inl (own hash mine)
  sent tab hash instant here := by
    have current := single.sent tab hash instant here
    simp only [Unrevoked, kept tab _ hash here (.inl rfl) current]
    exact current
  issued tab hash instant here := by
    have current := (single.issued tab hash instant here).1
    simp only [Unrevoked, kept tab _ hash here (.inr rfl) current]
    exact ⟨current, apart tab hash instant here⟩
  alone := single.alone

theorem Single.login (single : state.Single) (userId : Nat) (organizationId : Option Nat)
    (hash : String) : Single (step settings state (.login userId organizationId hash)) := by
  simp only [step]
  rcases @signIn_issued settings state.server state.now userId organizationId hash with
    ⟨told, same⟩ | ⟨told, vacant, current, kept⟩
  · rw [told, same]
    exact single
  · rw [told]
    have new {other : String} (unrevoked : Unrevoked state.server other) : other ≠ hash := by
      rintro rfl
      obtain ⟨token, found, -⟩ := unrevoked
      cases vacant.symm.trans found
    refine single.renewed (fun other own => ?_)
      (fun tab promise other here carried unrevoked => kept other (new unrevoked))
      (fun tab other instant here own => ?_)
    · cases own
      exact current
    · cases own
      exact new (single.issued tab hash instant here).1 rfl

theorem Single.logout (single : state.Single) (lossless : Lossless settings state .logout) :
    Single (step settings state .logout) := by
  simp only [step]
  cases own : state.cookie with
  | none => exact single
  | some hash =>
      refine single.renewed (fun other signedOut => by cases signedOut) ?_
        (fun tab other instant here signedOut => by cases signedOut)
      intro tab promise other here carried unrevoked
      apply logout_rows
      rintro rfl
      rcases carried with presented | issued
      · exact lossless tab promise here other presented own
      · cases promise with
        | sent cookie instant => cases issued
        | settled refreshed => cases issued
        | answered fresh instant =>
            cases issued
            exact (single.issued tab other instant here).2 own

/-- One step: where tabs take turns, a refresh presents a current token, and so it stays. -/
theorem Single.step (single : state.Single) (action : BrowserAction tabs)
    (lossless : Lossless settings state action) (inTurn : InTurn state action) :
    PresentsCurrent state action ∧ Single (step settings state action) := by
  cases action with
  | elapse duration =>
      exact ⟨trivial, single.cookie, single.sent, single.issued, single.alone⟩
  | refreshTokens tab => exact ⟨trivial, single.refreshTokens inTurn⟩
  | reaches tab successor => exact single.reaches tab successor
  | arrives tab => exact ⟨trivial, single.arrives tab⟩
  | fails tab => exact ⟨trivial, single.fails lossless⟩
  | clears tab => exact ⟨trivial, single.clears tab⟩
  | login userId organizationId hash => exact ⟨trivial, single.login userId organizationId hash⟩
  | logout => exact ⟨trivial, single.logout lossless⟩
  | elsewhere request => exact ⟨trivial, single.served lossless⟩

end Turns

theorem opened_single {server : IdentityStore} {now : Int} : Single (opened tabs server now) where
  cookie _ own := by cases own
  sent _ _ _ here := by cases here
  issued _ _ _ here := by cases here
  alone _ _ busy := by
    obtain ⟨promise, here, -⟩ := busy
    cases here

/-- Where no two tabs ask at once and no token is lost on its way, every refresh presents the
token that is current, however long messages take. -/
theorem refreshes_in_turn_present_current (settings : IdentitySettings) (server : IdentityStore)
    (now : Int) (actions : List (BrowserAction tabs))
    (orderly : Runs.Guarded (step settings)
      (fun state action => Lossless settings state action ∧ InTurn state action)
      (opened tabs server now) actions) :
    Runs.Guarded (step settings) PresentsCurrent (opened tabs server now) actions :=
  Runs.guarded_mono_among _
    (fun _ action (_ : True) single kept => (single.step action kept.1 kept.2).2)
    (fun _ action (_ : True) single kept => (single.step action kept.1 kept.2).1) opened_single
    (fun _ _ => trivial) orderly

/-- One tab takes its turns by itself: whoever calls `refreshTokens` meanwhile joins its
exchange. -/
theorem one_tab_in_turn (state : Browser 1) (action : BrowserAction 1) : InTurn state action := by
  cases action with
  | refreshTokens tab => exact fun other _ => Subsingleton.elim other tab
  | _ => trivial

/-- Three callers are refused at once, and the response takes longer than the grace period. -/
def threeCallers : List (BrowserAction 1) :=
  [.login 1 none "first", .refreshTokens 0, .refreshTokens 0, .reaches 0 "second",
    .refreshTokens 0, .elapse 60, .arrives 0, .clears 0, .refreshTokens 0, .reaches 0 "third"]

end Browser

end SynapseSaas.Console
