import SynapseSaas.Core.CacheSystem
import SynapseSaas.Entitlements.Service
import SynapseSaas.Foundation.Runs
import SynapseSaas.Subscriptions.Service

/-! The cache of entitlements that all transactions share. A service that changes
entitlements bumps the organization's counter within its transaction, so that the same
request resolves anew, and again after the commit; what it resolves is stored for everyone.

Each statement sees what is committed when it runs, under the changes of its own transaction. -/

set_option autoImplicit false

namespace SynapseSaas

namespace Query

variable {Rows Answer : Type}

/-- What is left of a query after statements at these commits. -/
def after (draft : Rows → Rows) (history : Nat → Rows) : Query Rows Answer → List Nat →
    Query Rows Answer
  | query, [] => query
  | .done answer, _ :: _ => .done answer
  | .select next, commit :: rest => (next (draft (history commit))).after draft history rest

/-- The answer when all statements see the same rows. -/
def on (rows : Rows) : Query Rows Answer → Answer
  | .done answer => answer
  | .select next => (next rows).on rows

end Query

namespace SharedCache

/-- `_compute`: the subscription, its plan or the default one, the grants, the metrics. -/
def compute (env : Env) (organization : Nat) : Query Db EffectiveEntitlements :=
  .select fun subscribed =>
    let subscription := subscribed.currentForOrg organization
    .select fun cataloged =>
      let plan := effectivePlan env cataloged subscription
      .select fun granted =>
        let grants := granted.entitlements.filter fun row =>
          row.organizationId = organization ∧ row.revokedAt.isNone
        .select fun metered =>
          .done (resolveEffective
            { organizationId := organization
              now := env.now
              planKey := plan.map (·.key)
              subscriptionStatus := subscription.map (·.status)
              planFeatures := (plan.map (·.features.map (·.featureKey))).getD []
              planLimits := (plan.map (·.limits.map fun row => (row.metric, row.limit))).getD []
              grants := grants.map Entitlement.grant
              metricOverage := metered.metrics.filterMap fun metric =>
                metric.overage.map fun overage => (metric.key, overage)
              graceOnPastDue := env.settings.graceOnPastDue })

theorem compute_on (env : Env) (organization : Nat) (db : Db) :
    (compute env organization).on db = computeEntitlements env db organization := rfl

/-- How far a call of `effective_for_org` has come. -/
inductive Resolution where
  | idle
  | started (organization : Nat)
  | versionRead (organization version : Nat)
  /-- For the record: the clock it reads, and the commits its statements saw so far. -/
  | computing (organization version : Nat) (now : Int) (seen : List Nat)
      (query : Query Db EffectiveEntitlements)

inductive Standing where
  | live | flushing | closed
  deriving DecidableEq

/-- The session of a request: its uncommitted changes, the bumps it has queued, and the
resolution it is in. -/
structure Session where
  draft : Db → Db := id
  changed : Bool := false
  deferred : List Nat := []
  resolution : Resolution := .idle
  standing : Standing := .live

/-- The commits the statements of its resolution saw. -/
def Session.seen (session : Session) : List Nat :=
  match session.resolution with
  | .computing _ _ _ seen _ => seen
  | _ => []

/-- A cached body; which session stored it is for the record. -/
structure Stored where
  author : Nat
  body : EffectiveEntitlements
  deriving DecidableEq

structure Served where
  reader : Nat
  author : Nat
  organization : Nat
  body : EffectiveEntitlements
  deriving DecidableEq

end SharedCache

structure SharedCache where
  history : Nat → Db
  commits : Nat := 0
  counters : Nat → Nat := fun _ => 0
  bodies : Nat → Nat → Option SharedCache.Stored := fun _ _ => none
  sessions : List SharedCache.Session := []
  served : List SharedCache.Served := []

namespace SharedCache

inductive Action where
  | open
  /-- A service writes rows and flushes them. -/
  | mutate (session : Nat) (change : Db → Db)
  | invalidate (session organization : Nat)
  | effectiveForOrg (session organization : Nat)
  | readVersion (session : Nat)
  | readBody (session : Nat) (now : Int)
  | select (session : Nat)
  | store (session : Nat)
  | commit (session : Nat)
  | flushBump (session : Nat)
  | rollback (session : Nat)
  | expire (organization version : Nat)
  /-- A counter of the in-process backend is evicted. -/
  | forget (organization : Nat)

variable (settings : Settings) (state : SharedCache)

def rows : Db := state.history state.commits

def enter (index : Nat) (session : Session) : SharedCache :=
  { state with sessions := state.sessions.set index session }

def bump (organization : Nat) : SharedCache :=
  { state with
    counters := Function.update state.counters organization (state.counters organization + 1) }

def serve (reader author organization : Nat) (body : EffectiveEntitlements) : SharedCache :=
  { state with served := state.served ++ [⟨reader, author, organization, body⟩] }

def keep (organization version : Nat) (stored : Option Stored) : SharedCache :=
  { state with
    bodies := Function.update state.bodies organization
      (Function.update (state.bodies organization) version stored) }

/-- What one session does next; nothing, where it is not at that point. -/
def advance (index : Nat) (session : Session) : Action → SharedCache
  | .mutate _ change =>
      match session.standing, session.resolution with
      | .live, .idle =>
          state.enter index { session with draft := change ∘ session.draft, changed := true }
      | _, _ => state
  | .invalidate _ organization =>
      match session.standing, session.resolution with
      | .live, .idle =>
          (state.bump organization).enter index { session with
            deferred := if organization ∈ session.deferred then session.deferred
              else session.deferred ++ [organization] }
      | _, _ => state
  | .effectiveForOrg _ organization =>
      match session.standing, session.resolution with
      | .live, .idle => state.enter index { session with resolution := .started organization }
      | _, _ => state
  | .readVersion _ =>
      match session.resolution with
      | .started organization =>
          state.enter index { session with
            resolution := .versionRead organization (state.counters organization) }
      | _ => state
  | .readBody _ now =>
      match session.resolution with
      | .versionRead organization version =>
          match state.bodies organization version with
          | some stored =>
              (state.serve index stored.author organization stored.body).enter index
                { session with resolution := .idle }
          | none =>
              state.enter index { session with
                resolution := .computing organization version now []
                  (compute { now, settings } organization) }
      | _ => state
  | .select _ =>
      match session.resolution with
      | .computing organization version now seen (.select next) =>
          state.enter index { session with
            resolution := .computing organization version now (seen ++ [state.commits])
              (next (session.draft state.rows)) }
      | _ => state
  | .store _ =>
      match session.resolution with
      | .computing organization version _ _ (.done body) =>
          ((state.keep organization version (some ⟨index, body⟩)).serve index index organization
            body).enter index { session with resolution := .idle }
      | _ => state
  | .commit _ =>
      match session.standing, session.resolution with
      | .live, .idle =>
          { state with
            history := Function.update state.history (state.commits + 1) (session.draft state.rows)
            commits := state.commits + 1
            sessions := state.sessions.set index
              { session with draft := id, changed := false, standing := .flushing } }
      | _, _ => state
  | .flushBump _ =>
      match session.standing, session.deferred with
      | .flushing, organization :: rest =>
          (state.bump organization).enter index { session with deferred := rest }
      | .flushing, [] => state.enter index { session with standing := .closed }
      | _, _ => state
  -- The exception may come from anywhere; what was queued is discarded.
  | .rollback _ =>
      match session.standing with
      | .live => state.enter index { standing := .closed }
      | _ => state
  | .open | .expire _ _ | .forget _ => state

attribute [local simp] advance

/-- The session an action is of. -/
def Action.session : Action → Option Nat
  | .mutate session _ | .invalidate session _ | .effectiveForOrg session _ | .readVersion session
  | .readBody session _ | .select session | .store session | .commit session
  | .flushBump session | .rollback session => some session
  | .open | .expire _ _ | .forget _ => none

def step (state : SharedCache) (action : Action) : SharedCache :=
  match action with
  | .open => { state with sessions := state.sessions ++ [{}] }
  | .expire organization version => state.keep organization version none
  | .forget organization =>
      { state with counters := Function.update state.counters organization 0 }
  | action =>
      match action.session with
      | some index =>
          match state.sessions[index]? with
          | some session => state.advance settings index session action
          | none => state
      | none => state

/-- The body is the resolution of a committed state, at some reading of the clock. -/
def Committed (organization : Nat) (body : EffectiveEntitlements) : Prop :=
  ∃ commit ≤ state.commits, ∃ now,
    body = computeEntitlements { now, settings } (state.history commit) organization

/-- What other transactions are served comes from committed states. -/
def Published : Prop :=
  ∀ served ∈ state.served, served.author ≠ served.reader →
    state.Committed settings served.organization served.body

/-- A session that stores what it has resolved has changed nothing yet, and no commit
fell between the statements of the resolution. -/
def Clean (state : SharedCache) : Action → Prop
  | .store index =>
      ∀ session ∈ state.sessions[index]?, session.changed = false ∧
        ∀ first ∈ session.seen, ∀ second ∈ session.seen, first = second
  | _ => True

instance cleanDecidable (state : SharedCache) : (action : Action) → Decidable (state.Clean action)
  | .store index => inferInstanceAs (Decidable (∀ session ∈ state.sessions[index]?,
      session.changed = false ∧ ∀ first ∈ session.seen, ∀ second ∈ session.seen, first = second))
  | .open | .mutate _ _ | .invalidate _ _ | .effectiveForOrg _ _ | .readVersion _ | .readBody _ _
  | .select _ | .commit _ | .flushBump _ | .rollback _ | .expire _ _ | .forget _ =>
      inferInstanceAs (Decidable True)

end SharedCache

namespace Query

variable {Rows Answer : Type} {draft : Rows → Rows} {history later : Nat → Rows}

theorem after_nil (query : Query Rows Answer) : query.after draft history [] = query := by
  cases query <;> rfl

theorem after_select (next : Rows → Query Rows Answer) (commit : Nat) :
    (select next).after draft history [commit] = next (draft (history commit)) :=
  after_nil _

theorem after_done (answer : Answer) (seen : List Nat) :
    (Query.done answer).after draft history seen = .done answer := by
  cases seen <;> rfl

/-- One more statement. -/
theorem after_concat (query : Query Rows Answer) (seen : List Nat) (commit : Nat) :
    query.after draft history (seen ++ [commit]) =
      (query.after draft history seen).after draft history [commit] := by
  induction seen generalizing query with
  | nil => rw [after_nil, List.nil_append]
  | cons first rest ih =>
      cases query with
      | done answer => rw [after_done, after_done, after_done]
      | select next => exact ih (next (draft (history first)))

/-- What the statements saw does not change with what is committed later. -/
theorem after_congr (query : Query Rows Answer) (seen : List Nat)
    (same : ∀ commit ∈ seen, later commit = history commit) :
    query.after draft later seen = query.after draft history seen := by
  induction seen generalizing query with
  | nil => rw [after_nil, after_nil]
  | cons first rest ih =>
      obtain ⟨here, others⟩ := List.forall_mem_cons.mp same
      cases query with
      | done answer => rfl
      | select next =>
          unfold after
          rw [here]
          exact ih _ others

/-- Statements that all saw one commit answer as on its rows. -/
theorem on_of_after {rows : Rows} {answer : Answer} (query : Query Rows Answer) (seen : List Nat)
    (finished : query.after id history seen = .done answer)
    (same : ∀ commit ∈ seen, history commit = rows) : query.on rows = answer := by
  induction seen generalizing query with
  | nil =>
      cases query with
      | done other =>
          cases finished
          rfl
      | select next => cases finished
  | cons first rest ih =>
      obtain ⟨here, others⟩ := List.forall_mem_cons.mp same
      cases query with
      | done other =>
          cases finished
          rfl
      | select next =>
          unfold after at finished
          rw [here] at finished
          exact ih (next rows) finished others

end Query

namespace SharedCache

/-- Without changes a session sees the committed rows; its resolution has come as far as
the statements it has run. -/
structure Session.Sound (settings : Settings) (history : Nat → Db) (commits : Nat)
    (session : Session) : Prop where
  unchanged : session.changed = false → session.draft = id
  progress : ∀ organization version now seen query,
    session.resolution = .computing organization version now seen query →
      (∀ commit ∈ seen, commit ≤ commits) ∧
        query = (compute { now, settings } organization).after session.draft history seen

/-- Everything cached and everything served comes from committed states. -/
structure Sound (settings : Settings) (state : SharedCache) : Prop where
  sessions : ∀ session ∈ state.sessions, session.Sound settings state.history state.commits
  bodies : ∀ organization version stored, state.bodies organization version = some stored →
    state.Committed settings organization stored.body
  served : ∀ served ∈ state.served, state.Committed settings served.organization served.body

section Steps

variable {settings : Settings} {state : SharedCache} {session changed : Session} {index : Nat}
  {organization version : Nat} {body : EffectiveEntitlements}

/-- A session that resolves nothing. -/
theorem Session.Sound.resting {history : Nat → Db} {commits : Nat}
    (unchanged : session.changed = false → session.draft = id)
    (resting : ∀ organization version now seen query,
      session.resolution ≠ .computing organization version now seen query) :
    session.Sound settings history commits :=
  ⟨unchanged, fun organization version now seen query here =>
    absurd here (resting organization version now seen query)⟩

theorem Sound.enter (sound : state.Sound settings)
    (entered : session.Sound settings state.history state.commits) :
    (state.enter index session).Sound settings where
  sessions := by
    intro other inside
    rcases List.mem_or_eq_of_mem_set inside with before | rfl
    · exact sound.sessions other before
    · exact entered
  bodies := sound.bodies
  served := sound.served

theorem Sound.bump (sound : state.Sound settings) (organization : Nat) :
    (state.bump organization).Sound settings :=
  ⟨sound.sessions, sound.bodies, sound.served⟩

theorem Sound.serve (sound : state.Sound settings) (reader author : Nat)
    (committed : state.Committed settings organization body) :
    (state.serve reader author organization body).Sound settings where
  sessions := sound.sessions
  bodies := sound.bodies
  served := by
    intro served inside
    rcases List.mem_append.mp inside with before | new
    · exact sound.served served before
    · rw [List.mem_singleton.mp new]
      exact committed

theorem Sound.keep (sound : state.Sound settings) (organization version : Nat)
    (kept : Option Stored)
    (committed : ∀ stored ∈ kept, state.Committed settings organization stored.body) :
    (state.keep organization version kept).Sound settings where
  sessions := sound.sessions
  bodies := by
    intro other under stored found
    simp only [SharedCache.keep, Function.update_apply] at found
    split at found
    · next same =>
        subst same
        rw [Function.update_apply] at found
        split at found
        · exact committed stored found
        · exact sound.bodies other under stored found
    · exact sound.bodies other under stored found
  served := sound.served

/-- The history a commit leaves, up to the commit before. -/
theorem history_kept {commit : Nat} {rows : Db} (earlier : commit ≤ state.commits) :
    Function.update state.history (state.commits + 1) rows commit = state.history commit :=
  Function.update_of_ne (by omega) _ _

theorem Sound.commit (sound : state.Sound settings) (rows : Db)
    (entered : changed.Sound settings state.history state.commits) :
    Sound settings
      { state with
        history := Function.update state.history (state.commits + 1) rows
        commits := state.commits + 1
        sessions := state.sessions.set index changed } := by
  have still {other : Nat} {text : EffectiveEntitlements}
      (committed : state.Committed settings other text) :
      Committed settings
        { state with
          history := Function.update state.history (state.commits + 1) rows
          commits := state.commits + 1
          sessions := state.sessions.set index changed } other text := by
    obtain ⟨commit, earlier, now, resolved⟩ := committed
    refine ⟨commit, Nat.le_succ_of_le earlier, now, ?_⟩
    dsimp only
    rw [history_kept earlier]
    exact resolved
  have carried {other : Session} (before : other.Sound settings state.history state.commits) :
      other.Sound settings (Function.update state.history (state.commits + 1) rows)
        (state.commits + 1) := by
    refine ⟨before.unchanged, fun organization version now seen query here => ?_⟩
    obtain ⟨earlier, eq⟩ := before.progress organization version now seen query here
    refine ⟨fun commit inside => Nat.le_succ_of_le (earlier commit inside), ?_⟩
    rw [eq]
    exact (Query.after_congr _ _ fun commit inside => history_kept (earlier commit inside)).symm
  refine ⟨fun other inside => ?_, fun _ _ _ found => still (sound.bodies _ _ _ found),
    fun served inside => still (sound.served served inside)⟩
  rcases List.mem_or_eq_of_mem_set inside with before | rfl
  · exact carried (sound.sessions other before)
  · exact carried entered

/-- What an unchanged session has resolved from one commit. -/
theorem Session.Sound.committed {now : Int} {seen : List Nat}
    (sound : session.Sound settings state.history state.commits)
    (finished : session.resolution = .computing organization version now seen (.done body))
    (unchanged : session.changed = false)
    (together : ∀ first ∈ seen, ∀ second ∈ seen, first = second) :
    state.Committed settings organization body := by
  obtain ⟨earlier, eq⟩ := sound.progress _ _ _ _ _ finished
  rw [sound.unchanged unchanged] at eq
  cases seen with
  | nil => cases eq
  | cons first rest =>
      have same : ∀ commit ∈ first :: rest, state.history commit = state.history first := by
        intro commit inside
        rw [together commit inside first List.mem_cons_self]
      refine ⟨first, earlier first List.mem_cons_self, now, ?_⟩
      rw [← compute_on]
      exact (Query.on_of_after _ _ eq.symm same).symm

theorem Sound.mutate (sound : state.Sound settings) (change : Db → Db) :
    (state.advance settings index session (.mutate index change)).Sound settings := by
  simp only [advance]
  split
  · next live idle =>
      exact sound.enter (.resting (fun never => by cases never) fun _ _ _ _ _ busy => by
        rw [idle] at busy
        cases busy)
  · exact sound

theorem Sound.invalidate (sound : state.Sound settings)
    (before : session.Sound settings state.history state.commits) :
    (state.advance settings index session (.invalidate index organization)).Sound settings := by
  simp only [advance]
  split
  · exact (sound.bump organization).enter ⟨before.unchanged, before.progress⟩
  · exact sound

theorem Sound.effectiveForOrg (sound : state.Sound settings)
    (before : session.Sound settings state.history state.commits) :
    (state.advance settings index session (.effectiveForOrg index organization)).Sound
      settings := by
  simp only [advance]
  split
  · exact sound.enter (.resting before.unchanged fun _ _ _ _ _ busy => by cases busy)
  · exact sound

theorem Sound.readVersion (sound : state.Sound settings)
    (before : session.Sound settings state.history state.commits) :
    (state.advance settings index session (.readVersion index)).Sound settings := by
  simp only [advance]
  split
  · exact sound.enter (.resting before.unchanged fun _ _ _ _ _ busy => by cases busy)
  · exact sound

/-- A body that is found is served; else a resolution begins. -/
theorem Sound.readBody (sound : state.Sound settings)
    (before : session.Sound settings state.history state.commits) (now : Int) :
    (state.advance settings index session (.readBody index now)).Sound settings := by
  simp only [advance]
  split
  · next organization version awaited =>
      cases found : state.bodies organization version with
      | some stored =>
          have committed := sound.bodies organization version stored found
          exact (sound.serve index stored.author committed).enter
            (.resting before.unchanged fun _ _ _ _ _ busy => by cases busy)
      | none =>
          refine sound.enter ⟨before.unchanged, fun _ _ _ _ _ begun => ?_⟩
          cases begun
          exact ⟨fun commit inside => (List.not_mem_nil inside).elim, rfl⟩
  · exact sound

theorem Sound.select (sound : state.Sound settings)
    (before : session.Sound settings state.history state.commits) :
    (state.advance settings index session (.select index)).Sound settings := by
  simp only [advance]
  split
  · next organization version now seen next computing =>
      refine sound.enter ⟨before.unchanged, fun _ _ _ _ _ further => ?_⟩
      cases further
      obtain ⟨earlier, eq⟩ := before.progress _ _ _ _ _ computing
      constructor
      · intro commit inside
        rcases List.mem_append.mp inside with old | last
        · exact earlier commit old
        · rw [List.mem_singleton.mp last]
      · rw [Query.after_concat, ← eq, Query.after_select]
        rfl
  · exact sound

/-- What is stored comes from a committed state if the session is clean. -/
theorem Sound.store (sound : state.Sound settings) (here : state.sessions[index]? = some session)
    (clean : state.Clean (.store index)) :
    (state.advance settings index session (.store index)).Sound settings := by
  simp only [advance]
  split
  · next organization version now seen body computing =>
      have before := sound.sessions session (List.mem_of_getElem? here)
      obtain ⟨unchanged, together⟩ := clean session here
      simp only [Session.seen, computing] at together
      have committed := before.committed computing unchanged together
      have kept := sound.keep organization version (some ⟨index, body⟩) fun stored same => by
        cases same
        exact committed
      exact (kept.serve index index committed).enter
        (.resting before.unchanged fun _ _ _ _ _ busy => by cases busy)
  · exact sound

theorem Sound.commitSession (sound : state.Sound settings) :
    (state.advance settings index session (.commit index)).Sound settings := by
  simp only [advance]
  split
  · next live idle =>
      exact sound.commit _ (.resting (fun _ => rfl) fun _ _ _ _ _ busy => by
        rw [idle] at busy
        cases busy)
  · exact sound

theorem Sound.flushBump (sound : state.Sound settings)
    (before : session.Sound settings state.history state.commits) :
    (state.advance settings index session (.flushBump index)).Sound settings := by
  simp only [advance]
  split
  · next organization rest flushing queued =>
      exact (sound.bump organization).enter ⟨before.unchanged, before.progress⟩
  · exact sound.enter ⟨before.unchanged, before.progress⟩
  · exact sound

theorem Sound.rollback (sound : state.Sound settings) :
    (state.advance settings index session (.rollback index)).Sound settings := by
  simp only [advance]
  split
  · exact sound.enter (.resting (fun _ => rfl) fun _ _ _ _ _ busy => by cases busy)
  · exact sound

theorem Sound.advance {action : Action} (sound : state.Sound settings)
    (here : state.sessions[index]? = some session) (mine : action.session = some index)
    (clean : state.Clean action) : (state.advance settings index session action).Sound settings := by
  have before := sound.sessions session (List.mem_of_getElem? here)
  cases action with
  | mutate other change => exact sound.mutate change
  | invalidate other organization => exact sound.invalidate before
  | effectiveForOrg other organization => exact sound.effectiveForOrg before
  | readVersion other => exact sound.readVersion before
  | readBody other now => exact sound.readBody before now
  | select other => exact sound.select before
  | store other =>
      cases mine
      exact sound.store here clean
  | commit other => exact sound.commitSession
  | flushBump other => exact sound.flushBump before
  | rollback other => exact sound.rollback
  | «open» => exact sound
  | expire organization version => exact sound
  | forget organization => exact sound

theorem Sound.step {action : Action} (sound : state.Sound settings) (clean : state.Clean action) :
    (state.step settings action).Sound settings := by
  unfold SharedCache.step
  split
  · refine ⟨fun session inside => ?_, sound.bodies, sound.served⟩
    rcases List.mem_append.mp inside with before | new
    · exact sound.sessions session before
    · rw [List.mem_singleton.mp new]
      exact .resting (fun _ => rfl) fun _ _ _ _ _ busy => by cases busy
  · exact sound.keep _ _ none fun stored never => by cases never
  · exact ⟨sound.sessions, sound.bodies, sound.served⟩
  · split
    · next index mine =>
        split
        · next session here => exact sound.advance here mine clean
        · exact sound
    · exact sound

end Steps

/-- The occupying subscription of the organization ends at once. -/
def canceling (db : Db) : Db :=
  Transaction.commit db do
    let (_, db) ← SubscriptionService.cancel db 0 1 false
    return db

/-- A resolution of the organization that misses the cache, from call to store. -/
def resolving (session : Nat) : List Action :=
  [.effectiveForOrg session 1, .readVersion session, .readBody session 0, .select session,
    .select session, .select session, .select session, .store session]

/-- A request resolves, cancels and commits; then another one resolves anew. -/
def resolvedBefore : List Action :=
  [.open, .open] ++ resolving 0 ++ [.mutate 0 canceling, .invalidate 0 1, .commit 0, .flushBump 0] ++
    resolving 1

/-- A request cancels, resolves and fails; then another one is served what it resolved. -/
def resolvedAfter : List Action :=
  [.open, .open, .mutate 0 canceling, .invalidate 0 1] ++ resolving 0 ++
    [.rollback 0, .effectiveForOrg 1 1, .readVersion 1, .readBody 1 0]

end SharedCache

end SynapseSaas
