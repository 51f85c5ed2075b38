import SynapseSaas.Authorization.TupleSync
import Mathlib.Data.Prod.Lex

/-! The client of OpenFGA and one sync by it. The store answers a read with a page and a
token for the rest; the client reads one page. -/

set_option autoImplicit false

namespace SynapseSaas.Tenancy

open AuthorizationService (orgObject)

/-- By the relation; the tuples of one member differ in nothing else. -/
def sortKey (tuple : FgaTuple) : Lex (String × Lex (String × String)) :=
  toLex (tuple.relation, toLex (tuple.user, tuple.object))

theorem sortKey_injective : Function.Injective sortKey := by
  rintro ⟨user, relation, object⟩ ⟨user', relation', object'⟩ same
  simp only [sortKey, toLex_inj, Prod.mk.injEq] at same
  obtain ⟨rfl, rfl, rfl⟩ := same
  rfl

instance : LinearOrder FgaTuple := LinearOrder.lift' sortKey sortKey_injective

def byRelation (tuples : Finset FgaTuple) : List FgaTuple := tuples.sort

theorem mem_byRelation {tuples : Finset FgaTuple} {tuple : FgaTuple} :
    tuple ∈ byRelation tuples ↔ tuple ∈ tuples := Finset.mem_sort _

/-! The server, which is not part of the program. -/

inductive FgaRequest where
  | read (object : String)
  | write (tuple : FgaTuple)
  | delete (tuple : FgaTuple)
  deriving DecidableEq

structure Response where
  status : Nat
  text : String

/-- An answer to `/read`: some tuples, and a token for the next page if there are more. -/
structure Page where
  tuples : List FgaTuple
  continuationToken : String

/-- A server of OpenFGA: which requests fail on the way, what it answers to a read, and
how it refuses to write a tuple that is there or to delete one that is not. -/
structure OpenFga where
  unreachable : FgaRequest → Option String
  firstPage : List FgaTuple → String → Page
  existing : FgaTuple → Response
  missing : FgaTuple → Response

/-- A page has tuples of the store, about the object asked for, and as many as fit; without a
token it has them all. -/
structure OpenFga.Pages (server : OpenFga) (pageSize : Nat) : Prop where
  stored : ∀ store object, ∀ tuple ∈ (server.firstPage store object).tuples,
    tuple ∈ store ∧ tuple.object = object
  bounded : ∀ store object, (server.firstPage store object).tuples.length ≤ pageSize
  complete : ∀ store object, (server.firstPage store object).continuationToken = "" →
    ∀ tuple ∈ store, tuple.object = object → tuple ∈ (server.firstPage store object).tuples

namespace OpenFga

variable (server : OpenFga)

/-- `/write` with one tuple. -/
def answer (store : List FgaTuple) : FgaRequest → Response × List FgaTuple
  | .read _ => (⟨200, ""⟩, store)
  | .write tuple =>
      if tuple ∈ store then (server.existing tuple, store) else (⟨200, "\x7b\x7d"⟩, store ++ [tuple])
  | .delete tuple =>
      if tuple ∈ store then (⟨200, "\x7b\x7d"⟩, store.filter (· ≠ tuple))
      else (server.missing tuple, store)

end OpenFga

/-! The client. -/

/-- `authorization_backend_unavailable`, with the body of the answer if there was one. -/
structure FgaError where
  message : String
  body : Option String
  deriving DecidableEq, Repr

structure FgaClient where
  url : String
  storeId : String

namespace FgaClient

variable (client : FgaClient) (server : OpenFga)

def configured : Bool := client.url ≠ "" ∧ client.storeId ≠ ""

def storePath (suffix : String) : String := "/stores/" ++ client.storeId ++ suffix

def path : FgaRequest → String
  | .read _ => client.storePath "/read"
  | .write _ | .delete _ => client.storePath "/write"

/-- What the store has after the request, if it did not fail. -/
def post (request : FgaRequest) (store : List FgaTuple) : Except FgaError (List FgaTuple) :=
  if client.storeId = "" then
    .error ⟨"OpenFGA store id is not configured (SYNAPSE_OPENFGA_STORE_ID)", none⟩
  else if client.url = "" then .error ⟨"OpenFGA is not configured (SYNAPSE_OPENFGA_URL)", none⟩
  else
    match server.unreachable request with
    | some cause => .error ⟨"OpenFGA unreachable: " ++ cause, none⟩
    | none =>
        let (response, after) := server.answer store request
        if 300 ≤ response.status then
          .error ⟨"OpenFGA " ++ client.path request ++ " answered " ++ toString response.status,
            some (String.ofList (response.text.toList.take 500))⟩
        else .ok after

/-- `part in body`. -/
def mentions (body part : String) : Bool := decide (part.toList <:+: body.toList)

/-- A duplicate write is tolerated. -/
def writeTuple (store : List FgaTuple) (tuple : FgaTuple) : Except FgaError (List FgaTuple) :=
  match client.post server (.write tuple) store with
  | .ok after => .ok after
  | .error error =>
      if mentions (error.body.getD "") "already exists" then .ok store else .error error

/-- A missing delete is tolerated. -/
def deleteTuple (store : List FgaTuple) (tuple : FgaTuple) : Except FgaError (List FgaTuple) :=
  match client.post server (.delete tuple) store with
  | .ok after => .ok after
  | .error error =>
      let body := (error.body.getD "").toLower
      if mentions body "not found" ∨ mentions body "does not exist" then .ok store else .error error

def write (writes deletes store : List FgaTuple) : Except FgaError (List FgaTuple) := do
  let written ← writes.foldlM (client.writeTuple server) store
  deletes.foldlM (client.deleteTuple server) written

/-- The tuples of the answer; its token is not looked at. -/
def readTuples (object : String) (store : List FgaTuple) : Except FgaError (List FgaTuple) := do
  let _ ← client.post server (.read object) store
  return (server.firstPage store object).tuples

end FgaClient

structure SyncReport where
  writes : Nat
  deletes : Nat
  deriving DecidableEq, Repr

/-- The rows and the store before; with the report, the store after. -/
def applyTupleSync (client : FgaClient) (server : OpenFga) (rows : Database)
    (organizationId userId : Nat) (store : List FgaTuple) :
    Except FgaError (SyncReport × List FgaTuple) :=
  if client.configured then do
    let desired := memberTuples rows organizationId userId
    let read ← client.readTuples server (orgObject organizationId) store
    let current := (read.filter fun tuple => tuple.user = userObject userId).toFinset
    let writes := byRelation (desired \ current)
    let deletes := byRelation (current \ desired)
    let after ← client.write server writes deletes store
    return (⟨writes.length, deletes.length⟩, after)
  else return (⟨0, 0⟩, store)

section Client

variable {client : FgaClient} {server : OpenFga} {store after : List FgaTuple} {tuple : FgaTuple}

/-- A request that is refused, or finds nothing to do, leaves the store. -/
theorem post_of_idle {request : FgaRequest} (idle : (server.answer store request).2 = store)
    (posted : client.post server request store = .ok after) : after = store := by
  unfold FgaClient.post at posted
  split at posted
  · cases posted
  split at posted
  · cases posted
  split at posted
  · cases posted
  simp only at posted
  split at posted
  · cases posted
  · cases posted
    exact idle

theorem post_of_accepted {request : FgaRequest} {text : String} {changed : List FgaTuple}
    (accepted : server.answer store request = (⟨200, text⟩, changed)) :
    client.post server request store = .ok changed ∨
      ∃ message, client.post server request store = .error ⟨message, none⟩ := by
  unfold FgaClient.post
  split
  · exact .inr ⟨_, rfl⟩
  split
  · exact .inr ⟨_, rfl⟩
  split
  · exact .inr ⟨_, rfl⟩
  · rw [accepted]
    exact .inl rfl

/-- A write that does not raise leaves the tuple in the store, and all others. -/
theorem mem_of_writeTuple (written : client.writeTuple server store tuple = .ok after)
    (other : FgaTuple) : other ∈ after ↔ other ∈ store ∨ other = tuple := by
  unfold FgaClient.writeTuple at written
  by_cases there : tuple ∈ store
  · have same : after = store := by
      split at written
      · next posted =>
          cases written
          exact post_of_idle (by rw [OpenFga.answer, if_pos there]) posted
      · split at written
        · cases written
          rfl
        · cases written
    rw [same]
    exact ⟨.inl, fun either => either.elim id fun one => one ▸ there⟩
  · have accepted : server.answer store (.write tuple) = (⟨200, "\x7b\x7d"⟩, store ++ [tuple]) := by
      rw [OpenFga.answer, if_neg there]
    rcases @post_of_accepted client server store _ _ _ accepted with done | ⟨message, lost⟩
    · rw [done] at written
      cases written
      simp
    · rw [lost] at written
      cases written

theorem mem_of_deleteTuple (deleted : client.deleteTuple server store tuple = .ok after)
    (other : FgaTuple) : other ∈ after ↔ other ∈ store ∧ other ≠ tuple := by
  unfold FgaClient.deleteTuple at deleted
  by_cases there : tuple ∈ store
  · have accepted : server.answer store (.delete tuple) =
        (⟨200, "\x7b\x7d"⟩, store.filter (· ≠ tuple)) := by
      rw [OpenFga.answer, if_pos there]
    rcases @post_of_accepted client server store _ _ _ accepted with done | ⟨message, lost⟩
    · rw [done] at deleted
      cases deleted
      simp
    · rw [lost] at deleted
      have silent : ¬ (FgaClient.mentions ((none : Option String).getD "").toLower "not found" = true ∨
          FgaClient.mentions ((none : Option String).getD "").toLower "does not exist" = true) := by
        decide +kernel
      change (if _ then _ else _) = _ at deleted
      rw [if_neg silent] at deleted
      cases deleted
  · have same : after = store := by
      split at deleted
      · next posted =>
          cases deleted
          exact post_of_idle (by rw [OpenFga.answer, if_neg there]) posted
      · simp only at deleted
        split at deleted
        · cases deleted
          rfl
        · cases deleted
    rw [same]
    exact ⟨fun here => ⟨here, fun one => there (one ▸ here)⟩, And.left⟩

theorem mem_of_writes {writes : List FgaTuple}
    (written : writes.foldlM (client.writeTuple server) store = .ok after) (other : FgaTuple) :
    other ∈ after ↔ other ∈ store ∨ other ∈ writes := by
  induction writes generalizing store with
  | nil =>
      cases written
      simp
  | cons first rest ih =>
      rw [List.foldlM_cons] at written
      cases one : client.writeTuple server store first with
      | error failure =>
          rw [one] at written
          cases written
      | ok middle =>
          rw [one] at written
          rw [ih written, mem_of_writeTuple one, or_assoc, List.mem_cons]

theorem mem_of_deletes {deletes : List FgaTuple}
    (deleted : deletes.foldlM (client.deleteTuple server) store = .ok after) (other : FgaTuple) :
    other ∈ after ↔ other ∈ store ∧ other ∉ deletes := by
  induction deletes generalizing store with
  | nil =>
      cases deleted
      simp
  | cons first rest ih =>
      rw [List.foldlM_cons] at deleted
      cases one : client.deleteTuple server store first with
      | error failure =>
          rw [one] at deleted
          cases deleted
      | ok middle =>
          rw [one] at deleted
          rw [ih deleted, mem_of_deleteTuple one, and_assoc, List.mem_cons, not_or]

/-- What the client writes is all that changes in the store. -/
theorem mem_of_write {writes deletes : List FgaTuple}
    (written : client.write server writes deletes store = .ok after) (other : FgaTuple) :
    other ∈ after ↔ (other ∈ store ∨ other ∈ writes) ∧ other ∉ deletes := by
  unfold FgaClient.write at written
  cases first : writes.foldlM (client.writeTuple server) store with
  | error failure =>
      rw [first] at written
      cases written
  | ok middle =>
      rw [first] at written
      rw [mem_of_deletes written, mem_of_writes first]

/-- What a sync that does not raise makes of the store: it adds what is wanted and not on the
page, and takes away what is on the page and not wanted. -/
theorem mem_of_sync {rows : Database} {organizationId userId : Nat} {report : SyncReport}
    (configured : client.configured)
    (synced : applyTupleSync client server rows organizationId userId store = .ok (report, after))
    {current : FgaTuple → Prop}
    (page : ∀ tuple, current tuple ↔ tuple ∈ (server.firstPage store (orgObject organizationId)).tuples ∧
      tuple.user = userObject userId) (other : FgaTuple) :
    other ∈ after ↔
      (other ∈ store ∨ other ∈ memberTuples rows organizationId userId ∧ ¬ current other) ∧
        ¬ (current other ∧ other ∉ memberTuples rows organizationId userId) := by
  unfold applyTupleSync at synced
  rw [if_pos configured] at synced
  unfold FgaClient.readTuples at synced
  cases read : client.post server (.read (orgObject organizationId)) store with
  | error failure =>
      rw [read] at synced
      cases synced
  | ok same =>
      rw [read] at synced
      let found := ((server.firstPage store (orgObject organizationId)).tuples.filter fun tuple =>
        tuple.user = userObject userId).toFinset
      let desired := memberTuples rows organizationId userId
      change (client.write server (byRelation (desired \ found)) (byRelation (found \ desired))
        store >>= fun after => .ok (_, after)) = .ok (report, after) at synced
      cases written : client.write server (byRelation (desired \ found))
        (byRelation (found \ desired)) store with
      | error failure =>
          rw [written] at synced
          cases synced
      | ok last =>
          rw [written] at synced
          cases synced
          have listed : other ∈ found ↔ current other := by
            rw [page, List.mem_toFinset, List.mem_filter, decide_eq_true_eq]
          rw [mem_of_write written, mem_byRelation, mem_byRelation, Finset.mem_sdiff,
            Finset.mem_sdiff, listed]

/-- The tuples of a member that nobody wants any more are on the first page. -/
def OnFirstPage (server : OpenFga) (rows : Database) (organizationId userId : Nat)
    (store : List FgaTuple) : Prop :=
  ∀ tuple ∈ ofMember organizationId userId store.toFinset,
    tuple ∉ memberTuples rows organizationId userId →
      tuple ∈ (server.firstPage store (orgObject organizationId)).tuples

instance (server : OpenFga) (rows : Database) (organizationId userId : Nat)
    (store : List FgaTuple) : Decidable (OnFirstPage server rows organizationId userId store) :=
  inferInstanceAs (Decidable (∀ tuple ∈ ofMember organizationId userId store.toFinset, _))

end Client

/-! A sync as a run of the executions of `TupleSync`. -/

section Executions

variable {organizationId userId version latest queued : Nat} {rows : Database}
  {store desired left : Finset FgaTuple}

theorem run_writes {writes : List FgaTuple} (distinct : writes.Nodup) :
    Runs.run (TupleSync.step organizationId userId)
        ⟨rows, latest, store, queued, [.writing version desired writes.toFinset left]⟩
        (writes.map (.write 0)) =
      ⟨rows, latest, store ∪ writes.toFinset, queued, [.writing version desired ∅ left]⟩ := by
  induction writes generalizing store with
  | nil => simp
  | cons first rest ih =>
      obtain ⟨fresh, distinct⟩ := List.nodup_cons.mp distinct
      have step : TupleSync.step organizationId userId
          ⟨rows, latest, store, queued, [.writing version desired (first :: rest).toFinset left]⟩
          (.write 0 first) =
          ⟨rows, latest, insert first store, queued,
            [.writing version desired rest.toFinset left]⟩ := by
        have others : (insert first rest.toFinset).erase first = rest.toFinset :=
          Finset.erase_insert (mt List.mem_toFinset.mp fresh)
        simp [TupleSync.step, TupleSync.write, TupleSync.set, others]
      rw [List.map_cons, Runs.run_cons, step, ih distinct, List.toFinset_cons,
        Finset.insert_union, Finset.union_insert]

theorem run_deletes {deletes : List FgaTuple} (distinct : deletes.Nodup) :
    Runs.run (TupleSync.step organizationId userId)
        ⟨rows, latest, store, queued, [.writing version desired ∅ deletes.toFinset]⟩
        (deletes.map (.write 0)) =
      ⟨rows, latest, store \ deletes.toFinset, queued, [.writing version desired ∅ ∅]⟩ := by
  induction deletes generalizing store with
  | nil => simp
  | cons first rest ih =>
      obtain ⟨fresh, distinct⟩ := List.nodup_cons.mp distinct
      have step : TupleSync.step organizationId userId
          ⟨rows, latest, store, queued, [.writing version desired ∅ (first :: rest).toFinset]⟩
          (.write 0 first) =
          ⟨rows, latest, store.erase first, queued,
            [.writing version desired ∅ rest.toFinset]⟩ := by
        have others : (insert first rest.toFinset).erase first = rest.toFinset :=
          Finset.erase_insert (mt List.mem_toFinset.mp fresh)
        simp [TupleSync.step, TupleSync.write, TupleSync.set, others]
      rw [List.map_cons, Runs.run_cons, step, ih distinct, List.toFinset_cons,
        Finset.sdiff_insert, Finset.erase_sdiff_comm]

end Executions

/-- The steps of one execution that reads this page. -/
def syncActions (rows : Database) (organizationId userId : Nat) (store : List FgaTuple)
    (page : Finset FgaTuple) : List SyncAction :=
  let desired := memberTuples rows organizationId userId
  let current := ofMember organizationId userId (store.toFinset ∩ page)
  [.start, .readMembership 0, .readStore 0 page] ++
    (byRelation (desired \ current)).map (.write 0) ++ (byRelation (current \ desired)).map (.write 0)

/-- A sync that does not raise is an execution with nothing beside it. -/
theorem sync_is_run {client : FgaClient} {server : OpenFga} {pageSize organizationId userId : Nat}
    {rows : Database} {store after : List FgaTuple} {report : SyncReport}
    (pages : server.Pages pageSize) (configured : client.configured)
    (synced : applyTupleSync client server rows organizationId userId store = .ok (report, after)) :
    (Runs.run (TupleSync.step organizationId userId) { rows, store := store.toFinset, queued := 1 }
        (syncActions rows organizationId userId store
          (server.firstPage store (orgObject organizationId)).tuples.toFinset)).store =
      after.toFinset := by
  let page := (server.firstPage store (orgObject organizationId)).tuples
  let desired := memberTuples rows organizationId userId
  let current := ofMember organizationId userId (store.toFinset ∩ page.toFinset)
  have listed (tuple : FgaTuple) : tuple ∈ current ↔ tuple ∈ page ∧ tuple.user = userObject userId := by
    rw [mem_ofMember, Finset.mem_inter, List.mem_toFinset, List.mem_toFinset]
    constructor
    · rintro ⟨⟨-, here⟩, mine, -⟩
      exact ⟨here, mine⟩
    · rintro ⟨here, mine⟩
      obtain ⟨there, home⟩ := pages.stored _ _ tuple here
      exact ⟨⟨there, here⟩, mine, home⟩
  have sorted (tuples : Finset FgaTuple) : (byRelation tuples).toFinset = tuples :=
    Finset.sort_toFinset tuples _
  have distinct (tuples : Finset FgaTuple) : (byRelation tuples).Nodup := Finset.sort_nodup tuples _
  have begun : Runs.run (TupleSync.step organizationId userId)
      { rows, store := store.toFinset, queued := 1 }
      [.start, .readMembership 0, .readStore 0 page.toFinset] =
      ⟨rows, 0, store.toFinset, 0, [.writing 0 desired (byRelation (desired \ current)).toFinset
        (byRelation (current \ desired)).toFinset]⟩ := by
    rw [sorted, sorted]
    rfl
  have ended : Runs.run (TupleSync.step organizationId userId)
      { rows, store := store.toFinset, queued := 1 }
      (syncActions rows organizationId userId store page.toFinset) =
      ⟨rows, 0, (store.toFinset ∪ (desired \ current)) \ (current \ desired), 0,
        [.writing 0 desired ∅ ∅]⟩ := by
    have actions : syncActions rows organizationId userId store page.toFinset =
        [.start, .readMembership 0, .readStore 0 page.toFinset] ++
          (byRelation (desired \ current)).map (.write 0) ++
          (byRelation (current \ desired)).map (.write 0) := rfl
    rw [actions, Runs.run_append, Runs.run_append, begun, run_writes (distinct _),
      run_deletes (distinct _), sorted, sorted]
  rw [ended]
  ext tuple
  rw [List.mem_toFinset, mem_of_sync configured synced listed]
  simp only [Finset.mem_sdiff, Finset.mem_union, List.mem_toFinset]
  exact Iff.rfl

section Converged

variable {client : FgaClient} {server : OpenFga} {pageSize organizationId userId : Nat}
  {rows : Database} {store after : List FgaTuple} {report : SyncReport}

theorem converged_iff_onFirstPage (pages : server.Pages pageSize) (configured : client.configured)
    (synced : applyTupleSync client server rows organizationId userId store = .ok (report, after)) :
    ofMember organizationId userId after.toFinset = memberTuples rows organizationId userId ↔
      OnFirstPage server rows organizationId userId store := by
  have left (tuple : FgaTuple) := mem_of_sync configured synced (fun _ => Iff.rfl) tuple
  constructor
  · intro converged tuple here unwanted
    obtain ⟨there, mine, home⟩ := mem_ofMember.mp here
    by_contra beyond
    have stays : tuple ∈ after :=
      (left tuple).mpr ⟨.inl (List.mem_toFinset.mp there), fun found => beyond found.1.1⟩
    have wanted : tuple ∈ ofMember organizationId userId after.toFinset :=
      mem_ofMember.mpr ⟨List.mem_toFinset.mpr stays, mine, home⟩
    exact unwanted (converged ▸ wanted)
  · intro listed
    ext tuple
    rw [mem_ofMember, List.mem_toFinset, left]
    constructor
    · rintro ⟨⟨there, kept⟩, mine, home⟩
      by_contra unwanted
      rcases there with there | ⟨wanted, -⟩
      · have here := mem_ofMember.mpr ⟨List.mem_toFinset.mpr there, mine, home⟩
        exact kept ⟨⟨listed tuple here unwanted, mine⟩, unwanted⟩
      · exact unwanted wanted
    · intro wanted
      have own := wanted
      rw [← ofMember_memberTuples] at own
      obtain ⟨-, mine, home⟩ := mem_ofMember.mp own
      refine ⟨⟨?_, fun gone => gone.2 wanted⟩, mine, home⟩
      by_cases found : tuple ∈ (server.firstPage store (orgObject organizationId)).tuples
      · exact .inl (pages.stored _ _ tuple found).1
      · exact .inr ⟨wanted, fun current => found current.1⟩

/-- Where the answer has no token for more, a sync that does not raise converges. -/
theorem converged_of_one_page (pages : server.Pages pageSize) (configured : client.configured)
    (whole : (server.firstPage store (orgObject organizationId)).continuationToken = "")
    (synced : applyTupleSync client server rows organizationId userId store = .ok (report, after)) :
    ofMember organizationId userId after.toFinset = memberTuples rows organizationId userId := by
  refine (converged_iff_onFirstPage pages configured synced).mpr fun tuple here _ => ?_
  obtain ⟨there, -, home⟩ := mem_ofMember.mp here
  exact pages.complete _ _ whole tuple (List.mem_toFinset.mp there) home

end Converged

/-- A sync that does not raise leaves of a member's tuples exactly what is wanted, if and only if
all that is not wanted was on the first page of the organization's tuples. -/
theorem sync_converges_iff (client : FgaClient) (server : OpenFga) (pageSize : Nat)
    (pages : server.Pages pageSize) (configured : client.configured) (rows : Database)
    (organizationId userId : Nat) (store after : List FgaTuple) (report : SyncReport)
    (synced : applyTupleSync client server rows organizationId userId store = .ok (report, after)) :
    ofMember organizationId userId after.toFinset = memberTuples rows organizationId userId ↔
      OnFirstPage server rows organizationId userId store :=
  converged_iff_onFirstPage pages configured synced

/-- A server with pages of a size, in the order of the writes. -/
def paged (pageSize : Nat) : OpenFga where
  unreachable _ := none
  firstPage store object :=
    let found := store.filter fun tuple => tuple.object = object
    ⟨found.take pageSize, if found.length ≤ pageSize then "" else "more"⟩
  existing _ := ⟨400, "cannot write a tuple which already exists"⟩
  missing _ := ⟨400, "cannot delete a tuple which does not exist"⟩

theorem paged_pages (pageSize : Nat) : (paged pageSize).Pages pageSize where
  stored store object tuple here := by
    have found := List.mem_filter.mp (List.mem_of_mem_take here)
    exact ⟨found.1, of_decide_eq_true found.2⟩
  bounded _ _ := List.length_take_le _ _
  complete store object none_left tuple here home := by
    have few : (store.filter fun tuple => tuple.object = object).length ≤ pageSize := by
      by_contra more
      have token : (if (store.filter fun tuple => tuple.object = object).length ≤ pageSize then ""
        else "more") = "" := none_left
      rw [if_neg more] at token
      exact absurd token (by decide)
    change tuple ∈ (store.filter fun tuple => tuple.object = object).take pageSize
    rw [List.take_of_length_le few]
    exact List.mem_filter.mpr ⟨here, decide_eq_true home⟩

def localClient : FgaClient := ⟨"http://openfga:8080", "store"⟩

/-- The member tuples of other users. -/
def colleagues (count : Nat) : List FgaTuple :=
  (List.range count).map fun number => ⟨userObject (number + 2), "member", orgObject 1⟩

/-- The auditor's tuple is on the first page of two. -/
theorem sync_converges_iff_first :
    ofMember 1 1 (colleagues 3).toFinset = memberTuples suspended 1 1 ↔
      OnFirstPage (paged 2) suspended 1 1 (auditorTuple "member" :: colleagues 3) := by
  refine sync_converges_iff localClient (paged 2) 2 (paged_pages 2) (by decide) suspended 1 1
    (auditorTuple "member" :: colleagues 3) (colleagues 3) ⟨0, 1⟩ ?_
  decide +kernel

/-- The auditor is suspended, and the tuple that makes the auditor a member is beyond the first
page of fifty: the sync succeeds with nothing to do, and the tuple stays. -/
theorem beyond_first_page :
    applyTupleSync localClient (paged 50) suspended 1 1 (colleagues 50 ++ [auditorTuple "member"]) =
        .ok (⟨0, 0⟩, colleagues 50 ++ [auditorTuple "member"]) ∧
      ofMember 1 1 (colleagues 50 ++ [auditorTuple "member"]).toFinset ≠
        memberTuples suspended 1 1 := by
  refine ⟨by decide +kernel, fun converged => ?_⟩
  have stays : auditorTuple "member" ∈
      ofMember 1 1 (colleagues 50 ++ [auditorTuple "member"]).toFinset :=
    mem_ofMember.mpr ⟨List.mem_toFinset.mpr (List.mem_append_right _ (List.mem_singleton_self _)),
      rfl, rfl⟩
  have unwanted : memberTuples suspended 1 1 = ∅ := by decide +kernel
  rw [converged, unwanted] at stays
  exact Finset.notMem_empty _ stays

end SynapseSaas.Tenancy
