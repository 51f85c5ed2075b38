import SynapseSaas.Foundation.Sessions
import SynapseSaas.Storage.Files
import Mathlib.Algebra.BigOperators.Group.List.Basic
import Mathlib.Algebra.GroupWithZero.Nat

/-! The gauge of the stored bytes of one organization, beside transactions that reserve
and release them, statement by statement.

The counter moves by deltas, in the database, and its row stays locked from the first
of them to the end of the transaction; the rows of the files are read without a lock. -/

set_option autoImplicit false

namespace SynapseSaas.Storage

/-- A counter, and whether a move ever had to stop at zero. -/
structure Gauge where
  level : Nat
  clamped : Bool
  deriving DecidableEq, Repr

/-- `adjust_gauge` once the capacity is checked: GREATEST(level + delta, 0). -/
def Gauge.adjust (gauge : Gauge) (delta : Int) : Gauge :=
  ⟨(gauge.level + delta).toNat, gauge.clamped || gauge.level + delta < 0⟩

/-- What a transaction writes to the rows; files to delete stand as they were read. -/
inductive FileChange where
  | insert (file : StoredFile)
  | markReady (fileId : Nat)
  | delete (files : List StoredFile)
  deriving DecidableEq, Repr

def FileChange.rows : FileChange → List Nat
  | .insert file => [file.id]
  | .markReady fileId => [fileId]
  | .delete files => files.map StoredFile.id

/-- The moves of the organization's counter that go with it. -/
def FileChange.deltas (organization : Nat) : FileChange → List Int
  | .insert file => [(file.sizeBytes : Int)]
  | .markReady _ => []
  | .delete files => (files.filter fun file => file.organizationId = organization).map fun file =>
      -(file.sizeBytes : Int)

/-- UPDATE of the row of one file, in columns that no index covers. -/
def updateFile (files : Table StoredFile) (fileId : Nat) (status : Option FileStatus)
    (deleted : Bool) : Table StoredFile :=
  files.revise
    (fun file =>
      if file.id = fileId then
        { file with status := status.getD file.status, deleted := file.deleted || deleted }
      else file)
    fun file => by
      split
      · exact ⟨rfl, rfl⟩
      · exact ⟨rfl, rfl⟩

def FileChange.apply (files : Table StoredFile) : FileChange → Option (Table StoredFile)
  | .insert file => if file.fits then files.add file else none
  | .markReady fileId => some (updateFile files fileId (some .ready) false)
  | .delete removed => some (removed.foldl (fun files file => updateFile files file.id none true) files)

/-- A transaction under way: the change it commits, whether its moves of the counter are
made, and whether its rows are written. -/
structure StorageSession where
  change : FileChange
  adjusted : Bool
  written : Bool
  deriving DecidableEq, Repr

structure StorageBooks where
  files : Table StoredFile
  gauge : Gauge
  gaugeLock : Option Nat := none
  rowLocks : List (Nat × Nat) := []         -- a session and the file it has written
  sessions : Nat → Option StorageSession := fun _ => none

/-- `allowed` is what the permission, the feature gate and the quota make of a request;
`actual` the size of the object as the backend finds it; `stale` the files created before
the purge's limit. -/
inductive StorageAction where
  | uploadFile (session fileId : Nat) (filename contentType : Option String) (data : Bytes)
      (allowed : Result Unit)
  | presignUpload (session fileId : Nat) (name contentType : String) (sizeBytes : Nat)
      (allowed : Result Unit)
  | completeUpload (session fileId : Nat) (actual : Option Nat)
  | deleteFile (session fileId : Nat)
  | purgeExpired (session : Nat) (stale : List Nat)
  | adjustGauge (session : Nat)
  | flush (session : Nat)
  | commit (session : Nat)
  | rollback (session : Nat)
  deriving DecidableEq, Repr

section Requests

variable (organization : Nat) (files : Table StoredFile)

/-- `_get_scoped` with the statuses of a file that counts. -/
def countedFile (fileId : Nat) : Result StoredFile :=
  Library.getScoped (⟨files, fun _ => none, [], fun _ => none⟩ : Library Unit) fileId organization
    [.pending, .ready]

def uploaded (fileId : Nat) (filename contentType : Option String) (data : Bytes)
    (allowed : Result Unit) : Result FileChange := do
  if data.length > maxDirectUploadBytes then
    raise .storage "Direct upload capped at 10 MiB; use presigned upload"
  else
    allowed
    let key ← scopedKey organization (textOr filename "unnamed")
    return .insert ⟨fileId, organization, key, textOr filename "unnamed",
      textOr contentType "application/octet-stream", data.length, .ready, false⟩

def presigned (fileId : Nat) (name contentType : String) (sizeBytes : Nat) (allowed : Result Unit) :
    Result FileChange := do
  allowed
  let key ← scopedKey organization name
  return .insert ⟨fileId, organization, key, name, contentType, sizeBytes, .pending, false⟩

/-- A file that is ready needs nothing; a mismatch gives the reservation back. -/
def completed (fileId : Nat) (actual : Option Nat) : Option FileChange :=
  match countedFile organization files fileId with
  | .error _ => none
  | .ok file =>
      if file.status = .ready then none
      else if actual = some file.sizeBytes then some (.markReady fileId)
      else some (.delete [file])

def deleted (fileId : Nat) : Option FileChange :=
  match countedFile organization files fileId with
  | .error _ => none
  | .ok file => some (.delete [file])

/-- The uploads of any organization that the purge finds pending for too long. -/
def expired (stale : List Nat) : List StoredFile :=
  files.rows.filter fun file => file.status = .pending ∧ file.deleted = false ∧ file.id ∈ stale

end Requests

namespace StorageBooks

def enter (state : StorageBooks) (id : Nat) (session : StorageSession) : StorageBooks :=
  { state with sessions := Function.update state.sessions id (some session) }

def leave (state : StorageBooks) (id : Nat) : StorageBooks :=
  { state with
    gaugeLock := if state.gaugeLock = some id then none else state.gaugeLock
    rowLocks := state.rowLocks.filter fun lock => lock.1 ≠ id
    sessions := Function.update state.sessions id none }

/-- A new transaction, with what its request has come to; refused, it has written nothing. -/
def start (state : StorageBooks) (id : Nat) (change : Option FileChange) : StorageBooks :=
  match state.sessions id, change with
  | none, some change => state.enter id ⟨change, false, false⟩
  | _, _ => state

/-- Another transaction has written one of the rows. -/
def blocked (state : StorageBooks) (id : Nat) (rows : List Nat) : Bool :=
  state.rowLocks.any fun lock => lock.2 ∈ rows ∧ lock.1 ≠ id

def locking (state : StorageBooks) (id : Nat) (rows : List Nat) : StorageBooks :=
  { state with rowLocks := state.rowLocks ++ rows.map fun row => (id, row) }

section Sessions

variable {state : StorageBooks} {id other : Nat} {session : StorageSession}

theorem enter_elsewhere (different : other ≠ id) :
    (state.enter id session).sessions other = state.sessions other :=
  Function.update_of_ne different ..

theorem leave_elsewhere (different : other ≠ id) :
    (state.leave id).sessions other = state.sessions other :=
  Function.update_of_ne different ..

end Sessions

variable (organization : Nat)

/-- Requests move the counter before they write rows, and the purge after. A row that the
database refuses fails its transaction. -/
def step (state : StorageBooks) : StorageAction → StorageBooks
  | .uploadFile id fileId filename contentType data allowed =>
      state.start id (uploaded organization fileId filename contentType data allowed).toOption
  | .presignUpload id fileId name contentType sizeBytes allowed =>
      state.start id (presigned organization fileId name contentType sizeBytes allowed).toOption
  | .completeUpload id fileId actual =>
      state.start id (completed organization state.files fileId actual)
  | .deleteFile id fileId => state.start id (deleted organization state.files fileId)
  | .purgeExpired id stale =>
      let change := FileChange.delete (expired state.files stale)
      match state.sessions id with
      | none =>
          if state.blocked id change.rows then state
          else (state.enter id ⟨change, false, true⟩).locking id change.rows
      | some _ => state
  | .adjustGauge id =>
      match state.sessions id, state.gaugeLock with
      | some ⟨change, false, written⟩, none =>
          if change.deltas organization = [] then state
          else { state.enter id ⟨change, true, written⟩ with gaugeLock := some id }
      | _, _ => state
  | .flush id =>
      match state.sessions id with
      | some ⟨change, adjusted, false⟩ =>
          if (adjusted || change.deltas organization = []) ∧ ¬state.blocked id change.rows then
            match change.apply state.files with
            | some _ => (state.enter id ⟨change, adjusted, true⟩).locking id change.rows
            | none => state.leave id
          else state
      | _ => state
  | .commit id =>
      match state.sessions id with
      | some ⟨change, adjusted, true⟩ =>
          if adjusted || change.deltas organization = [] then
            match change.apply state.files with
            | some files =>
                { state.leave id with
                  files
                  gauge := (change.deltas organization).foldl Gauge.adjust state.gauge }
            | none => state.leave id
          else state
      | _ => state
  | .rollback id => state.leave id

end StorageBooks

/-- The bytes of a file that the organization is charged for. -/
def StoredFile.charged (organization : Nat) (file : StoredFile) : Nat :=
  if file.organizationId = organization ∧ file.deleted = false then file.sizeBytes else 0

def storedBytes (organization : Nat) (files : Table StoredFile) : Nat :=
  (files.rows.map (StoredFile.charged organization)).sum

def StorageBooks.Quiet (state : StorageBooks) : Prop := ∀ id, state.sessions id = none

/-- Whenever no transaction is in flight, the gauge is the sum of the files that are not
deleted; and it never had to be stopped at zero. -/
def BytesExact (organization : Nat) (state : StorageBooks) : Prop :=
  state.Quiet →
    state.gauge.level = storedBytes organization state.files ∧ state.gauge.clamped = false

/-- A file whose bytes are given back is not deleted yet, or has none. -/
def Releasable (files : Table StoredFile) (file : StoredFile) : Prop :=
  file.sizeBytes = 0 ∨ ∃ row ∈ files.rows, row.id = file.id ∧ row.deleted = false

instance (files : Table StoredFile) (file : StoredFile) : Decidable (Releasable files file) :=
  inferInstanceAs (Decidable (_ ∨ ∃ row ∈ files.rows, _))

/-- A transaction that deletes files commits while they are still there. -/
def StillThere (organization : Nat) (state : StorageBooks) : StorageAction → Prop
  | .commit id =>
      match state.sessions id with
      | some ⟨.delete files, _, _⟩ => ∀ file ∈ files, file.organizationId = organization →
          Releasable state.files file
      | _ => True
  | _ => True

instance (organization : Nat) (state : StorageBooks) (action : StorageAction) :
    Decidable (StillThere organization state action) := by
  unfold StillThere
  split
  · split <;> infer_instance
  · infer_instance

/-! Moves of the counter. -/

theorem Gauge.adjust_up (gauge : Gauge) (size : Nat) :
    gauge.adjust size = ⟨gauge.level + size, gauge.clamped⟩ := by
  unfold Gauge.adjust
  have positive : ¬((gauge.level : Int) + size < 0) := by omega
  simp only [positive, decide_false, Bool.or_false, Gauge.mk.injEq, and_true]
  omega

theorem Gauge.adjust_down (gauge : Gauge) {size : Nat} (enough : size ≤ gauge.level) :
    gauge.adjust (-size) = ⟨gauge.level - size, gauge.clamped⟩ := by
  unfold Gauge.adjust
  have positive : ¬((gauge.level : Int) + -size < 0) := by omega
  simp only [positive, decide_false, Bool.or_false, Gauge.mk.injEq, and_true]
  omega

/-- The gauge is exact for the rows. -/
def Exactly (organization : Nat) (files : Table StoredFile) (gauge : Gauge) : Prop :=
  gauge.level = storedBytes organization files ∧ gauge.clamped = false

section Changes

variable {organization : Nat} {files next : Table StoredFile} {gauge : Gauge}

theorem mem_updateFile {fileId : Nat} {status : Option FileStatus} {deleted : Bool} {row : StoredFile}
    (other : row.id ≠ fileId) (here : row ∈ files.rows) :
    row ∈ (updateFile files fileId status deleted).rows :=
  List.mem_map.mpr ⟨row, here, if_neg other⟩

theorem storedBytes_markReady (fileId : Nat) (status : Option FileStatus) :
    storedBytes organization (updateFile files fileId status false) =
      storedBytes organization files := by
  rw [storedBytes, storedBytes, updateFile, Table.revise, List.map_map]
  apply congrArg
  apply List.map_congr_left
  intro file _
  change StoredFile.charged organization (if _ then _ else _) = _
  split
  · rw [StoredFile.charged, StoredFile.charged, Bool.or_false]
  · rfl

theorem Exactly.insert {file : StoredFile} (exactly : Exactly organization files gauge)
    (own : file.organizationId = organization) (counted : file.deleted = false)
    (added : files.add file = some next) : Exactly organization next (gauge.adjust file.sizeBytes) := by
  rw [Gauge.adjust_up]
  refine ⟨?_, exactly.2⟩
  change gauge.level + file.sizeBytes = _
  rw [storedBytes, Table.add_rows added, List.map_append, List.sum_append, exactly.1, storedBytes]
  simp [StoredFile.charged, own, counted]

/-- Deleting a file takes its bytes from the sum, once. -/
theorem storedBytes_delete {row : StoredFile} (here : row ∈ files.rows) :
    storedBytes organization (updateFile files row.id none true) + row.charged organization =
      storedBytes organization files := by
  obtain ⟨before, after, rows, overwrite⟩ := files.split here
  have written : (updateFile files row.id none true).rows =
      before ++ { row with deleted := true } :: after := by
    rw [← overwrite { row with deleted := true } rfl, updateFile, Table.revise]
    apply List.map_congr_left
    intro old member
    change (if old.id = row.id then _ else old) = if old.id = row.id then _ else old
    split
    · next same =>
      rw [files.eq_of_id member here same]
      simp
    · rfl
  have freed : StoredFile.charged organization { row with deleted := true } = 0 := by
    simp [StoredFile.charged]
  rw [storedBytes, storedBytes, written, rows]
  simp only [List.map_append, List.map_cons, List.sum_append, List.sum_cons, freed]
  omega

/-- What is known of a file a transaction has read: its row has its size and organization. -/
def Recorded (files : Table StoredFile) (file : StoredFile) : Prop :=
  ∃ row ∈ files.rows, row.id = file.id ∧ row.sizeBytes = file.sizeBytes ∧
    row.organizationId = file.organizationId

theorem Recorded.update {file : StoredFile} (recorded : Recorded files file) (fileId : Nat)
    (status : Option FileStatus) (deleted : Bool) :
    Recorded (updateFile files fileId status deleted) file := by
  obtain ⟨row, here, id, size, owner⟩ := recorded
  refine ⟨_, List.mem_map_of_mem here, ?_⟩
  split
  · exact ⟨id, size, owner⟩
  · exact ⟨id, size, owner⟩

theorem Exactly.delete {file : StoredFile} (exactly : Exactly organization files gauge)
    (recorded : Recorded files file) (own : file.organizationId = organization)
    (releasable : Releasable files file) :
    Exactly organization (updateFile files file.id none true) (gauge.adjust (-file.sizeBytes)) := by
  obtain ⟨row, here, id, size, owner⟩ := recorded
  have charged : row.charged organization = file.sizeBytes := by
    rcases releasable with empty | ⟨undeleted, there, same, counted⟩
    · unfold StoredFile.charged
      split
      · exact size
      · exact empty.symm
    · have only : undeleted = row := files.eq_of_id there here (same.trans id.symm)
      rw [only] at counted
      rw [StoredFile.charged, if_pos ⟨owner.trans own, counted⟩, size]
  have freed : storedBytes organization (updateFile files row.id none true) +
      row.charged organization = storedBytes organization files := storedBytes_delete here
  rw [charged, id] at freed
  have enough : file.sizeBytes ≤ gauge.level := by
    rw [exactly.1]
    omega
  rw [Gauge.adjust_down gauge enough]
  refine ⟨?_, exactly.2⟩
  change gauge.level - file.sizeBytes = _
  rw [exactly.1]
  omega

/-- Files of other organizations are deleted without a move. -/
theorem storedBytes_elsewhere {file : StoredFile} (recorded : Recorded files file)
    (other : file.organizationId ≠ organization) :
    storedBytes organization (updateFile files file.id none true) = storedBytes organization files := by
  obtain ⟨row, here, id, size, owner⟩ := recorded
  have freed : storedBytes organization (updateFile files row.id none true) +
      row.charged organization = storedBytes organization files := storedBytes_delete here
  rw [id, StoredFile.charged, if_neg fun own => other (owner.symm.trans own.1)] at freed
  omega

/-- Files with rows of their own are deleted one by one, and the counter follows. -/
theorem Exactly.deleteAll {removed : List StoredFile} (exactly : Exactly organization files gauge)
    (distinct : (removed.map StoredFile.id).Nodup) (recorded : ∀ file ∈ removed, Recorded files file)
    (releasable : ∀ file ∈ removed, file.organizationId = organization → Releasable files file) :
    Exactly organization
      (removed.foldl (fun files file => updateFile files file.id none true) files)
      (((FileChange.delete removed).deltas organization).foldl Gauge.adjust gauge) := by
  induction removed generalizing files gauge with
  | nil => exact exactly
  | cons file rest ih =>
      obtain ⟨fresh, distinct⟩ := List.nodup_cons.mp distinct
      obtain ⟨known, recorded⟩ := List.forall_mem_cons.mp recorded
      obtain ⟨free, releasable⟩ := List.forall_mem_cons.mp releasable
      -- The rows of the files that are left are not touched.
      have later (other : StoredFile) (member : other ∈ rest)
          (own : other.organizationId = organization) :
          Releasable (updateFile files file.id none true) other := by
        rcases releasable other member own with empty | ⟨row, here, same, counted⟩
        · exact .inl empty
        · refine .inr ⟨row, mem_updateFile ?_ here, same, counted⟩
          intro clash
          exact fresh (List.mem_map.mpr ⟨other, member, same.symm.trans clash⟩)
      have still (other : StoredFile) (member : other ∈ rest) :
          Recorded (updateFile files file.id none true) other :=
        (recorded other member).update file.id none true
      rw [List.foldl_cons]
      by_cases own : file.organizationId = organization
      · rw [FileChange.deltas, List.filter_cons_of_pos (by simpa using own), List.map_cons,
          List.foldl_cons]
        exact ih (exactly.delete known own (free own)) distinct still later
      · rw [FileChange.deltas, List.filter_cons_of_neg (by simpa using own)]
        refine ih ⟨?_, exactly.2⟩ distinct still later
        rw [storedBytes_elsewhere known own]
        exact exactly.1

end Changes

/-! The invariant. -/

/-- A row keeps its size and its organization. -/
theorem Recorded.apply {files next : Table StoredFile} {change : FileChange} {file : StoredFile}
    (recorded : Recorded files file) (done : change.apply files = some next) :
    Recorded next file := by
  cases change with
  | insert added =>
      simp only [FileChange.apply, Option.ite_none_right_eq_some] at done
      obtain ⟨row, here, facts⟩ := recorded
      refine ⟨row, ?_, facts⟩
      rw [Table.add_rows done.2]
      exact List.mem_append_left _ here
  | markReady fileId =>
      cases done
      exact recorded.update fileId _ _
  | delete removed =>
      cases done
      induction removed generalizing files with
      | nil => exact recorded
      | cons first rest ih => exact ih (recorded.update first.id none true)

/-- What a transaction under way is going to commit. -/
def FileChange.Sound (organization : Nat) (files : Table StoredFile) : FileChange → Prop
  | .insert file => file.organizationId = organization ∧ file.deleted = false
  | .markReady _ => True
  | .delete removed => (removed.map StoredFile.id).Nodup ∧ ∀ file ∈ removed, Recorded files file

theorem FileChange.Sound.after {organization : Nat} {files next : Table StoredFile}
    {change other : FileChange} (sound : change.Sound organization files)
    (done : other.apply files = some next) : change.Sound organization next := by
  cases change with
  | insert file => exact sound
  | markReady fileId => trivial
  | delete removed => exact ⟨sound.1, fun file member => (sound.2 file member).apply done⟩

/-- A change that is still good is committed with its moves of the counter. -/
theorem Exactly.commit {organization : Nat} {files next : Table StoredFile} {gauge : Gauge}
    {change : FileChange} (exactly : Exactly organization files gauge)
    (sound : change.Sound organization files)
    (still : ∀ removed, change = .delete removed → ∀ file ∈ removed,
      file.organizationId = organization → Releasable files file)
    (done : change.apply files = some next) :
    Exactly organization next ((change.deltas organization).foldl Gauge.adjust gauge) := by
  cases change with
  | insert file =>
      simp only [FileChange.apply, Option.ite_none_right_eq_some] at done
      exact exactly.insert sound.1 sound.2 done.2
  | markReady fileId =>
      cases done
      refine ⟨?_, exactly.2⟩
      rw [storedBytes_markReady]
      exact exactly.1
  | delete removed =>
      cases done
      exact exactly.deleteAll sound.1 sound.2 (still removed rfl)

structure StorageInvariant (organization : Nat) (state : StorageBooks) : Prop where
  exactly : Exactly organization state.files state.gauge
  sound : ∀ id session, state.sessions id = some session →
    session.change.Sound organization state.files

section Requests

variable {organization : Nat} {files : Table StoredFile} {change : FileChange}

theorem countedFile_recorded {fileId : Nat} {file : StoredFile}
    (found : countedFile organization files fileId = .ok file) : Recorded files file := by
  unfold countedFile Library.getScoped at found
  split at found
  · next row got =>
    split at found
    · cases found
      exact ⟨file, (Table.get_eq_some.mp got).1, rfl, rfl, rfl⟩
    · cases found
  · cases found

theorem sound_delete {fileId : Nat} {file : StoredFile}
    (found : countedFile organization files fileId = .ok file) :
    (FileChange.delete [file]).Sound organization files := by
  refine ⟨by simp, fun other member => ?_⟩
  rw [List.mem_singleton.mp member]
  exact countedFile_recorded found

theorem sound_completed {fileId : Nat} {actual : Option Nat}
    (made : completed organization files fileId actual = some change) :
    change.Sound organization files := by
  unfold completed at made
  split at made
  · cases made
  · next file found =>
    split at made
    · cases made
    · split at made
      · cases made
        trivial
      · cases made
        exact sound_delete found

theorem sound_deleted {fileId : Nat} (made : deleted organization files fileId = some change) :
    change.Sound organization files := by
  unfold deleted at made
  split at made
  · cases made
  · next file found =>
    cases made
    exact sound_delete found

theorem sound_expired (stale : List Nat) :
    (FileChange.delete (expired files stale)).Sound organization files := by
  constructor
  · apply List.pairwise_map.mpr
    have apart := files.pairwise.sublist (List.filter_sublist (p := fun file =>
      file.status = .pending ∧ file.deleted = false ∧ file.id ∈ stale))
    exact apart.imp fun compatible => compatible.1
  · intro file member
    exact ⟨file, (List.mem_filter.mp member).1, rfl, rfl, rfl⟩

theorem sound_uploaded {fileId : Nat} {filename contentType : Option String} {data : Bytes}
    {allowed : Result Unit}
    (made : uploaded organization fileId filename contentType data allowed = .ok change) :
    change.Sound organization files := by
  unfold uploaded at made
  split at made
  · cases made
  · obtain ⟨-, -, made⟩ := Result.bind_eq_ok.mp made
    obtain ⟨key, -, made⟩ := Result.bind_eq_ok.mp made
    cases made
    exact ⟨rfl, rfl⟩

theorem sound_presigned {fileId : Nat} {name contentType : String} {sizeBytes : Nat}
    {allowed : Result Unit}
    (made : presigned organization fileId name contentType sizeBytes allowed = .ok change) :
    change.Sound organization files := by
  obtain ⟨-, -, made⟩ := Result.bind_eq_ok.mp made
  obtain ⟨key, -, made⟩ := Result.bind_eq_ok.mp made
  cases made
  exact ⟨rfl, rfl⟩

theorem sound_answered {answer : Result FileChange}
    (sound : ∀ made, answer = .ok made → made.Sound organization files) :
    ∀ made, answer.toOption = some made → made.Sound organization files := by
  intro made same
  cases answer with
  | error failure => cases same
  | ok change =>
      cases same
      exact sound _ rfl

end Requests

section Steps

variable {organization : Nat} {state : StorageBooks}

theorem StorageInvariant.enter (invariant : StorageInvariant organization state) (id : Nat)
    {session : StorageSession} (sound : session.change.Sound organization state.files) :
    StorageInvariant organization (state.enter id session) := by
  refine ⟨invariant.exactly, fun other entry found => ?_⟩
  rcases Sessions.entered found with ⟨-, rfl⟩ | ⟨-, before⟩
  · exact sound
  · exact invariant.sound other entry before

theorem StorageInvariant.leave (invariant : StorageInvariant organization state) (id : Nat) :
    StorageInvariant organization (state.leave id) := by
  refine ⟨invariant.exactly, fun other entry found => ?_⟩
  obtain ⟨-, before⟩ := Sessions.left found
  exact invariant.sound other entry before

theorem StorageInvariant.start (invariant : StorageInvariant organization state) (id : Nat)
    {change : Option FileChange}
    (sound : ∀ made, change = some made → made.Sound organization state.files) :
    StorageInvariant organization (state.start id change) := by
  unfold StorageBooks.start
  split
  · next made _ => exact invariant.enter id (sound made rfl)
  · exact invariant

theorem StorageInvariant.commit (invariant : StorageInvariant organization state) {id : Nat}
    {change : FileChange} {adjusted : Bool} {files : Table StoredFile}
    (found : state.sessions id = some ⟨change, adjusted, true⟩)
    (still : StillThere organization state (.commit id))
    (done : change.apply state.files = some files) :
    StorageInvariant organization { state.leave id with
      files
      gauge := (change.deltas organization).foldl Gauge.adjust state.gauge } := by
  refine ⟨invariant.exactly.commit (invariant.sound id _ found) ?_ done, fun other entry there => ?_⟩
  · rintro removed rfl
    simpa only [StillThere, found] using still
  · exact ((invariant.leave id).sound other entry there).after done

theorem StorageInvariant.step (invariant : StorageInvariant organization state)
    (action : StorageAction) (still : StillThere organization state action) :
    StorageInvariant organization (StorageBooks.step organization state action) := by
  cases action with
  | uploadFile id fileId filename contentType data allowed =>
      exact invariant.start id (sound_answered fun _ made => sound_uploaded made)
  | presignUpload id fileId name contentType sizeBytes allowed =>
      exact invariant.start id (sound_answered fun _ made => sound_presigned made)
  | completeUpload id fileId actual =>
      exact invariant.start id fun _ made => sound_completed made
  | deleteFile id fileId => exact invariant.start id fun _ made => sound_deleted made
  | purgeExpired id stale =>
      simp only [StorageBooks.step]
      split
      · split
        · exact invariant
        · have entered : StorageInvariant organization
              (state.enter id ⟨.delete (expired state.files stale), false, true⟩) :=
            invariant.enter id (sound_expired stale)
          exact ⟨entered.exactly, entered.sound⟩
      · exact invariant
  | adjustGauge id =>
      simp only [StorageBooks.step]
      split
      · next _ _ change written found _ =>
        have sound : change.Sound organization state.files := invariant.sound id _ found
        split
        · exact invariant
        · have entered : StorageInvariant organization (state.enter id ⟨change, true, written⟩) :=
            invariant.enter id sound
          exact ⟨entered.exactly, entered.sound⟩
      · exact invariant
  | flush id =>
      simp only [StorageBooks.step]
      split
      · next change adjusted found =>
        split
        · split
          · have sound : change.Sound organization state.files := invariant.sound id _ found
            have entered : StorageInvariant organization (state.enter id ⟨change, adjusted, true⟩) :=
              invariant.enter id sound
            exact ⟨entered.exactly, entered.sound⟩
          · exact invariant.leave id
        · exact invariant
      · exact invariant
  | commit id =>
      simp only [StorageBooks.step]
      split
      · next change adjusted found =>
        split
        · split
          · next files done => exact invariant.commit found still done
          · exact invariant.leave id
        · exact invariant
      · exact invariant
  | rollback id => exact invariant.leave id

end Steps

/-- No transaction is in flight over rows of which the gauge is exact. -/
def StorageBooks.opening (organization : Nat) (files : Table StoredFile) : StorageBooks :=
  ⟨files, ⟨storedBytes organization files, false⟩, none, [], fun _ => none⟩

theorem StorageInvariant.opening (organization : Nat) (files : Table StoredFile) :
    StorageInvariant organization (StorageBooks.opening organization files) := by
  refine ⟨⟨rfl, rfl⟩, fun id session found => ?_⟩
  cases found

/-- Whatever is interleaved, the stored bytes are accounted exactly as long as no file's
bytes are given back after the file is deleted. -/
theorem bytes_exact_of_still_there (organization : Nat) (files : Table StoredFile)
    (actions : List StorageAction)
    (still : Runs.Guarded (StorageBooks.step organization) (StillThere organization)
      (StorageBooks.opening organization files) actions) :
    Runs.Always (StorageBooks.step organization) (BytesExact organization)
      (StorageBooks.opening organization files) actions := by
  have always : Runs.Always (StorageBooks.step organization) (StorageInvariant organization)
      (StorageBooks.opening organization files) actions :=
    Runs.always_of_guarded _ (fun _ action invariant met => invariant.step action met)
      (StorageInvariant.opening organization files) still
  exact always.mono _ fun _ invariant _ => invariant.exactly

section Elsewhere

variable {organization : Nat} {state : StorageBooks} {other : Nat}

def StorageAction.session : StorageAction → Nat
  | .uploadFile id _ _ _ _ _ | .presignUpload id _ _ _ _ _ | .completeUpload id _ _
  | .deleteFile id _ | .purgeExpired id _ | .adjustGauge id | .flush id | .commit id
  | .rollback id => id

theorem StorageBooks.start_elsewhere {id : Nat} (different : other ≠ id) (change : Option FileChange) :
    (state.start id change).sessions other = state.sessions other := by
  unfold StorageBooks.start
  split
  · exact enter_elsewhere different
  · rfl

/-- A step is taken by one session, and the others stay where they are. -/
theorem StorageBooks.step_elsewhere {action : StorageAction} (different : other ≠ action.session) :
    (StorageBooks.step organization state action).sessions other = state.sessions other := by
  cases action with
  | uploadFile id | presignUpload id | completeUpload id | deleteFile id =>
      exact start_elsewhere different _
  | rollback id => exact leave_elsewhere different
  | purgeExpired id stale =>
      simp only [StorageBooks.step]
      split
      · split
        · rfl
        · exact enter_elsewhere different
      · rfl
  | adjustGauge id =>
      simp only [StorageBooks.step]
      split
      · split
        · rfl
        · exact enter_elsewhere different
      · rfl
  | flush id =>
      simp only [StorageBooks.step]
      split
      · split
        · split
          · exact enter_elsewhere different
          · exact leave_elsewhere different
        · rfl
      · rfl
  | commit id =>
      simp only [StorageBooks.step]
      split
      · split
        · split
          · exact leave_elsewhere different
          · exact leave_elsewhere different
        · rfl
      · rfl

theorem StorageBooks.run_elsewhere {actions : List StorageAction}
    (different : ∀ action ∈ actions, other ≠ action.session) :
    (Runs.run (StorageBooks.step organization) state actions).sessions other =
      state.sessions other :=
  Runs.run_untouched _ (fun state => state.sessions other)
    (fun _ action member => step_elsewhere (different action member)) state

end Elsewhere

/-- An upload, and a reservation of a larger one, each in a transaction of its own. -/
def reservations : List StorageAction :=
  [.uploadFile 1 10 (some "note.txt") (some "text/plain") [110, 111, 116, 101] (.ok ()),
    .adjustGauge 1, .flush 1, .commit 1,
    .presignUpload 2 11 "video.mp4" "video/mp4" 7000 (.ok ()), .adjustGauge 2, .flush 2, .commit 2]

/-- The purge deletes the reservation, and a request the note, one after the other. -/
theorem bytes_exact_purged :
    Runs.Always (StorageBooks.step 1) (BytesExact 1) (StorageBooks.opening 1 .empty)
      (reservations ++
        [.purgeExpired 3 [11], .adjustGauge 3, .commit 3,
          .deleteFile 4 10, .adjustGauge 4, .flush 4, .commit 4]) :=
  bytes_exact_of_still_there 1 .empty _ (by decide +kernel)

/-- Two requests delete the same file: each reads it undeleted, and gives its bytes back. -/
def doubleDelete : List StorageAction :=
  reservations ++
    [.deleteFile 3 10, .deleteFile 4 10, .adjustGauge 3, .flush 3, .commit 3,
      .adjustGauge 4, .flush 4, .commit 4]

theorem bytes_given_back_twice :
    ¬ Runs.Always (StorageBooks.step 1) (BytesExact 1) (StorageBooks.opening 1 .empty) doubleDelete ∧
      (Runs.run (StorageBooks.step 1) (StorageBooks.opening 1 .empty) doubleDelete).gauge =
        ⟨6996, false⟩ ∧
      storedBytes 1
        (Runs.run (StorageBooks.step 1) (StorageBooks.opening 1 .empty) doubleDelete).files =
        7000 := by
  have gauge :
      (Runs.run (StorageBooks.step 1) (StorageBooks.opening 1 .empty) doubleDelete).gauge =
        ⟨6996, false⟩ := by
    decide +kernel
  have bytes : storedBytes 1
      (Runs.run (StorageBooks.step 1) (StorageBooks.opening 1 .empty) doubleDelete).files =
        7000 := by
    decide +kernel
  refine ⟨fun always => ?_, gauge, bytes⟩
  have quiet :
      (Runs.run (StorageBooks.step 1) (StorageBooks.opening 1 .empty) doubleDelete).Quiet := by
    intro id
    by_cases took_part : id ∈ [1, 2, 3, 4]
    · have finished : ∀ id ∈ [1, 2, 3, 4],
          (Runs.run (StorageBooks.step 1) (StorageBooks.opening 1 .empty) doubleDelete).sessions id =
            none := by
        decide +kernel
      exact finished id took_part
    · apply StorageBooks.run_elsewhere
      intro action member same
      have among : ∀ action ∈ doubleDelete, action.session ∈ [1, 2, 3, 4] := by decide +kernel
      exact took_part (same ▸ among action member)
  have equal := (always.last (StorageBooks.step 1) quiet).1
  rw [gauge, bytes] at equal
  cases equal

end SynapseSaas.Storage
