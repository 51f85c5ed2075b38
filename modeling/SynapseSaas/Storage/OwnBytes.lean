import SynapseSaas.Storage.Files

/-! Which runs of file requests leave every file with the bytes uploaded for it. -/

set_option autoImplicit false

namespace SynapseSaas.Storage

variable {Place : Type}

section Rows

variable {library : Library Place} {file : StoredFile}

theorem getScoped_eq_ok {fileId organizationId : Nat} {statuses : List FileStatus} :
    library.getScoped fileId organizationId statuses = .ok file ↔
      file ∈ library.files.rows ∧ file.id = fileId ∧ file.organizationId = organizationId ∧
        file.deleted = false ∧ file.status ∈ statuses := by
  unfold Library.getScoped
  cases found : library.files.get fileId with
  | none =>
      simp only [raise, reduceCtorEq, false_iff]
      rintro ⟨here, same, -⟩
      rw [Table.get_eq_some.mpr ⟨here, same⟩] at found
      cases found
  | some row =>
      obtain ⟨here, same⟩ := Table.get_eq_some.mp found
      constructor
      · intro ok
        simp only at ok
        split at ok
        · next facts =>
            cases ok
            exact ⟨here, same, facts⟩
        · cases ok
      · rintro ⟨there, mine, facts⟩
        cases library.files.eq_of_id here there (same.trans mine.symm)
        exact if_pos facts

theorem insertFile_eq_ok {make : Nat → StoredFile} {files : Table StoredFile}
    (inserted : library.insertFile make = .ok (file, files)) :
    file = make library.files.next ∧ files.rows = library.files.rows ++ [file] := by
  unfold Library.insertFile at inserted
  simp only at inserted
  split at inserted
  · split at inserted
    · next accepted =>
        cases inserted
        exact ⟨rfl, Table.insert_rows accepted⟩
    · cases inserted
  · cases inserted

theorem writeFile_rows {old : StoredFile} (here : old ∈ library.files.rows)
    (same : file.id = old.id) (row : StoredFile) :
    row ∈ (library.writeFile file).files.rows ↔ row = file ∨ row ∈ library.files.rows ∧ row ≠ old := by
  obtain ⟨files, accepted⟩ :=
    Table.put_accepted library.files here same fun key impossible => by cases key
  simp only [Library.writeFile, accepted]
  exact Table.mem_put here same accepted row

@[simp] theorem writeFile_objects : (library.writeFile file).objects = library.objects := by
  unfold Library.writeFile
  split <;> rfl

@[simp] theorem writeFile_sent : (library.writeFile file).sent = library.sent := by
  unfold Library.writeFile
  split <;> rfl

end Rows

variable [DecidableEq Place] (backend : Backend Place)

def StoredFile.live (file : StoredFile) : Bool := file.status = .ready ∧ file.deleted = false

/-- Every ready file downloads what was uploaded for it. -/
def OwnBytes (library : Library Place) : Prop :=
  ∀ file ∈ library.files.rows, file.live →
    ∃ data, library.sent file.id = some data ∧
      downloadFile backend library file.organizationId file.id = .ok data

/-- The ready files whose object is kept at this place, but for one file. -/
def Library.sharing (library : Library Place) (place : Place) (except : Option Nat) :
    List StoredFile :=
  library.files.rows.filter fun file =>
    file.live && decide (backend.place file.key = place) && decide (some file.id ≠ except)

/-- What is written at a place is what was uploaded for every other ready file there. -/
def Library.Agrees (library : Library Place) (key : String) (except : Option Nat) (data : Bytes) :
    Prop :=
  ∀ file ∈ library.sharing backend (backend.place key) except, library.sent file.id = some data

/-- The request touches no object of another ready file, and completes a file only
with its own upload. -/
def FileRequest.Spares (library : Library Place) : FileRequest → Prop
  | .upload organizationId filename _ data allowed =>
      data.length ≤ maxDirectUploadBytes → allowed = .ok () →
        ∀ key, scopedKey organizationId (textOr filename "unnamed") = .ok key →
          library.Agrees backend key none data
  | .presignUpload _ _ _ _ _ => True
  | .put fileId data =>
      ∀ file, library.files.get fileId = some file → fileId ∈ library.urls →
        library.Agrees backend file.key (some fileId) data
  | .complete organizationId fileId =>
      ∀ file, library.getScoped fileId organizationId [.pending] = .ok file →
        ∀ data, library.objects (backend.place file.key) = some data →
          data.length = file.sizeBytes → library.sent fileId = some data
  | .delete organizationId fileId =>
      ∀ file, library.getScoped fileId organizationId [.pending, .ready] = .ok file →
        library.sharing backend (backend.place file.key) (some fileId) = []

section Lookups

variable {backend} {library : Library Place} {file : StoredFile}

theorem mem_sharing {place : Place} {except : Option Nat} :
    file ∈ library.sharing backend place except ↔
      file ∈ library.files.rows ∧ file.live ∧ backend.place file.key = place ∧
        some file.id ≠ except := by
  simp [Library.sharing, and_assoc]

omit [DecidableEq Place] in
theorem download_eq_ok (here : file ∈ library.files.rows) (live : file.live) {data : Bytes} :
    downloadFile backend library file.organizationId file.id = .ok data ↔
      library.objects (backend.place file.key) = some data := by
  simp only [StoredFile.live, decide_eq_true_eq] at live
  have found : library.getScoped file.id file.organizationId [.ready] = .ok file :=
    getScoped_eq_ok.mpr ⟨here, rfl, rfl, live.2, by simp [live.1]⟩
  simp only [downloadFile, found, Result.ok_bind, Library.getObject]
  cases library.objects (backend.place file.key) with
  | none => simp [raise]
  | some stored => simp

omit [DecidableEq Place] in
/-- A ready file has its bytes where what was uploaded for it lies at its place. -/
theorem ownBytes_iff :
    OwnBytes backend library ↔ ∀ file ∈ library.files.rows, file.live →
      ∃ data, library.sent file.id = some data ∧
        library.objects (backend.place file.key) = some data := by
  constructor
  · intro own file here live
    obtain ⟨data, sent, downloads⟩ := own file here live
    exact ⟨data, sent, (download_eq_ok here live).mp downloads⟩
  · intro own file here live
    obtain ⟨data, sent, stored⟩ := own file here live
    exact ⟨data, sent, (download_eq_ok here live).mpr stored⟩

end Lookups

section Steps

variable {backend} {library : Library Place}

/-- Writing an object keeps the others' bytes exactly if they agree with it. -/
theorem ownBytes_putObject {key : String} {data : Bytes} {except : Option Nat}
    {next : Library Place} (own : OwnBytes backend library)
    (objects : next.objects =
      Function.update library.objects (backend.place key) (some data))
    (sent : ∀ file ∈ library.files.rows, some file.id ≠ except →
      next.sent file.id = library.sent file.id)
    (rows : ∀ file ∈ library.files.rows, some file.id ≠ except → file ∈ next.files.rows)
    (others : ∀ file ∈ next.files.rows, file.live →
      file ∈ library.files.rows ∧ some file.id ≠ except ∨
        backend.place file.key = backend.place key ∧ next.sent file.id = some data) :
    OwnBytes backend next ↔ library.Agrees backend key except data := by
  rw [ownBytes_iff] at own ⊢
  constructor
  · intro after file shared
    obtain ⟨here, live, place, other⟩ := mem_sharing.mp shared
    obtain ⟨kept, mine, stored⟩ := after file (rows file here other) live
    rw [objects, place, Function.update_self] at stored
    rw [← sent file here other, mine, ← stored]
  · intro agrees file there live
    rw [objects]
    rcases others file there live with ⟨here, other⟩ | ⟨place, mine⟩
    · by_cases place : backend.place file.key = backend.place key
      · refine ⟨data, ?_, by rw [place, Function.update_self]⟩
        rw [sent file here other]
        exact agrees file (mem_sharing.mpr ⟨here, live, place, other⟩)
      · obtain ⟨kept, mine, stored⟩ := own file here live
        exact ⟨kept, (sent file here other).trans mine, by
          rwa [Function.update_of_ne place]⟩
    · exact ⟨data, mine, by rw [place, Function.update_self]⟩

theorem upload_step {organizationId : Nat} {filename contentType : Option String} {data : Bytes}
    {allowed : Result Unit} (own : OwnBytes backend library) :
    OwnBytes backend (serve backend library (.upload organizationId filename contentType data
        allowed)) ↔
      (FileRequest.upload organizationId filename contentType data allowed).Spares backend
        library := by
  simp only [serve, uploadFile, FileRequest.Spares]
  split
  · next large => exact iff_of_true own fun small => absurd small (Nat.not_le.mpr large)
  next small =>
  cases allowed with
  | error failure => exact iff_of_true own fun _ impossible => by cases impossible
  | ok _ =>
      cases named : scopedKey organizationId (textOr filename "unnamed") with
      | error failure => exact iff_of_true own fun _ _ _ impossible => by cases impossible
      | ok key =>
          have only : (data.length ≤ maxDirectUploadBytes → (.ok () : Result Unit) = .ok () →
              ∀ key', (.ok key : Result String) = .ok key' →
                library.Agrees backend key' none data) ↔ library.Agrees backend key none data := by
            constructor
            · exact fun all => all (Nat.not_lt.mp small) rfl key rfl
            · rintro agrees - - _ ⟨⟩
              exact agrees
          rw [only]
          simp only
          split
          · next file files inserted =>
              obtain ⟨rfl, listed⟩ := insertFile_eq_ok inserted
              have fresh (row : StoredFile) (here : row ∈ library.files.rows) :
                  row.id ≠ library.files.next := Nat.ne_of_lt (library.files.id_lt_next here)
              refine ownBytes_putObject own rfl ?_ ?_ ?_
              · exact fun row here _ => Function.update_of_ne (fresh row here) ..
              · exact fun row here _ => by simp [listed, Library.putObject, here]
              · intro row there _
                rw [listed, List.mem_append, List.mem_singleton] at there
                rcases there with here | rfl
                · exact .inl ⟨here, by simp⟩
                · exact .inr ⟨rfl, Function.update_self ..⟩
          -- The row is refused, but the object is there.
          · exact ownBytes_putObject own rfl (fun _ _ _ => rfl) (fun _ here _ => here)
              fun row here _ => .inl ⟨here, by simp⟩

theorem put_step {fileId : Nat} {data : Bytes} (own : OwnBytes backend library) :
    OwnBytes backend (serve backend library (.put fileId data)) ↔
      (FileRequest.put fileId data).Spares backend library := by
  simp only [serve, putPresigned, FileRequest.Spares]
  cases found : library.files.get fileId with
  | none => exact iff_of_true own fun _ impossible => by cases impossible
  | some file =>
      obtain ⟨here, same⟩ := Table.get_eq_some.mp found
      by_cases issued : fileId ∈ library.urls
      · simp only [issued, if_true, Option.some.injEq, forall_eq', forall_const]
        refine ownBytes_putObject own rfl ?_ (fun _ there _ => there) ?_
        · intro row _ other
          exact Function.update_of_ne (fun mine => other (congrArg some mine)) ..
        · intro row there _
          by_cases mine : row.id = fileId
          · cases library.files.eq_of_id there here (mine.trans same.symm)
            exact .inr ⟨rfl, by
              subst same
              exact Function.update_self ..⟩
          · exact .inl ⟨there, fun eq => mine (Option.some.inj eq)⟩
      · simp only [issued, if_false]
        exact iff_of_true own fun _ _ impossible => by cases impossible

theorem presign_step {organizationId sizeBytes : Nat} {name contentType : String}
    {allowed : Result Unit} (own : OwnBytes backend library) :
    OwnBytes backend (serve backend library (.presignUpload organizationId name contentType
      sizeBytes allowed)) := by
  simp only [serve, presignUpload]
  split
  · split
    · exact own
    · exact own
    · split
      · next file files inserted =>
          obtain ⟨rfl, listed⟩ := insertFile_eq_ok inserted
          rw [ownBytes_iff] at own ⊢
          intro row there live
          simp only [listed, List.mem_append, List.mem_singleton] at there
          rcases there with here | rfl
          · obtain ⟨data, sent, stored⟩ := own row here live
            have fresh : row.id ≠ library.files.next :=
              Nat.ne_of_lt (library.files.id_lt_next here)
            exact ⟨data, (Function.update_of_ne fresh ..).trans sent, stored⟩
          -- A pending file is not ready.
          · cases live
      · exact own
  · exact own

theorem complete_step {organizationId fileId : Nat} (own : OwnBytes backend library) :
    OwnBytes backend (serve backend library (.complete organizationId fileId)) ↔
      (FileRequest.complete organizationId fileId).Spares backend library := by
  simp only [serve, completeUpload, FileRequest.Spares]
  cases found : library.getScoped fileId organizationId [.pending, .ready] with
  | error failure =>
      refine iff_of_true own fun file pending => ?_
      have facts := getScoped_eq_ok.mp pending
      have there : library.getScoped fileId organizationId [.pending, .ready] = .ok file := by
        refine getScoped_eq_ok.mpr ⟨facts.1, facts.2.1, facts.2.2.1, facts.2.2.2.1, ?_⟩
        simp [List.mem_singleton.mp facts.2.2.2.2]
      rw [there] at found
      cases found
  | ok file =>
      obtain ⟨here, same, home, undeleted, -⟩ := getScoped_eq_ok.mp found
      let readied : StoredFile := { file with status := .ready }
      let dropped : StoredFile := { file with deleted := true }
      have sameReadied : readied.id = file.id := rfl
      have sameDropped : dropped.id = file.id := rfl
      simp only
      by_cases ready : file.status = .ready
      · rw [if_pos ready]
        refine iff_of_true own fun other pending => ?_
        obtain ⟨there, mine, -, -, waiting⟩ := getScoped_eq_ok.mp pending
        cases library.files.eq_of_id there here (mine.trans same.symm)
        rw [List.mem_singleton.mp waiting] at ready
        cases ready
      · have pending : library.getScoped fileId organizationId [.pending] = .ok file := by
          refine getScoped_eq_ok.mpr ⟨here, same, home, undeleted, ?_⟩
          cases status : file.status with
          | pending => simp
          | ready => exact absurd status ready
        rw [if_neg ready]
        split
        · next matching =>
            obtain ⟨data, stored, size⟩ := Option.map_eq_some_iff.mp matching
            have only : (∀ file', library.getScoped fileId organizationId [.pending] = .ok file' →
                ∀ data, library.objects (backend.place file'.key) = some data →
                  data.length = file'.sizeBytes → library.sent fileId = some data) ↔
                library.sent file.id = some data := by
              constructor
              · intro all
                rw [same]
                exact all file pending data stored size
              · intro sent file' pending' data' stored' _
                cases pending.symm.trans pending'
                cases stored.symm.trans stored'
                rw [← same]
                exact sent
            rw [only, ownBytes_iff]
            simp only [writeFile_objects, writeFile_sent]
            constructor
            · intro after
              obtain ⟨kept, sent, placed⟩ :=
                after readied ((writeFile_rows here sameReadied _).mpr (.inl rfl))
                  (by simp [StoredFile.live, readied, undeleted])
              cases stored.symm.trans placed
              exact sent
            · intro sent row there live
              rcases (writeFile_rows here sameReadied row).mp there with rfl | ⟨old, -⟩
              · exact ⟨data, sent, stored⟩
              · exact ownBytes_iff.mp own row old live
        · next mismatch =>
            refine iff_of_true ?_ fun file' pending' data stored size => ?_
            · rw [ownBytes_iff]
              simp only [writeFile_objects, writeFile_sent]
              intro row there live
              rcases (writeFile_rows here sameDropped row).mp there with rfl | ⟨old, -⟩
              · simp [StoredFile.live, dropped] at live
              · exact ownBytes_iff.mp own row old live
            · cases pending.symm.trans pending'
              exact absurd (by rw [stored, Option.map_some, size]) mismatch

theorem delete_step {organizationId fileId : Nat} (own : OwnBytes backend library) :
    OwnBytes backend (serve backend library (.delete organizationId fileId)) ↔
      (FileRequest.delete organizationId fileId).Spares backend library := by
  simp only [serve, deleteFile, FileRequest.Spares]
  cases found : library.getScoped fileId organizationId [.pending, .ready] with
  | error failure => exact iff_of_true own fun _ impossible => by cases impossible
  | ok file =>
      obtain ⟨here, same, -, -, -⟩ := getScoped_eq_ok.mp found
      have deleted : ({ file with deleted := true } : StoredFile).id = file.id := rfl
      simp only [Except.ok.injEq, forall_eq']
      rw [ownBytes_iff]
      simp only [writeFile_objects, writeFile_sent]
      constructor
      · intro after
        rw [List.eq_nil_iff_forall_not_mem]
        intro row shared
        obtain ⟨there, live, place, other⟩ := mem_sharing.mp shared
        have apart : row ≠ file := by
          rintro rfl
          exact other (congrArg some same)
        obtain ⟨data, -, stored⟩ := after row ((writeFile_rows here deleted row).mpr
          (.inr ⟨there, apart⟩)) live
        rw [place, Function.update_self] at stored
        cases stored
      · intro alone row there live
        rcases (writeFile_rows here deleted row).mp there with rfl | ⟨old, apart⟩
        · simp [StoredFile.live] at live
        · obtain ⟨data, sent, stored⟩ := ownBytes_iff.mp own row old live
          refine ⟨data, sent, ?_⟩
          rw [Function.update_of_ne fun place => ?_, stored]
          have shared : row ∈ library.sharing backend (backend.place file.key) (some fileId) := by
            refine mem_sharing.mpr ⟨old, live, place, fun mine => apart ?_⟩
            exact library.files.eq_of_id old here ((Option.some.inj mine).trans same.symm)
          rw [alone] at shared
          cases shared

end Steps

/-- Every ready file downloads what was uploaded for it throughout a run exactly
when no request of the run touches the object of another ready file with other
bytes, deletes it, or completes a file whose object is not its own upload. -/
theorem own_bytes_iff {library : Library Place} (own : OwnBytes backend library)
    (requests : List FileRequest) :
    Runs.Always (serve backend) (OwnBytes backend) library requests ↔
      Runs.Guarded (serve backend) (fun library request => request.Spares backend library) library
        requests := by
  refine Runs.always_iff_guarded (serve backend) (fun _ _ (_ : True) => trivial) ?_ trivial own
    requests
  intro library request _ own
  cases request with
  | upload => exact upload_step own
  | presignUpload => exact iff_of_true (presign_step own) trivial
  | put => exact put_step own
  | complete => exact complete_step own
  | delete => exact delete_step own

/-! Two files of one name. -/

def bucket : Backend String := ⟨id, true⟩

def emptyLibrary : Library String := ⟨.empty, fun _ => none, [], fun _ => none⟩

def report (data : Bytes) : FileRequest :=
  .upload 1 (some "report.txt") none data (.ok ())

theorem emptyLibrary_own : OwnBytes bucket emptyLibrary := by
  intro file here
  cases here

theorem own_bytes_iff_two_names :
    Runs.Always (serve bucket) (OwnBytes bucket) emptyLibrary
        [report [1], .upload 1 (some "notes.txt") none [2] (.ok ()), .delete 1 1] ↔
      Runs.Guarded (serve bucket) (fun library request => request.Spares bucket library) emptyLibrary
        [report [1], .upload 1 (some "notes.txt") none [2] (.ok ()), .delete 1 1] :=
  own_bytes_iff bucket emptyLibrary_own _

/-- The second file of a name replaces the bytes of the first, and its deletion
removes them. -/
theorem same_name_overwritten :
    (downloadFile bucket (Runs.run (serve bucket) emptyLibrary [report [1], report [2]]) 1 0).toOption =
        some [2] ∧
      (downloadFile bucket (Runs.run (serve bucket) emptyLibrary
        [report [1], report [1], .delete 1 1]) 1 0).toOption = none := by
  decide +kernel

end SynapseSaas.Storage
