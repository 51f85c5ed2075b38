import SynapseSaas.Core.CacheSystem
import SynapseSaas.Core.Errors
import SynapseSaas.Foundation.Runs
import SynapseSaas.Foundation.Table

/-! Stored files: rows that index objects, and the objects, which are kept under
keys made of the organization and the file's name.

Objects are written outside the transaction of a request: they stay as a request
left them, whether or not its rows were committed. -/

set_option autoImplicit false

namespace SynapseSaas.Storage

abbrev Bytes := List UInt8

inductive FileStatus where
  | pending       -- a presigned PUT was issued and the quota reserved
  | ready         -- bytes verified
  deriving DecidableEq, Repr

structure StoredFile where
  id : Nat
  organizationId : Nat
  key : String
  name : String
  contentType : String
  sizeBytes : Nat
  status : FileStatus
  deleted : Bool
  deriving DecidableEq, Repr

instance : Keyed StoredFile where
  Key := Empty
  decEq := inferInstance
  id file := file.id
  keys _ := []

/-- `_KEY_RE`, whose `$` admits a final line feed. -/
def keyMatches (key : List Char) : Bool :=
  let text := if key.getLast? = some '\n' then key.dropLast else key
  match text with
  | [] => false
  | first :: rest =>
      first.isAlphanum ∧ rest.length ≤ 500 ∧
        rest.all fun char => char.isAlphanum || char = '.' || char = '_' || char = '/' || char = '-'

def validateKey (key : String) (organizationId : Option Nat) : Result Unit :=
  if ¬keyMatches key.toList then raise .storage "Invalid storage key"
  else
    match organizationId with
    | none => .ok ()
    | some organizationId =>
        let expected := uuidText organizationId ++ "/"
        if expected.toList.isPrefixOf key.toList then .ok ()
        else raise .tenantViolation
          ("Storage key must be prefixed with the organization id (" ++ expected ++ ")")

/-- Build a validated key of the organization from a caller-supplied object name. -/
def scopedKey (organizationId : Nat) (name : String) : Result String := do
  let safeName := name.toList.dropWhile (· = '/')
  if '/' ∈ safeName ∧ ['.', '.'] ∈ safeName.splitOn '/' then
    raise .storage "Invalid storage key"
  else
    let key := uuidText organizationId ++ "/" ++ String.ofList safeName
    validateKey key (some organizationId)
    return key

/-- What a row is refused for at the flush: texts longer than their columns. -/
def StoredFile.fits (file : StoredFile) : Bool :=
  file.key.length ≤ 512 ∧ file.name.length ≤ 255 ∧ file.contentType.length ≤ 128

/-- The rows, the objects by the place where the backend keeps them, the ids of the
files whose upload URL is out, and what was last uploaded for each file, which
nothing reads. -/
structure Library (Place : Type) where
  files : Table StoredFile
  objects : Place → Option Bytes
  urls : List Nat
  sent : Nat → Option Bytes

/-- The backend: where it keeps the object of a key (the key itself in a bucket, the
resolved path on disk), and whether it hands out upload URLs. -/
structure Backend (Place : Type) where
  place : String → Place
  supportsPresignedUpload : Bool

variable {Place : Type} [DecidableEq Place] (backend : Backend Place)

namespace Library

variable (library : Library Place)

/-- The row of a file of the organization, undeleted and in one of the statuses. -/
def getScoped (fileId organizationId : Nat) (statuses : List FileStatus) : Result StoredFile :=
  match library.files.get fileId with
  | some file =>
      if file.organizationId = organizationId ∧ file.deleted = false ∧ file.status ∈ statuses then
        .ok file
      else raise .notFound "File not found"
  | none => raise .notFound "File not found"

def insertFile (make : Nat → StoredFile) : Result (StoredFile × Table StoredFile) :=
  let file := make library.files.next
  if file.fits then
    match library.files.insert make with
    | some files => .ok (file, files)
    | none => .error (.other .integrity)
  else .error (.other .invalidData)

def putObject (key : String) (data : Bytes) : Library Place :=
  { library with objects := Function.update library.objects (backend.place key) (some data) }

/-- The object of a key as the backend returns it. -/
def getObject (key : String) : Result Bytes :=
  match library.objects (backend.place key) with
  | some data => .ok data
  | none => raise .notFound "Object not found"

end Library

/-- A request of the client; `allowed` is what the permission, the feature gate and
the quota make of it. A PUT goes to the storage directly. -/
inductive FileRequest where
  | upload (organizationId : Nat) (filename contentType : Option String) (data : Bytes)
      (allowed : Result Unit)
  | presignUpload (organizationId : Nat) (name contentType : String) (sizeBytes : Nat)
      (allowed : Result Unit)
  | put (fileId : Nat) (data : Bytes)
  | complete (organizationId fileId : Nat)
  | delete (organizationId fileId : Nat)

def maxDirectUploadBytes : Nat := 10 * 1024 * 1024

/-- A text in a boolean position, with its default. -/
def textOr (text : Option String) (fallback : String) : String :=
  (text.filter (· ≠ "")).getD fallback

section Operations

variable (library : Library Place)

def uploadFile (organizationId : Nat) (filename contentType : Option String) (data : Bytes)
    (allowed : Result Unit) : Library Place × Result StoredFile :=
  if data.length > maxDirectUploadBytes then
    (library, raise .storage "Direct upload capped at 10 MiB; use presigned upload")
  else
    match allowed, scopedKey organizationId (textOr filename "unnamed") with
    | .error failure, _ | .ok _, .error failure => (library, .error failure)
    | .ok _, .ok key =>
        let library := library.putObject backend key data
        let make (id : Nat) : StoredFile :=
          ⟨id, organizationId, key, textOr filename "unnamed",
            textOr contentType "application/octet-stream", data.length, .ready, false⟩
        match library.insertFile make with
        | .ok (file, files) =>
            ({ library with files := files, sent := Function.update library.sent file.id (some data) },
              .ok file)
        | .error failure => (library, .error failure)

def presignUpload (organizationId : Nat) (name contentType : String) (sizeBytes : Nat)
    (allowed : Result Unit) : Library Place × Result StoredFile :=
  if backend.supportsPresignedUpload then
    match allowed, scopedKey organizationId name with
    | .error failure, _ | .ok _, .error failure => (library, .error failure)
    | .ok _, .ok key =>
        let make (id : Nat) : StoredFile :=
          ⟨id, organizationId, key, name, contentType, sizeBytes, .pending, false⟩
        match library.insertFile make with
        | .ok (file, files) =>
            ({ library with
                files := files
                urls := file.id :: library.urls
                sent := Function.update library.sent file.id none }, .ok file)
        | .error failure => (library, .error failure)
  else
    (library, raise .presignUnsupported
      "Presigned uploads need an S3-compatible backend; use multipart POST /files"
      [("direct_upload_limit_bytes", .int maxDirectUploadBytes)])

/-- The client's PUT to the URL of a file. -/
def putPresigned (fileId : Nat) (data : Bytes) : Library Place :=
  match library.files.get fileId with
  | some file =>
      if fileId ∈ library.urls then
        { library.putObject backend file.key data with
          sent := Function.update library.sent fileId (some data) }
      else library
  | none => library

/-- A write to a row that is there. -/
def Library.writeFile (file : StoredFile) : Library Place :=
  match library.files.put file with
  | some files => { library with files }
  | none => library

/-- Verify the uploaded object and mark its row ready; a mismatch deletes the row,
which is committed before the error is reported. -/
def completeUpload (organizationId fileId : Nat) : Library Place × Result StoredFile :=
  match library.getScoped fileId organizationId [.pending, .ready] with
  | .error failure => (library, .error failure)
  | .ok file =>
      if file.status = .ready then (library, .ok file)
      else
        let actual := (library.objects (backend.place file.key)).map List.length
        if actual = some file.sizeBytes then
          let ready := { file with status := .ready }
          (library.writeFile ready, .ok ready)
        else
          (library.writeFile { file with deleted := true },
            raise .uploadIncomplete
              "Object missing or size mismatch; request a new presigned upload"
              [("expected_bytes", .int file.sizeBytes),
                ("actual_bytes", match actual with
                  | some size => .int size
                  | none => .null)])

def downloadFile (organizationId fileId : Nat) : Result Bytes := do
  let file ← library.getScoped fileId organizationId [.ready]
  library.getObject backend file.key

/-- Soft-delete the row and remove the object. -/
def deleteFile (organizationId fileId : Nat) : Library Place × Result Unit :=
  match library.getScoped fileId organizationId [.pending, .ready] with
  | .error failure => (library, .error failure)
  | .ok file =>
      let library := library.writeFile { file with deleted := true }
      ({ library with objects := Function.update library.objects (backend.place file.key) none },
        .ok ())

end Operations

/-- One request after the other. -/
def serve (library : Library Place) : FileRequest → Library Place
  | .upload organizationId filename contentType data allowed =>
      (uploadFile backend library organizationId filename contentType data allowed).1
  | .presignUpload organizationId name contentType sizeBytes allowed =>
      (presignUpload backend library organizationId name contentType sizeBytes allowed).1
  | .put fileId data => putPresigned backend library fileId data
  | .complete organizationId fileId => (completeUpload backend library organizationId fileId).1
  | .delete organizationId fileId => (deleteFile backend library organizationId fileId).1

end SynapseSaas.Storage
