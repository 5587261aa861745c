/-
# The file of secrets

The fallback of the layered store is a file that holds a JSON object.  A put or a delete reads the
whole file, writes the changed map to a temporary file beside it and renames that file over the old
one, all of it under a lock; a get reads under the same lock, which readers share.  Every call of
the file system may fail, and a failed call may leave anything in the temporary file.
-/
import OzonSuite.Lib.Machine
import OzonSuite.Lib.Threads
import OzonSuite.Lib.Utf8
import OzonSuite.SecretStore.Layered

namespace OzonSuite

open Lib

/-- What a file of secrets stands for. -/
abbrev SecretMap := Finmap fun _ : SecretName => String

/-- What the store takes from a library.  A hash map is written in an order of its own every
time. -/
structure SerdeCrates where
  toVec : (order : ℕ) → SecretMap → Bytes
  /-- The map that the contents of a file are read as: not text, not JSON, or a map. -/
  parse : Bytes → Except SecretStoreError SecretMap

/-- The files of the store: the one with the secrets, and the temporary one. -/
structure SecretFiles where
  secrets : Option Bytes
  temp : Option Bytes
deriving DecidableEq

/-- `read_map`, when the file can be read; one that does not exist is an empty map. -/
def SecretFiles.readMap (x : SerdeCrates) (disk : SecretFiles) :
    Except SecretStoreError SecretMap :=
  match disk.secrets with
  | none => .ok ∅
  | some contents => x.parse contents

/-- What a call of the file system meets: whether it fails, what it then leaves of the temporary
file, and the order in which a hash map is written. -/
structure Io where
  fails : Bool
  left : Option Bytes
  order : ℕ
deriving DecidableEq

/-! ## An operation -/

/-- An operation, at its next call of the file system. -/
inductive FileTask
  /-- Waiting for the lock. -/
  | waiting (request : SecretRequest)
  | reading (request : SecretRequest)
  /-- `write_map`, about to create the directory. -/
  | creatingDir (request : SecretRequest) (values : SecretMap)
  | opening (request : SecretRequest) (payload : Bytes)
  | writing (request : SecretRequest) (payload : Bytes)
  | syncing (request : SecretRequest)
  | replacing (request : SecretRequest)
  | returned (request : SecretRequest) (reply : SecretReply)

/-- What a request does to the map. -/
def SecretRequest.apply : SecretRequest → SecretMap → SecretMap
  | .put name value, values => values.insert name value
  | .get _, values => values
  | .delete name, values => values.erase name

namespace SecretRequest

variable {request : SecretRequest} {key : SecretName} {value : String} {values : SecretMap}

@[simp] lemma apply_get : (get key).apply values = values := rfl

/-- What is put is found, whatever was there. -/
@[simp] lemma lookup_apply_put : ((put key value).apply values).lookup key = some value :=
  Finmap.lookup_insert _

/-- What is deleted is not found. -/
@[simp] lemma lookup_apply_delete : ((delete key).apply values).lookup key = none :=
  Finmap.lookup_erase _ _

/-- The entries under other names stay. -/
lemma lookup_apply_of_ne (h : request.name ≠ key) :
    (request.apply values).lookup key = values.lookup key := by
  cases request with
  | put other value => exact Finmap.lookup_insert_of_ne _ (Ne.symm h)
  | get other => rfl
  | delete other => exact Finmap.lookup_erase_ne (Ne.symm h)

end SecretRequest

/-- The answer of a request that has failed. -/
def SecretRequest.failed (e : SecretStoreError) : SecretRequest → SecretReply
  | .get _ => .value (.error e)
  | .put _ _ | .delete _ => .done (.error e)

/-- What an operation that has read the map goes on with. -/
def SecretRequest.afterRead (request : SecretRequest) (values : SecretMap) : FileTask :=
  match request with
  | .get name => .returned request (.value (.ok (values.lookup name)))
  | .put _ _ | .delete _ => .creatingDir request (request.apply values)

/-- The operation has failed. -/
def FileTask.fail (request : SecretRequest) (e : SecretStoreError) : FileTask :=
  .returned request (request.failed e)

/-- The next call of an operation.  On Unix the temporary file is opened, emptied, written and
synchronised; on other systems it is just written. -/
def FileTask.block (x : SerdeCrates) (unix : Bool) (io : Io) (disk : SecretFiles) : FileTask →
    FileTask × SecretFiles
  | .waiting request => (reading request, disk)
  | .reading request =>
    if io.fails then (fail request .backendUnavailable, disk)
    else match disk.readMap x with
      | .error e => (fail request e, disk)
      | .ok values => (request.afterRead values, disk)
  | .creatingDir request values =>
    if io.fails then (fail request .backendUnavailable, disk)
    else (opening request (x.toVec io.order values), disk)
  | .opening request payload =>
    if io.fails then (fail request .backendUnavailable, { disk with temp := io.left })
    else (writing request payload, { disk with temp := some [] })
  | .writing request payload =>
    if io.fails then (fail request .backendUnavailable, { disk with temp := io.left })
    else
      -- what was in the file stays behind the payload
      (if unix then .syncing request else .replacing request,
        { disk with temp := disk.temp.map fun old => payload ++ old.drop payload.length })
  | .syncing request =>
    if io.fails then (fail request .backendUnavailable, disk) else (.replacing request, disk)
  | .replacing request =>
    if io.fails then (fail request .backendUnavailable, disk)
    else match disk.temp with
      | none => (fail request .backendUnavailable, disk)
      | some contents => (returned request (.done (.ok ())), ⟨some contents, none⟩)
  | .returned request reply => (returned request reply, disk)

namespace FileTask

/-- The operation that the task is for. -/
def request : FileTask → SecretRequest
  | .waiting request | .reading request | .creatingDir request _ | .opening request _
  | .writing request _ | .syncing request | .replacing request | .returned request _ => request

/-- The operation is under the lock. -/
def inside : FileTask → Bool
  | .waiting _ | .returned _ _ => false
  | _ => true

/-- The operation has waited. -/
def entered : FileTask → Bool
  | .waiting _ => false
  | _ => true

/-- The change that the operation has answered to have made. -/
def committed : FileTask → Option SecretRequest
  | .returned request (.done (.ok ())) => some request
  | _ => none

end FileTask

/-- A request that takes the lock for itself. -/
def SecretRequest.writes : SecretRequest → Bool
  | .get _ => false
  | .put _ _ | .delete _ => true

/-! ## Operations beside each other -/

/-- What the operations share; `order` lists them as they have got the lock. -/
structure FileShared where
  disk : SecretFiles
  order : List ℕ

/-- The file and the operations that run. -/
abbrev FileSecretStore := Threads FileShared FileTask

/-- A step of the store. -/
inductive FileLabel
  | call (request : SecretRequest)
  /-- The `i`-th operation makes its next call. -/
  | advance (i : ℕ) (io : Io)
deriving DecidableEq

namespace FileSecretStore

/-- The lock is free for a request: writers share it with nobody, readers with each other. -/
def LockFree (s : FileSecretStore) (request : SecretRequest) : Prop :=
  ∀ t ∈ s.threads, t.inside = true → request.writes = false ∧ t.request.writes = false

/-- The task does not wait for the lock. -/
def CanAdvance (s : FileSecretStore) : FileTask → Prop
  | .waiting request => s.LockFree request
  | .returned _ _ => False
  | .reading _ | .creatingDir _ _ | .opening _ _ | .writing _ _ | .syncing _ | .replacing _ => True

/-- The step can be taken. -/
def Enabled (s : FileSecretStore) : FileLabel → Prop
  | .call _ => True
  | .advance i _ => ∃ t ∈ s.threads[i]?, s.CanAdvance t

instance (s : FileSecretStore) (request : SecretRequest) : Decidable (s.LockFree request) :=
  inferInstanceAs (Decidable (∀ t ∈ s.threads, t.inside = true →
    request.writes = false ∧ t.request.writes = false))

instance (s : FileSecretStore) : DecidablePred s.CanAdvance
  | .waiting request => inferInstanceAs (Decidable (s.LockFree request))
  | .returned _ _ => inferInstanceAs (Decidable False)
  | .reading _ | .creatingDir _ _ | .opening _ _ | .writing _ _ | .syncing _ | .replacing _ =>
    inferInstanceAs (Decidable True)

instance (s : FileSecretStore) : DecidablePred s.Enabled
  | .call _ => inferInstanceAs (Decidable True)
  | .advance i _ => inferInstanceAs (Decidable (∃ t ∈ s.threads[i]?, s.CanAdvance t))

/-- A new operation, or the next call of one. -/
def step (x : SerdeCrates) (unix : Bool) (s : FileSecretStore) : FileLabel → FileSecretStore
  | .call request => { s with threads := s.threads ++ [.waiting request] }
  | .advance i io =>
    match s.threads[i]? with
    | some t =>
      let (next, disk) := t.block x unix io s.shared.disk
      let order := if t.entered then s.shared.order else s.shared.order ++ [i]
      s.after i ⟨next, [], ⟨disk, order⟩⟩
    | none => s

/-- The changes that were answered with success, in the order in which they got the lock. -/
def committed (s : FileSecretStore) : List SecretRequest :=
  s.shared.order.filterMap fun i => s.threads[i]?.bind FileTask.committed

end FileSecretStore

/-- A store on a disk where anything may be. -/
def fileStore (x : SerdeCrates) (unix : Bool) : Machine FileSecretStore FileLabel Unit where
  init s := s.threads = [] ∧ s.shared.order = []
  enabled s l := s.Enabled l
  step s l := ((), s.step x unix l)

instance (x : SerdeCrates) (unix : Bool) (s : FileSecretStore) (l : FileLabel) :
    Decidable ((fileStore x unix).enabled s l) := inferInstanceAs (Decidable (s.Enabled l))

/-- Apply changes one after the other. -/
def applyAll (requests : List SecretRequest) (values : SecretMap) : SecretMap :=
  requests.foldl (fun values request => request.apply values) values

end OzonSuite
