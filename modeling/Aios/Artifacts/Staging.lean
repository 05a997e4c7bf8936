/-
  File:      Aios/Artifacts/Staging.lean
  Subject:   THE STAGING FILE OF AN ALLOCATION and its writers: opening it, writing to it, sealing it.

  Every primitive on the files runs inside a transaction that first checks the fence of its caller
  (`LockedEntry.permits`), so one primitive is one step here. Between two steps another manager may
  take the lease and another writer may be admitted. What a step finds outside the allocation, and how
  its primitive ends, is given with the step.
-/
import Aios.Lib.Digest
import Aios.Tasks.Tables

namespace Aios.Artifacts

open Lib Tasks

abbrev Bytes := List UInt8

/-! ## 1. The allocation and its files -/

def importLimit : Nat := 8 * 1024 * 1024 * 1024

structure GrantAdmission where
  grantId : String
  oneShotConsumed : Bool
  deriving DecidableEq

/-- A row of `artifact_output_allocations`, as the store loads it. -/
structure AllocationRow where
  taskId : String
  semanticProgramHash : String
  nodeId : String
  bindingId : Option String
  attemptId : Option String
  expectedSemanticType : Option String
  allowedMediaTypes : List String
  maxSizeBytes : Option Nat
  sensitivity : String
  retention : String
  state : AllocationState
  writerGrantAdmission : Option GrantAdmission
  writerSessionId : Option String
  writerGeneration : Nat
  stagingRef : Option String
  expiresAt : String
  deriving DecidableEq

def AllocationRow.maximum (row : AllocationRow) : Nat := min (row.maxSizeBytes.getD importLimit) importLimit

def sealedStagingVersion : Nat := 1

structure SealedStaging where
  version : Nat
  allocationId : String
  sizeBytes : Nat
  contentHash : String
  deriving DecidableEq

structure StagingEnv where
  /-- The allocation. -/
  allocationId : String
  rfc3339 : String → Option Int
  digest : Digest
  /-- `serde_json::to_vec`. -/
  toVec : SealedStaging → Bytes

/-- The size and the hash of the bytes. -/
def StagingEnv.hashReader (env : StagingEnv) (bytes : Bytes) : Nat × String :=
  (bytes.length, env.digest.tagged [] bytes)

/-- The seal of the bytes. -/
def StagingEnv.sealOf (env : StagingEnv) (bytes : Bytes) : SealedStaging :=
  let (size, hash) := env.hashReader bytes
  ⟨sealedStagingVersion, env.allocationId, size, hash⟩

/-- The lease, the row of the allocation, and its three files. -/
structure Staging where
  lease : Lease
  row : AllocationRow
  bytes : Option Bytes
  /-- The seal under its pending name. -/
  pending : Option Bytes
  sealed : Option Bytes

/-- A seal or a pending seal exists. -/
def Staging.closed (s : Staging) : Bool := s.sealed.isSome || s.pending.isSome

/-! ## 2. Errors -/

def authorityDenied : TaskManagerError := .invalidRecord "ARTIFACT_AUTHORITY_DENIED"

def allocationNotFound : TaskManagerError := .invalidRecord "ARTIFACT_ALLOCATION_NOT_FOUND"

def stateConflict : TaskManagerError := .invalidRecord "ARTIFACT_ALLOCATION_STATE_CONFLICT"

def sizeLimit : TaskManagerError := .invalidRecord "ARTIFACT_SIZE_LIMIT"

def staleLease : TaskManagerError :=
  .invalidRecord "Task Manager write rejected by stale ownership fence"

def reentryDenied : TaskManagerError := .invalidRecord "ARTIFACT_EXPORT_REENTRY_DENIED"

/-! ## 3. The fence -/

/-- The manager that holds the lease, and the writer it admitted. -/
structure WriterFence where
  lease : Lease
  grantAdmission : Option GrantAdmission
  taskId : String
  session : String
  generation : Nat
  deriving DecidableEq

/-- What one locked entry finds around the allocation, and how it ends. -/
structure LockedEntry where
  /-- The transaction begins, and the marker is still the one of the caller. -/
  entered : TaskResult Unit
  time : TaskResult String
  coordinatorGrants : TaskResult Bool
  /-- The Task is not recovering, and no export of it is unknown. -/
  taskClear : TaskResult Unit
  /-- The grant of the binding is exact, or the scope of an allocation without one is. -/
  authorized : TaskResult Bool
  /-- The names of the seal can be looked up. -/
  metadata : TaskResult Unit
  /-- The marker is resolved and the transaction commits. -/
  resolved : TaskResult Unit

section Fence

variable (env : StagingEnv) (s : Staging)

def parseTime (text : String) : TaskResult Int :=
  expect (env.rfc3339 text) (.invalidRecord "Artifact timestamp is not RFC 3339")

/-- `expires_at <= now`. -/
def expiredAt (expiresAt now : String) : TaskResult Bool := do
  let expiry ← parseTime env expiresAt
  let time ← parseTime env now
  return decide (expiry ≤ time)

/-- The grant the caller was admitted under is the one of the row; without a binding there is none. -/
def admissionMatches (grantAdmission : Option GrantAdmission) : Bool :=
  match s.row.bindingId with
  | some _ => grantAdmission.isSome && s.row.writerGrantAdmission = grantAdmission
  | none => s.row.writerGrantAdmission.isNone && grantAdmission.isNone

/-- `validate_writer_authority`, at the given time. -/
def validateWriterAuthority (e : LockedEntry) (now : String) (lease : Lease)
    (grantAdmission : Option GrantAdmission) : TaskResult Unit := do
  rejectIf (s.lease ≠ lease) authorityDenied
  e.taskClear
  rejectIf (s.row.state ≠ .writing) authorityDenied
  let expired ← expiredAt env s.row.expiresAt now
  rejectIf expired authorityDenied
  rejectIf (!admissionMatches s grantAdmission) authorityDenied
  let authorized ← e.authorized
  rejectIf (!authorized) authorityDenied

/-- `validate_writer_fence`. -/
def validateWriterFence (e : LockedEntry) (now : String) (w : WriterFence) : TaskResult Unit := do
  validateWriterAuthority env s e now w.lease w.grantAdmission
  rejectIf (s.row.writerSessionId ≠ some w.session || s.row.writerGeneration ≠ w.generation) authorityDenied

/-- `ensure_writer_unsealed`. -/
def ensureWriterUnsealed (e : LockedEntry) : TaskResult Unit := do
  e.metadata
  rejectIf s.closed stateConflict

/-- What is checked in the transaction before the primitive is called. -/
def LockedEntry.permits (e : LockedEntry) (w : WriterFence) (unsealed : Bool) : TaskResult Unit := do
  e.entered
  let now ← e.time
  let valid ← e.coordinatorGrants
  rejectIf (!valid) authorityDenied
  validateWriterFence env s e now w
  rejectIf (s.row.taskId ≠ w.taskId) authorityDenied
  if unsealed then ensureWriterUnsealed s e else .ok ()

/-- `prepare_external_effect`: the marker is recorded under the lease of the caller. -/
def prepareExternalEffect (lease : Lease) (prepared : TaskResult Unit) : TaskResult Unit := do
  prepared
  rejectIf (s.lease ≠ lease) staleLease

end Fence

/-! ## 4. Primitives -/

/-- How a primitive of one effect ends; where it fails, the effect may have happened. -/
structure PrimitiveIo where
  error : Option TaskManagerError
  happened : Bool

/-- How a `write` to a file ends: so many bytes have reached it, whatever it returns. -/
structure WriteIo where
  error : Option TaskManagerError
  taken : Nat

def PrimitiveIo.result (io : PrimitiveIo) : TaskResult Unit :=
  match io.error with
  | none => .ok ()
  | some e => .error e

def WriteIo.chunk (io : WriteIo) (buffer : Bytes) : Bytes := buffer.take io.taken

def WriteIo.result (io : WriteIo) (buffer : Bytes) : TaskResult Nat :=
  match io.error with
  | none => .ok (io.chunk buffer).length
  | some e => .error e

/-- The content after the chunk was written at the cursor. -/
def writeAt (content : Bytes) (cursor : Nat) (chunk : Bytes) : Bytes :=
  (content ++ List.replicate (cursor - content.length) 0).take cursor ++ chunk ++
    content.drop (cursor + chunk.length)

/-- The primitive changes the files, where it happens. -/
def PrimitiveIo.run (io : PrimitiveIo) (effect : Staging → Staging) (s : Staging) : Staging :=
  if io.error.isNone || io.happened then effect s else s

/-! ## 5. Writers -/

/-- What `finish` does, in its order. -/
inductive FinishStep where
  | flush
  | sync
  | hash
  | createPending
  | permissions
  /-- The seal is written from the offset on, until all of it is there. -/
  | writeSeal
  | sealFlush
  | sealSync
  | syncDirectory
  | rename
  | syncFinal
  deriving DecidableEq

/-- Where a writer stands; each marker is prepared in a step of its own. -/
inductive WriterPhase where
  | idle
  | writing (buffer : Bytes)
  | flushing
  /-- The text is what `hash_reader` has read so far, and the seal behind it. -/
  | finishing (step : FinishStep) (prepared : Bool) (text : Bytes) (offset : Nat)
  /-- `finish` has returned. -/
  | finished
  deriving DecidableEq

structure StagingWriter where
  fence : WriterFence
  maximum : Nat
  written : Nat
  /-- The position of the file. -/
  cursor : Nat
  poisoned : Bool
  phase : WriterPhase
  deriving DecidableEq

/-- What a call returns to its caller. -/
inductive Answer where
  | opened (result : TaskResult Unit)
  | wrote (result : TaskResult Nat)
  | flushed (result : TaskResult Unit)
  | finished (result : TaskResult Nat)
  deriving DecidableEq

section Writers

variable (env : StagingEnv) (s : Staging) (w : StagingWriter)

def outcomeUncertain : TaskManagerError := .io "staging write outcome is uncertain"

def StagingWriter.poison : StagingWriter := { w with poisoned := true, phase := .idle }

/-- The first half of `write`, up to the marker. A write that is refused here has touched nothing. -/
def StagingWriter.beginWrite (buffer : Bytes) (reentry : Bool) (assessed prepared : TaskResult Unit) :
    StagingWriter × Option Answer :=
  let admitted : TaskResult Unit := do
    rejectIf reentry reentryDenied
    rejectIf w.poisoned outcomeUncertain
    assessed
    rejectIf (decide (w.maximum < w.written + buffer.length)) sizeLimit
    prepareExternalEffect s w.fence.lease prepared
  match admitted with
  | .ok () => ({ w with phase := .writing buffer }, none)
  | .error e => (w, some (.wrote (.error e)))

/-- The second half of `write`: the locked entry, the bytes, and the resolution. -/
def StagingWriter.enterWrite (buffer : Bytes) (e : LockedEntry) (io : WriteIo) : Staging × StagingWriter × Answer :=
  match e.permits env s w.fence true with
  | .error error => (s, w.poison, .wrote (.error error))
  | .ok () =>
      let chunk := io.chunk buffer
      let result := io.result buffer
      let written := match result with
        | .ok n => w.written + n
        | .error _ => w.written
      -- a lost resolution poisons the writer, whatever the file has returned
      ({ s with bytes := s.bytes.map fun content => writeAt content w.cursor chunk },
        { w with
          written := written
          cursor := w.cursor + chunk.length
          poisoned := io.error.isSome || e.resolved.toOption.isNone
          phase := .idle },
        .wrote result)

/-- The first half of `flush`. -/
def StagingWriter.beginFlush (reentry : Bool) (prepared : TaskResult Unit) : StagingWriter × Option Answer :=
  let admitted : TaskResult Unit := do
    rejectIf reentry reentryDenied
    rejectIf w.poisoned outcomeUncertain
  match admitted with
  | .error e => (w, some (.flushed (.error e)))
  | .ok () =>
      match prepareExternalEffect s w.fence.lease prepared with
      | .ok () => ({ w with phase := .flushing }, none)
      | .error e => (w.poison, some (.flushed (.error e)))

/-- The second half of `flush`; it leaves the bytes as they are. -/
def StagingWriter.enterFlush (e : LockedEntry) (io : PrimitiveIo) : StagingWriter × Answer :=
  let outcome : TaskResult Unit := do
    e.permits env s w.fence true
    e.resolved
    io.result
  match outcome with
  | .ok () => ({ w with phase := .idle }, .flushed (.ok ()))
  | .error error => (w.poison, .flushed (.error error))

/-- `finish`, up to its first marker; the writer is moved into the call. -/
def StagingWriter.beginFinish (reentry : Bool) : StagingWriter × Option Answer :=
  let admitted : TaskResult Unit := do
    rejectIf reentry reentryDenied
    rejectIf w.poisoned (.invalidRecord "Artifact staging writer outcome is uncertain")
  match admitted with
  | .ok () => ({ w with phase := .finishing .flush false [] 0 }, none)
  | .error e => ({ w with phase := .finished }, some (.finished (.error e)))

/-- `finish` returns. -/
def StagingWriter.finishWith (result : TaskResult Nat) : StagingWriter × Option Answer :=
  ({ w with phase := .finished }, some (.finished result))

/-- `finish` goes on with this step. -/
def StagingWriter.proceed (step : FinishStep) (text : Bytes) (offset : Nat) : StagingWriter × Option Answer :=
  ({ w with phase := .finishing step false text offset }, none)

/-- The marker of a step of `finish`. -/
def StagingWriter.prepareFinish (step : FinishStep) (text : Bytes) (offset : Nat) (prepared : TaskResult Unit) :
    StagingWriter × Option Answer :=
  match prepareExternalEffect s w.fence.lease prepared with
  | .ok () => ({ w with phase := .finishing step true text offset }, none)
  | .error e => w.finishWith (.error e)

/-- One read of `hash_reader`, outside any transaction: the file is read again from its start, and a
    read returns a byte at least where there is one. -/
def StagingWriter.hashStep (text : Bytes) (read : TaskResult Nat) : StagingWriter × Option Answer :=
  match read with
  | .error e => w.finishWith (.error e)
  | .ok count =>
      match ((s.bytes.getD []).drop text.length).take (max 1 count) with
      | [] =>
          let sealed := env.sealOf text
          if sealed.sizeBytes ≠ w.written then
            w.finishWith (.error (.invalidRecord "Artifact staging writer byte count changed before sealing"))
          else w.proceed .createPending (env.toVec sealed) 0
      | chunk => w.proceed .hash (text ++ chunk) 0

/-- The step is checked against the seal as well. -/
def FinishStep.unsealed : FinishStep → Bool
  | .flush | .sync | .createPending => true
  | _ => false

/-- What the step changes, where it happens. -/
def FinishStep.effect : FinishStep → Staging → Staging
  | .createPending, s => { s with pending := some [] }
  | .rename, s => { s with sealed := s.pending, pending := none }
  | _, s => s

/-- What follows the step. -/
def FinishStep.next : FinishStep → Option FinishStep
  | .flush => some .sync
  | .sync => some .hash
  | .hash => some .createPending
  | .createPending => some .permissions
  | .permissions => some .writeSeal
  | .writeSeal => some .sealFlush
  | .sealFlush => some .sealSync
  | .sealSync => some .syncDirectory
  | .syncDirectory => some .rename
  | .rename => some .syncFinal
  | .syncFinal => none

/-- `finish` goes on behind the step; a seal without bytes is not written. -/
def StagingWriter.after (step : FinishStep) (text : Bytes) (offset : Nat) : StagingWriter × Option Answer :=
  match step.next with
  | none => w.finishWith (.ok w.written)
  | some .writeSeal => w.proceed (if offset < text.length then .writeSeal else .sealFlush) text offset
  | some next => w.proceed next text offset

/-- A step of `finish` under its marker, all but the writing of the seal. -/
def StagingWriter.enterFinish (step : FinishStep) (text : Bytes) (offset : Nat) (e : LockedEntry) (io : PrimitiveIo) :
    Staging × StagingWriter × Option Answer :=
  match e.permits env s w.fence step.unsealed with
  | .error error => (s, w.finishWith (.error error))
  | .ok () =>
      let outcome : TaskResult Unit := do
        e.resolved
        io.result
      match outcome with
      | .error error => (io.run step.effect s, w.finishWith (.error error))
      | .ok () => (io.run step.effect s, w.after step text offset)

def writeZero : TaskManagerError := .io "staging seal write returned zero bytes"

/-- Some bytes of the seal reach its pending file. -/
def StagingWriter.enterWriteSeal (text : Bytes) (offset : Nat) (e : LockedEntry) (io : WriteIo) :
    Staging × StagingWriter × Option Answer :=
  match e.permits env s w.fence false with
  | .error error => (s, w.finishWith (.error error))
  | .ok () =>
      let rest := text.drop offset
      let chunk := io.chunk rest
      let s' := { s with pending := s.pending.map fun content => content ++ chunk }
      let outcome : TaskResult Nat := do
        e.resolved
        let n ← io.result rest
        rejectIf (n = 0) writeZero
        return n
      match outcome with
      | .error error => (s', w.finishWith (.error error))
      | .ok n =>
          if offset + n < text.length then (s', w.proceed .writeSeal text (offset + n))
          else (s', w.after .writeSeal text (offset + n))

end Writers

/-! ## 6. Opening -/

/-- What the store does between the pin of an allocation and the admission of its first writer. -/
inductive OpenPrimitive where
  | createNew
  | permissions
  | fileSync
  | dirSync
  deriving DecidableEq

/-- An opening that is under way: the row and the grant it has pinned, and what it still has to do. -/
structure StagingOpen where
  pin : AllocationRow
  grant : Option GrantAdmission
  lease : Lease
  session : String
  remaining : List OpenPrimitive
  deriving DecidableEq

/-- How a transaction ends; its acknowledgement may be lost. -/
inductive CommitOutcome where
  | committed
  | rolledBack (e : TaskManagerError)
  | lost (e : TaskManagerError)

/-- What the opening of an allocation finds. -/
structure OpenEntry where
  locked : LockedEntry
  /-- The Task is not recovering. -/
  notRecovering : TaskResult Unit
  /-- The scope of the execution is valid. -/
  scope : TaskResult Unit
  /-- The exact grant of the binding. -/
  grant : TaskResult (Option GrantAdmission)
  /-- The staging file can be opened, measured and positioned. -/
  file : TaskResult Unit
  commit : CommitOutcome

/-- The admission of the grant an opening has pinned. -/
def pinnedGrant (row : AllocationRow) (grant : TaskResult (Option GrantAdmission)) :
    TaskResult (Option GrantAdmission) :=
  match row.bindingId with
  | none => .ok none
  | some _ => do
      let found ← grant
      let admission ← expect found authorityDenied
      return some admission

/-- What the first transaction of `open_artifact_output` leads to. -/
inductive Opened where
  | writer (w : StagingWriter)
  | pinned (o : StagingOpen)

section Open

variable (env : StagingEnv) (s : Staging) (lease : Lease) (session : String)

/-- A new writer behind the bytes that are there. -/
def newWriter (grantAdmission : Option GrantAdmission) (generation written : Nat) : StagingWriter where
  fence := ⟨lease, grantAdmission, s.row.taskId, session, generation⟩
  maximum := s.row.maximum
  written := written
  cursor := written
  poisoned := false
  phase := .idle

def generationLimit : Nat := 2 ^ 63 - 1

/-- The checks of a re-opening; they end in the length of the file. -/
def reopenChecks (e : OpenEntry) (now : String) : TaskResult Nat := do
  validateWriterAuthority env s e.locked now lease s.row.writerGrantAdmission
  ensureWriterUnsealed s e.locked
  e.file
  let bytes ← expect s.bytes (.io "staging file not found")
  rejectIf (decide (s.row.maximum < bytes.length)) sizeLimit
  rejectIf (decide (generationLimit ≤ s.row.writerGeneration))
    (.invalidRecord "Artifact writer generation exhausted")
  return bytes.length

/-- An allocation that is being written to: its next writer is admitted. -/
def reopen (e : OpenEntry) (now : String) : Staging × TaskResult Opened :=
  match reopenChecks env s lease e now with
  | .error error => (s, .error error)
  | .ok written =>
      let generation := s.row.writerGeneration + 1
      let row := { s.row with writerSessionId := some session, writerGeneration := generation }
      match e.commit with
      | .committed => ({ s with row := row },
          .ok (.writer (newWriter s lease session s.row.writerGrantAdmission generation written)))
      | .rolledBack error => (s, .error error)
      | .lost error => ({ s with row := row }, .error error)

/-- A fresh allocation: its row and its grant are pinned, or it is found expired. -/
def pinAllocation (e : OpenEntry) (now : String) : Staging × TaskResult Opened :=
  match expiredAt env s.row.expiresAt now with
  | .error error => (s, .error error)
  | .ok true => ({ s with row := { s.row with state := .expired } },
      .error (.invalidRecord "ARTIFACT_ALLOCATION_EXPIRED"))
  | .ok false =>
      let pinned : TaskResult (Option GrantAdmission) := do
        e.scope
        rejectIf (decide (generationLimit ≤ s.row.writerGeneration))
          (.invalidRecord "Artifact writer generation exhausted")
        pinnedGrant s.row e.grant
      (s, pinned.map fun grant => .pinned
        ⟨s.row, grant, lease, session, [.createNew, .permissions, .fileSync, .dirSync]⟩)

/-- The first transaction of `open_artifact_output`. -/
def openArtifactOutput (e : OpenEntry) : Staging × TaskResult Opened :=
  let checked : TaskResult String := do
    e.locked.entered
    let now ← e.locked.time
    rejectIf (s.lease ≠ lease) staleLease
    let valid ← e.locked.coordinatorGrants
    rejectIf (!valid) authorityDenied
    e.notRecovering
    let _ ← expect s.row.stagingRef allocationNotFound
    return now
  match checked with
  | .error error => (s, .error error)
  | .ok now =>
      if s.row.state = .writing then reopen env s lease session e now
      else if s.row.state = .allocated then pinAllocation env s lease session e now
      else (s, .error stateConflict)

/-- `validate_staging_open_pin`. -/
def validateStagingOpenPin (o : StagingOpen) (e : OpenEntry) (now : String) : TaskResult Unit := do
  rejectIf (s.lease ≠ o.lease) staleLease
  rejectIf (s.row ≠ o.pin || s.row.state ≠ .allocated) authorityDenied
  let expired ← expiredAt env s.row.expiresAt now
  rejectIf expired authorityDenied
  e.locked.taskClear
  e.scope
  let grant ← pinnedGrant s.row e.grant
  rejectIf (o.grant ≠ grant) authorityDenied

/-- What is checked before a primitive of an opening, or before its admission. -/
def openPermitted (o : StagingOpen) (e : OpenEntry) : TaskResult Unit := do
  e.locked.entered
  let now ← e.locked.time
  let valid ← e.locked.coordinatorGrants
  rejectIf (!valid) authorityDenied
  validateStagingOpenPin env s o e now

/-- The file is created where there is none; nothing else of an opening changes the files. -/
def OpenPrimitive.effect : OpenPrimitive → Staging → Staging
  | .createNew, s => { s with bytes := some (s.bytes.getD []) }
  | _, s => s

/-- How the primitive ends; `create_new` fails on a file that is there. -/
def OpenPrimitive.result (p : OpenPrimitive) (io : PrimitiveIo) : TaskResult Unit := do
  rejectIf (p = .createNew && s.bytes.isSome) (.io "file exists")
  io.result

/-- The next primitive of an opening, under its marker. -/
def enterOpen (o : StagingOpen) (p : OpenPrimitive) (rest : List OpenPrimitive) (prepared : TaskResult Unit)
    (e : OpenEntry) (io : PrimitiveIo) : Staging × TaskResult StagingOpen :=
  let permitted : TaskResult Unit := do
    prepareExternalEffect s o.lease prepared
    openPermitted env s o e
  match permitted with
  | .error error => (s, .error error)
  | .ok () =>
      let outcome : TaskResult Unit := do
        e.locked.resolved
        p.result s io
      (io.run p.effect s, outcome.map fun _ => { o with remaining := rest })

/-- The final admission: the first writer of the allocation. A lost acknowledgement is looked up. -/
def admitOpen (o : StagingOpen) (e : OpenEntry) : Staging × TaskResult StagingWriter :=
  match openPermitted env s o e with
  | .error error => (s, .error error)
  | .ok () =>
      let generation := s.row.writerGeneration + 1
      let row := { s.row with
        state := .writing, writerGrantAdmission := o.grant, writerSessionId := some o.session,
        writerGeneration := generation }
      match e.commit with
      | .rolledBack error => (s, .error error)
      | _ => ({ s with row := row }, .ok (newWriter s o.lease o.session o.grant generation 0))

end Open

/-! ## 7. Runs -/

/-- What one writer does; each is one half of a call. -/
inductive WriterOp where
  | beginWrite (buffer : Bytes) (reentry : Bool) (assessed prepared : TaskResult Unit)
  | enterWrite (e : LockedEntry) (io : WriteIo)
  | beginFlush (reentry : Bool) (prepared : TaskResult Unit)
  | enterFlush (e : LockedEntry) (io : PrimitiveIo)
  | beginFinish (reentry : Bool)
  | prepareFinish (prepared : TaskResult Unit)
  | hash (read : TaskResult Nat)
  | enterFinish (e : LockedEntry) (io : PrimitiveIo)
  | enterWriteSeal (e : LockedEntry) (io : WriteIo)

/-- The operation, where the writer stands for it. -/
def WriterOp.apply (env : StagingEnv) (s : Staging) (w : StagingWriter) (op : WriterOp) :
    Staging × StagingWriter × Option Answer :=
  match w.phase, op with
  | .idle, .beginWrite buffer reentry assessed prepared => (s, w.beginWrite s buffer reentry assessed prepared)
  | .idle, .beginFlush reentry prepared => (s, w.beginFlush s reentry prepared)
  | .idle, .beginFinish reentry => (s, w.beginFinish reentry)
  | .writing buffer, .enterWrite e io =>
      let (s', w', answer) := w.enterWrite env s buffer e io
      (s', w', some answer)
  | .flushing, .enterFlush e io =>
      let (w', answer) := w.enterFlush env s e io
      (s, w', some answer)
  | .finishing .hash _ text _, .hash read => (s, w.hashStep env s text read)
  | .finishing .writeSeal true text offset, .enterWriteSeal e io => w.enterWriteSeal env s text offset e io
  | .finishing step false text offset, .prepareFinish prepared =>
      if step = .hash then (s, w, none) else (s, w.prepareFinish s step text offset prepared)
  | .finishing step true text offset, .enterFinish e io =>
      if step = .hash ∨ step = .writeSeal then (s, w, none)
      else w.enterFinish env s step text offset e io
  | _, _ => (s, w, none)

inductive StagingOp where
  /-- A manager takes the lease. -/
  | takeover (lease : Lease)
  /-- The allocation leaves its writers, for a publication or for good. -/
  | leave (state : AllocationState)
  | openOutput (lease : Lease) (session : String) (e : OpenEntry)
  /-- The opening at this place goes on. -/
  | openPrimitive (i : Nat) (prepared : TaskResult Unit) (e : OpenEntry) (io : PrimitiveIo)
  | writer (i : Nat) (op : WriterOp)
  /-- The opening at this place is admitted. -/
  | admitWriter (i : Nat) (e : OpenEntry)

structure StagingSystem where
  staging : Staging
  opens : List StagingOpen
  writers : List StagingWriter

/-- An allocation that no one has opened yet. -/
def StagingSystem.fresh (lease : Lease) (row : AllocationRow) : StagingSystem :=
  ⟨⟨lease, { row with state := .allocated }, none, none, none⟩, [], []⟩

/-- One step of the manager or the writer it is about. -/
def StagingSystem.step (env : StagingEnv) (sys : StagingSystem) : StagingOp → StagingSystem × Option Answer
  | .takeover lease => ({ sys with staging := { sys.staging with lease := lease } }, none)
  | .leave state =>
      if state = .allocated ∨ state = .writing then (sys, none)
      else ({ sys with staging := { sys.staging with row := { sys.staging.row with state := state } } }, none)
  | .openOutput lease session e =>
      match openArtifactOutput env sys.staging lease session e with
      | (s, .ok (.writer w)) =>
          ({ sys with staging := s, writers := sys.writers ++ [w] }, some (.opened (.ok ())))
      | (s, .ok (.pinned o)) => ({ sys with staging := s, opens := sys.opens ++ [o] }, none)
      | (s, .error error) => ({ sys with staging := s }, some (.opened (.error error)))
  | .openPrimitive i prepared e io =>
      match sys.opens[i]? with
      | some o =>
          match o.remaining with
          | p :: rest =>
              match enterOpen env sys.staging o p rest prepared e io with
              | (s, .ok o') => ({ sys with staging := s, opens := sys.opens.set i o' }, none)
              | (s, .error error) =>
                  ({ sys with staging := s, opens := sys.opens.eraseIdx i }, some (.opened (.error error)))
          | [] => (sys, none)
      | none => (sys, none)
  | .admitWriter i e =>
      match sys.opens[i]? with
      | some o =>
          if o.remaining = [] then
            match admitOpen env sys.staging o e with
            | (s, .ok w) => ({ sys with
                staging := s, opens := sys.opens.eraseIdx i, writers := sys.writers ++ [w] },
                some (.opened (.ok ())))
            | (s, .error error) =>
                ({ sys with staging := s, opens := sys.opens.eraseIdx i }, some (.opened (.error error)))
          else (sys, none)
      | none => (sys, none)
  | .writer i op =>
      match sys.writers[i]? with
      | some w =>
          match op.apply env sys.staging w with
          | (s, w', answer) => ({ sys with staging := s, writers := sys.writers.set i w' }, answer)
      | none => (sys, none)

def StagingSystem.run (env : StagingEnv) (sys : StagingSystem) (ops : List StagingOp) : StagingSystem :=
  ops.foldl (fun sys op => (sys.step env op).1) sys

end Aios.Artifacts
