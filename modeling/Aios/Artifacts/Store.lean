/-
  File:      Aios/Artifacts/Store.lean
  Subject:   PUBLISHING, READING AND EXPORTING artifacts, the startup pass over their blobs, and the
             store as a system of managers, readers and exports.

  A manager is known by its lease. While it runs an export it begins nothing else, so between the
  read of a chunk and its write to the destination only readers and other managers act. A manager
  that lost the lease is refused wherever it would change a row or hand out a byte.
-/
import Aios.Artifacts.Blobs

namespace Aios.Artifacts

open Lib Json Provenance Tasks

variable (env : JournalEnv)

/-! ## 1. Publishing -/

structure ArtifactLineage where
  inputArtifactIds : List String
  derivedFromArtifactIds : List String
  deriving DecidableEq

structure ArtifactPublicationRequest where
  schemaVersion : String
  publicationId : String
  allocationId : String
  taskId : String
  expectedAllocationState : AllocationState
  semanticType : Option String
  mediaType : String
  format : Option String
  lineage : ArtifactLineage
  labels : List String
  deriving DecidableEq

/-- A row of `step_executions`, as a publication reads it. -/
structure StepScope where
  taskId : String
  semanticProgramHash : String
  nodeId : String
  bindingId : Option String
  inputArtifacts : Option (List String)
  deriving DecidableEq

/-- What a publication finds outside the rows. -/
structure PublicationOutside where
  /-- Everything before the blob is placed. -/
  checked : TaskResult Unit
  /-- The size and the hash of the sealed staging file. -/
  sealed : Nat × String
  /-- Where the blob was placed, and whether it was there already. -/
  placement : TaskResult (String × Bool)
  markedAt : String
  /-- The locked time of the transaction. -/
  time : TaskResult String
  coordinatorGrants : TaskResult Bool
  taskClear : TaskResult Unit
  /-- The publication is still pending with this request. -/
  pendingExact : Bool
  /-- The allocation as the transaction reads it. -/
  current : Option AllocationRow
  /-- The step of an attempt. -/
  step : String → Option StepScope
  /-- `validate_publication_authority`. -/
  authority : TaskResult Unit
  /-- The provider of the binding. -/
  provider : TaskResult (Option String)
  /-- The rows of the publication and of its allocation are updated. -/
  settled : TaskResult Unit

def validatePublicationAllocation (request : ArtifactPublicationRequest) (allocation : AllocationRow)
    (now : String) : TaskResult Unit := do
  rejectIf (allocation.taskId ≠ request.taskId) authorityDenied
  rejectIf (allocation.state ≠ request.expectedAllocationState && allocation.state ≠ .finalizing)
    stateConflict
  let badTime := TaskManagerError.invalidRecord "Artifact timestamp is not RFC 3339"
  let expiry ← expect (env.rfc3339 allocation.expiresAt) badTime
  let time ← expect (env.rfc3339 now) badTime
  rejectIf (expiry ≤ time) (.invalidRecord "ARTIFACT_ALLOCATION_EXPIRED")
  rejectIf (!allocation.allowedMediaTypes.isEmpty &&
      !allocation.allowedMediaTypes.contains request.mediaType)
    (.invalidRecord "ARTIFACT_MEDIA_TYPE_MISMATCH")
  rejectIf (allocation.expectedSemanticType ≠ request.semanticType)
    (.invalidRecord "ARTIFACT_SEMANTIC_TYPE_MISMATCH")

/-- The labels a stored artifact passes on. -/
def storedLabels (db : ArtifactDb) (artifactId : String) : TaskResult (Sensitivity × RetentionClass) := do
  let a ← expect (db.artifact? artifactId) authorityDenied
  return (a.sensitivity, a.retentionClass)

/-- The labels an output inherits from those of its inputs. -/
def inheritedFrom (labels : List (Sensitivity × RetentionClass)) : Sensitivity × RetentionClass :=
  (inherit Sensitivity.propagationRank .privateData (labels.map Prod.fst),
    inherit RetentionClass.propagationRank .task (labels.map Prod.snd))

/-- `validate_bound_output_policy`. -/
def validateBoundOutputPolicy (db : ArtifactDb) (step : String → Option StepScope)
    (allocation : AllocationRow) (sensitivity : Sensitivity) (retention : RetentionClass) :
    TaskResult Unit :=
  match allocation.bindingId, allocation.attemptId with
  | some bindingId, some attemptId => do
      let s ← expect ((step attemptId).filter fun s => s.taskId = allocation.taskId &&
        s.semanticProgramHash = allocation.semanticProgramHash && s.nodeId = allocation.nodeId &&
        s.bindingId = some bindingId) authorityDenied
      let labels ← (s.inputArtifacts.getD []).mapM (storedLabels db)
      rejectIf ((sensitivity, retention) ≠ inheritedFrom labels) authorityDenied
  | _, _ => .ok ()

/-- One source of the lineage is an input of the attempt; without a binding, an artifact of the Task. -/
def sourceAuthorized (db : ArtifactDb) (step : String → Option StepScope) (taskId : String)
    (allocation : AllocationRow) (source : String) : Bool :=
  match allocation.bindingId, allocation.attemptId with
  | some bindingId, some attemptId =>
      (step attemptId).any (fun s => s.taskId = taskId && s.bindingId = some bindingId &&
        (s.inputArtifacts.getD []).contains source) &&
      db.taskArtifacts.any fun ta => ta.taskId = taskId && ta.artifactId = source
  | none, none => db.taskArtifacts.any fun ta => ta.taskId = taskId && ta.artifactId = source &&
      ["input", "intermediate", "output"].contains ta.role
  | _, _ => false

def lineageAuthorized (db : ArtifactDb) (step : String → Option StepScope)
    (request : ArtifactPublicationRequest) (allocation : AllocationRow) : Bool :=
  (request.lineage.inputArtifactIds ++ request.lineage.derivedFromArtifactIds).all
    (sourceAuthorized db step request.taskId allocation)

/-- The edges of a new artifact. -/
def lineageRows (request : ArtifactPublicationRequest) (child nodeId createdAt : String) :
    List LineageRow :=
  (request.lineage.inputArtifactIds.map fun source =>
    ⟨source, child, request.taskId, some nodeId, "consumed-by", createdAt⟩) ++
  (request.lineage.derivedFromArtifactIds.map fun source =>
    ⟨source, child, request.taskId, some nodeId, "transformed-to", createdAt⟩)

def sameEdge (a b : LineageRow) : Bool :=
  a.parentArtifactId = b.parentArtifactId && a.childArtifactId = b.childArtifactId &&
    a.relationship = b.relationship

/-- `INSERT OR IGNORE`: an edge that is there, or one to itself, is left out. -/
def insertEdge (lineage : List LineageRow) (row : LineageRow) : List LineageRow :=
  if lineage.any (sameEdge row) || row.parentArtifactId = row.childArtifactId then lineage
  else lineage ++ [row]

def insertLineage (db : ArtifactDb) (request : ArtifactPublicationRequest) (child nodeId createdAt : String) :
    ArtifactDb :=
  { db with lineage := (lineageRows request child nodeId createdAt).foldl insertEdge db.lineage }

def publishedArtifactId (request : ArtifactPublicationRequest) : String :=
  artifactIdOf env.digest "publication" request.publicationId

def publishedRow (request : ArtifactPublicationRequest) (allocation : AllocationRow) (artifactId : String)
    (placed : Placed) (sensitivity : Sensitivity) (retention : RetentionClass) (provider : Option String)
    (resultedAt : String) : ArtifactRow where
  artifactId := artifactId
  uri := artifactUri artifactId
  semanticType := request.semanticType
  mediaType := request.mediaType
  format := request.format
  sizeBytes := placed.sizeBytes
  contentHash := placed.contentHash
  sensitivity := sensitivity
  retentionClass := retention
  expiresAt := none
  originKind := .task
  originTaskId := some request.taskId
  originProgramHash := some allocation.semanticProgramHash
  originNodeId := some allocation.nodeId
  originBindingId := allocation.bindingId
  originProviderId := provider
  integrityState := .verified
  integrityVerifiedAt := some resultedAt
  integrityVerifier := some "artifact-store:sha256"
  labels := request.labels
  createdAt := resultedAt

def createdType : String := "artifact.created"

def createdEvent (request : ArtifactPublicationRequest) (allocation : AllocationRow)
    (artifactId : String) (placed : Placed) (provider : Option String) (resultedAt : String) : Json :=
  ofFields [
    ("schema_version", some (.str Tasks.schemaVersion)),
    ("event_id", some (.str (eventIdOf env.digest "artifact-created" artifactId))),
    ("task_id", some (.str request.taskId)),
    ("step_id", some (.str allocation.nodeId)),
    ("event_type", some (.str createdType)),
    ("timestamp", some (.str resultedAt)),
    ("actor", some storeActor),
    ("semantic_program_hash", some (.str allocation.semanticProgramHash)),
    ("execution_binding_id", some (encodeOption .str allocation.bindingId)),
    ("provider_id", some (encodeOption .str provider)),
    ("input_artifacts", some (encodeTexts request.lineage.inputArtifactIds)),
    ("output_artifacts", some (.arr [.str artifactId])),
    ("status", some (.str "success")),
    ("details", some (ofFields [
      ("allocation_id", some (.str request.allocationId)),
      ("publication_id", some (.str request.publicationId)),
      ("content_hash", some (.str placed.contentHash)),
      ("size_bytes", some (encodeNat placed.sizeBytes)),
      ("blob_reused", some (.bool placed.reused))]))]

/-- The transaction of a publication. -/
def commitPublication (db : ArtifactDb) (lease : Lease) (request : ArtifactPublicationRequest)
    (allocation : AllocationRow) (placed : Placed) (o : PublicationOutside) : TaskResult ArtifactDb := do
  let resultedAt ← o.time
  db.assertLease lease
  let valid ← o.coordinatorGrants
  rejectIf (!valid) authorityDenied
  o.taskClear
  rejectIf (!o.pendingExact) idReuseConflict
  let current ← expect o.current allocationNotFound
  rejectIf (current ≠ allocation ||
    (validatePublicationAllocation env request current resultedAt).toOption.isNone) authorityDenied
  let sensitivity ← expect (Sensitivity.parse current.sensitivity) (.serialization "unknown variant")
  let retention ← expect (RetentionClass.parse current.retention) (.serialization "unknown variant")
  validateBoundOutputPolicy db o.step current sensitivity retention
  o.authority
  rejectIf (!lineageAuthorized db o.step request current) authorityDenied
  let db ← upsertDurableBlob db placed resultedAt
  let provider ← o.provider
  let artifactId := publishedArtifactId env request
  let db ← insertArtifact db (publishedRow request allocation artifactId placed sensitivity retention
    provider resultedAt) request.taskId "output" (some allocation.nodeId)
  let db := insertLineage db request artifactId allocation.nodeId resultedAt
  let events ← appendTo env db.events request.taskId
    (createdEvent env request allocation artifactId placed provider resultedAt)
  o.settled
  return { db with events := events }

/-- `publish_artifact_output` of a pending publication; what fails it is recorded by
    `failPendingPublication`. -/
def publishArtifactOutput (db : ArtifactDb) (lease : Lease) (request : ArtifactPublicationRequest)
    (allocation : AllocationRow) (o : PublicationOutside) : Called Unit :=
  match o.checked with
  | .error error => (db, .error error)
  | .ok () =>
      match o.placement with
      | .ok (storageRef, reused) =>
          committing db (commitPublication env db lease request allocation
            ⟨o.sealed.2, o.sealed.1, storageRef, reused⟩ o) fun _ => .ok ()
      | .error error =>
          if error = .invalidRecord hashMismatchCode then
            committing db (markContentHashFailed env db lease o.sealed.2 .corrupt o.markedAt) fun _ =>
              .error error
          else (db, .error error)

def publicationFailureEvent (request : ArtifactPublicationRequest) (requestJson reasonCode resultedAt : String) :
    Json := ofFields [
  ("schema_version", some (.str Tasks.schemaVersion)),
  ("event_id", some (.str (eventIdOf env.digest "artifact-publication-failed"
    request.publicationId))),
  ("task_id", some (.str request.taskId)),
  ("event_type", some (.str integrityFailedType)),
  ("timestamp", some (.str resultedAt)),
  ("actor", some storeActor),
  ("input_artifacts", some (.arr [])),
  ("output_artifacts", some (.arr [])),
  ("status", some (.str "failure")),
  ("details", some (ofFields [
    ("publication_id", some (.str request.publicationId)),
    ("allocation_id", some (.str request.allocationId)),
    ("request_digest", some (.str (env.digest.tagged
      ("artifact-publication-request-v1".toUTF8.toList ++ [0]) requestJson.toUTF8.toList))),
    ("reason_code", some (.str reasonCode)),
    ("resulted_at", some (.str resultedAt))]))]

def failPendingPublication (db : ArtifactDb) (lease : Lease) (request : ArtifactPublicationRequest)
    (requestJson reasonCode now : String) (taskClear : TaskResult Unit) : TaskResult ArtifactDb := do
  db.assertLease lease
  taskClear
  let events ← appendTo env db.events request.taskId
    (publicationFailureEvent env request requestJson reasonCode now)
  return { db with events := events }

/-! ## 2. Reading -/

structure ArtifactReaderAdmission where
  operationId : String
  taskId : String
  artifactId : String
  semanticProgramHash : String
  nodeId : String
  bindingId : String
  principalId : String
  grantId : String

/-- `predecessor` is the event of the admission, for its delivery. -/
def readerAdmissionEvent (admission : ArtifactReaderAdmission) (phase timestamp : String)
    (predecessor : Option (String × String)) : Json :=
  let (eventKind, eventType, status) := match predecessor with
    | some _ => ("artifact-reader-delivered", "execution.completed", "success")
    | none => ("artifact-reader-admitted", "execution.started", "pending")
  ofFields [
    ("schema_version", some (.str Tasks.schemaVersion)),
    ("event_id", some (.str (eventIdOf env.digest eventKind admission.operationId))),
    ("task_id", some (.str admission.taskId)),
    ("step_id", some (.str admission.nodeId)),
    ("event_type", some (.str eventType)),
    ("timestamp", some (.str timestamp)),
    ("actor", some (Actor.toJson ⟨"provider", admission.principalId⟩)),
    ("semantic_program_hash", some (.str admission.semanticProgramHash)),
    ("execution_binding_id", some (.str admission.bindingId)),
    ("provider_id", some (.str admission.principalId)),
    ("authority_token_id", some (.str admission.grantId)),
    ("input_artifacts", some (.arr [.str admission.artifactId])),
    ("output_artifacts", some (.arr [])),
    ("status", some (.str status)),
    ("details", some (ofFields [
      ("operation_id", some (.str admission.operationId)),
      ("phase", some (.str phase)),
      ("admission_event_id", some (encodeOption (fun p => .str p.1) predecessor)),
      ("admission_event_hash", some (encodeOption (fun p => .str p.2) predecessor))]))]

structure ArtifactExportIntent where
  taskId : String
  artifactId : String
  principalKind : String
  principalId : String
  semanticProgramHash : Option String
  nodeId : Option String
  bindingId : Option String
  grantId : Option String

def exportPhaseEvent (intent : ArtifactExportIntent) (operationId phase timestamp intentHash : String)
    (predecessor : Option (String × String)) : Json :=
  let eventKind := if predecessor.isSome then "artifact-export-effect-armed"
    else "artifact-export-pre-destination"
  let providerId := if intent.principalKind = "provider" then some intent.principalId else none
  ofFields [
    ("schema_version", some (.str Tasks.schemaVersion)),
    ("event_id", some (.str (eventIdOf env.digest eventKind operationId))),
    ("task_id", some (.str intent.taskId)),
    ("step_id", some (encodeOption .str intent.nodeId)),
    ("event_type", some (.str "execution.started")),
    ("timestamp", some (.str timestamp)),
    ("actor", some (Actor.toJson ⟨intent.principalKind, intent.principalId⟩)),
    ("semantic_program_hash", some (encodeOption .str intent.semanticProgramHash)),
    ("execution_binding_id", some (encodeOption .str intent.bindingId)),
    ("provider_id", some (encodeOption .str providerId)),
    ("authority_token_id", some (encodeOption .str intent.grantId)),
    ("input_artifacts", some (.arr [.str intent.artifactId])),
    ("output_artifacts", some (.arr [])),
    ("status", some (.str "pending")),
    ("details", some (ofFields [
      ("operation_id", some (.str operationId)),
      ("phase", some (.str phase)),
      ("intent_hash", some (.str intentHash)),
      ("admission_event_id", some (encodeOption (fun p => .str p.1) predecessor)),
      ("admission_event_hash", some (encodeOption (fun p => .str p.2) predecessor))]))]

/-- A record of an access to an artifact. -/
inductive AccessRecord where
  | reader (admission : ArtifactReaderAdmission) (phase timestamp : String)
      (predecessor : Option (String × String))
  | export (intent : ArtifactExportIntent) (operationId phase timestamp intentHash : String)
      (predecessor : Option (String × String))

def AccessRecord.taskId : AccessRecord → String
  | .reader admission _ _ _ => admission.taskId
  | .export intent _ _ _ _ _ => intent.taskId

def AccessRecord.event : AccessRecord → Json
  | .reader admission phase timestamp predecessor =>
      readerAdmissionEvent env admission phase timestamp predecessor
  | .export intent operationId phase timestamp intentHash predecessor =>
      exportPhaseEvent env intent operationId phase timestamp intentHash predecessor

def appendRecords : List AccessRecord → List EventRow → TaskResult (List EventRow)
  | [], events => .ok events
  | record :: rest, events => do
      let events ← appendTo env events record.taskId (record.event env)
      appendRecords rest events

/-- What opening a reader finds outside the rows. -/
structure ReaderOutside where
  /-- The scope covers the artifact. -/
  covered : TaskResult Unit
  stored : Hashed
  /-- The length of the file, before and after it was hashed. -/
  lengths : Nat × Nat
  markedAt : String
  /-- The locked time and the grants of the coordinator. -/
  entered : TaskResult Unit
  /-- The authority of the scope is current, and its grant is admitted. -/
  authorized : TaskResult Unit
  /-- The events of the admission. -/
  admitted : List AccessRecord
  admittedAt : String

/-- What hashing the file of an artifact shows to its reader. -/
def readerDamage (a : ArtifactRow) (o : ReaderOutside) : TaskResult (Option Durability) :=
  match o.stored with
  | .read size hash => .ok (if o.lengths.1 = o.lengths.2 && size = o.lengths.2 &&
      size = a.sizeBytes && hash = a.contentHash then none else some .corrupt)
  | other => other.damage a.sizeBytes a.contentHash

def ArtifactRow.checked (a : ArtifactRow) : ArtifactRow :=
  { a with integrityState := .verified, integrityVerifier := some "artifact-store:sha256" }

def admitPreparedArtifactReader (db : ArtifactDb) (artifactId : String) (handle : ArtifactRow)
    (o : ReaderOutside) : TaskResult ArtifactDb := do
  let current ← expect (db.stored? artifactId) (.storage "Query returned no rows")
  rejectIf (current.1.integrityState = .failed || current.2.durability.damaged) integrityFailed
  o.authorized
  let events ← appendRecords env o.admitted db.events
  return { db with
    events := events
    artifacts := db.artifacts.map fun a =>
      if a.artifactId = artifactId then a.checked else a
    blobs := db.blobs.map fun b =>
      if b.contentHash = handle.contentHash then b.durableAt o.admittedAt else b }

/-- The artifact of a covered scope, and the damage its file shows. -/
def prepareArtifactReader (db : ArtifactDb) (artifactId : String) (o : ReaderOutside) :
    TaskResult (ArtifactRow × Option Durability) := do
  o.covered
  let handle ← expect (db.artifact? artifactId) (.invalidRecord "ARTIFACT_NOT_FOUND")
  let (_, b) ← expect (db.stored? artifactId) (.storage "Query returned no rows")
  rejectIf (handle.integrityState = .failed || b.durability.damaged) integrityFailed
  let damage ← readerDamage handle o
  return (handle, damage)

/-- The file of the artifact is checked, and the reader is admitted. -/
def openArtifactReader (db : ArtifactDb) (lease : Lease) (artifactId : String) (o : ReaderOutside) :
    Called ArtifactRow :=
  match prepareArtifactReader db artifactId o with
  | .error error => (db, .error error)
  | .ok (handle, some state) =>
      committing db (markContentHashFailed env db lease handle.contentHash state o.markedAt) fun _ =>
        .error integrityFailed
  | .ok (handle, none) =>
      committing db (o.entered >>= fun _ => db.assertLease lease >>= fun _ =>
        admitPreparedArtifactReader env db artifactId handle o) fun _ => .ok handle

def ensureArtifactIntegrityDurable (db : ArtifactDb) (artifactId : String) : TaskResult Unit :=
  rejectIf (!(db.stored? artifactId).any fun p =>
    p.1.integrityState = .verified && p.2.durability = .durable) integrityFailed

/-- What one read finds outside the rows. -/
structure ReadOutside where
  /-- The locked time and the grants of the coordinator. -/
  entered : TaskResult Unit
  /-- A recovering Task has the admission, and no export of it is unknown. -/
  taskClear : TaskResult Unit
  /-- The execution authority and the grant are current. -/
  authorized : TaskResult Unit
  /-- The number of bytes the file gives. -/
  count : TaskResult Nat
  /-- The events of a first delivery. -/
  delivered : List AccessRecord

/-- `validate_reader_fence_in_connection`. -/
def validateReaderFence (db : ArtifactDb) (lease : Lease) (artifactId : String) (o : ReadOutside) :
    TaskResult Unit := do
  rejectIf (db.lease ≠ lease) authorityDenied
  o.taskClear
  ensureArtifactIntegrityDurable db artifactId
  o.authorized

/-- One read of a reader, with the number of bytes it hands out. -/
def readArtifact (db : ArtifactDb) (lease : Lease) (artifactId : String) (o : ReadOutside) :
    TaskResult (ArtifactDb × Nat) := do
  o.entered
  validateReaderFence db lease artifactId o
  let count ← o.count
  let events ← appendRecords env o.delivered db.events
  return ({ db with events := events }, count)

/-! ## 3. The system -/

/-- An export in progress: its manager, what it exports, and the bytes read and not yet written. -/
structure ExportFlight where
  lease : Lease
  artifactId : String
  contentHash : String
  buffered : Nat
  deriving DecidableEq

structure ArtifactSystem where
  db : ArtifactDb
  exports : List ExportFlight

def ArtifactSystem.fresh (lease : Lease) : ArtifactSystem := ⟨⟨lease, [], [], [], [], []⟩, []⟩

/-- The manager is inside an export. -/
def ArtifactSystem.busy (sys : ArtifactSystem) (lease : Lease) : Bool :=
  sys.exports.any fun f => f.lease = lease

inductive ArtifactOp where
  /-- Another manager claims the store. -/
  | claim (owner : String)
  | importArtifact (lease : Lease) (request : ImportArtifactRequest) (o : ImportOutside)
  | publish (lease : Lease) (request : ArtifactPublicationRequest) (allocation : AllocationRow)
      (o : PublicationOutside)
  | failPublication (lease : Lease) (request : ArtifactPublicationRequest)
      (requestJson reasonCode now : String) (taskClear : TaskResult Unit)
  /-- A publication sent again finds other bytes in its blob. -/
  | markIntegrity (lease : Lease) (artifactId taskId contentHash now : String)
  /-- The startup pass, or a publication sent again, hashes the blob of this content. -/
  | recheck (lease : Lease) (contentHash : String) (stored : Hashed) (reconciledAt : String)
  /-- The startup pass finds a placed file without a row. -/
  | adoptOrphan (lease : Lease) (contentHash : String) (sizeBytes : Nat) (storageRef reconciledAt : String)
  | openReader (lease : Lease) (artifactId : String) (o : ReaderOutside)
  | read (lease : Lease) (artifactId : String) (o : ReadOutside)
  | beginExport (lease : Lease) (artifactId : String) (o : ReaderOutside)
  | exportRead (lease : Lease) (o : ReadOutside)
  /-- The destination is handed what was read; it takes some of it, or fails. -/
  | exportWrite (lease : Lease) (fence : TaskResult Unit) (written : TaskResult Nat)
  /-- The export ends, with another hash of what was copied or without. -/
  | endExport (lease : Lease) (mismatch : Bool) (now : String)
  /-- Any other operation records an event. -/
  | append (taskId : String) (event : Json)

/-- The step of the startup pass. -/
def recheckBlob (db : ArtifactDb) (lease : Lease) (contentHash : String) (stored : Hashed)
    (reconciledAt : String) : TaskResult ArtifactDb := do
  let b ← expect (db.blob? contentHash) (.storage "Query returned no rows")
  let damage ← stored.damage b.sizeBytes b.contentHash
  match damage with
  | some state => markBlobFailed env db lease contentHash state (db.artifactIdsForHash contentHash) reconciledAt
  | none => .ok db

def adoptOrphan (db : ArtifactDb) (lease : Lease) (contentHash : String) (sizeBytes : Nat)
    (storageRef reconciledAt : String) : TaskResult ArtifactDb := do
  db.assertLease lease
  let _ ← expect (toI64 sizeBytes) (.invalidRecord "Artifact size exceeds SQLite range")
  return if (db.blob? contentHash).isSome then db
    else { db with blobs := db.blobs ++
      [⟨contentHash, sizeBytes, storageRef, .orphaned, reconciledAt, some reconciledAt⟩] }

/-- What a step hands out: bytes of an artifact. -/
abbrev Delivery := Option (String × Nat)

/-- The rows after a transaction, or as they were. -/
def settledDb (db : ArtifactDb) (transaction : TaskResult ArtifactDb) : ArtifactDb :=
  (committing db transaction fun _ => .ok ()).1

def ArtifactSystem.withDb (sys : ArtifactSystem) (db : ArtifactDb) : ArtifactSystem := { sys with db := db }

/-- The export of this manager is over. -/
def ArtifactSystem.without (sys : ArtifactSystem) (lease : Lease) : ArtifactSystem :=
  { sys with exports := sys.exports.filter fun f => f.lease ≠ lease }

/-- The export of this manager has so many bytes at hand. -/
def ArtifactSystem.buffering (sys : ArtifactSystem) (lease : Lease) (count : Nat) : ArtifactSystem :=
  { sys with exports := sys.exports.map fun f => if f.lease = lease then { f with buffered := count } else f }

/-- A call of a manager that is not inside an export. -/
def ArtifactSystem.call (sys : ArtifactSystem) (lease : Lease) (db : ArtifactDb) :
    ArtifactSystem × Delivery :=
  if sys.busy lease then (sys, none) else (sys.withDb db, none)

section Managers

variable (sys : ArtifactSystem) (lease : Lease)

def ArtifactSystem.read (artifactId : String) (o : ReadOutside) : ArtifactSystem × Delivery :=
  match readArtifact env sys.db lease artifactId o with
  | .ok (db, count) => (sys.withDb db, some (artifactId, count))
  | .error _ => (sys, none)

def ArtifactSystem.beginExport (artifactId : String) (o : ReaderOutside) : ArtifactSystem × Delivery :=
  if sys.busy lease then (sys, none)
  else match openArtifactReader env sys.db lease artifactId o with
    | (db, .ok handle) => (⟨db, sys.exports ++ [⟨lease, artifactId, handle.contentHash, 0⟩]⟩, none)
    | (db, .error _) => (sys.withDb db, none)

def ArtifactSystem.flight? : Option ExportFlight := sys.exports.find? fun f => f.lease = lease

/-- The export reads its next chunk, or is over. -/
def ArtifactSystem.exportRead (o : ReadOutside) : ArtifactSystem × Delivery :=
  match sys.flight? lease with
  | none => (sys, none)
  | some f =>
      match readArtifact env sys.db lease f.artifactId o with
      | .ok (db, count) => ((sys.withDb db).buffering lease count, none)
      | .error _ => (sys.without lease, none)

/-- The destination may take bytes even when it reports a failure. -/
def ArtifactSystem.exportWrite (fence : TaskResult Unit) (written : TaskResult Nat) :
    ArtifactSystem × Delivery :=
  match sys.flight? lease with
  | none => (sys, none)
  | some f =>
      if f.buffered = 0 then (sys, none)
      else match sys.db.assertLease lease >>= fun _ => fence with
        | .error _ => (sys.without lease, none)
        | .ok () =>
            match written with
            | .ok n =>
                if n = 0 || f.buffered < n then (sys.without lease, some (f.artifactId, f.buffered))
                else (sys.buffering lease (f.buffered - n), some (f.artifactId, f.buffered))
            | .error _ => (sys.without lease, some (f.artifactId, f.buffered))

def ArtifactSystem.endExport (mismatch : Bool) (now : String) : ArtifactSystem × Delivery :=
  match sys.flight? lease with
  | none => (sys, none)
  | some f =>
      if mismatch then
        ((sys.without lease).withDb (settledDb sys.db
          (markContentHashFailed env sys.db lease f.contentHash .corrupt now)), none)
      else (sys.without lease, none)

/-- Findings are recorded by the store alone. -/
def ArtifactSystem.append (taskId : String) (event : Json) : ArtifactSystem × Delivery :=
  if stringField event "event_type" = some integrityFailedType then (sys, none)
  else match appendTo env sys.db.events taskId event with
    | .ok events => (sys.withDb { sys.db with events := events }, none)
    | .error _ => (sys, none)

end Managers

def ArtifactSystem.step (sys : ArtifactSystem) : ArtifactOp → ArtifactSystem × Delivery
  | .claim owner =>
      (sys.withDb { sys.db with lease := ⟨owner, sys.db.lease.fenceEpoch + 1⟩ }, none)
  | .importArtifact lease request o => sys.call lease (importArtifact env sys.db lease request o).1
  | .publish lease request allocation o =>
      sys.call lease (publishArtifactOutput env sys.db lease request allocation o).1
  | .failPublication lease request requestJson reasonCode now taskClear =>
      sys.call lease (settledDb sys.db
        (failPendingPublication env sys.db lease request requestJson reasonCode now taskClear))
  | .markIntegrity lease artifactId taskId contentHash now =>
      sys.call lease (settledDb sys.db
        (markIntegrityFailed env sys.db lease artifactId taskId contentHash now))
  | .recheck lease contentHash stored reconciledAt =>
      sys.call lease (settledDb sys.db (recheckBlob env sys.db lease contentHash stored reconciledAt))
  | .adoptOrphan lease contentHash sizeBytes storageRef reconciledAt =>
      sys.call lease (settledDb sys.db
        (adoptOrphan sys.db lease contentHash sizeBytes storageRef reconciledAt))
  | .openReader lease artifactId o => sys.call lease (openArtifactReader env sys.db lease artifactId o).1
  | .read lease artifactId o => sys.read env lease artifactId o
  | .beginExport lease artifactId o => sys.beginExport env lease artifactId o
  | .exportRead lease o => sys.exportRead env lease o
  | .exportWrite lease fence written => sys.exportWrite lease fence written
  | .endExport lease mismatch now => sys.endExport env lease mismatch now
  | .append taskId event => sys.append env taskId event

def ArtifactSystem.run (sys : ArtifactSystem) (ops : List ArtifactOp) : ArtifactSystem :=
  ops.foldl (fun sys op => (sys.step env op).1) sys

end Aios.Artifacts
