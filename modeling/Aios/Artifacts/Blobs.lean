/-
  File:      Aios/Artifacts/Blobs.lean
  Subject:   BLOBS AND ARTIFACTS: the rows of the content-addressed store, and the transactions that
             record content, damage, reading and exporting.

  A call of the manager runs its transactions one after the other, and no two calls of one manager
  overlap. What a call finds in a file, and what the checks of its authority answer, is an argument
  of the step. A record of damage (`markBlobFailed`) names the content, and every artifact of that
  content is failed with it.
-/
import Aios.Artifacts.Labels
import Aios.Artifacts.Staging
import Aios.Provenance.Chain
import Aios.Tasks.Serde

namespace Aios.Artifacts

open Lib Json Provenance Tasks

/-! ## 1. Rows -/

/-- `durability_state`. -/
inductive Durability where
  | staged
  | durable
  | missing
  | corrupt
  | orphaned
  deriving DecidableEq, Repr

def Durability.asStr : Durability → String
  | .staged => "STAGED"
  | .durable => "DURABLE"
  | .missing => "MISSING"
  | .corrupt => "CORRUPT"
  | .orphaned => "ORPHANED"

/-- `matches!(state, "CORRUPT" | "MISSING")`. -/
def Durability.damaged : Durability → Bool
  | .missing | .corrupt => true
  | _ => false

inductive ArtifactIntegrityState where
  | unknown
  | pending
  | verified
  | failed
  deriving DecidableEq, Repr

inductive ArtifactOriginKind where
  | user
  | task
  | provider
  | system
  | remote
  | legacy
  deriving DecidableEq, Repr

/-- A row of `artifact_blobs`. -/
structure BlobRow where
  contentHash : String
  sizeBytes : Nat
  storageRef : String
  durability : Durability
  createdAt : String
  verifiedAt : Option String
  deriving DecidableEq

/-- A row of `artifacts`, which is also what `get_artifact` hands out. -/
structure ArtifactRow where
  artifactId : String
  uri : String
  semanticType : Option String
  mediaType : String
  format : Option String
  sizeBytes : Nat
  contentHash : String
  sensitivity : Sensitivity
  retentionClass : RetentionClass
  expiresAt : Option String
  originKind : ArtifactOriginKind
  originTaskId : Option String
  originProgramHash : Option String
  originNodeId : Option String
  originBindingId : Option String
  originProviderId : Option String
  integrityState : ArtifactIntegrityState
  integrityVerifiedAt : Option String
  integrityVerifier : Option String
  labels : List String
  createdAt : String
  deriving DecidableEq

/-- A row of `task_artifacts`. -/
structure TaskArtifactRow where
  taskId : String
  artifactId : String
  role : String
  nodeId : Option String
  addedAt : String
  deriving DecidableEq

/-- A row of `artifact_lineage`. -/
structure LineageRow where
  parentArtifactId : String
  childArtifactId : String
  taskId : String
  nodeId : Option String
  relationship : String
  createdAt : String
  deriving DecidableEq

structure ArtifactDb where
  lease : Lease
  blobs : List BlobRow
  artifacts : List ArtifactRow
  taskArtifacts : List TaskArtifactRow
  lineage : List LineageRow
  events : List EventRow

section Database

variable (db : ArtifactDb)

def ArtifactDb.blob? (contentHash : String) : Option BlobRow :=
  db.blobs.find? fun b => b.contentHash = contentHash

def ArtifactDb.artifact? (artifactId : String) : Option ArtifactRow :=
  db.artifacts.find? fun a => a.artifactId = artifactId

/-- The artifact with the blob of its content. -/
def ArtifactDb.stored? (artifactId : String) : Option (ArtifactRow × BlobRow) := do
  let a ← db.artifact? artifactId
  let b ← db.blob? a.contentHash
  return (a, b)

def ArtifactDb.assertLease (lease : Lease) : TaskResult Unit := rejectIf (db.lease ≠ lease) staleLease

/-- The artifacts of this content, in the order of their identities. -/
def ArtifactDb.artifactIdsForHash (contentHash : String) : List String :=
  ((db.artifacts.filter fun a => a.contentHash = contentHash).map ArtifactRow.artifactId).mergeSort

/-- The Tasks that hold the artifact, one for each role, in their order. -/
def ArtifactDb.tasksOf (artifactId : String) : List String :=
  ((db.taskArtifacts.filter fun ta => ta.artifactId = artifactId).map TaskArtifactRow.taskId).mergeSort

end Database

/-! ## 2. Identities and events -/

section Identities

variable (digest : Digest)

/-- A domain, a kind, and what is identified. -/
def identityDigest (domain kind identity : String) : String :=
  digest.tagged (domain.toUTF8.toList ++ kind.toUTF8.toList ++ [0]) identity.toUTF8.toList

def artifactIdOf (kind nonce : String) : String :=
  "artifact:v1:" ++ identityDigest digest "AIOS-ARTIFACT-ID\x00v1\x00" kind nonce

def eventIdOf (kind identity : String) : String :=
  "event:" ++ kind ++ ":v1:" ++ identityDigest digest "AIOS-ARTIFACT-EVENT-ID\x00v1\x00" kind identity

def artifactUri (artifactId : String) : String := "artifact://" ++ artifactId

def integrityFailedType : String := "artifact.integrity-failed"

def importedType : String := "artifact.imported"

def storeActor : Json := ofFields [
  ("kind", some (.str "system-service")), ("id", some (.str "service:artifact-store"))]

/-- The event of one damaged artifact of one Task. -/
def findingEvent (taskId artifactId contentHash detectedAt : String) (ordinal : Nat)
    (previous : Option Durability) (state : Durability) : Json := ofFields [
  ("schema_version", some (.str Tasks.schemaVersion)),
  ("event_id", some (.str (eventIdOf digest "artifact-integrity-failed"
    (taskId ++ ":" ++ artifactId ++ ":" ++ contentHash ++ ":" ++ toString ordinal)))),
  ("task_id", some (.str taskId)),
  ("event_type", some (.str integrityFailedType)),
  ("timestamp", some (.str detectedAt)),
  ("actor", some storeActor),
  ("input_artifacts", some (.arr [.str artifactId])),
  ("output_artifacts", some (.arr [])),
  ("status", some (.str "failure")),
  ("details", some (ofFields [
    ("content_hash", some (.str contentHash)),
    ("observation_ordinal", some (encodeNat ordinal)),
    ("previous_durability_state", some (encodeOption (fun p => .str p.asStr) previous)),
    ("durability_state", some (.str state.asStr))]))]

end Identities

/-- The row tells of damage to this content, found in this artifact of this Task. -/
def isFinding (taskId artifactId contentHash : String) (row : EventRow) : Bool :=
  row.taskId = taskId && row.eventType = integrityFailedType &&
    (pointer row.event ["details", "content_hash"]).bind asStr = some contentHash &&
    ((pointer row.event ["input_artifacts"]).bind asArr).bind List.head? = some (.str artifactId)

section Transactions

variable (env : JournalEnv)

/-- `append_event`. -/
def appendTo (events : List EventRow) (taskId : String) (event : Json) : TaskResult (List EventRow) := do
  let row ← (appendInTx env events taskId event .any).mapError .provenance
  return events ++ [row]

/-! ## 3. Damage -/

/-- What hashing a stored file shows. -/
inductive Hashed where
  | notFound
  | failed (error : TaskManagerError)
  | read (size : Nat) (hash : String)

/-- The damage shown where content of this size and hash belongs. -/
def Hashed.damage (sizeBytes : Nat) (contentHash : String) : Hashed → TaskResult (Option Durability)
  | .notFound => .ok (some .missing)
  | .failed error => .error error
  | .read size hash =>
      .ok (if size = sizeBytes && hash = contentHash then none else some .corrupt)

/-- One event for each of the artifacts and Tasks, numbered on from the earlier ones. -/
def recordFindings (contentHash detectedAt : String) (previous : Option Durability)
    (state : Durability) : List (String × String) → List EventRow → TaskResult (List EventRow)
  | [], events => .ok events
  | (artifactId, taskId) :: rest, events => do
      let ordinal := events.countP (isFinding taskId artifactId contentHash) + 1
      let events ← appendTo env events taskId
        (findingEvent env.digest taskId artifactId contentHash detectedAt ordinal previous state)
      recordFindings contentHash detectedAt previous state rest events

def BlobRow.marked (state : Durability) (detectedAt : String) (b : BlobRow) : BlobRow :=
  { b with
    durability := state
    verifiedAt := if b.durability ≠ state then some detectedAt else b.verifiedAt }

def ArtifactRow.marked (changed : Bool) (detectedAt : String) (a : ArtifactRow) : ArtifactRow :=
  { a with
    integrityState := .failed
    integrityVerifiedAt :=
      if a.integrityState ≠ .failed || changed then some detectedAt else a.integrityVerifiedAt
    integrityVerifier := some "artifact-store:startup" }

/-- The rows of the content, marked. -/
def ArtifactDb.marked (db : ArtifactDb) (contentHash : String) (state : Durability) (changed : Bool)
    (detectedAt : String) : ArtifactDb :=
  { db with
    blobs := db.blobs.map fun b => if b.contentHash = contentHash then b.marked state detectedAt else b
    artifacts := db.artifacts.map fun a =>
      if a.contentHash = contentHash then a.marked changed detectedAt else a }

/-- What the findings are about: every artifact with every Task that holds it. -/
def ArtifactDb.holdings (db : ArtifactDb) (artifactIds : List String) : List (String × String) :=
  artifactIds.flatMap fun artifactId => (db.tasksOf artifactId).map fun taskId => (artifactId, taskId)

def markBlobFailed (db : ArtifactDb) (lease : Lease) (contentHash : String) (state : Durability)
    (artifactIds : List String) (detectedAt : String) : TaskResult ArtifactDb := do
  db.assertLease lease
  let previous := (db.blob? contentHash).map BlobRow.durability
  let changed := decide (previous ≠ some state)
  let marked := db.marked contentHash state changed detectedAt
  if !changed then return marked
  let events ← recordFindings env contentHash detectedAt previous state (db.holdings artifactIds) db.events
  return { marked with events := events }

def markContentHashFailed (db : ArtifactDb) (lease : Lease) (contentHash : String)
    (state : Durability) (now : String) : TaskResult ArtifactDb :=
  markBlobFailed env db lease contentHash state (db.artifactIdsForHash contentHash) now

def markIntegrityFailed (db : ArtifactDb) (lease : Lease) (artifactId taskId contentHash now : String) :
    TaskResult ArtifactDb := do
  rejectIf (!db.taskArtifacts.any fun ta => ta.taskId = taskId && ta.artifactId = artifactId)
    authorityDenied
  markContentHashFailed env db lease contentHash .corrupt now

/-! ## 4. Recording content -/

/-- What is at hand of a placed blob. -/
structure Placed where
  contentHash : String
  sizeBytes : Nat
  storageRef : String
  reused : Bool

def BlobRow.durableAt (verifiedAt : String) (b : BlobRow) : BlobRow :=
  { b with durability := .durable, verifiedAt := some verifiedAt }

def upsertDurableBlob (db : ArtifactDb) (placed : Placed) (verifiedAt : String) : TaskResult ArtifactDb :=
  match db.blob? placed.contentHash with
  | some stored => do
      let size ← expect (toI64 placed.sizeBytes) (.invalidRecord "Artifact size exceeds SQLite range")
      rejectIf ((stored.sizeBytes : Int) ≠ size || stored.storageRef ≠ placed.storageRef)
        (.invalidRecord "Artifact blob identity collision")
      return { db with blobs := db.blobs.map fun b =>
        if b.contentHash = placed.contentHash then b.durableAt verifiedAt else b }
  | none => do
      let _ ← expect (toI64 placed.sizeBytes) (.invalidRecord "Artifact size exceeds SQLite range")
      return { db with blobs := db.blobs ++
        [⟨placed.contentHash, placed.sizeBytes, placed.storageRef, .durable, verifiedAt,
          some verifiedAt⟩] }

/-- The two inserts of a new artifact of a Task, under the keys of the tables. -/
def insertArtifact (db : ArtifactDb) (a : ArtifactRow) (taskId role : String) (nodeId : Option String) :
    TaskResult ArtifactDb := do
  rejectIf (db.artifacts.any fun other => other.artifactId = a.artifactId || other.uri = a.uri)
    (.storage "UNIQUE constraint failed: artifacts")
  rejectIf (!db.blobs.any fun b => b.contentHash = a.contentHash)
    (.storage "FOREIGN KEY constraint failed")
  rejectIf (db.taskArtifacts.any fun ta =>
      ta.taskId = taskId && ta.artifactId = a.artifactId && ta.role = role)
    (.storage "UNIQUE constraint failed: task_artifacts")
  return { db with
    artifacts := db.artifacts ++ [a]
    taskArtifacts := db.taskArtifacts ++ [⟨taskId, a.artifactId, role, nodeId, a.createdAt⟩] }

/-! ## 5. Importing -/

structure ImportArtifactRequest where
  schemaVersion : String
  importId : Option String
  taskId : String
  originKind : ArtifactOriginKind
  semanticType : Option String
  mediaType : String
  format : Option String
  sensitivity : Sensitivity
  retention : RetentionClass
  expiresAt : Option String
  labels : List String
  maxSizeBytes : Option Nat
  deriving DecidableEq

def keyedArtifactId (taskId importId : String) : String :=
  artifactIdOf env.digest "import-key" (taskId ++ "\x00" ++ importId)

def importedArtifactId (request : ImportArtifactRequest) (token : String) : String :=
  match request.importId with
  | some importId => keyedArtifactId env request.taskId importId
  | none => artifactIdOf env.digest "import" token

def importedRow (request : ImportArtifactRequest) (artifactId : String) (placed : Placed)
    (createdAt : String) : ArtifactRow where
  artifactId := artifactId
  uri := artifactUri artifactId
  semanticType := request.semanticType
  mediaType := request.mediaType
  format := request.format
  sizeBytes := placed.sizeBytes
  contentHash := placed.contentHash
  sensitivity := request.sensitivity
  retentionClass := request.retention
  expiresAt := request.expiresAt
  originKind := request.originKind
  originTaskId := some request.taskId
  originProgramHash := none
  originNodeId := none
  originBindingId := none
  originProviderId := none
  integrityState := .verified
  integrityVerifiedAt := some createdAt
  integrityVerifier := some "artifact-store:sha256"
  labels := request.labels
  createdAt := createdAt

def importedEvent (request : ImportArtifactRequest) (artifactId createdAt contentHash : String)
    (sizeBytes : Nat) (actor : Actor) (reused : Bool) (requestDigest : String) : Json := ofFields [
  ("schema_version", some (.str Tasks.schemaVersion)),
  ("event_id", some (.str (eventIdOf env.digest "artifact-imported" artifactId))),
  ("task_id", some (.str request.taskId)),
  ("event_type", some (.str importedType)),
  ("timestamp", some (.str createdAt)),
  ("actor", some actor.toJson),
  ("input_artifacts", some (.arr [])),
  ("output_artifacts", some (.arr [.str artifactId])),
  ("status", some (.str "success")),
  ("details", some (ofFields [
    ("content_hash", some (.str contentHash)),
    ("size_bytes", some (encodeNat sizeBytes)),
    ("blob_reused", some (.bool reused)),
    ("import_id", some (encodeOption .str request.importId)),
    ("request_digest", some (.str requestDigest))]))]

/-- What an import finds outside the rows. -/
structure ImportOutside where
  /-- `validate_import_request`. -/
  shape : TaskResult Unit
  /-- `import_request_digest`. -/
  requestDigest : TaskResult String
  /-- `authenticate_keyed_import_receipt`: whether the blob was reused. -/
  receipt : TaskResult Bool
  /-- The stored blob, for a request that was imported before. -/
  stored : Hashed
  /-- The Task exists and is not recovering, takes imports, and has no unknown export. -/
  admissible : TaskResult Unit
  /-- The size and the hash of the source, under its staging name. -/
  streamed : TaskResult (Nat × String)
  /-- Where the blob was placed, and whether it was there already. -/
  placement : TaskResult (String × Bool)
  token : String
  createdAt : String
  /-- In the transaction, the Task is not recovering. -/
  taskClear : TaskResult Unit
  /-- The principal of the Task, unless it has ended. -/
  actor : Option Actor
  /-- The receipt of a keyed import is stored. -/
  receipted : TaskResult Unit
  /-- The principal of the Task. -/
  principal : Option Actor

/-- The transaction of an import. -/
def commitImport (db : ArtifactDb) (lease : Lease) (request : ImportArtifactRequest) (placed : Placed)
    (o : ImportOutside) : TaskResult ArtifactDb := do
  let artifactId := importedArtifactId env request o.token
  db.assertLease lease
  o.taskClear
  let actor ← expect o.actor authorityDenied
  let db ← upsertDurableBlob db placed o.createdAt
  let db ← insertArtifact db (importedRow request artifactId placed o.createdAt) request.taskId "input" none
  let requestDigest ← o.requestDigest
  let events ← appendTo env db.events request.taskId
    (importedEvent env request artifactId o.createdAt placed.contentHash placed.sizeBytes actor
      placed.reused requestDigest)
  (if request.importId.isSome then o.receipted else .ok () : TaskResult Unit)
  return { db with events := events }

def integrityFailed : TaskManagerError := .invalidRecord "ARTIFACT_INTEGRITY_FAILED"

def idReuseConflict : TaskManagerError := .invalidRecord "ARTIFACT_PUBLICATION_ID_REUSE_CONFLICT"

def receiptInvalid : TaskManagerError := .invalidRecord "stored Artifact import receipt is invalid"

/-- The import events of the Task under this import identity. -/
def keyedImportEvents (db : ArtifactDb) (taskId importId : String) : List EventRow :=
  db.events.filter fun row => row.taskId = taskId && row.eventType = importedType &&
    (pointer row.event ["details", "import_id"]).bind asStr = some importId

/-- `verify_provenance_through` over the whole stream of the Task. -/
def provenanceVerifies (db : ArtifactDb) (taskId : String) : TaskResult Bool := do
  let stream ← (streamId env.digest taskId).mapError .provenance
  if db.events.any fun row => row.taskId = taskId && row.streamId ≠ stream then return false
  let result ← (verifyStream env db.events stream none none
    "1970-01-01T00:00:00Z").mapError .provenance
  return result.valid

/-- The metadata the request asks for. -/
def metadataExact (a : ArtifactRow) (request : ImportArtifactRequest) : Bool :=
  a.uri = artifactUri a.artifactId && a.semanticType = request.semanticType &&
    a.mediaType = request.mediaType && a.format = request.format &&
    a.sensitivity = request.sensitivity && a.retentionClass = request.retention &&
    a.expiresAt = request.expiresAt && a.originKind = request.originKind &&
    a.originTaskId = some request.taskId && a.originProgramHash.isNone && a.originNodeId.isNone &&
    a.originBindingId.isNone && a.originProviderId.isNone && a.labels = request.labels

def verifiedTimeExact (a : ArtifactRow) : Bool :=
  match a.integrityVerifiedAt.bind env.rfc3339, env.rfc3339 a.createdAt with
  | some verified, some created => created ≤ verified
  | _, _ => false

/-- What a keyed import that was sent before ends in. -/
inductive KeyedReplay where
  | absent
  | replayed (artifact : ArtifactRow)
  | damaged (contentHash : String) (state : Durability)

def replayKeyedImport (db : ArtifactDb) (request : ImportArtifactRequest) (o : ImportOutside) :
    TaskResult KeyedReplay :=
  match request.importId with
  | none => .ok .absent
  | some importId =>
      let artifactId := keyedArtifactId env request.taskId importId
      let stored := keyedImportEvents db request.taskId importId
      match db.artifact? artifactId with
      | none => do
          rejectIf (!stored.isEmpty) receiptInvalid
          return .absent
      | some artifact => do
          let attached := (db.taskArtifacts.filter fun ta => ta.taskId = request.taskId &&
            ta.artifactId = artifactId && ta.role = "input" && ta.nodeId.isNone).length = 1
          let blob := db.blobs.find? fun b =>
            b.contentHash = artifact.contentHash && b.sizeBytes = artifact.sizeBytes
          let requestDigest ← o.requestDigest
          let reused ← o.receipt
          let eventExact := match o.principal with
            | some actor => stored.map EventRow.event = [importedEvent env request artifactId
                artifact.createdAt artifact.contentHash artifact.sizeBytes actor reused requestDigest]
            | none => false
          let exact := metadataExact artifact request && eventExact && attached
          let verified ← (if exact then provenanceVerifies env db request.taskId else .ok false)
          rejectIf (!verified) idReuseConflict
          rejectIf (artifact.integrityState = .failed &&
              artifact.integrityVerifier = some "artifact-store:startup" && verifiedTimeExact env artifact &&
              blob.any fun b => b.durability.damaged)
            integrityFailed
          rejectIf (!(artifact.integrityState = .verified &&
              artifact.integrityVerifier = some "artifact-store:sha256" && verifiedTimeExact env artifact) ||
              !blob.any fun b => b.durability = .durable)
            idReuseConflict
          let b ← expect blob receiptInvalid
          let damage ← o.stored.damage b.sizeBytes artifact.contentHash
          match damage with
          | some state => return .damaged artifact.contentHash state
          | none => return .replayed artifact

/-- How a call ends: the rows it leaves, and its result. -/
abbrev Called (α : Type) := ArtifactDb × TaskResult α

/-- A transaction that commits or leaves the rows as they were. -/
def committing {α : Type} (db : ArtifactDb) (transaction : TaskResult ArtifactDb)
    (result : ArtifactDb → TaskResult α) : Called α :=
  match transaction with
  | .ok after => (after, result after)
  | .error error => (db, .error error)

def hashMismatchCode : String := "ARTIFACT_HASH_MISMATCH"

/-- `import_artifact`. -/
def importArtifact (db : ArtifactDb) (lease : Lease) (request : ImportArtifactRequest)
    (o : ImportOutside) : Called ArtifactRow :=
  match o.shape >>= fun _ => replayKeyedImport env db request o with
  | .error error => (db, .error error)
  | .ok (.replayed artifact) => (db, .ok artifact)
  | .ok (.damaged contentHash state) =>
      committing db (markContentHashFailed env db lease contentHash state o.createdAt) fun _ =>
        .error integrityFailed
  | .ok .absent =>
      match o.admissible >>= fun _ => o.streamed with
      | .error error => (db, .error error)
      | .ok (size, contentHash) =>
          match o.placement with
          | .ok (storageRef, reused) =>
              committing db (commitImport env db lease request ⟨contentHash, size, storageRef, reused⟩ o)
                fun after => expect (after.artifact? (importedArtifactId env request o.token))
                  (.invalidRecord "imported Artifact disappeared")
          | .error error =>
              if error = .invalidRecord hashMismatchCode then
                committing db (markContentHashFailed env db lease contentHash .corrupt o.createdAt) fun _ =>
                  .error error
              else (db, .error error)

end Transactions

end Aios.Artifacts
