/-
  File:      Aios/Provenance/Journal.lean
  Subject:   THE JOURNAL: rows of the event table, appending an event, verifying a stream.

  The table is the list of its rows in the order of insertion; a column that holds a JSON text holds
  the value its reader finds in it, and a query with an order sorts. What the storage engine itself may refuse beyond
  the unique keys is left to the caller, which runs every statement inside a transaction.
-/
import Aios.Lib.Order
import Aios.Provenance.Event

namespace Aios.Provenance

open Lib

/-! ## 1. Rows -/

/-- A row of `provenance_events`. -/
structure EventRow where
  schemaVersion : String
  hashProfile : String
  eventId : String
  taskId : String
  streamId : String
  sequence : Nat
  timestamp : String
  eventType : String
  semanticProgramHash : Option String
  irVersion : Option String
  registrySnapshotId : Option String
  nodeId : Option String
  executionBindingId : Option String
  providerId : Option String
  status : Option String
  previousEventHash : Option String
  eventHash : String
  event : Json
  deriving DecidableEq

/-- A record of the journal, as a verification reads it. -/
structure JournalRecord where
  schemaVersion : String
  hashProfile : String
  streamId : String
  sequence : Nat
  previousEventHash : Option String
  event : Json
  eventHash : String
  deriving DecidableEq

def EventRow.record (row : EventRow) : JournalRecord where
  schemaVersion := row.schemaVersion
  hashProfile := row.hashProfile
  streamId := row.streamId
  sequence := row.sequence
  previousEventHash := row.previousEventHash
  event := row.event
  eventHash := row.eventHash

/-- The rows of one stream, in the order of insertion. -/
def streamRows (rows : List EventRow) (streamId : String) : List EventRow :=
  rows.filter fun row => row.streamId = streamId

/-- The row with the greatest sequence number. -/
def lastRow : List EventRow → Option EventRow
  | [] => none
  | row :: rest =>
      match lastRow rest with
      | none => some row
      | some last => some (if last.sequence < row.sequence then row else last)

def streamIdDomain : List UInt8 := "AIOS-TASK-PROVENANCE-STREAM-ID\x00v1\x00".toUTF8.toList

/-- The text of a stream identity. -/
def streamIdText (digest : Digest) (taskId : String) : String :=
  "task:v1:" ++ digest.tagged streamIdDomain taskId.toUTF8.toList

def streamId (digest : Digest) (taskId : String) : Result String := do
  validateTaskId taskId
  return streamIdText digest taskId

/-- Characters of a stream identity after the first. -/
def streamIdChar (c : Char) : Bool := c.isAlphanum || ['.', '_', ':', '-'].contains c

def validateStreamId (value : String) : Result Unit :=
  let invalid := Error.invalidRecord "invalid provenance stream ID"
  match value.toList with
  | 't' :: 'a' :: 's' :: 'k' :: ':' :: first :: rest =>
      rejectIf (256 < value.utf8ByteSize || !first.isAlphanum || !rest.all streamIdChar) invalid
  | _ => .error invalid

structure StreamHead where
  streamId : String
  sequence : Nat
  eventHash : String
  deriving DecidableEq, Repr

def getHead (rows : List EventRow) (streamId : String) : Result (Option StreamHead) := do
  validateStreamId streamId
  match lastRow (streamRows rows streamId) with
  | none => return none
  | some row => do
      rejectIf (row.sequence = 0 || !validHash row.eventHash)
        (.invalidRecord "stored provenance head is invalid")
      return some ⟨streamId, row.sequence, row.eventHash⟩

/-! ## 2. The revision of the Task -/

/-- `task.created` occurs exactly at the first place. -/
def validateSequenceEventInvariant (sequence : Nat) (event : Json) : Result Unit :=
  rejectIf (decide (sequence = 1) ≠ decide (stringField event "event_type" = some "task.created"))
    (.invalidRecord "task.created must occur exactly at provenance genesis")

/-- The revision and the state after an event, given those before. -/
def advanceTaskRevision (latest : Option (Nat × String)) (event : Json) :
    Result (Option (Nat × String)) :=
  match stringField event "event_type" with
  | some "task.created" =>
      if latest.isSome then .error (.invalidRecord "Task creation revision is not genesis")
      else .ok (some (1, "CREATED"))
  | some "task.transitioned" => do
      let field := fun key => pointer event ["task_transition", key]
      let stale := Error.invalidRecord "Task transition revision or state is discontinuous"
      rejectIf ((field "previous_revision").bind asU64 ≠ latest.map Prod.fst ||
        (field "previous_state").bind Json.asStr ≠ latest.map Prod.snd) stale
      let next ← expect ((field "new_revision").bind asU64) stale
      let nextState ← expect ((field "new_state").bind Json.asStr) stale
      return some (next, nextState)
  | _ => .ok latest

/-- The event kinds that carry a revision. -/
def carriesRevision (row : EventRow) : Bool :=
  row.eventType = "task.created" || row.eventType = "task.transitioned"

section Journal

variable (env : JournalEnv)

def validateStoredEvent (event : Json) : Result Unit := do
  let taskId ← expect (stringField event "task_id")
    (.invalidRecord "provenance event has no typed Task identity")
  validateEvent env taskId event

/-- The revision and the state a stored event leaves. -/
def storedRevision (row : EventRow) : Result (Option (Nat × String)) := do
  rejectIf (stringField row.event "event_type" ≠ some row.eventType)
    (.invalidRecord "stored Task revision event conflicts with its index")
  validateStoredEvent env row.event
  if row.eventType = "task.created" then return some (1, "CREATED")
  let field := fun key => pointer row.event ["task_transition", key]
  let revision ← expect ((field "new_revision").bind asU64)
    (.invalidRecord "stored Task transition has no revision")
  let state ← expect ((field "new_state").bind Json.asStr)
    (.invalidRecord "stored Task transition has no state")
  return some (revision, state)

def latestTaskRevisionInTx (rows : List EventRow) (streamId : String) :
    Result (Option (Nat × String)) :=
  match lastRow ((streamRows rows streamId).filter carriesRevision) with
  | none => .ok none
  | some row => storedRevision env row

/-! ## 3. Appending -/

inductive ExpectedHead where
  | any
  | empty
  | exact (sequence : Nat) (eventHash : String)
  deriving DecidableEq, Repr

def headMatches (expected : ExpectedHead) (head : Option StreamHead) : Bool :=
  match expected, head with
  | .any, _ => true
  | .empty, none => true
  | .exact sequence eventHash, some actual =>
      sequence = actual.sequence && eventHash = actual.eventHash
  | _, _ => false

/-- The unique keys of the table refuse the row. -/
def keyConflict (rows : List EventRow) (row : EventRow) : Bool :=
  rows.any fun other => other.eventId = row.eventId ||
    (other.taskId = row.taskId && other.sequence = row.sequence) ||
    (other.streamId = row.streamId && other.sequence = row.sequence)

/-- The row an accepted event is stored as; `stored` is the event as its text is read back. -/
def eventRow (streamId taskId eventId timestamp eventType : String) (sequence : Nat)
    (previous : Option String) (eventHash : String) (event stored : Json) : EventRow where
  schemaVersion := schemaVersion
  hashProfile := hashProfile
  eventId := eventId
  taskId := taskId
  streamId := streamId
  sequence := sequence
  timestamp := timestamp
  eventType := eventType
  semanticProgramHash := stringField event "semantic_program_hash"
  irVersion := stringField event "ir_version"
  registrySnapshotId := stringField event "registry_snapshot_id"
  nodeId := stringField event "step_id"
  executionBindingId := stringField event "execution_binding_id"
  providerId := stringField event "provider_id"
  status := stringField event "status"
  previousEventHash := previous
  eventHash := eventHash
  event := stored

/-- An export to a service names the authority it used. -/
def serviceExportUnauthorized (event : Json) : Bool :=
  stringField event "event_type" = some "artifact.exported" &&
    ((pointer event ["external_transfer", "destination"]).bind Json.asStr).any
      ("service://").isPrefixOf &&
    (pointer event ["details", "export_authority"]).isNone

/-- A transition continues the revision of the stream. -/
def continuesRevision (rows : List EventRow) (streamId : String) (event : Json) : Result Unit :=
  if stringField event "event_type" = some "task.transitioned" then do
    let latest ← latestTaskRevisionInTx env rows streamId
    let _ ← advanceTaskRevision latest event
    return ()
  else .ok ()

def appendInTx (rows : List EventRow) (taskId : String) (event : Json) (expected : ExpectedHead) :
    Result EventRow := do
  validateEvent env taskId event
  rejectIf (serviceExportUnauthorized event)
    (.invalidRecord "exact service export requires export authority")
  let stream ← streamId env.digest taskId
  let head ← getHead rows stream
  rejectIf (!headMatches expected head) (.invalidRecord "stale provenance stream head")
  -- the successor saturates at the last 64-bit number, which is refused
  let sequence := head.elim 1 fun h => min (h.sequence + 1) (2 ^ 64 - 1)
  rejectIf (sequence = 2 ^ 64 - 1) (.invalidRecord "provenance sequence overflow")
  validateSequenceEventInvariant sequence event
  continuesRevision env rows stream event
  let previous := head.map StreamHead.eventHash
  let eventHash ← hashRecord env stream sequence previous event
  let eventId ← expect (stringField event "event_id")
    (.invalidRecord "validated event has no event ID")
  let timestamp ← expect (stringField event "timestamp")
    (.storage "NOT NULL constraint failed: provenance_events.timestamp")
  let eventType ← expect (stringField event "event_type")
    (.storage "NOT NULL constraint failed: provenance_events.event_type")
  rejectIf (2 ^ 63 ≤ sequence) (.invalidRecord "provenance sequence exceeds SQLite range")
  let row := eventRow stream taskId eventId timestamp eventType sequence previous eventHash event
    (env.reread event)
  rejectIf (keyConflict rows row) (.storage "UNIQUE constraint failed: provenance_events")
  return row

/-! ## 4. Verifying -/

structure VerificationDiagnostic where
  code : String
  message : String
  sequence : Option Nat
  eventId : Option String
  deriving DecidableEq, Repr

structure CheckpointExpectation where
  checkpointId : String
  eventHash : String
  deriving DecidableEq, Repr

structure VerificationResult where
  valid : Bool
  streamId : String
  fromSequence : Nat
  toSequence : Nat
  expectedHeadHash : Option String
  computedHeadHash : Option String
  checkpointId : Option String
  diagnostics : List VerificationDiagnostic
  verifiedAt : String
  deriving DecidableEq, Repr

/-- What every step of one verification has at hand. -/
structure Verification where
  streamId : String
  checkpoint : Option CheckpointExpectation
  verifiedAt : String

def failure (v : Verification) (code message : String) (sequence : Option Nat)
    (eventId : Option String) (computedHeadHash : Option String) : VerificationResult where
  valid := false
  streamId := v.streamId
  fromSequence := 1
  toSequence := max ((sequence.filter (0 < ·)).getD 1) 1
  expectedHeadHash := v.checkpoint.map CheckpointExpectation.eventHash
  computedHeadHash := computedHeadHash
  checkpointId := v.checkpoint.map CheckpointExpectation.checkpointId
  diagnostics := [⟨code, message, sequence.filter (0 < ·),
    eventId.filter fun id => !id.isEmpty && id.length ≤ 256⟩]
  verifiedAt := v.verifiedAt

/-- A text column short enough to be read. -/
def boundedText (text : String) : Bool := text.utf8ByteSize ≤ maxEventBytes

/-- The columns of the row can be read. -/
def readable (row : EventRow) : Bool :=
  env.encodedLength row.event ≤ maxEventBytes &&
    ([row.schemaVersion, row.hashProfile, row.streamId, row.eventHash, row.eventId, row.taskId,
      row.timestamp, row.eventType].all boundedText) &&
    ([row.previousEventHash, row.semanticProgramHash, row.irVersion, row.registrySnapshotId,
      row.nodeId, row.executionBindingId, row.providerId, row.status].all fun column =>
        column.all boundedText)

/-- The index columns repeat the fields of the event. -/
def indexMatches (row : EventRow) : Bool :=
  row.eventId = (stringField row.event "event_id").getD "" &&
    row.taskId = (stringField row.event "task_id").getD "" &&
    row.timestamp = (stringField row.event "timestamp").getD "" &&
    row.eventType = (stringField row.event "event_type").getD "" &&
    row.semanticProgramHash = stringField row.event "semantic_program_hash" &&
    row.irVersion = stringField row.event "ir_version" &&
    row.registrySnapshotId = stringField row.event "registry_snapshot_id" &&
    row.nodeId = stringField row.event "step_id" &&
    row.executionBindingId = stringField row.event "execution_binding_id" &&
    row.providerId = stringField row.event "provider_id" &&
    row.status = stringField row.event "status"

/-- A check that passes leaves nothing to report. -/
def passes {α : Type} (check : Result α) : Bool := check.toOption.isSome

/-- The stream the event's own Task identity leads to. -/
def ownStream (event : Json) : Option String :=
  (stringField event "task_id").bind fun id => (streamId env.digest id).toOption

def diagnosticEventId (value : Option String) : Option String :=
  value.filter fun id => !id.isEmpty && id.length ≤ 256

/-- Verifies one record against the head so far; returns its recomputed hash. -/
def verifyOneRecord (v : Verification) (record : JournalRecord) (expectedSequence : Nat)
    (previous : Option String) (appearsLater : Bool) : Except VerificationResult String := do
  let eventId := diagnosticEventId (stringField record.event "event_id")
  let invalid := fun code message head => failure v code message (some record.sequence) eventId head
  rejectIf (record.sequence < expectedSequence || appearsLater)
    (invalid "PROVENANCE_SEQUENCE_ORDER_INVALID" "records are not in strictly increasing sequence"
      previous)
  rejectIf (expectedSequence < record.sequence) (invalid "PROVENANCE_SEQUENCE_GAP"
    "provenance stream contains a sequence gap" previous)
  rejectIf (record.schemaVersion ≠ schemaVersion) (invalid "PROVENANCE_SCHEMA_INVALID"
    "journal record schema version is unsupported" previous)
  rejectIf (record.hashProfile ≠ hashProfile) (invalid "PROVENANCE_HASH_PROFILE_UNSUPPORTED"
    "journal record hash profile is unsupported" previous)
  rejectIf (record.streamId ≠ v.streamId || ownStream env record.event ≠ some v.streamId)
    (invalid "PROVENANCE_STREAM_ID_MISMATCH"
      "journal record identity does not match the verified stream" previous)
  rejectIf (record.previousEventHash ≠ previous) (invalid "PROVENANCE_PREVIOUS_HASH_MISMATCH"
    "previous_event_hash does not match the prior computed head" previous)
  let taskId := (stringField record.event "task_id").getD ""
  rejectIf (!passes (validateEvent env taskId record.event) ||
      !passes (validateSequenceEventInvariant record.sequence record.event) ||
      !validHash record.eventHash || record.previousEventHash.any fun hash => !validHash hash)
    (invalid "PROVENANCE_SCHEMA_INVALID" "journal record or event is structurally invalid" previous)
  let computed ← (hashRecord env v.streamId record.sequence record.previousEventHash
    record.event).mapError fun _ =>
      invalid "PROVENANCE_SCHEMA_INVALID" "journal record cannot be canonicalized" previous
  rejectIf (computed ≠ record.eventHash) (invalid "PROVENANCE_EVENT_HASH_MISMATCH"
    "recomputed journal-record hash does not match event_hash" (some computed))
  return computed

/-- The state of the verification loop: the head, the next sequence number, the revision. -/
structure Progress where
  previous : Option String
  expectedSequence : Nat
  latest : Option (Nat × String)
  deriving DecidableEq, Repr

def Progress.start : Progress := ⟨none, 1, none⟩

def verifyRow (v : Verification) (p : Progress) (row : EventRow) :
    Except VerificationResult Progress := do
  rejectIf (!readable env row) (failure v "PROVENANCE_SCHEMA_INVALID"
    "stored journal record is malformed" none none p.previous)
  let computed ← verifyOneRecord env v row.record p.expectedSequence p.previous false
  rejectIf (!indexMatches row) (failure v "PROVENANCE_SCHEMA_INVALID"
    "journal index columns conflict with the hashed event" (some row.sequence) (some row.eventId)
    (some computed))
  let latest ← (advanceTaskRevision p.latest row.event).mapError fun _ =>
    failure v "PROVENANCE_SCHEMA_INVALID" "Task revision is discontinuous" (some row.sequence)
      (diagnosticEventId (some row.eventId)) p.previous
  return ⟨some computed, p.expectedSequence + 1, latest⟩

def verifyRows (v : Verification) : Progress → List EventRow → Except VerificationResult Progress
  | p, [] => .ok p
  | p, row :: rest => do
      let p ← verifyRow env v p row
      verifyRows v p rest

def finishVerification (v : Verification) (p : Progress) : VerificationResult :=
  match p.previous with
  | none => failure v "PROVENANCE_SEQUENCE_GAP" "provenance stream is empty" (some 1) none none
  | some head =>
      if v.checkpoint.any fun checkpoint => checkpoint.eventHash ≠ head then
        failure v "PROVENANCE_CHECKPOINT_HEAD_MISMATCH"
          "computed stream head does not match the supplied checkpoint"
          (some (p.expectedSequence - 1)) none (some head)
      else
        { valid := true
          streamId := v.streamId
          fromSequence := 1
          toSequence := p.expectedSequence - 1
          expectedHeadHash := v.checkpoint.map CheckpointExpectation.eventHash
          computedHeadHash := some head
          checkpointId := v.checkpoint.map CheckpointExpectation.checkpointId
          diagnostics := []
          verifiedAt := v.verifiedAt }

/-- A requested prefix must be complete. -/
def requireThrough (v : Verification) (through : Option Nat) (result : VerificationResult) :
    VerificationResult :=
  match through with
  | none => result
  | some sequence =>
      if result.valid && result.toSequence ≠ sequence then
        failure v "PROVENANCE_SEQUENCE_GAP" "requested provenance prefix is incomplete"
          (some (result.toSequence + 1)) none result.computedHeadHash
      else result

def validateCheckpoint (checkpoint : Option CheckpointExpectation) : Result Unit :=
  rejectIf (checkpoint.any fun c =>
      c.checkpointId.isEmpty || 256 < c.checkpointId.length || !validHash c.eventHash)
    (.invalidRecord "invalid provenance checkpoint expectation")

/-- The rows a verification reads: those of the stream, up to a sequence number, in order. -/
def selectedRows (rows : List EventRow) (streamId : String) (through : Option Nat) : List EventRow :=
  sortOn EventRow.sequence ((streamRows rows streamId).filter fun row =>
    through.all fun upper => row.sequence ≤ upper)

def verifyStream (rows : List EventRow) (streamId : String) (through : Option Nat)
    (checkpoint : Option CheckpointExpectation) (verifiedAt : String) :
    Result VerificationResult := do
  validateStreamId streamId
  validateTimestamp env.rfc3339 verifiedAt
  validateCheckpoint checkpoint
  rejectIf (through.any fun upper => 2 ^ 63 ≤ upper)
    (.invalidRecord "verification sequence exceeds SQLite range")
  let v : Verification := ⟨streamId, checkpoint, verifiedAt⟩
  match verifyRows env v .start (selectedRows rows streamId through) with
  | .error result => return result
  | .ok p => return requireThrough v through (finishVerification v p)

/-- One record of a list that is already loaded; `rest` are the records after it, `seen` the event
    identities before it. -/
def verifyLoadedRecord (v : Verification) (p : Progress) (seen : List String) (record : JournalRecord)
    (rest : List JournalRecord) : Except VerificationResult Progress := do
  let eventId := stringField record.event "event_id"
  rejectIf (eventId.any seen.contains) (failure v "PROVENANCE_SCHEMA_INVALID"
    "duplicate provenance event ID" (some record.sequence) (diagnosticEventId eventId) p.previous)
  let appearsLater := decide (p.expectedSequence < record.sequence) &&
    (record :: rest).any fun candidate => candidate.sequence = p.expectedSequence
  let computed ← verifyOneRecord env v record p.expectedSequence p.previous appearsLater
  let latest ← (advanceTaskRevision p.latest record.event).mapError fun _ =>
    failure v "PROVENANCE_SCHEMA_INVALID" "Task revision is discontinuous" (some record.sequence)
      (diagnosticEventId eventId) p.previous
  return ⟨some computed, p.expectedSequence + 1, latest⟩

def verifyLoadedRecords (v : Verification) :
    Progress → List String → List JournalRecord → Except VerificationResult Progress
  | p, _, [] => .ok p
  | p, seen, record :: rest => do
      let p ← verifyLoadedRecord env v p seen record rest
      verifyLoadedRecords v p ((stringField record.event "event_id").toList ++ seen) rest

def verifyRecords (records : List JournalRecord) (streamId : String)
    (checkpoint : Option CheckpointExpectation) (verifiedAt : String) :
    Result VerificationResult := do
  validateStreamId streamId
  validateTimestamp env.rfc3339 verifiedAt
  validateCheckpoint checkpoint
  let v : Verification := ⟨streamId, checkpoint, verifiedAt⟩
  match verifyLoadedRecords env v .start [] records with
  | .error result => return result
  | .ok p => return finishVerification v p

end Journal

end Aios.Provenance
