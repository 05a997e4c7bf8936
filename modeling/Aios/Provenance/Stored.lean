/-
  File:      Aios/Provenance/Stored.lean
  Subject:   THE JOURNAL AS THE TABLE HOLDS IT: cells, reading a row, verifying the rows, pages.

  Here a column holds whatever SQLite lets it hold, and every reader decodes it. SQLite's order of
  values, the JSON reader and the error rusqlite gives for a cell of the wrong kind are the
  surroundings (`JournalStore`).
-/
import Aios.Lib.Paging
import Aios.Provenance.Journal
import Mathlib.Algebra.Group.Int.Defs

namespace Aios.Provenance.Stored

open Lib

/-! ## 1. Cells -/

/-- A value in a column. -/
inductive Cell where
  | null
  | integer (n : Int)
  | text (s : String)
  /-- A real, a blob or a text that is not UTF-8. -/
  | other (bytes : List UInt8)
  deriving DecidableEq

/-- Why a row cannot be read: it is malformed, or the storage engine failed. -/
inductive RowError where
  | malformed
  | engine
  deriving DecidableEq, Repr

structure JournalStore extends JournalEnv where
  /-- `parse_unique_json_bytes`. -/
  parse : String → Option Json
  /-- The error for a cell that is not of the kind asked for. -/
  refusal : Cell → RowError
  /-- The order of `ORDER BY` and of comparisons; values that compare equal are one value. -/
  order : LinearOrder Cell
  integers : ∀ m n : Int, order.le (.integer m) (.integer n) ↔ m ≤ n

/-- A row of `provenance_events`. -/
structure StoredRow where
  schemaVersion : Cell
  hashProfile : Cell
  eventId : Cell
  taskId : Cell
  streamId : Cell
  sequence : Cell
  timestamp : Cell
  eventType : Cell
  semanticProgramHash : Cell
  irVersion : Cell
  registrySnapshotId : Cell
  nodeId : Cell
  executionBindingId : Cell
  providerId : Cell
  status : Cell
  previousEventHash : Cell
  eventHash : Cell
  eventJson : Cell
  deriving DecidableEq

/-- The table with the constraints that SQLite keeps: the key of the events, the key of the
    streams, 64-bit integers and `CHECK (sequence >= 1)`. -/
structure EventTable (store : JournalStore) where
  rows : List StoredRow
  eventKey : rows.Pairwise fun a b => a.eventId = b.eventId → a.eventId = .null
  streamKey : rows.Pairwise fun a b => ¬(a.streamId = b.streamId ∧ a.sequence = b.sequence)
  positive : ∀ row ∈ rows, store.order.le (.integer 1) row.sequence
  narrow : ∀ row ∈ rows, ∀ n, row.sequence = .integer n → n < 2 ^ 63

section Store

variable (store : JournalStore)

/-! ## 2. Reading a row -/

def boundedRowText : Cell → Except RowError String
  | .text s => if maxEventBytes < s.utf8ByteSize then .error .malformed else .ok s
  | cell => .error (store.refusal cell)

def boundedNullableRowText : Cell → Except RowError (Option String)
  | .null => .ok none
  | .text s => (boundedRowText store (.text s)).map some
  | cell => .error (store.refusal cell)

/-- `row.get::<_, i64>`. -/
def rowInteger : Cell → Except RowError Int
  | .integer n => .ok n
  | cell => .error (store.refusal cell)

/-- The event of a row: a text, not too long, that is one JSON value without repeated names. -/
def rowEvent : Cell → Except RowError Json
  | .text s =>
      if maxEventBytes < s.utf8ByteSize then .error .malformed
      else expect (store.parse s) .malformed
  | _ => .error .malformed

def rowToRecord (row : StoredRow) : Except RowError JournalRecord := do
  let sequence ← rowInteger store row.sequence
  let event ← rowEvent store row.eventJson
  let schemaVersion ← boundedRowText store row.schemaVersion
  let hashProfile ← boundedRowText store row.hashProfile
  let streamId ← boundedRowText store row.streamId
  rejectIf (sequence < 0) .malformed
  let previousEventHash ← boundedNullableRowText store row.previousEventHash
  let eventHash ← boundedRowText store row.eventHash
  return { schemaVersion, hashProfile, streamId, sequence := sequence.toNat, previousEventHash,
           event, eventHash }

structure JournalIndex where
  eventId : String
  taskId : String
  timestamp : String
  eventType : String
  semanticProgramHash : Option String
  irVersion : Option String
  registrySnapshotId : Option String
  nodeId : Option String
  executionBindingId : Option String
  providerId : Option String
  status : Option String
  deriving DecidableEq

def journalIndex (row : StoredRow) : Except RowError JournalIndex := do
  let eventId ← boundedRowText store row.eventId
  let taskId ← boundedRowText store row.taskId
  let timestamp ← boundedRowText store row.timestamp
  let eventType ← boundedRowText store row.eventType
  let semanticProgramHash ← boundedNullableRowText store row.semanticProgramHash
  let irVersion ← boundedNullableRowText store row.irVersion
  let registrySnapshotId ← boundedNullableRowText store row.registrySnapshotId
  let nodeId ← boundedNullableRowText store row.nodeId
  let executionBindingId ← boundedNullableRowText store row.executionBindingId
  let providerId ← boundedNullableRowText store row.providerId
  let status ← boundedNullableRowText store row.status
  return { eventId, taskId, timestamp, eventType, semanticProgramHash, irVersion,
           registrySnapshotId, nodeId, executionBindingId, providerId, status }

def JournalIndex.matches (index : JournalIndex) (event : Json) : Bool :=
  index.eventId = (stringField event "event_id").getD "" &&
    index.taskId = (stringField event "task_id").getD "" &&
    index.timestamp = (stringField event "timestamp").getD "" &&
    index.eventType = (stringField event "event_type").getD "" &&
    index.semanticProgramHash = stringField event "semantic_program_hash" &&
    index.irVersion = stringField event "ir_version" &&
    index.registrySnapshotId = stringField event "registry_snapshot_id" &&
    index.nodeId = stringField event "step_id" &&
    index.executionBindingId = stringField event "execution_binding_id" &&
    index.providerId = stringField event "provider_id" &&
    index.status = stringField event "status"

/-! ## 3. Queries -/

/-- The rows of one stream in the order of their sequence numbers. -/
def orderedRows (rows : List StoredRow) (streamId : String) : List StoredRow :=
  @sortOn _ _ store.order StoredRow.sequence
    (rows.filter fun row => row.streamId = .text streamId)

/-- `... AND (?2 IS NULL OR sequence<=?2) ORDER BY sequence`. -/
def rowsThrough (rows : List StoredRow) (streamId : String) (through : Option Nat) :
    List StoredRow :=
  letI := store.order
  sortOn StoredRow.sequence ((rows.filter fun row => row.streamId = .text streamId).filter fun row =>
    through.all fun upper : Nat => row.sequence ≤ .integer upper)

/-- `... AND sequence>?2 ORDER BY sequence`. -/
def rowsAfter (rows : List StoredRow) (streamId : String) (after : Nat) : List StoredRow :=
  letI := store.order
  sortOn StoredRow.sequence ((rows.filter fun row => row.streamId = .text streamId).filter fun row =>
    Cell.integer after < row.sequence)

/-- The records of a stream, in the order of their sequence numbers. -/
def loadedRecords (rows : List StoredRow) (streamId : String) :
    Except RowError (List JournalRecord) :=
  (orderedRows store rows streamId).mapM (rowToRecord store)

/-! ## 4. Pages -/

def maxPageSize : Nat := 256

/-- A row that cannot be read is a storage error to every reader but a verification. -/
def rowFailure : RowError → Error
  | .malformed => .storage "a stored provenance row is malformed"
  | .engine => .storage "the storage engine failed"

structure RecordPage where
  records : List JournalRecord
  nextCursor : Option Nat
  deriving DecidableEq

def listEvents (rows : List StoredRow) (streamId : String) (afterSequence : Option Nat)
    (limit : Nat) : Result RecordPage := do
  validateStreamId streamId
  rejectIf (limit = 0 || maxPageSize < limit)
    (.invalidRecord "provenance page limit is out of bounds")
  let after := afterSequence.getD 0
  rejectIf (2 ^ 63 ≤ after) (.invalidRecord "provenance cursor exceeds SQLite range")
  -- the limit of the statement is one more than that of the page
  let records ← (((rowsAfter store rows streamId after).take (limit + 1)).mapM
    (rowToRecord store)).mapError rowFailure
  if limit < records.length then
    return ⟨records.dropLast, records.dropLast.getLast?.map JournalRecord.sequence⟩
  else return ⟨records, none⟩

/-- One page and the cursor of the next. -/
def fetchPage (rows : List StoredRow) (streamId : String) (limit : Nat)
    (afterSequence : Option Nat) : Result (List JournalRecord × Option Nat) :=
  (listEvents store rows streamId afterSequence limit).map fun page =>
    (page.records, page.nextCursor)

/-! ## 5. Verifying -/

def loadRow (row : StoredRow) : Except RowError (JournalRecord × JournalIndex) := do
  let record ← rowToRecord store row
  let index ← journalIndex store row
  return (record, index)

/-- A malformed row is reported, an engine failure ends the verification. -/
def rowReport (v : Verification) (p : Progress) : RowError → Result VerificationResult
  | .malformed => .ok (failure v "PROVENANCE_SCHEMA_INVALID" "stored journal record is malformed"
      none none p.previous)
  | .engine => .error (rowFailure .engine)

def verifyRow (v : Verification) (p : Progress) (row : StoredRow) :
    Except (Result VerificationResult) Progress := do
  let (record, index) ← (loadRow store row).mapError (rowReport v p)
  let computed ← (verifyOneRecord store.toJournalEnv v record p.expectedSequence p.previous
    false).mapError .ok
  rejectIf (!index.matches record.event) (.ok (failure v "PROVENANCE_SCHEMA_INVALID"
    "journal index columns conflict with the hashed event" (some record.sequence)
    (some index.eventId) (some computed)))
  let latest ← (advanceTaskRevision p.latest record.event).mapError fun _ =>
    .ok (failure v "PROVENANCE_SCHEMA_INVALID" "Task revision is discontinuous"
      (some record.sequence) (diagnosticEventId (some index.eventId)) p.previous)
  return ⟨some computed, p.expectedSequence + 1, latest⟩

def verifyRows (v : Verification) :
    Progress → List StoredRow → Except (Result VerificationResult) Progress
  | p, [] => .ok p
  | p, row :: rest => do
      let p ← verifyRow store v p row
      verifyRows v p rest

def verifyStream (rows : List StoredRow) (streamId : String) (through : Option Nat)
    (checkpoint : Option CheckpointExpectation) (verifiedAt : String) :
    Result VerificationResult := do
  validateStreamId streamId
  validateTimestamp store.rfc3339 verifiedAt
  validateCheckpoint checkpoint
  rejectIf (through.any fun upper => 2 ^ 63 ≤ upper)
    (.invalidRecord "verification sequence exceeds SQLite range")
  let v : Verification := ⟨streamId, checkpoint, verifiedAt⟩
  match verifyRows store v .start (rowsThrough store rows streamId through) with
  | .error result => result
  | .ok p => return requireThrough v through (finishVerification v p)

end Store

/-- The verification ran and found the journal valid. -/
def accepts (result : Result VerificationResult) : Bool := result.toOption.any VerificationResult.valid

end Aios.Provenance.Stored
