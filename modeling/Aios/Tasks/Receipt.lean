/-
  File:      Aios/Tasks/Receipt.lean
  Subject:   THE RECEIPT OF A TRANSITION: what is stored under its identity, and the authentication
             of a stored receipt before it is returned again.

  A receipt of a committed transition is checked against the request it stores, against its event in
  the journal, against the journal up to that event and against the Task. A receipt of a rejection
  only has to be a rejection.
-/
import Aios.Tasks.Event

namespace Aios.Tasks

open Lib Json Provenance

variable {σ : Type}

/-! ## 1. Receipts -/

def rejectionReceipt (request : TransitionRequest) (requestJson : String) (result : TransitionResult)
    (resultedAt : String) : Receipt where
  taskId := request.taskId
  expectedRevision := min request.expectedRevision maxI64
  expectedState := request.expectedState
  toState := request.toState
  resultRevision := result.observedRevision.filter (· ≤ maxI64)
  resultState := result.observedState
  outcome := .rejected
  reasonCode := result.reasonCode
  requestJson := requestJson
  result := some result.toJson
  provenanceEventId := none
  requestedAt := resultedAt
  committedAt := some resultedAt

def committedReceipt (request : TransitionRequest) (requestJson : String) (newRevision : Nat)
    (result : TransitionResult) (resultedAt : String) : Receipt where
  taskId := request.taskId
  expectedRevision := min request.expectedRevision maxI64
  expectedState := request.expectedState
  toState := request.toState
  resultRevision := some (min newRevision maxI64)
  resultState := some request.toState
  outcome := .committed
  reasonCode := result.reasonCode
  requestJson := requestJson
  result := some result.toJson
  provenanceEventId := result.provenanceEventId
  requestedAt := resultedAt
  committedAt := some resultedAt

/-- Stores a receipt under a fresh identity. -/
def insertReceipt (store : Store σ) (transitionId : String) (receipt : Receipt) :
    TaskResult (Store σ) := do
  rejectIf (store.receipt? transitionId).isSome
    (.storage "UNIQUE constraint failed: task_transitions.transition_id")
  return store.setReceipt transitionId receipt

def persistRejection (store : Store σ) (request : TransitionRequest) (requestJson : String)
    (result : TransitionResult) (resultedAt : String) : TaskResult (Store σ) :=
  insertReceipt store request.transitionId (rejectionReceipt request requestJson result resultedAt)

/-! ## 2. The journal up to an event -/

section Authentication

variable (env : Env σ) (store : Store σ)

def verifyProvenanceThrough (events : List EventRow) (taskId : String) (through : Option Nat) :
    TaskResult Bool := do
  let stream ← (streamId env.digest taskId).mapError .provenance
  let mismatched := events.any fun row => row.taskId = taskId && row.streamId ≠ stream &&
    through.all fun upper => row.sequence ≤ upper
  if mismatched then return false
  let result ← (verifyStream env.journal events stream through none
    "1970-01-01T00:00:00Z").mapError .provenance
  return result.valid

def provenanceHash (taskId : String) (row : EventRow) : TaskResult String :=
  (hashRecord env.journal (streamIdText env.digest taskId) row.sequence row.previousEventHash
    row.event).mapError .provenance

/-! ## 3. Authentication -/

/-- The state a member of the event names, if it names one. -/
def namedState (value : Option Json) : TaskResult (Option TaskState) :=
  match value.bind Json.asStr with
  | none => .ok none
  | some text => do
      let state ← expect (TaskState.parse text) (.invalidRecord "stored Task state is invalid")
      return some state

/-- The identity of a transition that only the recovery makes. -/
def recoveryIdentity (transitionId : String) : Bool :=
  startsWith transitionId "__aios_internal:startup-recovery:" ||
    startsWith transitionId "__aios_internal:live-recovery:"

/-- Such an identity is internal. -/
theorem internal_of_recoveryIdentity {transitionId : String}
    (h : recoveryIdentity transitionId = true) : startsWith transitionId internalPrefix = true := by
  rcases Bool.or_eq_true _ _ ▸ h with h | h
  · exact startsWith_of_startsWith h (by decide)
  · exact startsWith_of_startsWith h (by decide)

/-- The identity fields of the row and of its event. -/
def eventIdentified (transitionId taskId eventId : String) (row : EventRow) : Bool :=
  row.taskId = taskId && row.eventType = "task.transitioned" &&
    stringField row.event "event_id" = some eventId &&
    stringField row.event "task_id" = some taskId &&
    stringField row.event "timestamp" = some row.timestamp &&
    (pointer row.event ["task_transition", "transition_id"]).bind Json.asStr = some transitionId

/-- The event says what the request asked for. -/
def eventAnswers (nonce : List UInt8) (event : Json) (request : TransitionRequest) : Bool :=
  event.get? "actor" = some request.requestedBy.toJson &&
    (pointer event ["task_transition", "reason_code"]).bind Json.asStr = some request.reason.code &&
    pointer event ["details", "reason_message_ref"] =
      some (reasonMessageRef env.digest nonce request.reason) &&
    pointer event ["details", "related_ids"] = some (encodeTexts request.reason.relatedIds) &&
    pointer event ["details", "mutation_text_commitments", "waiting_on"] =
      some (encodeOption (provenanceWaitingCommitments env.digest nonce) request.mutation.waitingOn) &&
    pointer event ["details", "mutation_text_commitments", "failure_summary"] =
      some (encodeOption (provenanceFailureCommitment env.digest nonce) request.mutation.failure) &&
    event.get? "committed_mutation" = some (committedMutation request.mutation)

/-- Authenticates a committed receipt against the journal. The last statement of the source fills in
    the result of a receipt that has none; such receipts are not written any more. -/
def reconstructCommittedTransition (transitionId taskId : String) (storedRevision : Option Nat)
    (storedState : Option TaskState) (eventId : Option String) : TaskResult Unit := do
  let eventId ← expect eventId
    (.invalidRecord "committed transition without result has no provenance identity")
  let row ← expect (store.core.events.find? fun row => row.eventId = eventId)
    (.invalidRecord "committed transition result cannot be reconstructed from provenance")
  let receipt ← expect (store.receipt? transitionId) (.storage "Query returned no rows")
  let stored ← expect ((env.parseJson receipt.requestJson).bind TransitionRequest.ofJson)
    (.serialization "stored transition request")
  validateTransitionRequest stored (recoveryIdentity stored.transitionId)
  let field := fun key => pointer row.event ["task_transition", key]
  let previousRevision := (field "previous_revision").bind asU64
  let newRevision := (field "new_revision").bind asU64
  let previousState ← namedState (field "previous_state")
  let newState ← namedState (field "new_state")
  let task ← expect (store.task? taskId) (.storage "Query returned no rows")
  rejectIf (task.intentCommitmentNonce.length ≠ 32)
    (.invalidRecord "Task provenance commitment nonce is invalid")
  let computed ← provenanceHash env taskId row
  rejectIf (row.eventHash ≠ computed || !eventIdentified transitionId taskId eventId row ||
      !eventAnswers env task.intentCommitmentNonce row.event stored ||
      stored.transitionId ≠ transitionId || stored.taskId ≠ taskId ||
      previousRevision ≠ some stored.expectedRevision || previousState ≠ some stored.expectedState ||
      newState ≠ some stored.toState || newRevision ≠ storedRevision || newState ≠ storedState ||
      (previousRevision.bind fun n => if n + 1 < 2 ^ 64 then some (n + 1) else none) ≠ newRevision)
    (.invalidRecord "committed transition result conflicts with durable provenance")
  let verified ← verifyProvenanceThrough env store.core.events taskId (some row.sequence)
  rejectIf (!verified) (.invalidRecord "committed transition provenance stream is incomplete")
  rejectIf (task.revision < newRevision.getD (2 ^ 64 - 1))
    (.invalidRecord "committed transition is ahead of its Task")
  let _ ← canonicalJson env stored.toJson
  return ()

/-- The result repeats the columns of its row. -/
def resultMatchesRow (transitionId : String) (receipt : Receipt) (result : TransitionResult) : Bool :=
  result.schemaVersion = schemaVersion && result.transitionId = transitionId &&
    result.taskId = receipt.taskId && result.reasonCode = receipt.reasonCode &&
    result.resultedAt = receipt.committedAt.getD receipt.requestedAt &&
    result.observedRevision = receipt.resultRevision && result.observedState = receipt.resultState

/-- The result repeats the event it points to. -/
def resultMatchesEvent (transitionId eventId : String) (receipt : Receipt) (row : EventRow)
    (result : TransitionResult) : Bool :=
  let field := fun key => pointer row.event ["task_transition", key]
  result.applied && result.reasonCode = "TASK_TRANSITION_APPLIED" &&
    result.previousRevision = some receipt.expectedRevision &&
    result.previousState = some receipt.expectedState &&
    result.currentRevision = receipt.resultRevision &&
    result.currentState = some receipt.toState &&
    result.provenanceEventId = some eventId && result.provenanceEventHash = some row.eventHash &&
    result.resultedAt = row.timestamp &&
    (field "transition_id").bind Json.asStr = some transitionId &&
    (field "previous_revision").bind asU64 = some receipt.expectedRevision &&
    (field "new_revision").bind asU64 = receipt.resultRevision &&
    (field "previous_state").bind Json.asStr = some receipt.expectedState.asStr &&
    (field "new_state").bind Json.asStr = some receipt.toState.asStr

def isRejection (receipt : Receipt) (result : TransitionResult) : Bool :=
  !result.applied && result.previousState.isNone && result.currentState.isNone &&
    result.previousRevision.isNone && result.currentRevision.isNone &&
    result.provenanceEventId.isNone && result.provenanceEventHash.isNone &&
    receipt.provenanceEventId.isNone

/-- The committed part of the authentication. -/
def authenticateCommitted (transitionId : String) (receipt : Receipt) (result : TransitionResult) :
    TaskResult Unit := do
  let eventId ← expect receipt.provenanceEventId
    (.invalidRecord "committed transition result has no provenance identity")
  reconstructCommittedTransition env store transitionId receipt.taskId receipt.resultRevision
    receipt.resultState (some eventId)
  let row ← expect (store.core.events.find? fun row => row.eventId = eventId &&
      row.taskId = receipt.taskId && row.eventType = "task.transitioned")
    (.invalidRecord "committed transition result provenance is missing")
  let conflict := TaskManagerError.invalidRecord
    "stored transition result conflicts with committed provenance"
  rejectIf (!resultMatchesEvent transitionId eventId receipt row result) conflict
  let computed ← provenanceHash env receipt.taskId row
  rejectIf (computed ≠ row.eventHash) conflict
  let verified ← verifyProvenanceThrough env store.core.events receipt.taskId (some row.sequence)
  rejectIf (!verified) conflict

/-- The part of the authentication that depends on the outcome. -/
def authenticateOutcome (transitionId : String) (receipt : Receipt) (result : TransitionResult) :
    TaskResult Unit :=
  match receipt.outcome with
  | .committed => authenticateCommitted env store transitionId receipt result
  | .rejected =>
      rejectIf (!isRejection receipt result)
        (.invalidRecord "stored rejection result conflicts with its durable row")
  | .pending => .error (.invalidRecord "stored transition has no replayable terminal outcome")

def authenticatedTransitionResult (transitionId : String) : TaskResult TransitionResult := do
  let receipt ← expect (store.receipt? transitionId) (.storage "Query returned no rows")
  let value ← expect receipt.result (.invalidRecord "stored transition has no result")
  let result ← expect (TransitionResult.ofJson value) (.serialization "stored transition result")
  rejectIf (!resultMatchesRow transitionId receipt result)
    (.invalidRecord "stored transition result conflicts with its durable row")
  authenticateOutcome env store transitionId receipt result
  return result

end Authentication

end Aios.Tasks
