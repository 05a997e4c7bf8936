/-
  File:      Aios/Tasks/Head.lean
  Subject:   THE HEAD OF A TASK: the Task row read back, the history of the Task folded from its
             journal, and the comparison of the two (`verifyTaskHead`).

  The fold (`replayEvent`) knows only the events of creation and of transition; the row is read with
  its plan and its program as the tables hold them now. Startup and export refuse a Task where the
  two differ.
-/
import Aios.Tasks.Receipt

namespace Aios.Tasks

open Lib Json Provenance TaskState

variable {σ : Type}

/-! ## 1. The history, folded -/

/-- A signed 64-bit integer value. -/
def asI64 : Json → Option Int
  | .num (.posInt n) => if n ≤ maxI64 then some n else none
  | .num (.negInt n) => some n
  | _ => none

/-- What the events of a Task say about it. -/
structure Material where
  revision : Nat
  state : Option TaskState
  creation : Option Json
  activePlan : Option ActivePlan
  activeProgram : Option Json
  activeProgramDigest : Option String
  steps : List String
  waiting : Json
  waitingCommitments : Json
  failure : Option Json
  failureCommitment : Option Json
  recovery : Option Json
  stateReason : Option Json
  reasonMessageRef : Option Json
  updatedAt : Option String
  deriving DecidableEq

def Material.start : Material where
  revision := 0
  state := none
  creation := none
  activePlan := none
  activeProgram := none
  activeProgramDigest := none
  steps := []
  waiting := .arr []
  waitingCommitments := .arr []
  failure := none
  failureCommitment := none
  recovery := none
  stateReason := none
  reasonMessageRef := none
  updatedAt := none

/-- The code of a state and the event it comes from. -/
def reasonRecord (code : Json) (eventId : Option String) : Json := ofFields [
  ("code", some code),
  ("provenance_event_id", some (encodeOption .str eventId))]

def replayCreation (m : Material) (event : Json) : TaskResult Material := do
  let creation ← expect (pointer event ["details", "creation"])
    (.invalidRecord "Task provenance creation payload is missing")
  rejectIf (m.revision ≠ 0 || (pointer event ["details", "revision"]).bind asI64 ≠ some 1 ||
      event.get? "actor" ≠ creation.get? "principal" ||
      event.get? "timestamp" ≠ creation.get? "created_at")
    (.invalidRecord "Task provenance has an invalid creation event")
  let steps ← expect (decodeList asStr ((pointer event ["details", "active_step_ids"]).getD (.arr [])))
    (.serialization "active_step_ids")
  return { m with
    revision := 1
    state := some created
    creation := some creation
    updatedAt := stringField event "timestamp"
    steps := steps
    stateReason := some (reasonRecord (.str "TASK_CREATED") (stringField event "event_id")) }

/-- A member that is there and not `null`. -/
def present (value : Json) (key : String) : Option Json := (value.get? key).filter (· ≠ .null)

/-- The decoded value where there is one, what stood before elsewhere. -/
def replayField {α : Type} (decode : Json → Option α) (name : String) (value : Option Json) (old : α) :
    TaskResult α :=
  match value with
  | none => .ok old
  | some v => expect (decode v) (.serialization name)

/-- A value and the commitments that go with it, both replaced or both kept. -/
def replayCommitted (value commitment : Option Json) (old : Json × Json) (missing : String) :
    TaskResult (Json × Json) :=
  match value with
  | none => .ok old
  | some v => do
      let c ← expect commitment (.invalidRecord missing)
      return (v, c)

/-- The program an event names, without and with the digest of its content. -/
def replayProgram (value : Option Json) (old : Option Json × Option String) :
    TaskResult (Option Json × Option String) :=
  match value with
  | none => .ok old
  | some v => do
      let members ← expect v.asObj
        (.invalidRecord "Task provenance active program is malformed")
      return (some (.obj (removeMember "program_content_digest" members)),
        (v.get? "program_content_digest").bind Json.asStr)

/-- The failure and the commitment to its summary, both replaced or both kept. -/
def replayFailure (value commitment : Option Json) (old : Option Json × Option Json) :
    TaskResult (Option Json × Option Json) :=
  match value with
  | none => .ok old
  | some v => do
      let c ← expect commitment (.invalidRecord "failure summary commitment is missing")
      return (some v, some c)

def replayTransition (m : Material) (event : Json) : TaskResult Material := do
  let field := fun key => pointer event ["task_transition", key]
  let previousState ← namedState (field "previous_state")
  let newState ← namedState (field "new_state")
  rejectIf ((field "previous_revision").bind asI64 ≠ some (m.revision : Int) ||
      (field "new_revision").bind asI64 ≠
        (if m.revision + 1 ≤ maxI64 then some ((m.revision + 1 : Nat) : Int) else none) ||
      previousState ≠ m.state ||
      !(previousState.any fun a => newState.any fun b => allowedTransition a b))
    (.invalidRecord "Task provenance state history is discontinuous")
  let mutation ← expect (event.get? "committed_mutation")
    (.invalidRecord "Task transition provenance has no committed mutation")
  let activePlan ← replayField (fun v => (ActivePlan.ofJson v).map some) "active_plan"
    (present mutation "active_plan") m.activePlan
  let steps ← replayField (decodeList asStr) "active_step_ids" (present mutation "active_step_ids")
    m.steps
  let waiting ← replayCommitted (present mutation "waiting_on")
    (pointer event ["details", "mutation_text_commitments", "waiting_on"])
    (m.waiting, m.waitingCommitments) "waiting message commitments are missing"
  let failure ← replayFailure (present mutation "failure")
    (pointer event ["details", "mutation_text_commitments", "failure_summary"])
    (m.failure, m.failureCommitment)
  let program ← replayProgram ((pointer event ["details", "active_program"]).filter (· ≠ .null))
    (m.activeProgram, m.activeProgramDigest)
  return {
    revision := m.revision + 1
    state := newState
    creation := m.creation
    activePlan := activePlan
    activeProgram := program.1
    activeProgramDigest := program.2
    steps := steps
    waiting := waiting.1
    waitingCommitments := waiting.2
    failure := failure.1
    failureCommitment := failure.2
    recovery := (present mutation "recovery").or m.recovery
    stateReason := some (reasonRecord ((field "reason_code").getD .null) (stringField event "event_id"))
    reasonMessageRef := pointer event ["details", "reason_message_ref"]
    updatedAt := stringField event "timestamp" }

def replayEvent (m : Material) (event : Json) : TaskResult Material :=
  if stringField event "event_type" = some "task.created" then replayCreation m event
  else replayTransition m event

/-- The fold over the events, from the first to the last. -/
def replayEvents : Material → List Json → TaskResult Material
  | m, [] => .ok m
  | m, event :: rest => do
      let m ← replayEvent m event
      replayEvents m rest

theorem replayEvents_append (m : Material) (l r : List Json) :
    replayEvents m (l ++ r) = replayEvents m l >>= fun m => replayEvents m r := by
  induction l generalizing m with
  | nil => rfl
  | cons event l ih =>
      show (replayEvent m event >>= fun m => replayEvents m (l ++ r)) = _
      cases h : replayEvent m event with
      | error e => rw [replayEvents, h]; rfl
      | ok m' =>
          rw [replayEvents, h]
          exact ih m'

/-- The events of the Task that make up its history, in the order of their sequence numbers. -/
def taskHistory (events : List EventRow) (taskId : String) : List Json :=
  (sortOn EventRow.sequence (events.filter fun row => row.taskId = taskId && carriesRevision row)).map
    EventRow.event

/-! ## 2. The row, read back -/

/-- A Task as it is loaded; the artifacts of the Task are in a table of their own, which nothing here
    looks at. -/
structure TaskRecord where
  schemaVersion : String
  taskId : String
  revision : Nat
  state : TaskState
  stateReason : Option Json
  principal : Actor
  workspaceId : Option String
  originalIntent : String
  normalizedIntent : Option Json
  activePlan : Option ActivePlan
  activeProgram : Option Json
  activeStepIds : List String
  activeExecutionBindingIds : List String
  waitingOn : List WaitingOn
  constraints : Option Json
  failure : Option FailureRecord
  recovery : Option Json
  createdAt : String
  updatedAt : String
  completedAt : Option String
  deriving DecidableEq

section Reading

variable (env : Env σ) (core : Core σ)

/-- A stored text, decoded. -/
def decodeOptional : Option String → TaskResult (Option Json)
  | none => .ok none
  | some text => do
      let value ← expect (env.parseJson text) (.serialization "stored value")
      return some value

/-- The plan a pointer of the Task names. -/
def loadActivePlan (taskId : String) (revision : Option Nat) : Option ActivePlan :=
  revision.bind fun n => (core.plans.find? fun r => r.taskId = taskId && r.planRevision = n).map fun r =>
    ⟨r.planId, r.planRevision⟩

/-- The current row of a program revision. -/
def activeProgramRow (taskId : String) (revision : Option Nat) : Option ProgramRow :=
  revision.bind fun n => core.programs.find? fun p => p.taskId = taskId && p.programRevision = n &&
    p.status = "active"

/-- The validation a program row names. -/
def validationOf (p : ProgramRow) : Option ValidationRow :=
  p.validationResultId.bind fun id => core.validations.find? fun v => v.validationResultId = id

def loadActiveProgram (taskId : String) (revision : Option Nat) : TaskResult (Option Json) :=
  match activeProgramRow core taskId revision with
  | none => .ok none
  | some p => do
      let v := validationOf core p
      let semanticHash ← expect p.semanticHash (.storage "Invalid column type Null")
      let registrySnapshotId ← expect p.registrySnapshotId (.storage "Invalid column type Null")
      return some (ofFields [
        ("ir_version", some (.str p.irVersion)),
        ("program_id", some (.str p.programId)),
        ("semantic_hash", some (.str semanticHash)),
        ("registry_snapshot_id", some (.str registrySnapshotId)),
        ("validation_result_id", some (encodeOption .str p.validationResultId)),
        ("validated_at", some (encodeOption .str (v.map ValidationRow.validatedAt))),
        ("validator_id", some (encodeOption .str (v.map ValidationRow.validatorId))),
        ("validator_version", some (encodeOption .str (v.map ValidationRow.validatorVersion)))])

/-- The attempt is under way or about to be, and the latest of its node. -/
def bindingAttempt (b : BindingRow) (s : StepRow) : Bool :=
  s.bindingId = some b.bindingId && s.attemptId = b.attemptId && s.taskId = b.taskId &&
    s.semanticProgramHash = b.semanticProgramHash &&
    s.registrySnapshotId = some b.registrySnapshotId && s.nodeId = b.nodeId &&
    s.state ∈ [StepState.ready, .starting, .running] && isLatestAttempt core s

def currentActiveBindingIds (taskId : String) (revision : Option Nat) (steps : List String) :
    List String :=
  match revision with
  | none => []
  | some n => (sortOn id (steps.filterMap fun nodeId =>
      (core.bindings.find? fun b => b.taskId = taskId && b.nodeId = nodeId &&
        core.steps.any (bindingAttempt core b) &&
        core.programs.any fun p => p.taskId = b.taskId && p.programRevision = n &&
          p.semanticHash = some b.semanticProgramHash &&
          p.registrySnapshotId = some b.registrySnapshotId).map BindingRow.bindingId)).dedup

def loadTask (taskId : String) (row : TaskRow) : TaskResult TaskRecord := do
  let activeProgram ← loadActiveProgram core taskId row.activeProgramRevision
  let normalizedIntent ← decodeOptional env row.normalizedIntent
  let constraints ← decodeOptional env row.constraints
  return {
    schemaVersion := schemaVersion
    taskId := taskId
    revision := row.revision
    state := row.state
    stateReason := row.stateReason
    principal := row.principal
    workspaceId := row.workspaceId
    originalIntent := row.originalIntent
    normalizedIntent := normalizedIntent
    activePlan := loadActivePlan core taskId row.activePlanRevision
    activeProgram := activeProgram
    activeStepIds := row.activeStepIds
    activeExecutionBindingIds := currentActiveBindingIds core taskId row.activeProgramRevision
      row.activeStepIds
    waitingOn := row.waitingOn
    constraints := constraints
    failure := row.failure
    recovery := row.recovery.map RecoveryMutation.toJson
    createdAt := row.createdAt
    updatedAt := row.updatedAt
    completedAt := row.completedAt }

def getTask (taskId : String) : TaskResult (Option TaskRecord) :=
  match core.tasks[taskId]? with
  | none => .ok none
  | some row => do
      let task ← loadTask env core taskId row
      return some task

/-! ## 3. The comparison -/

/-- The commitment to the normalized intent as it is read back. -/
def normalizedIntentRef (nonce : List UInt8) (normalizedIntent : Option Json) :
    TaskResult (Option Json) :=
  match normalizedIntent with
  | none => .ok none
  | some value => do
      let text ← canonicalJson env value
      return some (taskFieldCommitment env.digest nonce "normalized_intent" text)

/-- What the creation event must have said. -/
def expectedCreation (nonce : List UInt8) (task : TaskRecord) (normalized : Option Json) : Json :=
  ofFields [
    ("principal", some task.principal.toJson),
    ("workspace_id", some (encodeOption .str task.workspaceId)),
    ("original_intent_ref",
      some (taskFieldCommitment env.digest nonce "original_intent" task.originalIntent)),
    ("normalized_intent_ref", some (normalized.getD .null)),
    ("constraints", some (task.constraints.getD .null)),
    ("created_at", some (.str task.createdAt))]

/-- The digest of the active program as it is stored. -/
def storedProgramDigest (taskId : String) (revision : Option Nat) : TaskResult (Option String) :=
  match activeProgramRow core taskId revision with
  | none => .ok none
  | some p => do
      let digest ← programContentDigest env p.programJson
      return some digest

/-- The stored reason without its message. -/
def reasonWithoutMessage (reason : Json) : Json := ofFields [
  ("code", some ((reason.get? "code").getD .null)),
  ("provenance_event_id", some ((reason.get? "provenance_event_id").getD .null))]

def expectedReasonMessageRef (nonce : List UInt8) (reason : Json) : Option Json :=
  (reason.get? "message").map fun message =>
    (message.asStr.map (taskFieldCommitment env.digest nonce "reason_message")).getD .null

/-- The row says what the history says. -/
def materialMatches (nonce : List UInt8) (task : TaskRecord) (normalized : Option Json)
    (programDigest : Option String) (m : Material) : Bool :=
  m.creation = some (expectedCreation env nonce task normalized) &&
    task.updatedAt = m.updatedAt.getD "" &&
    task.completedAt = (if m.state = some completed then m.updatedAt else none) &&
    task.activePlan = m.activePlan && task.activeProgram = m.activeProgram &&
    programDigest = m.activeProgramDigest && task.activeStepIds = m.steps &&
    provenanceWaitingOn task.waitingOn = m.waiting &&
    provenanceWaitingCommitments env.digest nonce task.waitingOn = m.waitingCommitments &&
    task.failure.map provenanceFailure = m.failure &&
    task.failure.map (provenanceFailureCommitment env.digest nonce) = m.failureCommitment &&
    task.recovery = m.recovery && task.stateReason.map reasonWithoutMessage = m.stateReason &&
    task.stateReason.bind (expectedReasonMessageRef env nonce) = m.reasonMessageRef

def verifyTaskHead (taskId : String) (revision : Nat) (state : TaskState) : TaskResult Unit := do
  let verified ← verifyProvenanceThrough env core.events taskId none
  rejectIf (!verified) (.invalidRecord "Task provenance chain is missing or invalid")
  let m ← replayEvents .start (taskHistory core.events taskId)
  rejectIf (m.revision ≠ revision || m.state ≠ some state)
    (.invalidRecord "Task state does not match provenance head")
  let found ← getTask env core taskId
  let task ← expect found
    (.invalidRecord "provenance-backed Task disappeared during startup verification")
  let row ← expect core.tasks[taskId]? (.storage "Query returned no rows")
  let nonce := row.intentCommitmentNonce
  rejectIf (nonce.length ≠ 32) (.invalidRecord "Task intent commitment nonce is invalid")
  let normalized ← normalizedIntentRef env nonce task.normalizedIntent
  let programDigest ← storedProgramDigest env core taskId row.activeProgramRevision
  rejectIf (!materialMatches env nonce task normalized programDigest m)
    (.invalidRecord "Task security state does not match committed provenance")

end Reading

end Aios.Tasks
