/-
  File:      Aios/Tasks/Transition.lean
  Subject:   ONE TRANSITION, transaction by transaction.

  A call goes through phases, each of them at most one transaction of the store: the trusted time of
  a start, the transition itself, the locked time sample of a transition that was not committed, and
  the rejection of a start whose steps were refused. Whatever happens between two phases happens to
  the store. A transaction that fails leaves the store as it was; a failure of the storage engine is
  an input (`Fault`), so everything it may refuse (foreign keys, triggers, the disk) is covered.
-/
import Aios.Tasks.Guard
import Aios.Tasks.Receipt

namespace Aios.Tasks

open Lib Json Provenance TaskState

variable {σ : Type}

/-! ## 1. Calls -/

/-- A call of the transition by the manager that holds this lease. -/
structure Call where
  lease : Lease
  request : TransitionRequest
  internalRecovery : Bool
  initialAdmission : Option InitialProgramAdmission
  deriving DecidableEq

/-- What the clocks show during a phase. -/
structure Reading where
  now : String
  sample : Option SecurityClockSample
  deriving DecidableEq, Repr

/-- A failure of the storage engine, before or after the locked sample is taken. -/
inductive Fault where
  | early (error : TaskManagerError)
  | late (error : TaskManagerError)
  deriving DecidableEq, Repr

def Fault.error : Fault → TaskManagerError
  | .early e => e
  | .late e => e

/-- What a transaction ends in, apart from an error. -/
inductive Ending (σ : Type) where
  /-- The transaction is committed. -/
  | committed (store : Store σ) (result : TransitionResult)
  /-- The result is returned and nothing is committed. -/
  | answered (result : TransitionResult)
  /-- The transaction is rolled back; the rejection gets one of its own. -/
  | startRefused (result : TransitionResult)

/-! ## 2. Applying a transition -/

section Apply

variable (env : Env σ)

/-- The locked sample, if there is one, goes into the transaction and must be trusted. -/
def recordLocked (store : Store σ) : Option LockedTimeObservation → TaskResult (Store σ)
  | none => .ok store
  | some fresh => do
      let (clock, assessment) ← fresh.commitIn env.time store.clock
      let _ ← assessment.requireTrustedTime env.time
      return { store with clock := clock }

def admissionRejected : TaskManagerError :=
  .invalidRecord "initial semantic program admission is not admissible"

/-- The documents an admission names, as its request lists them. -/
def admissionRefs (admission : InitialProgramAdmission) : List String :=
  ["program-raw:" ++ admission.programDigest, "plan-raw:" ++ admission.planDigest,
    "registry:" ++ admission.registrySnapshotId]

def validationResultId (digest : Digest) (transitionId : String) : String :=
  "validation:" ++ digest.tagged "AIOS-INITIAL-VALIDATION-ID\x00v1\x00".toUTF8.toList
    transitionId.toUTF8.toList

/-- A key of the three tables is already taken. -/
def admissionKeyTaken (core : Core σ) (taskId validationId : String) : Bool :=
  (core.plans.any fun p => p.taskId = taskId && p.planRevision = 1) ||
    (core.programs.any fun p => p.taskId = taskId && p.programRevision = 1) ||
    core.validations.any fun v => v.validationResultId = validationId

/-- The rows of an admitted program: its plan, its validation, itself. -/
def admissionRows (digest : Digest) (core : Core σ) (request : TransitionRequest)
    (admission : InitialProgramAdmission) (program : ValidatedProgram) (plan : ActivePlan)
    (committedAt : String) : Core σ :=
  let validationId := validationResultId digest request.transitionId
  { core with
    plans := core.plans ++
      [⟨request.taskId, 1, plan.planId, admission.planJson, committedAt, none⟩]
    validations := core.validations ++ [⟨validationId, request.taskId, program.programId, "0.1", true,
      program.semanticHash, admission.registrySnapshotId, program.validatorId,
      program.validatorVersion, program.validatorBuildHash, program.result, program.validatedAt⟩]
    programs := core.programs ++ [⟨request.taskId, 1, program.programId, "0.1",
      some program.semanticHash, some admission.registrySnapshotId, some validationId, "active",
      admission.programJson, some 1, committedAt, none⟩] }

def persistInitialProgramAdmissionIn (store : Store σ) (request : TransitionRequest)
    (admission : InitialProgramAdmission) (committedAt : String) : TaskResult (Store σ) := do
  rejectIf (request.expectedState ≠ created || request.toState ≠ planning ||
      request.expectedRevision ≠ 1 || request.reason.code ≠ "PROGRAM_ADMITTED" ||
      request.reason.relatedIds ≠ admissionRefs admission) admissionRejected
  let program ← env.reads.validateInitialProgram store admission committedAt
  rejectIf (program.registrySnapshotId ≠ some admission.registrySnapshotId ||
      program.irVersion ≠ some "0.1" || request.mutation.activeStepIds ≠ some [program.nodeId])
    admissionRejected
  let plan ← expect request.mutation.activePlan admissionRejected
  rejectIf (plan.revision ≠ 1) admissionRejected
  rejectIf (admissionKeyTaken store.core request.taskId
      (validationResultId env.digest request.transitionId))
    (.storage "UNIQUE constraint failed")
  let task ← expect ((store.task? request.taskId).filter fun t => t.revision = 1 &&
      t.state = created && t.activeProgramRevision.isNone && t.activePlanRevision.isNone)
    admissionRejected
  let core := admissionRows env.digest store.core request admission program plan committedAt
  return ({ store with core := core }).setTask request.taskId
    { task with activeProgramRevision := some 1 }

/-- The admission, if the transition carries one, and the program that is active afterwards. -/
def persistAdmission (store : Store σ) (call : Call) (task : TaskRow) (resultedAt : String) :
    TaskResult (Store σ × Option Nat) :=
  match call.initialAdmission with
  | none => .ok (store, task.activeProgramRevision)
  | some admission => do
      let store ← persistInitialProgramAdmissionIn env store call.request admission resultedAt
      return (store, some 1)

def stateReasonJson (reason : TransitionReason) (eventId : String) : Json := ofFields [
  ("code", some (.str reason.code)),
  ("message", some (encodeOption .str reason.message)),
  ("provenance_event_id", some (.str eventId))]

/-- The Task row after the transition. -/
def TaskRow.apply (current task : TaskRow) (request : TransitionRequest) (eventId resultedAt : String) :
    TaskRow :=
  { current with
    revision := task.revision + 1
    state := request.toState
    stateReason := some (stateReasonJson request.reason eventId)
    activeStepIds := request.mutation.activeStepIds.getD task.activeStepIds
    waitingOn := request.mutation.waitingOn.getD task.waitingOn
    failure := request.mutation.failure.or task.failure
    recovery := request.mutation.recovery.or current.recovery
    updatedAt := resultedAt
    completedAt := if request.toState = completed then some resultedAt else current.completedAt }

/-- A cancelled Task keeps no active grant. -/
def revokeGrants (store : Store σ) (taskId resultedAt : String) : Store σ :=
  let grants := store.core.grants.map fun g =>
    if g.taskId = taskId && g.state = .active then
      { g with
        state := .revoked
        revokedAt := some resultedAt
        revocationReasonCode := some "AUTH_GRANT_REVOKED" }
    else g
  { store with core := { store.core with grants := grants } }

/-- The active plan moves to the one the request names, which must exist. -/
def activatePlan (store : Store σ) (taskId : String) : Option ActivePlan → TaskResult (Store σ)
  | none => .ok store
  | some plan => do
      rejectIf (maxI64 < plan.revision)
        (.invalidRecord "active plan revision exceeds SQLite range")
      let missing := TaskManagerError.invalidRecord
        "active plan mutation does not reference a persisted plan"
      rejectIf (!store.core.plans.any fun r => r.taskId = taskId && r.planRevision = plan.revision &&
        r.planId = plan.planId) missing
      let task ← expect (store.task? taskId) missing
      return store.setTask taskId { task with activePlanRevision := some plan.revision }

/-- The rest of a transition once its event is in the journal. -/
def finishTransition (store : Store σ) (call : Call) (task : TaskRow) (requestJson resultedAt : String)
    (locked : Option LockedTimeObservation) (row : EventRow) : TaskResult (Ending σ) := do
  let request := call.request
  rejectIf (maxI64 < task.revision + 1) (.invalidRecord "Task revision exceeds SQLite range")
  match (store.task? request.taskId).filter fun t =>
      t.revision = task.revision && t.state = task.state with
  | none => return .answered (rejected request "TASK_REVISION_CONFLICT"
      (some (task.state, task.revision)) resultedAt)
  | some current => do
      let store := store.setTask request.taskId (current.apply task request row.eventId resultedAt)
      let store := if request.toState = cancelled then
        revokeGrants store request.taskId resultedAt else store
      let store ← activatePlan store request.taskId request.mutation.activePlan
      let result := applied request task.revision (task.revision + 1) task.state row.eventId
        row.eventHash resultedAt
      let store ← insertReceipt store request.transitionId
        (committedReceipt request requestJson (task.revision + 1) result resultedAt)
      let store ← recordLocked env store locked
      return .committed store result

def applyTransition (store : Store σ) (call : Call) (task : TaskRow) (requestJson resultedAt : String)
    (locked : Option LockedTimeObservation) : TaskResult (Ending σ) := do
  let request := call.request
  let (store, activeProgram) ← persistAdmission env store call task resultedAt
  let program ← activeProgramEvent env store.core request.taskId activeProgram
  rejectIf (task.intentCommitmentNonce.length ≠ 32)
    (.invalidRecord "Task provenance commitment nonce is invalid")
  let event := transitionEvent env.digest task.intentCommitmentNonce request task.revision task.state
    program resultedAt
  let (store, row) ← appendEvent env store request.taskId event
  finishTransition env store call task requestJson resultedAt locked row

/-! ## 3. The transition -/

/-- Persists a rejection, with the locked sample, and commits. -/
def commitRejection (store : Store σ) (request : TransitionRequest) (requestJson code : String)
    (observed : Option (TaskState × Nat)) (resultedAt : String)
    (locked : Option LockedTimeObservation) : TaskResult (Ending σ) := do
  let result := rejected request code observed resultedAt
  let store ← persistRejection store request requestJson result resultedAt
  let store ← recordLocked env store locked
  return .committed store result

/-- Why the request is rejected, if it is: the revision, the state, the graph, the guard. -/
def rejection (store : Store σ) (call : Call) (task : TaskRow) (resultedAt : String) :
    TaskResult (Option String) :=
  let request := call.request
  if request.expectedRevision ≠ task.revision then .ok (some "TASK_REVISION_CONFLICT")
  else if request.expectedState ≠ task.state then .ok (some "TASK_STATE_CONFLICT")
  else if task.state.terminal && !(task.state = failed && request.toState = rollingBack) then
    .ok (some "TASK_TERMINAL_STATE")
  else if !allowedTransition task.state request.toState then .ok (some "TASK_ILLEGAL_TRANSITION")
  else guardFailure env store request task resultedAt call.internalRecovery

/-- What the start of the steps ends in. -/
inductive StartGate (σ : Type) where
  | passed (store : Store σ)
  /-- The store with the time, the clock session and the latches of the denial. -/
  | denied (store : Store σ)
  | refused

/-- The gate of a transition to RUNNING: the grants of the coordinator, then the steps. -/
def startGate (store : Store σ) (call : Call) (task : TaskRow) (resultedAt : String)
    (locked : Option LockedTimeObservation) : TaskResult (StartGate σ) := do
  let fresh ← expect locked timeUncertain
  let (clock, time) ← fresh.commitContextIn env.time store.clock
  let (store, valid) ← readyCoordinatorGrantsValidIn env { store with clock := clock }
    call.request.taskId task.activeStepIds call.lease time
  if !valid then return .denied store
  let admitted ← admitActiveSteps env store call.request.taskId task.activeStepIds resultedAt
  return admitted.elim .refused .passed

/-- A start that passed, was denied or was refused. -/
def afterGate (call : Call) (task : TaskRow) (requestJson resultedAt : String)
    (locked : Option LockedTimeObservation) : StartGate σ → TaskResult (Ending σ)
  | .passed store => applyTransition env store call task requestJson resultedAt locked
  | .denied store =>
      -- the sample is already in the transaction
      commitRejection env store call.request requestJson "TASK_TRANSITION_GUARD_FAILED"
        (some (task.state, task.revision)) resultedAt none
  | .refused => .ok (.startRefused (rejected call.request "TASK_TRANSITION_GUARD_FAILED"
      (some (task.state, task.revision)) resultedAt))

/-- A request without a receipt, for a Task that exists. -/
def transitionTask (store : Store σ) (call : Call) (task : TaskRow) (requestJson resultedAt : String)
    (locked : Option LockedTimeObservation) : TaskResult (Ending σ) := do
  match ← rejection env store call task resultedAt with
  | some code =>
      commitRejection env store call.request requestJson code (some (task.state, task.revision))
        resultedAt locked
  | none => do
      rejectIf (2 ^ 64 ≤ task.revision + 1) (.invalidRecord "Task revision overflow")
      if call.request.toState = running then
        let gate ← startGate env store call task resultedAt locked
        afterGate env call task requestJson resultedAt locked gate
      else applyTransition env store call task requestJson resultedAt locked

/-- A request whose identity has a receipt. -/
def replay (store : Store σ) (request : TransitionRequest) (requestJson resultedAt : String)
    (receipt : Receipt) : TaskResult (Ending σ) :=
  if receipt.requestJson = requestJson then do
    let result ← authenticatedTransitionResult env store request.transitionId
    return .answered result
  else .ok (.answered (rejected request "TASK_TRANSITION_ID_REUSE_CONFLICT"
    ((store.task? request.taskId).map fun t => (t.state, t.revision)) resultedAt))

def transition (store : Store σ) (call : Call) (requestJson resultedAt : String)
    (locked : Option LockedTimeObservation) : TaskResult (Ending σ) := do
  assertManagerLease store call.lease
  match store.receipt? call.request.transitionId with
  | some receipt => replay env store call.request requestJson resultedAt receipt
  | none =>
      match store.task? call.request.taskId with
      | none =>
          commitRejection env store call.request requestJson "TASK_NOT_FOUND" none resultedAt locked
      | some task => transitionTask env store call task requestJson resultedAt locked

end Apply

/-! ## 4. Phases -/

/-- What follows once the locked sample is recorded. -/
inductive Continuation where
  | answer (outcome : TaskResult TransitionResult)
  | reject (requestJson resultedAt : String) (result : TransitionResult)

inductive Phase where
  | start
  /-- A start assesses the trusted time first. -/
  | assess
  | main (requestJson resultedAt : String)
  | observe (sample : Option SecurityClockSample) (next : Continuation)
  | reject (requestJson resultedAt : String) (result : TransitionResult)
  | done (outcome : TaskResult TransitionResult)

def Continuation.phase : Continuation → Phase
  | .answer outcome => .done outcome
  | .reject requestJson resultedAt result => .reject requestJson resultedAt result

/-- What was not committed goes on at once, or after its locked sample is recorded. -/
def settle (store : Store σ) (locked : Option LockedTimeObservation) (next : Continuation) :
    Store σ × Phase :=
  (store, locked.elim next.phase fun fresh => .observe fresh.sample next)

section Phases

variable (env : Env σ) (call : Call) (reading : Reading) (fault : Option Fault)

/-- A transaction that the storage engine may fail. -/
def faulty {α : Type} (fault : Option Fault) (body : TaskResult α) : TaskResult α :=
  match fault with
  | none => body
  | some f => .error f.error

def startPhase : Phase :=
  match validateTransitionRequest call.request call.internalRecovery with
  | .error e => .done (.error e)
  | .ok () =>
      if call.request.toState = running then .assess
      else match canonicalJson env call.request.toJson with
        | .error e => .done (.error e)
        | .ok requestJson => .main requestJson reading.now

/-- The phase after the assessment of the time. -/
def assessed (assessment : TimeAssessment) : Phase :=
  match (do
    let now ← assessment.requireTrustedTime env.time
    let requestJson ← canonicalJson env call.request.toJson
    return (requestJson, now) : TaskResult (String × String)) with
  | .error e => .done (.error e)
  | .ok (requestJson, now) => .main requestJson now

def assessPhase (store : Store σ) : Store σ × Phase :=
  match faulty fault (do
    rejectIf (!store.core.pendingMarkers.isEmpty) timeUncertain
    applySampleInTransaction env.time store.clock reading.sample) with
  | .error e => (store, .done (.error e))
  | .ok (clock, assessment) => ({ store with clock := clock }, assessed env call assessment)

/-- The sample a start takes under the lock, and its time. -/
def lockedStart (store : Store σ) : TaskResult LockedTimeObservation :=
  captureLocked env.time store.clock store.core.pendingMarkers reading.sample

/-- The phase after the main transaction: its result, or the locked sample first. -/
def afterMain (store : Store σ) (requestJson resultedAt : String)
    (locked : Option LockedTimeObservation) (ending : TaskResult (Ending σ)) : Store σ × Phase :=
  match ending with
  | .error e => settle store locked (.answer (.error e))
  | .ok (.committed after result) => (after, .done (.ok result))
  | .ok (.answered result) => settle store locked (.answer (.ok result))
  | .ok (.startRefused result) => settle store locked (.reject requestJson resultedAt result)

/-- The main transaction once the locked sample is taken. -/
def lockedMain (store : Store σ) (requestJson : String) (fresh : LockedTimeObservation) :
    Store σ × Phase :=
  match fresh.requireTrustedTime env.time with
  | .error e => (store, .observe fresh.sample (.answer (.error e)))
  | .ok now => afterMain store requestJson now (some fresh)
      (faulty fault (transition env store call requestJson now (some fresh)))

def mainPhase (store : Store σ) (requestJson resultedAt : String) : Store σ × Phase :=
  match fault with
  | some (.early e) => (store, .done (.error e))
  | _ =>
      if call.request.toState = running then
        match lockedStart env reading store with
        | .error e => (store, .done (.error e))
        | .ok fresh => lockedMain env call fault store requestJson fresh
      else afterMain store requestJson resultedAt none
        (faulty fault (transition env store call requestJson resultedAt none))

def observePhase (store : Store σ) (sample : Option SecurityClockSample) (next : Continuation) :
    Store σ × Phase :=
  match faulty fault (applySampleInTransaction env.time store.clock sample) with
  | .error e => (store, .done (.error e))
  | .ok (clock, _) => ({ store with clock := clock }, next.phase)

def rejectPhase (store : Store σ) (requestJson resultedAt : String) (result : TransitionResult) :
    Store σ × Phase :=
  match faulty fault (do
    assertManagerLease store call.lease
    persistRejection store call.request requestJson result resultedAt) with
  | .error e => (store, .done (.error e))
  | .ok store => (store, .done (.ok result))

/-- One phase of a call. -/
def advance (store : Store σ) : Phase → Store σ × Phase
  | .start => (store, startPhase env call reading)
  | .assess => assessPhase env call reading fault store
  | .main requestJson resultedAt => mainPhase env call reading fault store requestJson resultedAt
  | .observe sample next => observePhase env fault store sample next
  | .reject requestJson resultedAt result => rejectPhase call fault store requestJson resultedAt result
  | .done outcome => (store, .done outcome)

end Phases

end Aios.Tasks
