/-
  File:      Aios/Tasks/System.lean
  Subject:   THE SYSTEM: a store, the calls in flight, and everything that may happen next.

  Any number of callers, each with its own lease, create Tasks, send transitions through one of the
  entries of the Task Manager and have their phases advanced in any order; calls vanish in a crash at
  any point; any other operation may change everything but the Tasks and the receipts, and adds to
  the journal by appending only.
-/
import Aios.Tasks.Effect

namespace Aios.Tasks

open Lib Json Provenance TaskState

variable {σ : Type}

/-! ## 1. Creating a Task -/

def constraintValid (rfc3339 : String → Option Int) (field : String × Json) : Bool :=
  match field with
  | ("privacy", .str s) => s ∈ ["local-only", "local-first", "remote-allowed"]
  | ("max_cost_microunits", .null) => true
  | ("max_cost_microunits", value) => (asU64 value).any fun cost => cost ≤ maxSafeJsonInteger
  | ("deadline", .null) => true
  | ("deadline", .str s) => (rfc3339 s).isSome
  | ("preserve_inputs", .bool _) => true
  | _ => false

def validateTaskCreationConstraints (rfc3339 : String → Option Int) (constraints : Option Json) :
    TaskResult Unit :=
  match constraints with
  | none => .ok ()
  | some value => do
      let invalid := TaskManagerError.invalidRecord "invalid Task creation constraints"
      let fields ← expect value.asObj invalid
      rejectIf (!fields.all (constraintValid rfc3339)) invalid

def validCreateTask (request : CreateTask) : Bool :=
  !request.taskId.isEmpty && request.taskId.length ≤ 256 && !request.originalIntent.isEmpty &&
    request.originalIntent.length ≤ 65536 && !request.principal.id.isEmpty &&
    request.principal.id.length ≤ 256 &&
    (request.principal.kind = "user" || request.principal.kind = "system-service") &&
    (request.workspaceId.all fun id => !id.isEmpty && id.length ≤ 256) &&
    (request.normalizedIntent.all fun value => value.asObj.isSome) &&
    request.activeStepIds.length ≤ 512 && request.activeStepIds.Nodup &&
    request.activeStepIds.all fun id => !id.isEmpty && id.length ≤ 128

/-- 32 random bytes. -/
abbrev Nonce := { bytes : List UInt8 // bytes.length = 32 }

/-- The row of a new Task. -/
def createdRow (env : Env σ) (request : CreateTask) (constraints : Option String) (nonce : Nonce)
    (createdAt eventId : String) : TaskRow where
  revision := 1
  state := created
  stateReason := some (ofFields [("code", some (.str "TASK_CREATED")),
    ("provenance_event_id", some (.str eventId))])
  principal := request.principal
  workspaceId := request.workspaceId
  originalIntent := request.originalIntent
  normalizedIntent := request.normalizedIntent.map env.printJson
  intentCommitmentNonce := nonce.val
  activePlanRevision := none
  activeProgramRevision := none
  activeStepIds := request.activeStepIds
  waitingOn := []
  constraints := constraints
  failure := none
  recovery := none
  createdAt := createdAt
  updatedAt := createdAt
  completedAt := none

/-- The canonical text of an optional value. -/
def canonicalOption (env : Env σ) : Option Json → TaskResult (Option String)
  | none => .ok none
  | some value => do
      let text ← canonicalJson env value
      return some text

def createTaskWithConstraints (env : Env σ) (store : Store σ) (lease : Lease) (request : CreateTask)
    (constraints : Option Json) (nonce : Nonce) (createdAt : String) : TaskResult (Store σ) := do
  validateTaskCreationConstraints env.journal.rfc3339 constraints
  rejectIf (!validCreateTask request) (.invalidRecord "invalid Task creation record")
  assertManagerLease store lease
  let normalized ← canonicalOption env request.normalizedIntent
  let normalizedRef := normalized.map (taskFieldCommitment env.digest nonce.val "normalized_intent")
  let constraintsJson ← canonicalOption env constraints
  rejectIf (store.task? request.taskId).isSome
    (.storage "UNIQUE constraint failed: tasks.task_id")
  let event := taskCreatedEvent env.digest nonce.val request normalizedRef constraints createdAt
  let (store, row) ← appendEvent env store request.taskId event
  return store.setTask request.taskId
    (createdRow env request constraintsJson nonce createdAt row.eventId)

/-! ## 2. Entries -/

def recoveryTransitionId (digest : Digest) (start domain taskId : String) (revision : Nat) : String :=
  start ++ digest.tagged domain.toUTF8.toList (taskId.toUTF8.toList ++ u64Bytes revision)

def startupRecoveryTransitionId (digest : Digest) (taskId : String) (revision : Nat) : String :=
  recoveryTransitionId digest "__aios_internal:startup-recovery:"
    "AIOS-STARTUP-RECOVERY-TRANSITION\x00v0.1\x00" taskId revision

def liveRecoveryTransitionId (digest : Digest) (taskId : String) (revision : Nat) : String :=
  recoveryTransitionId digest "__aios_internal:live-recovery:"
    "AIOS-LIVE-RECOVERY-TRANSITION\x00v0.1\x00" taskId revision

/-- What the recovery knows of the Task it moves. -/
structure RecoverySubject where
  taskId : String
  revision : Nat
  state : TaskState
  recoveryRef : String
  deriving DecidableEq, Repr

def recoveryRequest (transitionId message : String) (subject : RecoverySubject) :
    TransitionRequest where
  schemaVersion := schemaVersion
  transitionId := transitionId
  taskId := subject.taskId
  expectedRevision := subject.revision
  expectedState := subject.state
  toState := recovering
  requestedBy := ⟨"system-service", "service:recovery"⟩
  reason := ⟨"TASK_RECOVERY_REQUIRED", some message, [subject.recoveryRef]⟩
  mutation := { TaskMutation.default with recovery := some ⟨[], some subject.recoveryRef, none⟩ }

/-- The request an initial program is admitted with. -/
def admissionRequest (transitionId taskId : String) (expectedRevision : Nat) (planId nodeId : String)
    (admission : InitialProgramAdmission) : TransitionRequest where
  schemaVersion := schemaVersion
  transitionId := transitionId
  taskId := taskId
  expectedRevision := expectedRevision
  expectedState := created
  toState := planning
  requestedBy := ⟨"system-service", "aiosd.coordinator"⟩
  reason := ⟨"PROGRAM_ADMITTED", none, admissionRefs admission⟩
  mutation := { TaskMutation.default with
    activePlan := some ⟨planId, 1⟩
    activeStepIds := some [nodeId] }

/-- How a transition enters the Task Manager. -/
inductive Entry where
  /-- `transition`, also with the request of a startup that replans. -/
  | transition (request : TransitionRequest)
  | admitInitialSemanticProgram (transitionId taskId : String) (expectedRevision : Nat)
      (planId nodeId : String) (admission : InitialProgramAdmission)
  | recoverStartup (subject : RecoverySubject)
  | reconcileLiveExecution (subject : RecoverySubject)

/-- The two entries of the recovery. -/
def Entry.recovery : Entry → Bool
  | .recoverStartup _ | .reconcileLiveExecution _ => true
  | _ => false

def Entry.call (digest : Digest) (lease : Lease) : Entry → Call
  | .transition request => ⟨lease, request, false, none⟩
  | .admitInitialSemanticProgram transitionId taskId expectedRevision planId nodeId admission =>
      ⟨lease, admissionRequest transitionId taskId expectedRevision planId nodeId admission, false,
        some admission⟩
  | .recoverStartup subject =>
      ⟨lease, recoveryRequest (startupRecoveryTransitionId digest subject.taskId subject.revision)
        "startup found an uncertain in-flight Task" subject, true, none⟩
  | .reconcileLiveExecution subject =>
      ⟨lease, recoveryRequest (liveRecoveryTransitionId digest subject.taskId subject.revision)
        "trusted live reconciliation found uncertain execution" subject, true, none⟩

/-- Only the recovery calls with the internal flag. -/
theorem Entry.internal_iff (digest : Digest) (lease : Lease) (entry : Entry) :
    (entry.call digest lease).internalRecovery = entry.recovery := by
  cases entry <;> rfl

/-- An internal call has the identity of a recovery. -/
theorem Entry.recoveryIdentity {digest : Digest} {lease : Lease} {entry : Entry}
    (h : entry.recovery = true) :
    recoveryIdentity (entry.call digest lease).request.transitionId = true := by
  unfold Tasks.recoveryIdentity
  cases entry with
  | recoverStartup subject =>
      rw [Bool.or_eq_true]
      exact .inl (startsWith_append _ _)
  | reconcileLiveExecution subject =>
      rw [Bool.or_eq_true]
      exact .inr (startsWith_append _ _)
  | _ => cases h

/-! ## 3. Runs -/

/-- A call in flight. The last two fields only record: what was stored under its identity when it was
    sent, and the store before and after each of its own phases. -/
structure Flight (σ : Type) where
  entry : Entry
  lease : Lease
  phase : Phase
  sent : Option Receipt
  trail : List (Store σ × Store σ)

def Flight.call (digest : Digest) (flight : Flight σ) : Call := flight.entry.call digest flight.lease

structure System (σ : Type) where
  store : Store σ
  flights : List (Flight σ)

/-- A call that is just sent. -/
def sendFlight (digest : Digest) (store : Store σ) (lease : Lease) (entry : Entry) : Flight σ where
  entry := entry
  lease := lease
  phase := .start
  sent := store.receipt? (entry.call digest lease).request.transitionId
  trail := []

/-- The store and the flight after one more phase. -/
def advanceFlight (env : Env σ) (reading : Reading) (fault : Option Fault) (store : Store σ)
    (flight : Flight σ) : Store σ × Flight σ :=
  let next := advance env (flight.call env.digest) reading fault store flight.phase
  (next.1, { flight with phase := next.2, trail := flight.trail ++ [(store, next.1)] })

def Phase.finished : Phase → Bool
  | .done _ => true
  | _ => false

inductive Step (env : Env σ) : System σ → System σ → Prop where
  | create {s : System σ} {store : Store σ} (lease : Lease) (request : CreateTask)
      (constraints : Option Json) (nonce : Nonce) (createdAt : String) :
      createTaskWithConstraints env s.store lease request constraints nonce createdAt = .ok store →
      Step env s { s with store := store }
  | send (s : System σ) (lease : Lease) (entry : Entry) :
      Step env s { s with flights := s.flights ++ [sendFlight env.digest s.store lease entry] }
  | advance {s : System σ} {left right : List (Flight σ)} {flight : Flight σ} (reading : Reading)
      (fault : Option Fault) :
      s.flights = left ++ flight :: right → flight.phase.finished = false →
      Step env s ⟨(advanceFlight env reading fault s.store flight).1,
        left ++ (advanceFlight env reading fault s.store flight).2 :: right⟩
  /-- Calls vanish with their process. -/
  | crash {s : System σ} {flights : List (Flight σ)} :
      flights.Sublist s.flights → Step env s { s with flights := flights }
  /-- Any other operation. -/
  | other {s : System σ} {store : Store σ} :
      Steady env s.store store → Step env s { s with store := store }

/-- A store without Tasks, receipts, events, plans and programs; everything else is arbitrary. -/
structure Fresh (store : Store σ) : Prop where
  tasks : ∀ id, store.task? id = none
  receipts : ∀ id, store.receipt? id = none
  events : store.core.events = []
  plans : store.core.plans = []
  programs : store.core.programs = []

inductive Reachable (env : Env σ) : System σ → Prop where
  | start {store : Store σ} : Fresh store → Reachable env ⟨store, []⟩
  | step {s s' : System σ} : Reachable env s → Step env s s' → Reachable env s'

end Aios.Tasks
