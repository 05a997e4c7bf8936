/-
  File:      Aios/Tasks/State.lean
  Subject:   THE STATES OF A TASK, the graph of its transitions, and the records of a transition:
             requests, mutations, results.

  The texts the source stores for enumerations (`as_str`, serde) are functions of the constructors;
  reading a stored text back is the inverse (`TaskState.parse_asStr`).
-/
import Mathlib.Data.String.Basic
import Aios.Lib.Except
import Aios.Provenance.Details

namespace Aios.Tasks

open Lib

/-! ## 1. States -/

inductive TaskState where
  | created
  | planning
  | waitingForInput
  | waitingForAuth
  | runnable
  | running
  | verifying
  | paused
  | recovering
  | rollingBack
  | completed
  | failed
  | cancelled
  | rolledBack
  deriving DecidableEq, Repr

namespace TaskState

def asStr : TaskState → String
  | .created => "CREATED"
  | .planning => "PLANNING"
  | .waitingForInput => "WAITING_FOR_INPUT"
  | .waitingForAuth => "WAITING_FOR_AUTH"
  | .runnable => "RUNNABLE"
  | .running => "RUNNING"
  | .verifying => "VERIFYING"
  | .paused => "PAUSED"
  | .recovering => "RECOVERING"
  | .rollingBack => "ROLLING_BACK"
  | .completed => "COMPLETED"
  | .failed => "FAILED"
  | .cancelled => "CANCELLED"
  | .rolledBack => "ROLLED_BACK"

def parse : String → Option TaskState
  | "CREATED" => some .created
  | "PLANNING" => some .planning
  | "WAITING_FOR_INPUT" => some .waitingForInput
  | "WAITING_FOR_AUTH" => some .waitingForAuth
  | "RUNNABLE" => some .runnable
  | "RUNNING" => some .running
  | "VERIFYING" => some .verifying
  | "PAUSED" => some .paused
  | "RECOVERING" => some .recovering
  | "ROLLING_BACK" => some .rollingBack
  | "COMPLETED" => some .completed
  | "FAILED" => some .failed
  | "CANCELLED" => some .cancelled
  | "ROLLED_BACK" => some .rolledBack
  | _ => none

@[simp] theorem parse_asStr (s : TaskState) : parse s.asStr = some s := by cases s <;> rfl

def terminal : TaskState → Bool
  | .completed | .failed | .cancelled | .rolledBack => true
  | _ => false

end TaskState

open TaskState

/-- The graph of the transitions. -/
def allowedTransition : TaskState → TaskState → Bool
  | .created, target => target ∈ [planning, cancelled, failed]
  | .planning, target => target ∈ [waitingForInput, waitingForAuth, runnable, failed, cancelled, paused]
  | .waitingForInput, target => target ∈ [planning, cancelled, paused, failed]
  | .waitingForAuth, target => target ∈ [planning, runnable, cancelled, paused, failed]
  | .runnable, target => target ∈ [running, planning, paused, cancelled, failed]
  | .running, target => target ∈ [runnable, planning, waitingForInput, waitingForAuth, verifying, paused,
      recovering, failed, cancelled, rollingBack]
  | .verifying, target => target ∈ [completed, running, planning, paused, recovering, failed, cancelled,
      rollingBack]
  | .paused, target => target ∈ [planning, runnable, recovering, cancelled, failed]
  | .recovering, target => target ∈ [planning, runnable, running, waitingForInput, waitingForAuth, paused,
      failed, rollingBack]
  | .rollingBack, target => target ∈ [rolledBack, failed]
  | .failed, target => target = rollingBack
  | .completed, _ | .cancelled, _ | .rolledBack, _ => false

/-! ## 2. Requests -/

structure Actor where
  kind : String
  id : String
  deriving DecidableEq, Repr

structure TransitionReason where
  code : String
  message : Option String
  relatedIds : List String
  deriving DecidableEq, Repr

inductive WaitingKind where
  | input
  | approval
  | resource
  | provider
  | validation
  deriving DecidableEq, Repr

structure WaitingOn where
  kind : WaitingKind
  id : String
  message : Option String
  deriving DecidableEq, Repr

structure ActivePlan where
  planId : String
  revision : Nat
  deriving DecidableEq, Repr

structure RecoveryMutation where
  unknownOperationIds : List String
  unknownOperationsRef : Option String
  lastKnownDaemonInstance : Option String
  deriving DecidableEq, Repr

structure FailureRecord where
  code : String
  summary : String
  stepId : Option String
  providerId : Option String
  executionBindingId : Option String
  retryable : Bool
  safeToReplan : Bool
  unknownSideEffects : Bool
  rollbackAvailable : Bool
  provenanceEventIds : List String
  deriving DecidableEq, Repr

structure TaskMutation where
  activePlan : Option ActivePlan
  activeStepIds : Option (List String)
  waitingOn : Option (List WaitingOn)
  failure : Option FailureRecord
  recovery : Option RecoveryMutation
  deriving DecidableEq, Repr

/-- A request that changes nothing but the state. -/
def TaskMutation.default : TaskMutation := ⟨none, none, none, none, none⟩

structure TransitionRequest where
  schemaVersion : String
  transitionId : String
  taskId : String
  expectedRevision : Nat
  expectedState : TaskState
  toState : TaskState
  requestedBy : Actor
  reason : TransitionReason
  mutation : TaskMutation
  deriving DecidableEq, Repr

/-! ## 3. Results -/

structure TransitionResult where
  schemaVersion : String
  transitionId : String
  taskId : String
  applied : Bool
  reasonCode : String
  message : Option String
  previousState : Option TaskState
  currentState : Option TaskState
  previousRevision : Option Nat
  currentRevision : Option Nat
  observedState : Option TaskState
  observedRevision : Option Nat
  provenanceEventId : Option String
  provenanceEventHash : Option String
  resultedAt : String
  deriving DecidableEq, Repr

def schemaVersion : String := "0.1"

/-- The answer to a request that is not applied. -/
def rejected (request : TransitionRequest) (code : String) (observed : Option (TaskState × Nat))
    (resultedAt : String) : TransitionResult where
  schemaVersion := schemaVersion
  transitionId := request.transitionId
  taskId := request.taskId
  applied := false
  reasonCode := code
  message := none
  previousState := none
  currentState := none
  previousRevision := none
  currentRevision := none
  observedState := observed.map Prod.fst
  observedRevision := observed.map Prod.snd
  provenanceEventId := none
  provenanceEventHash := none
  resultedAt := resultedAt

/-- The answer to an applied request. -/
def applied (request : TransitionRequest) (revision newRevision : Nat) (state : TaskState)
    (eventId eventHash resultedAt : String) : TransitionResult where
  schemaVersion := schemaVersion
  transitionId := request.transitionId
  taskId := request.taskId
  applied := true
  reasonCode := "TASK_TRANSITION_APPLIED"
  message := none
  previousState := some state
  currentState := some request.toState
  previousRevision := some revision
  currentRevision := some newRevision
  observedState := some request.toState
  observedRevision := some newRevision
  provenanceEventId := some eventId
  provenanceEventHash := some eventHash
  resultedAt := resultedAt

inductive TaskManagerError where
  | storage (error : String)
  | io (error : String)
  | serialization (error : String)
  | canonicalization (error : String)
  | provenance (error : Provenance.Error)
  | registry (error : String)
  | provider (error : String)
  | invalidRecord (message : String)
  deriving DecidableEq, Repr

abbrev TaskResult (α : Type) := Except TaskManagerError α

/-! ## 4. The request contract -/

/-- An upper-case letter, then upper-case letters, digits and underscores, at most 128. -/
def reasonCodeValid (value : String) : Bool :=
  !value.isEmpty && value.utf8ByteSize ≤ 128 &&
    (value.toList.take 1).all Char.isUpper &&
    value.toList.all fun c => c.isUpper || c.isDigit || c = '_'

def internalPrefix : String := "__aios_internal:"

/-- `str::starts_with`. -/
def startsWith (text start : String) : Bool := start.toList.isPrefixOf text.toList

theorem startsWith_of_startsWith {text a b : String} (h : startsWith text b = true)
    (hab : startsWith b a = true) : startsWith text a = true := by
  unfold startsWith at h hab ⊢
  rw [List.isPrefixOf_iff_prefix] at h hab ⊢
  exact hab.trans h

theorem startsWith_append (start rest : String) : startsWith (start ++ rest) start = true := by
  unfold startsWith
  rw [List.isPrefixOf_iff_prefix, String.toList_append]
  exact List.prefix_append _ _

/-- The largest value of an SQLite integer. -/
def maxI64 : Nat := 2 ^ 63 - 1

def validPlan (plan : ActivePlan) : Bool :=
  !plan.planId.isEmpty && plan.planId.length ≤ 256 && 0 < plan.revision && plan.revision ≤ maxI64

def validWaiting (item : WaitingOn) : Bool :=
  !item.id.isEmpty && item.id.length ≤ 256 && item.message.all fun m => m.length ≤ 2048

def validFailure (failure : FailureRecord) : Bool :=
  reasonCodeValid failure.code && !failure.summary.isEmpty && failure.summary.length ≤ 4096 &&
    (failure.stepId.all fun id => id.length ≤ 128) &&
    (failure.providerId.all fun id => id.length ≤ 256) &&
    (failure.executionBindingId.all fun id => id.length ≤ 256) &&
    failure.provenanceEventIds.length ≤ 64 && failure.provenanceEventIds.Nodup &&
    failure.provenanceEventIds.all fun id => id.length ≤ 256

def validRecovery (recovery : RecoveryMutation) : Bool :=
  recovery.unknownOperationIds.length ≤ 128 &&
    (recovery.unknownOperationIds.all fun id => id.length ≤ 256) &&
    recovery.unknownOperationIds.Nodup &&
    (recovery.lastKnownDaemonInstance.all fun id => id.length ≤ 256) &&
    recovery.unknownOperationsRef.all fun ref => !ref.isEmpty && ref.length ≤ 256

def validMutation (mutation : TaskMutation) : Bool :=
  (mutation.activeStepIds.all fun steps => steps.length ≤ 512 && steps.Nodup &&
      steps.all fun step => !step.isEmpty && step.length ≤ 128) &&
    (mutation.waitingOn.all fun items => items.length ≤ 64 && items.all validWaiting) &&
    mutation.activePlan.all validPlan && mutation.failure.all validFailure &&
    mutation.recovery.all validRecovery

def actorKinds : List String :=
  ["user", "agent", "provider", "system-service", "policy-engine", "peer-node"]

def validReason (reason : TransitionReason) : Bool :=
  !reason.code.isEmpty && reason.code.length ≤ 128 && reasonCodeValid reason.code &&
    (reason.message.all fun m => m.length ≤ 2048) && reason.relatedIds.length ≤ 32 &&
    reason.relatedIds.Nodup && reason.relatedIds.all fun id => id.length ≤ 512

def validTransitionRequest (request : TransitionRequest) (internalRecovery : Bool) : Bool :=
  request.schemaVersion = schemaVersion && !request.transitionId.isEmpty &&
    request.transitionId.length ≤ 256 &&
    (startsWith request.transitionId internalPrefix == internalRecovery) &&
    !request.taskId.isEmpty && request.taskId.length ≤ 256 && 0 < request.expectedRevision &&
    request.expectedRevision ≤ maxI64 && actorKinds.contains request.requestedBy.kind &&
    !request.requestedBy.id.isEmpty && request.requestedBy.id.length ≤ 256 &&
    validReason request.reason && validMutation request.mutation

def validateTransitionRequest (request : TransitionRequest) (internalRecovery : Bool) :
    TaskResult Unit :=
  rejectIf (!validTransitionRequest request internalRecovery)
    (.invalidRecord "transition request does not satisfy the v0.1 contract")

end Aios.Tasks
