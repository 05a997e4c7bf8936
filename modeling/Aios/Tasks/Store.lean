/-
  File:      Aios/Tasks/Store.lean
  Subject:   THE STORE of the Task Manager: the tables a transition reads and writes.

  A table with a text key is a map; the others are lists of rows in the order of insertion. A column
  that holds the JSON of a record holds the record; one that holds a value of the caller
  (`request_json`, `normalized_intent_json`, `constraints_json`) holds its text. Three parts, by who may change them: the Task Manager's own record of the Tasks
  (`Core`), the receipts of transitions, and what is known about time (`Clock`). A table no function
  here looks at is inside `other`.
-/
import Std.Data.ExtTreeMap
import Aios.Provenance.Journal
import Aios.Tasks.State

namespace Aios.Tasks

open Lib Provenance

/-! ## 1. Tasks, plans, programs -/

/-- A row of `tasks`; the key is the Task identity. -/
structure TaskRow where
  revision : Nat
  state : TaskState
  stateReason : Option Json
  principal : Actor
  workspaceId : Option String
  originalIntent : String
  /-- The text the caller's value was printed to. -/
  normalizedIntent : Option String
  intentCommitmentNonce : List UInt8
  activePlanRevision : Option Nat
  activeProgramRevision : Option Nat
  activeStepIds : List String
  waitingOn : List WaitingOn
  constraints : Option String
  failure : Option FailureRecord
  recovery : Option RecoveryMutation
  createdAt : String
  updatedAt : String
  completedAt : Option String
  deriving DecidableEq

structure PlanRow where
  taskId : String
  planRevision : Nat
  planId : String
  planJson : String
  createdAt : String
  supersededAt : Option String
  deriving DecidableEq

structure ProgramRow where
  taskId : String
  programRevision : Nat
  programId : String
  irVersion : String
  semanticHash : Option String
  registrySnapshotId : Option String
  validationResultId : Option String
  status : String
  programJson : String
  createdFromPlanRevision : Option Nat
  createdAt : String
  supersededAt : Option String
  deriving DecidableEq

structure ValidationRow where
  validationResultId : String
  taskId : String
  programId : String
  irVersion : String
  valid : Bool
  semanticHash : String
  registrySnapshotId : String
  validatorId : String
  validatorVersion : String
  validatorBuildHash : Option String
  result : String
  validatedAt : String
  deriving DecidableEq

/-! ## 2. Steps and their authority -/

inductive StepState where
  | pending
  | blocked
  | ready
  | starting
  | running
  | succeeded
  | failed
  | cancelled
  | skipped
  | unknown
  deriving DecidableEq, Repr

/-- A row of `step_executions`. -/
structure StepRow where
  attemptId : String
  taskId : String
  semanticProgramHash : String
  registrySnapshotId : Option String
  nodeId : String
  bindingId : Option String
  attemptNumber : Nat
  revision : Nat
  state : StepState
  startedAt : Option String
  updatedAt : String
  deriving DecidableEq

/-- A row of `execution_bindings`. -/
structure BindingRow where
  bindingId : String
  attemptId : String
  taskId : String
  semanticProgramHash : String
  registrySnapshotId : String
  nodeId : String
  providerId : String
  providerVersion : String
  grantRefs : List String
  deriving DecidableEq

inductive CandidateState where
  | pending
  | finalized
  | stale
  | cancelled
  deriving DecidableEq, Repr

/-- A reservation of `authority_candidate_reservations` with its status. -/
structure CandidateRow where
  candidateId : String
  taskId : String
  semanticProgramHash : String
  bindingId : String
  attemptId : String
  state : CandidateState
  deriving DecidableEq

inductive GrantState where
  | active
  | consumed
  | expired
  | revoked
  deriving DecidableEq, Repr

structure GrantRow where
  grantId : String
  tokenId : Option String
  taskId : String
  executionBindingId : Option String
  attemptId : Option String
  policyDecisionId : String
  approvalId : Option String
  state : GrantState
  issuedAt : String
  expiresAt : String
  revokedAt : Option String
  revocationReasonCode : Option String
  deriving DecidableEq

/-- A row of `authority_issuance_receipts`. -/
structure IssuanceRow where
  grantId : String
  tokenId : String
  taskId : String
  executionBindingId : String
  attemptId : String
  policyDecisionId : String
  issuedAt : String
  issuanceProfile : String
  deriving DecidableEq

/-- A row of `authority_grant_deadlines`. -/
structure DeadlineRow where
  grantId : String
  tokenId : String
  taskId : String
  executionBindingId : String
  attemptId : String
  policyDecisionId : String
  issuedAt : String
  grantExpiresAt : String
  grantExpiryUnixNanos : Int
  approvalId : Option String
  approvalRequestExpiresAt : Option String
  approvalRequestExpiryUnixNanos : Option Int
  approvalDecisionId : Option String
  approvedUntil : Option String
  approvedUntilUnixNanos : Option Int
  sessionId : String
  ownerId : String
  ownerEpoch : Nat
  issuedStateRevision : Nat
  issuedMonotonicNanos : Int
  deadlineMonotonicNanos : Int
  issuedObservedUnixNanos : Int
  issuedEffectiveUnixNanos : Int
  effectiveExpiryUnixNanos : Int
  deriving DecidableEq

/-- A row of `approval_requests`. -/
structure ApprovalRow where
  approvalId : String
  authorityRequestId : String
  taskId : String
  semanticProgramHash : String
  nodeId : String
  status : String
  expiresAt : Option String
  deriving DecidableEq

structure AuthorityRequestRow where
  requestId : String
  taskId : String
  semanticProgramHash : String
  registrySnapshotId : String
  nodeId : String
  deriving DecidableEq

structure ApprovalDecisionRow where
  decisionId : String
  approvalId : String
  decision : String
  approvedUntil : Option String
  deriving DecidableEq

/-! ## 3. Receipts -/

inductive Outcome where
  | pending
  | committed
  | rejected
  deriving DecidableEq, Repr

/-- A row of `task_transitions`; the key is the transition identity. -/
structure Receipt where
  taskId : String
  expectedRevision : Nat
  expectedState : TaskState
  toState : TaskState
  resultRevision : Option Nat
  resultState : Option TaskState
  outcome : Outcome
  reasonCode : String
  requestJson : String
  result : Option Json
  provenanceEventId : Option String
  requestedAt : String
  committedAt : Option String
  deriving DecidableEq

/-! ## 4. Time -/

inductive Confidence where
  | unassessed
  | trustedLocal
  | timeUncertain
  deriving DecidableEq, Repr

/-- The single row of `trusted_time_state`. -/
structure TimeState where
  confidence : Confidence
  highWaterUnixNanos : Option Int
  expiryFloorUnixNanos : Option Int
  reasonCode : String
  revision : Nat
  deriving DecidableEq, Repr

/-- A row of `trusted_time_observations`. -/
structure ObservationRow where
  stateRevision : Nat
  observedUnixNanos : Option Int
  monotonicNanos : Option Int
  highWaterUnixNanos : Option Int
  expiryFloorUnixNanos : Option Int
  confidence : Confidence
  reasonCode : String
  sourceClass : String
  deriving DecidableEq, Repr

/-- A row of `authority_clock_sessions`. -/
structure ClockSessionRow where
  sessionId : String
  ownerId : String
  ownerEpoch : Nat
  highWaterMonotonicNanos : Int
  highWaterObservedUnixNanos : Int
  highWaterStateRevision : Nat
  revision : Nat
  deriving DecidableEq, Repr

inductive LatchReason where
  | monotonicDeadline
  | wallExpiry
  deriving DecidableEq, Repr

/-- A row of `authority_grant_expiry_latches`. -/
structure LatchRow where
  grantId : String
  sessionId : String
  ownerId : String
  ownerEpoch : Nat
  observedStateRevision : Nat
  observedMonotonicNanos : Int
  observedUnixNanos : Int
  observedEffectiveUnixNanos : Int
  reason : LatchReason
  deriving DecidableEq, Repr

/-! ## 5. The store -/

/-- The owner and the epoch of `task_manager_lease`, and of the manager that holds it. -/
structure Lease where
  ownerId : String
  fenceEpoch : Nat
  deriving DecidableEq, Repr

/-- What the Task Manager records about Tasks and their work. -/
structure Core (σ : Type) where
  tasks : Std.ExtTreeMap String TaskRow
  events : List EventRow
  steps : List StepRow
  plans : List PlanRow
  programs : List ProgramRow
  validations : List ValidationRow
  bindings : List BindingRow
  candidates : List CandidateRow
  grants : List GrantRow
  issuances : List IssuanceRow
  deadlines : List DeadlineRow
  approvals : List ApprovalRow
  authorityRequests : List AuthorityRequestRow
  approvalDecisions : List ApprovalDecisionRow
  lease : Option Lease
  /-- `trusted_time_effect_pending`. -/
  pendingMarkers : List String
  other : σ

/-- What is known about time. -/
structure Clock where
  state : Option TimeState
  observations : List ObservationRow
  sessions : List ClockSessionRow
  latches : List LatchRow

structure Store (σ : Type) where
  core : Core σ
  /-- `task_transitions`. -/
  receipts : Std.ExtTreeMap String Receipt
  clock : Clock

section Lookups

variable {σ : Type}

def Store.task? (store : Store σ) (taskId : String) : Option TaskRow := store.core.tasks[taskId]?

def Store.receipt? (store : Store σ) (transitionId : String) : Option Receipt :=
  store.receipts[transitionId]?

/-- Writes a Task row. -/
def Store.setTask (store : Store σ) (taskId : String) (row : TaskRow) : Store σ :=
  { store with core := { store.core with tasks := store.core.tasks.insert taskId row } }

def Store.setReceipt (store : Store σ) (transitionId : String) (receipt : Receipt) : Store σ :=
  { store with receipts := store.receipts.insert transitionId receipt }

variable (store : Store σ) (id key : String)

@[simp] theorem Store.task?_setTask (row : TaskRow) :
    (store.setTask id row).task? key = if id = key then some row else store.task? key := by
  simp only [Store.task?, Store.setTask, Std.ExtTreeMap.getElem?_insert]
  simp

@[simp] theorem Store.receipt?_setTask (row : TaskRow) :
    (store.setTask id row).receipt? key = store.receipt? key := rfl

@[simp] theorem Store.receipt?_setReceipt (receipt : Receipt) :
    (store.setReceipt id receipt).receipt? key =
      if id = key then some receipt else store.receipt? key := by
  simp only [Store.receipt?, Store.setReceipt, Std.ExtTreeMap.getElem?_insert]
  simp

@[simp] theorem Store.core_setReceipt (receipt : Receipt) :
    (store.setReceipt id receipt).core = store.core := rfl

@[simp] theorem Store.clock_setReceipt (receipt : Receipt) :
    (store.setReceipt id receipt).clock = store.clock := rfl

/-- The manager with this lease is the one the store knows. -/
def assertManagerLease (lease : Lease) : TaskResult Unit :=
  rejectIf (store.core.lease ≠ some lease)
    (.invalidRecord "Task Manager write rejected by stale ownership fence")

end Lookups

end Aios.Tasks
