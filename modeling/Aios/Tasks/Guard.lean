/-
  File:      Aios/Tasks/Guard.lean
  Subject:   THE GUARD OF A TRANSITION: what the stored facts must say before a state is entered.

  The facts are read first, whatever the target state (`guardFacts`), so a query that fails fails the
  transition; then the target state decides which of them count (`guardFailure`). Two lines are what
  the lifecycle rests on: RECOVERING is refused to everybody but the recovery itself, and the two
  rollback states are refused to everybody (`guardFailure_recovering`, `guardFailure_rollback`).
-/
import Aios.Tasks.Steps

namespace Aios.Tasks

open Lib TaskState

variable {σ : Type} (env : Env σ) (store : Store σ)

/-! ## 1. Plan and program -/

/-- A current program of the Task was made from this current plan revision. -/
def programFromPlan (core : Core σ) (taskId : String) (programRevision planRevision : Nat)
    (planId : Option String) : Bool :=
  (core.programs.any fun p => p.taskId = taskId && p.programRevision = programRevision &&
    p.createdFromPlanRevision = some planRevision && p.supersededAt.isNone) &&
  core.plans.any fun r => r.taskId = taskId && r.planRevision = planRevision &&
    (planId.all fun id => r.planId = id) && r.supersededAt.isNone

def planProgramCoherent (taskId : String) (activeProgram : Option Nat)
    (proposedPlan : Option ActivePlan) : TaskResult Bool :=
  match activeProgram, proposedPlan with
  | none, _ => .ok false
  | some program, some plan => do
      rejectIf (maxI64 < plan.revision)
        (.invalidRecord "active plan revision exceeds SQLite range")
      return programFromPlan store.core taskId program plan.revision (some plan.planId)
  | some program, none =>
      -- the stored pointers of the Task decide
      .ok ((store.task? taskId).any fun task => task.activeProgramRevision = some program &&
        task.activePlanRevision.any fun plan =>
          programFromPlan store.core taskId program plan none)

/-- The hash of the active program. -/
def activeProgramHash (core : Core σ) (taskId : String) (activeProgram : Option Nat) :
    Option String :=
  activeProgram.bind fun program =>
    (core.programs.find? fun p => p.taskId = taskId && p.programRevision = program &&
      p.status = "active").bind ProgramRow.semanticHash

/-! ## 2. Approvals -/

/-- A pending approval of the active program, with the request it answers. -/
def pendingApproval (core : Core σ) (taskId : String) (a : ApprovalRow) : Bool :=
  a.taskId = taskId && a.status = "PENDING" && core.authorityRequests.any fun r =>
    r.requestId = a.authorityRequestId && r.taskId = a.taskId &&
    r.semanticProgramHash = a.semanticProgramHash && r.nodeId = a.nodeId &&
    core.programs.any fun p => p.taskId = taskId &&
      (core.tasks[taskId]?).bind TaskRow.activeProgramRevision = some p.programRevision &&
      p.semanticHash = some a.semanticProgramHash &&
      p.registrySnapshotId = some r.registrySnapshotId

/-- The pending approvals of these steps that have not run out. -/
def scopedPendingApprovals (core : Core σ) (taskId : String) (steps : List String)
    (rfc3339 : String → Option Int) (instant : Int) : List String :=
  ((core.approvals.filter (pendingApproval core taskId)).filter fun a =>
    steps.contains a.nodeId && a.expiresAt.all fun text =>
      (rfc3339 text).any fun expires => decide (instant < expires)).map ApprovalRow.approvalId

/-! ## 3. The facts -/

structure GuardFacts where
  /-- The proposed blockers, or the stored ones. -/
  waiting : List WaitingOn
  durableWaiting : List WaitingOn
  activeSteps : List String
  validProgram : Bool
  readySteps : Nat
  boundReadySteps : Nat
  coordinatorPrepared : Bool
  pendingApprovals : List String
  unknownOperations : Nat
  deriving DecidableEq, Repr

/-- A blocker that is no approval, or an approval that is still pending. -/
def GuardFacts.effective (f : GuardFacts) (item : WaitingOn) : Bool :=
  item.kind ≠ .approval || f.pendingApprovals.contains item.id

/-- A candidate of the active program has been finalized. -/
def coordinatorCandidate (core : Core σ) (taskId : String) (hash : Option String) : Bool :=
  core.candidates.any fun c => c.taskId = taskId && hash = some c.semanticProgramHash &&
    c.state = .finalized

/-- The hash, where there is one, belongs to a validated program. -/
def hashValidated (taskId : String) (hash : Option String) : TaskResult Bool :=
  match hash with
  | none => .ok false
  | some hash => env.reads.activeProgramValidationValid store taskId hash

def guardFacts (request : TransitionRequest) (task : TaskRow) (checkedAt : String) :
    TaskResult GuardFacts := do
  let hash := activeProgramHash store.core request.taskId task.activeProgramRevision
  let validProgram ← hashValidated env store request.taskId hash
  let boundReady ← countBoundActiveSteps env store request.taskId [.ready] checkedAt task.activeStepIds
  let instant ← expect (env.journal.rfc3339 checkedAt)
    (.invalidRecord "trusted guard time is not RFC 3339")
  let scope := if request.toState = waitingForAuth then
    request.mutation.activeStepIds.getD task.activeStepIds else task.activeStepIds
  let unknownOperations ← env.reads.unresolvedExecutionCount store request.taskId
  return {
    waiting := request.mutation.waitingOn.getD task.waitingOn
    durableWaiting := task.waitingOn
    activeSteps := task.activeStepIds
    validProgram := validProgram
    readySteps := countActiveSteps store.core request.taskId task.activeStepIds .ready
    boundReadySteps := boundReady
    coordinatorPrepared := request.toState = runnable &&
      coordinatorCandidate store.core request.taskId hash
    pendingApprovals := scopedPendingApprovals store.core request.taskId scope
      env.journal.rfc3339 instant
    unknownOperations := unknownOperations }

/-! ## 4. The guard -/

def guardFailed : Option String := some "TASK_TRANSITION_GUARD_FAILED"
def programNotRunnable : Option String := some "TASK_PROGRAM_NOT_RUNNABLE"
def unknownExternalOutcome : Option String := some "TASK_UNKNOWN_EXTERNAL_OUTCOME"

/-- The states that run the steps. -/
def executionTarget (target : TaskState) : Bool :=
  target ∈ [runnable, running, verifying, completed]

/-- The states a recovery may be left for once everything uncertain is settled. -/
def recoveryExit (target : TaskState) : Bool :=
  target ∈ [planning, runnable, running, waitingForInput, waitingForAuth, verifying, paused, completed]

/-- Refuses with this code where the check fails. -/
def unlessHolds (check : TaskResult Bool) (code : Option String) : TaskResult (Option String) := do
  let holds ← check
  return if holds then none else code

/-- The execution of the Task is contained, as its failure record describes it. -/
def failureContained (request : TransitionRequest) : TaskResult Bool :=
  if request.mutation.failure.any FailureRecord.unknownSideEffects then
    env.reads.activeExecutionIsContained store request.taskId
  else env.reads.executionIsContained store request.taskId

/-- No output, or one without a current verification, fails the completion. -/
def outputsVerified (taskId : String) (outputs : Option (List String)) : TaskResult Bool :=
  match outputs with
  | none => .ok false
  | some artifacts => env.reads.hasCurrentVerification store taskId artifacts

def completionGate (request : TransitionRequest) (f : GuardFacts) : TaskResult (Option String) := do
  let outputs ← env.reads.activeStepCompletionFacts store request.taskId f.activeSteps
  let verified ← outputsVerified env store request.taskId outputs
  return if 0 < f.unknownOperations then unknownExternalOutcome
    else if !f.validProgram || outputs.isNone || !verified || !f.pendingApprovals.isEmpty ||
        f.waiting.any f.effective || f.durableWaiting.any f.effective then
      some "TASK_COMPLETION_GATE_FAILED"
    else none

/-- The facts that keep a Task out of RUNNABLE and RUNNING alike. -/
def blocked (f : GuardFacts) : Bool :=
  !f.validProgram || f.activeSteps.isEmpty || f.waiting.any f.effective ||
    !f.pendingApprovals.isEmpty || f.durableWaiting.any fun item => item.kind ≠ .approval

/-- The last part of the guard: what the target state itself asks for. -/
def targetGuard (request : TransitionRequest) (f : GuardFacts) : TaskResult (Option String) :=
  let contained := env.reads.executionIsContained store request.taskId
  match request.toState with
  | .runnable => do
      let running := request.expectedState = .running
      let free ← if running then contained else .ok true
      return if !free then guardFailed
        else if blocked f || f.readySteps = 0 || (f.coordinatorPrepared && f.boundReadySteps = 0) then
          programNotRunnable
        else none
  | .running => .ok (if blocked f || f.boundReadySteps = 0 then guardFailed else none)
  | .waitingForInput =>
      if !f.waiting.any fun item => item.kind = .input || item.kind = .validation then
        .ok guardFailed
      else unlessHolds contained guardFailed
  | .waitingForAuth =>
      if f.pendingApprovals.isEmpty ||
          !f.waiting.any fun item => item.kind = .approval && f.pendingApprovals.contains item.id then
        .ok guardFailed
      else unlessHolds contained guardFailed
  | .verifying => do
      let outputs ← env.reads.activeStepCompletionFacts store request.taskId f.activeSteps
      return if outputs.isNone then guardFailed else none
  | .completed => completionGate env store request f
  | .rollingBack | .rolledBack => .ok guardFailed
  | .failed =>
      if request.mutation.failure.isNone then .ok guardFailed
      else if 0 < f.unknownOperations &&
          !request.mutation.failure.any FailureRecord.unknownSideEffects then
        .ok unknownExternalOutcome
      else unlessHolds (failureContained env store request) guardFailed
  | .cancelled =>
      unlessHolds (env.reads.cancellationExecutionIsContained store request.taskId) guardFailed
  | .planning | .paused => unlessHolds contained guardFailed
  | .created | .recovering => .ok none

/-- A recovery is left for another state only where everything is settled. -/
def recoveryGuard (request : TransitionRequest) : TaskResult Bool :=
  if request.expectedState = .recovering && recoveryExit request.toState then
    env.reads.recoveryAllowsExit store request.taskId
  else .ok true

/-- The plan and the program agree, where the transition depends on them. -/
def coherenceGuard (request : TransitionRequest) (task : TaskRow) : TaskResult Bool :=
  if (request.mutation.activePlan.isSome && task.activeProgramRevision.isSome) ||
      executionTarget request.toState then
    planProgramCoherent store request.taskId task.activeProgramRevision request.mutation.activePlan
  else .ok true

def guardFailure (request : TransitionRequest) (task : TaskRow) (checkedAt : String)
    (internalRecovery : Bool) : TaskResult (Option String) := do
  let f ← guardFacts env store request task checkedAt
  if request.mutation.activeStepIds.isSome && executionTarget request.toState then return guardFailed
  if request.toState = recovering && !internalRecovery then return guardFailed
  let settled ← recoveryGuard env store request
  if !settled then return guardFailed
  if request.toState ∈ [runnable, running, verifying] ∧ 0 < f.unknownOperations then
    return unknownExternalOutcome
  let coherent ← coherenceGuard store request task
  if !coherent then return programNotRunnable
  targetGuard env store request f

/-! ## 5. What the lifecycle rests on -/

variable {env : Env σ} {store : Store σ} {request : TransitionRequest} {task : TaskRow}
  {checkedAt : String} {internalRecovery : Bool}

/-- What the guard of a transition that passes has found. -/
structure GuardPassed (env : Env σ) (store : Store σ) (request : TransitionRequest) (task : TaskRow)
    (checkedAt : String) (internalRecovery : Bool) (f : GuardFacts) : Prop where
  facts : guardFacts env store request task checkedAt = .ok f
  recovering : request.toState = recovering → internalRecovery = true
  settled : recoveryGuard env store request = .ok true
  resolved : request.toState ∈ [runnable, running, verifying] → f.unknownOperations = 0
  coherent : coherenceGuard store request task = .ok true
  target : targetGuard env store request f = .ok none

/-- A guard that lets a transition pass went through all its parts. -/
theorem guardFailure_none
    (h : guardFailure env store request task checkedAt internalRecovery = .ok none) :
    ∃ f, GuardPassed env store request task checkedAt internalRecovery f := by
  unfold guardFailure at h
  rw [bind_eq_ok'] at h
  obtain ⟨f, hf, h⟩ := h
  split at h
  · cases h
  · split at h
    · cases h
    · next hrecovering =>
      rw [bind_eq_ok'] at h
      obtain ⟨settled, hsettled, h⟩ := h
      cases settled with
      | false => cases h
      | true =>
      simp only [Bool.not_true, Bool.false_eq_true, if_false] at h
      split at h
      · cases h
      · next hresolved =>
        rw [bind_eq_ok'] at h
        obtain ⟨coherent, hcoherent, h⟩ := h
        cases coherent with
        | false => cases h
        | true =>
        refine ⟨f, hf, fun e => ?_, hsettled, fun hmem => ?_, hcoherent, h⟩
        · simpa [e] using hrecovering
        · have hpositive : ¬0 < f.unknownOperations := fun hlt => hresolved ⟨hmem, hlt⟩
          omega

/-- A guard whose parts all pass lets the transition pass. -/
theorem GuardPassed.guardFailure {f : GuardFacts}
    (h : GuardPassed env store request task checkedAt internalRecovery f)
    (hsteps : (request.mutation.activeStepIds.isSome && executionTarget request.toState) = false) :
    guardFailure env store request task checkedAt internalRecovery = .ok none := by
  have hrecovery : (decide (request.toState = TaskState.recovering) && !internalRecovery) = false := by
    by_cases e : request.toState = TaskState.recovering
    · simp [h.recovering e]
    · simp [e]
  have hresolved : ¬(request.toState ∈ [runnable, running, verifying] ∧ 0 < f.unknownOperations) := by
    rintro ⟨hmem, hpos⟩
    have hzero := h.resolved hmem
    omega
  unfold Tasks.guardFailure
  rw [h.facts, ok_bind, hsteps, if_neg Bool.false_ne_true, hrecovery, if_neg Bool.false_ne_true, h.settled,
    ok_bind, if_neg (by decide), if_neg hresolved, h.coherent, ok_bind, if_neg (by decide)]
  exact h.target

/-- **RECOVERING is entered by the recovery only.** -/
theorem guardFailure_recovering
    (h : guardFailure env store request task checkedAt internalRecovery = .ok none)
    (hto : request.toState = recovering) : internalRecovery = true := by
  obtain ⟨f, hpassed⟩ := guardFailure_none h
  exact hpassed.recovering hto

/-- **No rollback state is ever entered.** -/
theorem guardFailure_rollback
    (h : guardFailure env store request task checkedAt internalRecovery = .ok none) :
    request.toState ≠ rollingBack ∧ request.toState ≠ rolledBack := by
  obtain ⟨f, hpassed⟩ := guardFailure_none h
  have htarget := hpassed.target
  unfold targetGuard at htarget
  refine ⟨fun e => ?_, fun e => ?_⟩
  · rw [e] at htarget
    cases htarget
  · rw [e] at htarget
    cases htarget

end Aios.Tasks
