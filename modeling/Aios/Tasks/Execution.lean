/-
  File:      Aios/Tasks/Execution.lean
  Subject:   LOOSE WORK: what of a Task is still under way or uncertain, the three ways to ask for it,
             and the guard over the tables (`Env.overTables`).

  The guard of a transition was written against queries it knew nothing about (`GuardReads`); here
  they are the ones the Task Manager runs.
-/
import Aios.Tasks.Outputs

namespace Aios.Tasks

open Lib Provenance

variable {ρ : Type} (env : Env (Tables ρ)) (checks : DocumentChecks ρ) (store : Store (Tables ρ))

/-! ## 1. Attempts, operations, publications -/

/-- An attempt that runs, or may. -/
def attemptLive (s : StepRow) : Bool := s.state ∈ [StepState.starting, .running, .unknown]

def operationLive (o : OperationRow) : Bool := o.state ∈ [OperationState.prepared, .started, .unknown]

def uncertain (c : Option Certainty) : Bool := c.any Certainty.uncertain

/-- The effects of the attempt are uncertain, or it runs and nothing is known of them. -/
def attemptUnresolved (t : Tables ρ) (s : StepRow) : Bool :=
  uncertain (certaintyOf t s.attemptId) || (attemptLive s && (certaintyOf t s.attemptId).isNone)

def operationUnresolved (o : OperationRow) : Bool :=
  uncertain o.outcomeCertainty || (operationLive o && o.outcomeCertainty.isNone)

def unresolvedAttempts (taskId : String) : List StepRow :=
  store.core.steps.filter fun s => s.taskId = taskId && attemptUnresolved store.core.other s

def unresolvedOperations (taskId : String) : List OperationRow :=
  store.core.other.operations.filter fun o => o.taskId = taskId && operationUnresolved o

def pendingPublications (taskId : String) : List PublicationRow :=
  store.core.other.publications.filter fun p => p.taskId = taskId && p.state = .pending

/-- The grants of the Task that may still be used. -/
def activeGrants (core : Core (Tables ρ)) (taskId : String) : List GrantRow :=
  core.grants.filter fun g => g.taskId = taskId && g.state = .active

/-- The committed publications whose receipt does not authenticate. -/
def unresolvedAmong (taskId : String) : List PublicationRow → TaskResult (List String)
  | [] => .ok []
  | p :: rest => do
      let valid ← checks.committedPublicationValid store taskId p.publicationId
      let ids ← unresolvedAmong taskId rest
      return if valid then ids else p.publicationId :: ids

def unresolvedCommittedPublicationIds (taskId : String) : TaskResult (List String) :=
  unresolvedAmong checks store taskId (sortOn PublicationRow.publicationId
    (store.core.other.publications.filter fun p => p.taskId = taskId && p.state = .committed))

/-! ## 2. Unresolved execution -/

def unresolvedExecutionIds (taskId : String) : TaskResult (List String) := do
  let publications ← unresolvedCommittedPublicationIds checks store taskId
  let invocations ← checks.unresolvedProviderInvocationIds store taskId
  let credentials ← checks.unresolvedCredentialUseIds store taskId
  return sortOn id (
    (unresolvedOperations store taskId).map (fun o => "operation:" ++ o.operationId) ++
    (unresolvedAttempts store taskId).map (fun s => "attempt:" ++ s.attemptId) ++
    (pendingPublications store taskId).map (fun p => "publication:" ++ p.publicationId) ++
    (activeGrants store.core taskId).map (fun g => "grant:" ++ g.grantId) ++
    publications.map (fun id => "publication:" ++ id) ++ invocations ++ credentials)

/-- The same without the grants. -/
def unresolvedExecutionCount (taskId : String) : TaskResult Nat := do
  let credentials ← checks.unresolvedCredentialUseIds store taskId
  let invocations ← checks.unresolvedProviderInvocationIds store taskId
  let publications ← unresolvedCommittedPublicationIds checks store taskId
  return (unresolvedOperations store taskId).length + (unresolvedAttempts store taskId).length +
    (pendingPublications store taskId).length + credentials.length + invocations.length +
    publications.length

/-! ## 3. Containment -/

/-- No attempt of the Task runs or has uncertain effects. -/
def attemptsContained (taskId : String) : Bool :=
  store.core.steps.all fun s => s.taskId ≠ taskId ||
    !(attemptLive s || uncertain (certaintyOf store.core.other s.attemptId))

def operationsContained (taskId : String) : Bool :=
  store.core.other.operations.all fun o => o.taskId ≠ taskId ||
    !(operationLive o || uncertain o.outcomeCertainty)

def executionIsContained (taskId : String) : TaskResult Bool := do
  let invocations ← checks.unresolvedProviderInvocationIds store taskId
  let credentials ← checks.unresolvedCredentialUseIds store taskId
  return attemptsContained store taskId && (activeGrants store.core taskId).isEmpty &&
    operationsContained store taskId && invocations.isEmpty && credentials.isEmpty

/-- Without the grants, which the cancellation itself revokes. -/
def cancellationExecutionIsContained (taskId : String) : TaskResult Bool := do
  if !(attemptsContained store taskId && operationsContained store taskId) then return false
  let invocations ← checks.unresolvedProviderInvocationIds store taskId
  if !invocations.isEmpty then return false
  let credentials ← checks.unresolvedCredentialUseIds store taskId
  return credentials.isEmpty

/-- Nothing runs; what has ended may be uncertain. -/
def activeExecutionIsContained (taskId : String) : TaskResult Bool :=
  .ok ((store.core.steps.all fun s => s.taskId ≠ taskId || !attemptLive s) &&
    (activeGrants store.core taskId).isEmpty &&
    (store.core.other.operations.all fun o => o.taskId ≠ taskId || !operationLive o) &&
    checks.activeInvocations store taskId = 0 && checks.activeCredentialUses store taskId = 0)

/-! ## 4. The guard over the tables -/

/-- The queries of the Task Manager. -/
def tableReads : GuardReads (Tables ρ) where
  activeProgramValidationValid := activeProgramValidationValid env checks
  bindingGrantsValid := bindingGrantsValid env checks
  outputAllocationsReady := outputAllocationsReady env
  coordinatorGrantPolicyCurrent := coordinatorGrantPolicyCurrent
  unresolvedExecutionCount := unresolvedExecutionCount checks
  recoveryAllowsExit := checks.recoveryAllowsExit
  executionIsContained := executionIsContained checks
  activeExecutionIsContained := activeExecutionIsContained checks
  cancellationExecutionIsContained := cancellationExecutionIsContained checks
  activeStepCompletionFacts := activeStepCompletionFacts env checks
  hasCurrentVerification := hasCurrentVerification env
  validateInitialProgram := checks.validateInitialProgram

/-- The surroundings with these queries in the place of any others. -/
def Env.overTables : Env (Tables ρ) := { env with reads := tableReads env checks }

end Aios.Tasks
