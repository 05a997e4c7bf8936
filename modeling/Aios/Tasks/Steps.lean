/-
  File:      Aios/Tasks/Steps.lean
  Subject:   THE STEPS OF A TASK: the surroundings of the Task Manager, the latest attempts of the
             active steps, and their admission to RUNNING.

  The larger read-only queries a transition relies on are a parameter (`GuardReads`): they look at
  the whole store and change nothing, so what is proved here holds whatever they answer.
-/
import Aios.Tasks.Deadline
import Aios.Provenance.Chain

namespace Aios.Tasks

open Lib Provenance

/-! ## 1. Surroundings -/

/-- One binding, with what its grants are checked against. -/
structure BindingGrantCheck where
  taskId : String
  semanticHash : String
  nodeId : String
  bindingId : String
  attemptId : String
  grantRefs : List String
  checkedAt : String
  deriving DecidableEq, Repr

/-- The raw documents of an initial program and their digests. -/
structure InitialProgramAdmission where
  planJson : String
  registrySnapshotId : String
  programJson : String
  programDigest : String
  planDigest : String
  deriving DecidableEq, Repr

/-- What the validator reports of an accepted program. -/
structure ValidatedProgram where
  programId : String
  semanticHash : String
  registrySnapshotId : Option String
  irVersion : Option String
  nodeId : String
  validatorId : String
  validatorVersion : String
  validatorBuildHash : Option String
  result : String
  validatedAt : String
  deriving DecidableEq, Repr

/-- Queries over the whole store. -/
structure GuardReads (σ : Type) where
  activeProgramValidationValid : Store σ → String → String → TaskResult Bool
  bindingGrantsValid : Store σ → BindingGrantCheck → TaskResult Bool
  outputAllocationsReady : Store σ → BindingGrantCheck → TaskResult Bool
  coordinatorGrantPolicyCurrent : Store σ → String → TaskResult Bool
  unresolvedExecutionCount : Store σ → String → TaskResult Nat
  recoveryAllowsExit : Store σ → String → TaskResult Bool
  executionIsContained : Store σ → String → TaskResult Bool
  activeExecutionIsContained : Store σ → String → TaskResult Bool
  cancellationExecutionIsContained : Store σ → String → TaskResult Bool
  /-- The artifacts the completed steps published. -/
  activeStepCompletionFacts : Store σ → String → List String → TaskResult (Option (List String))
  hasCurrentVerification : Store σ → String → List String → TaskResult Bool
  /-- A raw program under an admitted snapshot, validated at a time. -/
  validateInitialProgram : Store σ → InitialProgramAdmission → String → TaskResult ValidatedProgram

structure Env (σ : Type) where
  journal : JournalEnv
  /-- `serde_json::from_str`. -/
  parseJson : String → Option Json
  /-- `serde_json::to_string`. -/
  printJson : Json → String
  formatNanos : Int → Option String
  reads : GuardReads σ

variable {σ : Type}

def Env.digest (env : Env σ) : Digest := env.journal.digest

def Env.time (env : Env σ) : TimeEnv := ⟨env.journal.rfc3339, env.formatNanos⟩

/-- Appends an event to the journal of a Task. -/
def appendEvent (env : Env σ) (store : Store σ) (taskId : String) (event : Json) :
    TaskResult (Store σ × EventRow) := do
  let row ← (appendInTx env.journal store.core.events taskId event .any).mapError .provenance
  return ({ store with core := { store.core with events := store.core.events ++ [row] } }, row)

/-- An event identity: a prefix and the digest of what it identifies. -/
def hashedEventId (digest : Digest) (start domain identity : String) : String :=
  start ++ String.ofList (hexDigits (digest.sha256 (domain.toUTF8.toList ++ identity.toUTF8.toList)))

def attemptAdmittedEventId (digest : Digest) (attemptId bindingId : String) : String :=
  hashedEventId digest "event:attempt-admitted:v1:sha256:" "AIOS-ATTEMPT-ADMITTED-EVENT-ID\x00v1\x00"
    (toString attemptId.utf8ByteSize ++ ":" ++ attemptId ++ toString bindingId.utf8ByteSize ++ ":" ++
      bindingId)

/-! ## 2. Latest attempts -/

section Attempts

variable (core : Core σ)

/-- The step belongs to the active program of its Task. -/
def inActiveProgram (s : StepRow) : Bool :=
  core.programs.any fun p => p.taskId = s.taskId &&
    (core.tasks[s.taskId]?).bind TaskRow.activeProgramRevision = some p.programRevision &&
    p.semanticHash = some s.semanticProgramHash && p.registrySnapshotId.isSome &&
    p.registrySnapshotId = s.registrySnapshotId

/-- No attempt of the same node under the same program has a greater number. -/
def isLatestAttempt (s : StepRow) : Bool :=
  core.steps.all fun other => other.taskId ≠ s.taskId || other.nodeId ≠ s.nodeId ||
    other.semanticProgramHash ≠ s.semanticProgramHash ||
    other.registrySnapshotId ≠ s.registrySnapshotId || other.attemptNumber ≤ s.attemptNumber

def latestAttempts (taskId nodeId : String) : List StepRow :=
  core.steps.filter fun s => s.taskId = taskId && s.nodeId = nodeId && inActiveProgram core s &&
    isLatestAttempt core s

def latestActiveAttemptCount (taskId nodeId : String) : Nat :=
  (latestAttempts core taskId nodeId).length

/-- The nodes whose one latest attempt is in this state. -/
def countActiveSteps (taskId : String) (activeSteps : List String) (state : StepState) : Nat :=
  activeSteps.countP fun nodeId =>
    latestActiveAttemptCount core taskId nodeId = 1 &&
      (latestAttempts core taskId nodeId).all fun s => s.state = state

/-- The binding of an attempt. -/
def boundBinding (s : StepRow) : Option BindingRow :=
  core.bindings.find? fun b => s.bindingId = some b.bindingId && b.attemptId = s.attemptId &&
    b.taskId = s.taskId && b.semanticProgramHash = s.semanticProgramHash &&
    s.registrySnapshotId = some b.registrySnapshotId && b.nodeId = s.nodeId

/-- The first of these attempts that has a binding. -/
def firstBound (attempts : List StepRow) : Option (StepRow × BindingRow) :=
  attempts.findSome? fun s => (boundBinding core s).map fun b => (s, b)

/-- The latest attempts of a node that are READY. -/
def readyAttempts (taskId nodeId : String) : List StepRow :=
  (latestAttempts core taskId nodeId).filter fun s => s.state = .ready

def bindingCheck (s : StepRow) (b : BindingRow) (checkedAt : String) : BindingGrantCheck :=
  ⟨s.taskId, s.semanticProgramHash, s.nodeId, b.bindingId, s.attemptId, b.grantRefs, checkedAt⟩

end Attempts

section Bound

variable (env : Env σ) (store : Store σ)

/-- The node's one latest attempt is in one of the states and its authority is valid. -/
def boundActiveStep (taskId nodeId : String) (states : List StepState) (checkedAt : String) :
    TaskResult Bool :=
  if latestActiveAttemptCount store.core taskId nodeId ≠ 1 then .ok false
  else match firstBound store.core (latestAttempts store.core taskId nodeId) with
    | none => .ok false
    | some (s, b) =>
        if !states.contains s.state then .ok false
        else do
          let check := bindingCheck s b checkedAt
          let grants ← env.reads.bindingGrantsValid store check
          if !grants then return false
          env.reads.outputAllocationsReady store check

def countBoundActiveSteps (taskId : String) (states : List StepState) (checkedAt : String) :
    List String → TaskResult Nat
  | [] => .ok 0
  | nodeId :: rest => do
      let bound ← boundActiveStep env store taskId nodeId states checkedAt
      let count ← countBoundActiveSteps taskId states checkedAt rest
      return if bound then count + 1 else count

end Bound

/-! ## 3. Admission -/

/-- What the admission of one step ends in. -/
inductive StepAdmission (σ : Type) where
  | skipped
  | refused
  | admitted (store : Store σ)

section Admission

variable (env : Env σ)

def startStep (attemptId admittedAt : String) (s : StepRow) : StepRow :=
  if s.attemptId = attemptId && s.state = .ready then
    { s with
      revision := s.revision + 1
      state := .running
      startedAt := some (s.startedAt.getD admittedAt)
      updatedAt := admittedAt }
  else s

def executionStartedEvent (digest : Digest) (taskId admittedAt : String) (s : StepRow)
    (b : BindingRow) : Json := Json.ofFields [
  ("schema_version", some (.str schemaVersion)),
  ("event_id", some (.str (attemptAdmittedEventId digest s.attemptId b.bindingId))),
  ("task_id", some (.str taskId)),
  ("event_type", some (.str "execution.started")),
  ("timestamp", some (.str admittedAt)),
  ("actor", some (Json.ofFields [("kind", some (.str "provider")), ("id", some (.str b.providerId))])),
  ("status", some (.str "success")),
  ("semantic_program_hash", some (.str s.semanticProgramHash)),
  ("registry_snapshot_id", some (.str b.registrySnapshotId)),
  ("step_id", some (.str s.nodeId)),
  ("execution_binding_id", some (.str b.bindingId)),
  ("provider_id", some (.str b.providerId)),
  ("provider_version", some (.str b.providerVersion)),
  ("details", some (Json.ofFields [
    ("attempt_id", some (.str s.attemptId)),
    ("binding_id", some (.str b.bindingId)),
    ("node_id", some (.str s.nodeId))]))]

/-- The authority of a step that is about to start. -/
def stepAuthorized (store : Store σ) (taskId : String) (s : StepRow) (b : BindingRow)
    (admittedAt : String) : TaskResult Bool := do
  let program ← env.reads.activeProgramValidationValid store taskId s.semanticProgramHash
  if !program then return false
  let check := bindingCheck s b admittedAt
  let grants ← env.reads.bindingGrantsValid store check
  if !grants then return false
  env.reads.outputAllocationsReady store check

def admitStep (store : Store σ) (taskId nodeId admittedAt : String) :
    TaskResult (StepAdmission σ) :=
  let ready := readyAttempts store.core taskId nodeId
  if ready.isEmpty then .ok .skipped
  else if ready.length ≠ 1 || latestActiveAttemptCount store.core taskId nodeId ≠ 1 then .ok .refused
  else match firstBound store.core ready with
    | none => .ok .refused
    | some (s, b) => do
        let authorized ← stepAuthorized env store taskId s b admittedAt
        if !authorized then return .refused
        if (store.core.steps.countP fun row => row.attemptId = s.attemptId && row.state = .ready) ≠ 1
          then return .refused
        let steps := store.core.steps.map (startStep s.attemptId admittedAt)
        let started := { store with core := { store.core with steps := steps } }
        let (appended, _) ← appendEvent env started taskId
          (executionStartedEvent env.digest taskId admittedAt s b)
        return .admitted appended

/-- Admits the steps one after the other; `none` where one of them is refused. -/
def admitSteps (taskId admittedAt : String) :
    List String → Store σ → Nat → TaskResult (Option (Store σ × Nat))
  | [], store, admitted => .ok (some (store, admitted))
  | nodeId :: rest, store, admitted => do
      match ← admitStep env store taskId nodeId admittedAt with
      | .skipped => admitSteps taskId admittedAt rest store admitted
      | .refused => return none
      | .admitted store => admitSteps taskId admittedAt rest store (admitted + 1)

/-- The store with every READY step started, or `none` where the start is refused. -/
def admitActiveSteps (store : Store σ) (taskId : String) (activeSteps : List String)
    (admittedAt : String) : TaskResult (Option (Store σ)) := do
  if activeSteps.isEmpty then return none
  let ended ← admitSteps env taskId admittedAt activeSteps store 0
  return (ended.filter fun e => 0 < e.2).map Prod.fst

end Admission

/-! ## 4. The grants of the coordinator -/

section Coordinator

variable (env : Env σ) (store : Store σ)

/-- The binding was finalized by the authority coordinator. -/
def coordinatorBinding (core : Core σ) (taskId bindingId attemptId : String) : Bool :=
  core.candidates.any fun c => c.taskId = taskId && c.bindingId = bindingId &&
    c.attemptId = attemptId && c.state = .finalized

/-- The grants of the coordinator's bindings; `none` where a binding lists none, too many or one
    twice. -/
def coordinatorGrants (core : Core σ) (taskId : String) : List String → Option (List String)
  | [] => some []
  | nodeId :: rest =>
      match firstBound core (readyAttempts core taskId nodeId) with
      | none => coordinatorGrants core taskId rest
      | some (s, b) =>
          if !coordinatorBinding core taskId b.bindingId s.attemptId then
            coordinatorGrants core taskId rest
          else if b.grantRefs.isEmpty || 64 < b.grantRefs.length || !b.grantRefs.Nodup then none
          else (coordinatorGrants core taskId rest).map (b.grantRefs ++ ·)

/-- Checks every grant, also after a denial, so that every expiry is latched. -/
def checkGrants (lease : Lease) (time : ProtectedTimeContext) :
    List String → Store σ → Bool → TaskResult (Store σ × Bool)
  | [], store, valid => .ok (store, valid)
  | grantId :: rest, store, valid => do
      let current ← env.reads.coordinatorGrantPolicyCurrent store grantId
      if !current then checkGrants lease time rest store false
      else do
        let (store, ok) ← checkAndLatchGrantDeadline env.time store grantId lease time
        checkGrants lease time rest store (valid && ok)

def readyCoordinatorGrantsValidIn (taskId : String) (activeSteps : List String) (lease : Lease)
    (time : ProtectedTimeContext) : TaskResult (Store σ × Bool) :=
  match coordinatorGrants store.core taskId activeSteps with
  | none => .ok (store, false)
  | some [] => .ok (store, true)
  | some grants => do
      let advanced ← advanceClockSessionIn store lease time
      checkGrants env lease time grants advanced true

end Coordinator

end Aios.Tasks
