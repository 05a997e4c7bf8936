/-
  File:      Aios/Tasks/Run.lean
  Subject:   RUNS THAT ARE DRIVEN: a store to start from, and one call taken through its phases with
             nothing in between.

  `runCall` is what a single caller sees when nobody interferes. Where it leads is reachable
  (`Reachable.runCall`), so a property of every reachable system can be tried on it.
-/
import Aios.Provenance.Pinned
import Aios.Tasks.Change

namespace Aios.Tasks

open Lib Json Provenance TaskState

variable {σ : Type} {env : Env σ}

/-! ## 1. An empty store -/

/-- The tables as they are created. -/
def Store.empty (lease : Lease) (clock : Clock) (other : σ) : Store σ where
  core := {
    tasks := ∅, events := [], steps := [], plans := [], programs := [], validations := []
    bindings := [], candidates := [], grants := [], issuances := [], deadlines := []
    approvals := [], authorityRequests := [], approvalDecisions := []
    lease := some lease, pendingMarkers := [], other := other }
  receipts := ∅
  clock := clock

theorem Store.fresh_empty (lease : Lease) (clock : Clock) (other : σ) :
    Fresh (Store.empty lease clock other) where
  tasks _ := Std.ExtTreeMap.getElem?_empty
  receipts _ := Std.ExtTreeMap.getElem?_empty
  events := rfl
  plans := rfl
  programs := rfl

/-! ## 2. One call, alone -/

/-- The call goes through its phases, one reading of the clocks for each, until it is done. -/
def runCall (env : Env σ) : List Reading → Store σ → Flight σ → Store σ × Flight σ
  | [], store, flight => (store, flight)
  | reading :: rest, store, flight =>
      if flight.phase.finished then (store, flight)
      else
        let next := advanceFlight env reading none store flight
        runCall env rest next.1 next.2

/-- One phase, then the rest. -/
theorem runCall_cons {reading : Reading} {store after : Store σ} {phase : Phase}
    (rest : List Reading) (flight : Flight σ) (hphase : flight.phase.finished = false)
    (h : advance env (flight.call env.digest) reading none store flight.phase = (after, phase)) :
    runCall env (reading :: rest) store flight = runCall env rest after
      ⟨flight.entry, flight.lease, phase, flight.sent, flight.trail ++ [(store, after)]⟩ := by
  have hnext : advanceFlight env reading none store flight =
      (after, ⟨flight.entry, flight.lease, phase, flight.sent, flight.trail ++ [(store, after)]⟩) := by
    unfold advanceFlight
    rw [h]
  rw [runCall, hphase, hnext]
  rfl

theorem Reachable.advances {store : Store σ} {flights : List (Flight σ)} {flight : Flight σ}
    (readings : List Reading) (h : Reachable env ⟨store, flights ++ [flight]⟩) :
    Reachable env ⟨(runCall env readings store flight).1,
      flights ++ [(runCall env readings store flight).2]⟩ := by
  induction readings generalizing store flight with
  | nil => exact h
  | cons reading rest ih =>
      unfold runCall
      split
      · exact h
      · next hphase => exact ih (h.step (.advance reading none rfl (by simpa using hphase)))

/-- **A call that nobody interferes with is a run.** -/
theorem Reachable.runCall {s : System σ} (h : Reachable env s) (lease : Lease) (entry : Entry)
    (readings : List Reading) :
    Reachable env
      ⟨(Tasks.runCall env readings s.store (sendFlight env.digest s.store lease entry)).1,
        s.flights ++ [(Tasks.runCall env readings s.store
          (sendFlight env.digest s.store lease entry)).2]⟩ :=
  (h.step (.send s lease entry)).advances readings

/-- Another operation, between calls. -/
theorem Reachable.otherwise {store after : Store σ} {flights : List (Flight σ)}
    (h : Reachable env ⟨store, flights⟩) (hsteady : Steady env store after) :
    Reachable env ⟨after, flights⟩ := h.step (.other hsteady)

theorem Reachable.creates {store after : Store σ} {flights : List (Flight σ)} {lease : Lease}
    {request : CreateTask} {constraints : Option Json} {nonce : Nonce} {createdAt : String}
    (h : Reachable env ⟨store, flights⟩)
    (hcreate : createTaskWithConstraints env store lease request constraints nonce createdAt =
      .ok after) : Reachable env ⟨after, flights⟩ :=
  h.step (.create lease request constraints nonce createdAt hcreate)

/-- A Task whose event is in the journal is created. -/
theorem createTaskWithConstraints_of {store appended : Store σ} {lease : Lease}
    {request : CreateTask} {nonce : Nonce} {createdAt : String} {row : EventRow}
    (hvalid : validCreateTask request = true) (hlease : assertManagerLease store lease = .ok ())
    (hfresh : store.task? request.taskId = none) (hintent : request.normalizedIntent = none)
    (happend : appendEvent env store request.taskId
      (taskCreatedEvent env.digest nonce.val request none none createdAt) = .ok (appended, row)) :
    createTaskWithConstraints env store lease request none nonce createdAt =
      .ok (appended.setTask request.taskId (createdRow env request none nonce createdAt row.eventId)) := by
  have hconstraints : validateTaskCreationConstraints env.journal.rfc3339 none = .ok () := rfl
  unfold createTaskWithConstraints
  rw [hconstraints, ok_bind, hvalid, hlease, hintent, hfresh]
  show (appendEvent env store request.taskId (taskCreatedEvent env.digest nonce.val request none none createdAt) >>=
    fun appended => _) = _
  rw [happend]
  rfl

/-! ## 3. Calls that end early -/

section Early

variable {call : Call} {store : Store σ} {requestJson resultedAt : String} (reading : Reading)

/-- A request against the contract ends in an error. -/
theorem startPhase_invalid (h : validTransitionRequest call.request call.internalRecovery = false) :
    startPhase env call reading = .done (.error
      (.invalidRecord "transition request does not satisfy the v0.1 contract")) := by
  unfold startPhase validateTransitionRequest
  rw [h]
  rfl

theorem startPhase_main (h : validTransitionRequest call.request call.internalRecovery = true)
    (hto : call.request.toState ≠ running)
    (hcanonical : canonicalJson env call.request.toJson = .ok requestJson) :
    startPhase env call reading = .main requestJson reading.now := by
  unfold startPhase validateTransitionRequest
  rw [h]
  show (if call.request.toState = running then Phase.assess else _) = _
  rw [if_neg hto, hcanonical]

/-- An initial program that fits its request is admitted. -/
theorem persistInitialProgramAdmissionIn_of {request : TransitionRequest}
    {admission : InitialProgramAdmission} {program : ValidatedProgram} {plan : ActivePlan} {task : TaskRow}
    {committedAt : String}
    (hmove : request.expectedState = created ∧ request.toState = planning ∧ request.expectedRevision = 1)
    (hreason : request.reason = ⟨"PROGRAM_ADMITTED", none, admissionRefs admission⟩)
    (hvalidated : env.reads.validateInitialProgram store admission committedAt = .ok program)
    (hprogram : program.registrySnapshotId = some admission.registrySnapshotId ∧ program.irVersion = some "0.1" ∧
      request.mutation.activeStepIds = some [program.nodeId])
    (hplan : request.mutation.activePlan = some plan) (hfirst : plan.revision = 1)
    (hkeys : admissionKeyTaken store.core request.taskId (validationResultId env.digest request.transitionId) = false)
    (hfound : store.task? request.taskId = some task)
    (hnew : task.revision = 1 ∧ task.state = created ∧ task.activeProgramRevision = none ∧
      task.activePlanRevision = none) :
    persistInitialProgramAdmissionIn env store request admission committedAt =
      .ok (({ store with
        core := admissionRows env.digest store.core request admission program plan committedAt } :
          Store σ).setTask request.taskId { task with activeProgramRevision := some 1 }) := by
  obtain ⟨hstate, hto, hrevision⟩ := hmove
  obtain ⟨hsnapshot, hversion, hsteps⟩ := hprogram
  obtain ⟨hone, hcreated, hnoProgram, hnoPlan⟩ := hnew
  have hkept : (store.task? request.taskId).filter (fun t => t.revision = 1 && t.state = created &&
      t.activeProgramRevision.isNone && t.activePlanRevision.isNone) = some task := by
    rw [hfound, Option.filter_some, hone, hcreated, hnoProgram, hnoPlan]
    rfl
  simp only [persistInitialProgramAdmissionIn, hstate, hto, hrevision, hreason, hvalidated, hsnapshot, hversion,
    hsteps, hplan, hfirst, hkeys, hkept, rejectIf, expect, ok_bind, ne_eq, not_true_eq_false, decide_false,
    Bool.or_self, Bool.false_eq_true, if_false]
  rfl

theorem activatePlan_of {taskId : String} {plan : ActivePlan} {task : TaskRow}
    (hrange : plan.revision ≤ maxI64) (hplan : (store.core.plans.any fun r => r.taskId = taskId &&
      r.planRevision = plan.revision && r.planId = plan.planId) = true) (htask : store.task? taskId = some task) :
    activatePlan store taskId (some plan) =
      .ok (store.setTask taskId { task with activePlanRevision := some plan.revision }) := by
  have hin : ¬maxI64 < plan.revision := by omega
  simp only [activatePlan, hin, decide_false, hplan, htask, rejectIf, expect, ok_bind, Bool.not_true,
    Bool.false_eq_true, if_false]
  rfl

/-- An event that is in the journal finishes its transition. -/
theorem applyTransition_committed {task current : TaskRow} {stored appended planned : Store σ}
    {active : Option Nat} {program : Option Json} {row : EventRow}
    (hcancel : call.request.toState ≠ cancelled)
    (hadmission : persistAdmission env store call task resultedAt = .ok (stored, active))
    (hprogram : activeProgramEvent env stored.core call.request.taskId active = .ok program)
    (hnonce : task.intentCommitmentNonce.length = 32)
    (happend : appendEvent env stored call.request.taskId (transitionEvent env.digest
      task.intentCommitmentNonce call.request task.revision task.state program resultedAt) =
        .ok (appended, row))
    (hroom : task.revision + 1 ≤ maxI64) (hcurrent : appended.task? call.request.taskId = some current)
    (hsame : current.revision = task.revision ∧ current.state = task.state)
    (hplan : activatePlan (appended.setTask call.request.taskId
      (current.apply task call.request row.eventId resultedAt)) call.request.taskId
        call.request.mutation.activePlan = .ok planned)
    (hfresh : planned.receipt? call.request.transitionId = none) :
    applyTransition env store call task requestJson resultedAt none =
      .ok (.committed (planned.setReceipt call.request.transitionId (committedReceipt call.request requestJson
        (task.revision + 1) (applied call.request task.revision (task.revision + 1) task.state row.eventId
          row.eventHash resultedAt) resultedAt))
        (applied call.request task.revision (task.revision + 1) task.state row.eventId row.eventHash
          resultedAt)) := by
  have hfound : (appended.task? call.request.taskId).filter (fun t =>
      t.revision = task.revision && t.state = task.state) = some current := by
    rw [hcurrent, Option.filter_some, hsame.1, hsame.2]
    simp
  have hbound : rejectIf (decide (maxI64 < task.revision + 1))
      (.invalidRecord "Task revision exceeds SQLite range" : TaskManagerError) = .ok () :=
    rejectIf_ok.mpr (decide_eq_false (by omega))
  have hnonce' : rejectIf (decide (task.intentCommitmentNonce.length ≠ 32))
      (.invalidRecord "Task provenance commitment nonce is invalid" : TaskManagerError) = .ok () :=
    rejectIf_ok.mpr (decide_eq_false (by omega))
  unfold applyTransition
  rw [hadmission, ok_bind]
  show (activeProgramEvent env stored.core call.request.taskId active >>= fun program => _) = _
  rw [hprogram, ok_bind, hnonce', ok_bind]
  show (appendEvent env stored call.request.taskId _ >>= fun appended => _) = _
  rw [happend, ok_bind]
  show finishTransition env appended call task requestJson resultedAt none row = _
  unfold finishTransition
  rw [hbound, ok_bind, hfound]
  show (activatePlan (if call.request.toState = cancelled then _ else _) _ _ >>= fun _ => _) = _
  rw [if_neg hcancel, hplan, ok_bind]
  show (insertReceipt planned _ _ >>= fun _ => _) = _
  unfold insertReceipt
  rw [hfresh]
  rfl

/-- A request that is not rejected and that applies is committed. -/
theorem mainPhase_committed {task : TaskRow} {after : Store σ} {result : TransitionResult}
    (hto : call.request.toState ≠ running) (hlease : assertManagerLease store call.lease = .ok ())
    (hfresh : store.receipt? call.request.transitionId = none)
    (hfound : store.task? call.request.taskId = some task)
    (hrejection : rejection env store call task resultedAt = .ok none)
    (hbound : task.revision + 1 < 2 ^ 64)
    (happly : applyTransition env store call task requestJson resultedAt none =
      .ok (.committed after result)) :
    mainPhase env call reading none store requestJson resultedAt = (after, .done (.ok result)) := by
  have htransition : transition env store call requestJson resultedAt none =
      .ok (.committed after result) := by
    unfold transition
    rw [hlease, ok_bind, hfresh, hfound]
    show transitionTask env store call task requestJson resultedAt none = _
    unfold transitionTask
    have hroom : rejectIf (decide (2 ^ 64 ≤ task.revision + 1))
        (.invalidRecord "Task revision overflow" : TaskManagerError) = .ok () :=
      rejectIf_ok.mpr (decide_eq_false (by omega))
    rw [hrejection, ok_bind]
    show (rejectIf (decide (2 ^ 64 ≤ task.revision + 1))
        (.invalidRecord "Task revision overflow" : TaskManagerError) >>= fun _ => _) = _
    rw [hroom, ok_bind, if_neg hto, happly]
  unfold mainPhase
  rw [if_neg hto, htransition]
  rfl

/-- A request for a Task that is not there leaves its rejection. -/
theorem mainPhase_notFound (hlease : store.core.lease = some call.lease)
    (hto : call.request.toState ≠ running)
    (hreceipt : store.receipt? call.request.transitionId = none)
    (htask : store.task? call.request.taskId = none) :
    mainPhase env call reading none store requestJson resultedAt =
      (store.setReceipt call.request.transitionId (rejectionReceipt call.request requestJson
        (rejected call.request "TASK_NOT_FOUND" none resultedAt) resultedAt),
        .done (.ok (rejected call.request "TASK_NOT_FOUND" none resultedAt))) := by
  have hmain : transition env store call requestJson resultedAt none =
      .ok (.committed (store.setReceipt call.request.transitionId (rejectionReceipt call.request
        requestJson (rejected call.request "TASK_NOT_FOUND" none resultedAt) resultedAt))
        (rejected call.request "TASK_NOT_FOUND" none resultedAt)) := by
    unfold transition assertManagerLease
    rw [hlease, hreceipt, htask]
    unfold commitRejection persistRejection insertReceipt
    rw [hreceipt]
    simp [rejectIf, recordLocked]
    rfl
  unfold mainPhase
  simp only
  rw [if_neg hto]
  unfold faulty
  simp only
  rw [hmain]
  rfl

/-- A call that does not start the Task: the request is checked, then comes the transaction. -/
theorem Reachable.moveCall {s : System σ} (h : Reachable env s) (lease : Lease) (entry : Entry)
    (reading : Reading)
    (hvalid : validTransitionRequest (entry.call env.digest lease).request
      (entry.call env.digest lease).internalRecovery = true)
    (hto : (entry.call env.digest lease).request.toState ≠ running)
    (hcanonical : canonicalJson env (entry.call env.digest lease).request.toJson = .ok requestJson) :
    ∃ flight, Reachable env ⟨(mainPhase env (entry.call env.digest lease) reading none s.store
      requestJson reading.now).1, s.flights ++ [flight]⟩ := by
  have hstart := startPhase_main reading hvalid hto hcanonical
  have hfirst := runCall_cons [reading] (sendFlight env.digest s.store lease entry) rfl
    (congrArg (Prod.mk s.store) hstart)
  have hrun := h.runCall lease entry [reading, reading]
  rw [hfirst, runCall_cons [] _ rfl Prod.mk.eta.symm] at hrun
  exact ⟨_, hrun⟩

/-- A call that starts the Task: its time is assessed in between. -/
theorem Reachable.startCall {s : System σ} (h : Reachable env s) (lease : Lease) (entry : Entry)
    (reading : Reading) {clock : Clock} {assessment : TimeAssessment}
    (hvalid : validTransitionRequest (entry.call env.digest lease).request
      (entry.call env.digest lease).internalRecovery = true)
    (hto : (entry.call env.digest lease).request.toState = running)
    (hmarkers : s.store.core.pendingMarkers = [])
    (hsample : applySampleInTransaction env.time s.store.clock reading.sample = .ok (clock, assessment))
    (htime : assessment.requireTrustedTime env.time = .ok resultedAt)
    (hcanonical : canonicalJson env (entry.call env.digest lease).request.toJson = .ok requestJson) :
    Reachable env ⟨(mainPhase env (entry.call env.digest lease) reading none
        { s.store with clock := clock } requestJson resultedAt).1,
      s.flights ++ [⟨entry, lease, (mainPhase env (entry.call env.digest lease) reading none
        { s.store with clock := clock } requestJson resultedAt).2,
        s.store.receipt? (entry.call env.digest lease).request.transitionId,
        [(s.store, s.store), (s.store, { s.store with clock := clock }),
          ({ s.store with clock := clock }, (mainPhase env (entry.call env.digest lease) reading none
            { s.store with clock := clock } requestJson resultedAt).1)]⟩]⟩ := by
  have hstart : startPhase env (entry.call env.digest lease) reading = .assess := by
    unfold startPhase validateTransitionRequest
    rw [hvalid]
    exact if_pos hto
  have hassess : assessPhase env (entry.call env.digest lease) reading none s.store =
      ({ s.store with clock := clock }, .main requestJson resultedAt) := by
    unfold assessPhase
    rw [hmarkers, hsample]
    show (_, assessed env _ assessment) = _
    unfold assessed
    rw [htime, hcanonical]
    rfl
  have hfirst := runCall_cons [reading, reading] (sendFlight env.digest s.store lease entry) rfl
    (congrArg (Prod.mk s.store) hstart)
  have hsecond := runCall_cons [reading] ⟨entry, lease, .assess,
    s.store.receipt? (entry.call env.digest lease).request.transitionId, [(s.store, s.store)]⟩
    rfl hassess
  have hrun := h.runCall lease entry [reading, reading, reading]
  rw [hfirst] at hrun
  have hrun : Reachable env ⟨(Tasks.runCall env [reading, reading] s.store ⟨entry, lease, .assess,
      s.store.receipt? (entry.call env.digest lease).request.transitionId, [(s.store, s.store)]⟩).1,
      s.flights ++ [(Tasks.runCall env [reading, reading] s.store ⟨entry, lease, .assess, s.store.receipt?
        (entry.call env.digest lease).request.transitionId, [(s.store, s.store)]⟩).2]⟩ := hrun
  rw [hsecond, runCall_cons [] _ rfl Prod.mk.eta.symm] at hrun
  exact hrun

end Early

/-! ## 4. A request for a Task that is not there -/

/-- What the queries answer about a Task without a program, steps or executions. -/
def idleReads : GuardReads σ where
  activeProgramValidationValid := fun _ _ _ => .ok false
  bindingGrantsValid := fun _ _ => .ok false
  outputAllocationsReady := fun _ _ => .ok false
  coordinatorGrantPolicyCurrent := fun _ _ => .ok false
  unresolvedExecutionCount := fun _ _ => .ok 0
  recoveryAllowsExit := fun _ _ => .ok false
  executionIsContained := fun _ _ => .ok true
  activeExecutionIsContained := fun _ _ => .ok true
  cancellationExecutionIsContained := fun _ _ => .ok true
  activeStepCompletionFacts := fun _ _ _ => .ok none
  hasCurrentVerification := fun _ _ _ => .ok false
  validateInitialProgram := fun _ _ _ => .error (.invalidRecord "initial program is not valid")

def strayRequest : TransitionRequest :=
  ⟨"0.1", "x", "t", 1, created, planning, ⟨"user", "u"⟩, ⟨"GO", none, []⟩, TaskMutation.default⟩

/-- The canonical text of the request. -/
def strayText : String := "\x7b\"expected_revision\":1,\"expected_state\":\"CREATED\",\"mutation\":" ++
  "\x7b\x7d,\"reason\":\x7b\"code\":\"GO\",\"message\":null,\"related_ids\":[]\x7d,\"requested_by\":" ++
  "\x7b\"id\":\"u\",\"kind\":\"user\"\x7d,\"schema_version\":\"0.1\",\"task_id\":\"t\"," ++
  "\"to_state\":\"PLANNING\",\"transition_id\":\"x\"\x7d"

/-- RFC 8785 for this one request. -/
def strayDigest : Digest where
  canonical := fun v =>
    if v = strayRequest.toJson then .ok strayText.toUTF8.data.toList else .error "not canonical"
  sha256 := Sha256.sha256
  size := Sha256.length_sha256

/-- Surroundings that know this one request. -/
def strayEnv : Env Unit where
  journal := { sampleJournal with
    digest := strayDigest
    rfc3339 := fun text =>
      if text = noon then some 1789819200000000000
      else if text = "1970-01-01T00:00:00Z" then some 0 else none }
  parseJson := fun text => if text = strayText then some strayRequest.toJson else none
  printJson := fun _ => strayText
  formatNanos := fun _ => none
  reads := idleReads

def strayLease : Lease := ⟨"owner", 1⟩

def strayStore : Store Unit := .empty strayLease ⟨none, [], [], []⟩ ()

theorem stray_canonical : canonicalJson strayEnv strayRequest.toJson = .ok strayText := by
  have hbytes : strayDigest.canonical strayRequest.toJson = .ok strayText.toUTF8.data.toList := by
    simp only [strayDigest, if_pos]
  exact canonicalJson_ok hbytes

/-- The store with the rejection of the request. -/
def strayRejected : Store Unit :=
  strayStore.setReceipt "x" (rejectionReceipt strayRequest strayText
    (rejected strayRequest "TASK_NOT_FOUND" none noon) noon)

/-- The call after its two phases. -/
def strayFlight : Flight Unit where
  entry := .transition strayRequest
  lease := strayLease
  phase := .done (.ok (rejected strayRequest "TASK_NOT_FOUND" none noon))
  sent := none
  trail := [(strayStore, strayStore), (strayStore, strayRejected)]

/-- **A first send for a Task that is not there is a run**, and leaves its rejection. -/
theorem stray_reachable : Reachable strayEnv ⟨strayRejected, [strayFlight]⟩ := by
  have hsent : strayStore.receipt? "x" = none := Std.ExtTreeMap.getElem?_empty
  have hstart : startPhase strayEnv ⟨strayLease, strayRequest, false, none⟩ ⟨noon, none⟩ =
      .main strayText noon :=
    startPhase_main ⟨noon, none⟩ (by decide +kernel) (by decide) stray_canonical
  have hmain : mainPhase strayEnv ⟨strayLease, strayRequest, false, none⟩ ⟨noon, none⟩ none strayStore
      strayText noon = (strayRejected, .done (.ok (rejected strayRequest "TASK_NOT_FOUND" none noon))) :=
    mainPhase_notFound ⟨noon, none⟩ rfl (by decide) hsent Std.ExtTreeMap.getElem?_empty
  have hfirst := runCall_cons [⟨noon, none⟩] ⟨.transition strayRequest, strayLease, .start, none, []⟩ rfl
    (show advance strayEnv ⟨strayLease, strayRequest, false, none⟩ ⟨noon, none⟩ none strayStore .start =
      (strayStore, .main strayText noon) from congrArg (Prod.mk strayStore) hstart)
  have hsecond := runCall_cons [] ⟨.transition strayRequest, strayLease, .main strayText noon, none,
    [(strayStore, strayStore)]⟩ rfl
    (show advance strayEnv ⟨strayLease, strayRequest, false, none⟩ ⟨noon, none⟩ none strayStore
      (.main strayText noon) = _ from hmain)
  have hfresh : Fresh strayStore := Store.fresh_empty strayLease ⟨none, [], [], []⟩ ()
  have h : Reachable strayEnv _ := (Reachable.start hfresh).runCall strayLease
    (.transition strayRequest) [⟨noon, none⟩, ⟨noon, none⟩]
  unfold sendFlight at h
  rw [show ((Entry.transition strayRequest).call strayEnv.digest strayLease).request.transitionId = "x"
    from rfl, hsent, hfirst] at h
  simp only [List.nil_append] at h
  rw [hsecond] at h
  exact h

end Aios.Tasks
