/-
  File:      Aios/Tasks/Backed.lean
  Subject:   THE TASK ROW AND ITS HISTORY NEVER DRIFT APART.

  A row is backed (`Backed`) where the fold of the Task's events says what the row and the tables of
  plans and programs say. A creation starts it, every applied transition carries it on, and nothing
  else touches the history of a Task or its row (`HeadsSound.change`). A backed row passes
  `verifyTaskHead`. The one thing that may break it lies outside the fold: the normalized intent is
  stored as `serde_json` printed it, and what is read back must have the canonical text that was
  committed to (`ReadsBack`).
-/
import Aios.Tasks.Head
import Aios.Tasks.Replay

namespace Aios.Tasks

open Lib Json Provenance TaskState

variable {σ : Type} {env : Env σ}

/-! ## 1. Reading the events back -/

theorem asI64_encodeNat {n : Nat} (h : n ≤ maxSafeJsonInteger) : asI64 (encodeNat n) = some (n : Int) := by
  have hle : n ≤ maxI64 := by
    unfold maxSafeJsonInteger at h
    unfold maxI64
    omega
  exact if_pos hle

/-- An optional member of an event, where no value is written as `null`. -/
theorem filter_encodeOption {α : Type} {f : α → Json} (hf : ∀ a, f a ≠ .null) (o : Option α) :
    (some (encodeOption f o)).filter (fun v => decide (v ≠ Json.null)) = o.map f := by
  cases o with
  | none => rfl
  | some a =>
      rw [Option.filter_some, if_pos (decide_eq_true (show encodeOption f (some a) ≠ .null from hf a))]
      rfl

theorem present_field {α : Type} {f : α → Json} {value : Json} {key : String} {o : Option α}
    (hf : ∀ a, f a ≠ .null) (h : value.get? key = some (encodeOption f o)) :
    present value key = o.map f := by
  unfold present
  rw [h]
  exact filter_encodeOption hf o

section Present

variable (mutation : TaskMutation)

theorem present_activePlan : present (committedMutation mutation) "active_plan" =
    mutation.activePlan.map ActivePlan.toJson :=
  present_field (fun _ => by unfold ActivePlan.toJson; nofun) (by simp [committedMutation])

theorem present_activeStepIds : present (committedMutation mutation) "active_step_ids" =
    mutation.activeStepIds.map encodeTexts :=
  present_field (fun _ => by unfold encodeTexts; nofun) (by simp [committedMutation])

theorem present_waitingOn : present (committedMutation mutation) "waiting_on" =
    mutation.waitingOn.map provenanceWaitingOn :=
  present_field (fun _ => by unfold provenanceWaitingOn; nofun) (by simp [committedMutation])

theorem present_failure : present (committedMutation mutation) "failure" =
    mutation.failure.map provenanceFailure :=
  present_field (fun _ => by unfold provenanceFailure; nofun) (by simp [committedMutation])

theorem present_recovery : present (committedMutation mutation) "recovery" =
    mutation.recovery.map RecoveryMutation.toJson :=
  present_field (fun _ => by unfold RecoveryMutation.toJson; nofun) (by simp [committedMutation])

end Present

/-! ## 2. Programs -/

variable {taskId : String} {row : TaskRow} {m : Material}

/-- The program an event names is the one that is loaded, and the digest beside it is the one that
    is computed again. -/
theorem replayProgram_event {core : Core σ} {revision : Option Nat}
    {program : Option Json} (hkept : ∀ n, revision = some n → ProgramKept core taskId n)
    (h : activeProgramEvent env core taskId revision = .ok program) :
    ∃ loaded digest, loadActiveProgram core taskId revision = .ok loaded ∧
      storedProgramDigest env core taskId revision = .ok digest ∧
      ∀ old, (revision = none → old = (none, none)) →
        replayProgram ((some (program.getD .null)).filter fun v => decide (v ≠ Json.null)) old =
          .ok (loaded, digest) := by
  cases revision with
  | none =>
      have e : none = program := Except.ok.inj h
      rw [← e]
      exact ⟨none, none, rfl, rfl, fun old hold => by rw [hold rfl]; rfl⟩
  | some n =>
      obtain ⟨p, v, hp, hv, hhash, hsnapshot⟩ := hkept n rfl
      obtain ⟨hash, hhash⟩ := Option.isSome_iff_exists.mp hhash
      obtain ⟨snapshot, hsnapshot⟩ := Option.isSome_iff_exists.mp hsnapshot
      unfold activeProgramEvent at h
      simp only [bind_eq_ok', expect_ok] at h
      obtain ⟨q, hq, content, hcontent, h⟩ := h
      have e : q = p := Option.some.inj (hq.symm.trans hp)
      subst e
      rw [hv] at h
      have hrow : activeProgramRow core taskId (some n) = some q := hp
      refine ⟨some (ofFields [
        ("ir_version", some (.str q.irVersion)),
        ("program_id", some (.str q.programId)),
        ("semantic_hash", some (.str hash)),
        ("registry_snapshot_id", some (.str snapshot)),
        ("validation_result_id", some (encodeOption .str q.validationResultId)),
        ("validated_at", some (.str v.validatedAt)),
        ("validator_id", some (.str v.validatorId)),
        ("validator_version", some (.str v.validatorVersion))]), some content, ?_, ?_, fun old _ => ?_⟩
      · unfold loadActiveProgram
        rw [hrow]
        simp only [hhash, hsnapshot, validationOf, hv]
        rfl
      · unfold storedProgramDigest
        rw [hrow]
        simp only [hcontent]
        rfl
      · rw [← Except.ok.inj h, Option.getD_some, Option.filter_some,
          if_pos (decide_eq_true (by unfold ofFields; intro h; cases h))]
        have hrest : removeMember "program_content_digest" (members [
            ("program_id", some (.str q.programId)),
            ("ir_version", some (.str q.irVersion)),
            ("semantic_hash", some (encodeOption .str q.semanticHash)),
            ("registry_snapshot_id", some (encodeOption .str q.registrySnapshotId)),
            ("validation_result_id", some (encodeOption .str q.validationResultId)),
            ("validated_at", some (encodeOption .str ((some v).map ValidationRow.validatedAt))),
            ("validator_id", some (encodeOption .str ((some v).map ValidationRow.validatorId))),
            ("validator_version", some (encodeOption .str ((some v).map ValidationRow.validatorVersion))),
            ("program_content_digest", some (.str content))]) = members [
            ("ir_version", some (.str q.irVersion)),
            ("program_id", some (.str q.programId)),
            ("semantic_hash", some (.str hash)),
            ("registry_snapshot_id", some (.str snapshot)),
            ("validation_result_id", some (encodeOption .str q.validationResultId)),
            ("validated_at", some (.str v.validatedAt)),
            ("validator_id", some (.str v.validatorId)),
            ("validator_version", some (.str v.validatorVersion))] := by
          rw [removeMember_members, hhash, hsnapshot]
          refine ext_lookup (sorted_members _) (sorted_members _) fun key => ?_
          -- the two records list their first two fields in different order
          by_cases hversion : key = "ir_version"
          · rw [hversion]
            simp
          · simp [hversion, encodeOption]
        show Except.ok (some (Json.obj (removeMember "program_content_digest" (members _))), _) = _
        rw [hrest]
        refine congrArg Except.ok (Prod.ext rfl ?_)
        simp [Json.asStr]

/-! ## 3. Backed rows -/

/-- What the creation event of this row says. -/
def creationOf (digest : Digest) (row : TaskRow) (normalized constraints : Option Json) : Json :=
  ofFields [
    ("principal", some row.principal.toJson),
    ("workspace_id", some (encodeOption .str row.workspaceId)),
    ("original_intent_ref",
      some (taskFieldCommitment digest row.intentCommitmentNonce "original_intent" row.originalIntent)),
    ("normalized_intent_ref", some (normalized.getD .null)),
    ("constraints", some (constraints.getD .null)),
    ("created_at", some (.str row.createdAt))]

/-- The creation fields of the row as they are read back, and the record they make. -/
structure CreationBacked (env : Env σ) (row : TaskRow) (creation : Option Json) : Prop where
  reads : ∃ intent constraints normalized, decodeOptional env row.normalizedIntent = .ok intent ∧
    decodeOptional env row.constraints = .ok constraints ∧
    normalizedIntentRef env row.intentCommitmentNonce intent = .ok normalized ∧
    creation = some (creationOf env.digest row normalized constraints)

/-- The plan and the program the row points to, stored and as the history names them. -/
structure ProgramBacked (env : Env σ) (core : Core σ) (taskId : String) (row : TaskRow) (m : Material) :
    Prop where
  plan : m.activePlan = loadActivePlan core taskId row.activePlanRevision
  planKept : ∀ n, row.activePlanRevision = some n → ∃ r ∈ core.plans, r.key = (taskId, n)
  program : loadActiveProgram core taskId row.activeProgramRevision = .ok m.activeProgram
  digest : storedProgramDigest env core taskId row.activeProgramRevision = .ok m.activeProgramDigest
  programKept : ∀ n, row.activeProgramRevision = some n → ProgramKept core taskId n

/-- The history of the Task says what its row says. -/
structure Backed (env : Env σ) (core : Core σ) (taskId : String) (row : TaskRow) (m : Material) :
    Prop where
  revision : m.revision = row.revision
  state : m.state = some row.state
  nonce : row.intentCommitmentNonce.length = 32
  creation : CreationBacked env row m.creation
  programs : ProgramBacked env core taskId row m
  steps : m.steps = row.activeStepIds
  waiting : m.waiting = provenanceWaitingOn row.waitingOn
  waitingCommitments : m.waitingCommitments =
    provenanceWaitingCommitments env.digest row.intentCommitmentNonce row.waitingOn
  failure : m.failure = row.failure.map provenanceFailure
  failureCommitment : m.failureCommitment =
    row.failure.map (provenanceFailureCommitment env.digest row.intentCommitmentNonce)
  recovery : m.recovery = row.recovery.map RecoveryMutation.toJson
  reason : m.stateReason = row.stateReason.map reasonWithoutMessage
  message : m.reasonMessageRef =
    row.stateReason.bind (expectedReasonMessageRef env row.intentCommitmentNonce)
  updatedAt : m.updatedAt = some row.updatedAt
  completedAt : row.completedAt = if row.state = completed then some row.updatedAt else none

/-- A plan that was found is found again. -/
theorem loadActivePlan_added {before after : Core σ} {revision : Option Nat}
    (h : ProgramsAdded before after)
    (hkept : ∀ n, revision = some n → ∃ r ∈ before.plans, r.key = (taskId, n)) :
    loadActivePlan after taskId revision = loadActivePlan before taskId revision := by
  cases revision with
  | none => rfl
  | some n =>
      obtain ⟨r, hr, hkey⟩ := hkept n rfl
      have htask : r.taskId = taskId := congrArg Prod.fst hkey
      have hrevision : r.planRevision = n := congrArg Prod.snd hkey
      unfold loadActivePlan
      rw [Option.bind_some, Option.bind_some]
      cases hf : before.plans.find? (fun r => decide (r.taskId = taskId) &&
          decide (r.planRevision = n)) with
      | none =>
          have := List.find?_eq_none.mp hf r hr
          simp [htask, hrevision] at this
      | some found => rw [find?_grown h.plans hf]

/-- New programs of other admissions change nothing for a Task that has its own. -/
theorem ProgramBacked.added {before after : Core σ}
    (h : ProgramBacked env before taskId row m) (hadded : ProgramsAdded before after) :
    ProgramBacked env after taskId row m := by
  have hsame : loadActiveProgram after taskId row.activeProgramRevision =
        loadActiveProgram before taskId row.activeProgramRevision ∧
      storedProgramDigest env after taskId row.activeProgramRevision =
        storedProgramDigest env before taskId row.activeProgramRevision := by
    have hkept := h.programKept
    cases hrevision : row.activeProgramRevision with
    | none => exact ⟨rfl, rfl⟩
    | some n =>
        obtain ⟨p, v, hp, hv, _, _⟩ := hkept n hrevision
        obtain ⟨hp', hv'⟩ := hadded.finds hp hv
        have hbefore : activeProgramRow before taskId (some n) = some p := hp
        have hafter : activeProgramRow after taskId (some n) = some p := hp'
        unfold loadActiveProgram storedProgramDigest
        rw [hbefore, hafter]
        simp only [validationOf, hv, hv', and_self]
  exact {
    plan := h.plan.trans (loadActivePlan_added hadded h.planKept).symm
    planKept := fun n hn => by
      obtain ⟨r, hr, hkey⟩ := h.planKept n hn
      exact ⟨r, hadded.plans.subset hr, hkey⟩
    program := hsame.1.trans h.program
    digest := hsame.2.trans h.digest
    programKept := fun n hn => (h.programKept n hn).added hadded }

theorem Backed.added {before after : Core σ}
    (h : Backed env before taskId row m) (hadded : ProgramsAdded before after) :
    Backed env after taskId row m := { h with programs := h.programs.added hadded }

/-- **A backed row passes the comparison.** -/
theorem Backed.accepted {core : Core σ}
    (h : Backed env core taskId row m) (hrow : core.tasks[taskId]? = some row)
    (hverified : verifyProvenanceThrough env core.events taskId none = .ok true)
    (hhistory : replayEvents .start (taskHistory core.events taskId) = .ok m) :
    verifyTaskHead env core taskId row.revision row.state = .ok () := by
  obtain ⟨intent, constraints, normalized, hintent, hconstraints, hnormalized, hcreation⟩ :=
    h.creation.reads
  -- the record that is loaded
  obtain ⟨task, htask, hload⟩ : ∃ task, loadTask env core taskId row = .ok task ∧
      task.normalizedIntent = intent ∧
      materialMatches env row.intentCommitmentNonce task normalized m.activeProgramDigest m = true := by
    unfold loadTask
    rw [h.programs.program, ok_bind, hintent, ok_bind, hconstraints, ok_bind]
    refine ⟨_, rfl, rfl, ?_⟩
    have hcompleted : row.completedAt = if m.state = some completed then some row.updatedAt else none := by
      rw [h.state, h.completedAt]
      simp
    simp only [materialMatches, hcreation, h.updatedAt, h.programs.plan, h.steps, h.waiting,
      h.waitingCommitments, h.failure, h.failureCommitment, h.recovery, h.reason, h.message,
      Option.getD_some, decide_true, Bool.and_true]
    exact Bool.and_eq_true_iff.mpr ⟨decide_eq_true rfl, decide_eq_true hcompleted⟩
  have hstate : (decide (m.revision ≠ row.revision) || decide (m.state ≠ some row.state)) = false := by
    simp [h.revision, h.state]
  have hget : getTask env core taskId = .ok (some task) := by
    unfold getTask
    rw [hrow]
    simp only [htask]
    rfl
  unfold verifyTaskHead
  simp only [hverified, hhistory, hget, hrow, bind_eq_ok', exists_unit, expect_ok, rejectIf_ok]
  refine ⟨true, rfl, rfl, m, rfl, hstate, some task, rfl, task, rfl, row, rfl, ?_, normalized, ?_,
    m.activeProgramDigest, h.programs.digest, ?_⟩
  · exact decide_eq_false (not_not.mpr h.nonce)
  · rw [hload.1]
    exact hnormalized
  · rw [hload.2]
    rfl

/-! ## 4. Creation and transition -/

/-- The first event of a Task, folded. -/
theorem replay_created (digest : Digest) (nonce : List UInt8) (request : CreateTask)
    (normalized constraints : Option Json) (createdAt : String) :
    replayEvent .start (taskCreatedEvent digest nonce request normalized constraints createdAt) =
      .ok { Material.start with
        revision := 1
        state := some created
        creation := some (creationDetails digest nonce request normalized constraints createdAt)
        updatedAt := some createdAt
        steps := request.activeStepIds
        stateReason := some (reasonRecord (.str "TASK_CREATED")
          (some (taskCreatedEventId digest request.taskId))) } := by
  have hone : asI64 (encodeNat 1) = some 1 := asI64_encodeNat (by decide)
  have htype : stringField (taskCreatedEvent digest nonce request normalized constraints createdAt)
      "event_type" = some "task.created" := by
    simp [stringField, taskCreatedEvent, Json.asStr]
  unfold replayEvent
  rw [if_pos htype]
  unfold replayCreation
  simp only [bind_eq_ok', exists_unit, expect_ok, rejectIf_ok]
  refine ⟨creationDetails digest nonce request normalized constraints createdAt, ?_, ?_,
    request.activeStepIds, ?_, ?_⟩
  · simp [pointer, taskCreatedEvent]
  · simp [pointer, taskCreatedEvent, creationDetails, hone, Material.start]
  · simp [pointer, taskCreatedEvent]
  · simp [stringField, taskCreatedEvent, Json.asStr]
    rfl

section Moved

variable {digest : Digest} {nonce : List UInt8} {request : TransitionRequest} {revision : Nat}
  {state : TaskState} {program : Option Json} {resultedAt : String} {m : Material}

/-- One transition, folded: what the mutation sets is set, everything else is kept. -/
theorem replay_moved {loaded : Option Json} {content : Option String} (hrevision : m.revision = revision)
    (hstate : m.state = some state) (hallowed : allowedTransition state request.toState = true)
    (hsafe : revision + 1 ≤ maxSafeJsonInteger)
    (hprogram : replayProgram ((some (program.getD .null)).filter fun v => decide (v ≠ Json.null))
      (m.activeProgram, m.activeProgramDigest) = .ok (loaded, content)) :
    replayEvent m (transitionEvent digest nonce request revision state program resultedAt) = .ok {
      revision := revision + 1
      state := some request.toState
      creation := m.creation
      activePlan := request.mutation.activePlan.or m.activePlan
      activeProgram := loaded
      activeProgramDigest := content
      steps := request.mutation.activeStepIds.getD m.steps
      waiting := (request.mutation.waitingOn.map provenanceWaitingOn).getD m.waiting
      waitingCommitments := (request.mutation.waitingOn.map
        (provenanceWaitingCommitments digest nonce)).getD m.waitingCommitments
      failure := (request.mutation.failure.map provenanceFailure).or m.failure
      failureCommitment := (request.mutation.failure.map
        (provenanceFailureCommitment digest nonce)).or m.failureCommitment
      recovery := (request.mutation.recovery.map RecoveryMutation.toJson).or m.recovery
      stateReason := some (reasonRecord (.str request.reason.code)
        (some (transitionEventId digest request.transitionId)))
      reasonMessageRef := some (reasonMessageRef digest nonce request.reason)
      updatedAt := some resultedAt } := by
  have htype : stringField (transitionEvent digest nonce request revision state program resultedAt)
      "event_type" = some "task.transitioned" := by
    simp [stringField, transitionEvent, Json.asStr]
  have hplan : replayField (fun v => (ActivePlan.ofJson v).map some) "active_plan"
      (request.mutation.activePlan.map ActivePlan.toJson) m.activePlan =
      .ok (request.mutation.activePlan.or m.activePlan) := by
    cases request.mutation.activePlan with
    | none => rfl
    | some plan => simp [replayField, expect]
  have hsteps : replayField (decodeList asStr) "active_step_ids"
      (request.mutation.activeStepIds.map encodeTexts) m.steps =
      .ok (request.mutation.activeStepIds.getD m.steps) := by
    cases request.mutation.activeStepIds with
    | none => rfl
    | some steps => simp [replayField, expect]
  unfold replayEvent
  rw [if_neg (by rw [htype]; decide)]
  have hwaiting : replayCommitted (request.mutation.waitingOn.map provenanceWaitingOn)
      (some (encodeOption (provenanceWaitingCommitments digest nonce) request.mutation.waitingOn))
      (m.waiting, m.waitingCommitments) "waiting message commitments are missing" =
      .ok ((request.mutation.waitingOn.map provenanceWaitingOn).getD m.waiting,
        (request.mutation.waitingOn.map (provenanceWaitingCommitments digest nonce)).getD
          m.waitingCommitments) := by
    cases request.mutation.waitingOn with
    | none => rfl
    | some items => rfl
  have hfailure : replayFailure (request.mutation.failure.map provenanceFailure)
      (some (encodeOption (provenanceFailureCommitment digest nonce) request.mutation.failure))
      (m.failure, m.failureCommitment) =
      .ok ((request.mutation.failure.map provenanceFailure).or m.failure,
        (request.mutation.failure.map (provenanceFailureCommitment digest nonce)).or
          m.failureCommitment) := by
    cases request.mutation.failure with
    | none => rfl
    | some failure => rfl
  have hbound : m.revision + 1 ≤ maxI64 := by
    unfold maxSafeJsonInteger at hsafe
    unfold maxI64
    omega
  unfold replayTransition
  simp only [bind_eq_ok', exists_unit, expect_ok, rejectIf_ok]
  refine ⟨some state, ?_, some request.toState, ?_, ?_, committedMutation request.mutation, ?_,
    request.mutation.activePlan.or m.activePlan, ?_, request.mutation.activeStepIds.getD m.steps, ?_,
    ((request.mutation.waitingOn.map provenanceWaitingOn).getD m.waiting,
      (request.mutation.waitingOn.map (provenanceWaitingCommitments digest nonce)).getD
        m.waitingCommitments), ?_,
    ((request.mutation.failure.map provenanceFailure).or m.failure,
      (request.mutation.failure.map (provenanceFailureCommitment digest nonce)).or
        m.failureCommitment), ?_, (loaded, content), ?_, ?_⟩
  · simp [namedState, pointer, transitionEvent, taskTransition, encodeState, Json.asStr, expect]
  · simp [namedState, pointer, transitionEvent, taskTransition, encodeState, Json.asStr, expect]
  · have hbefore : asI64 (encodeNat revision) = some (revision : Int) := asI64_encodeNat (by omega)
    have hafter : asI64 (encodeNat (revision + 1)) = some ((revision + 1 : Nat) : Int) :=
      asI64_encodeNat hsafe
    simp [pointer, transitionEvent, taskTransition, hbefore, hafter, hrevision, hstate, hallowed,
      hrevision ▸ hbound]
  · simp [transitionEvent]
  · rw [present_activePlan]
    exact hplan
  · rw [present_activeStepIds]
    exact hsteps
  · rw [present_waitingOn]
    simpa [pointer, transitionEvent, transitionDetails, mutationTextCommitments] using hwaiting
  · rw [present_failure]
    simpa [pointer, transitionEvent, transitionDetails, mutationTextCommitments] using hfailure
  · simpa [pointer, transitionEvent, transitionDetails] using hprogram
  · rw [present_recovery, hrevision]
    simp [pointer, stringField, transitionEvent, transitionDetails, taskTransition, Json.asStr]
    rfl

end Moved

/-- What the surroundings do: constraints that pass their check are read back from their canonical
    text, and the epoch is a timestamp. -/
structure HeadLaws (env : Env σ) : Prop where
  constraints : ∀ (value : Json) (text : String),
    validateTaskCreationConstraints env.journal.rfc3339 (some value) = .ok () →
    canonicalJson env value = .ok text → env.parseJson text = some value
  epoch : (env.journal.rfc3339 "1970-01-01T00:00:00Z").isSome

/-- The text an intent is stored as is read back as a value with the same canonical text. -/
def ReadsBack (env : Env σ) (intent : Option Json) : Prop :=
  ∀ value text, intent = some value → canonicalJson env value = .ok text →
    ∃ again, env.parseJson (env.printJson value) = some again ∧ canonicalJson env again = .ok text

section Creation

variable {request : CreateTask} {constraints : Option Json} {nonce : Nonce} {createdAt : String}
  {before after : Store σ} {normalized constraintsJson : Option String} {row : EventRow}

theorem CreationStored.creationBacked (laws : HeadLaws env) (hreads : ReadsBack env request.normalizedIntent)
    (h : CreationStored env request constraints nonce createdAt before after normalized constraintsJson
      row) :
    CreationBacked env (createdRow env request constraintsJson nonce createdAt row.eventId)
      (some (creationDetails env.digest nonce.val request
        (normalized.map (taskFieldCommitment env.digest nonce.val "normalized_intent")) constraints
        createdAt)) := by
  have hintent : ∃ intent, decodeOptional env (request.normalizedIntent.map env.printJson) =
      .ok intent ∧ normalizedIntentRef env nonce.val intent =
        .ok (normalized.map (taskFieldCommitment env.digest nonce.val "normalized_intent")) := by
    have htext := h.intentText
    cases hvalue : request.normalizedIntent with
    | none =>
        rw [hvalue] at htext
        rw [← Except.ok.inj htext]
        exact ⟨none, rfl, rfl⟩
    | some value =>
        rw [hvalue, canonicalOption, bind_eq_ok'] at htext
        obtain ⟨text, htext, e⟩ := htext
        obtain ⟨again, hagain, hcanonical⟩ := hreads value text hvalue htext
        rw [← Except.ok.inj e]
        refine ⟨some again, ?_, ?_⟩
        · simp only [Option.map_some, decodeOptional, hagain]
          rfl
        · simp only [normalizedIntentRef, hcanonical]
          rfl
  have hconstraints : decodeOptional env constraintsJson = .ok constraints := by
    have htext := h.constraintsText
    cases constraints with
    | none =>
        rw [← Except.ok.inj htext]
        rfl
    | some value =>
        rw [canonicalOption, bind_eq_ok'] at htext
        obtain ⟨text, htext, e⟩ := htext
        rw [← Except.ok.inj e, decodeOptional, laws.constraints value text h.valid htext]
        rfl
  obtain ⟨intent, hdecoded, hnormalized⟩ := hintent
  exact ⟨intent, constraints, _, hdecoded, hconstraints, hnormalized, rfl⟩

/-- **A new Task is backed by its first event.** -/
theorem CreationStored.backed (laws : HeadLaws env) (hreads : ReadsBack env request.normalizedIntent)
    (h : CreationStored env request constraints nonce createdAt before after normalized constraintsJson
      row) :
    ∃ m, replayEvent .start row.event = .ok m ∧ Backed env after.core request.taskId
      (createdRow env request constraintsJson nonce createdAt row.eventId) m := by
  have hevent := h.event.stored_eq.1.trans h.reread
  have hid := h.event.eventId
  simp [stringField, taskCreatedEvent, Json.asStr] at hid
  rw [hevent, replay_created]
  refine ⟨_, rfl, ?_⟩
  exact {
    revision := rfl
    state := rfl
    nonce := nonce.property
    creation := h.creationBacked laws hreads
    programs := ⟨rfl, (by intro n h; cases h), rfl, rfl, (by intro n h; cases h)⟩
    steps := rfl
    waiting := rfl
    waitingCommitments := rfl
    failure := rfl
    failureCommitment := rfl
    recovery := rfl
    reason := by
      simp [createdRow, reasonWithoutMessage, reasonRecord, encodeOption, hid]
    message := by
      simp [createdRow, expectedReasonMessageRef, Material.start]
    updatedAt := rfl
    completedAt := rfl }

end Creation

section Transition

variable {call : Call} {requestJson resultedAt : String} {before after : Store σ} {task : TaskRow}
  {program : Option Json} {row : EventRow} {m : Material}

/-- The plan of the moved Task is the one the request named, or the one it had. -/
theorem TransitionStored.planBacked
    (h : TransitionStored env call requestJson resultedAt before after task program row)
    (hdistinct : (after.core.plans.map PlanRow.key).Nodup)
    (hb : ProgramBacked env before.core call.request.taskId task m) :
    call.request.mutation.activePlan.or m.activePlan = loadActivePlan after.core call.request.taskId
        ((call.request.mutation.activePlan.map ActivePlan.revision).or task.activePlanRevision) ∧
      ∀ n, (call.request.mutation.activePlan.map ActivePlan.revision).or task.activePlanRevision =
        some n → ∃ r ∈ after.core.plans, r.key = (call.request.taskId, n) := by
  cases hplan : call.request.mutation.activePlan with
  | none =>
      refine ⟨hb.plan.trans (loadActivePlan_added h.programs hb.planKept).symm, fun n hn => ?_⟩
      obtain ⟨r, hr, hkey⟩ := hb.planKept n hn
      exact ⟨r, h.programs.plans.subset hr, hkey⟩
  | some plan =>
      obtain ⟨r, hr, hkey, hid⟩ := h.plan plan hplan
      have htask : r.taskId = call.request.taskId := congrArg Prod.fst hkey
      have hrevision : r.planRevision = plan.revision := congrArg Prod.snd hkey
      refine ⟨?_, fun n hn => ⟨r, hr, hkey.trans (congrArg _ (Option.some.inj hn))⟩⟩
      -- the key is unique, so the search finds the row that was checked
      have hfind : after.core.plans.find? (fun r => decide (r.taskId = call.request.taskId) &&
          decide (r.planRevision = plan.revision)) = some r := by
        cases hf : after.core.plans.find? (fun r => decide (r.taskId = call.request.taskId) &&
            decide (r.planRevision = plan.revision)) with
        | none =>
            have := List.find?_eq_none.mp hf r hr
            simp [htask, hrevision] at this
        | some found =>
            have hsame := List.find?_some hf
            simp only [Bool.and_eq_true, decide_eq_true_eq] at hsame
            have hkeys : found.key = r.key := by
              rw [hkey]
              exact Prod.ext hsame.1 hsame.2
            exact congrArg some (List.inj_on_of_nodup_map hdistinct (List.mem_of_find?_eq_some hf) hr hkeys)
      show some plan = _
      unfold loadActivePlan
      simp only [Option.map_some, Option.some_or, Option.bind_some, hfind, hid, hrevision]

/-- **An applied transition carries the backing on**: its event, folded, is what it did to the row. -/
theorem TransitionStored.backed
    (h : TransitionStored env call requestJson resultedAt before after task program row)
    (hdistinct : (after.core.plans.map PlanRow.key).Nodup)
    (hb : Backed env before.core call.request.taskId task m) :
    ∃ m', replayEvent m row.event = .ok m' ∧ Backed env after.core call.request.taskId
      (movedRow call task row.eventId resultedAt) m' := by
  obtain ⟨rows, _, _, happ, _⟩ := h.event
  have hshape := (validateEvent_ok _ happ.valid).2.1
  have hevent : row.event = transitionEvent env.digest task.intentCommitmentNonce call.request
      task.revision task.state program resultedAt :=
    happ.stored_eq.1.trans (env.journal.reread_exact _
      (floatFree_transitionEvent (floatFree_activeProgram h.program)))
  have hid := happ.eventId
  simp [stringField, transitionEvent, Json.asStr] at hid
  have hkept : ∀ n, (admittedRow call task).activeProgramRevision = some n →
      ProgramKept after.core call.request.taskId n := by
    intro n hn
    unfold admittedRow at hn
    split at hn
    · next hsome =>
      rw [← Option.some.inj hn]
      exact h.kept hsome
    · exact (hb.programs.programKept n hn).added h.programs
  obtain ⟨loaded, content, hloaded, hcontent, hreplay⟩ := replayProgram_event hkept h.program
  have hold : (admittedRow call task).activeProgramRevision = none →
      (m.activeProgram, m.activeProgramDigest) = (none, none) := by
    intro hnone
    have htask : task.activeProgramRevision = none := by
      unfold admittedRow at hnone
      split at hnone
      · cases hnone
      · exact hnone
    have hprogram := hb.programs.program
    have hdigest := hb.programs.digest
    rw [htask] at hprogram hdigest
    rw [← Except.ok.inj hprogram, ← Except.ok.inj hdigest]
  obtain ⟨hplan, hplanKept⟩ := h.planBacked hdistinct hb.programs
  rw [hevent, replay_moved hb.revision hb.state h.allowed (transitionEvent_safe hshape).1
    (hreplay _ hold)]
  refine ⟨_, rfl, ?_⟩
  exact {
    revision := rfl
    state := rfl
    nonce := hb.nonce
    creation := ⟨hb.creation.reads⟩
    programs := ⟨hplan, hplanKept, hloaded, hcontent, hkept⟩
    steps := by
      show call.request.mutation.activeStepIds.getD m.steps = _
      rw [hb.steps]
      rfl
    waiting := by
      show (call.request.mutation.waitingOn.map _).getD m.waiting = provenanceWaitingOn
        (call.request.mutation.waitingOn.getD task.waitingOn)
      rw [hb.waiting, Option.getD_map]
    waitingCommitments := by
      show (call.request.mutation.waitingOn.map _).getD m.waitingCommitments =
        provenanceWaitingCommitments env.digest task.intentCommitmentNonce
          (call.request.mutation.waitingOn.getD task.waitingOn)
      rw [hb.waitingCommitments, Option.getD_map]
    failure := by
      show (call.request.mutation.failure.map _).or m.failure =
        (call.request.mutation.failure.or task.failure).map provenanceFailure
      rw [hb.failure, Option.map_or]
    failureCommitment := by
      show (call.request.mutation.failure.map _).or m.failureCommitment =
        (call.request.mutation.failure.or task.failure).map
          (provenanceFailureCommitment env.digest task.intentCommitmentNonce)
      rw [hb.failureCommitment, Option.map_or]
    recovery := by
      show (call.request.mutation.recovery.map _).or m.recovery =
        (call.request.mutation.recovery.or task.recovery).map RecoveryMutation.toJson
      rw [hb.recovery, Option.map_or]
    reason := by
      show some _ = some (reasonWithoutMessage (stateReasonJson call.request.reason row.eventId))
      simp [reasonWithoutMessage, stateReasonJson, reasonRecord, encodeOption, hid]
    message := by
      show some (reasonMessageRef _ _ _) =
        expectedReasonMessageRef env task.intentCommitmentNonce
          (stateReasonJson call.request.reason row.eventId)
      unfold expectedReasonMessageRef stateReasonJson reasonMessageRef
      cases call.request.reason.message with
      | none => simp [encodeOption, Json.asStr]
      | some text => simp [encodeOption, Json.asStr]
    updatedAt := rfl
    completedAt := by
      show (if call.request.toState = completed then some resultedAt else task.completedAt) =
        if call.request.toState = completed then some resultedAt else none
      have hlive : task.state ≠ completed := by
        intro e
        have := h.live
        rw [e] at this
        cases this
      rw [hb.completedAt, if_neg hlive] }

end Transition

/-! ## 5. Runs -/

/-- The events of the Task that make up its history, in the order of the journal. -/
def historyOf (events : List EventRow) (taskId : String) : List Json :=
  ((history events).filter fun row => row.taskId = taskId).map EventRow.event

theorem historyOf_congr {a b : List EventRow} (h : history b = history a) (taskId : String) :
    historyOf b taskId = historyOf a taskId := by
  unfold historyOf
  rw [h]

theorem historyOf_append (events : List EventRow) (row : EventRow) (taskId : String)
    (hcarries : carriesRevision row = true) : historyOf (events ++ [row]) taskId =
      historyOf events taskId ++ if row.taskId = taskId then [row.event] else [] := by
  unfold historyOf
  rw [history_append, if_pos hcarries, List.filter_append, List.map_append]
  congr 1
  by_cases e : row.taskId = taskId <;> simp [e]

/-- In a chained journal the order of the journal is the order of the sequence numbers. -/
theorem taskHistory_eq {events : List EventRow} (h : Chained env.journal events) (taskId : String) :
    taskHistory events taskId = historyOf events taskId := by
  have hrising := (h.task_rising taskId carriesRevision).imp
    fun {a b : EventRow} (hlt : a.sequence < b.sequence) => Nat.le_of_lt hlt
  have hsorted : sortOn EventRow.sequence
      (events.filter fun row => decide (row.taskId = taskId) && carriesRevision row) = _ :=
    hrising.insertionSort_eq
  unfold taskHistory historyOf history
  rw [hsorted, List.filter_filter]

/-- What every head rests on. -/
structure HeadsSound (env : Env σ) (store : Store σ) : Prop where
  journal : Provenance.Sound env.journal store.core.events
  distinct : (store.core.plans.map PlanRow.key).Nodup
  absent : ∀ taskId, store.task? taskId = none → historyOf store.core.events taskId = []
  tasks : ∀ taskId row, store.task? taskId = some row → ∃ m,
    replayEvents .start (historyOf store.core.events taskId) = .ok m ∧
      Backed env store.core taskId row m

/-- A change that leaves the history and every row alone. -/
theorem HeadsSound.kept {before after : Store σ} (h : HeadsSound env before)
    (hgrown : Grown env.journal before.core.events after.core.events)
    (hhistory : history after.core.events = history before.core.events)
    (hprograms : SamePrograms before.core after.core)
    (htasks : ∀ taskId, after.task? taskId = before.task? taskId) : HeadsSound env after where
  journal := hgrown.sound h.journal
  distinct := hprograms.added.distinct h.distinct
  absent taskId hnone := by
    rw [historyOf_congr hhistory]
    exact h.absent taskId ((htasks taskId).symm.trans hnone)
  tasks taskId row hrow := by
    obtain ⟨m, hm, hb⟩ := h.tasks taskId row ((htasks taskId).symm.trans hrow)
    rw [historyOf_congr hhistory]
    exact ⟨m, hm, hb.added hprograms.added⟩

/-- A change that adds one event to the history of one Task and writes its row. -/
theorem HeadsSound.extended {before after : Store σ} {event : EventRow}
    {next : TaskRow} (h : HeadsSound env before)
    (hjournal : Provenance.Sound env.journal after.core.events)
    (hprograms : ProgramsAdded before.core after.core)
    (hhistory : ∀ id, historyOf after.core.events id = historyOf before.core.events id ++
      if taskId = id then [event.event] else [])
    (htasks : ∀ id, after.task? id = if taskId = id then some next else before.task? id)
    (hm : replayEvents .start (historyOf after.core.events taskId) = .ok m)
    (hb : Backed env after.core taskId next m) : HeadsSound env after where
  journal := hjournal
  distinct := hprograms.distinct h.distinct
  absent id hnone := by
    rw [htasks] at hnone
    rw [hhistory]
    split at hnone
    · cases hnone
    · next hne => rw [if_neg hne, List.append_nil, h.absent id hnone]
  tasks id row hrow := by
    rw [htasks] at hrow
    split at hrow
    · next e =>
      rw [← e, ← Option.some.inj hrow]
      exact ⟨m, hm, hb⟩
    · next hne =>
      obtain ⟨m', hm', hb'⟩ := h.tasks id row hrow
      rw [hhistory, if_neg hne, List.append_nil]
      exact ⟨m', hm', hb'.added hprograms⟩

section Created

variable {before after : Store σ} {request : CreateTask} {constraints : Option Json} {nonce : Nonce}
  {createdAt : String} {normalized constraintsJson : Option String} {row : EventRow}

theorem CreationStored.historyOf (h : CreationStored env request constraints nonce createdAt before after
      normalized constraintsJson row) (id : String) :
    Tasks.historyOf after.core.events id = Tasks.historyOf before.core.events id ++
      if request.taskId = id then [row.event] else [] := by
  have htype := h.event.eventType
  have htask : row.taskId = request.taskId := h.event.stored_eq.2
  simp [stringField, taskCreatedEvent, Json.asStr] at htype
  have hcarries : carriesRevision row = true := by
    unfold carriesRevision
    rw [← htype]
    rfl
  rw [h.events, historyOf_append _ _ _ hcarries, htask]

/-- A creation whose intent reads back. -/
theorem HeadsSound.created (h : HeadsSound env before) (laws : HeadLaws env) (hreads : ReadsBack env request.normalizedIntent)
    (hstored : CreationStored env request constraints nonce createdAt before after normalized
      constraintsJson row) : HeadsSound env after := by
  obtain ⟨m, hm, hb⟩ := hstored.backed laws hreads
  refine h.extended (hstored.grown.sound h.journal) hstored.programs.added hstored.historyOf
    hstored.tasks (m := m) ?_ hb
  · rw [hstored.historyOf, if_pos rfl, h.absent _ hstored.absent]
    show (replayEvent .start row.event >>= fun m => replayEvents m []) = .ok m
    rw [hm]
    rfl

end Created

/-- A transition. -/
theorem HeadsSound.applied {before after : Store σ} {call : Call} {requestJson resultedAt : String}
    {task : TaskRow} {program : Option Json} {row : EventRow} (h : HeadsSound env before)
    (hstored : TransitionStored env call requestJson resultedAt before after task program row) :
    HeadsSound env after := by
  obtain ⟨rows, hgrown, hsame, happ, hevents⟩ := hstored.event
  have htype := happ.eventType
  have htask : row.taskId = call.request.taskId := happ.stored_eq.2
  simp [stringField, transitionEvent, Json.asStr] at htype
  have hcarries : carriesRevision row = true := by
    unfold carriesRevision
    rw [← htype]
    rfl
  have hhistory : ∀ id, historyOf after.core.events id = historyOf before.core.events id ++
      if call.request.taskId = id then [row.event] else [] := by
    intro id
    rw [hevents, historyOf_append _ _ _ hcarries, htask, historyOf_congr hsame]
  obtain ⟨m, hm, hb⟩ := h.tasks _ _ hstored.found
  obtain ⟨m', hm', hb'⟩ := hstored.backed (hstored.programs.distinct h.distinct) hb
  refine h.extended (hstored.grown.sound h.journal) hstored.programs hhistory hstored.tasks (m := m')
    ?_ hb'
  · rw [hhistory, if_pos rfl, replayEvents_append, hm, ok_bind]
    show (replayEvent m row.event >>= fun m => replayEvents m []) = .ok m'
    rw [hm']
    rfl

/-- Every head is accepted. -/
theorem HeadsSound.accepted {store : Store σ} (h : HeadsSound env store) (laws : HeadLaws env)
    (hrow : store.task? taskId = some row) :
    verifyTaskHead env store.core taskId row.revision row.state = .ok () := by
  obtain ⟨m, hm, hb⟩ := h.tasks taskId row hrow
  refine hb.accepted hrow ?_ (by rw [taskHistory_eq h.journal.chained]; exact hm)
  -- a Task has a first event, so its stream is not empty
  have hsome : historyOf store.core.events taskId ≠ [] := by
    intro e
    rw [e] at hm
    have hstate := hb.state
    rw [← Except.ok.inj hm] at hstate
    cases hstate
  obtain ⟨event, hevent⟩ := List.exists_mem_of_ne_nil _ hsome
  obtain ⟨first, hfirst, _⟩ := List.mem_map.mp hevent
  obtain ⟨hmem, htask⟩ := List.mem_filter.mp hfirst
  have hmem : first ∈ store.core.events := (List.mem_filter.mp hmem).1
  rw [← of_decide_eq_true htask]
  exact verifyProvenance_of h.journal.chained hmem (h.journal.chained.verifyWhole hmem
    (validateStreamId_row h.journal.chained hmem) laws.epoch)

end Aios.Tasks
