/-
  File:      Aios/Tasks/Effect.lean
  Subject:   WHAT ONE TRANSACTION OF A TRANSITION CAN DO.

  The main transaction commits a rejection (`RejectionStored`), commits the transition
  (`TransitionStored`), or changes nothing. Everything the lifecycle and the replay are proved from
  is in these two records; no later proof looks into the transaction again.
-/
import Aios.Tasks.Transition

namespace Aios.Tasks

open Lib Json Provenance TaskState

variable {σ : Type} {env : Env σ}

/-! ## 1. Work that leaves the Tasks alone -/

/-- The rows that make up the history of the Tasks. -/
def history (rows : List EventRow) : List EventRow := rows.filter carriesRevision

/-- The tables only the admission of a program writes. -/
structure SamePrograms (before after : Core σ) : Prop where
  plans : after.plans = before.plans
  programs : after.programs = before.programs
  validations : after.validations = before.validations

/-- Tasks and receipts are as before; the journal only grew, by no creation and no transition. -/
structure Steady (env : Env σ) (before after : Store σ) : Prop where
  tasks : after.core.tasks = before.core.tasks
  receipts : after.receipts = before.receipts
  events : Grown env.journal before.core.events after.core.events
  history : history after.core.events = history before.core.events
  programs : SamePrograms before.core after.core

theorem Steady.refl (store : Store σ) : Steady env store store :=
  ⟨rfl, rfl, .refl _, rfl, rfl, rfl, rfl⟩

theorem Steady.trans {a b c : Store σ} (h : Steady env a b) (k : Steady env b c) : Steady env a c :=
  ⟨k.tasks.trans h.tasks, k.receipts.trans h.receipts, h.events.trans k.events,
    k.history.trans h.history, k.programs.plans.trans h.programs.plans,
    k.programs.programs.trans h.programs.programs,
    k.programs.validations.trans h.programs.validations⟩

theorem Steady.task? {a b : Store σ} (h : Steady env a b) (id : String) : b.task? id = a.task? id := by
  unfold Store.task?
  rw [h.tasks]

theorem Latched.steady {a b : Store σ} (h : Latched a b) : Steady env a b :=
  ⟨congrArg Core.tasks h.core, h.receipts, by rw [h.core]; exact .refl _, by rw [h.core],
    by rw [h.core], by rw [h.core], by rw [h.core]⟩

variable {taskId resultedAt : String} {locked : Option LockedTimeObservation} {task : TaskRow}
  {call : Call} {row : EventRow}

/-- An appended event and the row it became. -/
theorem appendEvent_ok {store after : Store σ} {event : Json}
    (h : appendEvent env store taskId event = .ok (after, row)) :
    Appended env.journal store.core.events taskId event row ∧
      after = { store with core := { store.core with events := store.core.events ++ [row] } } := by
  unfold appendEvent at h
  rw [bind_eq_ok'] at h
  obtain ⟨r, hr, h⟩ := h
  have e := Except.ok.inj h
  have hrow : r = row := congrArg Prod.snd e
  rw [← hrow]
  exact ⟨appendInTx_ok (mapError_eq_ok.mp hr), (congrArg Prod.fst e).symm⟩

theorem appendEvent_of (env : Env σ) (store : Store σ) {event : Json}
    (h : appendInTx env.journal store.core.events taskId event .any = .ok row) :
    appendEvent env store taskId event =
      .ok ({ store with core := { store.core with events := store.core.events ++ [row] } }, row) := by
  unfold appendEvent
  rw [h]
  rfl

theorem history_append (rows : List EventRow) (row : EventRow) :
    history (rows ++ [row]) = history rows ++ if carriesRevision row then [row] else [] := by
  unfold history
  rw [List.filter_append, List.filter_singleton]
  cases carriesRevision row <;> rfl

/-- An event of any other kind leaves the history as it is. -/
theorem steady_appendEvent {store after : Store σ} {taskId kind : String} {event : Json}
    (hkind : stringField event "event_type" = some kind)
    (hother : kind ≠ "task.created" ∧ kind ≠ "task.transitioned") (hfloat : event.floatFree = true)
    (h : appendEvent env store taskId event = .ok (after, row)) : Steady env store after := by
  obtain ⟨happ, e⟩ := appendEvent_ok h
  have htype : row.eventType = kind := Option.some.inj (happ.eventType.symm.trans hkind)
  have hcarries : carriesRevision row = false := by
    simp [carriesRevision, htype, hother.1, hother.2]
  subst e
  refine ⟨rfl, rfl, .append (.refl _) happ (env.journal.reread_exact event hfloat), ?_, rfl, rfl, rfl⟩
  show history (store.core.events ++ [row]) = _
  rw [history_append, hcarries]
  exact List.append_nil _

theorem executionStartedEvent_kind (digest : Digest) (taskId admittedAt : String) (s : StepRow)
    (b : BindingRow) : stringField (executionStartedEvent digest taskId admittedAt s b) "event_type" =
      some "execution.started" := by
  simp [stringField, executionStartedEvent, Json.asStr]

theorem executionStartedEvent_floatFree (digest : Digest) (taskId admittedAt : String) (s : StepRow)
    (b : BindingRow) : (executionStartedEvent digest taskId admittedAt s b).floatFree = true := by
  have hactor := floatFree_ofFields (l := [("kind", some (.str "provider")),
    ("id", some (.str b.providerId))]) (by simp)
  have hdetails := floatFree_ofFields (l := [("attempt_id", some (.str s.attemptId)),
    ("binding_id", some (.str b.bindingId)), ("node_id", some (.str s.nodeId))]) (by simp)
  exact floatFree_ofFields (by simp [hactor, hdetails])

theorem steady_admitStep {store after : Store σ} {taskId nodeId admittedAt : String}
    (h : admitStep env store taskId nodeId admittedAt = .ok (.admitted after)) :
    Steady env store after := by
  unfold admitStep at h
  dsimp only at h
  split at h
  · cases h
  · split at h
    · cases h
    · split at h
      · cases h
      · rw [bind_eq_ok'] at h
        obtain ⟨authorized, _, h⟩ := h
        split at h
        · cases h
        · split at h
          · cases h
          · rw [bind_eq_ok'] at h
            obtain ⟨⟨appended, row⟩, happ, h⟩ := h
            have e : appended = after := StepAdmission.admitted.inj (Except.ok.inj h)
            have hsteady := steady_appendEvent (executionStartedEvent_kind _ _ _ _ _) (by decide)
              (executionStartedEvent_floatFree _ _ _ _ _) happ
            rw [e] at hsteady
            exact ⟨hsteady.tasks, hsteady.receipts, hsteady.events, hsteady.history,
              hsteady.programs.plans, hsteady.programs.programs, hsteady.programs.validations⟩

theorem steady_admitSteps {taskId admittedAt : String} {steps : List String} {store : Store σ}
    {admitted : Nat} {ended : Store σ × Nat}
    (h : admitSteps env taskId admittedAt steps store admitted = .ok (some ended)) :
    Steady env store ended.1 := by
  induction steps generalizing store admitted with
  | nil =>
      have e : (store, admitted) = ended := Option.some.inj (Except.ok.inj h)
      rw [← e]
      exact .refl store
  | cons nodeId rest ih =>
      rw [admitSteps, bind_eq_ok'] at h
      obtain ⟨admission, hadmission, h⟩ := h
      cases admission with
      | skipped => exact ih h
      | refused => cases h
      | admitted next => exact (steady_admitStep hadmission).trans (ih h)

theorem steady_admitActiveSteps {store after : Store σ} {steps : List String} {admittedAt : String}
    (h : admitActiveSteps env store taskId steps admittedAt = .ok (some after)) :
    Steady env store after := by
  unfold admitActiveSteps at h
  split at h
  · cases h
  · rw [bind_eq_ok'] at h
    obtain ⟨ended, hended, h⟩ := h
    have h := Except.ok.inj h
    obtain ⟨e, he, rfl⟩ := Option.map_eq_some_iff.mp h
    have hsome := (Option.filter_eq_some_iff.mp he).1
    rw [hsome] at hended
    exact steady_admitSteps hended

/-! ## 2. The gate of a start -/

theorem latched_checkGrants {lease : Lease} {time : ProtectedTimeContext} {grants : List String}
    {store after : Store σ} {valid result : Bool}
    (h : checkGrants env lease time grants store valid = .ok (after, result)) :
    Latched store after := by
  induction grants generalizing store valid with
  | nil =>
      have e : store = after := congrArg Prod.fst (Except.ok.inj h)
      rw [e]
      exact .refl after
  | cons grantId rest ih =>
      rw [checkGrants, bind_eq_ok'] at h
      obtain ⟨current, _, h⟩ := h
      split at h
      · exact ih h
      · rw [bind_eq_ok'] at h
        obtain ⟨⟨middle, ok⟩, hcheck, h⟩ := h
        exact (latched_checkAndLatch hcheck).trans (ih h)

theorem latched_readyCoordinatorGrants {store after : Store σ}
    {steps : List String} {lease : Lease} {time : ProtectedTimeContext} {valid : Bool}
    (h : readyCoordinatorGrantsValidIn env store taskId steps lease time = .ok (after, valid)) :
    Latched store after := by
  unfold readyCoordinatorGrantsValidIn at h
  split at h
  · have e : store = after := congrArg Prod.fst (Except.ok.inj h)
    rw [e]
    exact .refl after
  · have e : store = after := congrArg Prod.fst (Except.ok.inj h)
    rw [e]
    exact .refl after
  · rw [bind_eq_ok'] at h
    obtain ⟨advanced, hadvanced, h⟩ := h
    exact (latched_advanceClockSessionIn hadvanced).trans (latched_checkGrants h)

theorem latched_clock {store : Store σ} {clock : Clock} (h : Observed store.clock clock) :
    Latched store { store with clock := clock } :=
  ⟨rfl, rfl, h.observations, by simp only [h.latches, List.prefix_refl]⟩

/-- A denied start changed the record of time only; a passed one left the Tasks alone. -/
def StartGate.Kept (env : Env σ) (store : Store σ) : StartGate σ → Prop
  | .passed after => Steady env store after
  | .denied after => Latched store after
  | .refused => True

theorem startGate_ok {store : Store σ} {gate : StartGate σ}
    (h : startGate env store call task resultedAt locked = .ok gate) : gate.Kept env store := by
  unfold startGate at h
  rw [bind_eq_ok'] at h
  obtain ⟨fresh, _, h⟩ := h
  rw [bind_eq_ok'] at h
  obtain ⟨⟨clock, time⟩, hcontext, h⟩ := h
  rw [bind_eq_ok'] at h
  obtain ⟨⟨checked, valid⟩, hgrants, h⟩ := h
  have hlatched : Latched store checked :=
    (latched_clock (observed_commitContextIn hcontext)).trans (latched_readyCoordinatorGrants hgrants)
  dsimp only at h
  split at h
  · rw [← Except.ok.inj h]
    exact hlatched
  · rw [bind_eq_ok'] at h
    obtain ⟨admitted, hadmitted, h⟩ := h
    rw [← Except.ok.inj h]
    cases admitted with
    | none => trivial
    | some after => exact hlatched.steady.trans (steady_admitActiveSteps hadmitted)

/-- Recording the locked sample touches the record of time only. -/
theorem latched_recordLocked {store after : Store σ} (h : recordLocked env store locked = .ok after) :
    Latched store after ∧ (locked = none → after = store) := by
  cases locked with
  | none =>
      have e : store = after := Except.ok.inj h
      rw [e]
      exact ⟨.refl after, fun _ => rfl⟩
  | some fresh =>
      rw [recordLocked, bind_eq_ok'] at h
      obtain ⟨⟨clock, assessment⟩, hcommit, h⟩ := h
      rw [bind_eq_ok'] at h
      obtain ⟨_, _, h⟩ := h
      rw [← Except.ok.inj h]
      exact ⟨latched_clock (observed_commitIn hcommit), fun e => by cases e⟩

/-! ## 3. Applying -/

/-- The key of a plan revision. -/
def PlanRow.key (r : PlanRow) : String × Nat := (r.taskId, r.planRevision)

/-- Rows of an admitted program were added, each under a fresh key. -/
structure ProgramsAdded (before after : Core σ) : Prop where
  plans : before.plans <+: after.plans
  programs : before.programs <+: after.programs
  validations : before.validations <+: after.validations
  distinct : (before.plans.map PlanRow.key).Nodup → (after.plans.map PlanRow.key).Nodup

theorem SamePrograms.added {before after : Core σ} (h : SamePrograms before after) :
    ProgramsAdded before after := by
  refine ⟨?_, ?_, ?_, ?_⟩
  · simp only [h.plans, List.prefix_refl]
  · simp only [h.programs, List.prefix_refl]
  · simp only [h.validations, List.prefix_refl]
  · rw [h.plans]
    exact id

theorem ProgramsAdded.trans {a b c : Core σ} (h : ProgramsAdded a b) (k : ProgramsAdded b c) :
    ProgramsAdded a c :=
  ⟨h.plans.trans k.plans, h.programs.trans k.programs, h.validations.trans k.validations,
    fun d => k.distinct (h.distinct d)⟩

/-- A program revision is stored whole, with its validation. -/
def ProgramKept (core : Core σ) (taskId : String) (revision : Nat) : Prop :=
  ∃ p v, (core.programs.find? fun p => p.taskId = taskId && p.programRevision = revision &&
      p.status = "active") = some p ∧
    (p.validationResultId.bind fun id => core.validations.find? fun v => v.validationResultId = id) =
      some v ∧
    p.semanticHash.isSome = true ∧ p.registrySnapshotId.isSome = true

theorem find?_grown {α : Type} {l r : List α} {q : α → Bool} {a : α} (h : l <+: r)
    (ha : l.find? q = some a) : r.find? q = some a := by
  obtain ⟨rest, rfl⟩ := h
  rw [List.find?_append, ha]
  rfl

/-- What is stored whole stays as it is. -/
theorem ProgramsAdded.finds {before after : Core σ} (h : ProgramsAdded before after) {p : ProgramRow}
    {v : ValidationRow} {q : ProgramRow → Bool} (hp : before.programs.find? q = some p)
    (hv : (p.validationResultId.bind fun id =>
      before.validations.find? fun v => v.validationResultId = id) = some v) :
    after.programs.find? q = some p ∧ (p.validationResultId.bind fun id =>
      after.validations.find? fun v => v.validationResultId = id) = some v := by
  obtain ⟨id, hid, hfound⟩ := Option.bind_eq_some_iff.mp hv
  refine ⟨find?_grown h.programs hp, ?_⟩
  rw [hid, Option.bind_some]
  exact find?_grown h.validations hfound

theorem ProgramKept.added {before after : Core σ} {revision : Nat}
    (h : ProgramKept before taskId revision) (hadded : ProgramsAdded before after) :
    ProgramKept after taskId revision := by
  obtain ⟨p, v, hp, hv, hhash, hsnapshot⟩ := h
  obtain ⟨hp', hv'⟩ := hadded.finds hp hv
  exact ⟨p, v, hp', hv', hhash, hsnapshot⟩

/-- The rows of an admission under fresh keys are found again. -/
theorem admissionRows_kept {digest : Digest} {core : Core σ} {request : TransitionRequest}
    {admission : InitialProgramAdmission} {program : ValidatedProgram} {plan : ActivePlan}
    {committedAt : String}
    (h : admissionKeyTaken core request.taskId (validationResultId digest request.transitionId) =
      false) :
    ProgramKept (admissionRows digest core request admission program plan committedAt) request.taskId
      1 := by
  unfold admissionKeyTaken at h
  simp only [Bool.or_eq_false_iff] at h
  have hprograms : core.programs.find? (fun p => decide (p.taskId = request.taskId) &&
      decide (p.programRevision = 1) && decide (p.status = "active")) = none := by
    refine List.find?_eq_none.mpr fun p hp hq => ?_
    have hfree := List.any_eq_false.mp h.1.2 p hp
    simp only [Bool.and_eq_true] at hq
    exact hfree (by rw [hq.1.1, hq.1.2]; rfl)
  have hvalidations : core.validations.find? (fun v =>
      decide (v.validationResultId = validationResultId digest request.transitionId)) = none :=
    List.find?_eq_none.mpr fun v hv hq => List.any_eq_false.mp h.2 v hv hq
  refine ⟨⟨request.taskId, 1, program.programId, "0.1", some program.semanticHash,
    some admission.registrySnapshotId, some (validationResultId digest request.transitionId), "active",
    admission.programJson, some 1, committedAt, none⟩,
    ⟨validationResultId digest request.transitionId, request.taskId, program.programId, "0.1", true,
      program.semanticHash, admission.registrySnapshotId, program.validatorId, program.validatorVersion,
      program.validatorBuildHash, program.result, program.validatedAt⟩, ?_, ?_, rfl, rfl⟩
  · show (core.programs ++ [_]).find? _ = _
    rw [List.find?_append, hprograms, Option.none_or, List.find?_cons_of_pos (by simp)]
  · rw [Option.bind_some]
    show (core.validations ++ [_]).find? _ = _
    rw [List.find?_append, hvalidations, Option.none_or, List.find?_cons_of_pos (by simp)]

/-- The row of a Task whose program, if it carries one, is admitted. -/
def admittedRow (call : Call) (task : TaskRow) : TaskRow :=
  { task with activeProgramRevision :=
      if call.initialAdmission.isSome then some 1 else task.activeProgramRevision }

/-- The row with this plan, if there is one. -/
def TaskRow.withPlan (row : TaskRow) (plan : Option ActivePlan) : TaskRow :=
  let revision := (plan.map ActivePlan.revision).or row.activePlanRevision
  { row with activePlanRevision := revision }

/-- The row of a Task that made its transition. -/
def movedRow (call : Call) (task : TaskRow) (eventId resultedAt : String) : TaskRow :=
  ((admittedRow call task).apply task call.request eventId resultedAt).withPlan
    call.request.mutation.activePlan

/-- Everything is in place for the event of the transition. -/
structure Prepared (env : Env σ) (call : Call) (task : TaskRow) (before after : Store σ) : Prop where
  receipts : after.receipts = before.receipts
  events : Grown env.journal before.core.events after.core.events
  history : history after.core.events = history before.core.events
  tasks : ∀ id, after.task? id =
    if call.request.taskId = id then some (admittedRow call task) else before.task? id
  programs : ProgramsAdded before.core after.core
  kept : call.initialAdmission.isSome = true → ProgramKept after.core call.request.taskId 1

theorem admissionRows_added {digest : Digest} {core : Core σ} {request : TransitionRequest}
    {admission : InitialProgramAdmission} {program : ValidatedProgram} {plan : ActivePlan}
    {committedAt validationId : String}
    (h : admissionKeyTaken core request.taskId validationId = false) :
    ProgramsAdded core (admissionRows digest core request admission program plan committedAt) := by
  refine ⟨List.prefix_append _ _, List.prefix_append _ _, List.prefix_append _ _, fun hnodup => ?_⟩
  unfold admissionKeyTaken at h
  simp only [Bool.or_eq_false_iff] at h
  have hfresh := List.any_eq_false.mp h.1.1
  show ((core.plans ++ [_]).map PlanRow.key).Nodup
  rw [List.map_append, List.nodup_append']
  refine ⟨hnodup, List.nodup_singleton _, fun key hkey hnew => ?_⟩
  obtain ⟨r, hr, rfl⟩ := List.mem_map.mp hkey
  have e : PlanRow.key r = (request.taskId, 1) := List.mem_singleton.mp hnew
  refine hfresh r hr ?_
  have htask : r.taskId = request.taskId := congrArg Prod.fst e
  have hrevision : r.planRevision = 1 := congrArg Prod.snd e
  simp [htask, hrevision]

theorem prepared_persistAdmission {before store after : Store σ}
    {program : Option Nat} (hsteady : Steady env before store)
    (hfound : before.task? call.request.taskId = some task)
    (h : persistAdmission env store call task resultedAt = .ok (after, program)) :
    Prepared env call task before after ∧ program = (admittedRow call task).activeProgramRevision := by
  have hstored : store.task? call.request.taskId = some task :=
    (hsteady.task? call.request.taskId).trans hfound
  unfold persistAdmission at h
  split at h
  · next hnone =>
    have e : (store, task.activeProgramRevision) = (after, program) := Except.ok.inj h
    have hafter : store = after := congrArg Prod.fst e
    have hrow : admittedRow call task = task := by
      unfold admittedRow
      rw [hnone]
      rfl
    rw [← hafter]
    refine ⟨⟨hsteady.receipts, hsteady.events, hsteady.history, fun id => ?_, hsteady.programs.added,
      fun hsome => by rw [hnone] at hsome; cases hsome⟩,
      by rw [hrow]; exact (congrArg Prod.snd e).symm⟩
    rw [hsteady.task?, hrow]
    split
    · next e => rw [← e, hfound]
    · rfl
  · next admission hsome =>
    rw [bind_eq_ok'] at h
    obtain ⟨stored, hpersist, h⟩ := h
    have e : (stored, some 1) = (after, program) := Except.ok.inj h
    have hafter : stored = after := congrArg Prod.fst e
    have hrow : admittedRow call task = { task with activeProgramRevision := some 1 } := by
      unfold admittedRow
      rw [hsome]
      rfl
    rw [← hafter]
    unfold persistInitialProgramAdmissionIn at hpersist
    simp only [bind_eq_ok', exists_unit, rejectIf_ok, expect_ok] at hpersist
    obtain ⟨_, validated, _, _, plan, _, _, hkeys, current, hcurrent, hpersist⟩ := hpersist
    have hsame : current = task :=
      Option.some.inj ((Option.filter_eq_some_iff.mp hcurrent).1.symm.trans hstored)
    have hadded : ProgramsAdded store.core
        (admissionRows env.digest store.core call.request admission validated plan resultedAt) :=
      admissionRows_added hkeys
    rw [← Except.ok.inj hpersist, hsame]
    refine ⟨⟨hsteady.receipts, hsteady.events, hsteady.history, fun id => ?_,
      hsteady.programs.added.trans ⟨hadded.plans, hadded.programs, hadded.validations,
        hadded.distinct⟩, fun _ => ?_⟩,
      by rw [hrow]; exact (congrArg Prod.snd e).symm⟩
    · rw [Store.task?_setTask, hrow]
      split
      · rfl
      · exact hsteady.task? id
    · show ProgramKept (admissionRows env.digest store.core call.request admission validated plan
        resultedAt) call.request.taskId 1
      exact admissionRows_kept hkeys

/-- Activating a plan moves a pointer of the Task to a plan that is stored. -/
theorem activatePlan_ok {store after : Store σ} {plan : Option ActivePlan}
    (hfound : store.task? taskId = some task) (h : activatePlan store taskId plan = .ok after) :
    after.core.events = store.core.events ∧ after.receipts = store.receipts ∧
      SamePrograms store.core after.core ∧
      (∀ id, after.task? id = if taskId = id then some (task.withPlan plan) else store.task? id) ∧
      ∀ p, plan = some p → ∃ r ∈ store.core.plans, r.key = (taskId, p.revision) ∧
        r.planId = p.planId := by
  cases plan with
  | none =>
      have e : store = after := Except.ok.inj h
      rw [← e]
      refine ⟨rfl, rfl, ⟨rfl, rfl, rfl⟩, fun id => ?_, fun p hp => by cases hp⟩
      split
      · next e => rw [← e, hfound]; rfl
      · rfl
  | some plan =>
      unfold activatePlan at h
      simp only [bind_eq_ok', exists_unit, rejectIf_ok, expect_ok, Bool.not_eq_false',
        List.any_eq_true, Bool.and_eq_true, decide_eq_true_eq] at h
      obtain ⟨_, ⟨r, hr, ⟨htask, hrevision⟩, hplan⟩, current, hcurrent, h⟩ := h
      have e : current = task := Option.some.inj (hcurrent.symm.trans hfound)
      rw [← Except.ok.inj h, e]
      refine ⟨rfl, rfl, ⟨rfl, rfl, rfl⟩, fun id => Store.task?_setTask _ _ _ _, fun p hp => ?_⟩
      rw [← Option.some.inj hp]
      refine ⟨r, hr, ?_, hplan⟩
      show (r.taskId, r.planRevision) = _
      rw [htask, hrevision]

theorem insertReceipt_ok {store after : Store σ} {transitionId : String} {receipt : Receipt}
    (h : insertReceipt store transitionId receipt = .ok after) :
    store.receipt? transitionId = none ∧ after = store.setReceipt transitionId receipt := by
  unfold insertReceipt at h
  rw [unit_bind_eq_ok, rejectIf_ok] at h
  exact ⟨Option.isSome_eq_false_iff.mp h.1 |> Option.isNone_iff_eq_none.mp, (Except.ok.inj h.2).symm⟩

/-- The transition is stored: the Task moved on, the event `row` and the receipt are new, everything
    else about Tasks and receipts is as before. -/
structure TransitionStored (env : Env σ) (call : Call) (requestJson resultedAt : String)
    (before after : Store σ) (task : TaskRow) (program : Option Json) (row : EventRow) : Prop where
  found : before.task? call.request.taskId = some task
  fresh : before.receipt? call.request.transitionId = none
  expectedRevision : call.request.expectedRevision = task.revision
  expectedState : call.request.expectedState = task.state
  allowed : allowedTransition task.state call.request.toState = true
  live : task.state.terminal = false
  recovering : call.request.toState = recovering → call.internalRecovery = true
  nonce : task.intentCommitmentNonce.length = 32
  bound : task.revision + 1 ≤ maxI64
  event : ∃ rows, Grown env.journal before.core.events rows ∧
    history rows = history before.core.events ∧
    Appended env.journal rows call.request.taskId (transitionEvent env.digest
      task.intentCommitmentNonce call.request task.revision task.state program resultedAt) row ∧
    after.core.events = rows ++ [row]
  tasks : ∀ id, after.task? id = if call.request.taskId = id then
    some (movedRow call task row.eventId resultedAt) else before.task? id
  programs : ProgramsAdded before.core after.core
  program : activeProgramEvent env after.core call.request.taskId
    (admittedRow call task).activeProgramRevision = .ok program
  kept : call.initialAdmission.isSome = true → ProgramKept after.core call.request.taskId 1
  plan : ∀ p, call.request.mutation.activePlan = some p → ∃ r ∈ after.core.plans,
    r.key = (call.request.taskId, p.revision) ∧ r.planId = p.planId
  receipts : after.receipts = before.receipts.insert call.request.transitionId
    (committedReceipt call.request requestJson (task.revision + 1) (applied call.request task.revision
      (task.revision + 1) task.state row.eventId row.eventHash resultedAt) resultedAt)

/-- What is left of the transition once its event is appended: the Task row, the receipt. -/
structure Finished (call : Call) (task : TaskRow) (requestJson resultedAt : String) (row : EventRow)
    (before after : Store σ) : Prop where
  bound : task.revision + 1 ≤ maxI64
  events : after.core.events = before.core.events
  tasks : ∀ id, after.task? id = if call.request.taskId = id then
    some (movedRow call task row.eventId resultedAt) else before.task? id
  programs : SamePrograms before.core after.core
  plan : ∀ p, call.request.mutation.activePlan = some p → ∃ r ∈ after.core.plans,
    r.key = (call.request.taskId, p.revision) ∧ r.planId = p.planId
  receipts : after.receipts = before.receipts.insert call.request.transitionId
    (committedReceipt call.request requestJson (task.revision + 1) (applied call.request
      task.revision (task.revision + 1) task.state row.eventId row.eventHash resultedAt) resultedAt)

theorem finishTransition_ok {store : Store σ} {requestJson resultedAt : String} {ending : Ending σ}
    (hcurrent : store.task? call.request.taskId = some (admittedRow call task))
    (h : finishTransition env store call task requestJson resultedAt locked row = .ok ending) :
    ∃ after, ending = .committed after (applied call.request task.revision (task.revision + 1)
        task.state row.eventId row.eventHash resultedAt) ∧
      Finished call task requestJson resultedAt row store after := by
  have hfilter : (store.task? call.request.taskId).filter (fun t =>
      decide (t.revision = task.revision) && decide (t.state = task.state)) =
        some (admittedRow call task) := by
    rw [hcurrent, Option.filter_some, if_pos]
    simp [admittedRow]
  unfold finishTransition at h
  rw [unit_bind_eq_ok, rejectIf_ok, decide_eq_false_iff_not, Nat.not_lt] at h
  obtain ⟨hbound, h⟩ := h
  rw [hfilter] at h
  dsimp only at h
  rw [bind_eq_ok'] at h
  obtain ⟨planned, hplan, h⟩ := h
  rw [bind_eq_ok'] at h
  obtain ⟨received, hreceipt, h⟩ := h
  rw [bind_eq_ok'] at h
  obtain ⟨timed, htimed, h⟩ := h
  obtain ⟨_, hset⟩ := insertReceipt_ok hreceipt
  have hlatched := (latched_recordLocked htimed).1
  have hcore : timed.core = planned.core := by rw [hlatched.core, hset, Store.core_setReceipt]
  -- the row written by the update, seen through the revocation of grants
  let moved := (admittedRow call task).apply task call.request row.eventId resultedAt
  let revoked := if call.request.toState = cancelled then
    revokeGrants (store.setTask call.request.taskId moved) call.request.taskId resultedAt
    else store.setTask call.request.taskId moved
  have hmoved : ∀ id, revoked.task? id =
      if call.request.taskId = id then some moved else store.task? id := by
    intro id
    show (if _ then _ else _ : Store σ).task? id = _
    split
    · exact (Store.task?_setTask _ _ _ _)
    · exact (Store.task?_setTask _ _ _ _)
  have hrevoked : revoked.core.events = store.core.events ∧ revoked.receipts = store.receipts ∧
      SamePrograms store.core revoked.core := by
    show (if _ then _ else _ : Store σ).core.events = _ ∧ (if _ then _ else _ : Store σ).receipts = _ ∧
      SamePrograms _ (if _ then _ else _ : Store σ).core
    split
    · exact ⟨rfl, rfl, rfl, rfl, rfl⟩
    · exact ⟨rfl, rfl, rfl, rfl, rfl⟩
  have hbase := hmoved call.request.taskId
  rw [if_pos rfl] at hbase
  obtain ⟨hevents, hreceipts, hprograms, htasks, hplans⟩ := activatePlan_ok hbase hplan
  refine ⟨timed, (Except.ok.inj h).symm, hbound, ?_, fun id => ?_, ?_, fun p hp => ?_, ?_⟩
  · rw [hcore, hevents]
    exact hrevoked.1
  · have htask : timed.task? id = planned.task? id := by
      unfold Store.task?
      rw [hcore]
    rw [htask, htasks id]
    split
    · rfl
    · next hne => exact (hmoved id).trans (if_neg hne)
  · rw [hcore]
    exact ⟨hprograms.plans.trans hrevoked.2.2.plans, hprograms.programs.trans hrevoked.2.2.programs,
      hprograms.validations.trans hrevoked.2.2.validations⟩
  · obtain ⟨r, hr, hkey, hid⟩ := hplans p hp
    refine ⟨r, ?_, hkey, hid⟩
    rw [hcore, hprograms.plans]
    exact hr
  · rw [hlatched.receipts, hset]
    show planned.receipts.insert _ _ = _
    rw [hreceipts]
    show revoked.receipts.insert _ _ = _
    rw [hrevoked.2.1]

/-- A request that is not rejected meets its Task where it expects it. -/
theorem rejection_none {store : Store σ} (h : rejection env store call task resultedAt = .ok none) :
    call.request.expectedRevision = task.revision ∧ call.request.expectedState = task.state ∧
      task.state.terminal = false ∧ allowedTransition task.state call.request.toState = true ∧
      (call.request.toState = recovering → call.internalRecovery = true) := by
  unfold rejection at h
  dsimp only at h
  split at h
  · cases h
  · next hrevision =>
    split at h
    · cases h
    · next hstate =>
      split at h
      · cases h
      · next hterminal =>
        split at h
        · cases h
        · next hallowed =>
          have hrollback := (guardFailure_rollback h).1
          refine ⟨not_not.mp hrevision, not_not.mp hstate, ?_, by simpa using hallowed,
            guardFailure_recovering h⟩
          -- FAILED may only move to ROLLING_BACK, which the guard refuses
          simpa [hrollback] using hterminal

/-- The program's entry depends on the tables of programs only. -/
theorem activeProgramEvent_congr {before after : Core σ} {program : Option Nat}
    (h : SamePrograms before after) :
    activeProgramEvent env after taskId program = activeProgramEvent env before taskId program := by
  unfold activeProgramEvent
  rw [h.programs, h.validations]

theorem applyTransition_ok {before store : Store σ} {requestJson resultedAt : String} {ending : Ending σ}
    (hsteady : Steady env before store) (hfound : before.task? call.request.taskId = some task)
    (hfresh : before.receipt? call.request.transitionId = none)
    (hrejection : rejection env before call task resultedAt = .ok none)
    (h : applyTransition env store call task requestJson resultedAt locked = .ok ending) :
    ∃ after program row, ending = .committed after (applied call.request task.revision
        (task.revision + 1) task.state row.eventId row.eventHash resultedAt) ∧
      TransitionStored env call requestJson resultedAt before after task program row := by
  obtain ⟨hrevision, hstate, hlive, hallowed, hrecovering⟩ := rejection_none hrejection
  unfold applyTransition at h
  dsimp only at h
  rw [bind_eq_ok'] at h
  obtain ⟨⟨admitted, active⟩, hadmission, h⟩ := h
  rw [bind_eq_ok'] at h
  obtain ⟨program, hprogram, h⟩ := h
  rw [unit_bind_eq_ok, rejectIf_ok, decide_eq_false_iff_not, not_not] at h
  obtain ⟨hnonce, h⟩ := h
  rw [bind_eq_ok'] at h
  obtain ⟨⟨appended, row⟩, happend, h⟩ := h
  obtain ⟨hprepared, hactive⟩ := prepared_persistAdmission hsteady hfound hadmission
  obtain ⟨happ, happended⟩ := appendEvent_ok happend
  have htasks : ∀ id, appended.task? id = admitted.task? id := by
    intro id
    rw [happended]
    rfl
  have hsame : SamePrograms admitted.core appended.core := by
    rw [happended]
    exact ⟨rfl, rfl, rfl⟩
  have hcurrent : appended.task? call.request.taskId = some (admittedRow call task) := by
    rw [htasks, hprepared.tasks, if_pos rfl]
  obtain ⟨after, hending, hfinished⟩ := finishTransition_ok hcurrent h
  refine ⟨after, program, row, hending, ?_⟩
  exact {
    found := hfound
    fresh := hfresh
    expectedRevision := hrevision
    expectedState := hstate
    allowed := hallowed
    live := hlive
    recovering := hrecovering
    nonce := hnonce
    bound := hfinished.bound
    event := ⟨admitted.core.events, hprepared.events, hprepared.history, happ, by
      rw [hfinished.events, happended]⟩
    tasks := fun id => by
      rw [hfinished.tasks id]
      split
      · rfl
      · next hne => rw [htasks id, hprepared.tasks id, if_neg hne]
    programs := hprepared.programs.trans (hsame.added.trans hfinished.programs.added)
    program := by
      rw [activeProgramEvent_congr hfinished.programs, activeProgramEvent_congr hsame, ← hactive]
      exact hprogram
    kept := fun hsome => ((hprepared.kept hsome).added hsame.added).added hfinished.programs.added
    plan := hfinished.plan
    receipts := by
      have hreceipts : appended.receipts = before.receipts := by
        rw [happended]
        exact hprepared.receipts
      rw [hfinished.receipts, hreceipts] }

/-! ## 4. The whole transaction -/

/-- A rejection is stored: the Tasks are as before, the receipt is new, and the record of time moved
    for a start only. -/
structure RejectionStored (call : Call) (requestJson resultedAt code : String)
    (observed : Option (TaskState × Nat)) (before after : Store σ) : Prop where
  fresh : before.receipt? call.request.transitionId = none
  core : after.core = before.core
  receipts : after.receipts = before.receipts.insert call.request.transitionId
    (rejectionReceipt call.request requestJson (rejected call.request code observed resultedAt)
      resultedAt)
  observations : before.clock.observations <+: after.clock.observations
  latches : before.clock.latches <+: after.clock.latches
  clock : call.request.toState ≠ running → after.clock = before.clock

/-- The receipt of an identity answers the request: its result again, or a conflict. -/
def Replayed (env : Env σ) (call : Call) (requestJson resultedAt : String) (store : Store σ)
    (result : TransitionResult) : Prop :=
  ∃ receipt, store.receipt? call.request.transitionId = some receipt ∧
    ((receipt.requestJson = requestJson ∧
        authenticatedTransitionResult env store call.request.transitionId = .ok result) ∨
      (receipt.requestJson ≠ requestJson ∧
        result = rejected call.request "TASK_TRANSITION_ID_REUSE_CONFLICT"
          ((store.task? call.request.taskId).map fun t => (t.state, t.revision)) resultedAt))

/-- What the main transaction can end in. -/
def Ending.Explained (env : Env σ) (call : Call) (requestJson resultedAt : String) (store : Store σ) :
    Ending σ → Prop
  | .committed after result =>
      (∃ code observed, result = rejected call.request code observed resultedAt ∧
        (∀ place, observed = some place → ∃ task, store.task? call.request.taskId = some task ∧
          place = (task.state, task.revision)) ∧
        RejectionStored call requestJson resultedAt code observed store after) ∨
      ∃ task program row, result = applied call.request task.revision (task.revision + 1)
          task.state row.eventId row.eventHash resultedAt ∧
        TransitionStored env call requestJson resultedAt store after task program row
  | .answered result => Replayed env call requestJson resultedAt store result
  | .startRefused result => call.request.toState = running ∧
      store.receipt? call.request.transitionId = none ∧ ∃ task,
        store.task? call.request.taskId = some task ∧
        result = rejected call.request "TASK_TRANSITION_GUARD_FAILED"
          (some (task.state, task.revision)) resultedAt

variable {store : Store σ} {call : Call} {requestJson resultedAt : String}
  {locked : Option LockedTimeObservation} {ending : Ending σ}

/-- A stored rejection, from a store whose record of time may already have moved. -/
theorem commitRejection_ok {middle : Store σ} {code : String} {observed : Option (TaskState × Nat)}
    (hmiddle : Latched store middle)
    (hclock : call.request.toState ≠ running → middle = store ∧ locked = none)
    (h : commitRejection env middle call.request requestJson code observed resultedAt locked =
      .ok ending) :
    ∃ after, ending = .committed after (rejected call.request code observed resultedAt) ∧
      RejectionStored call requestJson resultedAt code observed store after := by
  unfold commitRejection persistRejection at h
  dsimp only at h
  rw [bind_eq_ok'] at h
  obtain ⟨persisted, hpersisted, h⟩ := h
  rw [bind_eq_ok'] at h
  obtain ⟨after, hafter, h⟩ := h
  obtain ⟨hfresh, hset⟩ := insertReceipt_ok hpersisted
  obtain ⟨hlatched, hsame⟩ := latched_recordLocked hafter
  refine ⟨after, (Except.ok.inj h).symm, ?_⟩
  have hcore : after.core = store.core := by
    rw [hlatched.core, hset, Store.core_setReceipt, hmiddle.core]
  refine ⟨?_, hcore, ?_, ?_, ?_, fun hne => ?_⟩
  · unfold Store.receipt? at hfresh ⊢
    rw [← hmiddle.receipts]
    exact hfresh
  · rw [hlatched.receipts, hset]
    show middle.receipts.insert _ _ = _
    rw [hmiddle.receipts]
  · have hobs := hlatched.observations
    rw [hset, Store.clock_setReceipt] at hobs
    exact hmiddle.observations.trans hobs
  · have hlat := hlatched.latches
    rw [hset, Store.clock_setReceipt] at hlat
    exact hmiddle.latches.trans hlat
  · obtain ⟨hm, hl⟩ := hclock hne
    rw [hsame hl, hset, Store.clock_setReceipt, hm]

theorem transitionTask_ok (hfound : store.task? call.request.taskId = some task)
    (hfresh : store.receipt? call.request.transitionId = none)
    (hlocked : call.request.toState ≠ running → locked = none)
    (h : transitionTask env store call task requestJson resultedAt locked = .ok ending) :
    ending.Explained env call requestJson resultedAt store := by
  have hplace : ∀ place, some (task.state, task.revision) = some place → ∃ task,
      store.task? call.request.taskId = some task ∧ place = (task.state, task.revision) :=
    fun place e => ⟨task, hfound, (Option.some.inj e).symm⟩
  unfold transitionTask at h
  rw [bind_eq_ok'] at h
  obtain ⟨rejected?, hrejection, h⟩ := h
  cases rejected? with
  | some code =>
      obtain ⟨after, rfl, hstored⟩ := commitRejection_ok (.refl store)
        (fun hne => ⟨rfl, hlocked hne⟩) h
      exact .inl ⟨code, _, rfl, hplace, hstored⟩
  | none =>
      dsimp only at h
      rw [unit_bind_eq_ok] at h
      obtain ⟨_, h⟩ := h
      split at h
      · next hrunning =>
        rw [bind_eq_ok'] at h
        obtain ⟨gate, hgate, h⟩ := h
        have hkept := startGate_ok hgate
        cases gate with
        | passed started =>
            obtain ⟨after, program, row, rfl, hstored⟩ :=
              applyTransition_ok hkept hfound hfresh hrejection h
            exact .inr ⟨task, program, row, rfl, hstored⟩
        | denied checked =>
            obtain ⟨after, rfl, hstored⟩ := commitRejection_ok hkept
              (fun hne => absurd hrunning hne) h
            exact .inl ⟨_, _, rfl, hplace, hstored⟩
        | refused =>
            rw [← Except.ok.inj h]
            exact ⟨hrunning, hfresh, task, hfound, rfl⟩
      · obtain ⟨after, program, row, rfl, hstored⟩ :=
          applyTransition_ok (.refl store) hfound hfresh hrejection h
        exact .inr ⟨task, program, row, rfl, hstored⟩

/-- **The main transaction commits a rejection, commits the transition, or changes nothing.** -/
theorem transition_ok (hlocked : call.request.toState ≠ running → locked = none)
    (h : transition env store call requestJson resultedAt locked = .ok ending) :
    ending.Explained env call requestJson resultedAt store := by
  unfold transition at h
  rw [unit_bind_eq_ok] at h
  obtain ⟨_, h⟩ := h
  cases hreceipt : store.receipt? call.request.transitionId with
  | some receipt =>
      rw [hreceipt] at h
      dsimp only at h
      unfold replay at h
      split at h
      · next hsame =>
        rw [bind_eq_ok'] at h
        obtain ⟨result, hresult, h⟩ := h
        rw [← Except.ok.inj h]
        exact ⟨receipt, hreceipt, .inl ⟨hsame, hresult⟩⟩
      · next hdifferent =>
        rw [← Except.ok.inj h]
        exact ⟨receipt, hreceipt, .inr ⟨hdifferent, rfl⟩⟩
  | none =>
      rw [hreceipt] at h
      dsimp only at h
      cases htask : store.task? call.request.taskId with
      | none =>
          rw [htask] at h
          obtain ⟨after, rfl, hstored⟩ := commitRejection_ok (.refl store)
            (fun hne => ⟨rfl, hlocked hne⟩) h
          exact .inl ⟨_, _, rfl, (fun place e => by cases e), hstored⟩
      | some task =>
          rw [htask] at h
          exact transitionTask_ok htask hreceipt hlocked h

end Aios.Tasks
