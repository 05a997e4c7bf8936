/-
  File:      Aios/Programs/Stored.lean
  Subject:   WHAT AN ADMISSION STORES, and that nothing else writes plans, programs and validations.

  Whatever a phase of a call does, it leaves the record of the Tasks alone, or it applied a
  transition. Where the call carries an admission the transition has stored exactly one plan, one
  validation and one program with it (`AdmissionStored`); where it carries none it left the three
  tables alone. Over runs: every program that is stored was stored so (`Reachable.programs`), and
  every success has its receipt (`Reachable.recorded`).
-/
import Aios.Tasks.Admission

namespace Aios.Tasks

open Lib Provenance TaskState

variable {σ : Type} {env : Env σ}

/-! ## 1. One transaction -/

/-- The admission is stored: the program was validated on the store as it was, its rows are new and
    nothing else is in the three tables, and the Task went from CREATED to PLANNING with them. -/
structure AdmissionStored (env : Env σ) (call : Call) (admission : InitialProgramAdmission)
    (committedAt : String) (program : ValidatedProgram) (plan : ActivePlan) (before after : Store σ) :
    Prop where
  carried : call.initialAdmission = some admission
  target : call.request.toState = planning
  references : call.request.reason.relatedIds = admissionRefs admission
  validated : env.reads.validateInitialProgram before admission committedAt = .ok program
  snapshot : program.registrySnapshotId = some admission.registrySnapshotId
  version : program.irVersion = some "0.1"
  steps : call.request.mutation.activeStepIds = some [program.nodeId]
  planned : call.request.mutation.activePlan = some plan ∧ plan.revision = 1
  fresh : admissionKeyTaken before.core call.request.taskId
    (validationResultId env.digest call.request.transitionId) = false
  found : ∃ t, before.task? call.request.taskId = some t ∧ t.state = created ∧ t.revision = 1 ∧
    t.activeProgramRevision = none ∧ t.activePlanRevision = none
  rows : SamePrograms (admissionRows env.digest before.core call.request admission program plan
    committedAt) after.core
  moved : ∃ t, after.task? call.request.taskId = some t ∧ t.state = planning ∧ t.revision = 2 ∧
    t.activeProgramRevision = some 1 ∧ t.activePlanRevision = some 1 ∧ t.activeStepIds = [program.nodeId]

theorem SamePrograms.trans {a b c : Core σ} (h : SamePrograms a b) (k : SamePrograms b c) :
    SamePrograms a c :=
  ⟨k.plans.trans h.plans, k.programs.trans h.programs, k.validations.trans h.validations⟩

variable {requestJson resultedAt : String} {call : Call}

/-- Behind the admission a transition touches the three tables no more. -/
theorem finished_programs {store appended after : Store σ} {task : TaskRow}
    {locked : Option LockedTimeObservation} {row : EventRow} {event : Json} {result : TransitionResult}
    (hcurrent : store.task? call.request.taskId = some (admittedRow call task))
    (happend : appendEvent env store call.request.taskId event = .ok (appended, row))
    (h : finishTransition env appended call task requestJson resultedAt locked row =
      .ok (.committed after result)) : SamePrograms store.core after.core ∧
      after.task? call.request.taskId = some (movedRow call task row.eventId resultedAt) := by
  obtain ⟨_, happended⟩ := appendEvent_ok happend
  have hsame : SamePrograms store.core appended.core := by
    rw [happended]
    exact ⟨rfl, rfl, rfl⟩
  have hrow : appended.task? call.request.taskId = some (admittedRow call task) := by
    rw [happended]
    exact hcurrent
  obtain ⟨finished, hending, hfinished⟩ := finishTransition_ok hrow h
  obtain rfl : after = finished := (Ending.committed.inj hending).1
  exact ⟨hsame.trans hfinished.programs, (hfinished.tasks _).trans (if_pos rfl)⟩

/-- **A transition that is applied stores its admission, or leaves the three tables alone.** -/
theorem applyTransition_admission {store after : Store σ} {task : TaskRow}
    {locked : Option LockedTimeObservation}
    {result : TransitionResult} (hfound : store.task? call.request.taskId = some task)
    (h : applyTransition env store call task requestJson resultedAt locked =
      .ok (.committed after result)) :
    (call.initialAdmission = none ∧ SamePrograms store.core after.core) ∨
      ∃ admission program plan, AdmissionStored env call admission resultedAt program plan store after := by
  unfold applyTransition at h
  dsimp only at h
  rw [bind_eq_ok'] at h
  obtain ⟨⟨admitted, active⟩, hadmission, h⟩ := h
  rw [bind_eq_ok'] at h
  obtain ⟨_, _, h⟩ := h
  rw [unit_bind_eq_ok, bind_eq_ok'] at h
  obtain ⟨_, ⟨appended, row⟩, happend, h⟩ := h
  obtain ⟨hprepared, _⟩ := prepared_persistAdmission (.refl store) hfound hadmission
  have hcurrent : admitted.task? call.request.taskId = some (admittedRow call task) :=
    (hprepared.tasks _).trans (if_pos rfl)
  obtain ⟨hsame, hmoved⟩ := finished_programs hcurrent happend h
  unfold persistAdmission at hadmission
  split at hadmission
  · next hnone =>
    obtain rfl : store = admitted := congrArg Prod.fst (Except.ok.inj hadmission)
    exact .inl ⟨hnone, hsame⟩
  · next admission hcarried =>
    rw [bind_eq_ok'] at hadmission
    obtain ⟨stored, hpersist, hadmission⟩ := hadmission
    obtain rfl : stored = admitted := congrArg Prod.fst (Except.ok.inj hadmission)
    unfold persistInitialProgramAdmissionIn at hpersist
    simp only [bind_eq_ok', exists_unit, rejectIf_ok, expect_ok, Bool.or_eq_false_iff,
      decide_eq_false_iff_not, not_not] at hpersist
    obtain ⟨⟨⟨⟨⟨hcreated, hplanning⟩, hrevision⟩, _⟩, hrefs⟩, program, hprogram,
      ⟨⟨hsnapshot, hversion⟩, hsteps⟩, plan, hplan, hfirst, hfresh, current, hfiltered, hstored⟩ :=
        hpersist
    obtain ⟨hlookup, hpresent⟩ := Option.filter_eq_some_iff.mp hfiltered
    obtain rfl : current = task := Option.some.inj (hlookup.symm.trans hfound)
    simp only [Bool.and_eq_true, decide_eq_true_eq, Option.isNone_iff_eq_none] at hpresent
    obtain ⟨⟨⟨hone, hstate⟩, hnoprogram⟩, hnoplan⟩ := hpresent
    rw [← Except.ok.inj hstored] at hsame
    refine .inr ⟨admission, program, plan, hcarried, hplanning, hrefs, hprogram, hsnapshot, hversion, hsteps,
      ⟨hplan, hfirst⟩, hfresh, ⟨current, hfound, hstate, hone, hnoprogram, hnoplan⟩,
      ⟨hsame.plans, hsame.programs, hsame.validations⟩,
      ⟨_, hmoved, hplanning, ?_, ?_, ?_, ?_⟩⟩
    · show current.revision + 1 = 2
      omega
    · show (admittedRow call current).activeProgramRevision = some 1
      unfold admittedRow
      rw [hcarried]
      rfl
    · show (call.request.mutation.activePlan.map ActivePlan.revision).or _ = some 1
      rw [hplan, Option.map_some, Option.some_or, hfirst]
    · show call.request.mutation.activeStepIds.getD _ = [program.nodeId]
      rw [hsteps]
      rfl

/-- **Whatever a phase of a call does**: nothing to the record of the Tasks, a transition without an
    admission, or the admission the call carries. -/
theorem advance_admission (env : Env σ) (call : Call) (reading : Reading) (fault : Option Fault)
    (store : Store σ) (phase : Phase) :
    (advance env call reading fault store phase).1.core = store.core ∨
      (call.initialAdmission = none ∧
        SamePrograms store.core (advance env call reading fault store phase).1.core) ∨
      ∃ admission committedAt program plan, AdmissionStored env call admission committedAt program plan
        store (advance env call reading fault store phase).1 := by
  rcases advance_passed env call reading fault store phase with hcore |
    ⟨requestJson, now, locked, task, result, _, hpassed⟩
  · exact .inl hcore
  · right
    obtain ⟨gated, happlied, hgate⟩ := hpassed.gated
    by_cases hrunning : call.request.toState = running
    · rw [if_pos hrunning] at hgate
      have hsteady : Steady env store gated := startGate_ok hgate
      rcases applyTransition_admission ((hsteady.task? _).trans hpassed.found) happlied with
        ⟨hnone, hsame⟩ | ⟨admission, program, plan, hstored⟩
      · exact .inl ⟨hnone, hsteady.programs.trans hsame⟩
      · rw [hstored.target] at hrunning
        cases hrunning
    · rw [if_neg hrunning] at hgate
      rw [hgate] at happlied
      rcases applyTransition_admission hpassed.found happlied with hnone | ⟨admission, program, plan, hstored⟩
      · exact .inl hnone
      · exact .inr ⟨admission, now, program, plan, hstored⟩

/-! ## 2. Runs -/

/-- The three tables are as they were, or an admission is stored. -/
def ProgramsStep (env : Env σ) (before after : Store σ) : Prop :=
  SamePrograms before.core after.core ∨ ∃ call admission committedAt program plan,
    AdmissionStored env call admission committedAt program plan before after

theorem SamePrograms.of_core {a b : Store σ} (h : b.core = a.core) : SamePrograms a.core b.core := by
  rw [h]
  exact ⟨rfl, rfl, rfl⟩

theorem Step.programs {s s' : System σ} (h : Step env s s') : ProgramsStep env s.store s'.store := by
  cases h with
  | create lease request constraints nonce createdAt h =>
      obtain ⟨_, _, _, hstored⟩ := createTask_ok h
      exact .inl hstored.programs
  | send lease entry => exact .inl ⟨rfl, rfl, rfl⟩
  | @advance left right flight reading fault _ _ =>
      rcases advance_admission env (flight.call env.digest) reading fault s.store flight.phase with
        hcore | ⟨_, hsame⟩ | ⟨admission, committedAt, program, plan, hstored⟩
      · exact .inl (SamePrograms.of_core hcore)
      · exact .inl hsame
      · exact .inr ⟨_, admission, committedAt, program, plan, hstored⟩
  | crash _ => exact .inl ⟨rfl, rfl, rfl⟩
  | other hsteady => exact .inl hsteady.programs

/-- The run rule for what is stored of programs. -/
theorem Reachable.programs {P : Core σ → Prop} (hfresh : ∀ store, Fresh store → P store.core)
    (hsame : ∀ before after : Core σ, SamePrograms before after → P before → P after)
    (hstored : ∀ (call : Call) (admission : InitialProgramAdmission) (committedAt : String)
      (program : ValidatedProgram) (plan : ActivePlan) (before after : Store σ),
      AdmissionStored env call admission committedAt program plan before after →
      P before.core → P after.core)
    {s : System σ} (h : Reachable env s) : P s.store.core := by
  induction h with
  | start h => exact hfresh _ h
  | step _ hstep ih =>
      rcases hstep.programs with h | ⟨call, admission, committedAt, program, plan, h⟩
      · exact hsame _ _ h ih
      · exact hstored call admission committedAt program plan _ _ h ih

/-- The phases of a call leave the record of the Tasks alone, but for the last one where it applied the
    transition. -/
theorem Trail.settled {phase : Phase} {trail : List (Store σ × Store σ)}
    (h : Trail env call phase trail) : (∀ pair ∈ trail, pair.2.core = pair.1.core) ∨
      ∃ earlier before after, trail = earlier ++ [(before, after)] ∧
        (∀ pair ∈ earlier, pair.2.core = pair.1.core) ∧ ∃ requestJson resultedAt task payload row,
          TransitionStored env call requestJson resultedAt before after task payload row := by
  cases h with
  | quiet hquiet => exact .inl fun pair hpair => (hquiet pair hpair).core
  | @ended outcome earlier before after hquiet heffect =>
      have hearlier : ∀ pair ∈ earlier, pair.2.core = pair.1.core :=
        fun pair hpair => (hquiet pair hpair).core
      have hlast : after.core = before.core →
          ∀ pair ∈ earlier ++ [(before, after)], pair.2.core = pair.1.core := by
        intro hcore pair hpair
        rcases List.mem_append.mp hpair with hold | hnew
        · exact hearlier pair hold
        · rw [List.mem_singleton.mp hnew]
          exact hcore
      cases heffect with
      | quiet h => exact .inl (hlast h.core)
      | rejected _ _ h => exact .inl (hlast h.core)
      | applied _ h => exact .inr ⟨earlier, before, after, rfl, hearlier, _, _, _, _, _, h⟩

/-- A success has a receipt under the identity of its call, with the text of its request. -/
def Recorded (env : Env σ) (call : Call) (store : Store σ) (outcome : TaskResult TransitionResult) :
    Prop :=
  ∀ result, outcome = .ok result → result.applied = true → ∃ receipt,
    store.receipt? call.request.transitionId = some receipt ∧
      canonicalJson env call.request.toJson = .ok receipt.requestJson

/-- The outcome a phase has, or hands on, is recorded. -/
def Phase.Recorded (env : Env σ) (call : Call) (store : Store σ) : Phase → Prop
  | .observe _ (.answer outcome) | .done outcome => Tasks.Recorded env call store outcome
  | _ => True

theorem recorded_error (env : Env σ) (call : Call) (store : Store σ) (e : TaskManagerError) :
    Recorded env call store (.error e) :=
  fun _ h => by cases h

/-- Receipts stay. -/
theorem Phase.Recorded.mono {before after : Store σ} {phase : Phase} (h : phase.Recorded env call before)
    (hkept : ∀ receipt, before.receipt? call.request.transitionId = some receipt →
      after.receipt? call.request.transitionId = some receipt) : phase.Recorded env call after := by
  have houtcome : ∀ outcome, Tasks.Recorded env call before outcome →
      Tasks.Recorded env call after outcome := by
    intro outcome hrecorded result hresult happlied
    obtain ⟨receipt, hreceipt, htext⟩ := hrecorded result hresult happlied
    exact ⟨receipt, hkept receipt hreceipt, htext⟩
  cases phase with
  | observe sample next =>
      cases next with
      | answer outcome => exact houtcome outcome h
      | reject requestJson resultedAt result => trivial
  | done outcome => exact houtcome outcome h
  | _ => trivial

/-- What the main transaction answers is recorded. -/
theorem afterMain_recorded {store : Store σ}
    {locked : Option LockedTimeObservation} {ending : TaskResult (Ending σ)}
    (hcanonical : canonicalJson env call.request.toJson = .ok requestJson)
    (hending : ∀ e, ending = .ok e → e.Explained env call requestJson resultedAt store) :
    (afterMain store requestJson resultedAt locked ending).2.Recorded env call
      (afterMain store requestJson resultedAt locked ending).1 := by
  have hsettle : ∀ outcome, Recorded env call store outcome →
      (settle store locked (.answer outcome)).2.Recorded env call store := by
    intro outcome h
    cases locked <;> exact h
  unfold afterMain
  cases ending with
  | error e => exact hsettle _ (recorded_error env call store e)
  | ok ending =>
      have hexplained := hending ending rfl
      cases ending with
      | committed after result =>
          intro r hr happlied
          obtain rfl := Except.ok.inj hr
          rcases hexplained with ⟨_, _, rfl, _⟩ | ⟨task, program, row, rfl, hstored⟩
          · cases happlied
          · exact ⟨_, (hstored.receipt? _).trans (if_pos rfl), hcanonical⟩
      | answered result =>
          refine hsettle _ fun r hr happlied => ?_
          obtain rfl := Except.ok.inj hr
          obtain ⟨receipt, hreceipt, ⟨hsame, _⟩ | ⟨_, rfl⟩⟩ := hexplained
          · exact ⟨receipt, hreceipt, hsame ▸ hcanonical⟩
          · cases happlied
      | startRefused result => cases locked <;> trivial

/-- **A phase keeps its successes recorded.** -/
theorem advance_recorded {sent : Option Receipt} {reading : Reading}
    {fault : Option Fault} {store : Store σ} {phase : Phase} (hsound : phase.Sound env call sent)
    (h : phase.Recorded env call store) : (advance env call reading fault store phase).2.Recorded env call
      (advance env call reading fault store phase).1 := by
  have herror : ∀ (store : Store σ) e, (Phase.done (.error e)).Recorded env call store :=
    fun store e => recorded_error env call store e
  cases phase with
  | start =>
      show (startPhase env call reading).Recorded env call store
      unfold startPhase
      split
      · exact herror _ _
      · split
        · trivial
        · split
          · exact herror _ _
          · trivial
  | assess =>
      show (assessPhase env call reading fault store).2.Recorded env call _
      unfold assessPhase
      split
      · exact herror _ _
      · next clock assessment _ =>
        show (assessed env call assessment).Recorded env call _
        unfold assessed
        split
        · exact herror _ _
        · trivial
  | main requestJson resultedAt =>
      show (mainPhase env call reading fault store requestJson resultedAt).2.Recorded env call
        (mainPhase env call reading fault store requestJson resultedAt).1
      unfold mainPhase
      split
      · exact herror _ _
      · split
        · next hrunning =>
          split
          · exact herror _ _
          · next fresh _ =>
            unfold lockedMain
            split
            · exact recorded_error env call store _
            · exact afterMain_recorded hsound.canonical fun e he =>
                transition_ok (fun hne => absurd hrunning hne) (faulty_ok he)
        · exact afterMain_recorded hsound.canonical fun e he =>
            transition_ok (fun _ => rfl) (faulty_ok he)
  | observe sample next =>
      show (observePhase env fault store sample next).2.Recorded env call
        (observePhase env fault store sample next).1
      unfold observePhase
      split
      · exact herror _ _
      · cases next with
        | answer outcome =>
            have hdone : (Phase.done outcome).Recorded env call store := h
            exact hdone.mono fun _ hr => hr
        | reject requestJson resultedAt result => trivial
  | reject requestJson resultedAt result =>
      show (rejectPhase call fault store requestJson resultedAt result).2.Recorded env call _
      unfold rejectPhase
      split
      · exact herror _ _
      · intro r hr happlied
        obtain ⟨_, _, hresult⟩ := hsound.refused
        rw [← Except.ok.inj hr, hresult] at happlied
        cases happlied
  | done outcome => exact h

/-- **In every reachable system every success has its receipt.** -/
theorem Reachable.recorded {s : System σ} (h : Reachable env s) :
    ∀ flight ∈ s.flights, flight.phase.Recorded env (flight.call env.digest) s.store := by
  induction h with
  | start _ =>
      intro flight hflight
      cases hflight
  | @step s s' hreach hstep ih =>
      have hchange := (hstep.change hreach.sound).1
      have hkept : ∀ flight ∈ s.flights,
          flight.phase.Recorded env (flight.call env.digest) s'.store := fun flight hflight =>
        (ih flight hflight).mono fun _ => hchange.receipt?
      intro flight hflight
      cases hstep with
      | create lease request constraints nonce createdAt h => exact hkept flight hflight
      | send lease entry =>
          rcases List.mem_append.mp hflight with hold | hnew
          · exact hkept flight hold
          · rw [List.mem_singleton.mp hnew]
            trivial
      | @advance left right moved reading fault hsplit _ =>
          have hmem : ∀ other, other ∈ left ∨ other = moved ∨ other ∈ right → other ∈ s.flights := by
            intro other hother
            rw [hsplit, List.mem_append, List.mem_cons]
            exact hother
          have hmoved := hmem moved (.inr (.inl rfl))
          rcases List.mem_append.mp hflight with hl | hr
          · exact hkept flight (hmem flight (.inl hl))
          · rcases List.mem_cons.mp hr with rfl | hr
            · exact advance_recorded (hreach.sound.flights moved hmoved).phase (ih moved hmoved)
            · exact hkept flight (hmem flight (.inr (.inr hr)))
      | crash hsub => exact hkept flight (hsub.subset hflight)
      | other _ => exact hkept flight hflight

end Aios.Tasks
