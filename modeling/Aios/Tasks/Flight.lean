/-
  File:      Aios/Tasks/Flight.lean
  Subject:   ONE CALL UNDER INTERFERENCE: what each of its phases may do, and what it carries from one
             phase to the next.

  Between two phases the store may change in any way that keeps receipts; a call carries its
  validated request, the canonical text of it and, once it has one, its result (`Phase.Sound`). Each
  phase is quiet, stores the call's rejection, or stores its transition (`Effect`); the last two end
  the call.
-/
import Aios.Tasks.System

namespace Aios.Tasks

open Lib Json Provenance TaskState

variable {σ : Type}

/-! ## 1. What a call carries -/

/-- Nothing changed but the record of time, and that for a start only. -/
structure Quiet (call : Call) (before after : Store σ) : Prop where
  core : after.core = before.core
  receipts : after.receipts = before.receipts
  observations : before.clock.observations <+: after.clock.observations
  latches : before.clock.latches <+: after.clock.latches
  clock : call.request.toState ≠ running → after.clock = before.clock

theorem Quiet.refl (call : Call) (store : Store σ) : Quiet call store store :=
  ⟨rfl, rfl, List.prefix_refl _, List.prefix_refl _, fun _ => rfl⟩

theorem quiet_clock {call : Call} {store : Store σ} {clock : Clock}
    (h : Observed store.clock clock) (hrunning : call.request.toState = running) :
    Quiet call store { store with clock := clock } :=
  ⟨rfl, rfl, h.observations, by simp only [h.latches, List.prefix_refl],
    fun hne => absurd hrunning hne⟩

/-- The request passed the contract and this is its canonical text. -/
structure Admitted (env : Env σ) (call : Call) (requestJson : String) : Prop where
  valid : validateTransitionRequest call.request call.internalRecovery = .ok ()
  canonical : canonicalJson env call.request.toJson = .ok requestJson

/-- The result answers the receipt that was stored when the call was sent. -/
def Answers (env : Env σ) (call : Call) (receipt : Receipt) (result : TransitionResult) : Prop :=
  ∃ requestJson, canonicalJson env call.request.toJson = .ok requestJson ∧
    ((receipt.requestJson = requestJson ∧
        receipt.result.bind TransitionResult.ofJson = some result) ∨
      (receipt.requestJson ≠ requestJson ∧ ∃ observed resultedAt,
        result = rejected call.request "TASK_TRANSITION_ID_REUSE_CONFLICT" observed resultedAt))

def OutcomeSound (env : Env σ) (call : Call) (sent : Option Receipt)
    (outcome : TaskResult TransitionResult) : Prop :=
  ∀ result receipt, outcome = .ok result → sent = some receipt → Answers env call receipt result

/-- A start whose steps were refused, before its rejection is stored. -/
structure RefusalSound (env : Env σ) (call : Call) (sent : Option Receipt)
    (requestJson resultedAt : String) (result : TransitionResult) : Prop where
  running : call.request.toState = running
  unsent : sent = none
  admitted : Admitted env call requestJson
  refused : ∃ place, place.2 ≤ maxSafeJsonInteger ∧
    result = rejected call.request "TASK_TRANSITION_GUARD_FAILED" (some place) resultedAt

def Continuation.Sound (env : Env σ) (call : Call) (sent : Option Receipt) : Continuation → Prop
  | .answer outcome => OutcomeSound env call sent outcome
  | .reject requestJson resultedAt result =>
      RefusalSound env call sent requestJson resultedAt result

/-- What is known of a call in this phase. -/
def Phase.Sound (env : Env σ) (call : Call) (sent : Option Receipt) : Phase → Prop
  | .start => True
  | .assess => validateTransitionRequest call.request call.internalRecovery = .ok () ∧
      call.request.toState = running
  | .main requestJson _ => Admitted env call requestJson
  | .observe _ next => call.request.toState = running ∧ next.Sound env call sent
  | .reject requestJson resultedAt result =>
      RefusalSound env call sent requestJson resultedAt result
  | .done outcome => OutcomeSound env call sent outcome

theorem Continuation.Sound.phase {env : Env σ} {call : Call} {sent : Option Receipt}
    {next : Continuation} (h : next.Sound env call sent) : next.phase.Sound env call sent := by
  cases next with
  | answer outcome => exact h
  | reject requestJson resultedAt result => exact h

theorem outcomeSound_error (env : Env σ) (call : Call) (sent : Option Receipt)
    (e : TaskManagerError) : OutcomeSound env call sent (.error e) :=
  fun _ _ h => by cases h

/-- What a phase did to the store. -/
inductive Effect (env : Env σ) (call : Call) (before after : Store σ) : Phase → Prop where
  | quiet {phase : Phase} : Quiet call before after → Effect env call before after phase
  | rejected {requestJson resultedAt code : String} {observed : Option (TaskState × Nat)} :
      Admitted env call requestJson → (∀ place, observed = some place → place.2 ≤ maxSafeJsonInteger) →
      RejectionStored call requestJson resultedAt code observed before after →
      Effect env call before after (.done (.ok (rejected call.request code observed resultedAt)))
  | applied {requestJson resultedAt : String} {task : TaskRow} {program : Option Json}
      {row : EventRow} :
      Admitted env call requestJson →
      TransitionStored env call requestJson resultedAt before after task program row →
      Effect env call before after (.done (.ok (applied call.request task.revision
        (task.revision + 1) task.state row.eventId row.eventHash resultedAt)))

/-! ## 2. The phases -/

section Phases

variable {env : Env σ} {call : Call} {sent : Option Receipt} {reading : Reading}
  {fault : Option Fault} {store : Store σ}

theorem startPhase_sound : (startPhase env call reading).Sound env call sent := by
  unfold startPhase
  split
  · exact outcomeSound_error _ _ _ _
  · next hvalid =>
    split
    · next hrunning => exact ⟨hvalid, hrunning⟩
    · split
      · exact outcomeSound_error _ _ _ _
      · next hcanonical => exact ⟨hvalid, hcanonical⟩

theorem assessed_sound {assessment : TimeAssessment}
    (hvalid : validateTransitionRequest call.request call.internalRecovery = .ok ()) :
    (assessed env call assessment).Sound env call sent := by
  unfold assessed
  split
  · exact outcomeSound_error _ _ _ _
  · next h =>
    rw [bind_eq_ok'] at h
    obtain ⟨now, _, h⟩ := h
    rw [bind_eq_ok'] at h
    obtain ⟨text, htext, h⟩ := h
    have e : text = _ := congrArg Prod.fst (Except.ok.inj h)
    rw [e] at htext
    exact ⟨hvalid, htext⟩

theorem faulty_ok {α : Type} {body : TaskResult α} {a : α} (h : faulty fault body = .ok a) :
    body = .ok a := by
  unfold faulty at h
  split at h
  · exact h
  · cases h

theorem assessPhase_effect (hvalid : validateTransitionRequest call.request call.internalRecovery =
    .ok ()) (hrunning : call.request.toState = running) :
    Quiet call store (assessPhase env call reading fault store).1 ∧
      (assessPhase env call reading fault store).2.Sound env call sent := by
  unfold assessPhase
  split
  · exact ⟨.refl call store, outcomeSound_error _ _ _ _⟩
  · next h =>
    have h := faulty_ok h
    rw [unit_bind_eq_ok] at h
    exact ⟨quiet_clock (observed_applySample h.2) hrunning, assessed_sound hvalid⟩

theorem observePhase_effect {sample : Option SecurityClockSample} {next : Continuation}
    (hrunning : call.request.toState = running) (hnext : next.Sound env call sent) :
    Quiet call store (observePhase env fault store sample next).1 ∧
      (observePhase env fault store sample next).2.Sound env call sent := by
  unfold observePhase
  split
  · exact ⟨.refl call store, outcomeSound_error _ _ _ _⟩
  · next h =>
    exact ⟨quiet_clock (observed_applySample (faulty_ok h)) hrunning, hnext.phase⟩

theorem rejectPhase_effect {requestJson resultedAt : String} {result : TransitionResult}
    (hsound : RefusalSound env call sent requestJson resultedAt result) :
    Effect env call store (rejectPhase call fault store requestJson resultedAt result).1
        (rejectPhase call fault store requestJson resultedAt result).2 ∧
      (rejectPhase call fault store requestJson resultedAt result).2.Sound env call sent := by
  unfold rejectPhase
  split
  · exact ⟨.quiet (.refl call store), outcomeSound_error _ _ _ _⟩
  · next h =>
    have h := faulty_ok h
    rw [unit_bind_eq_ok] at h
    obtain ⟨hfresh, hset⟩ := insertReceipt_ok h.2
    obtain ⟨place, hplace, hresult⟩ := hsound.refused
    refine ⟨?_, fun _ _ _ hsent => by rw [hsound.unsent] at hsent; cases hsent⟩
    rw [hset, hresult]
    refine .rejected hsound.admitted (fun p hp => ?_)
      ⟨hfresh, rfl, rfl, List.prefix_refl _, List.prefix_refl _, fun _ => rfl⟩
    rw [← Option.some.inj hp]
    exact hplace

/-- A replayed answer is the stored one. -/
theorem replayed_answers {requestJson resultedAt : String} {result : TransitionResult}
    {receipt : Receipt} (hadmitted : Admitted env call requestJson)
    (hstored : store.receipt? call.request.transitionId = some receipt)
    (h : Replayed env call requestJson resultedAt store result) : Answers env call receipt result := by
  obtain ⟨found, hfound, h⟩ := h
  have e : found = receipt := Option.some.inj (hfound.symm.trans hstored)
  subst e
  refine ⟨requestJson, hadmitted.canonical, ?_⟩
  rcases h with ⟨hsame, hresult⟩ | ⟨hdifferent, hresult⟩
  · refine .inl ⟨hsame, ?_⟩
    unfold authenticatedTransitionResult at hresult
    simp only [bind_eq_ok', exists_unit, expect_ok, rejectIf_ok] at hresult
    obtain ⟨r, hr, value, hvalue, stored, hdecode, _, _, e⟩ := hresult
    have hr : r = found := Option.some.inj (hr.symm.trans hfound)
    rw [← hr, hvalue, Option.bind_some, hdecode, Except.ok.inj e]
  · exact .inr ⟨hdifferent, _, _, hresult⟩

variable (hsent : ∀ receipt, sent = some receipt →
    store.receipt? call.request.transitionId = some receipt)
  (hbounded : ∀ task, store.task? call.request.taskId = some task →
    task.revision ≤ maxSafeJsonInteger)

include hsent hbounded

/-- After the main transaction. -/
theorem afterMain_effect {requestJson resultedAt : String} {locked : Option LockedTimeObservation}
    {ending : TaskResult (Ending σ)} (hadmitted : Admitted env call requestJson)
    (hlocked : locked = none ↔ call.request.toState ≠ running)
    (hending : ∀ e, ending = .ok e → e.Explained env call requestJson resultedAt store) :
    Effect env call store (afterMain store requestJson resultedAt locked ending).1
        (afterMain store requestJson resultedAt locked ending).2 ∧
      (afterMain store requestJson resultedAt locked ending).2.Sound env call sent := by
  -- whatever is answered without a commit goes through the locked sample first
  have hsettle : ∀ next : Continuation, next.Sound env call sent →
      Effect env call store (settle store locked next).1 (settle store locked next).2 ∧
        (settle store locked next).2.Sound env call sent := by
    intro next hnext
    refine ⟨.quiet (.refl call store), ?_⟩
    cases locked with
    | none => exact hnext.phase
    | some fresh =>
        refine ⟨?_, hnext⟩
        by_contra hne
        have := hlocked.mpr hne
        cases this
  have hnone : ∀ {result}, store.receipt? call.request.transitionId = none →
      OutcomeSound env call sent (.ok result) := by
    intro result hfresh _ receipt _ hs
    rw [hsent receipt hs] at hfresh
    cases hfresh
  unfold afterMain
  cases ending with
  | error e => exact hsettle (.answer (.error e)) (outcomeSound_error _ _ _ _)
  | ok ending =>
      have hexplained := hending ending rfl
      cases ending with
      | committed after result =>
          rcases hexplained with ⟨code, observed, rfl, hseen, hstored⟩ |
            ⟨task, program, row, rfl, hstored⟩
          · refine ⟨.rejected hadmitted (fun place hplace => ?_) hstored, hnone hstored.fresh⟩
            obtain ⟨task, htask, e⟩ := hseen place hplace
            rw [e]
            exact hbounded task htask
          · exact ⟨.applied hadmitted hstored, hnone hstored.fresh⟩
      | answered result =>
          refine hsettle (.answer (.ok result)) ?_
          intro r receipt hr hs
          rw [← Except.ok.inj hr]
          exact replayed_answers hadmitted (hsent receipt hs) hexplained
      | startRefused result =>
          obtain ⟨hrunning, hfresh, task, htask, hresult⟩ := hexplained
          refine hsettle (.reject requestJson resultedAt result) ?_
          refine ⟨hrunning, ?_, hadmitted, ⟨(task.state, task.revision), hbounded task htask, hresult⟩⟩
          cases hs : sent with
          | none => rfl
          | some receipt =>
              rw [hsent receipt hs] at hfresh
              cases hfresh

theorem mainPhase_effect {requestJson resultedAt : String}
    (hadmitted : Admitted env call requestJson) :
    Effect env call store (mainPhase env call reading fault store requestJson resultedAt).1
        (mainPhase env call reading fault store requestJson resultedAt).2 ∧
      (mainPhase env call reading fault store requestJson resultedAt).2.Sound env call sent := by
  unfold mainPhase
  split
  · exact ⟨.quiet (.refl call store), outcomeSound_error _ _ _ _⟩
  · split
    · next hrunning =>
      split
      · exact ⟨.quiet (.refl call store), outcomeSound_error _ _ _ _⟩
      · next fresh _ =>
        unfold lockedMain
        split
        · exact ⟨.quiet (.refl call store), hrunning, outcomeSound_error _ _ _ _⟩
        · refine afterMain_effect hsent hbounded hadmitted ⟨(fun h => by cases h), fun h => absurd hrunning h⟩ ?_
          intro e he
          exact transition_ok (fun hne => absurd hrunning hne) (faulty_ok he)
    · next hne =>
      refine afterMain_effect hsent hbounded hadmitted ⟨fun _ => hne, fun _ => rfl⟩ ?_
      intro e he
      exact transition_ok (fun _ => rfl) (faulty_ok he)

/-- **A phase is quiet, stores the rejection, or stores the transition**, and hands on what it knows. -/
theorem advance_effect {phase : Phase} (hsound : phase.Sound env call sent) :
    Effect env call store (advance env call reading fault store phase).1
        (advance env call reading fault store phase).2 ∧
      (advance env call reading fault store phase).2.Sound env call sent := by
  cases phase with
  | start => exact ⟨.quiet (.refl call store), startPhase_sound⟩
  | assess =>
      obtain ⟨hquiet, hnext⟩ := assessPhase_effect hsound.1 hsound.2
      exact ⟨.quiet hquiet, hnext⟩
  | main requestJson resultedAt => exact mainPhase_effect hsent hbounded hsound
  | observe sample next =>
      obtain ⟨hquiet, hnext⟩ := observePhase_effect hsound.1 hsound.2
      exact ⟨.quiet hquiet, hnext⟩
  | reject requestJson resultedAt result => exact rejectPhase_effect hsound
  | done outcome => exact ⟨.quiet (.refl call store), hsound⟩

end Phases

end Aios.Tasks
