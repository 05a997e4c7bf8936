/-
  File:      Aios/Tasks/Replay.lean
  Subject:   EXACTLY ONCE UNDER RETRIES: every stored receipt is authenticated again, in every
             reachable store, and a send that finds a receipt is answered from it.

  The invariant (`ReceiptSound`) says where a receipt came from: a rejection, or a transition whose
  event still stands in the journal and whose Task is at least at the revision it left. Everything
  the authentication compares follows from that.
-/
import Aios.Tasks.Run

namespace Aios.Tasks

open Lib Json Provenance TaskState

variable {σ : Type} {env : Env σ}

/-! ## 1. Where a receipt came from -/

/-- The receipt of a transition that was applied, and what of it is still in the store. -/
structure AppliedReceipt (env : Env σ) (store : Store σ) (id : String) (receipt : Receipt)
    (request : TransitionRequest) (requestJson resultedAt : String) (task : TaskRow)
    (program : Option Json) (row : EventRow) : Prop where
  isReceipt : receipt = committedReceipt request requestJson (task.revision + 1) (applied request
    task.revision (task.revision + 1) task.state row.eventId row.eventHash resultedAt) resultedAt
  identity : request.transitionId = id
  valid : validateTransitionRequest request (recoveryIdentity request.transitionId) = .ok ()
  canonical : canonicalJson env request.toJson = .ok requestJson
  expectedRevision : request.expectedRevision = task.revision
  expectedState : request.expectedState = task.state
  safe : task.revision + 1 ≤ maxSafeJsonInteger ∧
    ∀ plan, request.mutation.activePlan = some plan → plan.revision ≤ maxSafeJsonInteger
  nonce : task.intentCommitmentNonce.length = 32
  stored : row ∈ store.core.events
  event : row.event = transitionEvent env.digest task.intentCommitmentNonce request task.revision
    task.state program resultedAt
  taskId : row.taskId = request.taskId
  eventId : row.eventId = transitionEventId env.digest request.transitionId
  timestamp : row.timestamp = resultedAt
  eventType : row.eventType = "task.transitioned"
  current : ∃ now, store.task? request.taskId = some now ∧
    now.intentCommitmentNonce = task.intentCommitmentNonce ∧ task.revision + 1 ≤ now.revision

/-- A receipt and where it came from. -/
inductive ReceiptSound (env : Env σ) (store : Store σ) (id : String) (receipt : Receipt) : Prop where
  | rejected {request : TransitionRequest} {requestJson resultedAt code : String}
      {observed : Option (TaskState × Nat)} : request.transitionId = id →
      (∀ place, observed = some place → place.2 ≤ maxSafeJsonInteger) →
      receipt = rejectionReceipt request requestJson (rejected request code observed resultedAt)
        resultedAt → ReceiptSound env store id receipt
  | applied {request : TransitionRequest} {requestJson resultedAt : String} {task : TaskRow}
      {program : Option Json} {row : EventRow} :
      AppliedReceipt env store id receipt request requestJson resultedAt task program row →
      ReceiptSound env store id receipt

/-- What the authentication rests on. -/
structure Replayable (env : Env σ) (store : Store σ) : Prop where
  journal : Provenance.Sound env.journal store.core.events
  receipts : ∀ id receipt, store.receipt? id = some receipt → ReceiptSound env store id receipt

/-! ## 2. The invariant -/

/-- A Task stays, under its nonce, and its revision never falls. -/
theorem Change.keepsTask {flights : List (Flight σ)} {before after : Store σ}
    (h : Change env flights before after) {id : String} {row : TaskRow}
    (hrow : before.task? id = some row) : ∃ now, after.task? id = some now ∧
      now.intentCommitmentNonce = row.intentCommitmentNonce ∧ row.revision ≤ now.revision := by
  cases h with
  | created h =>
      rw [h.tasks]
      split
      · next e =>
        rw [← e, h.absent] at hrow
        cases hrow
      · exact ⟨row, hrow, rfl, Nat.le_refl _⟩
  | kept h => exact ⟨row, by rw [h.task?]; exact hrow, rfl, Nat.le_refl _⟩
  | rejected _ _ _ h => exact ⟨row, by rw [h.task?]; exact hrow, rfl, Nat.le_refl _⟩
  | applied _ _ h =>
      rw [h.tasks]
      split
      · next e =>
        rw [← e, h.found] at hrow
        rw [← Option.some.inj hrow]
        exact ⟨_, rfl, rfl, Nat.le_succ _⟩
      · exact ⟨row, hrow, rfl, Nat.le_refl _⟩

theorem AppliedReceipt.change {flights : List (Flight σ)} {before after : Store σ}
    (hchange : Change env flights before after) {id : String} {receipt : Receipt}
    {request : TransitionRequest} {requestJson resultedAt : String} {task : TaskRow}
    {program : Option Json} {row : EventRow}
    (h : AppliedReceipt env before id receipt request requestJson resultedAt task program row) :
    AppliedReceipt env after id receipt request requestJson resultedAt task program row := by
  obtain ⟨now, hnow, hnonce, hrevision⟩ := h.current
  obtain ⟨later, hlater, hnonce', hrevision'⟩ := hchange.keepsTask hnow
  exact { h with
    stored := hchange.grown.keeps.subset h.stored
    current := ⟨later, hlater, hnonce'.trans hnonce, Nat.le_trans hrevision hrevision'⟩ }

theorem ReceiptSound.change {flights : List (Flight σ)} {before after : Store σ}
    (hchange : Change env flights before after) {id : String} {receipt : Receipt}
    (h : ReceiptSound env before id receipt) : ReceiptSound env after id receipt := by
  cases h with
  | rejected hid hsafe e => exact .rejected hid hsafe e
  | applied h => exact .applied (h.change hchange)

/-- The flag of the recovery is told by the identity. -/
theorem validate_identity {digest : Digest} {flight : Flight σ}
    (h : validateTransitionRequest (flight.call digest).request (flight.call digest).internalRecovery =
      .ok ()) :
    validateTransitionRequest (flight.call digest).request
      (recoveryIdentity (flight.call digest).request.transitionId) = .ok () := by
  have hflag := flight.entry.internal_iff digest flight.lease
  have hsame : recoveryIdentity (flight.call digest).request.transitionId =
      (flight.call digest).internalRecovery := by
    cases hrecovery : flight.entry.recovery with
    | true =>
        rw [hrecovery] at hflag
        exact (Entry.recoveryIdentity hrecovery).trans hflag.symm
    | false =>
        rw [hrecovery] at hflag
        have hflag' : (flight.call digest).internalRecovery = false := hflag
        rw [hflag']
        by_contra hne
        have hinternal := internal_of_recoveryIdentity (Bool.eq_true_of_not_eq_false hne)
        unfold validateTransitionRequest validTransitionRequest at h
        rw [hflag'] at h
        simp [hinternal] at h
  rw [hsame]
  exact h

/-- The receipt a transition leaves. -/
theorem TransitionStored.appliedReceipt {flight : Flight σ} {requestJson resultedAt : String}
    {before after : Store σ} {task : TaskRow} {program : Option Json} {row : EventRow}
    (hadmitted : Admitted env (flight.call env.digest) requestJson)
    (h : TransitionStored env (flight.call env.digest) requestJson resultedAt before after task program
      row) {receipt : Receipt}
    (hreceipt : after.receipt? (flight.call env.digest).request.transitionId = some receipt) :
    AppliedReceipt env after (flight.call env.digest).request.transitionId receipt
      (flight.call env.digest).request requestJson resultedAt task program row := by
  obtain ⟨rows, _, _, happ, hevents⟩ := h.event
  have hshape := (validateEvent_ok _ happ.valid).2.1
  have hread : env.journal.reread (transitionEvent env.digest task.intentCommitmentNonce
      (flight.call env.digest).request task.revision task.state program resultedAt) = _ :=
    env.journal.reread_exact _ (floatFree_transitionEvent (floatFree_activeProgram h.program))
  rw [h.receipt?, if_pos rfl] at hreceipt
  have hid := happ.eventId
  have htime := happ.timestamp
  have htype := happ.eventType
  simp [stringField, transitionEvent, Json.asStr] at hid htime htype
  exact {
    isReceipt := (Option.some.inj hreceipt).symm
    identity := rfl
    valid := validate_identity hadmitted.valid
    canonical := hadmitted.canonical
    expectedRevision := h.expectedRevision
    expectedState := h.expectedState
    safe := transitionEvent_safe hshape
    nonce := h.nonce
    stored := by
      rw [hevents]
      exact List.mem_append_right _ List.mem_cons_self
    event := happ.stored_eq.1.trans hread
    taskId := happ.stored_eq.2
    eventId := hid.symm
    timestamp := htime.symm
    eventType := htype.symm
    current := ⟨movedRow (flight.call env.digest) task row.eventId resultedAt,
      by rw [h.tasks, if_pos rfl], rfl, Nat.le_refl _⟩ }

/-- **Every change keeps every receipt authentic.** -/
theorem Replayable.change {flights : List (Flight σ)} {before after : Store σ}
    (h : Replayable env before) (hchange : Change env flights before after) : Replayable env after := by
  refine ⟨hchange.grown.sound h.journal, fun id receipt hreceipt => ?_⟩
  by_cases hold : before.receipt? id = some receipt
  · exact (h.receipts id receipt hold).change hchange
  · -- a receipt that was not there is the one this step stored
    cases hchange with
    | created hstored =>
        rw [Store.receipt?, hstored.receipts] at hreceipt
        exact absurd hreceipt hold
    | kept hsteady =>
        rw [Store.receipt?, hsteady.receipts] at hreceipt
        exact absurd hreceipt hold
    | rejected _ _ hsafe hstored =>
        rw [hstored.receipt?] at hreceipt
        split at hreceipt
        · next e => exact .rejected e hsafe (Option.some.inj hreceipt).symm
        · exact absurd hreceipt hold
    | applied _ hadmitted hstored =>
        have hfound := hreceipt
        rw [hstored.receipt?] at hfound
        split at hfound
        · next e =>
          rw [← e] at hreceipt ⊢
          exact .applied (hstored.appliedReceipt hadmitted hreceipt)
        · exact absurd hfound hold

theorem Reachable.replayable {s : System σ} (h : Reachable env s) : Replayable env s.store := by
  refine Reachable.induct (fun store hfresh => ⟨?_, fun id receipt hreceipt => ?_⟩)
    (fun _ _ _ hbefore hchange => hbefore.change hchange) h
  · rw [hfresh.events]
    exact sound_nil
  · rw [hfresh.receipts] at hreceipt
    cases hreceipt

/-! ## 3. Authentication -/

/-- Two facts about the surroundings: a canonical request whose numbers every reader keeps is read
    back, and the epoch is a timestamp. -/
structure ReplayLaws (env : Env σ) : Prop where
  reads : ∀ (request : TransitionRequest) (text : String), canonicalJson env request.toJson = .ok text →
    request.expectedRevision ≤ maxSafeJsonInteger →
    (∀ plan, request.mutation.activePlan = some plan → plan.revision ≤ maxSafeJsonInteger) →
    env.parseJson text = some request.toJson
  epoch : (env.journal.rfc3339 "1970-01-01T00:00:00Z").isSome

section Authentication

variable {store : Store σ}

/-- A stream that verifies is the one of its Task, and no row of the Task stands elsewhere. -/
theorem verifyProvenance_of {events : List EventRow} (hc : Chained env.journal events) {row : EventRow}
    (hrow : row ∈ events) {through : Option Nat}
    (h : ∃ result, verifyStream env.journal events row.streamId through none "1970-01-01T00:00:00Z" =
      .ok result ∧ result.valid = true) :
    verifyProvenanceThrough env events row.taskId through = .ok true := by
  obtain ⟨result, hresult, hvalid⟩ := h
  have hstream := hc.streamId_eq hrow
  obtain ⟨p, latest, hlinked⟩ := hc.linked hrow
  have hown : streamId env.digest row.taskId = .ok row.streamId := by
    obtain ⟨task, htask, hs⟩ := Option.bind_eq_some_iff.mp hlinked.own
    have hindex := (carriesRevision_of_index hlinked.index).2
    rw [htask, Option.getD_some] at hindex
    rw [hindex]
    cases hsid : streamId env.digest task with
    | error e =>
        rw [show streamId env.journal.digest task = .error e from hsid] at hs
        cases hs
    | ok stream =>
        rw [show streamId env.journal.digest task = .ok stream from hsid] at hs
        rw [Option.some.inj hs]
  have hmatched : (events.any fun other => other.taskId = row.taskId &&
      other.streamId ≠ row.streamId && through.all fun upper => other.sequence ≤ upper) = false := by
    rw [List.any_eq_false]
    intro other hother
    have hs := hc.streamId_eq hother
    by_cases e : other.taskId = row.taskId
    · rw [e, ← hstream] at hs
      simp [hs]
    · simp [e]
  unfold verifyProvenanceThrough
  rw [hown, Except.mapError, ok_bind]
  simp only [hmatched]
  rw [hresult, Except.mapError, ok_bind, hvalid]
  rfl

theorem validateStreamId_row {events : List EventRow} (hc : Chained env.journal events) {row : EventRow}
    (hrow : row ∈ events) : validateStreamId row.streamId = .ok () := by
  rw [hc.streamId_eq hrow]
  exact validateStreamId_text _ _

/-- The journal verifies up to any of its rows. -/
theorem verifyProvenance_ok (laws : ReplayLaws env) (hsound : Provenance.Sound env.journal
    store.core.events) {row : EventRow} (hrow : row ∈ store.core.events) :
    verifyProvenanceThrough env store.core.events row.taskId (some row.sequence) = .ok true := by
  obtain ⟨p, latest, hlinked⟩ := hsound.chained.linked hrow
  have hsequence := (hashRecord_ok hlinked.hash).2.1
  exact verifyProvenance_of hsound.chained hrow (hsound.chained.verifyStream hrow
    (validateStreamId_row hsound.chained hrow) laws.epoch
    (by unfold maxSafeJsonInteger at hsequence; omega))

variable {id : String} {receipt : Receipt} {request : TransitionRequest}
  {requestJson resultedAt : String} {task : TaskRow} {program : Option Json} {row : EventRow}

/-- The hash of a stored row is computed again. -/
theorem provenanceHash_ok (hsound : Provenance.Sound env.journal store.core.events)
    (hrow : row ∈ store.core.events) : provenanceHash env row.taskId row = .ok row.eventHash := by
  obtain ⟨p, latest, hlinked⟩ := hsound.chained.linked hrow
  have hhash := hlinked.hash
  rw [hsound.chained.streamId_eq hrow] at hhash
  unfold provenanceHash
  show (hashRecord env.journal (streamIdText env.journal.digest row.taskId) row.sequence
    row.previousEventHash row.event).mapError _ = _
  rw [hhash]
  rfl

/-- What the event of a transition says, member by member. -/
theorem AppliedReceipt.members
    (h : AppliedReceipt env store id receipt request requestJson resultedAt task program row) :
    eventIdentified request.transitionId request.taskId row.eventId row = true ∧
      eventAnswers env task.intentCommitmentNonce row.event request = true ∧
      (pointer row.event ["task_transition", "previous_revision"]).bind asU64 = some task.revision ∧
      (pointer row.event ["task_transition", "new_revision"]).bind asU64 = some (task.revision + 1) ∧
      (pointer row.event ["task_transition", "previous_state"]).bind Json.asStr =
        some task.state.asStr ∧
      (pointer row.event ["task_transition", "new_state"]).bind Json.asStr =
        some request.toState.asStr := by
  have hid := h.eventId
  refine ⟨?_, ?_, ?_, ?_, ?_, ?_⟩
  · simp [eventIdentified, h.event, h.taskId, h.eventType, h.timestamp, h.eventId, transitionEvent,
      taskTransition, pointer, stringField, Json.asStr]
  · simp [eventAnswers, h.event, transitionEvent, taskTransition, transitionDetails,
      mutationTextCommitments, pointer, Json.asStr]
  · simp [h.event, transitionEvent, taskTransition, pointer]
  · simp [h.event, transitionEvent, taskTransition, pointer]
  · simp [h.event, transitionEvent, taskTransition, pointer, encodeState, Json.asStr]
  · simp [h.event, transitionEvent, taskTransition, pointer, encodeState, Json.asStr]

theorem namedState_asStr {value : Option Json} {state : TaskState}
    (h : value.bind Json.asStr = some state.asStr) : namedState value = .ok (some state) := by
  unfold namedState
  rw [h]
  simp only
  rw [TaskState.parse_asStr]
  rfl

/-- The row is found by its identity. -/
theorem AppliedReceipt.find
    (h : AppliedReceipt env store id receipt request requestJson resultedAt task program row)
    (hsound : Provenance.Sound env.journal store.core.events) :
    store.core.events.find? (fun r => r.eventId = row.eventId) = some row ∧
      store.core.events.find? (fun r => r.eventId = row.eventId && r.taskId = request.taskId &&
        r.eventType = "task.transitioned") = some row := by
  refine ⟨hsound.find h.stored (by simp) fun r hr => by simpa using hr,
    hsound.find h.stored ?_ fun r hr => ?_⟩
  · simp [h.taskId, h.eventType]
  · simp only [Bool.and_eq_true, decide_eq_true_eq] at hr
    exact hr.1.1

theorem AppliedReceipt.reconstruct
    (h : AppliedReceipt env store id receipt request requestJson resultedAt task program row)
    (laws : ReplayLaws env) (hsound : Provenance.Sound env.journal store.core.events)
    (hreceipt : store.receipt? id = some receipt) :
    reconstructCommittedTransition env store id receipt.taskId receipt.resultRevision
      receipt.resultState (some row.eventId) = .ok () := by
  obtain ⟨hidentified, hanswers, hprevious, hnext, hprevState, hnextState⟩ := h.members
  obtain ⟨now, hnow, hnonce, hrevision⟩ := h.current
  have htaskId : receipt.taskId = request.taskId := by rw [h.isReceipt]; rfl
  have hrequestJson : receipt.requestJson = requestJson := by rw [h.isReceipt]; rfl
  have hsafe := h.safe.1
  have hresultRevision : receipt.resultRevision = some (task.revision + 1) := by
    rw [h.isReceipt]
    have hmin : min (task.revision + 1) maxI64 = task.revision + 1 := by
      unfold maxI64 maxSafeJsonInteger at *
      omega
    exact congrArg some hmin
  have hresultState : receipt.resultState = some request.toState := by rw [h.isReceipt]; rfl
  have hstored : (env.parseJson receipt.requestJson).bind TransitionRequest.ofJson = some request := by
    rw [hrequestJson, laws.reads request requestJson h.canonical
      (by rw [h.expectedRevision]; omega) h.safe.2, Option.bind_some, TransitionRequest.ofJson_toJson]
  have hhash := provenanceHash_ok hsound h.stored
  have hverified := verifyProvenance_ok laws hsound h.stored
  rw [h.taskId] at hhash hverified
  unfold reconstructCommittedTransition
  simp only [bind_eq_ok', exists_unit, expect_ok, rejectIf_ok]
  refine ⟨row.eventId, rfl, row, (h.find hsound).1, receipt, hreceipt, request, hstored, h.valid,
    some task.state, namedState_asStr hprevState, some request.toState, namedState_asStr hnextState,
    now, by rw [htaskId]; exact hnow, ?_, row.eventHash, by rw [htaskId]; exact hhash, ?_, true,
    by rw [htaskId]; exact hverified, rfl, ?_, requestJson, h.canonical, rfl⟩
  · rw [hnonce]
    exact decide_eq_false (by rw [h.nonce]; simp)
  · have hadd : (if task.revision + 1 < 2 ^ 64 then some (task.revision + 1) else none) =
        some (task.revision + 1) := by
      unfold maxSafeJsonInteger at hsafe
      rw [if_pos (by omega)]
    rw [htaskId, ← h.identity, hidentified, hnonce, hanswers, hprevious, hnext, hresultRevision,
      hresultState, Option.bind_some, hadd, h.expectedRevision, h.expectedState]
    simp
  · rw [hnext, Option.getD_some]
    exact decide_eq_false (by omega)

theorem AppliedReceipt.authentic
    (h : AppliedReceipt env store id receipt request requestJson resultedAt task program row)
    (laws : ReplayLaws env) (hsound : Provenance.Sound env.journal store.core.events)
    (hreceipt : store.receipt? id = some receipt) :
    authenticatedTransitionResult env store id = .ok (applied request task.revision
      (task.revision + 1) task.state row.eventId row.eventHash resultedAt) := by
  obtain ⟨_, _, hprevious, hnext, hprevState, hnextState⟩ := h.members
  have hreconstruct := h.reconstruct laws hsound hreceipt
  have hfind := (h.find hsound).2
  have hhash := provenanceHash_ok hsound h.stored
  have hverified := verifyProvenance_ok laws hsound h.stored
  have hidentity : (pointer row.event ["task_transition", "transition_id"]).bind Json.asStr =
      some request.transitionId := by
    simp [h.event, transitionEvent, taskTransition, pointer, Json.asStr]
  have hsafe := h.safe.1
  have hmin : min (task.revision + 1) maxI64 = task.revision + 1 := by
    unfold maxI64 maxSafeJsonInteger at *
    omega
  have hmin' : min task.revision maxI64 = task.revision := by
    unfold maxI64 maxSafeJsonInteger at *
    omega
  rw [h.taskId] at hhash hverified
  rw [h.isReceipt] at hreconstruct
  have hcommitted : authenticateCommitted env store id receipt (applied request task.revision
      (task.revision + 1) task.state row.eventId row.eventHash resultedAt) = .ok () := by
    unfold authenticateCommitted
    simp only [bind_eq_ok', exists_unit, expect_ok, rejectIf_ok]
    rw [h.isReceipt]
    refine ⟨row.eventId, rfl, hreconstruct, row, hfind, ?_, row.eventHash, hhash, by simp, true,
      hverified, rfl⟩
    simp [resultMatchesEvent, committedReceipt, applied, hprevious, hnext, hprevState, hnextState,
      hidentity, h.identity, h.expectedRevision, h.expectedState, h.timestamp, hmin, hmin']
  unfold authenticatedTransitionResult
  simp only [bind_eq_ok', exists_unit, expect_ok, rejectIf_ok]
  have hresult : receipt.result = some (applied request task.revision (task.revision + 1) task.state
      row.eventId row.eventHash resultedAt).toJson := by
    rw [h.isReceipt]
    rfl
  have houtcome : receipt.outcome = .committed := by rw [h.isReceipt]; rfl
  refine ⟨receipt, hreceipt, _, hresult, _, TransitionResult.ofJson_toJson _, ?_, ?_, rfl⟩
  · rw [h.isReceipt]
    simp [resultMatchesRow, committedReceipt, applied, h.identity, hmin]
  · unfold authenticateOutcome
    rw [houtcome]
    exact hcommitted

/-- A stored rejection is returned as it was given. -/
theorem rejection_authentic {code : String} {observed : Option (TaskState × Nat)}
    (hid : request.transitionId = id)
    (hsafe : ∀ place, observed = some place → place.2 ≤ maxSafeJsonInteger)
    (hreceipt : store.receipt? id = some (rejectionReceipt request requestJson
      (rejected request code observed resultedAt) resultedAt)) :
    authenticatedTransitionResult env store id =
      .ok (rejected request code observed resultedAt) := by
  have hkept : (observed.map Prod.snd).filter (fun n => decide (n ≤ maxI64)) =
      observed.map Prod.snd := by
    cases observed with
    | none => rfl
    | some place =>
        have hle := hsafe place rfl
        have hi64 : place.2 ≤ maxI64 := by
          unfold maxI64 maxSafeJsonInteger at *
          omega
        simp [hi64]
  unfold authenticatedTransitionResult
  simp only [bind_eq_ok', exists_unit, expect_ok, rejectIf_ok]
  refine ⟨_, hreceipt, _, rfl, _, TransitionResult.ofJson_toJson _, ?_, ?_, rfl⟩
  · simp [resultMatchesRow, rejectionReceipt, rejected, hid, hkept]
  · simp [authenticateOutcome, rejectionReceipt, isRejection, rejected, rejectIf]

/-- **The authentication accepts every stored receipt** and returns the stored result. -/
theorem Replayable.authentic (h : Replayable env store) (laws : ReplayLaws env)
    (hreceipt : store.receipt? id = some receipt) : ∃ result,
    authenticatedTransitionResult env store id = .ok result ∧ receipt.result = some result.toJson := by
  cases h.receipts id receipt hreceipt with
  | rejected hid hsafe e =>
      rw [e] at hreceipt
      exact ⟨_, rejection_authentic hid hsafe hreceipt, by rw [e]; rfl⟩
  | applied happlied =>
      exact ⟨_, happlied.authentic laws h.journal hreceipt, by rw [happlied.isReceipt]; rfl⟩

end Authentication

/-! ## 4. Retries -/

/-- The main transaction of a send that finds a receipt. -/
theorem transition_replays {store : Store σ} {call : Call} {requestJson resultedAt : String}
    {locked : Option LockedTimeObservation} {receipt : Receipt} (h : Replayable env store)
    (laws : ReplayLaws env) (hlease : store.core.lease = some call.lease)
    (hreceipt : store.receipt? call.request.transitionId = some receipt) :
    ∃ result, transition env store call requestJson resultedAt locked = .ok (.answered result) ∧
      (receipt.requestJson = requestJson → receipt.result = some result.toJson) ∧
      (receipt.requestJson ≠ requestJson → ∃ observed,
        result = rejected call.request "TASK_TRANSITION_ID_REUSE_CONFLICT" observed resultedAt) := by
  have hassert : assertManagerLease store call.lease = .ok () := by
    unfold assertManagerLease
    rw [rejectIf_ok, hlease]
    simp
  unfold transition
  rw [hassert, ok_bind, hreceipt]
  simp only
  unfold replay
  by_cases e : receipt.requestJson = requestJson
  · obtain ⟨result, hresult, hstored⟩ := h.authentic laws hreceipt
    rw [if_pos e, hresult]
    exact ⟨result, rfl, fun _ => hstored, fun hne => absurd e hne⟩
  · rw [if_neg e]
    exact ⟨_, rfl, fun he => absurd he e, fun _ => ⟨_, rfl⟩⟩

/-- A trail whose phases all found a receipt is quiet: a phase that stores something finds none. -/
theorem Trail.quiet_of_seen {call : Call} {phase : Phase} {trail : List (Store σ × Store σ)}
    {receipt : Receipt} (h : Trail env call phase trail)
    (hseen : ∀ pair ∈ trail, pair.1.receipt? call.request.transitionId = some receipt) :
    ∀ pair ∈ trail, Quiet call pair.1 pair.2 := by
  cases h with
  | quiet hquiet => exact hquiet
  | ended hquiet heffect =>
      intro pair hpair
      have hfound := hseen pair hpair
      rcases List.mem_append.mp hpair with hold | hnew
      · exact hquiet pair hold
      · rw [List.mem_singleton.mp hnew] at hfound ⊢
        cases heffect with
        | quiet hq => exact hq
        | rejected _ _ hstored =>
            rw [hstored.fresh] at hfound
            cases hfound
        | applied _ hstored =>
            rw [hstored.fresh] at hfound
            cases hfound

/-- **Transitions are exactly-once under retries.** In every reachable system: a call that was sent
    when its identity had a receipt and returned a result returned the stored one, or the conflict
    of a different request, and changed nothing but the record of time; the authentication accepts
    every stored receipt; the main transaction of a later send answers from the receipt; and no step
    changes a receipt. -/
theorem transitions_exactly_once (laws : ReplayLaws env) {s : System σ} (h : Reachable env s) :
    (∀ flight ∈ s.flights, ∀ receipt, flight.sent = some receipt →
      (∀ result, flight.phase = .done (.ok result) →
        Answers env (flight.call env.digest) receipt result) ∧
      ∀ pair ∈ flight.trail, Quiet (flight.call env.digest) pair.1 pair.2) ∧
    (∀ id receipt, s.store.receipt? id = some receipt → ∃ result,
      authenticatedTransitionResult env s.store id = .ok result ∧
        receipt.result = some result.toJson) ∧
    (∀ (call : Call) (requestJson resultedAt : String) (locked : Option LockedTimeObservation)
        (receipt : Receipt), s.store.core.lease = some call.lease →
      s.store.receipt? call.request.transitionId = some receipt → ∃ result,
      transition env s.store call requestJson resultedAt locked = .ok (.answered result) ∧
      (receipt.requestJson = requestJson → receipt.result = some result.toJson) ∧
      (receipt.requestJson ≠ requestJson → ∃ observed,
        result = rejected call.request "TASK_TRANSITION_ID_REUSE_CONFLICT" observed resultedAt)) ∧
    (∀ s', Step env s s' → ∀ id receipt, s.store.receipt? id = some receipt →
      s'.store.receipt? id = some receipt) := by
  have hsound := h.sound
  have hreplayable := h.replayable
  refine ⟨fun flight hflight receipt hsent => ?_, fun id receipt hreceipt => ?_,
    fun call requestJson resultedAt locked receipt hlease hreceipt => ?_, fun s' hstep id receipt => ?_⟩
  · have hf := hsound.flights flight hflight
    refine ⟨fun result hdone => ?_, hf.trail.quiet_of_seen fun pair hpair => hf.seen pair hpair _ hsent⟩
    have hphase := hf.phase
    rw [hdone] at hphase
    exact hphase result receipt rfl hsent
  · exact hreplayable.authentic laws hreceipt
  · exact transition_replays hreplayable laws hlease hreceipt
  · exact (hstep.change hsound).1.receipt?

/-! ## 5. A request that is sent again -/

theorem stray_laws : ReplayLaws strayEnv where
  reads request text htext _ _ := by
    unfold canonicalJson at htext
    rw [bind_eq_ok'] at htext
    obtain ⟨bytes, hbytes, htext⟩ := htext
    rw [expect_ok] at htext
    by_cases e : request.toJson = strayRequest.toJson
    · -- the only value that has canonical bytes, and these are the bytes of the text
      have h := stray_canonical
      rw [← e] at h
      unfold canonicalJson at h
      rw [hbytes] at h
      have h : expect (String.fromUTF8? ⟨bytes.toArray⟩)
          (TaskManagerError.invalidRecord "canonical JSON is not UTF-8") = .ok strayText := h
      rw [htext] at h
      have htext : text = strayText := Except.ok.inj h
      simp only [strayEnv, htext, if_pos, e]
    · have hnone : strayEnv.digest.canonical request.toJson = .error "not canonical" := by
        simp only [Env.digest, strayEnv, strayDigest, if_neg e]
      rw [hnone] at hbytes
      cases hbytes
  epoch := by decide +kernel

/-- The second send of the request is answered from the receipt of the first. -/
theorem stray_replayed : ∃ receipt result, strayRejected.receipt? "x" = some receipt ∧
    authenticatedTransitionResult strayEnv strayRejected "x" = .ok result ∧
    receipt.result = some result.toJson ∧
    transition strayEnv strayRejected ⟨strayLease, strayRequest, false, none⟩ strayText noon none =
      .ok (.answered result) := by
  have hreceipt : strayRejected.receipt? "x" = some (rejectionReceipt strayRequest strayText
      (rejected strayRequest "TASK_NOT_FOUND" none noon) noon) := by
    unfold strayRejected
    rw [Store.receipt?_setReceipt, if_pos rfl]
  obtain ⟨_, hauthentic, hmain, _⟩ := transitions_exactly_once stray_laws stray_reachable
  obtain ⟨result, hresult, hstored⟩ := hauthentic "x" _ hreceipt
  obtain ⟨again, hagain, hsame, _⟩ := hmain ⟨strayLease, strayRequest, false, none⟩ strayText noon none
    _ rfl hreceipt
  have hsame := hsame rfl
  have e : again = result := by
    have h : result.toJson = again.toJson := Option.some.inj (hstored.symm.trans hsame)
    have h := congrArg TransitionResult.ofJson h
    rw [TransitionResult.ofJson_toJson, TransitionResult.ofJson_toJson] at h
    exact (Option.some.inj h).symm
  exact ⟨_, result, hreceipt, hresult, hstored, by rw [hagain, e]⟩

/-- The same identity with a request of another schema version. -/
def foreignRequest : TransitionRequest := { strayRequest with schemaVersion := "9" }

/-- A different request under an identity that has a receipt may end in an error instead of the
    conflict: the contract is checked before the receipts are read. -/
theorem foreign_request_errors : ∃ s, Reachable strayEnv s ∧ ∃ flight ∈ s.flights,
    (flight.call strayEnv.digest).request = foreignRequest ∧
    flight.sent = s.store.receipt? "x" ∧ flight.sent.isSome ∧
    flight.sent.map Receipt.requestJson = some strayText ∧
    flight.phase = .done (.error
      (.invalidRecord "transition request does not satisfy the v0.1 contract")) := by
  have hreceipt : strayRejected.receipt? "x" = some (rejectionReceipt strayRequest strayText
      (rejected strayRequest "TASK_NOT_FOUND" none noon) noon) := by
    unfold strayRejected
    rw [Store.receipt?_setReceipt, if_pos rfl]
  have hstart : startPhase strayEnv ⟨strayLease, foreignRequest, false, none⟩ ⟨noon, none⟩ = _ :=
    startPhase_invalid ⟨noon, none⟩ (by decide +kernel)
  have hrun := runCall_cons []
    (sendFlight strayEnv.digest strayRejected strayLease (.transition foreignRequest)) rfl
    (show advance strayEnv ⟨strayLease, foreignRequest, false, none⟩ ⟨noon, none⟩ none strayRejected
      .start = _ from congrArg (Prod.mk strayRejected) hstart)
  have h := stray_reachable.runCall strayLease (.transition foreignRequest) [⟨noon, none⟩]
  rw [hrun] at h
  refine ⟨_, h, _, List.mem_append_right _ (List.mem_singleton.mpr rfl), rfl, rfl, ?_, ?_, rfl⟩
  · show (strayRejected.receipt? "x").isSome
    rw [hreceipt]
    rfl
  · show (strayRejected.receipt? "x").map Receipt.requestJson = some strayText
    rw [hreceipt]
    rfl

end Aios.Tasks
