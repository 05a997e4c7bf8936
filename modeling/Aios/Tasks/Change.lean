/-
  File:      Aios/Tasks/Change.lean
  Subject:   EVERY STEP, CLASSIFIED by what it does to the store.

  A step creates a Task, stores the rejection or the transition of one call, or leaves Tasks and
  receipts alone (`Change`). What a call in flight knows survives every change (`Flight.Sound`), so
  one induction over the run (`Reachable.sound`) gives every later invariant its cases.
-/
import Aios.Tasks.Flight

namespace Aios.Tasks

open Lib Json Provenance TaskState

variable {σ : Type} {env : Env σ}

/-! ## 1. Creation -/

/-- The Task is stored: its row and the event of its creation are new. -/
structure CreationStored (env : Env σ) (request : CreateTask) (constraints : Option Json)
    (nonce : Nonce) (createdAt : String) (before after : Store σ)
    (normalized constraintsJson : Option String) (row : EventRow) : Prop where
  valid : validateTaskCreationConstraints env.journal.rfc3339 constraints = .ok ()
  intentText : canonicalOption env request.normalizedIntent = .ok normalized
  constraintsText : canonicalOption env constraints = .ok constraintsJson
  absent : before.task? request.taskId = none
  event : Appended env.journal before.core.events request.taskId (taskCreatedEvent env.digest nonce.val
    request (normalized.map (taskFieldCommitment env.digest nonce.val "normalized_intent"))
    constraints createdAt) row
  events : after.core.events = before.core.events ++ [row]
  tasks : ∀ id, after.task? id = if request.taskId = id then
    some (createdRow env request constraintsJson nonce createdAt row.eventId) else before.task? id
  receipts : after.receipts = before.receipts
  programs : SamePrograms before.core after.core

variable {constraints : Option Json} {call : Call} {row : EventRow}

theorem createTask_ok {before after : Store σ} {lease : Lease} {request : CreateTask}
    {nonce : Nonce} {createdAt : String}
    (h : createTaskWithConstraints env before lease request constraints nonce createdAt = .ok after) :
    ∃ normalized constraintsJson row,
      CreationStored env request constraints nonce createdAt before after normalized constraintsJson
        row := by
  unfold createTaskWithConstraints at h
  simp only [bind_eq_ok', exists_unit, rejectIf_ok] at h
  obtain ⟨hvalid, _, _, normalized, hnormalized, constraintsJson, hconstraints, habsent, ⟨appended, row⟩,
    happend, h⟩ := h
  obtain ⟨happ, happended⟩ := appendEvent_ok happend
  have e : appended.setTask _ _ = after := Except.ok.inj h
  refine ⟨normalized, constraintsJson, row, hvalid, hnormalized, hconstraints, ?_, happ, ?_, fun id => ?_,
    ?_, ?_⟩
  · exact Option.isNone_iff_eq_none.mp (Option.isSome_eq_false_iff.mp habsent)
  · rw [← e, happended]
    rfl
  · rw [← e, Store.task?_setTask, happended]
    rfl
  · rw [← e, happended]
    rfl
  · rw [← e, happended]
    exact ⟨rfl, rfl, rfl⟩

/-! ## 2. Changes -/

/-- What one step may do to the store, given the calls in flight. -/
inductive Change (env : Env σ) (flights : List (Flight σ)) (before after : Store σ) : Prop where
  | created {request : CreateTask} {constraints : Option Json} {nonce : Nonce} {createdAt : String}
      {normalized constraintsJson : Option String} {row : EventRow} :
      CreationStored env request constraints nonce createdAt before after normalized constraintsJson
        row → Change env flights before after
  | kept : Steady env before after → Change env flights before after
  | rejected {flight : Flight σ} {requestJson resultedAt code : String}
      {observed : Option (TaskState × Nat)} : flight ∈ flights →
      Admitted env (flight.call env.digest) requestJson →
      (∀ place, observed = some place → place.2 ≤ maxSafeJsonInteger) →
      RejectionStored (flight.call env.digest) requestJson resultedAt code observed before after →
      Change env flights before after
  | applied {flight : Flight σ} {requestJson resultedAt : String} {task : TaskRow}
      {program : Option Json} {row : EventRow} : flight ∈ flights →
      Admitted env (flight.call env.digest) requestJson →
      TransitionStored env (flight.call env.digest) requestJson resultedAt before after task program
        row → Change env flights before after

theorem Quiet.steady {before after : Store σ} (h : Quiet call before after) : Steady env before after :=
  Latched.steady ⟨h.core, h.receipts, h.observations, h.latches⟩

theorem RejectionStored.task? {requestJson resultedAt code : String}
    {observed : Option (TaskState × Nat)} {before after : Store σ}
    (h : RejectionStored call requestJson resultedAt code observed before after) (id : String) :
    after.task? id = before.task? id := by
  unfold Store.task?
  rw [h.core]

theorem RejectionStored.receipt? {requestJson resultedAt code : String}
    {observed : Option (TaskState × Nat)} {before after : Store σ}
    (h : RejectionStored call requestJson resultedAt code observed before after) (id : String) :
    after.receipt? id = if call.request.transitionId = id then
      some (rejectionReceipt call.request requestJson
        (Tasks.rejected call.request code observed resultedAt) resultedAt) else before.receipt? id := by
  unfold Store.receipt?
  rw [h.receipts, Std.ExtTreeMap.getElem?_insert]
  simp

theorem TransitionStored.receipt? {requestJson resultedAt : String}
    {before after : Store σ} {task : TaskRow} {program : Option Json}
    (h : TransitionStored env call requestJson resultedAt before after task program row) (id : String) :
    after.receipt? id = if call.request.transitionId = id then
      some (committedReceipt call.request requestJson (task.revision + 1) (Tasks.applied call.request
        task.revision (task.revision + 1) task.state row.eventId row.eventHash resultedAt) resultedAt)
      else before.receipt? id := by
  unfold Store.receipt?
  rw [h.receipts, Std.ExtTreeMap.getElem?_insert]
  simp

/-- **A stored receipt stays**, word for word. -/
theorem Change.receipt? {flights : List (Flight σ)} {before after : Store σ}
    (h : Change env flights before after) {id : String} {receipt : Receipt}
    (hstored : before.receipt? id = some receipt) :
    after.receipt? id = some receipt := by
  have hother : ∀ {key : String}, before.receipt? key = none → key ≠ id := by
    intro key hnone e
    rw [e, hstored] at hnone
    cases hnone
  cases h with
  | created h =>
      unfold Store.receipt?
      rw [h.receipts]
      exact hstored
  | kept h =>
      unfold Store.receipt?
      rw [h.receipts]
      exact hstored
  | rejected _ _ _ h => rw [h.receipt?, if_neg (hother h.fresh), hstored]
  | applied _ _ h => rw [h.receipt?, if_neg (hother h.fresh), hstored]

theorem constraintValid_floatFree {rfc3339 : String → Option Int} {key : String} {v : Json}
    (h : constraintValid rfc3339 (key, v) = true) : floatFree v = true := by
  unfold constraintValid at h
  split at h
  case h_3 e =>
    -- a number that is read as an unsigned integer
    obtain ⟨rfl, rfl⟩ := Prod.mk.inj e
    cases v with
    | num n => cases n <;> first | rfl | cases h
    | _ => first | rfl | cases h
  case h_7 => cases h
  all_goals
    rename_i e
    obtain ⟨rfl, rfl⟩ := Prod.mk.inj e
    rfl

/-- Constraints that pass their check hold no binary64. -/
theorem constraints_floatFree {rfc3339 : String → Option Int}
    (h : validateTaskCreationConstraints rfc3339 constraints = .ok ()) :
    floatFree (constraints.getD .null) = true := by
  cases constraints with
  | none => rfl
  | some value =>
      simp only [validateTaskCreationConstraints, bind_eq_ok', expect_ok, rejectIf_ok,
        Bool.not_eq_false'] at h
      obtain ⟨fields, hfields, hvalid⟩ := h
      cases value with
      | obj l =>
          have e : l = fields := Option.some.inj hfields
          rw [← e] at hvalid
          show membersFloatFree l = true
          rw [membersFloatFree_iff]
          exact fun p hp => constraintValid_floatFree (List.all_eq_true.mp hvalid p hp)
      | _ => cases hfields

theorem CreationStored.reread {request : CreateTask} {nonce : Nonce}
    {createdAt : String} {before after : Store σ} {normalized constraintsJson : Option String}
    (h : CreationStored env request constraints nonce createdAt before after normalized
      constraintsJson row) :
    env.journal.reread (taskCreatedEvent env.digest nonce.val request (normalized.map
      (taskFieldCommitment env.digest nonce.val "normalized_intent")) constraints createdAt) =
      taskCreatedEvent env.digest nonce.val request (normalized.map
      (taskFieldCommitment env.digest nonce.val "normalized_intent")) constraints createdAt :=
  env.journal.reread_exact _ (floatFree_taskCreatedEvent (constraints_floatFree h.valid))

theorem CreationStored.grown {request : CreateTask} {nonce : Nonce}
    {createdAt : String} {before after : Store σ} {normalized constraintsJson : Option String}
    (h : CreationStored env request constraints nonce createdAt before after normalized
      constraintsJson row) : Grown env.journal before.core.events after.core.events := by
  rw [h.events]
  exact .append (.refl _) h.event h.reread

theorem TransitionStored.grown {requestJson resultedAt : String} {before after : Store σ}
    {task : TaskRow} {program : Option Json}
    (h : TransitionStored env call requestJson resultedAt before after task program row) :
    Grown env.journal before.core.events after.core.events := by
  obtain ⟨rows, hgrown, _, happ, e⟩ := h.event
  rw [e]
  exact .append hgrown happ (env.journal.reread_exact _
    (floatFree_transitionEvent (floatFree_activeProgram h.program)))

/-- The journal grows. -/
theorem Change.grown {flights : List (Flight σ)} {before after : Store σ}
    (h : Change env flights before after) :
    Grown env.journal before.core.events after.core.events := by
  cases h with
  | created h => exact h.grown
  | kept h => exact h.events
  | rejected _ _ _ h =>
      rw [h.core]
      exact .refl _
  | applied _ _ h => exact h.grown

/-! ## 3. Calls in flight -/

/-- All phases of a call were quiet, or all but its last one, which ended it. -/
inductive Trail (env : Env σ) (call : Call) : Phase → List (Store σ × Store σ) → Prop where
  | quiet {phase : Phase} {trail : List (Store σ × Store σ)} :
      (∀ pair ∈ trail, Quiet call pair.1 pair.2) → Trail env call phase trail
  | ended {outcome : TaskResult TransitionResult} {earlier : List (Store σ × Store σ)}
      {before after : Store σ} : (∀ pair ∈ earlier, Quiet call pair.1 pair.2) →
      Effect env call before after (.done outcome) →
      Trail env call (.done outcome) (earlier ++ [(before, after)])

/-- A trail that goes on was quiet. -/
theorem Trail.unfinished {phase : Phase} {trail : List (Store σ × Store σ)}
    (h : Trail env call phase trail) (hphase : phase.finished = false) :
    ∀ pair ∈ trail, Quiet call pair.1 pair.2 := by
  cases h with
  | quiet hquiet => exact hquiet
  | ended _ _ => cases hphase

/-- One more phase. -/
theorem Trail.snoc {phase : Phase} {trail : List (Store σ × Store σ)}
    {before after : Store σ} (h : ∀ pair ∈ trail, Quiet call pair.1 pair.2)
    (heffect : Effect env call before after phase) :
    Trail env call phase (trail ++ [(before, after)]) := by
  cases heffect with
  | quiet hquiet =>
      refine .quiet fun pair hpair => ?_
      rcases List.mem_append.mp hpair with hold | hnew
      · exact h pair hold
      · rw [List.mem_singleton.mp hnew]
        exact hquiet
  | rejected hadmitted hsafe hstored => exact .ended h (.rejected hadmitted hsafe hstored)
  | applied hadmitted hstored => exact .ended h (.applied hadmitted hstored)

/-- What is known of a call in flight. -/
structure Flight.Sound (env : Env σ) (store : Store σ) (flight : Flight σ) : Prop where
  phase : flight.phase.Sound env (flight.call env.digest) flight.sent
  sent : ∀ receipt, flight.sent = some receipt →
    store.receipt? (flight.call env.digest).request.transitionId = some receipt
  trail : Trail env (flight.call env.digest) flight.phase flight.trail
  seen : ∀ pair ∈ flight.trail, ∀ receipt, flight.sent = some receipt →
    pair.1.receipt? (flight.call env.digest).request.transitionId = some receipt

theorem Flight.Sound.change {flights : List (Flight σ)} {before after : Store σ}
    {flight : Flight σ} (h : flight.Sound env before) (hchange : Change env flights before after) :
    flight.Sound env after :=
  ⟨h.phase, fun receipt hsent => hchange.receipt? (h.sent receipt hsent), h.trail, h.seen⟩

theorem flightSound_send (store : Store σ) (lease : Lease) (entry : Entry) :
    (sendFlight env.digest store lease entry).Sound env store :=
  ⟨trivial, fun _ h => h, .quiet (fun _ hpair => by cases hpair), fun _ hpair => by cases hpair⟩

/-- What a phase does to the store is a change. -/
theorem Effect.change {flights : List (Flight σ)} {flight : Flight σ} {before after : Store σ}
    {phase : Phase} (hmem : flight ∈ flights)
    (h : Effect env (flight.call env.digest) before after phase) : Change env flights before after := by
  cases h with
  | quiet hquiet => exact .kept hquiet.steady
  | rejected hadmitted hsafe hstored => exact .rejected hmem hadmitted hsafe hstored
  | applied hadmitted hstored => exact .applied hmem hadmitted hstored

/-- Every Task is at a revision every reader keeps. -/
def Bounded (store : Store σ) : Prop :=
  ∀ taskId row, store.task? taskId = some row → row.revision ≤ maxSafeJsonInteger

theorem flightSound_advance {store : Store σ} {flight : Flight σ} (hbounded : Bounded store)
    (hsound : flight.Sound env store) (hphase : flight.phase.finished = false) (reading : Reading)
    (fault : Option Fault) :
    Effect env (flight.call env.digest) store (advanceFlight env reading fault store flight).1
        (advanceFlight env reading fault store flight).2.phase ∧
      (advanceFlight env reading fault store flight).2.Sound env
        (advanceFlight env reading fault store flight).1 := by
  obtain ⟨heffect, hnext⟩ : Effect env (flight.call env.digest) store
        (advance env (flight.call env.digest) reading fault store flight.phase).1
        (advance env (flight.call env.digest) reading fault store flight.phase).2 ∧
      (advance env (flight.call env.digest) reading fault store flight.phase).2.Sound env
        (flight.call env.digest) flight.sent :=
    advance_effect hsound.sent (fun task htask => hbounded _ task htask) hsound.phase
  refine ⟨heffect, hnext, fun receipt hsent => ?_, ?_, fun pair hpair receipt hsent => ?_⟩
  · exact (heffect.change List.mem_cons_self : Change env [flight] _ _).receipt?
      (hsound.sent receipt hsent)
  · exact .snoc (hsound.trail.unfinished hphase) heffect
  · rcases List.mem_append.mp hpair with hold | hnew
    · exact hsound.seen pair hold receipt hsent
    · rw [List.mem_singleton.mp hnew]
      exact hsound.sent receipt hsent

/-! ## 4. Steps -/

/-- What holds of the system before any claim about Tasks is made. -/
structure System.Sound (env : Env σ) (s : System σ) : Prop where
  bounded : Bounded s.store
  flights : ∀ flight ∈ s.flights, flight.Sound env s.store

/-- **Every step, classified**; the calls in flight stay sound. -/
theorem Step.change {s s' : System σ} (hs : s.Sound env) (h : Step env s s') :
    Change env s.flights s.store s'.store ∧ ∀ flight ∈ s'.flights, flight.Sound env s'.store := by
  cases h with
  | create lease request constraints nonce createdAt h =>
      obtain ⟨_, _, _, hstored⟩ := createTask_ok h
      have hchange : Change env s.flights s.store _ := .created hstored
      exact ⟨hchange, fun flight hf => (hs.flights flight hf).change hchange⟩
  | send lease entry =>
      refine ⟨.kept (.refl _), fun flight hf => ?_⟩
      rcases List.mem_append.mp hf with hold | hnew
      · exact hs.flights flight hold
      · rw [List.mem_singleton.mp hnew]
        exact flightSound_send _ _ _
  | @advance left right flight reading fault hsplit hphase =>
      have hmem : ∀ other, other ∈ left ∨ other ∈ right → other ∈ s.flights := by
        intro other hother
        rw [hsplit]
        rcases hother with hl | hr
        · exact List.mem_append_left _ hl
        · exact List.mem_append_right _ (List.mem_cons_of_mem _ hr)
      have hown : flight ∈ s.flights := by
        rw [hsplit]
        exact List.mem_append_right _ List.mem_cons_self
      obtain ⟨heffect, hnext⟩ :=
        flightSound_advance hs.bounded (hs.flights flight hown) hphase reading fault
      have hchange := heffect.change hown
      refine ⟨hchange, fun other hother => ?_⟩
      rcases List.mem_append.mp hother with hl | hr
      · exact (hs.flights other (hmem other (.inl hl))).change hchange
      · rcases List.mem_cons.mp hr with e | hr
        · rw [e]
          exact hnext
        · exact (hs.flights other (hmem other (.inr hr))).change hchange
  | crash hsub => exact ⟨.kept (.refl _), fun flight hf => hs.flights flight (hsub.subset hf)⟩
  | other hsteady =>
      have hchange : Change env s.flights s.store _ := .kept hsteady
      exact ⟨hchange, fun flight hf => (hs.flights flight hf).change hchange⟩

/-- A change keeps every revision readable. -/
theorem Change.bounded {flights : List (Flight σ)} {before after : Store σ}
    (h : Change env flights before after) (hb : Bounded before) : Bounded after := by
  intro taskId row hrow
  cases h with
  | created h =>
      rw [h.tasks] at hrow
      split at hrow
      · rw [← Option.some.inj hrow]
        show 1 ≤ maxSafeJsonInteger
        decide
      · exact hb taskId row hrow
  | kept h =>
      rw [h.task?] at hrow
      exact hb taskId row hrow
  | rejected _ _ _ h =>
      rw [h.task?] at hrow
      exact hb taskId row hrow
  | applied _ _ h =>
      rw [h.tasks] at hrow
      split at hrow
      · obtain ⟨_, _, _, happ, _⟩ := h.event
        have hshape := (validateEvent_ok _ happ.valid).2.1
        rw [← Option.some.inj hrow]
        exact (transitionEvent_safe hshape).1
      · exact hb taskId row hrow

/-- **What every reachable system keeps.** -/
theorem Reachable.sound {s : System σ} (h : Reachable env s) : s.Sound env := by
  induction h with
  | start hfresh =>
      refine ⟨fun taskId row hrow => ?_, fun flight hf => by cases hf⟩
      have := hfresh.tasks taskId
      rw [this] at hrow
      cases hrow
  | step _ hstep ih =>
      obtain ⟨hchange, hflights⟩ := hstep.change ih
      exact ⟨hchange.bounded ih.bounded, hflights⟩

/-- The invariant rule: what a fresh store has and every change keeps. -/
theorem Reachable.induct {P : Store σ → Prop} (hfresh : ∀ store, Fresh store → P store)
    (hchange : ∀ flights before after, P before → Change env flights before after → P after)
    {s : System σ} (h : Reachable env s) : P s.store := by
  induction h with
  | start h => exact hfresh _ h
  | step hreach hstep ih => exact hchange _ _ _ ih (hstep.change hreach.sound).1

end Aios.Tasks
