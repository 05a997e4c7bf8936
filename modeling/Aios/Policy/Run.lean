/-
  File:      Aios/Policy/Run.lean
  Subject:   RUNS OF THE LEDGER: every operation that touches it, in any order and any number, each of
             which leaves the store as it was where it fails or the process dies.

  * `PolicyOp` -- the operations of the ledger, and what the rest of the Task Manager does to its tables
    in between: other tables change freely, a grant is used or revoked, a step and an allocation move,
    and rows that the triggers let in arrive;
  * `Evolves` -- what no operation takes back: rows are only added, and of a row that is there only the
    columns that record its use change.
-/
import Aios.Policy.Reserved
import Aios.Policy.Written

namespace Aios.Policy

open Lib Provenance

/-! ## 1. Operations -/

/-- What one call finds around the ledger. -/
structure CallContext where
  outside : Outside
  backend : LocalPolicyBackend
  lease : Tasks.Lease
  /-- The time the call starts at. -/
  started : String

inductive PolicyOp where
  /-- The tables of other parts, the lease and the clock change. -/
  | elsewhere (world : World) (lease : Option Tasks.Lease) (clock : Tasks.Clock)
  /-- Grants are used, consumed or revoked. -/
  | useGrants (use : GrantRow → Tasks.GrantState × Nat)
  | moveSteps (move : StepRow → Nat × Tasks.StepState)
  | moveAllocations (move : AllocationRow → Tasks.AllocationState)
  | createStep (row : StepRow)
  | allocate (row : AllocationRow)
  | append (row : EventRow)
  | reserve (outside : ReserveOutside) (lease : Tasks.Lease) (request : ReserveAuthorityCandidate)
      (selected checkedAt : String)
  | activate (lease : Tasks.Lease) (raw now : String)
  | evaluate (call : CallContext) (candidateId now : String)
  | decide (call : CallContext) (approval principalId : String) (approve : Bool) (now : String)
  | revoke (lease : Tasks.Lease) (approval principalId now : String)
  | claim (call : CallContext) (candidateId approval now : String)
  | finalize (call : CallContext) (candidateId : String) (time : Tasks.ProtectedTimeContext)
  /-- The process dies before it commits. -/
  | crash

/-! ## 2. What the triggers let in -/

/-- The step has an identity of the reservation. -/
def stepCollides (c : ReservationRow) (row : StepRow) : Bool :=
  c.attemptId = row.attemptId || row.bindingId = some c.bindingId ||
    sameAttempt row.taskId row.semanticProgramHash row.nodeId row.attemptNumber c

/-- The trigger on `step_executions`: a reserved attempt is for the step of its own binding only. -/
def stepGuard (store : PolicyStore) (row : StepRow) : Bool :=
  store.reservations.all fun c => !stepCollides c row ||
    (store.loadView.state? c.candidateId = some .pending && stepOf c row &&
      (!store.steps.any fun s => s.attemptId = row.attemptId ||
        (s.taskId = row.taskId && s.semanticProgramHash = row.semanticProgramHash &&
          s.nodeId = row.nodeId && s.attemptNumber = row.attemptNumber)) &&
      store.bindings.any fun b => b.bindingId = c.bindingId && b.attemptId = c.attemptId &&
        b.taskId = c.taskId && b.semanticProgramHash = c.semanticProgramHash && b.nodeId = c.nodeId &&
        b.attempt = c.attemptNumber)

/-- The allocation is the one of the reserved output. -/
def allocationExact (c : ReservationRow) (r : ResourceRow) (row : AllocationRow) : Bool :=
  row.state = .allocated && c.taskId = row.taskId && c.semanticProgramHash = row.semanticProgramHash &&
    c.nodeId = row.nodeId && row.bindingId = some c.bindingId && row.attemptId = some c.attemptId &&
    row.outputPort = r.outputPort && row.expectedSemanticType = some r.expectedSemanticType

/-- The trigger on `artifact_output_allocations`: a reserved output is for the allocation of its own
    binding only. -/
def allocationGuard (store : PolicyStore) (row : AllocationRow) : Bool :=
  store.resources.all fun r => !(r.resourceKind = "output-allocation" && r.resourceId = row.allocationId) ||
    (store.loadView.reservation? r.candidateId).all fun c =>
      store.loadView.state? c.candidateId = some .pending && allocationExact c r row &&
        store.bindings.any fun b => b.bindingId = c.bindingId && b.attemptId = c.attemptId

def GrantRow.used (use : GrantRow → Tasks.GrantState × Nat) (g : GrantRow) : GrantRow :=
  { g with state := (use g).1, usesConsumed := (use g).2 }

def StepRow.moved (move : StepRow → Nat × Tasks.StepState) (s : StepRow) : StepRow :=
  { s with revision := (move s).1, state := (move s).2 }

def AllocationRow.moved (move : AllocationRow → Tasks.AllocationState) (a : AllocationRow) :
    AllocationRow :=
  { a with state := move a }

/-! ## 3. Runs -/

def perform (env : PolicyEnv) (store : PolicyStore) : PolicyOp → PolicyResult PolicyStore
  | .elsewhere world lease clock => .ok { store with world := world, lease := lease, clock := clock }
  | .useGrants use => .ok { store with grants := store.grants.map (GrantRow.used use) }
  | .moveSteps move => .ok { store with steps := store.steps.map (StepRow.moved move) }
  | .moveAllocations move => .ok { store with
      allocations := store.allocations.map (AllocationRow.moved move) }
  | .createStep row => do
      rejectIf (!stepGuard store row)
        (.storage "step execution collides with reserved authority candidate")
      createStepExecutionIn store row
  | .allocate row => do
      rejectIf (!allocationGuard store row || store.allocations.any fun a => a.allocationId = row.allocationId)
        (.storage "output allocation collides with reserved authority candidate")
      return { store with allocations := store.allocations ++ [row] }
  | .append row => do
      rejectIf (store.events.any fun e => e.eventId = row.eventId)
        (.storage "UNIQUE constraint failed: provenance_events")
      return { store with events := store.events ++ [row] }
  | .reserve outside lease request selected checkedAt =>
      (reserveAuthorityCandidate env outside store request lease selected checkedAt).map Prod.fst
  | .activate lease raw now => (activateLocalAuthorityPolicy env lease store raw now).map Prod.fst
  | .evaluate call candidateId now => (evaluatePendingAuthorityCandidate env call.outside call.backend
      call.lease store candidateId call.started now).map Prod.fst
  | .decide call approval principalId approve now => decideCandidateApproval env call.outside call.backend
      call.lease store approval principalId approve call.started now
  | .revoke lease approval principalId now => revokeCandidateApproval env lease store approval principalId now
  | .claim call candidateId approval now => (applyCandidateApprovalClaim env call.outside call.backend
      call.lease store candidateId approval call.started now).map Prod.fst
  | .finalize call candidateId time => (finalizePendingAuthorityCandidate env call.outside call.backend time
      call.lease store candidateId call.started).map Prod.fst
  | .crash => .ok store

/-- A failed operation is rolled back. -/
def PolicyStore.after (env : PolicyEnv) (store : PolicyStore) (op : PolicyOp) : PolicyStore :=
  match perform env store op with
  | .ok store' => store'
  | .error _ => store

def run (env : PolicyEnv) (store : PolicyStore) (ops : List PolicyOp) : PolicyStore :=
  ops.foldl (PolicyStore.after env) store

/-- A ledger nothing has been written to. -/
def PolicyStore.initial (world : World) : PolicyStore where
  lease := none
  clock := ⟨none, [], [], []⟩
  world := world
  reservations := []
  resources := []
  exportPins := []
  statuses := []
  payloads := []
  activations := []
  policySnapshots := []
  requests := []
  decisions := []
  fingerprints := []
  approvals := []
  approvalBindings := []
  approvalDecisions := []
  grants := []
  issuances := []
  deadlines := []
  bindings := []
  steps := []
  allocations := []
  events := []

section Induction

variable {env : PolicyEnv}

/-- An invariant of every operation is one of every run. -/
theorem run_invariant {P : PolicyStore → Prop} (hstep : ∀ {store store'} (op : PolicyOp),
    perform env store op = .ok store' → P store → P store') {store : PolicyStore} (ops : List PolicyOp)
    (h : P store) : P (run env store ops) := by
  induction ops generalizing store with
  | nil => exact h
  | cons op rest ih =>
      refine ih ?_
      unfold PolicyStore.after
      split
      · next hop => exact hstep op hop h
      · exact h

theorem run_append (store : PolicyStore) (before after : List PolicyOp) :
    run env store (before ++ after) = run env (run env store before) after := List.foldl_append

end Induction

/-! ## 4. What no operation takes back -/

def GrantRow.asIssued (g : GrantRow) : GrantRow := { g with state := .active, usesConsumed := 0 }

def StepRow.asCreated (s : StepRow) : StepRow := { s with revision := 1, state := .ready }

def AllocationRow.asAllocated (a : AllocationRow) : AllocationRow := { a with state := .allocated }

structure Evolves (a b : PolicyStore) : Prop where
  reservations : a.reservations <+: b.reservations
  resources : ∀ id, (a.loadView.reservation? id).isSome →
    (b.resources.filter fun r => r.candidateId = id) = a.resources.filter fun r => r.candidateId = id
  exportPins : ∀ id, (a.loadView.reservation? id).isSome → b.exportPins.lookup id = a.exportPins.lookup id
  statuses : ∀ id s, (a.statuses.find? fun s => s.candidateId = id) = some s → s.state ≠ .pending →
    (b.statuses.find? fun s => s.candidateId = id) = some s
  requests : a.requests <+: b.requests
  decisions : a.decisions <+: b.decisions
  fingerprints : a.fingerprints <+: b.fingerprints
  grants : a.grants.map GrantRow.asIssued <+: b.grants.map GrantRow.asIssued
  issuances : a.issuances <+: b.issuances
  deadlines : a.deadlines <+: b.deadlines
  bindings : a.bindings <+: b.bindings
  steps : a.steps.map StepRow.asCreated <+: b.steps.map StepRow.asCreated
  allocations : a.allocations.map AllocationRow.asAllocated <+: b.allocations.map AllocationRow.asAllocated
  events : a.events <+: b.events

namespace Evolves

theorem refl (a : PolicyStore) : Evolves a a where
  reservations := List.prefix_refl _
  resources := fun _ _ => rfl
  exportPins := fun _ _ => rfl
  statuses := fun _ _ h _ => h
  requests := List.prefix_refl _
  decisions := List.prefix_refl _
  fingerprints := List.prefix_refl _
  grants := List.prefix_refl _
  issuances := List.prefix_refl _
  deadlines := List.prefix_refl _
  bindings := List.prefix_refl _
  steps := List.prefix_refl _
  allocations := List.prefix_refl _
  events := List.prefix_refl _

/-- A reservation that is there is found again. -/
theorem reservation {a b : PolicyStore} (h : Evolves a b) {id : String} {c : ReservationRow}
    (hc : a.loadView.reservation? id = some c) : b.loadView.reservation? id = some c := by
  obtain ⟨l, hl⟩ := h.reservations
  show (b.reservations.find? _) = some c
  rw [← hl, List.find?_append, show a.reservations.find? _ = some c from hc]
  rfl

theorem trans {a b c : PolicyStore} (hab : Evolves a b) (hbc : Evolves b c) : Evolves a c where
  reservations := hab.reservations.trans hbc.reservations
  resources := fun id hid => by
    obtain ⟨r, hr⟩ := Option.isSome_iff_exists.mp hid
    rw [hbc.resources id (by rw [hab.reservation hr]; rfl), hab.resources id hid]
  exportPins := fun id hid => by
    obtain ⟨r, hr⟩ := Option.isSome_iff_exists.mp hid
    rw [hbc.exportPins id (by rw [hab.reservation hr]; rfl), hab.exportPins id hid]
  statuses := fun id s hs hne => hbc.statuses id s (hab.statuses id s hs hne) hne
  requests := hab.requests.trans hbc.requests
  decisions := hab.decisions.trans hbc.decisions
  fingerprints := hab.fingerprints.trans hbc.fingerprints
  grants := hab.grants.trans hbc.grants
  issuances := hab.issuances.trans hbc.issuances
  deadlines := hab.deadlines.trans hbc.deadlines
  bindings := hab.bindings.trans hbc.bindings
  steps := hab.steps.trans hbc.steps
  allocations := hab.allocations.trans hbc.allocations
  events := hab.events.trans hbc.events

end Evolves

/-! ## 5. Every operation -/

section Steps

variable {env : PolicyEnv} {store store' : PolicyStore}

theorem EvaluationWrites.evolves (h : EvaluationWrites store store') : Evolves store store' := by
  rw [h.same]
  exact { Evolves.refl store with
    requests := h.requests, decisions := h.decisions, fingerprints := h.fingerprints }

theorem Inserted.evolves {c : ReservationRow} {acc : Resolved} (h : Inserted store store' c acc) :
    Evolves store store' := by
  have hne : ∀ id, (store.loadView.reservation? id).isSome → c.candidateId ≠ id := by
    intro id hid e
    obtain ⟨r, hr⟩ := Option.isSome_iff_exists.mp hid
    exact h.fresh r (List.mem_of_find?_eq_some hr) ((candidateId_of_found hr).trans e.symm)
  have hrows := h.resources
  simp only [resourcesInsertable, Bool.and_eq_true, List.all_eq_true, decide_eq_true_eq] at hrows
  obtain rfl := h.stored
  refine { Evolves.refl store with
    reservations := List.prefix_append _ _, resources := ?_, exportPins := ?_, statuses := ?_ }
  · intro id hid
    show (store.resources ++ acc.rows).filter _ = _
    rw [List.filter_append]
    have hnone : (acc.rows.filter fun r => r.candidateId = id) = [] := by
      rw [List.filter_eq_nil_iff]
      intro r hr
      rw [hrows.1.1.1.1.1 r hr]
      simpa using hne id hid
    rw [hnone, List.append_nil]
  · intro id hid
    show (store.exportPins ++ _).lookup id = _
    cases acc.exportPin with
    | none => rw [show (Option.map _ (none : Option ExportPin)).toList = [] from rfl, List.append_nil]
    | some pin =>
        have hother : (id == c.candidateId) = false := by simpa using (hne id hid).symm
        have hpin : [(c.candidateId, pin)].lookup id = none := by rw [List.lookup_cons, hother, List.lookup_nil]
        rw [List.lookup_append]
        show (store.exportPins.lookup id).or ([(c.candidateId, pin)].lookup id) = _
        rw [hpin, Option.or_none]
  · intro id s hs _
    show (store.statuses ++ _).find? _ = some s
    rw [List.find?_append, hs]
    rfl

theorem reserve_evolves {outside : ReserveOutside} {q : ReserveAuthorityCandidate} {lease : Tasks.Lease}
    {selected checkedAt : String} {result : PendingAuthorityCandidate}
    (h : reserveAuthorityCandidate env outside store q lease selected checkedAt = .ok (store', result)) :
    Evolves store store' := by
  rcases reserveAuthorityCandidate_ok h with ⟨-, rfl⟩ | ⟨-, w, -, hins, -⟩
  · exact .refl _
  · exact (insertReservation_ok hins).evolves

/-- An activation writes the tables of the policy only. -/
theorem activateLocalAuthorityPolicy_ok {lease : Tasks.Lease} {raw now : String} {revision : Nat}
    (h : activateLocalAuthorityPolicy env lease store raw now = .ok (store', revision)) :
    store' = { store with
      payloads := store'.payloads, activations := store'.activations
      policySnapshots := store'.policySnapshots } := by
  simp only [activateLocalAuthorityPolicy, bind_eq_ok', exists_unit] at h
  obtain ⟨policy, -, canonical, -, -, -, -, s1, h1, s2, h2, h⟩ := h
  obtain ⟨rfl, -⟩ := Prod.mk.inj (Except.ok.inj h)
  have hp : s1 = { store with payloads := s1.payloads } := by
    unfold recordPayload at h1
    split at h1
    · simp only [bind_eq_ok', exists_unit, rejectIf_ok] at h1
      obtain rfl := Except.ok.inj h1.2
      rfl
    · obtain rfl := Except.ok.inj h1
      rfl
  simp only [recordSnapshot, bind_eq_ok'] at h2
  obtain ⟨text, -, h2⟩ := h2
  split at h2
  · simp only [bind_eq_ok', exists_unit, rejectIf_ok] at h2
    obtain rfl := Except.ok.inj h2.2
    rw [hp]
  · obtain rfl := Except.ok.inj h2
    rw [hp]

/-- A pending status apart, marking a candidate leaves every status where it is. -/
theorem find?_marked (candidateId : String) {id : String} {s : StatusRow}
    (hs : (store.statuses.find? fun s => s.candidateId = id) = some s) :
    ((store.marked candidateId).statuses.find? fun s => s.candidateId = id) =
      some (if s.isPending candidateId then s.finalized else s) := by
  show (List.map _ _).find? _ = _
  rw [List.find?_map]
  have hsame : ((fun s : StatusRow => decide (s.candidateId = id)) ∘
      fun s : StatusRow => if s.isPending candidateId then s.finalized else s) =
      fun s => decide (s.candidateId = id) := by
    funext x
    show decide (StatusRow.candidateId (if _ then _ else _) = id) = _
    split
    · rfl
    · rfl
  rw [hsame, hs]
  rfl

theorem FinalWrites.Checked.evolves {w : FinalWrites} {backend : LocalPolicyBackend}
    {candidateId createdAt : String} (h : w.Checked env backend store candidateId createdAt) :
    Evolves store (w.store candidateId createdAt) := by
  refine h.evaluated.writes.evolves.trans ?_
  refine { Evolves.refl w.evaluated with
    statuses := ?_, grants := ?_, issuances := List.prefix_append _ _, deadlines := List.prefix_append _ _
    bindings := List.prefix_append _ _, steps := ?_, allocations := ?_, events := List.prefix_append _ _ }
  · intro id s hs hne
    refine (find?_marked candidateId hs).trans ?_
    have hnot : s.isPending candidateId = false := by simp [StatusRow.isPending, hne]
    rw [hnot]
    rfl
  · show _ <+: List.map _ (_ ++ _)
    rw [List.map_append]
    exact List.prefix_append _ _
  · show _ <+: List.map _ (_ ++ _)
    rw [List.map_append]
    exact List.prefix_append _ _
  · show _ <+: List.map _ (_ ++ _)
    rw [List.map_append]
    exact List.prefix_append _ _

end Steps

/-! ## 6. What one operation can do -/

section Cases

variable {env : PolicyEnv} {store store' : PolicyStore}

/-- Nothing of any candidate is written: its tables are as they were, up to the use of their rows, and
    a step or an allocation that is new has passed its trigger. -/
structure Quiet (a b : PolicyStore) : Prop where
  reservations : b.reservations = a.reservations
  resources : b.resources = a.resources
  exportPins : b.exportPins = a.exportPins
  statuses : b.statuses = a.statuses
  grants : b.grants.map GrantRow.asIssued = a.grants.map GrantRow.asIssued
  issuances : b.issuances = a.issuances
  deadlines : b.deadlines = a.deadlines
  bindings : b.bindings = a.bindings
  steps : ∀ s ∈ b.steps, (∃ x ∈ a.steps, x.asCreated = s.asCreated) ∨ stepGuard a s = true
  allocations : ∀ x ∈ b.allocations,
    (∃ y ∈ a.allocations, y.asAllocated = x.asAllocated) ∨ allocationGuard a x = true

theorem Quiet.refl (a : PolicyStore) : Quiet a a where
  reservations := rfl
  resources := rfl
  exportPins := rfl
  statuses := rfl
  grants := rfl
  issuances := rfl
  deadlines := rfl
  bindings := rfl
  steps := fun s hs => .inl ⟨s, hs, rfl⟩
  allocations := fun x hx => .inl ⟨x, hx, rfl⟩

theorem EvaluationWrites.quiet (h : EvaluationWrites store store') : Quiet store store' := by
  rw [h.same]
  exact { Quiet.refl store with }

theorem finalize_cases {outside : Outside} {backend : LocalPolicyBackend} {time : Tasks.ProtectedTimeContext}
    {lease : Tasks.Lease} {candidateId started : String} {result : FinalizedAuthorityCandidate}
    (h : finalizePendingAuthorityCandidate env outside backend time lease store candidateId started =
      .ok (store', result)) :
    (replayFinalizedCandidate env store candidateId = .ok (some result) ∧ store' = store) ∨
      ∃ w : FinalWrites, w.Checked env backend store candidateId time.now ∧
        store' = w.store candidateId time.now ∧ result = w.result candidateId := by
  simp only [finalizePendingAuthorityCandidate, bind_eq_ok'] at h
  obtain ⟨replayed, hreplay, h⟩ := h
  cases replayed with
  | some r =>
      obtain ⟨rfl, rfl⟩ := Prod.mk.inj (Except.ok.inj h)
      exact .inl ⟨hreplay, rfl⟩
  | none =>
      simp only [bind_eq_ok', exists_unit, rejectIf_ok] at h
      obtain ⟨_, -, _, -, -, h⟩ := h
      exact .inr (finalizeCandidateIn_ok h)

/-- **One operation**: it writes nothing of any candidate, or reserves one, or finalises one. -/
inductive Performed (env : PolicyEnv) (a b : PolicyStore) : PolicyOp → Prop
  | quiet {op : PolicyOp} (h : Quiet a b) : Performed env a b op
  | reserved {outside : ReserveOutside} {lease : Tasks.Lease} {q : ReserveAuthorityCandidate}
      {selected checkedAt : String} {result : PendingAuthorityCandidate}
      (h : reserveAuthorityCandidate env outside a q lease selected checkedAt = .ok (b, result)) :
      Performed env a b (.reserve outside lease q selected checkedAt)
  | finalised {call : CallContext} {candidateId : String} {time : Tasks.ProtectedTimeContext}
      (w : FinalWrites) (h : w.Checked env call.backend a candidateId time.now)
      (hb : b = w.store candidateId time.now) : Performed env a b (.finalize call candidateId time)

theorem recordUserDecision_quiet {a : ApprovalRow} {taskId principalId now : String} {approve : Bool}
    (h : recordUserDecision env store a taskId principalId approve now = .ok store') :
    Evolves store store' ∧ Quiet store store' := by
  simp only [recordUserDecision, bind_eq_ok', exists_unit, rejectIf_ok] at h
  obtain ⟨text, -, -, h⟩ := h
  obtain rfl := Except.ok.inj h
  exact ⟨{ Evolves.refl store with }, { Quiet.refl store with }⟩

theorem revokeCandidateApproval_quiet {lease : Tasks.Lease} {approval principalId now : String}
    (h : revokeCandidateApproval env lease store approval principalId now = .ok store') :
    Evolves store store' ∧ Quiet store store' := by
  simp only [revokeCandidateApproval, bind_eq_ok', exists_unit, expect_ok, rejectIf_ok, Prod.exists] at h
  obtain ⟨_, -, -, a, b, -, t, -, -, h⟩ := h
  split at h
  · obtain rfl := Except.ok.inj h
    exact ⟨.refl _, .refl _⟩
  · simp only [bind_eq_ok', exists_unit, rejectIf_ok] at h
    obtain ⟨_, -, -, h⟩ := h
    obtain rfl := Except.ok.inj h
    exact ⟨{ Evolves.refl store with }, { Quiet.refl store with }⟩

theorem createStep_quiet {row : StepRow} (hguard : stepGuard store row = true)
    (h : createStepExecutionIn store row = .ok store') : Evolves store store' ∧ Quiet store store' := by
  simp only [createStepExecutionIn, bind_eq_ok', exists_unit, rejectIf_ok] at h
  obtain ⟨-, -, -, -, h⟩ := h
  obtain rfl := Except.ok.inj h
  refine ⟨{ Evolves.refl store with steps := ?_ }, { Quiet.refl store with steps := ?_ }⟩
  · rw [List.map_append]
    exact List.prefix_append _ _
  · intro s hs
    rcases List.mem_append.mp hs with hs | hs
    · exact .inl ⟨s, hs, rfl⟩
    · rw [List.mem_singleton.mp hs]
      exact .inr hguard

/-- A column that records the use of a row changes; nothing else. -/
theorem map_map_same {α : Type} {f k : α → α} (h : ∀ x, k (f x) = k x) (l : List α) :
    (l.map f).map k = l.map k := by
  rw [List.map_map]
  exact List.map_congr_left fun x _ => h x

theorem perform_cases {op : PolicyOp} (h : perform env store op = .ok store') :
    Evolves store store' ∧ Performed env store store' op := by
  have of_quiet : ∀ {op : PolicyOp}, Evolves store store' ∧ Quiet store store' →
      Evolves store store' ∧ Performed env store store' op := fun hq => ⟨hq.1, .quiet hq.2⟩
  have of_writes : ∀ {op : PolicyOp}, EvaluationWrites store store' →
      Evolves store store' ∧ Performed env store store' op := fun hw => ⟨hw.evolves, .quiet hw.quiet⟩
  cases op with
  | elsewhere world lease clock =>
      obtain rfl := Except.ok.inj h
      exact ⟨{ Evolves.refl store with }, .quiet { Quiet.refl store with }⟩
  | useGrants use =>
      obtain rfl := Except.ok.inj h
      have hsame := map_map_same (f := GrantRow.used use) (k := GrantRow.asIssued) (fun _ => rfl)
        store.grants
      exact ⟨{ Evolves.refl store with grants := hsame ▸ List.prefix_refl _ },
        .quiet { Quiet.refl store with grants := hsame }⟩
  | moveSteps move =>
      obtain rfl := Except.ok.inj h
      have hsame := map_map_same (f := StepRow.moved move) (k := StepRow.asCreated) (fun _ => rfl)
        store.steps
      refine ⟨{ Evolves.refl store with steps := hsame ▸ List.prefix_refl _ },
        .quiet { Quiet.refl store with steps := ?_ }⟩
      intro s hs
      obtain ⟨x, hx, rfl⟩ := List.mem_map.mp hs
      exact .inl ⟨x, hx, rfl⟩
  | moveAllocations move =>
      obtain rfl := Except.ok.inj h
      have hsame := map_map_same (f := AllocationRow.moved move) (k := AllocationRow.asAllocated)
        (fun _ => rfl) store.allocations
      refine ⟨{ Evolves.refl store with allocations := hsame ▸ List.prefix_refl _ },
        .quiet { Quiet.refl store with allocations := ?_ }⟩
      intro s hs
      obtain ⟨x, hx, rfl⟩ := List.mem_map.mp hs
      exact .inl ⟨x, hx, rfl⟩
  | createStep row =>
      simp only [perform, bind_eq_ok', exists_unit, rejectIf_ok] at h
      exact of_quiet (createStep_quiet (by simpa using h.1) h.2)
  | allocate row =>
      simp only [perform, bind_eq_ok', exists_unit, rejectIf_ok] at h
      obtain ⟨hguard, h⟩ := h
      obtain rfl := Except.ok.inj h
      simp only [Bool.or_eq_false_iff, Bool.not_eq_false'] at hguard
      refine ⟨{ Evolves.refl store with allocations := ?_ },
        .quiet { Quiet.refl store with allocations := ?_ }⟩
      · rw [List.map_append]
        exact List.prefix_append _ _
      · intro x hx
        rcases List.mem_append.mp hx with hx | hx
        · exact .inl ⟨x, hx, rfl⟩
        · rw [List.mem_singleton.mp hx]
          exact .inr hguard.1
  | append row =>
      simp only [perform, bind_eq_ok', exists_unit, rejectIf_ok] at h
      obtain rfl := Except.ok.inj h.2
      exact ⟨{ Evolves.refl store with events := List.prefix_append _ _ }, .quiet { Quiet.refl store with }⟩
  | reserve outside lease q selected checkedAt =>
      obtain ⟨⟨s, result⟩, hs, rfl⟩ := map_eq_ok.mp h
      exact ⟨reserve_evolves hs, .reserved hs⟩
  | activate lease raw now =>
      obtain ⟨⟨s, revision⟩, hs, rfl⟩ := map_eq_ok.mp h
      have hsame := activateLocalAuthorityPolicy_ok hs
      rw [hsame]
      exact ⟨{ Evolves.refl store with }, .quiet { Quiet.refl store with }⟩
  | evaluate call candidateId now =>
      obtain ⟨⟨s, evaluation⟩, hs, rfl⟩ := map_eq_ok.mp h
      simp only [evaluatePendingAuthorityCandidate, bind_eq_ok', exists_unit] at hs
      obtain ⟨_, -, _, -, -, hs⟩ := hs
      obtain ⟨_, _, _, _, -, hev⟩ := evaluatePendingAuthorityCandidateIn_ok hs
      exact of_writes hev.writes
  | decide call approval principalId approve now =>
      simp only [perform, decideCandidateApproval, bind_eq_ok', exists_unit, rejectIf_ok,
        decideCandidateApprovalIn, Prod.exists] at h
      obtain ⟨_, -, _, -, _, -, -, _, -, -, _, _, -, _, -, -, _, -, _, -, -, _, -, -, _, -, _, -, _, _, -, _, -,
        -, -, h⟩ := h
      exact of_quiet (recordUserDecision_quiet h)
  | revoke lease approval principalId now => exact of_quiet (revokeCandidateApproval_quiet h)
  | claim call candidateId approval now =>
      obtain ⟨⟨s, evaluation⟩, hs, rfl⟩ := map_eq_ok.mp h
      simp only [applyCandidateApprovalClaim, applyCandidateApprovalClaimIn, bind_eq_ok', exists_unit,
        Prod.exists, rejectIf_ok] at hs
      obtain ⟨_, -, _, -, -, _, -, _, -, -, _, -, -, _, -, _, -, -, _, -, -, s1, _, heval, -, hs⟩ := hs
      obtain ⟨rfl, -⟩ := Prod.mk.inj (Except.ok.inj hs)
      obtain ⟨_, _, _, _, -, hev⟩ := evaluatePendingAuthorityCandidateIn_ok heval
      exact of_writes hev.writes
  | finalize call candidateId time =>
      obtain ⟨⟨s, result⟩, hs, rfl⟩ := map_eq_ok.mp h
      rcases finalize_cases hs with ⟨-, rfl⟩ | ⟨w, hw, rfl, -⟩
      · exact ⟨.refl _, .quiet (.refl _)⟩
      · exact ⟨hw.evolves, .finalised w hw rfl⟩
  | crash =>
      obtain rfl := Except.ok.inj h
      exact ⟨.refl _, .quiet (.refl _)⟩

/-- Whatever a run does, it takes nothing back. -/
theorem run_evolves (store : PolicyStore) (ops : List PolicyOp) : Evolves store (run env store ops) :=
  run_invariant (P := fun s => Evolves store s) (fun _ hop h => h.trans (perform_cases hop).1) ops (.refl _)

end Cases

end Aios.Policy
