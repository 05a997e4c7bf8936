/-
  File:      Aios/Policy/Consumed.lean
  Subject:   RUNS OVER THE TABLES OF THE CANDIDATES: next to the operations of the ledger, rows come to
             the tables of the bindings and steps, and the status of a candidate changes, where the
             triggers let it.

  * `TableOp` -- an operation of the ledger, or a statement on one of the tables it shares;
  * `Written` -- the five things an operation can do to a candidate (`outcome_written`);
  * `Identified`, `Consumed` -- the invariants: no two candidates share an identity, and a row that
    carries one has exactly the pins of its candidate.
-/
import Aios.Policy.Replay

namespace Aios.Policy

open Lib Provenance

/-! ## 1. The triggers -/

/-- The binding has an identity of the reservation. -/
def bindingCollides (c : ReservationRow) (row : BindingRow) : Bool :=
  c.bindingId = row.bindingId || c.attemptId = row.attemptId ||
    sameAttempt row.taskId row.semanticProgramHash row.nodeId row.attempt c

/-- The binding has every pin of the reservation. -/
def bindingPinned (c : ReservationRow) (row : BindingRow) : Bool :=
  c.bindingId = row.bindingId && c.attemptId = row.attemptId && c.taskId = row.taskId &&
    c.semanticProgramHash = row.semanticProgramHash && c.registrySnapshotId = row.registrySnapshotId &&
    c.irVersion = row.irVersion && c.nodeId = row.nodeId && c.capability = row.capability &&
    row.capabilityContractHash = some c.capabilityContractHash &&
    row.providerRegistrationId = some c.providerRegistrationId && c.providerId = row.providerId &&
    c.providerVersion = row.providerVersion && row.providerManifestHash = some c.providerManifestHash &&
    row.providerBuildHash = some c.providerBuildHash && c.attemptNumber = row.attempt &&
    c.executionProfileRef = row.executionProfileRef &&
    row.conformanceEvidenceId = some c.conformanceEvidenceId &&
    row.providerTrustSourceId = some c.providerTrustSourceId &&
    row.placementLocality = some c.placementLocality

/-- The trigger on `execution_bindings`: a reserved identity is for the exact binding of its candidate,
    while that is pending. -/
def bindingGuard (store : PolicyStore) (row : BindingRow) : Bool :=
  store.reservations.all fun c => !bindingCollides c row ||
    (store.loadView.state? c.candidateId = some .pending && bindingPinned c row)

/-- The allocation has every pin of the reserved output. -/
def allocationPinned (c : ReservationRow) (r : ResourceRow) (row : AllocationRow) : Bool :=
  c.taskId = row.taskId && c.semanticProgramHash = row.semanticProgramHash && c.nodeId = row.nodeId &&
    row.bindingId = some c.bindingId && row.attemptId = some c.attemptId &&
    row.outputPort = r.outputPort && row.expectedSemanticType = some r.expectedSemanticType

/-- Binding, step and outputs of the candidate are there. -/
def consumedWhole (store : PolicyStore) (c : ReservationRow) : Bool :=
  (store.bindings.any fun b => b.bindingId = c.bindingId && b.attemptId = c.attemptId) &&
    store.steps.any (stepOf c) &&
    store.resources.all fun r => !(r.candidateId = c.candidateId && r.resourceKind = "output-allocation") ||
      store.allocations.any fun a => a.allocationId = r.resourceId && allocationExact c r a

/-- The trigger on `authority_candidate_status`: a pending candidate moves, and becomes final with
    everything of it only. -/
def statusGuard (store : PolicyStore) (s : StatusRow) (revision : Nat) (state : Tasks.CandidateState) : Bool :=
  s.state = .pending && state ≠ .pending && revision = s.revision + 1 &&
    (state ≠ .finalized || (store.loadView.reservation? s.candidateId).any (consumedWhole store))

/-! ## 2. Operations -/

inductive TableOp where
  /-- An operation of the ledger, a reservation or its repetition among them. -/
  | ledger (op : PolicyOp)
  /-- A row comes to `execution_bindings`; the triggers on its authority and its provider let it in
      or not. -/
  | insertBinding (admitted : Bool) (row : BindingRow)
  | insertStep (row : StepRow)
  | updateStatus (candidateId : String) (revision : Nat) (state : Tasks.CandidateState)

def StatusRow.moved (s : StatusRow) (candidateId : String) (revision : Nat) (state : Tasks.CandidateState) :
    StatusRow :=
  if s.candidateId = candidateId then { s with revision := revision, state := state } else s

def moveStatus (store : PolicyStore) (candidateId : String) (revision : Nat) (state : Tasks.CandidateState) :
    PolicyResult PolicyStore :=
  match store.statuses.find? fun s => s.candidateId = candidateId with
  | none => .ok store
  | some s => do
      rejectIf (!statusGuard store s revision state)
        (.storage "authority candidate status transition is invalid")
      return { store with
        statuses := store.statuses.map fun x => x.moved candidateId revision state }

def TableOp.outcome (env : PolicyEnv) (store : PolicyStore) : TableOp → PolicyResult PolicyStore
  | .ledger op => perform env store op
  | .insertBinding admitted row => do
      rejectIf (!admitted || !bindingGuard store row || !bindingInsertable store row)
        (.storage "execution binding collides with reserved authority candidate")
      return { store with bindings := store.bindings ++ [row] }
  | .insertStep row => do
      rejectIf (!stepGuard store row || store.steps.any fun s => s.attemptId = row.attemptId ||
        (s.taskId = row.taskId && s.semanticProgramHash = row.semanticProgramHash &&
          s.nodeId = row.nodeId && s.attemptNumber = row.attemptNumber))
        (.storage "step execution collides with reserved authority candidate")
      return { store with steps := store.steps ++ [row] }
  | .updateStatus candidateId revision state => moveStatus store candidateId revision state

/-- A failed operation is rolled back. -/
def PolicyStore.next (env : PolicyEnv) (store : PolicyStore) (op : TableOp) : PolicyStore :=
  match op.outcome env store with
  | .ok store' => store'
  | .error _ => store

def tableRun (env : PolicyEnv) (store : PolicyStore) (ops : List TableOp) : PolicyStore :=
  ops.foldl (PolicyStore.next env) store

/-- A store without candidates, as the tables of the candidates find it when they are made. -/
def PolicyStore.unreserved (store : PolicyStore) : PolicyStore :=
  { store with reservations := [], resources := [], exportPins := [], statuses := [] }

/-! ## 3. What one operation can do -/

section Written

variable {env : PolicyEnv} {a b : PolicyStore}

/-- **One operation**: it writes nothing of any candidate that its trigger did not let in, reserves a
    candidate, finalises one, binds one, or moves its status. -/
inductive Written (env : PolicyEnv) (a b : PolicyStore) : Prop
  | quiet (h : Quiet a b)
  | reserved {q : ReserveAuthorityCandidate} {checkedAt : String} (w : NewCandidate) (hw : w.Checked env a q)
      (h : Inserted a b (w.row q checkedAt) w.resolved)
  | finalised {backend : LocalPolicyBackend} {candidateId createdAt : String} (w : FinalWrites)
      (h : w.Checked env backend a candidateId createdAt) (hb : b = w.store candidateId createdAt)
  | bound (row : BindingRow) (hguard : bindingGuard a row = true)
      (hb : b = { a with bindings := a.bindings ++ [row] })
  | moved (s : StatusRow) (revision : Nat) (state : Tasks.CandidateState)
      (hs : (a.statuses.find? fun x => x.candidateId = s.candidateId) = some s)
      (hguard : statusGuard a s revision state = true)
      (hb : b = { a with statuses := a.statuses.map fun x => x.moved s.candidateId revision state })

theorem StatusRow.moved_candidateId (s : StatusRow) (candidateId : String) (revision : Nat)
    (state : Tasks.CandidateState) : (s.moved candidateId revision state).candidateId = s.candidateId := by
  unfold StatusRow.moved
  split <;> rfl

/-- A status that is not pending stays where it is. -/
theorem moved_evolves {s : StatusRow} {revision : Nat} {state : Tasks.CandidateState}
    (hs : (a.statuses.find? fun x => x.candidateId = s.candidateId) = some s)
    (hguard : statusGuard a s revision state = true) :
    Evolves a { a with statuses := a.statuses.map fun x => x.moved s.candidateId revision state } := by
  refine { Evolves.refl a with statuses := fun id x hx hne => ?_ }
  have hkeys : ∀ y : StatusRow, (y.moved s.candidateId revision state).candidateId = y.candidateId :=
    fun y => y.moved_candidateId _ _ _
  show (a.statuses.map _).find? _ = some x
  rw [find?_map_key hkeys, hx, Option.map_some]
  have hid : x.candidateId = id := find?_key_eq hx
  have hother : x.candidateId ≠ s.candidateId := by
    intro e
    rw [← hid, e, hs] at hx
    obtain rfl := Option.some.inj hx
    simp only [statusGuard, Bool.and_eq_true, decide_eq_true_eq] at hguard
    exact hne hguard.1.1.1
  rw [StatusRow.moved, if_neg hother]

theorem outcome_written {op : TableOp} (h : op.outcome env a = .ok b) : Evolves a b ∧ Written env a b := by
  cases op with
  | ledger op =>
      obtain ⟨hev, hcase⟩ := perform_cases h
      refine ⟨hev, ?_⟩
      cases hcase with
      | quiet hq => exact .quiet hq
      | reserved hr =>
          rcases reserveAuthorityCandidate_ok hr with ⟨-, rfl⟩ | ⟨-, w, hw, hins, -⟩
          · exact .quiet (.refl _)
          · exact .reserved w hw (insertReservation_ok hins)
      | finalised w hw hb => exact .finalised w hw hb
  | insertBinding admitted row =>
      simp only [TableOp.outcome, bind_eq_ok', exists_unit, rejectIf_ok] at h
      obtain ⟨hguard, h⟩ := h
      obtain rfl := Except.ok.inj h
      simp only [Bool.or_eq_false_iff, Bool.not_eq_false'] at hguard
      exact ⟨{ Evolves.refl a with bindings := List.prefix_append _ _ }, .bound row hguard.1.2 rfl⟩
  | insertStep row =>
      simp only [TableOp.outcome, bind_eq_ok', exists_unit, rejectIf_ok] at h
      obtain ⟨hguard, h⟩ := h
      obtain rfl := Except.ok.inj h
      simp only [Bool.or_eq_false_iff, Bool.not_eq_false'] at hguard
      refine ⟨{ Evolves.refl a with steps := ?_ }, .quiet { Quiet.refl a with steps := fun s hs => ?_ }⟩
      · rw [List.map_append]
        exact List.prefix_append _ _
      · rcases List.mem_append.mp hs with hs | hs
        · exact .inl ⟨s, hs, rfl⟩
        · rw [List.mem_singleton.mp hs]
          exact .inr hguard.1
  | updateStatus candidateId revision state =>
      simp only [TableOp.outcome, moveStatus] at h
      split at h
      · obtain rfl := Except.ok.inj h
        exact ⟨.refl _, .quiet (.refl _)⟩
      · next s hs =>
          simp only [bind_eq_ok', exists_unit, rejectIf_ok] at h
          obtain ⟨hguard, h⟩ := h
          obtain rfl := Except.ok.inj h
          have hguard : statusGuard a s revision state = true := by simpa using hguard
          obtain rfl : s.candidateId = candidateId := find?_key_eq hs
          exact ⟨moved_evolves hs hguard, .moved s revision state hs hguard rfl⟩

end Written

/-! ## 4. Candidates have their identities for themselves -/

/-- The attempt of a node that is reserved. -/
def ReservationRow.attempt (c : ReservationRow) : String × String × String × Nat :=
  (c.taskId, c.semanticProgramHash, c.nodeId, c.attemptNumber)

/-- The reserved outputs. -/
def outputRows (resources : List ResourceRow) : List ResourceRow :=
  resources.filter fun r => r.resourceKind = "output-allocation"

/-- No identity is of two candidates; everything that is stored of a candidate is of one that is there,
    with one status. -/
structure Identified (s : PolicyStore) : Prop where
  candidateIds : (s.reservations.map ReservationRow.candidateId).Nodup
  bindingIds : (s.reservations.map ReservationRow.bindingId).Nodup
  attemptIds : (s.reservations.map ReservationRow.attemptId).Nodup
  attempts : (s.reservations.map ReservationRow.attempt).Nodup
  outputIds : ((outputRows s.resources).map ResourceRow.resourceId).Nodup
  owners : ∀ r ∈ s.resources, ∃ c ∈ s.reservations, c.candidateId = r.candidateId
  pins : ∀ x ∈ s.exportPins, ∃ c ∈ s.reservations, c.candidateId = x.1
  statusIds : (s.statuses.map StatusRow.candidateId).Nodup
  statuses : ∀ c ∈ s.reservations, ∃ st ∈ s.statuses, st.candidateId = c.candidateId
  revisions : ∀ st ∈ s.statuses, st.revision = if st.state = .pending then 1 else 2

/-- A row that carries a reserved identity has the pins of its candidate. -/
structure Consumed (s : PolicyStore) : Prop where
  bindings : ∀ x ∈ s.bindings, ∀ c ∈ s.reservations, bindingCollides c x = true → bindingPinned c x = true
  steps : ∀ x ∈ s.steps, ∀ c ∈ s.reservations, stepCollides c x = true → stepOf c x = true
  allocations : ∀ x ∈ s.allocations, ∀ r ∈ outputRows s.resources, r.resourceId = x.allocationId →
    ∃ c ∈ s.reservations, c.candidateId = r.candidateId ∧ allocationPinned c r x = true

theorem identified_unreserved (s : PolicyStore) : Identified s.unreserved := by
  constructor <;> simp [PolicyStore.unreserved, outputRows]

theorem consumed_unreserved (s : PolicyStore) : Consumed s.unreserved := by
  constructor <;> simp [PolicyStore.unreserved, outputRows]

section Identified

variable {env : PolicyEnv} {a b : PolicyStore}

/-- A status is what its candidate finds. -/
theorem Identified.find_status (h : Identified a) {st : StatusRow} (hst : st ∈ a.statuses) :
    (a.statuses.find? fun x => x.candidateId = st.candidateId) = some st :=
  find?_of_mem (List.pairwise_map.mp h.statusIds) hst

theorem Identified.find_reservation (h : Identified a) {c : ReservationRow} (hc : c ∈ a.reservations) :
    a.loadView.reservation? c.candidateId = some c :=
  find?_of_mem (List.pairwise_map.mp h.candidateIds) hc

/-- Identities move with the tables they are in. -/
theorem Identified.congr (h : Identified a) (hres : b.reservations = a.reservations)
    (hrows : b.resources = a.resources) (hpins : b.exportPins = a.exportPins)
    (hstatuses : b.statuses = a.statuses) : Identified b := by
  constructor
  · exact hres ▸ h.candidateIds
  · exact hres ▸ h.bindingIds
  · exact hres ▸ h.attemptIds
  · exact hres ▸ h.attempts
  · exact hrows ▸ h.outputIds
  · exact hrows ▸ hres ▸ h.owners
  · exact hpins ▸ hres ▸ h.pins
  · exact hstatuses ▸ h.statusIds
  · exact hstatuses ▸ hres ▸ h.statuses
  · exact hstatuses ▸ h.revisions

/-- Statuses that move from pending keep their candidates. -/
theorem Identified.restate (h : Identified a) {f : StatusRow → StatusRow}
    (hid : ∀ x, (f x).candidateId = x.candidateId)
    (hrev : ∀ x ∈ a.statuses, (f x).revision = if (f x).state = .pending then 1 else 2) :
    Identified { a with statuses := a.statuses.map f } := by
  refine { h with statusIds := ?_, statuses := fun c hc => ?_, revisions := fun st hst => ?_ }
  · show ((a.statuses.map f).map StatusRow.candidateId).Nodup
    rw [List.map_map, show StatusRow.candidateId ∘ f = StatusRow.candidateId from funext hid]
    exact h.statusIds
  · obtain ⟨st, hst, he⟩ := h.statuses c hc
    exact ⟨f st, List.mem_map_of_mem hst, (hid st).trans he⟩
  · obtain ⟨x, hx, rfl⟩ := List.mem_map.mp hst
    exact hrev x hx

theorem nodup_snoc {α κ : Type} {key : α → κ} {l : List α} {x : α} (h : (l.map key).Nodup)
    (hx : ∀ y ∈ l, key y ≠ key x) : ((l ++ [x]).map key).Nodup := by
  rw [List.map_append]
  refine List.nodup_append.mpr ⟨h, List.nodup_singleton _, ?_⟩
  intro k hk k' hk'
  obtain ⟨y, hy, rfl⟩ := List.mem_map.mp hk
  rw [List.mem_singleton.mp hk']
  exact hx y hy

theorem sameAttempt_iff {taskId hash nodeId : String} {attempt : Nat} {c : ReservationRow} :
    sameAttempt taskId hash nodeId attempt c = true ↔ c.attempt = (taskId, hash, nodeId, attempt) := by
  simp [sameAttempt, ReservationRow.attempt, and_assoc]

theorem Identified.insert {c : ReservationRow} {acc : Resolved} (h : Identified a)
    (hins : Inserted a b c acc) : Identified b := by
  have hres := hins.reservation
  have hrows := hins.resources
  have hstatus := hins.status
  simp only [reservationInsertable, Bool.and_eq_true, List.all_eq_true, decide_eq_true_eq,
    Bool.not_eq_true', Bool.eq_false_iff] at hres
  simp only [resourcesInsertable, Bool.and_eq_true, List.all_eq_true, decide_eq_true_eq, Bool.or_eq_true]
    at hrows
  simp only [statusInsertable, List.all_eq_true, decide_eq_true_eq] at hstatus
  obtain ⟨⟨⟨⟨⟨howned, -⟩, -⟩, -⟩, houts⟩, honce⟩ := hrows
  have hfresh := hres.1.1
  have hold : ∀ id, (∃ x ∈ a.reservations, x.candidateId = id) → ∃ x ∈ b.reservations, x.candidateId = id := by
    rintro id ⟨x, hx, hid⟩
    exact ⟨x, by rw [hins.stored]; exact List.mem_append_left _ hx, hid⟩
  have hnew : c ∈ b.reservations := by
    rw [hins.stored]
    exact List.mem_append_right _ (List.mem_singleton_self _)
  have hres : b.reservations = a.reservations ++ [c] := by rw [hins.stored]
  have hresources : b.resources = a.resources ++ acc.rows := by rw [hins.stored]
  have hstatuses : b.statuses = a.statuses ++ [⟨c.candidateId, 1, .pending⟩] := by rw [hins.stored]
  constructor
  · rw [hres]
    exact nodup_snoc h.candidateIds fun x hx => (hfresh x hx).1.1.1
  · rw [hres]
    exact nodup_snoc h.bindingIds fun x hx => (hfresh x hx).1.1.2
  · rw [hres]
    exact nodup_snoc h.attemptIds fun x hx => (hfresh x hx).1.2
  · rw [hres]
    exact nodup_snoc h.attempts fun x hx he => (hfresh x hx).2 (sameAttempt_iff.mpr he.symm)
  · rw [hresources, outputRows, List.filter_append, List.map_append]
    refine List.nodup_append.mpr ⟨h.outputIds, honce, ?_⟩
    intro x hx y hy he
    obtain ⟨r, hr, rfl⟩ := List.mem_map.mp hx
    obtain ⟨r', hr', rfl⟩ := List.mem_map.mp hy
    obtain ⟨hr, hkind⟩ := List.mem_filter.mp hr
    obtain ⟨hr', hkind'⟩ := List.mem_filter.mp hr'
    rcases houts r' hr' with hother | hfree
    · exact hother (by simpa using hkind')
    · rcases hfree.1 r hr with hother | hne
      · exact hother (by simpa using hkind)
      · exact hne he
  · intro r hr
    rw [hresources] at hr
    rcases List.mem_append.mp hr with hr | hr
    · exact hold _ (h.owners r hr)
    · exact ⟨c, hnew, (howned r hr).symm⟩
  · intro x hx
    rw [hins.stored] at hx
    rcases List.mem_append.mp hx with hx | hx
    · exact hold _ (h.pins x hx)
    · obtain ⟨pin, -, rfl⟩ := Option.map_eq_some_iff.mp (Option.mem_toList.mp hx)
      exact ⟨c, hnew, rfl⟩
  · rw [hstatuses]
    exact nodup_snoc h.statusIds hstatus
  · intro x hx
    rw [hres] at hx
    rw [hstatuses]
    rcases List.mem_append.mp hx with hx | hx
    · obtain ⟨st, hst, hid⟩ := h.statuses x hx
      exact ⟨st, List.mem_append_left _ hst, hid⟩
    · rw [List.mem_singleton.mp hx]
      exact ⟨_, List.mem_append_right _ (List.mem_singleton_self _), rfl⟩
  · intro st hst
    rw [hstatuses] at hst
    rcases List.mem_append.mp hst with hst | hst
    · exact h.revisions st hst
    · rw [List.mem_singleton.mp hst]
      rfl

theorem Identified.written (h : Identified a) (hw : Written env a b) : Identified b := by
  cases hw with
  | quiet hq => exact h.congr hq.reservations hq.resources hq.exportPins hq.statuses
  | reserved w hw hins => exact h.insert hins
  | @finalised backend id createdAt w hw hb =>
      have hsame := hw.evaluated_same
      have hmarked : Identified { a with
          statuses := a.statuses.map fun s => if s.isPending id then s.finalized else s } := by
        refine h.restate (fun x => ?_) fun x hx => ?_
        · split <;> rfl
        · split
          · next hp =>
              simp only [StatusRow.isPending, Bool.and_eq_true, decide_eq_true_eq] at hp
              simp [StatusRow.finalized, hp]
          · exact h.revisions x hx
      rw [hb]
      refine hmarked.congr ?_ ?_ ?_ ?_
      · show w.evaluated.reservations = _
        rw [hsame]
      · show w.evaluated.resources = _
        rw [hsame]
      · show w.evaluated.exportPins = _
        rw [hsame]
      · show w.evaluated.statuses.map _ = _
        rw [hsame]
  | bound row hguard hb => exact h.congr (by rw [hb]) (by rw [hb]) (by rw [hb]) (by rw [hb])
  | moved s revision state hs hguard hb =>
      rw [hb]
      refine h.restate (fun x => x.moved_candidateId _ _ _) fun x hx => ?_
      simp only [statusGuard, Bool.and_eq_true, decide_eq_true_eq] at hguard
      unfold StatusRow.moved
      split
      · have hrev := h.revisions s (List.mem_of_find?_eq_some hs)
        rw [if_pos hguard.1.1.1] at hrev
        simp [hguard.1.1.2, hguard.1.2, hrev]
      · exact h.revisions x hx

end Identified

/-! ## 5. Attempts are numbered on -/

/-- The number of an attempt of the node that was bound, reserved or executed. -/
def UsedAttempt (s : PolicyStore) (taskId hash nodeId : String) (n : Nat) : Prop :=
  (∃ x ∈ s.bindings, (x.taskId, x.semanticProgramHash, x.nodeId, x.attempt) = (taskId, hash, nodeId, n)) ∨
    (∃ c ∈ s.reservations, c.attempt = (taskId, hash, nodeId, n)) ∨
    ∃ x ∈ s.steps, (x.taskId, x.semanticProgramHash, x.nodeId, x.attemptNumber) = (taskId, hash, nodeId, n)

section Attempts

variable {env : PolicyEnv} {a b : PolicyStore} {q : ReserveAuthorityCandidate}

/-- An attempt stays used. -/
theorem UsedAttempt.evolves (h : Evolves a b) {taskId hash nodeId : String} {n : Nat}
    (hu : UsedAttempt a taskId hash nodeId n) : UsedAttempt b taskId hash nodeId n := by
  rcases hu with ⟨x, hx, he⟩ | ⟨c, hc, he⟩ | ⟨x, hx, he⟩
  · exact .inl ⟨x, h.bindings.subset hx, he⟩
  · exact .inr (.inl ⟨c, h.reservations.subset hc, he⟩)
  · obtain ⟨y, hy, hxy⟩ := List.mem_map.mp (h.steps.subset (List.mem_map_of_mem hx))
    refine .inr (.inr ⟨y, hy, ?_⟩)
    rw [← he]
    exact (congrArg (fun s : StepRow => (s.taskId, s.semanticProgramHash, s.nodeId, s.attemptNumber)) hxy :)

/-- The latest attempt is the largest number that is used, or none is. -/
theorem latestAttempt_spec :
    (∀ n, UsedAttempt a q.taskId q.semanticProgramHash q.nodeId n → n ≤ latestAttempt a q) ∧
      (latestAttempt a q = 0 ∨ UsedAttempt a q.taskId q.semanticProgramHash q.nodeId (latestAttempt a q)) := by
  obtain ⟨used, hlatest, hused⟩ : ∃ used : List Nat, latestAttempt a q = used.max?.getD 0 ∧
      ∀ n, UsedAttempt a q.taskId q.semanticProgramHash q.nodeId n ↔ n ∈ used :=
    ⟨_, rfl, fun n => by simp [UsedAttempt, ReservationRow.attempt, and_assoc]⟩
  simp only [hlatest, hused]
  cases hmax : used.max? with
  | none =>
      rw [List.max?_eq_none_iff.mp hmax]
      exact ⟨fun n hn => (by cases hn), .inl rfl⟩
  | some m =>
      obtain ⟨hm, hle⟩ := List.max?_eq_some_iff.mp hmax
      exact ⟨hle, .inr hm⟩

/-- **A new reservation takes the next attempt** of its node. -/
theorem NewCandidate.Checked.next_attempt {w : NewCandidate} (h : w.Checked env a q) {n : Nat}
    (hn : UsedAttempt a q.taskId q.semanticProgramHash q.nodeId n) : n < q.attemptNumber := by
  have hle := latestAttempt_spec.1 n hn
  have hnext := h.attempt
  omega

end Attempts

/-! ## 6. A reserved identity is used for its candidate -/

section Consumed

variable {env : PolicyEnv} {a b : PolicyStore}

/-- Which of the reservations a step collides with does not depend on its progress. -/
theorem step_of_asCreated {x y : StepRow} (h : y.asCreated = x.asCreated) (c : ReservationRow) :
    stepCollides c y = stepCollides c x ∧ stepOf c y = stepOf c x :=
  ⟨(congrArg (stepCollides c) h :), (congrArg (stepOf c) h :)⟩

theorem allocation_of_asAllocated {x y : AllocationRow} (h : y.asAllocated = x.asAllocated)
    (c : ReservationRow) (r : ResourceRow) :
    y.allocationId = x.allocationId ∧ allocationPinned c r y = allocationPinned c r x :=
  ⟨(congrArg AllocationRow.allocationId h :), (congrArg (allocationPinned c r) h :)⟩

theorem stepGuard_ok {row : StepRow} (h : stepGuard a row = true) {c : ReservationRow}
    (hc : c ∈ a.reservations) (hcollides : stepCollides c row = true) :
    a.loadView.state? c.candidateId = some .pending ∧ stepOf c row = true := by
  simp only [stepGuard, List.all_eq_true, Bool.or_eq_true, Bool.and_eq_true, decide_eq_true_eq,
    Bool.not_eq_true'] at h
  rcases h c hc with hfree | hexact
  · rw [hcollides] at hfree
    cases hfree
  · exact hexact.1.1

theorem bindingGuard_ok {row : BindingRow} (h : bindingGuard a row = true) {c : ReservationRow}
    (hc : c ∈ a.reservations) (hcollides : bindingCollides c row = true) :
    a.loadView.state? c.candidateId = some .pending ∧ bindingPinned c row = true := by
  simp only [bindingGuard, List.all_eq_true, Bool.or_eq_true, Bool.and_eq_true, decide_eq_true_eq,
    Bool.not_eq_true'] at h
  rcases h c hc with hfree | hexact
  · rw [hcollides] at hfree
    cases hfree
  · exact hexact

theorem allocationGuard_ok (hid : Identified a) {row : AllocationRow} (h : allocationGuard a row = true)
    {r : ResourceRow} (hr : r ∈ outputRows a.resources) (he : r.resourceId = row.allocationId) :
    ∃ c ∈ a.reservations, c.candidateId = r.candidateId ∧
      a.loadView.state? c.candidateId = some .pending ∧ allocationPinned c r row = true := by
  obtain ⟨hr, hkind⟩ := List.mem_filter.mp hr
  obtain ⟨c, hc, hcr⟩ := hid.owners r hr
  simp only [allocationGuard, List.all_eq_true, Bool.or_eq_true, Bool.not_eq_true'] at h
  rcases h r hr with hfree | hexact
  · rw [he] at hfree
    simp [show r.resourceKind = "output-allocation" by simpa using hkind] at hfree
  · rw [← hcr, hid.find_reservation hc] at hexact
    simp only [Option.all_some, Bool.and_eq_true, decide_eq_true_eq] at hexact
    refine ⟨c, hc, hcr, hexact.1.1, ?_⟩
    have hpins := hexact.1.2
    simp only [allocationExact, Bool.and_eq_true, decide_eq_true_eq] at hpins
    simp [allocationPinned, hpins]

theorem Consumed.quiet (h : Consumed a) (hid : Identified a) (hq : Quiet a b) : Consumed b where
  bindings := by
    rw [hq.bindings, hq.reservations]
    exact h.bindings
  steps := by
    rw [hq.reservations]
    intro x hx c hc hcollides
    rcases hq.steps x hx with ⟨y, hy, he⟩ | hguard
    · obtain ⟨hsame, hexact⟩ := step_of_asCreated he c
      rw [← hexact]
      exact h.steps y hy c hc (hsame.trans hcollides)
    · exact (stepGuard_ok hguard hc hcollides).2
  allocations := by
    rw [hq.reservations, hq.resources]
    intro x hx r hr he
    rcases hq.allocations x hx with ⟨y, hy, hxy⟩ | hguard
    · obtain ⟨c, hc, hcr, hexact⟩ :=
        h.allocations y hy r hr (he.trans (congrArg AllocationRow.allocationId hxy :).symm)
      exact ⟨c, hc, hcr, (allocation_of_asAllocated hxy c r).2 ▸ hexact⟩
    · obtain ⟨c, hc, hcr, -, hexact⟩ := allocationGuard_ok hid hguard hr he
      exact ⟨c, hc, hcr, hexact⟩

/-- Two reservations that share an identity are one. -/
theorem Identified.same (h : Identified a) {c c' : ReservationRow} (hc : c ∈ a.reservations)
    (hc' : c' ∈ a.reservations)
    (hshared : c.bindingId = c'.bindingId ∨ c.attemptId = c'.attemptId ∨ c.attempt = c'.attempt) : c = c' := by
  rcases hshared with he | he | he
  · exact eq_of_key_eq (List.pairwise_map.mp h.bindingIds) hc hc' he
  · exact eq_of_key_eq (List.pairwise_map.mp h.attemptIds) hc hc' he
  · exact eq_of_key_eq (List.pairwise_map.mp h.attempts) hc hc' he

/-- The binding of a reservation collides with no other one. -/
theorem Identified.of_binding (h : Identified a) {c c' : ReservationRow} (hc : c ∈ a.reservations)
    (hc' : c' ∈ a.reservations) {decisions grants inputs : List String} {createdAt : String}
    (hcollides : bindingCollides c (bindingRow c' decisions grants inputs createdAt) = true) : c = c' := by
  simp only [bindingCollides, Bool.or_eq_true, decide_eq_true_eq, or_assoc] at hcollides
  exact h.same hc hc' (hcollides.imp_right (Or.imp_right sameAttempt_iff.mp))

/-- The step of a reservation collides with no other one. -/
theorem Identified.of_step (h : Identified a) {c c' : ReservationRow} (hc : c ∈ a.reservations)
    (hc' : c' ∈ a.reservations) {inputs : List String} {createdAt : String}
    (hcollides : stepCollides c (readyStep c' inputs createdAt) = true) : c = c' := by
  simp only [stepCollides, Bool.or_eq_true, decide_eq_true_eq] at hcollides
  refine h.same hc hc' ?_
  rcases hcollides with (he | he) | he
  · exact .inr (.inl he)
  · exact .inl (Option.some.inj he).symm
  · exact .inr (.inr (sameAttempt_iff.mp he))

/-- The identities of a new candidate are on no row yet. -/
theorem Consumed.insert (h : Consumed a) {q : ReserveAuthorityCandidate} {checkedAt : String}
    {w : NewCandidate} (hw : w.Checked env a q) (hins : Inserted a b (w.row q checkedAt) w.resolved) :
    Consumed b := by
  have hres := hins.reservation
  have hrows := hins.resources
  simp only [reservationInsertable, Bool.and_eq_true, List.all_eq_true, decide_eq_true_eq,
    Bool.not_eq_true'] at hres
  simp only [resourcesInsertable, Bool.and_eq_true, List.all_eq_true, decide_eq_true_eq, Bool.or_eq_true]
    at hrows
  have hmem : ∀ c ∈ b.reservations, c ∈ a.reservations ∨ c = w.row q checkedAt := by
    rw [hins.stored]
    intro c hc
    rcases List.mem_append.mp hc with hc | hc
    · exact .inl hc
    · exact .inr (List.mem_singleton.mp hc)
  constructor
  · intro x hx c hc hcollides
    rw [hins.stored] at hx
    rcases hmem c hc with hc | rfl
    · exact h.bindings x hx c hc hcollides
    · simp only [bindingCollides, Bool.or_eq_true, decide_eq_true_eq] at hcollides
      rcases hcollides with (he | he) | he
      · exact absurd he.symm (hres.1.2 x hx).1
      · exact absurd he.symm (hres.1.2 x hx).2
      · -- the attempt of a binding is behind the one that is reserved
        have hused : UsedAttempt a q.taskId q.semanticProgramHash q.nodeId q.attemptNumber :=
          .inl ⟨x, hx, (sameAttempt_iff.mp he).symm⟩
        exact absurd (hw.next_attempt hused) (Nat.lt_irrefl _)
  · intro x hx c hc hcollides
    rw [hins.stored] at hx
    rcases hmem c hc with hc | rfl
    · exact h.steps x hx c hc hcollides
    · have hfree := hres.2 x hx
      simp only [stepCollides, Bool.or_eq_true, decide_eq_true_eq] at hcollides
      rcases hcollides with (he | he) | he
      · exact absurd he.symm hfree.1.1
      · exact absurd he hfree.1.2
      · rw [he] at hfree
        exact absurd hfree.2 (by decide)
  · intro x hx r hr he
    rw [hins.stored] at hx
    have hr : r ∈ outputRows a.resources ∨ r ∈ outputRows w.resolved.rows := by
      rw [hins.stored] at hr
      rw [outputRows, List.filter_append] at hr
      exact List.mem_append.mp hr
    rcases hr with hr | hr
    · obtain ⟨c, hc, hcr, hexact⟩ := h.allocations x hx r hr he
      exact ⟨c, by rw [hins.stored]; exact List.mem_append_left _ hc, hcr, hexact⟩
    · obtain ⟨hr, hkind⟩ := List.mem_filter.mp hr
      rcases hrows.1.2 r hr with hother | hfree
      · exact absurd (by simpa using hkind) hother
      · exact absurd he.symm (hfree.2 x hx)

/-- What a finalisation writes has the pins of its candidate, and the identities of no other one. -/
theorem Consumed.finalise (h : Consumed a) (hid : Identified a) {backend : LocalPolicyBackend}
    {id createdAt : String} {w : FinalWrites} (hw : w.Checked env backend a id createdAt) :
    Consumed (w.store id createdAt) := by
  have hsame := hw.evaluated_same
  have hcandidate : w.facts.candidate ∈ a.reservations := List.mem_of_find?_eq_some hw.reserved
  have hres : (w.store id createdAt).reservations = a.reservations := by
    show w.evaluated.reservations = _
    rw [hsame]
  have hrows : (w.store id createdAt).resources = a.resources := by
    show w.evaluated.resources = _
    rw [hsame]
  have hbindings : (w.store id createdAt).bindings = a.bindings ++ [w.binding createdAt] := by
    show w.evaluated.bindings ++ _ = _
    rw [hsame]
  have hsteps : (w.store id createdAt).steps =
      a.steps ++ [readyStep w.facts.candidate w.stepInputs createdAt] := by
    show w.evaluated.steps ++ _ = _
    rw [hsame]
  have hallocations : (w.store id createdAt).allocations = a.allocations ++ w.outputs := by
    show w.evaluated.allocations ++ _ = _
    rw [hsame]
  constructor
  · rw [hbindings, hres]
    intro x hx c hc hcollides
    rcases List.mem_append.mp hx with hx | hx
    · exact h.bindings x hx c hc hcollides
    · rw [List.mem_singleton.mp hx] at hcollides ⊢
      obtain rfl := hid.of_binding hc hcandidate hcollides
      simp [bindingPinned, FinalWrites.binding, bindingRow]
  · rw [hsteps, hres]
    intro x hx c hc hcollides
    rcases List.mem_append.mp hx with hx | hx
    · exact h.steps x hx c hc hcollides
    · rw [List.mem_singleton.mp hx] at hcollides ⊢
      obtain rfl := hid.of_step hc hcandidate hcollides
      simp [stepOf, readyStep]
  · rw [hallocations, hres, hrows]
    intro x hx r hr he
    rcases List.mem_append.mp hx with hx | hx
    · exact h.allocations x hx r hr he
    · obtain ⟨f, row, hrow, hcand, hkind, hwired, hfor⟩ := hw.output_row hx
      have hrowId : row.resourceId = f.id := (congrArg BindingResource.id hwired :)
      have hport : row.outputPort = f.outputPort := (congrArg BindingResource.port hwired :)
      have htype : row.expectedSemanticType = f.semanticType := (congrArg BindingResource.semanticType hwired :)
      have hrow : row ∈ outputRows a.resources := List.mem_filter.mpr ⟨hrow, by simpa using hkind⟩
      obtain rfl : r = row := eq_of_key_eq (List.pairwise_map.mp hid.outputIds) hr hrow
        (he.trans (hfor.id.trans hrowId.symm))
      refine ⟨w.facts.candidate, hcandidate, hw.candidateId_eq.trans hcand.symm, ?_⟩
      simp [allocationPinned, hfor.task, hfor.program, hfor.node, hfor.binding, hfor.attempt, hfor.port,
        hfor.type, hport, htype]

theorem Consumed.written (h : Consumed a) (hid : Identified a) (hw : Written env a b) : Consumed b := by
  cases hw with
  | quiet hq => exact h.quiet hid hq
  | reserved w hw hins => exact h.insert hw hins
  | finalised w hw hb =>
      rw [hb]
      exact h.finalise hid hw
  | bound row hguard hb =>
      rw [hb]
      refine { h with bindings := fun x hx c hc hcollides => ?_ }
      rcases List.mem_append.mp hx with hx | hx
      · exact h.bindings x hx c hc hcollides
      · rw [List.mem_singleton.mp hx] at hcollides ⊢
        exact (bindingGuard_ok hguard hc hcollides).2
  | moved s revision state hs hguard hb =>
      rw [hb]
      exact { h with }

end Consumed

end Aios.Policy
