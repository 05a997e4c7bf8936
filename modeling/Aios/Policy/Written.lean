/-
  File:      Aios/Policy/Written.lean
  Subject:   What the finaliser writes, function by function, and the whole of it (`finalizeCandidateIn_ok`).

  Each function adds rows behind those that are there. The rows are named here once, with everything
  that was checked when they were written; no later proof opens the functions again.
-/
import Aios.Policy.Evaluated

namespace Aios.Policy

open Lib Provenance Artifacts

/-! ## 1. Grants -/

/-- The grant of a resource and its deadline, under the one decision over the resource. -/
structure IssuedOver (env : PolicyEnv) (store : PolicyStore) (facts : CandidateFacts)
    (evaluation : CandidatePolicyEvaluation) (activation : ActivationRow) (now : String)
    (r : ResourceFacts) (entry : GrantRow × Tasks.DeadlineRow) : Prop where
  grant : ∃ d json expires,
    (evaluation.decisions.filter fun d => d.action = r.action && d.semanticSelector = r.selector) = [d] ∧
      decisionExact store facts r d activation = true ∧ env.canonicalJson (grantsValue r) = .ok json ∧
      entry.1 = grantRow env facts r d activation.contentHash json now expires
  deadline : ∃ prepared approval lease time,
    entry.2 = entry.1.deadline prepared approval lease time ∧ prepared.grantExpiresAt = entry.1.expiresAt

/-- The store with these grants, their receipts and their deadlines. -/
def PolicyStore.withGrants (store : PolicyStore) (entries : List (GrantRow × Tasks.DeadlineRow)) :
    PolicyStore :=
  { store with
    grants := store.grants ++ entries.map Prod.fst
    issuances := store.issuances ++ (entries.map Prod.fst).map GrantRow.issuance
    deadlines := store.deadlines ++ entries.map Prod.snd }

section Issue

variable {env : PolicyEnv} {facts : CandidateFacts} {evaluation : CandidatePolicyEvaluation}
  {activation : ActivationRow} {time : Tasks.ProtectedTimeContext} {lease : Tasks.Lease}

theorem issueGrant_ok {store store' : PolicyStore} {r : ResourceFacts} {id : String}
    (h : issueGrant env facts evaluation activation time lease store r = .ok (store', id)) :
    ∃ entry, IssuedOver env store facts evaluation activation time.now r entry ∧ id = entry.1.grantId ∧
      store' = store.withGrants [entry] := by
  unfold issueGrant at h
  split at h
  · next d hd =>
      simp only [bind_eq_ok', exists_unit, rejectIf_ok] at h
      obtain ⟨hexact, -, -, approval, -, prepared, -, json, hjson, -, h⟩ := h
      obtain ⟨rfl, rfl⟩ := Prod.mk.inj (Except.ok.inj h)
      exact ⟨(_, _), ⟨⟨d, json, _, hd, by simpa using hexact, hjson, rfl⟩, ⟨prepared, approval, lease, time, rfl, rfl⟩⟩,
        rfl, rfl⟩
  · cases h

theorem IssuedOver.congr {a b : PolicyStore} {now : String} {r : ResourceFacts}
    {entry : GrantRow × Tasks.DeadlineRow} (h : IssuedOver env a facts evaluation activation now r entry)
    (hd : a.decisions = b.decisions) (hq : a.requests = b.requests)
    (hf : a.fingerprints = b.fingerprints) :
    IssuedOver env b facts evaluation activation now r entry := by
  obtain ⟨⟨d, json, expires, hone, hexact, hjson, he⟩, hdead⟩ := h
  refine ⟨⟨d, json, expires, hone, ?_, hjson, he⟩, hdead⟩
  rw [← hexact, decisionExact, decisionExact, hd, hq, hf]

theorem issueGrants_ok {resources : List ResourceFacts} {store store' : PolicyStore} {ids : List String}
    (h : issueGrants env facts evaluation activation time lease store resources = .ok (store', ids)) :
    ∃ entries, List.Forall₂ (IssuedOver env store facts evaluation activation time.now) resources entries ∧
      ids = entries.map (fun e => e.1.grantId) ∧ store' = store.withGrants entries := by
  induction resources generalizing store ids with
  | nil =>
      obtain ⟨rfl, rfl⟩ := Prod.mk.inj (Except.ok.inj h)
      refine ⟨[], .nil, rfl, ?_⟩
      simp [PolicyStore.withGrants]
  | cons r rest ih =>
      simp only [issueGrants, bind_eq_ok', Prod.exists] at h
      obtain ⟨s1, id, h1, s2, ids', h2, h⟩ := h
      obtain ⟨rfl, rfl⟩ := Prod.mk.inj (Except.ok.inj h)
      obtain ⟨entry, hentry, rfl, rfl⟩ := issueGrant_ok h1
      obtain ⟨entries, hrest, rfl, rfl⟩ := ih h2
      refine ⟨entry :: entries, .cons hentry (hrest.imp fun _ _ hr => hr.congr rfl rfl rfl), rfl, ?_⟩
      simp [PolicyStore.withGrants]

theorem advanceClockSession_ok {store store' : PolicyStore}
    (h : advanceClockSession store lease time = .ok store') :
    store' = { store with clock := store'.clock } := by
  simp only [advanceClockSession, bind_eq_ok', exists_unit, rejectIf_ok] at h
  obtain ⟨-, -, h⟩ := h
  obtain rfl := Except.ok.inj h
  rfl

/-- The issue of the grants of a candidate: all of its decisions allow, under the latest activation. -/
theorem issueCandidateGrantsIn_ok {outside : Outside} {store store' : PolicyStore} {candidateId : String}
    {ids : List String}
    (h : issueCandidateGrantsIn env outside store candidateId evaluation time lease = .ok (store', ids)) :
    ∃ now facts activation entries clock, checkedTime env time.now = .ok now ∧
      CandidateFacts.load env store candidateId now = .ok facts ∧
      (∀ d ∈ evaluation.decisions, d.effect = .allow) ∧
      latestActivation store.activations = some activation ∧
      evaluation.activationRevision = activation.revision ∧
      List.Forall₂ (IssuedOver env store facts evaluation activation time.now) facts.resources entries ∧
      ids = entries.map (fun e => e.1.grantId) ∧
      store' = PolicyStore.withGrants { store with clock := clock } entries := by
  simp only [issueCandidateGrantsIn, bind_eq_ok', exists_unit, expect_ok, rejectIf_ok] at h
  obtain ⟨-, now, hnow, facts, hload, -, hall, activation, hact, hrev, s1, hclock, hissue⟩ := h
  obtain ⟨entries, hentries, hids, rfl⟩ := issueGrants_ok hissue
  have hs1 := advanceClockSession_ok hclock
  refine ⟨now, facts, activation, entries, s1.clock, hnow, hload, ?_, hact, ?_, ?_, hids, ?_⟩
  · intro d hd
    simp only [Bool.or_eq_false_iff, List.any_eq_false, decide_eq_true_eq, not_not] at hall
    exact hall.2 d hd
  · simp only [decide_eq_false_iff_not, not_not] at hrev
    exact hrev.symm
  · rw [hs1] at hentries
    exact hentries.imp fun _ _ hr => hr.congr rfl rfl rfl
  · conv_lhs => rw [hs1]

end Issue

/-! ## 2. The binding and the step -/

section Binding

variable {env : PolicyEnv} {store store' : PolicyStore} {candidateId createdAt : String}

/-- What was checked when the binding of a candidate was written. -/
structure BoundAs (env : PolicyEnv) (store : PolicyStore) (candidateId : String) (c : ReservationRow)
    (decisions grants : List String) : Prop where
  reserved : store.loadView.reservation? candidateId = some c
  nonempty : decisions ≠ []
  lengths : decisions.length = grants.length
  decisionsOnce : decisions.Nodup
  grantsOnce : grants.Nodup
  counted : c.resourceCount + (store.loadView.exportPin? candidateId).toList.length = decisions.length
  wired : (bindingResources store candidateId (store.loadView.exportPin? candidateId)).length =
    decisions.length

/-- Only what is loaded plays a part. -/
theorem BoundAs.congr {a b : PolicyStore} {c : ReservationRow} {decisions grants : List String}
    (h : BoundAs env a candidateId c decisions grants) (hview : a.loadView = b.loadView) :
    BoundAs env b candidateId c decisions grants where
  reserved := by rw [← hview]; exact h.reserved
  nonempty := h.nonempty
  lengths := h.lengths
  decisionsOnce := h.decisionsOnce
  grantsOnce := h.grantsOnce
  counted := by rw [← hview]; exact h.counted
  wired := by
    unfold bindingResources
    rw [← hview]
    exact h.wired

theorem insertReservedBindingIn_ok {decisions grants : List String}
    (h : insertReservedBindingIn env store candidateId decisions grants createdAt = .ok store') :
    ∃ c inputs, BoundAs env store candidateId c decisions grants ∧
      bindingInsertable store (bindingRow c decisions grants inputs createdAt) = true ∧
      store' = { store with bindings := store.bindings ++ [bindingRow c decisions grants inputs createdAt] } := by
  simp only [insertReservedBindingIn, bind_eq_ok', exists_unit, expect_ok, rejectIf_ok] at h
  obtain ⟨hshape, created, -, c, hc, -, t, -, p, -, pin, hpin, reserved, -, hcount, hwired, keys, -, -, covered, -, -,
    inputs, -, hins, h⟩ := h
  obtain rfl := loadCurrentExportPin_ok hpin
  simp only [Bool.or_eq_false_iff, decide_eq_false_iff_not, not_not, Bool.not_eq_false',
    List.isEmpty_eq_false_iff, decide_eq_true_eq] at hshape hcount hwired
  refine ⟨c, inputs, ⟨hc, hshape.1.1.1.1.1.1.2, hshape.1.1.1.1.2, hshape.1.1.1.2, hshape.1.1.2,
    hcount.1.1, hwired.1⟩, by simpa using hins, (Except.ok.inj h).symm⟩

theorem insertReservedReadyStepIn_ok (h : insertReservedReadyStepIn store candidateId createdAt = .ok store') :
    ∃ c inputs, store.loadView.reservation? candidateId = some c ∧
      (∀ s ∈ store.steps, s.attemptId ≠ c.attemptId) ∧
      store' = { store with steps := store.steps ++ [readyStep c inputs createdAt] } := by
  simp only [insertReservedReadyStepIn, bind_eq_ok', exists_unit, expect_ok, rejectIf_ok] at h
  obtain ⟨c, hc, -, b, -, inputs, -, h⟩ := h
  simp only [createStepExecutionIn, bind_eq_ok', exists_unit, rejectIf_ok] at h
  obtain ⟨-, -, -, hfree, h⟩ := h
  refine ⟨c, inputs, hc, ?_, (Except.ok.inj h).symm⟩
  intro s hs e
  simp only [List.any_eq_false, decide_eq_true_eq] at hfree
  exact hfree s hs e

end Binding

/-! ## 3. The outputs -/

section Outputs

variable {env : PolicyEnv} {outside : Outside} {time : Tasks.ProtectedTimeContext} {lease : Tasks.Lease}
  {facts : CandidateFacts}

/-- The allocation of an output of the candidate. -/
structure AllocatedFor (c : ReservationRow) (r : ResourceFacts) (a : AllocationRow) : Prop where
  id : a.allocationId = r.id
  task : a.taskId = c.taskId
  program : a.semanticProgramHash = c.semanticProgramHash
  node : a.nodeId = c.nodeId
  binding : a.bindingId = some c.bindingId
  attempt : a.attemptId = some c.attemptId
  port : a.outputPort = r.outputPort
  type : a.expectedSemanticType = some r.semanticType

theorem insertAllocationRow_ok {store store' : PolicyStore} {request : OutputAllocationRequest}
    {createdAt : String} (h : insertAllocationRow store request createdAt = .ok store') :
    (∀ a ∈ store.allocations, a.allocationId ≠ request.allocationId) ∧
      store' = { store with allocations := store.allocations ++ [allocationRow request createdAt] } := by
  simp only [insertAllocationRow, bind_eq_ok', exists_unit, rejectIf_ok] at h
  refine ⟨fun a ha e => ?_, (Except.ok.inj h.2).symm⟩
  have hfree := h.1
  simp only [List.any_eq_false, decide_eq_true_eq] at hfree
  exact hfree a ha e

theorem allocateReservedCandidateOutputIn_ok {store store' : PolicyStore} {request : OutputAllocationRequest}
    (h : allocateReservedCandidateOutputIn env outside store facts request time lease = .ok store') :
    validateBoundOutputPolicy store request = .ok () ∧
      store' = { store with allocations := store.allocations ++ [allocationRow request time.now] } := by
  simp only [allocateReservedCandidateOutputIn, bind_eq_ok', exists_unit, expect_ok, rejectIf_ok] at h
  obtain ⟨-, -, -, c, -, -, step, -, inputs, -, -, -, -, hlabels, h⟩ := h
  exact ⟨hlabels, (insertAllocationRow_ok h).2⟩

theorem outputRequest_ok {r : ResourceFacts} {g : GrantRow} {request : OutputAllocationRequest}
    (h : outputRequest facts r g = .ok request) (now : String) :
    AllocatedFor facts.candidate r (allocationRow request now) := by
  simp only [outputRequest, bind_eq_ok', expect_ok] at h
  obtain ⟨s, -, text, -, retention, -, h⟩ := h
  obtain rfl := Except.ok.inj h
  exact ⟨rfl, rfl, rfl, rfl, rfl, rfl, rfl, rfl⟩

/-- The resources that are written. -/
def written (resources : List ResourceFacts) : List ResourceFacts :=
  resources.filter fun r => r.action = "artifact.write"

theorem allocateOutputs_ok {entries : List (ResourceFacts × String)} {store store' : PolicyStore}
    {ids : List String}
    (h : allocateOutputs env outside time lease facts store entries = .ok (store', ids)) :
    ∃ rows, List.Forall₂ (AllocatedFor facts.candidate) (written (entries.map Prod.fst)) rows ∧
      ids = (written (entries.map Prod.fst)).map ResourceFacts.id ∧
      store' = { store with allocations := store.allocations ++ rows } := by
  induction entries generalizing store ids with
  | nil =>
      obtain ⟨rfl, rfl⟩ := Prod.mk.inj (Except.ok.inj h)
      refine ⟨[], .nil, rfl, ?_⟩
      simp
  | cons entry rest ih =>
      obtain ⟨r, id⟩ := entry
      rw [allocateOutputs] at h
      split at h
      · next hwrite =>
          simp only [bind_eq_ok', expect_ok, Prod.exists] at h
          obtain ⟨g, -, request, hreq, s1, h1, s2, ids', h2, h⟩ := h
          obtain ⟨rfl, rfl⟩ := Prod.mk.inj (Except.ok.inj h)
          obtain ⟨-, rfl⟩ := allocateReservedCandidateOutputIn_ok h1
          obtain ⟨rows, hrows, rfl, rfl⟩ := ih h2
          have hcons : written ((r, id) :: rest |>.map Prod.fst) = r :: written (rest.map Prod.fst) := by
            simp [written, hwrite]
          refine ⟨allocationRow request time.now :: rows, ?_, ?_, ?_⟩
          · rw [hcons]
            exact .cons (outputRequest_ok hreq _) hrows
          · rw [hcons]
            rfl
          · simp
      · next hother =>
          obtain ⟨rows, hrows, hids, hs⟩ := ih h
          have hsame : written ((r, id) :: rest |>.map Prod.fst) = written (rest.map Prod.fst) := by
            simp [written, hother]
          exact ⟨rows, by rw [hsame]; exact hrows, by rw [hsame]; exact hids, hs⟩

/-! ## 4. Events and the status -/

/-- The event of a grant. -/
def GrantEvent (env : PolicyEnv) (facts : CandidateFacts) (grantId : String) (e : EventRow) : Prop :=
  e.eventId = grantEventId env grantId ∧ e.taskId = facts.candidate.taskId ∧
    e.eventType = "authorization.granted"

theorem appendGrantEvent_ok {now : String} {store store' : PolicyStore}
    {entry : ResourceFacts × CandidatePolicyDecision × String}
    (h : appendGrantEvent env outside facts now store entry = .ok store') :
    ∃ e, GrantEvent env facts entry.2.2 e ∧ store' = { store with events := store.events ++ [e] } := by
  obtain ⟨r, d, id⟩ := entry
  simp only [appendGrantEvent, bind_eq_ok', exists_unit, expect_ok, rejectIf_ok] at h
  obtain ⟨-, g, hg, -, -, h⟩ := h
  have hid : g.grantId = id := by simpa using List.find?_some hg
  refine ⟨_, ⟨?_, rfl, rfl⟩, (Except.ok.inj h).symm⟩
  rw [← hid]

theorem appendGrantEvents_ok {now : String}
    {entries : List (ResourceFacts × CandidatePolicyDecision × String)} {store store' : PolicyStore}
    (h : entries.foldlM (appendGrantEvent env outside facts now) store = .ok store') :
    ∃ events, List.Forall₂ (GrantEvent env facts) (entries.map fun e => e.2.2) events ∧
      store' = { store with events := store.events ++ events } := by
  induction entries generalizing store with
  | nil =>
      obtain rfl := Except.ok.inj h
      refine ⟨[], .nil, ?_⟩
      simp
  | cons entry rest ih =>
      rw [List.foldlM_cons, bind_eq_ok'] at h
      obtain ⟨s1, h1, h2⟩ := h
      obtain ⟨e, he, rfl⟩ := appendGrantEvent_ok h1
      obtain ⟨events, hevents, rfl⟩ := ih h2
      refine ⟨e :: events, .cons he hevents, ?_⟩
      simp

/-- The store in which the status of the candidate is final. -/
def PolicyStore.marked (store : PolicyStore) (candidateId : String) : PolicyStore :=
  { store with
    statuses := store.statuses.map fun s => if s.isPending candidateId then s.finalized else s }

theorem markFinalized_ok {store store' : PolicyStore} {candidateId : String}
    (h : markFinalized store candidateId = .ok store') :
    (store.statuses.filter (StatusRow.isPending candidateId)).length = 1 ∧
      store' = store.marked candidateId := by
  simp only [markFinalized, bind_eq_ok', exists_unit, rejectIf_ok] at h
  exact ⟨by simpa using h.1, (Except.ok.inj h.2).symm⟩

end Outputs

/-! ## 5. The finaliser -/

/-- Everything one finalisation finds and writes. -/
structure FinalWrites where
  now : Int
  activation : ActivationRow
  policy : LocalPolicy
  facts : CandidateFacts
  evaluation : CandidatePolicyEvaluation
  /-- The store after the evaluation. -/
  evaluated : PolicyStore
  clock : Tasks.Clock
  entries : List (GrantRow × Tasks.DeadlineRow)
  inputs : List String
  /-- The inputs of the step. -/
  stepInputs : List String
  outputs : List AllocationRow
  events : List EventRow

namespace FinalWrites

def decisionIds (w : FinalWrites) : List String :=
  w.evaluation.decisions.map CandidatePolicyDecision.decisionId

def grantIds (w : FinalWrites) : List String := w.entries.map fun e => e.1.grantId

def binding (w : FinalWrites) (createdAt : String) : BindingRow :=
  bindingRow w.facts.candidate w.decisionIds w.grantIds w.inputs createdAt

/-- The store the finalisation leaves behind. -/
def store (w : FinalWrites) (candidateId createdAt : String) : PolicyStore :=
  PolicyStore.marked
    { PolicyStore.withGrants { w.evaluated with clock := w.clock } w.entries with
      bindings := w.evaluated.bindings ++ [w.binding createdAt]
      steps := w.evaluated.steps ++ [readyStep w.facts.candidate w.stepInputs createdAt]
      allocations := w.evaluated.allocations ++ w.outputs
      events := w.evaluated.events ++ w.events } candidateId

/-- What the finalisation returns. -/
def result (w : FinalWrites) (candidateId : String) : FinalizedAuthorityCandidate :=
  ⟨candidateId, w.facts.candidate.bindingId, w.facts.candidate.attemptId, w.grantIds,
    (written w.facts.resources).map ResourceFacts.id⟩

/-- What was checked before it was written. -/
structure Checked (w : FinalWrites) (env : PolicyEnv) (backend : LocalPolicyBackend) (before : PolicyStore)
    (candidateId createdAt : String) : Prop where
  time : checkedTime env createdAt = .ok w.now
  evaluated : EvaluatedTo env backend before w.evaluated candidateId w.now w.activation w.policy w.facts
    w.evaluation
  allowed : ∀ d ∈ w.evaluation.decisions, d.effect = .allow
  issued : List.Forall₂ (IssuedOver env w.evaluated w.facts w.evaluation w.activation createdAt)
    w.facts.resources w.entries
  bound : BoundAs env before candidateId w.facts.candidate w.decisionIds w.grantIds
  bindingNew : bindingInsertable before (w.binding createdAt) = true
  stepNew : ∀ s ∈ before.steps, s.attemptId ≠ w.facts.candidate.attemptId
  allocated : List.Forall₂ (AllocatedFor w.facts.candidate) (written w.facts.resources) w.outputs
  someOutput : written w.facts.resources ≠ []
  announced : List.Forall₂ (GrantEvent env w.facts) w.grantIds w.events
  pendingOnce : (before.statuses.filter (StatusRow.isPending candidateId)).length = 1

end FinalWrites

theorem finalizeCandidateIn_ok {env : PolicyEnv} {outside : Outside} {backend : LocalPolicyBackend}
    {time : Tasks.ProtectedTimeContext} {lease : Tasks.Lease} {store store' : PolicyStore}
    {candidateId : String} {result : FinalizedAuthorityCandidate}
    (h : finalizeCandidateIn env outside backend time lease store candidateId = .ok (store', result)) :
    ∃ w : FinalWrites, w.Checked env backend store candidateId time.now ∧
      store' = w.store candidateId time.now ∧ result = w.result candidateId := by
  simp only [finalizeCandidateIn, bind_eq_ok', exists_unit, rejectIf_ok, Prod.exists] at h
  obtain ⟨-, now, hnow, facts, hload, s1, evaluation, heval, -, s2, ids, hissue, hlen, s3, hbind, s4, hstep,
    s5, outs, hout, hsome, s6, hevents, s7, hmark, h⟩ := h
  obtain ⟨rfl, rfl⟩ := Prod.mk.inj (Except.ok.inj h)
  obtain ⟨now', activation, policy, facts', hnow', hev⟩ := evaluatePendingAuthorityCandidateIn_ok heval
  obtain rfl : now = now' := Except.ok.inj (hnow.symm.trans hnow')
  obtain rfl : facts = facts' := Except.ok.inj (hload.symm.trans hev.loaded)
  obtain ⟨now'', facts'', activation', entries, clock, hnow'', hload', hallow, hact, hrev, hissued, rfl, rfl⟩ :=
    issueCandidateGrantsIn_ok hissue
  obtain rfl : now = now'' := Except.ok.inj (hnow.symm.trans hnow'')
  have hview := hev.writes.loadView
  obtain rfl : facts = facts'' := by
    unfold CandidateFacts.load at hload'
    rw [hview] at hload'
    exact Except.ok.inj (hload.symm.trans hload')
  obtain rfl : activation = activation' := by
    have hsame : s1.activations = store.activations := by rw [hev.writes.same]
    rw [hsame] at hact
    exact Option.some.inj (hev.active.symm.trans hact)
  obtain ⟨c, inputs, hbound, hnew, rfl⟩ := insertReservedBindingIn_ok hbind
  obtain ⟨c', stepInputs, hc', hstepNew, rfl⟩ := insertReservedReadyStepIn_ok hstep
  obtain ⟨rows, hrows, rfl, rfl⟩ := allocateOutputs_ok hout
  simp only [appendCandidateGrantEventsIn, bind_eq_ok', exists_unit, rejectIf_ok] at hevents
  obtain ⟨hcounts, hevents⟩ := hevents
  obtain ⟨events, hann, rfl⟩ := appendGrantEvents_ok hevents
  obtain ⟨honce, rfl⟩ := markFinalized_ok hmark
  have hfound := (load_ok hload).reserved
  obtain rfl : c = facts.candidate := by
    have hc : s1.loadView.reservation? candidateId = some c := hbound.reserved
    rw [hview, hfound] at hc
    exact (Option.some.inj hc).symm
  obtain rfl : c' = facts.candidate := by
    have hc : s1.loadView.reservation? candidateId = some c' := hc'
    rw [hview, hfound] at hc
    exact (Option.some.inj hc).symm
  simp only [decide_eq_false_iff_not, not_not] at hlen
  have hfst : (facts.resources.zip (entries.map fun e => e.1.grantId)).map Prod.fst = facts.resources :=
    List.map_fst_zip (le_of_eq hlen.symm)
  rw [hfst] at hrows hsome ⊢
  simp only [Bool.or_eq_false_iff, decide_eq_false_iff_not, not_not] at hcounts
  have hids : (facts.resources.zip (evaluation.decisions.zip (entries.map fun e => e.1.grantId))).map
      (fun e => e.2.2) = entries.map fun e => e.1.grantId := by
    rw [show (fun e : ResourceFacts × CandidatePolicyDecision × String => e.2.2) = Prod.snd ∘ Prod.snd
      from rfl, ← List.map_map, List.map_snd_zip, List.map_snd_zip]
    · exact le_of_eq hcounts.2
    · rw [List.length_zip]
      omega
  rw [hids] at hann
  have hsame := hev.writes.same
  refine ⟨⟨now, activation, policy, facts, evaluation, s1, clock, entries, inputs, stepInputs, rows, events⟩,
    ⟨hnow, hev, hallow, hissued, hbound.congr hview, ?_, ?_, hrows, ?_, hann, ?_⟩, rfl, rfl⟩
  · have hb : s1.bindings = store.bindings := by rw [hsame]
    rw [← hnew]
    show (store.bindings.all _) = (s1.bindings.all _)
    rw [hb]
    rfl
  · have hs : s1.steps = store.steps := by rw [hsame]
    intro x hx
    exact hstepNew x (by show x ∈ s1.steps; rw [hs]; exact hx)
  · intro hnil
    rw [hnil] at hsome
    cases hsome
  · have hst : s1.statuses = store.statuses := by rw [hsame]
    rw [← hst]
    exact honce

end Aios.Policy
