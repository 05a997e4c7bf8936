/-
  File:      Aios/Tasks/Admission.lean
  Subject:   ADMISSION TO RUNNING: what a committed start has checked, and that what was checked is
             what is started.

  The steps are admitted one after the other, so a later one is checked in a store that the earlier
  ones have changed. They changed their own rows and the journal only, and no check reads either
  (`SameAuthority`); so every step was checked in the store of the beginning (`Started`).
-/
import Aios.Tasks.Execution
import Aios.Tasks.Lifecycle

namespace Aios.Tasks

open Lib Provenance

variable {ρ : Type} {env : Env (Tables ρ)} {checks : DocumentChecks ρ}

/-! ## 1. What a start leaves alone -/

/-- The stores differ in the rows of steps, the journal, the receipts and the record of time only. -/
def SameAuthority (a b : Store (Tables ρ)) : Prop :=
  b.core = { a.core with steps := b.core.steps, events := b.core.events }

namespace SameAuthority

variable {a b c : Store (Tables ρ)}

theorem of_core (h : b.core = a.core) : SameAuthority a b := by
  unfold SameAuthority
  rw [h]

theorem trans (h : SameAuthority a b) (k : SameAuthority b c) : SameAuthority a c := by
  unfold SameAuthority at *
  rw [k, h]

variable (h : SameAuthority a b)
include h

theorem programs : b.core.programs = a.core.programs := by rw [h]
theorem validations : b.core.validations = a.core.validations := by rw [h]
theorem tasks : b.core.tasks = a.core.tasks := by rw [h]
theorem bindings : b.core.bindings = a.core.bindings := by rw [h]
theorem candidates : b.core.candidates = a.core.candidates := by rw [h]
theorem grants : b.core.grants = a.core.grants := by rw [h]
theorem issuances : b.core.issuances = a.core.issuances := by rw [h]
theorem approvals : b.core.approvals = a.core.approvals := by rw [h]
theorem authorityRequests : b.core.authorityRequests = a.core.authorityRequests := by rw [h]
theorem approvalDecisions : b.core.approvalDecisions = a.core.approvalDecisions := by rw [h]
theorem other : b.core.other = a.core.other := by rw [h]

theorem activeRevision_eq (taskId : String) :
    activeRevision b.core taskId = activeRevision a.core taskId := by
  unfold activeRevision
  rw [h.tasks]

theorem activeProgram_eq (taskId hash : String) :
    activeProgram b.core taskId hash = activeProgram a.core taskId hash := by
  unfold activeProgram
  simp only [h.programs, h.activeRevision_eq]

theorem activeProgramValidationValid_eq (taskId hash : String) :
    activeProgramValidationValid env checks b taskId hash =
      activeProgramValidationValid env checks a taskId hash := by
  unfold activeProgramValidationValid
  simp only [h.activeProgram_eq, h.validations]

theorem currentProvider_eq (check : BindingGrantCheck) :
    currentProvider checks b check = currentProvider checks a check := by
  unfold currentProvider bindingEvidence bindingAdmitted hasProviderStore hasRegistryStore migrated
  simp only [h.other, h.bindings, h.activeProgram_eq]

theorem coordinatorGrantPolicyCurrent_eq (grantId : String) :
    coordinatorGrantPolicyCurrent b grantId = coordinatorGrantPolicyCurrent a grantId := by
  unfold coordinatorGrantPolicyCurrent evaluatedNow
  simp only [h.other, h.issuances, h.grants, h.candidates]

theorem grantEvidence_eq (check : BindingGrantCheck) (grantId : String) :
    grantEvidence b check grantId = grantEvidence a check grantId := by
  unfold grantEvidence
  simp only [h.other, h.grants, h.issuances, h.authorityRequests]

theorem approvalValid_eq (check : BindingGrantCheck) (instant expires : Int) (r : DurableRequest)
    (e : GrantEvidence) :
    approvalValid env b check instant expires r e = approvalValid env a check instant expires r e := by
  unfold approvalValid approvedRequest approvalHolds approvingDecisions
  simp only [h.other, h.approvals, h.authorityRequests, h.approvalDecisions]

theorem coverGrant_eq (check : BindingGrantCheck) (e : BindingEvidence) (durable : List DurableRequest)
    (grantId : String) :
    coverGrant env b check e durable grantId = coverGrant env a check e durable grantId := by
  unfold coverGrant grantCurrent
  simp only [h.other, h.coordinatorGrantPolicyCurrent_eq, h.grantEvidence_eq, h.approvalValid_eq]

theorem coverGrants_eq (check : BindingGrantCheck) (e : BindingEvidence)
    (durable : List DurableRequest) (ids : List String)
    (covered : List (DurableRequest × GrantEvidence)) :
    coverGrants env b check e durable ids covered = coverGrants env a check e durable ids covered := by
  induction ids generalizing covered with
  | nil => rfl
  | cons id rest ih => simp only [coverGrants, h.coverGrant_eq, ih]

/-- The grants of a binding are as valid as before. -/
theorem bindingGrantsValid_eq (check : BindingGrantCheck) :
    bindingGrantsValid env checks b check = bindingGrantsValid env checks a check := by
  unfold bindingGrantsValid durableRequests
  simp only [h.coverGrants_eq, h.currentProvider_eq, h.other, h.authorityRequests]

theorem outputAllocationsReady_eq (check : BindingGrantCheck) :
    outputAllocationsReady env b check = outputAllocationsReady env a check := by
  unfold outputAllocationsReady openAllocations
  simp only [h.programs, h.activeRevision_eq, h.other]

theorem inActiveProgram_eq (s : StepRow) : inActiveProgram b.core s = inActiveProgram a.core s := by
  unfold inActiveProgram
  simp only [h.programs, h.tasks]

theorem boundBinding_eq (s : StepRow) : boundBinding b.core s = boundBinding a.core s := by
  unfold boundBinding
  rw [h.bindings]

end SameAuthority

/-! ## 2. The steps that are started -/

/-- The row of a step once these attempts have been started. -/
def startAll (started : List (StepRow × BindingRow)) (admittedAt : String) (s : StepRow) : StepRow :=
  if started.any fun p => p.1 = s then startStep s.attemptId admittedAt s else s

/-- What an attempt that is started has: it is the one latest attempt of its node and READY, its
    program is validated, its binding is current and its grants are what the node declares, and its
    outputs have their allocations. -/
structure StepBacked (env : Env (Tables ρ)) (checks : DocumentChecks ρ) (store : Store (Tables ρ))
    (taskId admittedAt : String) (s : StepRow) (b : BindingRow) : Prop where
  latest : latestAttempts store.core taskId s.nodeId = [s]
  ready : s.state = .ready
  bound : boundBinding store.core s = some b
  program : ∃ p v, ProgramValidated checks store taskId s.semanticProgramHash p v
  authority : ∃ provider declared,
    BindingAuthority env checks store (bindingCheck s b admittedAt) provider declared
  outputs : ∃ expected, OutputsAllocated env store (bindingCheck s b admittedAt) expected

/-- Between the store of the beginning and this one exactly these attempts were started. -/
structure Started (env : Env (Tables ρ)) (checks : DocumentChecks ρ) (taskId admittedAt : String)
    (before after : Store (Tables ρ)) (started : List (StepRow × BindingRow)) : Prop where
  same : SameAuthority before after
  steps : after.core.steps = before.core.steps.map (startAll started admittedAt)
  backed : ∀ p ∈ started, StepBacked env checks before taskId admittedAt p.1 p.2

variable {admittedAt taskId nodeId : String} {started : List (StepRow × BindingRow)} {s : StepRow}

theorem startAll_started (h : started.any (fun p => p.1 = s) = true) :
    startAll started admittedAt s = startStep s.attemptId admittedAt s := if_pos h

theorem startAll_other
    (h : ¬started.any (fun p => p.1 = s) = true) : startAll started admittedAt s = s := if_neg h

/-- A start keeps what identifies the attempt. -/
theorem startAll_identity (started : List (StepRow × BindingRow)) (admittedAt : String) (s : StepRow) :
    (startAll started admittedAt s).taskId = s.taskId ∧
      (startAll started admittedAt s).nodeId = s.nodeId ∧
      (startAll started admittedAt s).semanticProgramHash = s.semanticProgramHash ∧
      (startAll started admittedAt s).registrySnapshotId = s.registrySnapshotId ∧
      (startAll started admittedAt s).attemptNumber = s.attemptNumber := by
  unfold startAll startStep
  split
  · split
    · exact ⟨rfl, rfl, rfl, rfl, rfl⟩
    · exact ⟨rfl, rfl, rfl, rfl, rfl⟩
  · exact ⟨rfl, rfl, rfl, rfl, rfl⟩

section Started

variable {taskId admittedAt : String} {before after : Store (Tables ρ)}
  {started : List (StepRow × BindingRow)}

/-- An attempt that was started is not READY any more. -/
theorem Started.running (h : Started env checks taskId admittedAt before after started) {s : StepRow}
    (hs : started.any (fun p => p.1 = s) = true) : (startAll started admittedAt s).state ≠ .ready := by
  obtain ⟨p, hp, e⟩ := List.any_eq_true.mp hs
  have hready := (h.backed p hp).ready
  rw [of_decide_eq_true e] at hready
  rw [startAll_started hs]
  simp [startStep, hready]

/-- The latest attempts are the same ones, started or not. -/
theorem Started.latest_map (h : Started env checks taskId admittedAt before after started)
    (nodeId : String) : latestAttempts after.core taskId nodeId =
      (latestAttempts before.core taskId nodeId).map (startAll started admittedAt) := by
  have hactive : ∀ s, inActiveProgram after.core (startAll started admittedAt s) =
      inActiveProgram before.core s := by
    intro s
    obtain ⟨htask, _, hhash, hsnapshot, _⟩ := startAll_identity started admittedAt s
    rw [h.same.inActiveProgram_eq]
    unfold inActiveProgram
    rw [htask, hhash, hsnapshot]
  have hlatest : ∀ s, isLatestAttempt after.core (startAll started admittedAt s) =
      isLatestAttempt before.core s := by
    intro s
    obtain ⟨htask, hnode, hhash, hsnapshot, hnumber⟩ := startAll_identity started admittedAt s
    unfold isLatestAttempt
    rw [h.steps, List.all_map, htask, hnode, hhash, hsnapshot, hnumber]
    congr 1
    funext other
    obtain ⟨htask', hnode', hhash', hsnapshot', hnumber'⟩ := startAll_identity started admittedAt other
    simp only [Function.comp, htask', hnode', hhash', hsnapshot', hnumber']
  unfold latestAttempts
  rw [h.steps, List.filter_map]
  congr 1
  apply List.filter_congr
  intro s _
  obtain ⟨htask, hnode, _⟩ := startAll_identity started admittedAt s
  simp only [Function.comp, htask, hnode, hactive, hlatest]

/-- A READY attempt of this store was READY in the beginning. -/
theorem Started.mem_ready (h : Started env checks taskId admittedAt before after started)
    {nodeId : String} {s : StepRow} : s ∈ readyAttempts after.core taskId nodeId ↔
      s ∈ readyAttempts before.core taskId nodeId ∧ ¬started.any (fun p => p.1 = s) = true := by
  unfold readyAttempts
  rw [h.latest_map]
  simp only [List.mem_filter, List.mem_map, decide_eq_true_eq]
  constructor
  · rintro ⟨⟨x, hx, rfl⟩, hready⟩
    by_cases hstarted : started.any (fun p => p.1 = x) = true
    · exact absurd hready (h.running hstarted)
    · rw [startAll_other hstarted] at hready ⊢
      exact ⟨⟨hx, hready⟩, hstarted⟩
  · rintro ⟨⟨hs, hready⟩, hother⟩
    exact ⟨⟨s, hs, startAll_other hother⟩, hready⟩

end Started

/-- One admitted step: checked here, started, and nothing else. -/
structure StepStarted (env : Env (Tables ρ)) (checks : DocumentChecks ρ) (taskId nodeId admittedAt : String)
    (before after : Store (Tables ρ)) (s : StepRow) (b : BindingRow) : Prop where
  latest : latestAttempts before.core taskId nodeId = [s]
  ready : s ∈ readyAttempts before.core taskId nodeId
  bound : boundBinding before.core s = some b
  authorized : activeProgramValidationValid env checks before taskId s.semanticProgramHash = .ok true ∧
    bindingGrantsValid env checks before (bindingCheck s b admittedAt) = .ok true ∧
    outputAllocationsReady env before (bindingCheck s b admittedAt) = .ok true
  alone : ∀ x ∈ before.core.steps, x.attemptId = s.attemptId → x.state = .ready → x = s
  steps : after.core.steps = before.core.steps.map (startStep s.attemptId admittedAt)
  same : SameAuthority before after

theorem stepAuthorized_ok {store : Store (Tables ρ)} {b : BindingRow}
    (h : stepAuthorized (env.overTables checks) store taskId s b admittedAt = .ok true) :
    activeProgramValidationValid env checks store taskId s.semanticProgramHash = .ok true ∧
      bindingGrantsValid env checks store (bindingCheck s b admittedAt) = .ok true ∧
      outputAllocationsReady env store (bindingCheck s b admittedAt) = .ok true := by
  unfold stepAuthorized at h
  rw [bind_eq_ok'] at h
  obtain ⟨program, hprogram, h⟩ := h
  cases program with
  | false => cases h
  | true =>
  simp only [Bool.not_true, Bool.false_eq_true, if_false, bind_eq_ok'] at h
  obtain ⟨grants, hgrants, h⟩ := h
  cases grants with
  | false => cases h
  | true => exact ⟨hprogram, hgrants, h⟩

theorem mem_latestAttempts {core : Core (Tables ρ)} (h : s ∈ latestAttempts core taskId nodeId) :
    s ∈ core.steps ∧ s.taskId = taskId ∧ s.nodeId = nodeId := by
  unfold latestAttempts at h
  simp only [List.mem_filter, Bool.and_eq_true, decide_eq_true_eq] at h
  exact ⟨h.1, h.2.1.1.1, h.2.1.1.2⟩

theorem admitStep_started {store after : Store (Tables ρ)}
    (h : admitStep (env.overTables checks) store taskId nodeId admittedAt = .ok (.admitted after)) :
    ∃ s b, StepStarted env checks taskId nodeId admittedAt store after s b := by
  unfold admitStep at h
  dsimp only at h
  split at h
  · cases h
  · split at h
    · cases h
    · next hone =>
      simp only [Bool.or_eq_true, decide_eq_true_eq, not_or, not_not] at hone
      split at h
      · cases h
      · next s b hfirst =>
        rw [bind_eq_ok'] at h
        obtain ⟨authorized, hauthorized, h⟩ := h
        cases authorized with
        | false => cases h
        | true =>
        simp only [Bool.not_true, Bool.false_eq_true, if_false] at h
        split at h
        · cases h
        · next hcount =>
          rw [bind_eq_ok'] at h
          obtain ⟨⟨appended, row⟩, happend, h⟩ := h
          have e : appended = after := StepAdmission.admitted.inj (Except.ok.inj h)
          obtain ⟨_, happended⟩ := appendEvent_ok happend
          rw [e] at happended
          -- the first bound attempt is the only READY one
          obtain ⟨x, hx, hpair⟩ := List.exists_of_findSome?_eq_some hfirst
          obtain ⟨b', hb', hpair⟩ := Option.map_eq_some_iff.mp hpair
          obtain ⟨rfl, rfl⟩ := Prod.mk.inj hpair
          have hlatest : x ∈ latestAttempts store.core taskId nodeId := (List.mem_filter.mp hx).1
          have hstate : x.state = .ready := of_decide_eq_true (List.mem_filter.mp hx).2
          obtain ⟨y, hy⟩ := List.length_eq_one_iff.mp hone.2
          have hxy : x = y := by
            rw [hy] at hlatest
            exact List.mem_singleton.mp hlatest
          refine ⟨x, b', ?_⟩
          exact {
            latest := by rw [hy, hxy]
            ready := hx
            bound := hb'
            authorized := stepAuthorized_ok hauthorized
            alone := fun z hz hid hready => by
              rw [not_not, List.countP_eq_length_filter, List.length_eq_one_iff] at hcount
              obtain ⟨w, hw⟩ := hcount
              have hmem : ∀ v ∈ store.core.steps, v.attemptId = x.attemptId → v.state = .ready →
                  v = w := by
                intro v hv hvid hvready
                have hin : v ∈ store.core.steps.filter fun row =>
                    decide (row.attemptId = x.attemptId) && decide (row.state = .ready) :=
                  List.mem_filter.mpr ⟨hv, by simp [hvid, hvready]⟩
                rw [hw] at hin
                exact List.mem_singleton.mp hin
              rw [hmem z hz hid hready, hmem x (mem_latestAttempts hlatest).1 rfl hstate]
            steps := by rw [happended]
            same := by rw [happended]; rfl }

/-- A step that was admitted after others was backed from the beginning. -/
theorem Started.snoc {before middle after : Store (Tables ρ)} {b : BindingRow}
    (h : Started env checks taskId admittedAt before middle started)
    (k : StepStarted env checks taskId nodeId admittedAt middle after s b) :
    Started env checks taskId admittedAt before after (started ++ [(s, b)]) ∧ s.nodeId = nodeId := by
  obtain ⟨hready, hnew⟩ := h.mem_ready.mp k.ready
  have hlatest : s ∈ latestAttempts before.core taskId nodeId := (List.mem_filter.mp hready).1
  have hstate : s.state = .ready := of_decide_eq_true (List.mem_filter.mp hready).2
  have hnode : s.nodeId = nodeId := (mem_latestAttempts hlatest).2.2
  have hone : latestAttempts before.core taskId nodeId = [s] := by
    have hlength := congrArg List.length (h.latest_map nodeId)
    rw [k.latest, List.length_map] at hlength
    obtain ⟨y, hy⟩ := List.length_eq_one_iff.mp hlength.symm
    rw [hy] at hlatest ⊢
    rw [List.mem_singleton.mp hlatest]
  refine ⟨⟨h.same.trans k.same, ?_, fun p hp => ?_⟩, hnode⟩
  · rw [k.steps, h.steps, List.map_map]
    apply List.map_congr_left
    intro x hx
    show startStep s.attemptId admittedAt (startAll started admittedAt x) = _
    by_cases hstarted : started.any (fun p => p.1 = x) = true
    · have hall : (started ++ [(s, b)]).any (fun p => p.1 = x) = true := by
        rw [List.any_append, hstarted, Bool.true_or]
      have hrunning := h.running hstarted
      rw [startAll_started hall, ← startAll_started hstarted]
      simp [startStep, hrunning]
    · rw [startAll_other hstarted]
      by_cases hsame : s = x
      · have hall : (started ++ [(s, b)]).any (fun p => p.1 = x) = true := by
          simp [hsame]
        rw [startAll_started hall, hsame]
      · have hall : ¬(started ++ [(s, b)]).any (fun p => p.1 = x) = true := by
          simpa [hsame] using hstarted
        rw [startAll_other hall]
        -- another READY row of this attempt would be the same row
        have hmem : x ∈ middle.core.steps := by
          rw [h.steps]
          exact List.mem_map.mpr ⟨x, hx, startAll_other hstarted⟩
        unfold startStep
        rw [if_neg]
        intro hboth
        rw [Bool.and_eq_true, decide_eq_true_eq, decide_eq_true_eq] at hboth
        exact hsame (k.alone x hmem hboth.1 hboth.2).symm
  · rcases List.mem_append.mp hp with hold | hlast
    · exact h.backed p hold
    · rw [List.mem_singleton.mp hlast]
      obtain ⟨hprogram, hgrants, houtputs⟩ := k.authorized
      rw [h.same.activeProgramValidationValid_eq] at hprogram
      rw [h.same.bindingGrantsValid_eq] at hgrants
      rw [h.same.outputAllocationsReady_eq] at houtputs
      exact {
        latest := by rw [hnode]; exact hone
        ready := hstate
        bound := by rw [← h.same.boundBinding_eq]; exact k.bound
        program := activeProgramValidationValid_sound hprogram
        authority := bindingGrantsValid_sound hgrants
        outputs := outputAllocationsReady_sound houtputs }

/-- Every READY attempt of these nodes is among the started ones. -/
def Covers (core : Core (Tables ρ)) (taskId : String) (nodes : List String)
    (started : List (StepRow × BindingRow)) : Prop :=
  ∀ nodeId ∈ nodes, ∀ s ∈ readyAttempts core taskId nodeId, started.any (fun p => p.1 = s) = true

theorem Covers.grow {core : Core (Tables ρ)} {nodes : List String}
    {started more : List (StepRow × BindingRow)} (h : Covers core taskId nodes started) :
    Covers core taskId nodes (started ++ more) := by
  intro nodeId hnode s hs
  rw [List.any_append, h nodeId hnode s hs, Bool.true_or]

theorem admitStep_skipped {store : Store (Tables ρ)}
    (h : admitStep (env.overTables checks) store taskId nodeId admittedAt = .ok .skipped) :
    readyAttempts store.core taskId nodeId = [] := by
  unfold admitStep at h
  dsimp only at h
  split at h
  · next hempty => exact List.isEmpty_iff.mp hempty
  · split at h
    · cases h
    · split at h
      · cases h
      · rw [bind_eq_ok'] at h
        obtain ⟨authorized, _, h⟩ := h
        split at h
        · cases h
        · split at h
          · cases h
          · rw [bind_eq_ok'] at h
            obtain ⟨appended, _, h⟩ := h
            cases h

/-- The loop: what was READY is started, what was started is backed. -/
theorem admitSteps_started {nodes done : List String}
    {before middle after : Store (Tables ρ)} {count : Nat}
    (hstarted : Started env checks taskId admittedAt before middle started)
    (hnodes : ∀ p ∈ started, p.1.nodeId ∈ done) (hcovers : Covers before.core taskId done started)
    (h : admitSteps (env.overTables checks) taskId admittedAt nodes middle started.length =
      .ok (some (after, count))) :
    ∃ all, Started env checks taskId admittedAt before after all ∧ all.length = count ∧
      (∀ p ∈ all, p.1.nodeId ∈ done ++ nodes) ∧ Covers before.core taskId (done ++ nodes) all := by
  induction nodes generalizing middle started done with
  | nil =>
      obtain ⟨rfl, rfl⟩ := Prod.mk.inj (Option.some.inj (Except.ok.inj h))
      exact ⟨started, hstarted, rfl, by simpa using hnodes, by simpa using hcovers⟩
  | cons nodeId rest ih =>
      rw [admitSteps, bind_eq_ok'] at h
      obtain ⟨admission, hadmission, h⟩ := h
      cases admission with
      | refused => cases h
      | skipped =>
          have hnone := admitStep_skipped hadmission
          have hstep : Covers before.core taskId (done ++ [nodeId]) started := by
            intro n hn s hs
            rcases List.mem_append.mp hn with hold | hlast
            · exact hcovers n hold s hs
            · rw [List.mem_singleton.mp hlast] at hs
              by_contra hnew
              have hmem := hstarted.mem_ready.mpr ⟨hs, hnew⟩
              rw [hnone] at hmem
              cases hmem
          obtain ⟨all, hall⟩ := ih hstarted
            (fun p hp => List.mem_append_left _ (hnodes p hp)) hstep h
          rw [List.append_assoc] at hall
          exact ⟨all, hall⟩
      | admitted next =>
          obtain ⟨s, b, hs⟩ := admitStep_started hadmission
          obtain ⟨hnext, hnode⟩ := hstarted.snoc hs
          have hstep : Covers before.core taskId (done ++ [nodeId]) (started ++ [(s, b)]) := by
            intro n hn x hx
            rcases List.mem_append.mp hn with hold | hlast
            · exact hcovers.grow n hold x hx
            · rw [List.mem_singleton.mp hlast, ← hnode] at hx
              have hlatest := (List.mem_filter.mp hx).1
              rw [(hnext.backed (s, b) (by simp)).latest] at hlatest
              simp [List.mem_singleton.mp hlatest]
          obtain ⟨all, hall⟩ := ih hnext
            (fun p hp => by
              rcases List.mem_append.mp hp with hold | hlast
              · exact List.mem_append_left _ (hnodes p hold)
              · rw [List.mem_singleton.mp hlast, hnode]
                exact List.mem_append_right _ List.mem_cons_self)
            hstep (by rw [List.length_append]; exact h)
          rw [List.append_assoc] at hall
          exact ⟨all, hall⟩

/-! ## 3. The transaction of a transition -/

section Transaction

variable {σ : Type} {env : Env σ} {store after : Store σ} {call : Call} {task : TaskRow}
  {requestJson resultedAt : String} {locked : Option LockedTimeObservation} {result : TransitionResult}

/-- The rows of the steps, the grants and the other tables are as before. -/
structure WorkKept (before after : Store σ) : Prop where
  steps : after.core.steps = before.core.steps
  grants : after.core.grants = before.core.grants
  other : after.core.other = before.core.other

theorem WorkKept.trans {a b c : Store σ} (h : WorkKept a b) (k : WorkKept b c) : WorkKept a c :=
  ⟨k.steps.trans h.steps, k.grants.trans h.grants, k.other.trans h.other⟩

theorem WorkKept.of_core {a b : Store σ} (h : b.core = a.core) : WorkKept a b := by
  constructor <;> rw [h]

theorem persistAdmission_kept {program : Option Nat}
    (h : persistAdmission env store call task resultedAt = .ok (after, program)) :
    WorkKept store after := by
  unfold persistAdmission at h
  split at h
  · have e : store = after := congrArg Prod.fst (Except.ok.inj h)
    exact .of_core (by rw [e])
  · rw [bind_eq_ok'] at h
    obtain ⟨stored, hpersist, h⟩ := h
    have e : stored = after := congrArg Prod.fst (Except.ok.inj h)
    unfold persistInitialProgramAdmissionIn at hpersist
    simp only [bind_eq_ok', exists_unit, rejectIf_ok, expect_ok] at hpersist
    obtain ⟨_, _, _, _, _, _, _, _, _, _, hpersist⟩ := hpersist
    rw [← e, ← Except.ok.inj hpersist]
    exact ⟨rfl, rfl, rfl⟩

theorem activatePlan_kept {taskId : String} {plan : Option ActivePlan}
    (h : activatePlan store taskId plan = .ok after) : WorkKept store after := by
  cases plan with
  | none => exact .of_core (by rw [Except.ok.inj h])
  | some plan =>
      unfold activatePlan at h
      simp only [bind_eq_ok', exists_unit, rejectIf_ok, expect_ok] at h
      obtain ⟨_, _, _, _, h⟩ := h
      rw [← Except.ok.inj h]
      exact ⟨rfl, rfl, rfl⟩

/-- A transition that is no cancellation writes the Task, the journal and the receipt only. -/
theorem applyTransition_kept (hto : call.request.toState ≠ .cancelled)
    (h : applyTransition env store call task requestJson resultedAt locked =
      .ok (.committed after result)) : WorkKept store after := by
  unfold applyTransition at h
  simp only [bind_eq_ok', exists_unit] at h
  obtain ⟨⟨admitted, active⟩, hadmission, _, _, _, ⟨appended, row⟩, happend, h⟩ := h
  have hadmitted := persistAdmission_kept hadmission
  obtain ⟨_, happended⟩ := appendEvent_ok happend
  have happended : WorkKept admitted appended := by
    rw [happended]
    exact ⟨rfl, rfl, rfl⟩
  unfold finishTransition at h
  rw [unit_bind_eq_ok] at h
  obtain ⟨_, h⟩ := h
  split at h
  · cases h
  · next current _ =>
    dsimp only at h
    rw [if_neg hto] at h
    simp only [bind_eq_ok'] at h
    obtain ⟨planned, hplan, received, hreceipt, timed, htimed, h⟩ := h
    obtain ⟨_, hset⟩ := insertReceipt_ok hreceipt
    have e : timed = after := (Ending.committed.inj (Except.ok.inj h)).1
    have hplanned := activatePlan_kept hplan
    have hmoved : WorkKept appended planned := ⟨hplanned.steps, hplanned.grants, hplanned.other⟩
    have hended : WorkKept planned after := by
      refine .of_core ?_
      rw [← e, (latched_recordLocked htimed).1.core, hset, Store.core_setReceipt]
    exact ((hadmitted.trans happended).trans hmoved).trans hended

theorem commitRejection_core {code : String} {observed : Option (TaskState × Nat)}
    (h : commitRejection env store call.request requestJson code observed resultedAt locked =
      .ok (.committed after result)) : after.core = store.core := by
  unfold commitRejection persistRejection at h
  dsimp only at h
  simp only [bind_eq_ok'] at h
  obtain ⟨persisted, hpersisted, timed, htimed, h⟩ := h
  obtain ⟨_, hset⟩ := insertReceipt_ok hpersisted
  rw [← (Ending.committed.inj (Except.ok.inj h)).1, (latched_recordLocked htimed).1.core, hset,
    Store.core_setReceipt]

theorem rejection_guard (h : rejection env store call task resultedAt = .ok none) :
    guardFailure env store call.request task resultedAt call.internalRecovery = .ok none := by
  unfold rejection at h
  dsimp only at h
  split at h
  · cases h
  · split at h
    · cases h
    · split at h
      · cases h
      · split at h
        · cases h
        · exact h

/-- The transition passed its guard, and a start its gate, before it was applied. -/
structure Passed (env : Env σ) (call : Call) (store after : Store σ) (task : TaskRow)
    (requestJson resultedAt : String) (locked : Option LockedTimeObservation)
    (result : TransitionResult) : Prop where
  found : store.task? call.request.taskId = some task
  guarded : ∃ f, GuardPassed env store call.request task resultedAt call.internalRecovery f
  gated : ∃ gated, applyTransition env gated call task requestJson resultedAt locked =
      .ok (.committed after result) ∧
    if call.request.toState = .running then
      startGate env store call task resultedAt locked = .ok (.passed gated)
    else gated = store

/-- **A transaction that commits left the record of the Tasks alone, or passed guard and gate.** -/
theorem transition_passed
    (h : transition env store call requestJson resultedAt locked = .ok (.committed after result)) :
    after.core = store.core ∨
      ∃ task, Passed env call store after task requestJson resultedAt locked result := by
  unfold transition at h
  rw [unit_bind_eq_ok] at h
  obtain ⟨_, h⟩ := h
  split at h
  · unfold replay at h
    split at h
    · rw [bind_eq_ok'] at h
      obtain ⟨_, _, h⟩ := h
      cases h
    · cases h
  · split at h
    · exact .inl (commitRejection_core h)
    · next task hfound =>
      unfold transitionTask at h
      rw [bind_eq_ok'] at h
      obtain ⟨rejected?, hrejection, h⟩ := h
      cases rejected? with
      | some code => exact .inl (commitRejection_core h)
      | none =>
          dsimp only at h
          rw [unit_bind_eq_ok] at h
          obtain ⟨_, h⟩ := h
          have hguard := guardFailure_none (rejection_guard hrejection)
          split at h
          · next hrunning =>
            rw [bind_eq_ok'] at h
            obtain ⟨gate, hgate, h⟩ := h
            cases gate with
            | passed started =>
                exact .inr ⟨task, hfound, hguard, started, h, by rw [if_pos hrunning]; exact hgate⟩
            | denied checked =>
                have hkept : Latched store checked := startGate_ok hgate
                exact .inl ((commitRejection_core h).trans hkept.core)
            | refused => cases h
          · next hother => exact .inr ⟨task, hfound, hguard, store, h, by rw [if_neg hother]⟩

/-- The time a start works with is the locked one. -/
def LockedTime (env : Env σ) (reading : Reading) (store : Store σ) (now : String) : Prop :=
  ∃ fresh, lockedStart env reading store = .ok fresh ∧ fresh.requireTrustedTime env.time = .ok now

/-- The record of the Tasks is as before, or the transition passed guard and gate. -/
def Accounted (env : Env σ) (call : Call) (reading : Reading) (store after : Store σ) : Prop :=
  after.core = store.core ∨ ∃ requestJson now locked task result,
    (call.request.toState = .running → LockedTime env reading store now) ∧
    Passed env call store after task requestJson now locked result

theorem accounted_afterMain {reading : Reading} {fault : Option Fault} {now : String}
    (htime : call.request.toState = .running → LockedTime env reading store now) :
    Accounted env call reading store (afterMain store requestJson now locked
      (faulty fault (transition env store call requestJson now locked))).1 := by
  unfold afterMain
  split
  · exact .inl rfl
  · next after result hcommitted =>
    rcases transition_passed (faulty_ok hcommitted) with hcore | ⟨task, hpassed⟩
    · exact .inl hcore
    · exact .inr ⟨requestJson, now, locked, task, result, htime, hpassed⟩
  · exact .inl rfl
  · exact .inl rfl

theorem accounted_mainPhase (reading : Reading) (fault : Option Fault) :
    Accounted env call reading store
      (mainPhase env call reading fault store requestJson resultedAt).1 := by
  unfold mainPhase
  split
  · exact .inl rfl
  · split
    · cases hfresh : lockedStart env reading store with
      | error e => exact .inl rfl
      | ok fresh =>
          dsimp only
          unfold lockedMain
          split
          · exact .inl rfl
          · next now hnow => exact accounted_afterMain fun _ => ⟨fresh, hfresh, hnow⟩
    · next hother => exact accounted_afterMain fun e => absurd e hother

/-- **A phase of a call leaves the record of the Tasks alone, or its transition passed guard and
    gate.** -/
theorem advance_passed (env : Env σ) (call : Call) (reading : Reading) (fault : Option Fault)
    (store : Store σ) (phase : Phase) :
    Accounted env call reading store (advance env call reading fault store phase).1 := by
  cases phase with
  | start => exact .inl rfl
  | assess =>
      left
      show (assessPhase _ call reading fault store).1.core = _
      unfold assessPhase
      split <;> rfl
  | observe sample next =>
      left
      show (observePhase _ fault store sample next).1.core = _
      unfold observePhase
      split <;> rfl
  | reject requestJson resultedAt rejection =>
      left
      show (rejectPhase call fault store requestJson resultedAt rejection).1.core = _
      unfold rejectPhase
      split
      · rfl
      · next persisted hpersisted =>
        have hbody := faulty_ok hpersisted
        rw [unit_bind_eq_ok] at hbody
        obtain ⟨_, hset⟩ := insertReceipt_ok hbody.2
        rw [hset]
        rfl
  | done outcome => exact .inl rfl
  | main requestJson resultedAt => exact accounted_mainPhase reading fault

end Transaction

/-! ## 4. A start that is committed -/

/-- The plan that is active after the transition. -/
def plannedRevision (request : TransitionRequest) (task : TaskRow) : Option Nat :=
  (request.mutation.activePlan.map ActivePlan.revision).or task.activePlanRevision

/-- The active program was made from the plan, and neither has been superseded. -/
structure Coherent (core : Core (Tables ρ)) (request : TransitionRequest) (task : TaskRow)
    (r : PlanRow) (p : ProgramRow) : Prop where
  program : p ∈ core.programs ∧ p.taskId = request.taskId ∧
    task.activeProgramRevision = some p.programRevision ∧ p.supersededAt = none
  plan : r ∈ core.plans ∧ r.taskId = request.taskId ∧
    plannedRevision request task = some r.planRevision ∧ r.supersededAt = none
  made : p.createdFromPlanRevision = some r.planRevision

/-- What a start that is committed has found, and what it did. -/
structure StartAdmitted (env : Env (Tables ρ)) (checks : DocumentChecks ρ) (request : TransitionRequest)
    (before after : Store (Tables ρ)) (task : TaskRow) (now : String)
    (started : List (StepRow × BindingRow)) : Prop where
  found : before.task? request.taskId = some task
  program : ∃ hash p v, activeProgramHash before.core request.taskId task.activeProgramRevision =
    some hash ∧ ProgramValidated checks before request.taskId hash p v
  plan : ∃ plan program, Coherent before.core request task plan program
  /-- The only blockers left are approvals, and none of them is pending. -/
  waiting : ∀ item, item ∈ request.mutation.waitingOn.getD task.waitingOn ∨ item ∈ task.waitingOn →
    item.kind = .approval
  approvals : ∃ instant, env.journal.rfc3339 now = some instant ∧
    scopedPendingApprovals before.core request.taskId task.activeStepIds env.journal.rfc3339 instant = []
  execution : unresolvedExecutionCount checks before request.taskId = .ok 0
  /-- There was a READY step, and every READY step was started. -/
  ready : started ≠ [] ∧ Covers before.core request.taskId task.activeStepIds started
  backed : ∀ p ∈ started, p.1.nodeId ∈ task.activeStepIds ∧
    StepBacked env checks before request.taskId now p.1 p.2
  steps : after.core.steps = before.core.steps.map (startAll started now)
  kept : after.core.grants = before.core.grants ∧ after.core.other = before.core.other

section Start

variable {store after : Store (Tables ρ)} {call : Call} {task : TaskRow} {requestJson now : String}
  {locked : Option LockedTimeObservation} {result : TransitionResult}

theorem startGate_started {gated : Store (Tables ρ)}
    (h : startGate (env.overTables checks) store call task now locked = .ok (.passed gated)) :
    ∃ started, Started env checks call.request.taskId now store gated started ∧ started ≠ [] ∧
      (∀ p ∈ started, p.1.nodeId ∈ task.activeStepIds) ∧
      Covers store.core call.request.taskId task.activeStepIds started := by
  unfold startGate at h
  simp only [bind_eq_ok'] at h
  obtain ⟨fresh, _, ⟨clock, time⟩, hcontext, ⟨checked, valid⟩, hgrants, h⟩ := h
  have hlatched : Latched store checked :=
    (latched_clock (observed_commitContextIn hcontext)).trans (latched_readyCoordinatorGrants hgrants)
  dsimp only at h
  split at h
  · cases h
  · rw [bind_eq_ok'] at h
    obtain ⟨admitted, hadmitted, h⟩ := h
    cases admitted with
    | none => cases h
    | some started =>
        have e : started = gated := StartGate.passed.inj (Except.ok.inj h)
        subst e
        unfold admitActiveSteps at hadmitted
        split at hadmitted
        · cases hadmitted
        · rw [bind_eq_ok'] at hadmitted
          obtain ⟨ended, hended, hadmitted⟩ := hadmitted
          obtain ⟨⟨last, count⟩, hlast, rfl⟩ := Option.map_eq_some_iff.mp (Except.ok.inj hadmitted)
          obtain ⟨hsome, hcount⟩ := Option.filter_eq_some_iff.mp hlast
          rw [hsome] at hended
          -- the gate itself changed the record of time only
          have hbegin : Started env checks call.request.taskId now store checked [] :=
            ⟨.of_core hlatched.core, by rw [hlatched.core]; exact (List.map_id _).symm,
              fun p hp => by cases hp⟩
          obtain ⟨all, hall, hlength, hnodes, hcovers⟩ := admitSteps_started hbegin
            (fun p hp => by cases hp)
            (show Covers store.core call.request.taskId [] [] from fun n hn => by cases hn) hended
          refine ⟨all, hall, fun hnil => ?_, hnodes, hcovers⟩
          rw [hnil] at hlength
          have hpositive : 0 < count := of_decide_eq_true hcount
          have hzero : 0 = count := hlength
          omega

theorem coherent_of (hfound : store.task? call.request.taskId = some task)
    (h : planProgramCoherent store call.request.taskId task.activeProgramRevision
      call.request.mutation.activePlan = .ok true) :
    ∃ plan program, Coherent store.core call.request task plan program := by
  have hmade : ∀ revision planRevision planId, task.activeProgramRevision = some revision →
      plannedRevision call.request task = some planRevision →
      programFromPlan store.core call.request.taskId revision planRevision planId = true →
      ∃ plan program, Coherent store.core call.request task plan program := by
    intro revision planRevision planId hactive hplanned hprogram
    simp only [programFromPlan, Bool.and_eq_true, List.any_eq_true, decide_eq_true_eq,
      Option.isNone_iff_eq_none] at hprogram
    obtain ⟨⟨p, hp, ⟨⟨hptask, hrevision⟩, hfrom⟩, hpkept⟩, r, hr, ⟨⟨hrtask, hplan⟩, _⟩, hrkept⟩ := hprogram
    exact ⟨r, p, ⟨hp, hptask, by rw [hrevision]; exact hactive, hpkept⟩,
      ⟨hr, hrtask, by rw [hplan]; exact hplanned, hrkept⟩, by rw [hplan]; exact hfrom⟩
  unfold planProgramCoherent at h
  split at h
  · cases h
  · next revision plan hactive hproposed =>
    rw [unit_bind_eq_ok] at h
    exact hmade revision plan.revision _ hactive (by unfold plannedRevision; rw [hproposed]; rfl)
      (Except.ok.inj h.2)
  · next revision hactive hproposed =>
    have h := Except.ok.inj h
    rw [hfound] at h
    simp only [Option.any_some, Bool.and_eq_true, decide_eq_true_eq, Option.any_eq_true] at h
    obtain ⟨_, planRevision, hplan, hprogram⟩ := h
    exact hmade revision planRevision none hactive
      (by unfold plannedRevision; rw [hproposed, hplan]; rfl) hprogram

/-- What the facts of the guard stand for. -/
structure FactsOf (env : Env (Tables ρ)) (checks : DocumentChecks ρ) (store : Store (Tables ρ))
    (request : TransitionRequest) (task : TaskRow) (now : String) (f : GuardFacts) : Prop where
  program : f.validProgram = true → ∃ hash p v,
    activeProgramHash store.core request.taskId task.activeProgramRevision = some hash ∧
      ProgramValidated checks store request.taskId hash p v
  waiting : f.waiting = request.mutation.waitingOn.getD task.waitingOn ∧
    f.durableWaiting = task.waitingOn
  steps : f.activeSteps = task.activeStepIds
  approvals : ∃ instant, env.journal.rfc3339 now = some instant ∧ f.pendingApprovals =
    scopedPendingApprovals store.core request.taskId task.activeStepIds env.journal.rfc3339 instant
  execution : unresolvedExecutionCount checks store request.taskId = .ok f.unknownOperations

theorem factsOf_guard {f : GuardFacts} (hto : call.request.toState ≠ .waitingForAuth)
    (h : guardFacts (env.overTables checks) store call.request task now = .ok f) :
    FactsOf env checks store call.request task now f := by
  unfold guardFacts at h
  simp only [bind_eq_ok', expect_ok] at h
  obtain ⟨valid, hprogram, bound, _, instant, hinstant, unknown, hunknown, h⟩ := h
  have e := (Except.ok.inj h).symm
  subst e
  refine ⟨fun hvalid => ?_, ⟨rfl, rfl⟩, rfl, ⟨instant, hinstant, ?_⟩, hunknown⟩
  · have hvalid : valid = true := hvalid
    rw [hvalid] at hprogram
    unfold hashValidated at hprogram
    split at hprogram
    · cases hprogram
    · next hash hhash =>
      obtain ⟨p, v, hp⟩ := activeProgramValidationValid_sound hprogram
      exact ⟨hash, p, v, hhash, hp⟩
  · dsimp only
    rw [if_neg hto]
    rfl

/-- Where no approval is pending, a blocker that does not count is an approval. -/
theorem GuardFacts.idle {f : GuardFacts} {item : WaitingOn} (h : ¬f.effective item = true) :
    item.kind = .approval := by
  simp only [GuardFacts.effective, Bool.or_eq_true, decide_eq_true_eq, not_or, not_not] at h
  exact h.1

/-- What the guard of a start has found. -/
theorem startGuard_found {f : GuardFacts} (hrunning : call.request.toState = .running)
    (h : GuardPassed (env.overTables checks) store call.request task now call.internalRecovery f) :
    (∃ hash p v, activeProgramHash store.core call.request.taskId task.activeProgramRevision =
        some hash ∧ ProgramValidated checks store call.request.taskId hash p v) ∧
      (∀ item, item ∈ call.request.mutation.waitingOn.getD task.waitingOn ∨ item ∈ task.waitingOn →
        item.kind = .approval) ∧
      (∃ instant, env.journal.rfc3339 now = some instant ∧ scopedPendingApprovals store.core
        call.request.taskId task.activeStepIds env.journal.rfc3339 instant = []) ∧
      unresolvedExecutionCount checks store call.request.taskId = .ok 0 := by
  have hfacts := factsOf_guard (by rw [hrunning]; decide) h.facts
  have hresolved : f.unknownOperations = 0 := h.resolved (by rw [hrunning]; decide)
  have htarget := h.target
  unfold targetGuard at htarget
  rw [hrunning] at htarget
  have hopen : (blocked f || f.boundReadySteps = 0) = false := by
    rw [← Bool.not_eq_true]
    intro hbad
    dsimp only at htarget
    rw [if_pos hbad] at htarget
    cases htarget
  simp only [blocked, Bool.or_eq_false_iff, Bool.not_eq_false', List.any_eq_false,
    decide_eq_true_eq, not_not] at hopen
  obtain ⟨⟨⟨⟨⟨hvalid, _⟩, hwaiting⟩, hpending⟩, hdurable⟩, _⟩ := hopen
  obtain ⟨instant, hinstant, happrovals⟩ := hfacts.approvals
  refine ⟨hfacts.program hvalid, fun item hitem => ?_, ⟨instant, hinstant, ?_⟩, ?_⟩
  · rw [← hfacts.waiting.1, ← hfacts.waiting.2] at hitem
    rcases hitem with hproposed | hstored
    · exact GuardFacts.idle (hwaiting item hproposed)
    · exact hdurable item hstored
  · rw [← happrovals]
    exact List.isEmpty_iff.mp hpending
  · rw [← hresolved]
    exact hfacts.execution

theorem startAdmitted_of (hrunning : call.request.toState = .running)
    (h : Passed (env.overTables checks) call store after task requestJson now locked result) :
    ∃ started, StartAdmitted env checks call.request store after task now started := by
  obtain ⟨f, hguard⟩ := h.guarded
  obtain ⟨gated, happlied, hgate⟩ := h.gated
  rw [if_pos hrunning] at hgate
  obtain ⟨started, hstarted, hnonempty, hnodes, hcovers⟩ := startGate_started hgate
  obtain ⟨hprogram, hwaiting, happrovals, hexecution⟩ := startGuard_found hrunning hguard
  have hkept := applyTransition_kept (by rw [hrunning]; decide) happlied
  have hcoherent := hguard.coherent
  unfold coherenceGuard at hcoherent
  rw [if_pos (by rw [hrunning]; simp [executionTarget])] at hcoherent
  refine ⟨started, ?_⟩
  exact {
    found := h.found
    program := hprogram
    plan := coherent_of h.found hcoherent
    waiting := hwaiting
    approvals := happrovals
    execution := hexecution
    ready := ⟨hnonempty, hcovers⟩
    backed := fun p hp => ⟨hnodes p hp, hstarted.backed p hp⟩
    steps := hkept.steps.trans hstarted.steps
    kept := ⟨hkept.grants.trans hstarted.same.grants, hkept.other.trans hstarted.same.other⟩ }

end Start

/-- **A start is all or nothing, and fully backed.** Whatever a phase of a call to RUNNING does, it
    leaves the record of the Tasks as it was, or it starts every READY step of the Task, each of them
    with the authority and the outputs its node declares at the locked time. -/
theorem running_fully_backed (env : Env (Tables ρ)) (checks : DocumentChecks ρ) (call : Call)
    (reading : Reading) (fault : Option Fault) (store : Store (Tables ρ)) (phase : Phase)
    (hrunning : call.request.toState = .running) :
    (advance (env.overTables checks) call reading fault store phase).1.core = store.core ∨
      ∃ fresh now task started, lockedStart (env.overTables checks) reading store = .ok fresh ∧
        fresh.requireTrustedTime env.time = .ok now ∧
        StartAdmitted env checks call.request store
          (advance (env.overTables checks) call reading fault store phase).1 task now started := by
  rcases advance_passed (env.overTables checks) call reading fault store phase with hcore |
    ⟨requestJson, now, locked, task, result, htime, hpassed⟩
  · exact .inl hcore
  · obtain ⟨fresh, hfresh, hnow⟩ := htime hrunning
    obtain ⟨started, hadmitted⟩ := startAdmitted_of hrunning hpassed
    exact .inr ⟨fresh, now, task, started, hfresh, hnow, hadmitted⟩

/-! ## 5. A start with one grant -/

def programDoc : Json := .obj [("nodes", .arr [.obj [
  ("id", .str "n"),
  ("operation", .obj [("capability", .str "c")]),
  ("authority_requests", .arr [.obj [("action", .str "read"), ("resource", .str "in")]]),
  ("outputs", .obj [("out", .str "Text")])]])]

def validationDoc : Json := .obj [
  ("valid", .bool true),
  ("program_id", .str "q"),
  ("ir_version", .str "0.1"),
  ("semantic_hash", .str programHash),
  ("semantic_hash_profile", .str "aios-ir-v0.1"),
  ("registry_snapshot_id", .str "s"),
  ("validator", .obj [("id", .str "v"), ("version", .str "1")]),
  ("validated_at", .str noon)]

def grantedDoc : Json := .arr [.obj [("action", .str "read"), ("resource_kind", .str "file"),
  ("resource_id", .str "f"), ("semantic_selector", .str "in")]]

/-- The end of the grant, 100 nanoseconds after noon. -/
def grantEnd : String := "2026-09-19T12:00:00.000000100Z"

/-- Surroundings that know these documents. -/
def tableEnv : Env (Tables Unit) where
  journal := { deniedEnv.journal with
    rfc3339 := fun text =>
      if text = noon then some 1789819200000000000
      else if text = grantEnd then some 1789819200000000100 else none }
  parseJson := fun text => if text = "program" then some programDoc
    else if text = "validation" then some validationDoc
    else if text = "granted" then some grantedDoc else none
  printJson := plainText
  formatNanos := fun _ => some noon
  reads := idleReads

/-- Documents that are judged good. -/
def goodDocuments : DocumentChecks Unit where
  validationSchema := fun _ => true
  recomputeSemanticHash := fun _ => some programHash
  latestConformanceEvidenceId := fun _ _ _ _ => .ok (some "e")
  receiptMatches := fun _ _ _ => true
  verifiedProviderAdmission := fun _ _ _ => .ok true
  conformanceValid := fun _ _ _ _ => .ok true
  committedPublicationValid := fun _ _ _ => .ok true
  unresolvedProviderInvocationIds := fun _ _ => .ok []
  unresolvedCredentialUseIds := fun _ _ => .ok []
  activeInvocations := fun _ _ => 0
  activeCredentialUses := fun _ _ => 0
  recoveryAllowsExit := fun _ _ => .ok true
  validateInitialProgram := fun _ _ _ => .error (.invalidRecord "initial program is not valid")

/-- One binding with its provider, its one request, its one decision and its one output. -/
def grantedTables : Tables Unit where
  migrations := []
  stepColumns := []
  operations := []
  bindingColumns := [⟨"b", "0.1", "c", some "h", some "g1", some "m", some "k1", 1, ["d"], "x", "", "",
    noon⟩]
  registrations := [⟨"g1", "r", "1", some "m", "k1", some "s", "registered", "locally-trusted", none⟩]
  conformance := [⟨"e", "g1", "c", some "h", none, none, "pass", "", none⟩]
  snapshots := [⟨"s", ""⟩]
  admittedSnapshots := []
  admissionMarkers := []
  enablementMarkers := []
  epochs := []
  requestColumns := [⟨"q1", "c", "provider", "r", some "b", some "a", "read", "file", "f", some "in"⟩]
  policyDecisions := [⟨"d", "q1", "t", programHash, "n", "provider", "r", "read", "file", "f", .allow,
    "y", none⟩]
  grantColumns := [⟨"g", programHash, "n", "c", "provider", "r", "y", "granted", "ONE_SHOT", some 1, 0,
    false, 0⟩]
  approvalColumns := []
  approvalDecisionColumns := []
  approvalBindings := []
  candidateColumns := [⟨"c", "n"⟩]
  fingerprints := [⟨"d", "c", 1⟩]
  activations := [1]
  allocations := [⟨"l", "t", programHash, "n", some "b", some "a", some "out", some "Text", none, none,
    "public", "standard", .allocated, none, none, grantEnd⟩]
  publications := []
  artifacts := []
  blobs := []
  taskArtifacts := []
  rest := ()

/-- The Task waits to be started. -/
def runnableRow : TaskRow :=
  ⟨3, .runnable, none, ⟨"user", "u"⟩, none, "copy", none, List.replicate 32 7, some 1, some 1, ["n"], [],
    none, none, none, noon, noon, none⟩

/-- The transition that made it runnable. -/
def runnableEvent : Json :=
  transitionEvent textDigest (List.replicate 32 7) ⟨"0.1", "b", "t", 2, .planning, .runnable,
    ⟨"system-service", "c"⟩, ⟨"GO", none, []⟩, TaskMutation.default⟩ 2 .planning none noon

def runnableEventRow : EventRow :=
  eventRow ((streamId textDigest "t").toOption.getD "") "t" "e3" noon "task.transitioned" 3 (some programHash) programHash
    runnableEvent runnableEvent

def grantedStore : Store (Tables Unit) where
  core := { (Store.empty deniedLease deniedClock grantedTables).core with
    tasks := (∅ : Std.ExtTreeMap String TaskRow).insert "t" runnableRow
    events := [runnableEventRow]
    steps := [⟨"a", "t", programHash, some "s", "n", some "b", 1, 1, .ready, none, noon⟩]
    plans := [⟨"t", 1, "p", "", noon, none⟩]
    programs := [⟨"t", 1, "q", "0.1", some programHash, some "s", some "v1", "active", "program", some 1,
      noon, none⟩]
    validations := [⟨"v1", "t", "q", "0.1", true, programHash, "s", "v", "1", none, "validation", noon⟩]
    bindings := [⟨"b", "a", "t", programHash, "s", "n", "r", "1", ["g"]⟩]
    candidates := [⟨"c", "t", programHash, "b", "a", .finalized⟩]
    grants := [⟨"g", some "k", "t", some "b", some "a", "d", none, .active, noon, grantEnd, none, none⟩]
    issuances := [⟨"g", "k", "t", "b", "a", "d", noon, "coordinator-issued-v0.1"⟩]
    deadlines := [⟨"g", "k", "t", "b", "a", "d", noon, grantEnd, 1789819200000000100, none, none, none,
      none, none, none, "o", "o", 1, 1, 10, 110, 1789819200000000000, 1789819200000000000,
      1789819200000000100⟩]
    authorityRequests := [⟨"q1", "t", programHash, "s", "n"⟩] }
  receipts := ∅
  clock := deniedClock

def grantedCall : Call :=
  (moveEntry "x" 3 .runnable .running).call textDigest deniedLease

/-- The main transaction of the start. -/
def grantedStart : Store (Tables Unit) × Phase :=
  advance (tableEnv.overTables goodDocuments) grantedCall deniedReading none grantedStore
    (.main "start" noon)

/-- A prepared step is started, with its one grant and its one output. -/
theorem granted_start_backed : grantedStart.1.core ≠ grantedStore.core ∧
    ∃ fresh now task started, lockedStart (tableEnv.overTables goodDocuments) deniedReading grantedStore =
        .ok fresh ∧
      fresh.requireTrustedTime tableEnv.time = .ok now ∧
      StartAdmitted tableEnv goodDocuments grantedCall.request grantedStore grantedStart.1 task now
        started := by
  have hstates : (grantedStart.1.task? "t").map TaskRow.state = some .running ∧
      (grantedStore.task? "t").map TaskRow.state = some .runnable := by decide +kernel
  have hmoved : grantedStart.1.core ≠ grantedStore.core := by
    intro e
    unfold Store.task? at hstates
    rw [e, hstates.2] at hstates
    exact absurd hstates.1 (by decide)
  refine ⟨hmoved, ?_⟩
  rcases running_fully_backed tableEnv goodDocuments grantedCall deniedReading none grantedStore
    (.main "start" noon) rfl with hcore | hbacked
  · exact absurd hcore hmoved
  · exact hbacked

end Aios.Tasks
