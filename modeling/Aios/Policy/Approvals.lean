/-
  File:      Aios/Policy/Approvals.lean
  Subject:   THE ANSWER OF A USER: given once, and withdrawn for good.

  An evaluation asks, and what it asks for is pending; the user answers once; an answer that allows can be
  withdrawn. `ApprovalStep` says what one operation does of this, `ApprovalsSound` what every state has,
  and `ApprovalLaws` what follows for the grants: **one that was denied names no grant, and one that was
  withdrawn no grant to come.**
-/
import Aios.Policy.Backed

namespace Aios.Policy

open Lib Provenance

/-! ## 1. What one operation does -/

/-- What is asked for is new and pending; what is bound is new and not withdrawn. -/
structure Asked (a b : PolicyStore) : Prop where
  approvals : ∃ new, b.approvals = a.approvals ++ new ∧ (new.map ApprovalRow.approvalId).Nodup ∧
    ∀ x ∈ new, x.status = "PENDING" ∧ ∀ y ∈ a.approvals, y.approvalId ≠ x.approvalId
  bindings : ∃ new, b.approvalBindings = a.approvalBindings ++ new ∧
    (new.map ApprovalBindingRow.approvalId).Nodup ∧
    ∀ x ∈ new, x.revokedAt = none ∧ ∀ y ∈ a.approvalBindings, y.approvalId ≠ x.approvalId
  decisions : b.approvalDecisions = a.approvalDecisions

def ApprovalRow.answered (approval : String) (approve : Bool) (x : ApprovalRow) : ApprovalRow :=
  if x.approvalId = approval && x.status = "PENDING" then { x with status := userStatus approve } else x

def ApprovalBindingRow.withdrawn (approval now : String) (x : ApprovalBindingRow) : ApprovalBindingRow :=
  if x.approvalId = approval && x.revokedAt.isNone then { x with revokedAt := some now } else x

/-- **One operation and the approvals.** -/
inductive ApprovalStep (a b : PolicyStore) : Prop
  | asked (h : Asked a b)
  | answered {approval : String} {approve : Bool} {d : ApprovalDecisionRow}
      (hpending : ∃ x ∈ a.approvals, x.approvalId = approval ∧ x.status = "PENDING")
      (hd : d.approvalId = approval ∧ d.decision = userDecision approve)
      (hfirst : ∀ x ∈ a.approvalDecisions, x.approvalId ≠ approval)
      (happrovals : b.approvals = a.approvals.map (ApprovalRow.answered approval approve))
      (hbindings : b.approvalBindings = a.approvalBindings)
      (hdecisions : b.approvalDecisions = a.approvalDecisions ++ [d])
  | withdrawn {approval now : String}
      (hgiven : ∃ x ∈ a.approvals, x.approvalId = approval ∧ x.status = "APPROVED")
      (happrovals : b.approvals = a.approvals)
      (hbindings : b.approvalBindings = a.approvalBindings.map (ApprovalBindingRow.withdrawn approval now))
      (hdecisions : b.approvalDecisions = a.approvalDecisions)

section Asking

variable {a b c : PolicyStore}

theorem Asked.of_eq (happrovals : b.approvals = a.approvals) (hbindings : b.approvalBindings = a.approvalBindings)
    (hdecisions : b.approvalDecisions = a.approvalDecisions) : Asked a b where
  approvals := ⟨[], by rw [happrovals, List.append_nil], List.nodup_nil, fun _ hx => absurd hx List.not_mem_nil⟩
  bindings := ⟨[], by rw [hbindings, List.append_nil], List.nodup_nil, fun _ hx => absurd hx List.not_mem_nil⟩
  decisions := hdecisions

/-- New rows, and then rows that are new beside them too. -/
theorem nodup_appended {α β : Type} {key : α → β} {old first second : List α}
    (hfirst : (first.map key).Nodup) (hsecond : (second.map key).Nodup)
    (hfresh : ∀ x ∈ second, ∀ y ∈ old ++ first, key y ≠ key x) : ((first ++ second).map key).Nodup := by
  rw [List.map_append, List.nodup_append]
  refine ⟨hfirst, hsecond, ?_⟩
  intro k hk l hl
  obtain ⟨y, hy, rfl⟩ := List.mem_map.mp hk
  obtain ⟨x, hx, rfl⟩ := List.mem_map.mp hl
  exact hfresh x hx y (List.mem_append_right _ hy)

theorem Asked.trans (hab : Asked a b) (hbc : Asked b c) : Asked a c where
  approvals := by
    obtain ⟨xs, hxs, hxn, hxf⟩ := hab.approvals
    obtain ⟨ys, hys, hyn, hyf⟩ := hbc.approvals
    rw [hxs] at hys hyf
    refine ⟨xs ++ ys, by rw [hys, List.append_assoc], nodup_appended hxn hyn fun x hx => (hyf x hx).2, ?_⟩
    intro x hx
    obtain hold | hnew := List.mem_append.mp hx
    · exact hxf x hold
    · exact ⟨(hyf x hnew).1, fun y hy => (hyf x hnew).2 y (List.mem_append_left _ hy)⟩
  bindings := by
    obtain ⟨xs, hxs, hxn, hxf⟩ := hab.bindings
    obtain ⟨ys, hys, hyn, hyf⟩ := hbc.bindings
    rw [hxs] at hys hyf
    refine ⟨xs ++ ys, by rw [hys, List.append_assoc], nodup_appended hxn hyn fun x hx => (hyf x hx).2, ?_⟩
    intro x hx
    obtain hold | hnew := List.mem_append.mp hx
    · exact hxf x hold
    · exact ⟨(hyf x hnew).1, fun y hy => (hyf x hnew).2 y (List.mem_append_left _ hy)⟩
  decisions := hbc.decisions.trans hab.decisions

end Asking

section Evaluating

variable {env : PolicyEnv} {store store' : PolicyStore} {facts : CandidateFacts} {r : ResourceFacts}

theorem recordRequest_asked {started : String} {startedAt : Int}
    (h : recordRequest env store facts r started startedAt = .ok store') : Asked store store' := by
  simp only [recordRequest, bind_eq_ok', exists_unit, rejectIf_ok] at h
  obtain ⟨-, -, -, -, text, -, h⟩ := h
  split at h
  · simp only [bind_eq_ok', exists_unit, rejectIf_ok] at h
    obtain rfl := Except.ok.inj h.2
    exact .of_eq rfl rfl rfl
  · obtain rfl := Except.ok.inj h
    exact .of_eq rfl rfl rfl

theorem recordApproval_asked {approval request started : String} {timing : Option (String × String)}
    {startedAt : Int}
    (h : recordApproval env store facts r approval request timing started startedAt = .ok store') :
    Asked store store' := by
  simp only [recordApproval, bind_eq_ok', Prod.exists] at h
  obtain ⟨created, expiry, -, prompt, -, h⟩ := h
  split at h
  · simp only [bind_eq_ok', exists_unit, rejectIf_ok] at h
    obtain rfl := Except.ok.inj h.2
    exact .of_eq rfl rfl rfl
  · next hnone =>
    obtain rfl := Except.ok.inj h
    refine { Asked.of_eq (a := store) rfl rfl rfl with approvals := ⟨_, rfl, List.nodup_singleton _, ?_⟩ }
    intro x hx
    rw [List.mem_singleton.mp hx]
    refine ⟨rfl, fun y hy hid => ?_⟩
    simpa [hid] using List.find?_eq_none.mp hnone y hy

theorem recordDecision_asked {d : CandidatePolicyDecision} {activation : ActivationRow} {started : String}
    {startedAt : Int} (h : recordDecision env store facts r d activation started startedAt = .ok store') :
    Asked store store' := by
  simp only [recordDecision, bind_eq_ok', exists_unit, rejectIf_ok] at h
  obtain ⟨-, -, -, text, -, h⟩ := h
  split at h
  · simp only [bind_eq_ok', exists_unit, rejectIf_ok] at h
    obtain rfl := Except.ok.inj h.2
    exact .of_eq rfl rfl rfl
  · obtain rfl := Except.ok.inj h
    exact .of_eq rfl rfl rfl

theorem bindApproval_asked {candidateId approval : String} {d : CandidatePolicyDecision} {revision : Nat}
    (h : bindApproval store candidateId d approval revision = .ok store') : Asked store store' := by
  unfold bindApproval at h
  split at h
  · simp only [bind_eq_ok', exists_unit, rejectIf_ok] at h
    obtain rfl := Except.ok.inj h.2
    exact .of_eq rfl rfl rfl
  · next hnone =>
    obtain rfl := Except.ok.inj h
    refine { Asked.of_eq (a := store) rfl rfl rfl with bindings := ⟨_, rfl, List.nodup_singleton _, ?_⟩ }
    intro x hx
    rw [List.mem_singleton.mp hx]
    refine ⟨rfl, fun y hy hid => ?_⟩
    simpa [hid] using List.find?_eq_none.mp hnone y hy

variable {backend : LocalPolicyBackend} {policy : LocalPolicy} {activation : ActivationRow} {started : String}
  {startedAt : Int}

theorem evaluateResource_asked {d : CandidatePolicyDecision}
    (h : evaluateResource env backend policy activation facts started startedAt store r = .ok (store', d)) :
    Asked store store' := by
  simp only [evaluateResource, bind_eq_ok', Prod.exists] at h
  obtain ⟨fingerprint, -, requested, hrequest, d', timing, -, h⟩ := h
  have hrequested := recordRequest_asked hrequest
  split at h
  · simp only [bind_eq_ok'] at h
    obtain ⟨s1, h1, s2, h2, s3, h3, h⟩ := h
    obtain ⟨rfl, rfl⟩ := Prod.mk.inj (Except.ok.inj h)
    have hasked := (recordApproval_asked h1).trans ((recordDecision_asked h2).trans (bindApproval_asked h3))
    exact hrequested.trans hasked
  · simp only [bind_eq_ok'] at h
    obtain ⟨s1, h1, h⟩ := h
    obtain ⟨rfl, rfl⟩ := Prod.mk.inj (Except.ok.inj h)
    exact hrequested.trans (recordDecision_asked h1)

theorem evaluateResources_asked {resources : List ResourceFacts} {decisions : List CandidatePolicyDecision}
    (h : evaluateResources env backend policy activation facts started startedAt store resources =
      .ok (store', decisions)) : Asked store store' := by
  induction resources generalizing store decisions with
  | nil =>
      obtain ⟨rfl, rfl⟩ := Prod.mk.inj (Except.ok.inj h)
      exact .of_eq rfl rfl rfl
  | cons r rest ih =>
      simp only [evaluateResources, bind_eq_ok', Prod.exists] at h
      obtain ⟨s1, d, h1, s2, ds, h2, h⟩ := h
      obtain ⟨rfl, rfl⟩ := Prod.mk.inj (Except.ok.inj h)
      exact (evaluateResource_asked h1).trans (ih h2)

theorem evaluation_asked {outside : Outside} {candidateId : String} {evaluation : CandidatePolicyEvaluation}
    (h : evaluatePendingAuthorityCandidateIn env outside backend store candidateId started =
      .ok (store', evaluation)) : Asked store store' := by
  simp only [evaluatePendingAuthorityCandidateIn, bind_eq_ok', exists_unit, expect_ok, Prod.exists] at h
  obtain ⟨now, -, activation, -, policy, -, -, facts, -, -, -, s1, ds, heval, h⟩ := h
  obtain ⟨rfl, -⟩ := Prod.mk.inj (Except.ok.inj h)
  exact evaluateResources_asked heval

/-- After its evaluation, a finalisation leaves the approvals alone. -/
theorem finalisation_asked {outside : Outside} {time : Tasks.ProtectedTimeContext} {lease : Tasks.Lease}
    {candidateId : String} {result : FinalizedAuthorityCandidate}
    (h : finalizeCandidateIn env outside backend time lease store candidateId = .ok (store', result)) :
    Asked store store' := by
  simp only [finalizeCandidateIn, bind_eq_ok', exists_unit, rejectIf_ok, Prod.exists] at h
  obtain ⟨-, now, -, facts, -, s1, evaluation, heval, -, s2, ids, hissue, -, s3, hbind, s4, hstep, s5, outs, hout,
    -, s6, hevents, s7, hmark, h⟩ := h
  obtain ⟨rfl, -⟩ := Prod.mk.inj (Except.ok.inj h)
  obtain ⟨_, _, _, entries, clock, -, -, -, -, -, -, rfl, rfl⟩ := issueCandidateGrantsIn_ok hissue
  obtain ⟨_, _, -, -, rfl⟩ := insertReservedBindingIn_ok hbind
  obtain ⟨_, _, -, -, rfl⟩ := insertReservedReadyStepIn_ok hstep
  obtain ⟨_, -, rfl, rfl⟩ := allocateOutputs_ok hout
  simp only [appendCandidateGrantEventsIn, bind_eq_ok', exists_unit, rejectIf_ok] at hevents
  obtain ⟨_, -, rfl⟩ := appendGrantEvents_ok hevents.2
  obtain ⟨-, rfl⟩ := markFinalized_ok hmark
  exact (evaluation_asked heval).trans (.of_eq rfl rfl rfl)

end Evaluating

section Steps

variable {env : PolicyEnv} {a b : PolicyStore}

theorem recordUserDecision_step {row : ApprovalRow} {taskId principalId now : String} {approve : Bool}
    (hrow : row ∈ a.approvals) (hpending : row.status = "PENDING")
    (h : recordUserDecision env a row taskId principalId approve now = .ok b) : ApprovalStep a b := by
  simp only [recordUserDecision, bind_eq_ok', exists_unit, rejectIf_ok] at h
  obtain ⟨text, -, hfirst, h⟩ := h
  obtain rfl := Except.ok.inj h
  refine @ApprovalStep.answered a _ row.approvalId approve _ ⟨row, hrow, rfl, hpending⟩ ⟨rfl, rfl⟩ ?_ rfl rfl rfl
  intro x hx hid
  simpa [hid] using List.any_eq_false.mp hfirst x hx

theorem revokeCandidateApproval_step {lease : Tasks.Lease} {approval principalId now : String}
    (h : revokeCandidateApproval env lease a approval principalId now = .ok b) : ApprovalStep a b := by
  simp only [revokeCandidateApproval, bind_eq_ok', exists_unit, expect_ok, rejectIf_ok, Prod.exists] at h
  obtain ⟨_, -, -, x, y, hxy, t, -, hgiven, h⟩ := h
  split at h
  · obtain rfl := Except.ok.inj h
    exact .asked (.of_eq rfl rfl rfl)
  · simp only [bind_eq_ok', exists_unit, rejectIf_ok] at h
    obtain ⟨_, -, -, h⟩ := h
    obtain rfl := Except.ok.inj h
    obtain ⟨x', hx, hpair⟩ := Option.bind_eq_some_iff.mp hxy
    obtain ⟨y', -, he⟩ := Option.map_eq_some_iff.mp hpair
    obtain ⟨rfl, -⟩ := Prod.mk.inj he
    simp only [Bool.or_eq_false_iff, decide_eq_false_iff_not, not_not] at hgiven
    exact .withdrawn ⟨x', List.mem_of_find?_eq_some hx, by simpa using List.find?_some hx, hgiven.2⟩ rfl rfl rfl

/-- What an operation has written, where it is one that writes approvals or policies. -/
inductive Wrote (env : PolicyEnv) (a b : PolicyStore) : PolicyOp → Prop
  | apart {op : PolicyOp} (happrovals : b.approvals = a.approvals)
      (hbindings : b.approvalBindings = a.approvalBindings) (hdecisions : b.approvalDecisions = a.approvalDecisions)
      (hactivations : b.activations = a.activations) (hpayloads : b.payloads = a.payloads) : Wrote env a b op
  | evaluated {op : PolicyOp} {outside : Outside} {backend : LocalPolicyBackend} {candidateId now : String}
      {evaluation : CandidatePolicyEvaluation}
      (h : evaluatePendingAuthorityCandidateIn env outside backend a candidateId now = .ok (b, evaluation)) :
      Wrote env a b op
  | answered {op : PolicyOp} {row : ApprovalRow} {taskId principalId now : String} {approve : Bool}
      (hrow : row ∈ a.approvals) (hpending : row.status = "PENDING")
      (h : recordUserDecision env a row taskId principalId approve now = .ok b) : Wrote env a b op
  | revoked {op : PolicyOp} {lease : Tasks.Lease} {approval principalId now : String}
      (h : revokeCandidateApproval env lease a approval principalId now = .ok b) : Wrote env a b op
  | activated {lease : Tasks.Lease} {raw now : String} {revision : Nat}
      (h : activateLocalAuthorityPolicy env lease a raw now = .ok (b, revision)) :
      Wrote env a b (.activate lease raw now)
  | finalised {op : PolicyOp} {outside : Outside} {backend : LocalPolicyBackend} {time : Tasks.ProtectedTimeContext}
      {lease : Tasks.Lease} {candidateId : String} {result : FinalizedAuthorityCandidate}
      (h : finalizeCandidateIn env outside backend time lease a candidateId = .ok (b, result)) : Wrote env a b op

theorem perform_wrote {op : PolicyOp} (h : perform env a op = .ok b) : Wrote env a b op := by
  cases op with
  | elsewhere _ _ _ | useGrants _ | moveSteps _ | moveAllocations _ | crash =>
      obtain rfl := Except.ok.inj h
      exact .apart rfl rfl rfl rfl rfl
  | createStep row =>
      simp only [perform, createStepExecutionIn, bind_eq_ok', exists_unit, rejectIf_ok] at h
      obtain ⟨-, -, -, -, -, h⟩ := h
      obtain rfl := Except.ok.inj h
      exact .apart rfl rfl rfl rfl rfl
  | allocate row =>
      simp only [perform, bind_eq_ok', exists_unit, rejectIf_ok] at h
      obtain rfl := Except.ok.inj h.2
      exact .apart rfl rfl rfl rfl rfl
  | append row =>
      simp only [perform, bind_eq_ok', exists_unit, rejectIf_ok] at h
      obtain rfl := Except.ok.inj h.2
      exact .apart rfl rfl rfl rfl rfl
  | reserve outside lease q selected checkedAt =>
      obtain ⟨⟨s, result⟩, hs, rfl⟩ := map_eq_ok.mp h
      obtain ⟨-, rfl⟩ | ⟨-, w, -, hins, -⟩ := reserveAuthorityCandidate_ok hs
      · exact .apart rfl rfl rfl rfl rfl
      · have hnew := (insertReservation_ok hins).stored
        exact .apart (by rw [hnew]) (by rw [hnew]) (by rw [hnew]) (by rw [hnew]) (by rw [hnew])
  | activate lease raw now =>
      obtain ⟨⟨s, revision⟩, hs, rfl⟩ := map_eq_ok.mp h
      exact .activated hs
  | evaluate call candidateId now =>
      obtain ⟨⟨s, evaluation⟩, hs, rfl⟩ := map_eq_ok.mp h
      simp only [evaluatePendingAuthorityCandidate, bind_eq_ok', exists_unit] at hs
      obtain ⟨_, -, _, -, -, hs⟩ := hs
      exact .evaluated hs
  | decide call approval principalId approve now =>
      simp only [perform, decideCandidateApproval, bind_eq_ok', exists_unit, rejectIf_ok,
        decideCandidateApprovalIn, expect_ok, Prod.exists] at h
      obtain ⟨_, -, _, -, _, -, -, _, -, -, x, y, hxy, _, -, hpending, _, -, _, -, -, _, -, -, _, -, _, -, _, _, -,
        _, -, -, -, h⟩ := h
      obtain ⟨x', hx, hpair⟩ := Option.bind_eq_some_iff.mp hxy
      obtain ⟨y', -, he⟩ := Option.map_eq_some_iff.mp hpair
      obtain ⟨rfl, -⟩ := Prod.mk.inj he
      simp only [Bool.or_eq_false_iff, decide_eq_false_iff_not, not_not] at hpending
      exact .answered (List.mem_of_find?_eq_some hx) hpending.1.1 h
  | revoke lease approval principalId now => exact .revoked h
  | claim call candidateId approval now =>
      obtain ⟨⟨s, evaluation⟩, hs, rfl⟩ := map_eq_ok.mp h
      simp only [applyCandidateApprovalClaim, applyCandidateApprovalClaimIn, bind_eq_ok', exists_unit,
        Prod.exists, rejectIf_ok] at hs
      obtain ⟨_, -, _, -, -, _, -, _, -, -, _, -, -, _, -, _, -, -, _, -, -, s1, _, heval, -, hs⟩ := hs
      obtain ⟨rfl, -⟩ := Prod.mk.inj (Except.ok.inj hs)
      exact .evaluated heval
  | finalize call candidateId time =>
      obtain ⟨⟨s, result⟩, hs, rfl⟩ := map_eq_ok.mp h
      simp only [finalizePendingAuthorityCandidate, bind_eq_ok'] at hs
      obtain ⟨replayed, -, hs⟩ := hs
      cases replayed with
      | some r =>
          obtain ⟨rfl, -⟩ := Prod.mk.inj (Except.ok.inj hs)
          exact .apart rfl rfl rfl rfl rfl
      | none =>
          simp only [bind_eq_ok', exists_unit, rejectIf_ok] at hs
          obtain ⟨_, -, _, -, -, hs⟩ := hs
          exact .finalised hs

/-- What every operation does of the approvals. -/
theorem perform_approvals {op : PolicyOp} (h : perform env a op = .ok b) : ApprovalStep a b := by
  cases perform_wrote h with
  | apart happrovals hbindings hdecisions _ _ => exact .asked (.of_eq happrovals hbindings hdecisions)
  | evaluated h => exact .asked (evaluation_asked h)
  | answered hrow hpending h => exact recordUserDecision_step hrow hpending h
  | revoked h => exact revokeCandidateApproval_step h
  | activated hactivated =>
      have hsame := activateLocalAuthorityPolicy_ok hactivated
      exact .asked (.of_eq (by rw [hsame]) (by rw [hsame]) (by rw [hsame]))
  | finalised h => exact .asked (finalisation_asked h)

end Steps

/-! ## 2. What every state has -/

structure ApprovalsSound (s : PolicyStore) : Prop where
  approvals : (s.approvals.map ApprovalRow.approvalId).Nodup
  bindings : (s.approvalBindings.map ApprovalBindingRow.approvalId).Nodup
  decisions : (s.approvalDecisions.map ApprovalDecisionRow.approvalId).Nodup
  /-- An approval is pending and has no answer, or its status is its answer. -/
  told : ∀ x ∈ s.approvals, (x.status = "PENDING" ∧ ∀ d ∈ s.approvalDecisions, d.approvalId ≠ x.approvalId) ∨
    ∃ approve, x.status = userStatus approve ∧
      ∃ d ∈ s.approvalDecisions, d.approvalId = x.approvalId ∧ d.decision = userDecision approve
  asked : ∀ d ∈ s.approvalDecisions, ∃ x ∈ s.approvals, x.approvalId = d.approvalId

/-- What is answered and what is withdrawn stays so, and has no other answer. -/
structure Settled (a b : PolicyStore) : Prop where
  answered : ∀ x ∈ a.approvals, x.status ≠ "PENDING" → x ∈ b.approvals ∧
    ∀ d, d.approvalId = x.approvalId → (d ∈ b.approvalDecisions ↔ d ∈ a.approvalDecisions)
  withdrawn : ∀ y ∈ a.approvalBindings, y.revokedAt.isSome = true → y ∈ b.approvalBindings

theorem Settled.refl (a : PolicyStore) : Settled a a where
  answered := fun _ hx _ => ⟨hx, fun _ _ => Iff.rfl⟩
  withdrawn := fun _ hy _ => hy

theorem Settled.trans {a b c : PolicyStore} (hab : Settled a b) (hbc : Settled b c) : Settled a c where
  answered := by
    intro x hx hanswered
    obtain ⟨hxb, hb⟩ := hab.answered x hx hanswered
    obtain ⟨hxc, hc⟩ := hbc.answered x hxb hanswered
    exact ⟨hxc, fun d hd => (hc d hd).trans (hb d hd)⟩
  withdrawn := fun y hy hwithdrawn => hbc.withdrawn y (hab.withdrawn y hy hwithdrawn) hwithdrawn

section Keys

variable {α β : Type} {key : α → β} {l : List α}

/-- Of rows that differ in a key there is one with each. -/
theorem eq_of_key (h : (l.map key).Nodup) {x y : α} (hx : x ∈ l) (hy : y ∈ l) (e : key x = key y) : x = y :=
  List.inj_on_of_nodup_map h hx hy e

theorem nodup_added {new : List α} (h : (l.map key).Nodup) (hnew : (new.map key).Nodup)
    (hfresh : ∀ x ∈ new, ∀ y ∈ l, key y ≠ key x) : ((l ++ new).map key).Nodup :=
  @nodup_appended α β key [] l new h hnew hfresh

theorem map_key_same {f : α → α} (hf : ∀ x, key (f x) = key x) : (l.map f).map key = l.map key := by
  rw [List.map_map]
  exact List.map_congr_left fun x _ => hf x

end Keys

section Sound

variable {a b : PolicyStore}

theorem answered_id (approval : String) (approve : Bool) (x : ApprovalRow) :
    (x.answered approval approve).approvalId = x.approvalId := by
  unfold ApprovalRow.answered
  split <;> rfl

theorem withdrawn_id (approval now : String) (x : ApprovalBindingRow) :
    (x.withdrawn approval now).approvalId = x.approvalId := by
  unfold ApprovalBindingRow.withdrawn
  split <;> rfl

theorem Asked.sound (h : Asked a b) (hs : ApprovalsSound a) : ApprovalsSound b := by
  obtain ⟨xs, hxs, hxn, hxf⟩ := h.approvals
  obtain ⟨ys, hys, hyn, hyf⟩ := h.bindings
  refine { approvals := ?_, bindings := ?_, decisions := ?_, told := ?_, asked := ?_ }
  · rw [hxs]
    exact nodup_added hs.approvals hxn fun x hx => (hxf x hx).2
  · rw [hys]
    exact nodup_added hs.bindings hyn fun x hx => (hyf x hx).2
  · rw [h.decisions]
    exact hs.decisions
  · intro x hx
    rw [hxs] at hx
    rw [h.decisions]
    obtain hold | hnew := List.mem_append.mp hx
    · exact hs.told x hold
    · refine .inl ⟨(hxf x hnew).1, fun d hd hid => ?_⟩
      obtain ⟨y, hy, hyid⟩ := hs.asked d hd
      exact (hxf x hnew).2 y hy (hyid.trans hid)
  · intro d hd
    rw [h.decisions] at hd
    obtain ⟨x, hx, hid⟩ := hs.asked d hd
    exact ⟨x, hxs ▸ List.mem_append_left _ hx, hid⟩

theorem Asked.settled (h : Asked a b) : Settled a b where
  answered := by
    intro x hx _
    obtain ⟨xs, hxs, -⟩ := h.approvals
    exact ⟨hxs ▸ List.mem_append_left _ hx, fun d _ => by rw [h.decisions]⟩
  withdrawn := by
    intro y hy _
    obtain ⟨ys, hys, -⟩ := h.bindings
    exact hys ▸ List.mem_append_left _ hy

/-- **One operation keeps what every state has, and what is settled.** -/
theorem ApprovalStep.sound (h : ApprovalStep a b) (hs : ApprovalsSound a) : ApprovalsSound b ∧ Settled a b := by
  cases h with
  | asked h => exact ⟨h.sound hs, h.settled⟩
  | @answered approval approve d hpending hd hfirst happrovals hbindings hdecisions =>
      obtain ⟨p, hp, hpid, hpstatus⟩ := hpending
      have hmem : ∀ e, e ∈ b.approvalDecisions ↔ e ∈ a.approvalDecisions ∨ e = d := by
        intro e
        rw [hdecisions, List.mem_append, List.mem_singleton]
      have hsame : ∀ x ∈ a.approvals, x.approvalId = approval → x = p := fun x hx hid =>
        eq_of_key hs.approvals hx hp (hid.trans hpid.symm)
      refine ⟨{ approvals := ?_, bindings := ?_, decisions := ?_, told := ?_, asked := ?_ }, ?_, ?_⟩
      · rw [happrovals, map_key_same (answered_id approval approve)]
        exact hs.approvals
      · rw [hbindings]
        exact hs.bindings
      · rw [hdecisions]
        refine nodup_added hs.decisions (List.nodup_singleton _) fun x hx y hy => ?_
        rw [List.mem_singleton.mp hx, hd.1]
        exact hfirst y hy
      · intro x hx
        rw [happrovals] at hx
        obtain ⟨y, hy, rfl⟩ := List.mem_map.mp hx
        rw [answered_id]
        by_cases hid : y.approvalId = approval
        · obtain rfl := hsame y hy hid
          have hstatus : (y.answered approval approve).status = userStatus approve := by
            simp [ApprovalRow.answered, hid, hpstatus]
          exact .inr ⟨approve, hstatus, d, (hmem d).mpr (.inr rfl), hd.1.trans hid.symm, hd.2⟩
        · have hstill : y.answered approval approve = y := by simp [ApprovalRow.answered, hid]
          rw [hstill]
          obtain ⟨hopen, hnone⟩ | ⟨given, hstatus, e, he, hfields⟩ := hs.told y hy
          · refine .inl ⟨hopen, fun e he => ?_⟩
            obtain hold | rfl := (hmem e).mp he
            · exact hnone e hold
            · exact fun heq => hid (heq.symm.trans hd.1)
          · exact .inr ⟨given, hstatus, e, (hmem e).mpr (.inl he), hfields⟩
      · intro e he
        obtain hold | rfl := (hmem e).mp he
        · obtain ⟨x, hx, hid⟩ := hs.asked e hold
          exact ⟨_, happrovals ▸ List.mem_map_of_mem hx, (answered_id _ _ _).trans hid⟩
        · exact ⟨_, happrovals ▸ List.mem_map_of_mem hp, (answered_id _ _ _).trans (hpid.trans hd.1.symm)⟩
      · intro x hx hanswered
        have hother : x.approvalId ≠ approval := by
          intro hid
          rw [hsame x hx hid] at hanswered
          exact hanswered hpstatus
        have hstill : x.answered approval approve = x := by simp [ApprovalRow.answered, hother]
        refine ⟨happrovals ▸ List.mem_map.mpr ⟨x, hx, hstill⟩, fun e he => (hmem e).trans ?_⟩
        refine or_iff_left fun heq => ?_
        rw [heq, hd.1] at he
        exact hother he.symm
      · intro y hy _
        exact hbindings ▸ hy
  | @withdrawn approval now hgiven happrovals hbindings hdecisions =>
      refine ⟨{ approvals := ?_, bindings := ?_, decisions := ?_, told := ?_, asked := ?_ }, ?_, ?_⟩
      · rw [happrovals]
        exact hs.approvals
      · rw [hbindings, map_key_same (withdrawn_id approval now)]
        exact hs.bindings
      · rw [hdecisions]
        exact hs.decisions
      · rw [happrovals, hdecisions]
        exact hs.told
      · rw [happrovals, hdecisions]
        exact hs.asked
      · intro x hx _
        exact ⟨happrovals ▸ hx, fun d _ => by rw [hdecisions]⟩
      · intro y hy hwithdrawn
        refine hbindings ▸ List.mem_map.mpr ⟨y, hy, ?_⟩
        have hsome : y.revokedAt.isNone = false := by
          cases hat : y.revokedAt with
          | none => rw [hat] at hwithdrawn; cases hwithdrawn
          | some at' => rfl
        simp [ApprovalBindingRow.withdrawn, hsome]

end Sound

section Runs

variable {env : PolicyEnv}

theorem approvals_run {s : PolicyStore} (hs : ApprovalsSound s) (ops : List PolicyOp) :
    ApprovalsSound (run env s ops) ∧ Settled s (run env s ops) := by
  refine run_invariant (P := fun t => ApprovalsSound t ∧ Settled s t) (fun _ hop h => ?_) ops ⟨hs, .refl _⟩
  obtain ⟨hsound, hsettled⟩ := (perform_approvals hop).sound h.1
  exact ⟨hsound, h.2.trans hsettled⟩

theorem approvals_initial (world : World) : ApprovalsSound (.initial world) where
  approvals := List.nodup_nil
  bindings := List.nodup_nil
  decisions := List.nodup_nil
  told := fun _ hx => absurd hx List.not_mem_nil
  asked := fun _ hd => absurd hd List.not_mem_nil

end Runs

/-! ## 3. The laws -/

/-- What a run has come to, for the answers of the user. -/
structure ApprovalLaws (env : PolicyEnv) (world : World) (ops : List PolicyOp) : Prop where
  /-- Asked once, bound once, answered once; and the status is the answer. -/
  sound : ApprovalsSound (run env (.initial world) ops)
  /-- An answer is final. -/
  final : ∀ more, Settled (run env (.initial world) ops) (run env (.initial world) (ops ++ more))
  /-- A grant that names an approval names one the user gave. -/
  named : ∀ g ∈ (run env (.initial world) ops).grants, ∀ approval, g.approvalId = some approval →
    (∃ x ∈ (run env (.initial world) ops).approvals, x.approvalId = approval ∧ x.status = "APPROVED") ∧
    ∃ d ∈ (run env (.initial world) ops).approvalDecisions, d.approvalId = approval ∧ d.decision = "APPROVE" ∧
      ∀ e ∈ (run env (.initial world) ops).approvalDecisions, e.approvalId = approval → e = d
  /-- A withdrawal is for good: no claim is taken over the approval, and no grant comes to name it. -/
  withdrawn : ∀ y ∈ (run env (.initial world) ops).approvalBindings, y.revokedAt.isSome = true → ∀ more,
    (∀ (call : CallContext) (candidateId now : String), ∃ e, applyCandidateApprovalClaim env call.outside
      call.backend call.lease (run env (.initial world) (ops ++ more)) candidateId y.approvalId call.started now =
        .error e) ∧
    ∀ op, ∀ g ∈ ((run env (.initial world) (ops ++ more)).after env op).grants, g.approvalId = some y.approvalId →
      ∃ g' ∈ (run env (.initial world) (ops ++ more)).grants, g'.asIssued = g.asIssued

/-- **THE ANSWER OF A USER IS GIVEN ONCE, AND WITHDRAWN FOR GOOD.** -/
theorem approvals_settled (env : PolicyEnv) (world : World) (ops : List PolicyOp) : ApprovalLaws env world ops := by
  have hrun := @approvals_run env _ (approvals_initial world) ops
  have hfinal : ∀ more, Settled (run env (.initial world) ops) (run env (.initial world) (ops ++ more)) := by
    intro more
    rw [run_append]
    exact (approvals_run hrun.1 more).2
  have hopen : ∀ {t : PolicyStore}, ApprovalsSound t → ∀ y ∈ t.approvalBindings, y.revokedAt.isSome = true →
      ∀ z ∈ t.approvalBindings, z.approvalId = y.approvalId → z.revokedAt ≠ none := by
    intro t ht y hy hwithdrawn z hz hid hnone
    rw [← eq_of_key ht.bindings hz hy hid, hnone] at hwithdrawn
    cases hwithdrawn
  refine ⟨hrun.1, hfinal, ?_, ?_⟩
  · intro g hg approval happroval
    obtain ⟨c, d, e, hbacked⟩ := (@grounded_run env world ops).backed g hg
    obtain ⟨⟨x, hx, hid, hstatus⟩, -⟩ := hbacked.approval approval happroval
    refine ⟨⟨x, hx, hid, hstatus⟩, ?_⟩
    obtain ⟨hpending, -⟩ | ⟨approve, hsame, d', hd', hdid, hdecision⟩ := hrun.1.told x hx
    · rw [hstatus] at hpending
      exact absurd hpending (by decide)
    · have happrove : approve = true := by
        cases approve with
        | true => rfl
        | false =>
            rw [hstatus] at hsame
            exact absurd hsame (by decide)
      rw [happrove] at hdecision
      refine ⟨d', hd', hdid.trans hid, hdecision, fun e' he' heid => ?_⟩
      exact eq_of_key hrun.1.decisions he' hd' (heid.trans (hdid.trans hid).symm)
  · intro y hy hwithdrawn more
    have hlater := @approvals_run env _ (approvals_initial world) (ops ++ more)
    have hstill := (hfinal more).withdrawn y hy hwithdrawn
    constructor
    · intro call candidateId now
      cases hclaim : applyCandidateApprovalClaim env call.outside call.backend call.lease
          (run env (.initial world) (ops ++ more)) candidateId y.approvalId call.started now with
      | error e => exact ⟨e, rfl⟩
      | ok result =>
          obtain ⟨_, _, _, _, -, -, _, -, _, -, hgiven⟩ := (applyCandidateApprovalClaim_ok hclaim).evaluated
          obtain ⟨z, hz, hid, -, hnone⟩ := hgiven.bound
          exact absurd hnone (hopen hlater.1 y hstill hwithdrawn z hz hid)
    · intro op g hg hnamed
      have hafter := @approvals_run env _ hlater.1 [op]
      obtain hold | hissued := (@grounded_run env world (ops ++ more)).issued op hg
      · exact hold
      · obtain ⟨call, id, time, now, activation, policy, facts, r, fingerprint, -, hi⟩ := hissued
        obtain ⟨-, hnone⟩ | ⟨-, approval, hgiven, hstands⟩ := hi.basis
        · rw [hnone] at hnamed
          cases hnamed
        · obtain rfl := Option.some.inj (hgiven.symm.trans hnamed)
          obtain ⟨z, hz, hid, -, -, -, hopened⟩ := hstands.bound
          have hy' := hafter.2.withdrawn y hstill hwithdrawn
          exact absurd hopened (hopen hafter.1 y hy' hwithdrawn z hz hid)

end Aios.Policy
