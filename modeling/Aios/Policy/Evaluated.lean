/-
  File:      Aios/Policy/Evaluated.lean
  Subject:   What an evaluation leaves behind: rows behind those that were there, and for every resource
             a decision over exactly the facts that were loaded.
-/
import Aios.Policy.Approve
import Aios.Policy.Loaded

namespace Aios.Policy

open Lib Provenance

/-! ## 1. What an evaluation writes -/

/-- Only the tables of the evaluation differ, and they only grow. -/
structure EvaluationWrites (a b : PolicyStore) : Prop where
  same : b = { a with
    requests := b.requests, decisions := b.decisions, fingerprints := b.fingerprints
    approvals := b.approvals, approvalBindings := b.approvalBindings }
  requests : a.requests <+: b.requests
  decisions : a.decisions <+: b.decisions
  fingerprints : a.fingerprints <+: b.fingerprints
  approvals : a.approvals <+: b.approvals
  approvalBindings : a.approvalBindings <+: b.approvalBindings

namespace EvaluationWrites

theorem refl (a : PolicyStore) : EvaluationWrites a a where
  same := rfl
  requests := List.prefix_refl _
  decisions := List.prefix_refl _
  fingerprints := List.prefix_refl _
  approvals := List.prefix_refl _
  approvalBindings := List.prefix_refl _

theorem trans {a b c : PolicyStore} (hab : EvaluationWrites a b) (hbc : EvaluationWrites b c) :
    EvaluationWrites a c where
  same := by
    rw [hbc.same, hab.same]
  requests := hab.requests.trans hbc.requests
  decisions := hab.decisions.trans hbc.decisions
  fingerprints := hab.fingerprints.trans hbc.fingerprints
  approvals := hab.approvals.trans hbc.approvals
  approvalBindings := hab.approvalBindings.trans hbc.approvalBindings

/-- What is loaded is as it was. -/
theorem loadView {a b : PolicyStore} (h : EvaluationWrites a b) : b.loadView = a.loadView := by
  rw [h.same]
  rfl

end EvaluationWrites

section Writes

variable {env : PolicyEnv} {store store' : PolicyStore} {facts : CandidateFacts} {r : ResourceFacts}

theorem recordRequest_writes {started : String} {startedAt : Int}
    (h : recordRequest env store facts r started startedAt = .ok store') :
    EvaluationWrites store store' := by
  simp only [recordRequest, bind_eq_ok', exists_unit, rejectIf_ok] at h
  obtain ⟨-, -, -, -, text, -, h⟩ := h
  split at h
  · simp only [bind_eq_ok', exists_unit, rejectIf_ok] at h
    obtain rfl := Except.ok.inj h.2
    exact .refl _
  · obtain rfl := Except.ok.inj h
    exact { EvaluationWrites.refl store with
      same := rfl, requests := List.prefix_append _ _ }

theorem recordApproval_writes {approval request started : String} {timing : Option (String × String)}
    {startedAt : Int}
    (h : recordApproval env store facts r approval request timing started startedAt = .ok store') :
    EvaluationWrites store store' := by
  simp only [recordApproval, bind_eq_ok', Prod.exists] at h
  obtain ⟨created, expiry, -, prompt, -, h⟩ := h
  split at h
  · simp only [bind_eq_ok', exists_unit, rejectIf_ok] at h
    obtain rfl := Except.ok.inj h.2
    exact .refl _
  · obtain rfl := Except.ok.inj h
    exact { EvaluationWrites.refl store with
      same := rfl, approvals := List.prefix_append _ _ }

theorem recordDecision_writes {d : CandidatePolicyDecision} {activation : ActivationRow} {started : String}
    {startedAt : Int} (h : recordDecision env store facts r d activation started startedAt = .ok store') :
    EvaluationWrites store store' := by
  simp only [recordDecision, bind_eq_ok', exists_unit, rejectIf_ok] at h
  obtain ⟨-, -, -, text, -, h⟩ := h
  split at h
  · simp only [bind_eq_ok', exists_unit, rejectIf_ok] at h
    obtain rfl := Except.ok.inj h.2
    exact .refl _
  · obtain rfl := Except.ok.inj h
    exact { EvaluationWrites.refl store with
      same := rfl, decisions := List.prefix_append _ _, fingerprints := List.prefix_append _ _ }

theorem bindApproval_writes {candidateId approval : String} {d : CandidatePolicyDecision} {revision : Nat}
    (h : bindApproval store candidateId d approval revision = .ok store') :
    EvaluationWrites store store' := by
  unfold bindApproval at h
  split at h
  · simp only [bind_eq_ok', exists_unit, rejectIf_ok] at h
    obtain rfl := Except.ok.inj h.2
    exact .refl _
  · obtain rfl := Except.ok.inj h
    exact { EvaluationWrites.refl store with
      same := rfl, approvalBindings := List.prefix_append _ _ }

end Writes

/-! ## 2. Decisions -/

/-- An approval that was given over these facts, in time and not withdrawn. -/
structure ApprovalStands (env : PolicyEnv) (store : PolicyStore) (candidateId fingerprint : String)
    (revision : Nat) (now : Int) (approval : String) : Prop where
  given : ∃ a ∈ store.approvals, a.approvalId = approval ∧ a.status = "APPROVED" ∧
    ∃ expires, checkedTime env a.expiresAt = .ok expires ∧ now < expires
  bound : ∃ b ∈ store.approvalBindings, b.approvalId = approval ∧ b.candidateId = candidateId ∧
    b.fingerprint = fingerprint ∧ b.activationRevision = revision ∧ b.revokedAt = none

/-- The decision is over these facts; one that allows rests on the policy alone, or on an approval the
    policy asks for. -/
structure Decided (env : PolicyEnv) (backend : LocalPolicyBackend) (policy : LocalPolicy)
    (activation : ActivationRow) (facts : CandidateFacts) (now : Int) (store : PolicyStore)
    (r : ResourceFacts) (d : CandidatePolicyDecision) : Prop where
  action : d.action = r.action
  selector : d.semanticSelector = r.selector
  fingerprint : facts.fingerprint env r activation.revision activation.contentHash =
    .ok d.evaluationFingerprint
  allowed : d.effect = .allow →
    (backend.decide policy r = .allow ∧ d.approvalId = none) ∨
      (backend.decide policy r = .requireApproval ∧ ∃ approval, d.approvalId = some approval ∧
        ApprovalStands env store facts.candidate.candidateId d.evaluationFingerprint activation.revision now
          approval)

theorem ApprovalStands.mono {env : PolicyEnv} {a b : PolicyStore} {candidateId fingerprint approval : String}
    {revision : Nat} {now : Int} (hw : EvaluationWrites a b)
    (h : ApprovalStands env a candidateId fingerprint revision now approval) :
    ApprovalStands env b candidateId fingerprint revision now approval := by
  obtain ⟨⟨row, hrow, hgiven⟩, ⟨bound, hbound, hb⟩⟩ := h
  exact ⟨⟨row, hw.approvals.subset hrow, hgiven⟩, ⟨bound, hw.approvalBindings.subset hbound, hb⟩⟩

section Decide

variable {env : PolicyEnv} {backend : LocalPolicyBackend} {policy : LocalPolicy}
  {activation : ActivationRow} {facts : CandidateFacts} {started : String} {now : Int}

theorem Decided.mono {a b : PolicyStore} {r : ResourceFacts} {d : CandidatePolicyDecision}
    (hw : EvaluationWrites a b) (h : Decided env backend policy activation facts now a r d) :
    Decided env backend policy activation facts now b r d := by
  refine ⟨h.action, h.selector, h.fingerprint, fun he => ?_⟩
  rcases h.allowed he with h | ⟨hbasis, approval, hid, hstands⟩
  · exact .inl h
  · exact .inr ⟨hbasis, approval, hid, hstands.mono hw⟩

/-- An approval that turns its decision into an allowing one stands. -/
theorem approvalStanding_allow {store : PolicyStore} {r : ResourceFacts}
    {approval request fingerprint snapshotId : String} {revision : Nat} {timing : Option (String × String)}
    (h : approvalStanding env store facts r approval request fingerprint revision snapshotId now =
      .ok ⟨.allow, timing⟩) :
    ApprovalStands env store facts.candidate.candidateId fingerprint revision now approval := by
  unfold approvalStanding at h
  split at h
  · cases h
  · next a b hab =>
      simp only [bind_eq_ok', exists_unit, rejectIf_ok] at h
      obtain ⟨expires, hexp, hlive, created, -, -, hreq, h⟩ := h
      have hstatus : a.status = "APPROVED" := by
        split at h
        · simp only [bind_eq_ok', exists_unit] at h
          have he := congrArg Standing.effect (Except.ok.inj h.2)
          by_contra hne
          simp [hne] at he
        · simp only [bind_eq_ok', exists_unit, rejectIf_ok] at h
          cases Except.ok.inj h.2
      simp only [Bool.or_eq_false_iff, decide_eq_false_iff_not, not_le] at hlive
      obtain ⟨a', ha, hb⟩ := Option.bind_eq_some_iff.mp hab
      obtain ⟨b', -, he⟩ := Option.map_eq_some_iff.mp hb
      obtain ⟨rfl, rfl⟩ := Prod.mk.inj he
      refine ⟨⟨a', List.mem_of_find?_eq_some ha, by simpa using List.find?_some ha, hstatus,
        expires, hexp, hlive.2⟩, ?_⟩
      simp only [checkedApprovalRequest, bind_eq_ok', exists_unit, rejectIf_ok] at hreq
      obtain ⟨-, prompt, -, text, -, hrows⟩ := hreq
      simp only [Bool.or_eq_false_iff, Bool.not_eq_false', List.any_eq_true, Bool.and_eq_true,
        decide_eq_true_eq, Option.isNone_iff_eq_none] at hrows
      obtain ⟨⟨⟨-, bound, hbound, hfields⟩, -⟩, -⟩ := hrows
      exact ⟨bound, hbound, hfields.1.1.1.1.1, hfields.1.1.1.1.2, hfields.1.1.1.2, hfields.1.1.2, hfields.2⟩

theorem decideResource_ok {store : PolicyStore} {r : ResourceFacts} {fingerprint : String}
    {d : CandidatePolicyDecision} {timing : Option (String × String)}
    (hf : facts.fingerprint env r activation.revision activation.contentHash = .ok fingerprint)
    (h : decideResource env backend policy activation facts now store r fingerprint = .ok (d, timing)) :
    Decided env backend policy activation facts now store r d := by
  simp only [decideResource, bind_eq_ok'] at h
  obtain ⟨standing, hstand, h⟩ := h
  obtain ⟨rfl, rfl⟩ := Prod.mk.inj (Except.ok.inj h)
  refine ⟨rfl, rfl, hf, fun he => ?_⟩
  have he' : standing.effect = .allow := he
  by_cases hbasis : backend.decide policy r = .requireApproval
  · right
    simp only [hbasis, if_pos, standingOf] at hstand ⊢
    obtain ⟨effect, timing⟩ := standing
    obtain rfl : effect = .allow := he'
    exact ⟨trivial, _, rfl, approvalStanding_allow hstand⟩
  · left
    simp only [hbasis, if_false, standingOf] at hstand ⊢
    have heff : (backend.decide policy r).effect = .allow := by
      rw [← he', ← Except.ok.inj hstand]
    refine ⟨?_, trivial⟩
    revert heff hbasis
    cases backend.decide policy r <;> simp [PolicyBasis.effect]

theorem evaluateResource_ok {store store' : PolicyStore} {r : ResourceFacts} {d : CandidatePolicyDecision}
    (h : evaluateResource env backend policy activation facts started now store r = .ok (store', d)) :
    EvaluationWrites store store' ∧ Decided env backend policy activation facts now store' r d := by
  simp only [evaluateResource, bind_eq_ok', Prod.exists] at h
  obtain ⟨fingerprint, hf, asked, hasked, d', timing, hd, h⟩ := h
  have hdecided := decideResource_ok hf hd
  have hw := recordRequest_writes hasked
  split at h
  · simp only [bind_eq_ok'] at h
    obtain ⟨s1, h1, s2, h2, s3, h3, h⟩ := h
    obtain ⟨rfl, rfl⟩ := Prod.mk.inj (Except.ok.inj h)
    have hrest := (recordApproval_writes h1).trans ((recordDecision_writes h2).trans (bindApproval_writes h3))
    exact ⟨hw.trans hrest, hdecided.mono hrest⟩
  · simp only [bind_eq_ok'] at h
    obtain ⟨s1, h1, h⟩ := h
    obtain ⟨rfl, rfl⟩ := Prod.mk.inj (Except.ok.inj h)
    exact ⟨hw.trans (recordDecision_writes h1), hdecided.mono (recordDecision_writes h1)⟩

theorem evaluateResources_ok {resources : List ResourceFacts} {store store' : PolicyStore}
    {decisions : List CandidatePolicyDecision}
    (h : evaluateResources env backend policy activation facts started now store resources =
      .ok (store', decisions)) :
    EvaluationWrites store store' ∧
      List.Forall₂ (Decided env backend policy activation facts now store') resources decisions := by
  induction resources generalizing store decisions with
  | nil =>
      obtain ⟨rfl, rfl⟩ := Prod.mk.inj (Except.ok.inj h)
      exact ⟨.refl _, .nil⟩
  | cons r rest ih =>
      simp only [evaluateResources, bind_eq_ok', Prod.exists] at h
      obtain ⟨s1, d, h1, s2, ds, h2, h⟩ := h
      obtain ⟨rfl, rfl⟩ := Prod.mk.inj (Except.ok.inj h)
      obtain ⟨hw1, hd⟩ := evaluateResource_ok h1
      obtain ⟨hw2, hds⟩ := ih h2
      exact ⟨hw1.trans hw2, .cons (hd.mono hw2) hds⟩

end Decide

/-! ## 3. The evaluation -/

/-- Everything an evaluation that succeeds has found and written. -/
structure EvaluatedTo (env : PolicyEnv) (backend : LocalPolicyBackend) (store store' : PolicyStore)
    (candidateId : String) (now : Int) (activation : ActivationRow) (policy : LocalPolicy)
    (facts : CandidateFacts) (evaluation : CandidatePolicyEvaluation) : Prop where
  active : latestActivation store.activations = some activation
  inForce : loadPolicy env store activation = .ok policy
  loaded : CandidateFacts.load env store candidateId now = .ok facts
  writes : EvaluationWrites store store'
  revision : evaluation.activationRevision = activation.revision
  decided : List.Forall₂ (Decided env backend policy activation facts now store') facts.resources
    evaluation.decisions

theorem evaluatePendingAuthorityCandidateIn_ok {env : PolicyEnv} {outside : Outside}
    {backend : LocalPolicyBackend} {store store' : PolicyStore} {candidateId started : String}
    {evaluation : CandidatePolicyEvaluation}
    (h : evaluatePendingAuthorityCandidateIn env outside backend store candidateId started =
      .ok (store', evaluation)) :
    ∃ now activation policy facts, checkedTime env started = .ok now ∧
      EvaluatedTo env backend store store' candidateId now activation policy facts evaluation := by
  simp only [evaluatePendingAuthorityCandidateIn, bind_eq_ok', exists_unit, expect_ok, Prod.exists] at h
  obtain ⟨now, hnow, activation, hact, policy, hpol, -, facts, hload, -, -, s1, ds, heval, h⟩ := h
  obtain ⟨rfl, rfl⟩ := Prod.mk.inj (Except.ok.inj h)
  obtain ⟨hw, hd⟩ := evaluateResources_ok heval
  exact ⟨now, activation, policy, facts, hnow, hact, hpol, hload, hw, rfl, hd⟩

end Aios.Policy
