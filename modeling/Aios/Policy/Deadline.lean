/-
  File:      Aios/Policy/Deadline.lean
  Subject:   THE DERIVATION OF A DEADLINE, and what reads its row: the CHECKs of the table, the audit at
             startup and the check of the grant.

  A deadline mixes nanoseconds of the wall, texts of them and ticks. They stay equal because the wall
  part is computed in 64 bits, written once (`ReadsBack`, which is assumed of the formatter) and read
  back by all three readers:

  * `Derived` -- what a derivation returns, exactly;
  * `deadlineCheck`, `deadlineAudit` -- the table's and the startup's reading of a row;
  * `Issuable` -- the store a finalisation issues in, with the context of a committed sample;
  * **`deadline_derivation_exact`** -- every row that is issued is a derivation, and every reader
    accepts it.
-/
import Aios.Lib.Keyed
import Aios.Policy.Run
import Aios.Tasks.Deadline
import Aios.Tasks.Protected

namespace Aios.Policy

open Lib

/-! ## 1. The derivation -/

/-- The limits of an approval, as they are read. -/
def wallCaps (env : PolicyEnv) (approval : Option ApprovalExpirySources) : List Int :=
  (approval.bind fun a => env.time.parseNanos a.requestExpiresAt).toList ++
    (approval.bind fun a => env.time.parseNanos a.approvedUntil).toList

/-- Both limits of the approval are read. -/
def CapsRead (env : PolicyEnv) (approval : Option ApprovalExpirySources)
    (p : PreparedGrantDeadline) : Prop :=
  match approval with
  | none => p.approvalRequestExpiryUnixNanos = none ∧ p.approvedUntilUnixNanos = none
  | some a => ∃ request approved, env.time.parseNanos a.requestExpiresAt = some request ∧
      env.time.parseNanos a.approvedUntil = some approved ∧
      p.approvalRequestExpiryUnixNanos = some request ∧ p.approvedUntilUnixNanos = some approved

/-- A deadline for the effective time `now` and the ticks `monotonic`, exactly. -/
structure Derived (env : PolicyEnv) (now monotonic : Int) (approval : Option ApprovalExpirySources)
    (p : PreparedGrantDeadline) : Prop where
  start : 0 ≤ now ∧ 0 ≤ monotonic
  caps : CapsRead env approval p
  /-- The least of the caps and of the longest life. -/
  expiry : p.effectiveExpiryUnixNanos = (wallCaps env approval).foldl min (now + localArtifactGrantNanos)
  grantExpiry : p.grantExpiryUnixNanos = p.effectiveExpiryUnixNanos
  written : env.time.formatNanos p.effectiveExpiryUnixNanos = some p.grantExpiresAt
  life : 0 < p.effectiveExpiryUnixNanos - now ∧ p.effectiveExpiryUnixNanos - now ≤ localArtifactGrantNanos
  deadline : p.deadlineMonotonicNanos = monotonic + (p.effectiveExpiryUnixNanos - now)
  bounded : p.effectiveExpiryUnixNanos < 2 ^ 63 ∧ p.deadlineMonotonicNanos < 2 ^ 63

theorem toI64_eq_some {n m : Int} : Tasks.toI64 n = some m ↔ m = n ∧ -(2 ^ 63) ≤ n ∧ n < 2 ^ 63 := by
  unfold Tasks.toI64
  constructor
  · intro h
    split at h
    · rename_i hn
      exact ⟨(Option.some.inj h).symm, hn⟩
    · cases h
  · intro h
    obtain ⟨rfl, hn⟩ := h
    rw [if_pos hn]

variable {env : PolicyEnv} {now monotonic : Int} {approval : Option ApprovalExpirySources}
  {p : PreparedGrantDeadline}

/-- The limits are read together, or one of them is not a time. -/
theorem approvalCaps_ok {caps : Option (Int × Int)} (h : approvalCaps env approval = .ok caps) :
    wallCaps env approval = caps.elim [] (fun c => [c.1, c.2]) ∧
      ∀ p : PreparedGrantDeadline, p.approvalRequestExpiryUnixNanos = caps.map Prod.fst →
        p.approvedUntilUnixNanos = caps.map Prod.snd → CapsRead env approval p := by
  cases approval with
  | none =>
      obtain rfl := Except.ok.inj h
      exact ⟨rfl, fun p hr ha => ⟨hr, ha⟩⟩
  | some a =>
      simp only [approvalCaps, bind_eq_ok', expect_ok] at h
      obtain ⟨request, hrequest, approved, happroved, h⟩ := h
      obtain rfl := Except.ok.inj h
      refine ⟨?_, fun p hr ha => ⟨request, approved, hrequest, happroved, hr, ha⟩⟩
      simp [wallCaps, hrequest, happroved]

/-- The least of a cap and of both limits. -/
abbrev leastCap (cap : Int) (caps : Option (Int × Int)) : Int := caps.elim cap fun c => min (min cap c.1) c.2

theorem foldl_caps {caps : Option (Int × Int)} (h : approvalCaps env approval = .ok caps) {cap : Int} :
    (wallCaps env approval).foldl min cap = leastCap cap caps := by
  rw [(approvalCaps_ok h).1]
  cases caps <;> rfl

theorem leastCap_le (cap : Int) (caps : Option (Int × Int)) : leastCap cap caps ≤ cap := by
  cases caps with
  | none => exact le_refl _
  | some c => exact (min_le_left _ _).trans (min_le_left _ _)

/-- **A derivation is exact**, where there is one. -/
theorem derived_of_ok (h : deriveDeadline env now monotonic approval = .ok p) :
    Derived env now monotonic approval p := by
  unfold deriveDeadline at h
  simp only [bind_eq_ok', exists_unit, rejectIf_ok, expect_ok] at h
  obtain ⟨hstart, cap, hcap, caps, hcaps, expiresAt, hwritten, ttl, httl, deadline, hdeadline, h⟩ := h
  obtain rfl := Except.ok.inj h
  have hread := (approvalCaps_ok hcaps).2
  rw [toI64_eq_some] at hcap hdeadline
  obtain ⟨httl, hpos⟩ := Option.filter_eq_some_iff.mp httl
  rw [toI64_eq_some] at httl
  obtain ⟨rfl, hcap⟩ := hcap
  obtain ⟨rfl, hdeadline⟩ := hdeadline
  obtain ⟨rfl, httl⟩ := httl
  have hpos := of_decide_eq_true hpos
  simp only [Bool.or_eq_false_iff, decide_eq_false_iff_not, not_lt] at hstart
  have hle := leastCap_le (now + localArtifactGrantNanos) caps
  dsimp only [leastCap] at hle
  exact ⟨hstart, hread _ rfl rfl, (foldl_caps hcaps).symm, rfl, hwritten, ⟨hpos, by dsimp only; omega⟩, rfl,
    by dsimp only; omega, hdeadline.2⟩

/-- Where there is a deadline: nothing is negative, all limits are read, the time is not over and no
    sum leaves the 64 bits. -/
structure Derivable (env : PolicyEnv) (now monotonic : Int) (approval : Option ApprovalExpirySources) : Prop where
  start : 0 ≤ now ∧ 0 ≤ monotonic
  cap : now + localArtifactGrantNanos < 2 ^ 63
  read : ∃ caps, approvalCaps env approval = .ok caps
  life : now < (wallCaps env approval).foldl min (now + localArtifactGrantNanos)
  written : ∃ text, env.time.formatNanos
    ((wallCaps env approval).foldl min (now + localArtifactGrantNanos)) = some text
  ticks : monotonic + ((wallCaps env approval).foldl min (now + localArtifactGrantNanos) - now) < 2 ^ 63

theorem derivable_iff : (∃ p, deriveDeadline env now monotonic approval = .ok p) ↔
    Derivable env now monotonic approval := by
  constructor
  · intro h
    obtain ⟨p, h⟩ := h
    have hd := derived_of_ok h
    unfold deriveDeadline at h
    simp only [bind_eq_ok', exists_unit, rejectIf_ok, expect_ok] at h
    obtain ⟨_, cap, hcap, caps, hcaps, _⟩ := h
    have hlife := hd.life.1
    have hticks := hd.bounded.2
    rw [hd.deadline, hd.expiry] at hticks
    rw [hd.expiry] at hlife
    exact ⟨hd.start, (toI64_eq_some.mp hcap).2.2, ⟨caps, hcaps⟩, by omega, ⟨_, hd.expiry ▸ hd.written⟩, hticks⟩
  · intro h
    obtain ⟨⟨hnow, hmono⟩, hcap, ⟨caps, hcaps⟩, hlife, ⟨text, hwritten⟩, hticks⟩ := h
    have hle := leastCap_le (now + localArtifactGrantNanos) caps
    rw [foldl_caps hcaps] at hlife hwritten hticks
    dsimp only [leastCap] at hle hlife hwritten hticks
    have hlong : localArtifactGrantNanos = 300000000000 := rfl
    refine ⟨⟨text, leastCap (now + localArtifactGrantNanos) caps, caps.map Prod.fst, caps.map Prod.snd,
      leastCap (now + localArtifactGrantNanos) caps,
      monotonic + (leastCap (now + localArtifactGrantNanos) caps - now)⟩, ?_⟩
    unfold deriveDeadline
    simp only [bind_eq_ok', exists_unit, rejectIf_ok, expect_ok]
    exact ⟨by simp [hnow, hmono], _, toI64_eq_some.mpr ⟨rfl, by omega, hcap⟩, caps, hcaps, text, hwritten, _,
      Option.filter_eq_some_iff.mpr ⟨toI64_eq_some.mpr ⟨rfl, by omega, by omega⟩, by
        simp only [decide_eq_true_eq]
        omega⟩, _, toI64_eq_some.mpr ⟨rfl, by omega, hticks⟩, rfl⟩

/-! ## 2. The readers of a row -/

/-- The approval columns of a row are all empty, or all filled and no earlier than its expiry. -/
def approvalColumns (d : Tasks.DeadlineRow) : Bool :=
  match d.approvalId with
  | none => d.approvalRequestExpiresAt.isNone && d.approvalRequestExpiryUnixNanos.isNone &&
      d.approvalDecisionId.isNone && d.approvedUntil.isNone && d.approvedUntilUnixNanos.isNone
  | some _ => d.approvalRequestExpiresAt.isSome && d.approvalDecisionId.isSome && d.approvedUntil.isSome &&
      d.approvalRequestExpiryUnixNanos.any (d.effectiveExpiryUnixNanos ≤ ·) &&
      d.approvedUntilUnixNanos.any (d.effectiveExpiryUnixNanos ≤ ·)

/-- The CHECKs of `authority_grant_deadlines`. -/
def deadlineCheck (d : Tasks.DeadlineRow) : Bool :=
  1 ≤ d.ownerEpoch && 0 ≤ d.issuedMonotonicNanos &&
    d.issuedMonotonicNanos < d.deadlineMonotonicNanos && 0 ≤ d.issuedEffectiveUnixNanos &&
    d.issuedObservedUnixNanos ≤ d.issuedEffectiveUnixNanos &&
    d.issuedEffectiveUnixNanos < d.effectiveExpiryUnixNanos &&
    d.effectiveExpiryUnixNanos ≤ d.grantExpiryUnixNanos && approvalColumns d &&
    d.deadlineMonotonicNanos - d.issuedMonotonicNanos =
      d.effectiveExpiryUnixNanos - d.issuedEffectiveUnixNanos

section Audit

variable {σ : Type} (env : Tasks.TimeEnv) (store : Tasks.Store σ) (d : Tasks.DeadlineRow)

/-- The receipt and the grant under the row's key are those of the row. -/
def auditGrant : Bool :=
  ((store.core.issuances.find? fun r => r.grantId = d.grantId).any fun r => r.tokenId = d.tokenId &&
    r.taskId = d.taskId && r.executionBindingId = d.executionBindingId && r.attemptId = d.attemptId &&
    r.policyDecisionId = d.policyDecisionId && r.issuedAt = d.issuedAt) &&
  (store.core.grants.find? fun g => g.grantId = d.grantId).any fun g => g.tokenId = some d.tokenId &&
    g.taskId = d.taskId && g.executionBindingId = some d.executionBindingId &&
    g.attemptId = some d.attemptId && g.policyDecisionId = d.policyDecisionId &&
    g.issuedAt = d.issuedAt && g.expiresAt = d.grantExpiresAt && g.approvalId = d.approvalId

/-- The approval under the row's keys is given, with the row's texts. -/
def auditApproval : Bool :=
  d.approvalId.all fun id =>
    ((store.core.approvals.find? fun a => a.approvalId = id).any fun a =>
      a.expiresAt = d.approvalRequestExpiresAt) &&
    (store.core.approvalDecisions.find? fun ad => d.approvalDecisionId = some ad.decisionId).any fun ad =>
      ad.approvalId = id && ad.decision = "APPROVE" && ad.approvedUntil = d.approvedUntil

/-- The session under the row's key has come at least to the issuance, and the observation under its
    revision is the one the row was issued under. -/
def auditClock : Bool :=
  ((store.clock.sessions.find? fun c => c.sessionId = d.sessionId).any fun c => c.ownerId = d.ownerId &&
    c.ownerEpoch = d.ownerEpoch && d.issuedMonotonicNanos ≤ c.highWaterMonotonicNanos &&
    d.issuedStateRevision ≤ c.highWaterStateRevision) &&
  (store.clock.observations.find? fun o => o.stateRevision = d.issuedStateRevision).any fun o =>
    o.confidence = .trustedLocal && o.monotonicNanos = some d.issuedMonotonicNanos &&
      o.observedUnixNanos = some d.issuedObservedUnixNanos &&
      o.expiryFloorUnixNanos = some d.issuedEffectiveUnixNanos

/-- Every text is read as the nanoseconds beside it. -/
def auditTexts : Bool :=
  env.parseNanos d.grantExpiresAt = some d.grantExpiryUnixNanos &&
    d.approvalRequestExpiresAt.bind env.parseNanos = d.approvalRequestExpiryUnixNanos &&
    d.approvedUntil.bind env.parseNanos = d.approvedUntilUnixNanos

/-- `authority_grant_deadline_objects_current`, on one row. -/
def deadlineAudit : Bool :=
  approvalColumns d && auditGrant store d && auditApproval store d && auditClock store d &&
    d.issuedMonotonicNanos < d.deadlineMonotonicNanos &&
    d.issuedEffectiveUnixNanos < d.effectiveExpiryUnixNanos &&
    d.effectiveExpiryUnixNanos ≤ d.grantExpiryUnixNanos &&
    (d.deadlineMonotonicNanos - d.issuedMonotonicNanos =
      d.effectiveExpiryUnixNanos - d.issuedEffectiveUnixNanos) && auditTexts env d

end Audit

/-! ## 3. Issuing -/

/-- A grant as the check of its deadline reads it. -/
def GrantRow.checked (g : GrantRow) : Tasks.GrantRow where
  grantId := g.grantId
  tokenId := some g.tokenId
  taskId := g.taskId
  executionBindingId := some g.executionBindingId
  attemptId := some g.attemptId
  policyDecisionId := g.policyDecisionId
  approvalId := g.approvalId
  state := g.state
  issuedAt := g.issuedAt
  expiresAt := g.expiresAt
  revokedAt := none
  revocationReasonCode := none

def ApprovalRow.checked (a : ApprovalRow) : Tasks.ApprovalRow :=
  ⟨a.approvalId, a.authorityRequestId, a.taskId, a.semanticProgramHash, a.nodeId, a.status, some a.expiresAt⟩

def ApprovalDecisionRow.checked (ad : ApprovalDecisionRow) : Tasks.ApprovalDecisionRow :=
  ⟨ad.decisionId, ad.approvalId, ad.decision, ad.approvedUntil⟩

/-- The tables the readers of a deadline use; the others are left empty. -/
def PolicyStore.deadlineTables (store : PolicyStore) : Tasks.Store Unit where
  core := {
    tasks := ∅
    events := []
    steps := []
    plans := []
    programs := []
    validations := []
    bindings := []
    candidates := []
    grants := store.grants.map GrantRow.checked
    issuances := store.issuances
    deadlines := store.deadlines
    approvals := store.approvals.map ApprovalRow.checked
    authorityRequests := []
    approvalDecisions := store.approvalDecisions.map ApprovalDecisionRow.checked
    lease := store.lease
    pendingMarkers := []
    other := () }
  receipts := ∅
  clock := store.clock

/-- The approval behind a grant is in the tables, with the texts the deadline takes. -/
def Given (store : PolicyStore) (approval : Option ApprovalEvidence) : Prop :=
  ∀ e, approval = some e →
    (∃ a ∈ store.approvals, a.approvalId = e.approvalId ∧ a.status = "APPROVED" ∧ a.expiresAt = e.expiresAt) ∧
      ∃ ad ∈ store.approvalDecisions, ad.decisionId = e.decisionId ∧ ad.approvalId = e.approvalId ∧
        ad.decision = "APPROVE" ∧ ad.approvedUntil = some e.approvedUntil

/-- The texts of an approval that limit a deadline. -/
def ApprovalEvidence.sources (e : ApprovalEvidence) : ApprovalExpirySources := ⟨e.expiresAt, e.approvedUntil⟩

/-- The grant was inserted into the store with its receipt and its deadline. -/
structure GrantInserted (env : PolicyEnv) (lease : Tasks.Lease) (time : Tasks.ProtectedTimeContext)
    (store : PolicyStore) (g : GrantRow) (approval : Option ApprovalEvidence)
    (prepared : PreparedGrantDeadline) : Prop where
  derivation : prepareLocalArtifactDeadline env time (approval.map ApprovalEvidence.sources) = .ok prepared
  expires : g.expiresAt = prepared.grantExpiresAt
  approved : g.approvalId = approval.map ApprovalEvidence.approvalId
  given : Given store approval
  insertable : grantInsertable store g lease time = true

/-- The store with the grant, its receipt and its deadline. -/
def PolicyStore.insertGrant (store : PolicyStore) (g : GrantRow) (d : Tasks.DeadlineRow) : PolicyStore :=
  { store with
    grants := store.grants ++ [g]
    issuances := store.issuances ++ [g.issuance]
    deadlines := store.deadlines ++ [d] }

variable {store store' : PolicyStore} {facts : CandidateFacts} {evaluation : CandidatePolicyEvaluation}
  {activation : ActivationRow} {time : Tasks.ProtectedTimeContext} {lease : Tasks.Lease}

theorem approvalEvidence_given {d : CandidatePolicyDecision} {revision : Nat} {instant : Int} {id : String}
    {e : ApprovalEvidence} (h : approvalEvidence env store facts d revision instant id = .ok e) :
    e.approvalId = id ∧ Given store (some e) := by
  unfold approvalEvidence at h
  simp only [bind_eq_ok', exists_unit, rejectIf_ok, expect_ok] at h
  obtain ⟨a, ha, _, ad, had, limit, huntil, _, _, h⟩ := h
  obtain rfl := Except.ok.inj h
  have hap := List.find?_some ha
  have hadp := List.find?_some had
  simp only [Bool.and_eq_true, decide_eq_true_eq] at hap hadp
  refine ⟨rfl, fun e' he => ?_⟩
  obtain rfl := Option.some.inj he
  exact ⟨⟨a, List.mem_of_find?_eq_some ha, hap.1, hap.2, rfl⟩,
    ad, List.mem_of_find?_eq_some had, rfl, hadp.1.1, hadp.1.2, huntil⟩

/-- One step of the issuance inserts one grant. -/
theorem issueGrant_inserted {r : ResourceFacts} {id : String}
    (h : issueGrant env facts evaluation activation time lease store r = .ok (store', id)) :
    ∃ g approval prepared, GrantInserted env lease time store g approval prepared ∧ id = g.grantId ∧
      store' = store.insertGrant g (g.deadline prepared approval lease time) := by
  unfold issueGrant at h
  split at h
  · rename_i d _
    simp only [bind_eq_ok', exists_unit, rejectIf_ok] at h
    obtain ⟨_, instant, _, approval, happroval, prepared, hprepared, grantsJson, _, hinsert, h⟩ := h
    have e := Except.ok.inj h
    have hgiven : approval.map ApprovalEvidence.approvalId = d.approvalId ∧ Given store approval := by
      cases hid : d.approvalId with
      | none =>
          rw [hid] at happroval
          obtain rfl := Except.ok.inj happroval
          exact ⟨rfl, fun e he => by cases he⟩
      | some id =>
          rw [hid] at happroval
          simp only [optionalApprovalEvidence, bind_eq_ok'] at happroval
          obtain ⟨ev, hev, happroval⟩ := happroval
          obtain rfl := Except.ok.inj happroval
          obtain ⟨rfl, hg⟩ := approvalEvidence_given hev
          exact ⟨rfl, hg⟩
    exact ⟨_, approval, prepared, ⟨hprepared, rfl, hgiven.1.symm, hgiven.2, by simpa using hinsert⟩,
      (congrArg Prod.snd e).symm, (congrArg Prod.fst e).symm⟩
  · cases h

/-- Grants with their receipts and deadlines were added; what they are read with is as before. -/
structure Granted (before after : PolicyStore) : Prop where
  grants : before.grants <+: after.grants
  issuances : before.issuances <+: after.issuances
  deadlines : before.deadlines <+: after.deadlines
  clock : after.clock = before.clock
  approvals : after.approvals = before.approvals
  approvalDecisions : after.approvalDecisions = before.approvalDecisions
  lease : after.lease = before.lease

theorem Granted.refl (store : PolicyStore) : Granted store store :=
  ⟨List.prefix_refl _, List.prefix_refl _, List.prefix_refl _, rfl, rfl, rfl, rfl⟩

theorem Granted.trans {a b c : PolicyStore} (h : Granted a b) (k : Granted b c) : Granted a c :=
  ⟨h.grants.trans k.grants, h.issuances.trans k.issuances, h.deadlines.trans k.deadlines,
    k.clock.trans h.clock, k.approvals.trans h.approvals, k.approvalDecisions.trans h.approvalDecisions,
    k.lease.trans h.lease⟩

theorem granted_insertGrant (store : PolicyStore) (g : GrantRow) (d : Tasks.DeadlineRow) :
    Granted store (store.insertGrant g d) :=
  ⟨List.prefix_append _ _, List.prefix_append _ _, List.prefix_append _ _, rfl, rfl, rfl, rfl⟩

theorem Given.granted {approval : Option ApprovalEvidence} (h : Given store approval)
    (k : Granted store store') : Given store' approval := by
  unfold Given
  rw [k.approvals, k.approvalDecisions]
  exact h

/-- The row stands in the store: its key finds it, its grant and its receipt. -/
structure Stands (env : PolicyEnv) (lease : Tasks.Lease) (time : Tasks.ProtectedTimeContext)
    (store : PolicyStore) (g : GrantRow) (approval : Option ApprovalEvidence)
    (prepared : PreparedGrantDeadline) : Prop where
  derivation : prepareLocalArtifactDeadline env time (approval.map ApprovalEvidence.sources) = .ok prepared
  expires : g.expiresAt = prepared.grantExpiresAt
  approved : g.approvalId = approval.map ApprovalEvidence.approvalId
  given : Given store approval
  grant : store.grants.find? (fun x => x.grantId = g.grantId) = some g
  issuance : store.issuances.find? (fun x => x.grantId = g.grantId) = some g.issuance
  deadline : store.deadlines.find? (fun x => x.grantId = g.grantId) =
    some (g.deadline prepared approval lease time)
  current : Tasks.currentObservation store.clock time = true

theorem Stands.granted {g : GrantRow} {approval : Option ApprovalEvidence} {prepared : PreparedGrantDeadline}
    (h : Stands env lease time store g approval prepared) (k : Granted store store') :
    Stands env lease time store' g approval prepared where
  derivation := h.derivation
  expires := h.expires
  approved := h.approved
  given := h.given.granted k
  grant := k.grants.find?_eq_some h.grant
  issuance := k.issuances.find?_eq_some h.issuance
  deadline := k.deadlines.find?_eq_some h.deadline
  current := k.clock ▸ h.current

/-- What is inserted under a free key stands. -/
theorem GrantInserted.stands {g : GrantRow} {approval : Option ApprovalEvidence} {prepared : PreparedGrantDeadline}
    (h : GrantInserted env lease time store g approval prepared) :
    Stands env lease time (store.insertGrant g (g.deadline prepared approval lease time)) g approval prepared := by
  have hinsert := h.insertable
  unfold grantInsertable at hinsert
  simp only [Bool.and_eq_true, List.all_eq_true, decide_eq_true_eq] at hinsert
  obtain ⟨⟨⟨⟨hgrants, hissuances⟩, hdeadlines⟩, _⟩, hcurrent⟩ := hinsert
  refine ⟨h.derivation, h.expires, h.approved, h.given.granted (granted_insertGrant _ _ _), ?_, ?_, ?_, hcurrent⟩
  · exact (find?_append_fresh fun x hx => (hgrants x hx).1).trans (if_pos rfl)
  · exact (find?_append_fresh fun x hx => hissuances x hx).trans (if_pos rfl)
  · exact (find?_append_fresh fun x hx => (hdeadlines x hx).1).trans (if_pos rfl)

theorem GrantInserted.fresh {g : GrantRow} {approval : Option ApprovalEvidence} {prepared : PreparedGrantDeadline}
    (h : GrantInserted env lease time store g approval prepared) : ∀ x ∈ store.deadlines, x.grantId ≠ g.grantId := by
  have hinsert := h.insertable
  unfold grantInsertable at hinsert
  simp only [Bool.and_eq_true, List.all_eq_true, decide_eq_true_eq] at hinsert
  exact fun x hx => (hinsert.1.1.2 x hx).1

/-- **Every deadline of a run of the issuance stands** in the store the run leaves. -/
theorem issueGrants_stands {resources : List ResourceFacts} {ids : List String}
    (h : issueGrants env facts evaluation activation time lease store resources = .ok (store', ids)) :
    Granted store store' ∧ ∃ added, store'.deadlines = store.deadlines ++ added ∧
      added.map Tasks.DeadlineRow.grantId = ids ∧ ∀ d ∈ added, ∃ g approval prepared,
        d = g.deadline prepared approval lease time ∧
          Stands env lease time store' g approval prepared ∧ ∀ x ∈ store.deadlines, x.grantId ≠ g.grantId := by
  induction resources generalizing store ids with
  | nil =>
      have e := Except.ok.inj h
      obtain rfl : store = store' := congrArg Prod.fst e
      obtain rfl : [] = ids := congrArg Prod.snd e
      exact ⟨Granted.refl _, [], (List.append_nil _).symm, rfl, fun d hd => by cases hd⟩
  | cons r rest ih =>
      simp only [issueGrants, bind_eq_ok'] at h
      obtain ⟨⟨middle, id⟩, hone, ⟨last, restIds⟩, hrest, h⟩ := h
      have e := Except.ok.inj h
      obtain rfl : last = store' := congrArg Prod.fst e
      obtain rfl : id :: restIds = ids := congrArg Prod.snd e
      obtain ⟨g, approval, prepared, hinserted, rfl, rfl⟩ := issueGrant_inserted hone
      obtain ⟨hgranted, added, hadded, hids, hstand⟩ := ih hrest
      refine ⟨(granted_insertGrant _ _ _).trans hgranted, g.deadline prepared approval lease time :: added,
        ?_, ?_, fun d hd => ?_⟩
      · rw [hadded]
        simp [PolicyStore.insertGrant]
      · rw [List.map_cons, hids]
        rfl
      · rcases List.mem_cons.mp hd with rfl | hd
        · exact ⟨g, approval, prepared, rfl, hinserted.stands.granted hgranted, hinserted.fresh⟩
        · obtain ⟨g', approval', prepared', hd, hstands, hfresh⟩ := hstand d hd
          exact ⟨g', approval', prepared', hd, hstands,
            fun x hx => hfresh x (List.mem_append_left _ hx)⟩

/-! ## 4. What every reader finds -/

/-- The store a finalisation issues in: the keys of its tables are kept, a latch stands on a deadline,
    and the context is that of a committed sample. -/
structure Issuable (env : PolicyEnv) (time : Tasks.ProtectedTimeContext) (store : PolicyStore) : Prop where
  context : ∃ before committed, ∃ o : Tasks.LockedTimeObservation,
    o.commitContextIn env.time before = .ok (committed, time)
  epoch : ∀ l, store.lease = some l → 1 ≤ l.fenceEpoch
  sessions : store.clock.sessions.Pairwise fun a b => a.sessionId ≠ b.sessionId
  observations : store.clock.observations.Pairwise fun a b => a.stateRevision ≠ b.stateRevision
  approvals : store.approvals.Pairwise fun a b => a.approvalId ≠ b.approvalId
  approvalDecisions : store.approvalDecisions.Pairwise fun a b => a.decisionId ≠ b.decisionId
  latches : ∀ x ∈ store.clock.latches, ∃ d ∈ store.deadlines, d.grantId = x.grantId

/-- The session of the lease stands exactly at the time at hand. -/
structure SessionAt (lease : Tasks.Lease) (time : Tasks.ProtectedTimeContext) (clock : Tasks.Clock) : Prop where
  found : ∃ c, clock.sessions.find? (fun c => c.sessionId = lease.ownerId) = some c ∧
    c.ownerId = lease.ownerId ∧ c.ownerEpoch = lease.fenceEpoch ∧
    c.highWaterStateRevision = time.stateRevision ∧ c.highWaterMonotonicNanos = time.monotonicNanos ∧
    c.highWaterObservedUnixNanos = time.observedUnixNanos

/-- An advance moves the one session of the lease to the time at hand, and nothing else. -/
theorem advanceClockSession_stands (h : advanceClockSession store lease time = .ok store')
    (hkeys : store.clock.sessions.Pairwise fun a b => a.sessionId ≠ b.sessionId) :
    store.lease = some lease ∧ SessionAt lease time store'.clock ∧
      ∃ sessions, store' = { store with clock := { store.clock with sessions := sessions } } := by
  unfold advanceClockSession assertManagerLease at h
  simp only [bind_eq_ok', exists_unit, rejectIf_ok] at h
  obtain ⟨hlease, hone, h⟩ := h
  obtain rfl := Except.ok.inj h
  refine ⟨by simpa using hlease, ⟨?_⟩, _, rfl⟩
  have hlen : (store.clock.sessions.filter (Tasks.sessionBehind lease time)).length = 1 := by simpa using hone
  obtain ⟨row, hrow⟩ := List.length_eq_one_iff.mp hlen
  have hmem : row ∈ store.clock.sessions.filter (Tasks.sessionBehind lease time) := by
    rw [hrow]
    exact List.mem_singleton.mpr rfl
  obtain ⟨hin, hbehind⟩ := List.mem_filter.mp hmem
  have hkeep : ∀ c : Tasks.ClockSessionRow,
      (if Tasks.sessionBehind lease time c then c.advance time else c).sessionId = c.sessionId := by
    intro c
    split <;> rfl
  have hfields := hbehind
  unfold Tasks.sessionBehind at hfields
  simp only [Bool.and_eq_true, decide_eq_true_eq] at hfields
  obtain ⟨⟨⟨⟨hid, howner⟩, hepoch⟩, _⟩, _⟩ := hfields
  refine ⟨row.advance time, ?_, howner, hepoch, rfl, rfl, rfl⟩
  show (store.clock.sessions.map _).find? _ = _
  rw [find?_map_key hkeep, ← hid, find?_of_mem hkeys hin, Option.map_some, if_pos hbehind]

/-- The formatter writes what the parser reads back. -/
def ReadsBack (time : Tasks.TimeEnv) : Prop :=
  ∀ nanos text, time.formatNanos nanos = some text → time.rfc3339 text = some nanos

/-- What the readers of a new row find around it. -/
structure Around (lease : Tasks.Lease) (time : Tasks.ProtectedTimeContext) (store : PolicyStore)
    (g : GrantRow) : Prop where
  session : SessionAt lease time store.clock
  held : store.lease = some lease
  epoch : 1 ≤ lease.fenceEpoch
  effective : time.observedUnixNanos ≤ time.effectiveUnixNanos
  observations : store.clock.observations.Pairwise fun a b => a.stateRevision ≠ b.stateRevision
  approvals : store.approvals.Pairwise fun a b => a.approvalId ≠ b.approvalId
  approvalDecisions : store.approvalDecisions.Pairwise fun a b => a.decisionId ≠ b.decisionId
  unlatched : ∀ x ∈ store.clock.latches, x.grantId ≠ g.grantId

theorem foldl_min_le {caps : List Int} {cap : Int} {x : Int} (hx : x ∈ caps) : caps.foldl min cap ≤ x := by
  induction caps generalizing cap with
  | nil => cases hx
  | cons y rest ih =>
      have hbelow : ∀ (l : List Int) (c : Int), l.foldl min c ≤ c := by
        intro l
        induction l with
        | nil => exact fun c => le_refl c
        | cons z l ihl => exact fun c => (ihl (min c z)).trans (min_le_left c z)
      rcases List.mem_cons.mp hx with rfl | hx
      · exact (hbelow rest _).trans (min_le_right cap x)
      · exact ih hx

section Readers

variable {g : GrantRow} {evidence : Option ApprovalEvidence}

/-- The approval columns of a derived row, by the approval behind it. -/
theorem approvalColumns_derived (hd : Derived env now monotonic (evidence.map ApprovalEvidence.sources) p) :
    approvalColumns (g.deadline p evidence lease time) = true := by
  cases evidence with
  | none =>
      obtain ⟨hr, ha⟩ := hd.caps
      simp [approvalColumns, GrantRow.deadline, hr, ha]
  | some e =>
      obtain ⟨request, approved, hreq, happ, hr, ha⟩ := hd.caps
      have hcaps : wallCaps env ((some e).map ApprovalEvidence.sources) = [request, approved] := by
        simp [wallCaps, hreq, happ]
      have hexpiry := hd.expiry
      rw [hcaps] at hexpiry
      have hle : p.effectiveExpiryUnixNanos ≤ request := hexpiry ▸ foldl_min_le (by simp)
      have hle' : p.effectiveExpiryUnixNanos ≤ approved := hexpiry ▸ foldl_min_le (by simp)
      simp [approvalColumns, GrantRow.deadline, hr, ha, hle, hle']

/-- **The table accepts a derived row.** -/
theorem deadlineCheck_derived
    (hd : Derived env time.effectiveUnixNanos time.monotonicNanos (evidence.map ApprovalEvidence.sources) p)
    (hepoch : 1 ≤ lease.fenceEpoch) (heffective : time.observedUnixNanos ≤ time.effectiveUnixNanos) :
    deadlineCheck (g.deadline p evidence lease time) = true := by
  have hcolumns : approvalColumns (g.deadline p evidence lease time) = true := approvalColumns_derived hd
  obtain ⟨⟨hnow, hmono⟩, _, _, hgrant, _, ⟨hpos, _⟩, hdeadline, _⟩ := hd
  simp only [deadlineCheck, hcolumns, Bool.and_eq_true, Bool.and_true, decide_eq_true_eq]
  dsimp only [GrantRow.deadline]
  omega

/-- Every text of a derived row is read as the nanoseconds beside it. -/
theorem auditTexts_derived (hwritten : ReadsBack env.time)
    (hd : Derived env now monotonic (evidence.map ApprovalEvidence.sources) p) :
    auditTexts env.time (g.deadline p evidence lease time) = true := by
  obtain ⟨⟨hnow, _⟩, hcaps, _, hgrant, htext, ⟨hpos, _⟩, _, ⟨hlt, _⟩⟩ := hd
  have hparse : env.time.parseNanos p.grantExpiresAt = some p.grantExpiryUnixNanos := by
    unfold Tasks.TimeEnv.parseNanos
    rw [hwritten _ _ htext, hgrant]
    exact toI64_eq_some.mpr ⟨rfl, by omega, hlt⟩
  cases evidence with
  | none =>
      obtain ⟨hr, ha⟩ := hcaps
      simp [auditTexts, GrantRow.deadline, hparse, hr, ha]
  | some e =>
      obtain ⟨request, approved, hreq, happ, hr, ha⟩ := hcaps
      have hreq : env.time.parseNanos e.expiresAt = some request := hreq
      have happ : env.time.parseNanos e.approvedUntil = some approved := happ
      simp [auditTexts, GrantRow.deadline, hparse, hr, ha, hreq, happ]

/-- The grant under the row's key, as the readers see it. -/
theorem Stands.checked_grant (h : Stands env lease time store g evidence p) :
    store.deadlineTables.core.grants.find? (fun x => x.grantId = g.grantId) = some g.checked := by
  show (store.grants.map GrantRow.checked).find? _ = _
  rw [List.find?_map]
  show (store.grants.find? fun x => x.grantId = g.grantId).map GrantRow.checked = _
  rw [h.grant]
  rfl

theorem Stands.auditGrant (h : Stands env lease time store g evidence p) :
    auditGrant store.deadlineTables (g.deadline p evidence lease time) = true := by
  have hissuance : store.deadlineTables.core.issuances.find? (fun x => x.grantId = g.grantId) =
    some g.issuance := h.issuance
  have hgrant := h.checked_grant
  have hexpires := h.expires
  have happroved := h.approved
  unfold Policy.auditGrant
  rw [show (g.deadline p evidence lease time).grantId = g.grantId from rfl, hissuance, hgrant]
  simp [GrantRow.issuance, GrantRow.checked, GrantRow.deadline, hexpires, happroved]

/-- The approval under the row's keys, as the readers see it. -/
theorem Stands.checked_approval (h : Stands env lease time store g evidence p) {e : ApprovalEvidence}
    (he : evidence = some e) :
    (∃ a ∈ store.deadlineTables.core.approvals, a.approvalId = e.approvalId ∧ a.status = "APPROVED" ∧
        a.expiresAt = some e.expiresAt) ∧
      ∃ ad ∈ store.deadlineTables.core.approvalDecisions, ad.decisionId = e.decisionId ∧
        ad.approvalId = e.approvalId ∧ ad.decision = "APPROVE" ∧ ad.approvedUntil = some e.approvedUntil := by
  obtain ⟨⟨a, ha, hid, hstatus, hexpires⟩, ad, had, hdid, haid, hdecision, hlimit⟩ := h.given e he
  exact ⟨⟨a.checked, List.mem_map_of_mem ha, hid, hstatus, congrArg some hexpires⟩,
    ad.checked, List.mem_map_of_mem had, hdid, haid, hdecision, hlimit⟩

theorem Stands.auditApproval (h : Stands env lease time store g evidence p)
    (k : Around lease time store g) :
    auditApproval store.deadlineTables (g.deadline p evidence lease time) = true := by
  cases he : evidence with
  | none => rfl
  | some e =>
      obtain ⟨⟨a, ha, hid, _, hexpires⟩, ad, had, hdid, haid, hdecision, hlimit⟩ := h.checked_approval he
      have happrovals : store.deadlineTables.core.approvals.Pairwise fun a b => a.approvalId ≠ b.approvalId :=
        List.pairwise_map.mpr k.approvals
      have hdecisions : store.deadlineTables.core.approvalDecisions.Pairwise fun a b =>
          a.decisionId ≠ b.decisionId := List.pairwise_map.mpr k.approvalDecisions
      have hfound := find?_of_mem happrovals ha
      have hfound' := find?_of_mem hdecisions had
      rw [hid] at hfound
      rw [hdid] at hfound'
      have hlookup : store.deadlineTables.core.approvalDecisions.find? (fun ad =>
          (g.deadline p (some e) lease time).approvalDecisionId = some ad.decisionId) = some ad := by
        rw [← hfound']
        congr 1
        funext ad
        simp [GrantRow.deadline, eq_comm]
      unfold Policy.auditApproval
      rw [show (g.deadline p (some e) lease time).approvalId = some e.approvalId from rfl, Option.all_some,
        hfound, hlookup]
      simp [GrantRow.deadline, hexpires, haid, hdecision, hlimit]

/-- The observation of the time at hand, and the state it belongs to. -/
theorem current_row {clock : Tasks.Clock} (h : Tasks.currentObservation clock time = true) :
    ∃ o ∈ clock.observations, o.stateRevision = time.stateRevision ∧ o.confidence = .trustedLocal ∧
      o.monotonicNanos = some time.monotonicNanos ∧ o.observedUnixNanos = some time.observedUnixNanos ∧
      o.expiryFloorUnixNanos = some time.effectiveUnixNanos := by
  unfold Tasks.currentObservation at h
  simp only [Bool.and_eq_true, List.any_eq_true, decide_eq_true_eq] at h
  obtain ⟨_, o, ho, ⟨⟨⟨hrev, hconf⟩, hmono⟩, hobserved⟩, hfloor⟩ := h
  exact ⟨o, ho, hrev, hconf, hmono, hobserved, hfloor⟩

theorem Stands.auditClock (h : Stands env lease time store g evidence p) (k : Around lease time store g) :
    auditClock store.deadlineTables (g.deadline p evidence lease time) = true := by
  obtain ⟨c, hc, howner, hepoch, hrevision, hmono, _⟩ := k.session.found
  obtain ⟨o, ho, hrev, hconf, hmono', hobserved, hfloor⟩ := current_row h.current
  have hfound := find?_of_mem k.observations ho
  rw [hrev] at hfound
  have hc' : store.deadlineTables.clock.sessions.find? (fun c => c.sessionId = lease.ownerId) = some c := hc
  have hfound' : store.deadlineTables.clock.observations.find?
    (fun o => o.stateRevision = time.stateRevision) = some o := hfound
  unfold Policy.auditClock
  simp only [show (g.deadline p evidence lease time).sessionId = lease.ownerId from rfl,
    show (g.deadline p evidence lease time).issuedStateRevision = time.stateRevision from rfl, hc', hfound']
  simp [GrantRow.deadline, howner, hepoch, hrevision, hmono, hconf, hmono', hobserved, hfloor]

/-- **The startup accepts a row that stands.** -/
theorem Stands.audit (h : Stands env lease time store g evidence p) (k : Around lease time store g)
    (hwritten : ReadsBack env.time) :
    deadlineAudit env.time store.deadlineTables (g.deadline p evidence lease time) = true := by
  have hd := derived_of_ok h.derivation
  have hcolumns : approvalColumns (g.deadline p evidence lease time) = true := approvalColumns_derived hd
  have htexts : auditTexts env.time (g.deadline p evidence lease time) = true := auditTexts_derived hwritten hd
  obtain ⟨_, _, _, hgrant, _, ⟨hpos, _⟩, hdeadline, _⟩ := hd
  simp only [deadlineAudit, hcolumns, h.auditGrant, h.auditApproval k, h.auditClock k, htexts,
    Bool.and_eq_true, Bool.and_true, Bool.true_and, decide_eq_true_eq]
  dsimp only [GrantRow.deadline]
  omega

theorem Stands.deadlineGrant (h : Stands env lease time store g evidence p) :
    Tasks.deadlineGrant store.deadlineTables.core (g.deadline p evidence lease time) = true := by
  have hgrant := List.mem_of_find?_eq_some h.checked_grant
  have hexpires := h.expires
  have happroved := h.approved
  unfold Tasks.deadlineGrant
  rw [List.any_eq_true]
  exact ⟨g.checked, hgrant, by simp [GrantRow.checked, GrantRow.deadline, hexpires, happroved]⟩

theorem Stands.deadlineIssuance (h : Stands env lease time store g evidence p) :
    Tasks.deadlineIssuance store.deadlineTables.core (g.deadline p evidence lease time) = true := by
  have hissuance : g.issuance ∈ store.deadlineTables.core.issuances := List.mem_of_find?_eq_some h.issuance
  unfold Tasks.deadlineIssuance
  rw [List.any_eq_true]
  exact ⟨g.issuance, hissuance, by simp [GrantRow.issuance, GrantRow.deadline, Tasks.coordinatorProfile]⟩

theorem Stands.deadlineApproval (h : Stands env lease time store g evidence p) :
    Tasks.deadlineApproval store.deadlineTables.core (g.deadline p evidence lease time) = true := by
  have hd := derived_of_ok h.derivation
  cases he : evidence with
  | none =>
      subst he
      obtain ⟨hr, ha⟩ := hd.caps
      simp [Tasks.deadlineApproval, GrantRow.deadline, hr, ha]
  | some e =>
      obtain ⟨⟨a, ha, hid, hstatus, hexpires⟩, ad, had, hdid, haid, hdecision, hlimit⟩ := h.checked_approval he
      subst he
      obtain ⟨request, approved, _, _, hr, hu⟩ := hd.caps
      unfold Tasks.deadlineApproval
      rw [show (g.deadline p (some e) lease time).approvalId = some e.approvalId from rfl]
      simp only [Bool.and_eq_true, List.any_eq_true]
      refine ⟨⟨⟨⟨a, ha, ?_⟩, ad, had, ?_⟩, ?_⟩, ?_⟩
      · simp [GrantRow.deadline, hid, hstatus, hexpires]
      · simp [GrantRow.deadline, hdid, haid, hdecision, hlimit]
      · simp [GrantRow.deadline, hr]
      · simp [GrantRow.deadline, hu]

/-- The evidence of a row that stands is complete under its own context. -/
theorem Stands.complete (h : Stands env lease time store g evidence p) (k : Around lease time store g) :
    Tasks.deadlineEvidence store.deadlineTables.core store.deadlineTables.clock lease time
      (g.deadline p evidence lease time) = true := by
  obtain ⟨hnow, hmono⟩ := (derived_of_ok h.derivation).start
  obtain ⟨c, hc, howner, hepoch, hrevision, hticks, hobserved⟩ := k.session.found
  obtain ⟨o, ho, hrev, hconf, hmono', hwall, hfloor⟩ := current_row h.current
  have hid : c.sessionId = lease.ownerId := find?_key_eq hc
  have hsession : Tasks.deadlineSession store.deadlineTables.clock time (g.deadline p evidence lease time) = true := by
    unfold Tasks.deadlineSession
    rw [List.any_eq_true]
    exact ⟨c, List.mem_of_find?_eq_some hc,
      by simp [GrantRow.deadline, hid, howner, hepoch, hrevision, hticks, hobserved]⟩
  have hissued : Tasks.deadlineIssuedObservation store.deadlineTables.clock
      (g.deadline p evidence lease time) = true := by
    unfold Tasks.deadlineIssuedObservation
    rw [List.any_eq_true]
    exact ⟨o, ho, by simp [GrantRow.deadline, hrev, hconf, hmono', hwall, hfloor]⟩
  have hcurrent : Tasks.currentObservation store.deadlineTables.clock time = true := h.current
  have hlatch : (store.deadlineTables.clock.latches.all fun x =>
      decide (x.grantId ≠ (g.deadline p evidence lease time).grantId)) = true := by
    rw [List.all_eq_true]
    exact fun x hx => decide_eq_true (k.unlatched x hx)
  -- the issuance is the present: nothing lies between the two revisions
  have hticks' : Tasks.regressedTicks store.deadlineTables.clock time (g.deadline p evidence lease time) = false := by
    unfold Tasks.regressedTicks
    rw [List.any_eq_false]
    intro x _
    have hnone : ¬ (time.stateRevision ≤ x.stateRevision ∧ x.stateRevision < time.stateRevision) := by omega
    simp only [Bool.and_eq_true, decide_eq_true_eq]
    exact fun hx => hnone hx.1.1
  have hheld : store.deadlineTables.core.lease = some lease := k.held
  unfold Tasks.deadlineEvidence
  rw [h.deadlineGrant, h.deadlineIssuance, hsession, hissued, hcurrent, h.deadlineApproval, hlatch, hticks', hheld]
  simp [GrantRow.deadline, hnow, hmono]

/-- The limits of a derived row agree with each other. -/
theorem deadlineConsistent_derived (hwritten : ReadsBack env.time)
    (hd : Derived env time.effectiveUnixNanos time.monotonicNanos (evidence.map ApprovalEvidence.sources) p) :
    Tasks.deadlineConsistent (g.deadline p evidence lease time) env.time = true := by
  have htexts : auditTexts env.time (g.deadline p evidence lease time) = true := auditTexts_derived hwritten hd
  have hcolumns : approvalColumns (g.deadline p evidence lease time) = true := approvalColumns_derived hd
  obtain ⟨⟨hnow, hmono⟩, _, _, hgrant, _, ⟨hpos, hlife⟩, hdeadline, hlt, hticks⟩ := hd
  have hduration : ((Tasks.toI64 (p.effectiveExpiryUnixNanos - time.effectiveUnixNanos)).filter (0 < ·)).bind
      (fun duration => Tasks.toI64 (time.monotonicNanos + duration)) = some p.deadlineMonotonicNanos := by
    rw [toI64_eq_some.mpr ⟨rfl, by omega, by omega⟩, Option.filter_some, if_pos (decide_eq_true hpos),
      Option.bind_some]
    exact toI64_eq_some.mpr ⟨hdeadline, by omega, by omega⟩
  have hleast : p.effectiveExpiryUnixNanos = min (min p.grantExpiryUnixNanos
      (p.approvalRequestExpiryUnixNanos.getD (2 ^ 63 - 1))) (p.approvedUntilUnixNanos.getD (2 ^ 63 - 1)) := by
    unfold approvalColumns at hcolumns
    cases evidence with
    | none =>
        simp only [GrantRow.deadline, Option.map_none, Bool.and_eq_true, Option.isNone_iff_eq_none] at hcolumns
        rw [hcolumns.1.1.1.2, hcolumns.2, Option.getD_none, hgrant]
        omega
    | some e =>
        simp only [GrantRow.deadline, Option.map_some, Bool.and_eq_true, Option.any_eq_true] at hcolumns
        obtain ⟨⟨_, request, hr, hle⟩, approved, ha, hle'⟩ := hcolumns
        have hle := of_decide_eq_true hle
        have hle' := of_decide_eq_true hle'
        rw [hr, ha, Option.getD_some, Option.getD_some, hgrant]
        omega
  unfold auditTexts at htexts
  unfold Tasks.deadlineConsistent
  rw [htexts]
  simp only [Bool.true_and, Bool.and_eq_true, decide_eq_true_eq]
  exact ⟨hduration, hleast⟩

/-- **An immediate check of a row that stands is valid.** -/
theorem Stands.valid (h : Stands env lease time store g evidence p) (k : Around lease time store g)
    (hwritten : ReadsBack env.time) :
    Tasks.checkGrantDeadline env.time store.deadlineTables g.grantId lease time = .valid := by
  have hd := derived_of_ok h.derivation
  have hfound : store.deadlineTables.core.deadlines.find? (fun d => d.grantId = g.grantId) =
    some (g.deadline p evidence lease time) := h.deadline
  have hpos := hd.life.1
  have hdeadline := hd.deadline
  have hticks : ¬ (g.deadline p evidence lease time).deadlineMonotonicNanos ≤ time.monotonicNanos := by
    dsimp only [GrantRow.deadline]
    omega
  have hwall : ¬ (g.deadline p evidence lease time).effectiveExpiryUnixNanos ≤ time.effectiveUnixNanos := by
    dsimp only [GrantRow.deadline]
    omega
  unfold Tasks.checkGrantDeadline
  rw [hfound]
  simp only [h.complete k, deadlineConsistent_derived hwritten hd, Bool.not_true, Bool.or_self,
    Bool.false_eq_true, if_false, hticks, hwall]

end Readers

/-! ## 5. The claim of a deadline -/

/-- A row as it was derived for the context, and what every reader makes of it. -/
structure Accepted (env : PolicyEnv) (lease : Tasks.Lease) (time : Tasks.ProtectedTimeContext)
    (store : PolicyStore) (d : Tasks.DeadlineRow) : Prop where
  derived : ∃ evidence p, prepareLocalArtifactDeadline env time (Option.map ApprovalEvidence.sources evidence) = .ok p ∧
    d.grantExpiresAt = p.grantExpiresAt ∧ d.grantExpiryUnixNanos = p.grantExpiryUnixNanos ∧
    d.effectiveExpiryUnixNanos = p.effectiveExpiryUnixNanos ∧
    d.deadlineMonotonicNanos = p.deadlineMonotonicNanos ∧
    d.approvalRequestExpiryUnixNanos = p.approvalRequestExpiryUnixNanos ∧
    d.approvedUntilUnixNanos = p.approvedUntilUnixNanos
  check : deadlineCheck d = true
  audit : deadlineAudit env.time store.deadlineTables d = true
  valid : Tasks.checkGrantDeadline env.time store.deadlineTables d.grantId lease time = .valid

/-- A finalisation issues on top of the advanced session. -/
theorem issueCandidateGrantsIn_advances {outside : Outside} {candidateId : String} {ids : List String}
    (h : issueCandidateGrantsIn env outside store candidateId evaluation time lease = .ok (store', ids)) :
    ∃ facts activation advanced, advanceClockSession store lease time = .ok advanced ∧
      issueGrants env facts evaluation activation time lease advanced facts.resources = .ok (store', ids) := by
  unfold issueCandidateGrantsIn at h
  simp only [bind_eq_ok', exists_unit, rejectIf_ok, expect_ok] at h
  obtain ⟨_, _, _, facts, _, _, _, activation, _, _, advanced, hadvance, hissue⟩ := h
  exact ⟨facts, activation, advanced, hadvance, hissue⟩

/-- **DEADLINES ARE EXACT.** A derivation is there exactly where nothing is over and no sum overflows,
    and it is the least cap; every row that a finalisation issues is one, and the table, the startup and
    the check of its grant accept it. -/
theorem deadline_derivation_exact (env : PolicyEnv) (hwritten : ReadsBack env.time) :
    (∀ now monotonic approval, (∃ p, deriveDeadline env now monotonic approval = .ok p) ↔
        Derivable env now monotonic approval) ∧
      (∀ now monotonic approval p, deriveDeadline env now monotonic approval = .ok p →
        Derived env now monotonic approval p) ∧
      (∀ outside store store' candidateId evaluation time lease ids, Issuable env time store →
        issueCandidateGrantsIn env outside store candidateId evaluation time lease = .ok (store', ids) →
          ∃ added, store'.deadlines = store.deadlines ++ added ∧ added.map Tasks.DeadlineRow.grantId = ids ∧
            ∀ d ∈ added, Accepted env lease time store' d) := by
  refine ⟨fun now monotonic approval => derivable_iff, fun now monotonic approval p h => derived_of_ok h, ?_⟩
  intro outside store store' candidateId evaluation time lease ids hissuable h
  obtain ⟨facts, activation, advanced, hadvance, hissue⟩ := issueCandidateGrantsIn_advances h
  obtain ⟨hlease, hsession, sessions, rfl⟩ := advanceClockSession_stands hadvance hissuable.sessions
  obtain ⟨hgranted, added, hadded, hids, hstands⟩ := issueGrants_stands hissue
  obtain ⟨before, committed, o, hcommit⟩ := hissuable.context
  refine ⟨added, hadded, hids, fun d hd => ?_⟩
  obtain ⟨g, evidence, p, rfl, hstand, hfresh⟩ := hstands d hd
  have hclock := hgranted.clock
  have k : Around lease time store' g := by
    refine ⟨hclock ▸ hsession, hgranted.lease.trans hlease, hissuable.epoch lease hlease,
      Tasks.context_effective hcommit, ?_, ?_, ?_, ?_⟩
    · rw [hclock]
      exact hissuable.observations
    · rw [hgranted.approvals]
      exact hissuable.approvals
    · rw [hgranted.approvalDecisions]
      exact hissuable.approvalDecisions
    · rw [hclock]
      intro x hx
      obtain ⟨d, hd, hid⟩ := hissuable.latches x hx
      rw [← hid]
      exact hfresh d hd
  exact ⟨⟨evidence, p, hstand.derivation, rfl, rfl, rfl, rfl, rfl, rfl⟩,
    deadlineCheck_derived (derived_of_ok hstand.derivation) k.epoch k.effective,
    hstand.audit k hwritten, hstand.valid k hwritten⟩

/-! ## 6. A sample: one input is read -/

/-- A program of one node that reads its input. -/
def readProgram : Json :=
  .obj [
    ("inputs", .obj [("doc", .obj [("type", .str "artifact.file@1")])]),
    ("nodes", .arr [.obj [
      ("authority_requests", .arr [
        .obj [("action", .str "artifact.read"), ("resource", .str "input:doc")]]),
      ("egress", .obj [("mode", .str "none")]),
      ("id", .str "scan"),
      ("inputs", .obj [("doc", .obj [("name", .str "doc"), ("source", .str "input")])]),
      ("operation", .obj [("capability", .str "artifact.scan@1")])]])]

def readParse (text : String) : Option Json := [readProgram, .obj []].find? fun v => plainText v = text

/-- SHA-256 at the two inputs the sample hashes. -/
def readDigest : Digest :=
  let identity := "candidate:1\x00artifact.read\x00input:doc".toUTF8.toList
  knownDigest [
    ("AIOS-CANDIDATE-GRANT\x00v1\x00".toUTF8.toList ++ identity,
      ⟨[248, 238, 186, 130, 22, 43, 106, 211, 96, 220, 247, 41, 47, 79, 63, 82, 179, 228, 158, 248, 43, 25,
        43, 83, 64, 186, 233, 124, 154, 22, 236, 189], rfl⟩),
    ("AIOS-CANDIDATE-TOKEN\x00v1\x00".toUTF8.toList ++ identity,
      ⟨[96, 211, 228, 223, 245, 105, 74, 224, 194, 46, 28, 100, 44, 224, 107, 145, 130, 166, 162, 1, 42, 241,
        34, 242, 203, 78, 8, 239, 74, 156, 254, 183], rfl⟩)]

/-- A hash that stands for every content of the sample. -/
def readHash : String := "sha256:5b1e0c4bb1d14a3ab2a1ba0b0ba2c8a3fd1aa9d5c4f3c6f7c3f8e1a0b6c7d8e9"

/-- The second of the issuance, and the second it expires in. -/
def readTimes : Tasks.TimeEnv where
  rfc3339 := fun text => if text = "1970-01-01T00:00:01Z" then some 1000000000
    else if text = "1970-01-01T00:05:01Z" then some 301000000000 else none
  formatNanos := fun nanos => if nanos = 1000000000 then some "1970-01-01T00:00:01Z"
    else if nanos = 301000000000 then some "1970-01-01T00:05:01Z" else none

theorem readTimes_readsBack : ReadsBack readTimes := by
  intro nanos text h
  simp only [readTimes] at h
  split at h
  · rename_i hn
    rw [← Option.some.inj h, hn]
    rfl
  · split at h
    · rename_i hn
      rw [← Option.some.inj h, hn]
      rfl
    · cases h

def readEnv : PolicyEnv where
  time := readTimes
  digest := readDigest
  canonicalJson := fun v => .ok (plainText v)
  parseStrict := readParse
  sqlJson := readParse
  parseJson := readParse
  jsonPointer := fun _ _ => none
  recomputeSemanticHash := fun text => if text = plainText readProgram then some readHash else none

def readLease : Tasks.Lease := ⟨"0123456789abcdef0123456789abcdef", 1⟩

/-- The first sample of the store. -/
def readSampleAt : Tasks.LockedTimeObservation :=
  ⟨some ⟨"1970-01-01T00:00:01Z", 5, .injectedClock⟩, some 1000000000⟩

def readClock : Tasks.Clock where
  state := some ⟨.unassessed, none, none, "TIME_UNASSESSED", 0⟩
  observations := []
  sessions := [⟨readLease.ownerId, readLease.ownerId, 1, 0, 0, 0, 1⟩]
  latches := []

def readContext : Tasks.ProtectedTimeContext := ⟨"1970-01-01T00:00:01Z", 1, 1000000000, 1000000000, 5⟩

def readReservation : ReservationRow where
  candidateId := "candidate:1"
  bindingId := "binding:1"
  attemptId := "attempt:1"
  taskId := "task:1"
  semanticProgramHash := readHash
  registrySnapshotId := "registry:1"
  irVersion := "0.1"
  nodeId := "scan"
  capability := "artifact.scan@1"
  capabilityContractHash := readHash
  providerRegistrationId := "registration:1"
  providerId := "provider:1"
  providerVersion := "1.0"
  providerManifestHash := readHash
  providerBuildHash := readHash
  conformanceEvidenceId := "evidence:1"
  providerTrustSourceId := "trust:1"
  executionProfileRef := "profile:stage1-local:P2"
  isolationClass := "P2"
  placementLocality := "local"
  attemptNumber := 1
  resourceCount := 1
  createdAt := "1970-01-01T00:00:01Z"

/-- The candidate is reserved and its one request is allowed. -/
def readStore : PolicyStore :=
  { PolicyStore.initial {
      tasks := [⟨"task:1", 1, .planning, "user", "user:1", none, some 1⟩]
      programs := [⟨"task:1", 1, "active", "0.1", some readHash, some "registry:1", plainText readProgram⟩]
      artifacts := [⟨"artifact:1", some "artifact.file@1", some 10, some readHash, "local", some "task", none,
        "verified"⟩]
      taskArtifacts := [⟨"task:1", "artifact:1", "input"⟩]
      exportServices := [] } with
    lease := some readLease
    clock := readClock.add (Tasks.sampleRow readTimes ⟨.unassessed, none, none, "TIME_UNASSESSED", 0⟩
      readSampleAt.sample false)
    reservations := [readReservation]
    resources := [⟨"candidate:1", "artifact.read", "input:doc", "artifact", "artifact:1", none,
      "artifact.file@1"⟩]
    statuses := [⟨"candidate:1", 1, .pending⟩]
    activations := [⟨1, readHash, "1970-01-01T00:00:01Z"⟩]
    requests := [⟨"request:1", "task:1", readHash, "registry:1", "scan", "artifact.scan@1", "provider",
      "provider:1", some "binding:1", some "attempt:1", "artifact.read", "artifact", "artifact:1",
      some "input:doc", "", "1970-01-01T00:00:01Z"⟩]
    decisions := [⟨"decision:1", "request:1", "task:1", readHash, "scan", "provider", "provider:1",
      "artifact.read", "artifact", "artifact:1", "ALLOW", readHash, none, [], "", "1970-01-01T00:00:01Z"⟩]
    fingerprints := [⟨"decision:1", "candidate:1", readHash, 1, "1970-01-01T00:00:01Z"⟩] }

def readEvaluation : CandidatePolicyEvaluation :=
  ⟨1, [⟨"artifact.read", "input:doc", "request:1", "decision:1", .allow, "POLICY_ALLOW", none, readHash⟩]⟩

def readOutside : Outside where
  activeProgramValidationValid := fun _ => .ok true
  providerPinsCurrent := fun _ _ => .ok true
  candidatePlanCoherent := fun _ => .ok true
  outputAdmitted := fun _ _ _ => .ok true
  eventAccepted := fun _ _ => .ok ()

theorem readStore_issuable : Issuable readEnv readContext readStore where
  context := ⟨readClock, _, readSampleAt, rfl⟩
  epoch := by
    intro l h
    rw [← Option.some.inj h]
    decide
  sessions := List.pairwise_singleton _ _
  observations := List.pairwise_singleton _ _
  approvals := List.Pairwise.nil
  approvalDecisions := List.Pairwise.nil
  latches := by
    intro x hx
    cases hx

theorem readIssue_one : (issueCandidateGrantsIn readEnv readOutside readStore "candidate:1" readEvaluation
    readContext readLease).toOption.any (fun r => r.2.length = 1) = true := by decide +kernel

/-- The one grant of the sample is issued, and every reader accepts its deadline. -/
theorem read_deadline_accepted : ∃ store' ids,
    issueCandidateGrantsIn readEnv readOutside readStore "candidate:1" readEvaluation readContext readLease =
        .ok (store', ids) ∧ ids.length = 1 ∧
      ∃ added, store'.deadlines = readStore.deadlines ++ added ∧ added.map Tasks.DeadlineRow.grantId = ids ∧
        ∀ d ∈ added, Accepted readEnv readLease readContext store' d := by
  cases hr : issueCandidateGrantsIn readEnv readOutside readStore "candidate:1" readEvaluation readContext
      readLease with
  | error e =>
      have h := readIssue_one
      rw [hr] at h
      cases h
  | ok r =>
      have hone := readIssue_one
      rw [hr] at hone
      exact ⟨r.1, r.2, rfl, of_decide_eq_true hone, (deadline_derivation_exact readEnv readTimes_readsBack).2.2
        readOutside readStore r.1 "candidate:1" readEvaluation readContext readLease r.2 readStore_issuable hr⟩

end Aios.Policy
