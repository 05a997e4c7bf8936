/-
  File:      Aios/Tasks/Deadline.lean
  Subject:   THE DEADLINE OF A GRANT: the clock session of a lease, the check of one grant, and the
             latch an expired grant leaves.

  The check is one query over the deadline, the grant, its issuance receipt, the session, the lease,
  the observation it was issued under and the observation at hand. A denial may move the session and
  add latches; it touches nothing else (`Latched`).
-/
import Aios.Tasks.Time

namespace Aios.Tasks

open Lib

variable {σ : Type}

/-! ## 1. The clock session -/

/-- The session of this lease, still behind the time at hand. -/
def sessionBehind (lease : Lease) (time : ProtectedTimeContext) (row : ClockSessionRow) : Bool :=
  row.sessionId = lease.ownerId && row.ownerId = lease.ownerId &&
    row.ownerEpoch = lease.fenceEpoch && row.highWaterMonotonicNanos ≤ time.monotonicNanos &&
    row.highWaterStateRevision < time.stateRevision

def ClockSessionRow.advance (row : ClockSessionRow) (time : ProtectedTimeContext) : ClockSessionRow :=
  { row with
    highWaterMonotonicNanos := time.monotonicNanos
    highWaterObservedUnixNanos := time.observedUnixNanos
    highWaterStateRevision := time.stateRevision
    revision := row.revision + 1 }

def advanceClockSessionIn (store : Store σ) (lease : Lease) (time : ProtectedTimeContext) :
    TaskResult (Store σ) := do
  assertManagerLease store lease
  rejectIf ((store.clock.sessions.filter (sessionBehind lease time)).length ≠ 1)
    (.invalidRecord "CLOCK_SESSION_INVALID")
  let sessions := store.clock.sessions.map fun row =>
    if sessionBehind lease time row then row.advance time else row
  return { store with clock := { store.clock with sessions := sessions } }

/-! ## 2. The check -/

inductive GrantDeadlineStatus where
  | valid
  | expiredMonotonic
  | expiredWall
  | invalidOrIncomplete
  deriving DecidableEq, Repr

section Check

variable (core : Core σ) (clock : Clock) (lease : Lease) (time : ProtectedTimeContext)
  (d : DeadlineRow)

/-- The grant the deadline was written for. -/
def deadlineGrant : Bool :=
  core.grants.any fun g => g.grantId = d.grantId && g.tokenId = some d.tokenId &&
    g.taskId = d.taskId && g.executionBindingId = some d.executionBindingId &&
    g.attemptId = some d.attemptId && g.policyDecisionId = d.policyDecisionId &&
    g.issuedAt = d.issuedAt && g.expiresAt = d.grantExpiresAt && g.approvalId = d.approvalId

def deadlineIssuance : Bool :=
  core.issuances.any fun r => r.grantId = d.grantId && r.tokenId = d.tokenId &&
    r.taskId = d.taskId && r.executionBindingId = d.executionBindingId &&
    r.attemptId = d.attemptId && r.policyDecisionId = d.policyDecisionId &&
    r.issuedAt = d.issuedAt && r.issuanceProfile = "coordinator-issued-v0.1"

/-- The session stands exactly at the time at hand. -/
def deadlineSession : Bool :=
  clock.sessions.any fun c => c.sessionId = d.sessionId && c.ownerId = d.ownerId &&
    c.ownerEpoch = d.ownerEpoch && c.highWaterStateRevision = time.stateRevision &&
    c.highWaterMonotonicNanos = time.monotonicNanos &&
    c.highWaterObservedUnixNanos = time.observedUnixNanos

/-- The observation the grant was issued under is still there. -/
def deadlineIssuedObservation : Bool :=
  clock.observations.any fun o => o.stateRevision = d.issuedStateRevision &&
    o.confidence = .trustedLocal && o.monotonicNanos = some d.issuedMonotonicNanos &&
    o.observedUnixNanos = some d.issuedObservedUnixNanos &&
    o.expiryFloorUnixNanos = some d.issuedEffectiveUnixNanos

/-- The time at hand is the recorded current time. -/
def currentObservation : Bool :=
  (clock.state.any fun s => s.confidence = .trustedLocal && s.revision = time.stateRevision &&
    s.expiryFloorUnixNanos = some time.effectiveUnixNanos) &&
  clock.observations.any fun o => o.stateRevision = time.stateRevision &&
    o.confidence = .trustedLocal && o.monotonicNanos = some time.monotonicNanos &&
    o.observedUnixNanos = some time.observedUnixNanos &&
    o.expiryFloorUnixNanos = some time.effectiveUnixNanos

/-- No approval, or one that is approved with exactly these limits. -/
def deadlineApproval : Bool :=
  match d.approvalId with
  | none => d.approvalRequestExpiresAt.isNone && d.approvalRequestExpiryUnixNanos.isNone &&
      d.approvalDecisionId.isNone && d.approvedUntil.isNone && d.approvedUntilUnixNanos.isNone
  | some approvalId =>
      (core.approvals.any fun a => a.approvalId = approvalId && a.status = "APPROVED" &&
        a.expiresAt.isSome && a.expiresAt = d.approvalRequestExpiresAt) &&
      (core.approvalDecisions.any fun decision => d.approvalDecisionId = some decision.decisionId &&
        decision.approvalId = approvalId && decision.decision = "APPROVE" &&
        decision.approvedUntil.isSome && decision.approvedUntil = d.approvedUntil) &&
      d.approvalRequestExpiryUnixNanos.isSome && d.approvedUntilUnixNanos.isSome

/-- An earlier observation since the issuance whose ticks are unknown or ahead. -/
def regressedTicks : Bool :=
  clock.observations.any fun o => d.issuedStateRevision ≤ o.stateRevision &&
    o.stateRevision < time.stateRevision && o.confidence = .trustedLocal &&
    o.monotonicNanos.all fun ticks => time.monotonicNanos < ticks

/-- The evidence of a grant's deadline is complete. -/
def deadlineEvidence : Bool :=
  d.ownerId = lease.ownerId && d.ownerEpoch = lease.fenceEpoch &&
    core.lease = some ⟨d.ownerId, d.ownerEpoch⟩ && deadlineGrant core d && deadlineIssuance core d &&
    deadlineSession clock time d && deadlineIssuedObservation clock d &&
    currentObservation clock time && d.issuedStateRevision ≤ time.stateRevision &&
    d.issuedMonotonicNanos ≤ time.monotonicNanos &&
    d.issuedEffectiveUnixNanos ≤ time.effectiveUnixNanos && 0 ≤ d.issuedMonotonicNanos &&
    0 ≤ d.issuedEffectiveUnixNanos && deadlineApproval core d &&
    (clock.latches.all fun x => x.grantId ≠ d.grantId) && !regressedTicks clock time d

/-- The limits agree with their texts and with each other. -/
def deadlineConsistent (env : TimeEnv) : Bool :=
  env.parseNanos d.grantExpiresAt = some d.grantExpiryUnixNanos &&
    d.approvalRequestExpiresAt.bind env.parseNanos = d.approvalRequestExpiryUnixNanos &&
    d.approvedUntil.bind env.parseNanos = d.approvedUntilUnixNanos &&
    -- the differences and sums are checked in 64 bits
    ((toI64 (d.effectiveExpiryUnixNanos - d.issuedEffectiveUnixNanos)).filter (0 < ·)).bind
      (fun duration => toI64 (d.issuedMonotonicNanos + duration)) = some d.deadlineMonotonicNanos &&
    d.effectiveExpiryUnixNanos = min (min d.grantExpiryUnixNanos
      (d.approvalRequestExpiryUnixNanos.getD (2 ^ 63 - 1))) (d.approvedUntilUnixNanos.getD (2 ^ 63 - 1))

end Check

section Latching

variable (env : TimeEnv) (store : Store σ) (grantId : String) (lease : Lease)
  (time : ProtectedTimeContext)

def checkGrantDeadline : GrantDeadlineStatus :=
  match store.core.deadlines.find? fun d => d.grantId = grantId with
  | none => .invalidOrIncomplete
  | some d =>
      if !deadlineEvidence store.core store.clock lease time d || !deadlineConsistent d env then
        .invalidOrIncomplete
      else if d.deadlineMonotonicNanos ≤ time.monotonicNanos then .expiredMonotonic
      else if d.effectiveExpiryUnixNanos ≤ time.effectiveUnixNanos then .expiredWall
      else .valid

/-- Latches an expiry: the store with the latch, or the error where no deadline is found. -/
def latchGrant (reason : LatchReason) : TaskResult (Store σ) := do
  let d ← expect (store.core.deadlines.find? fun d => d.grantId = grantId &&
      d.ownerId = lease.ownerId && d.ownerEpoch = lease.fenceEpoch)
    (.invalidRecord "AUTHORITY_EXPIRY_LATCH_FAILED")
  rejectIf (store.clock.latches.any fun x => x.grantId = grantId)
    (.storage "UNIQUE constraint failed: authority_grant_expiry_latches.grant_id")
  let latch : LatchRow := ⟨d.grantId, d.sessionId, d.ownerId, d.ownerEpoch, time.stateRevision,
    time.monotonicNanos, time.observedUnixNanos, time.effectiveUnixNanos, reason⟩
  return { store with clock := { store.clock with latches := store.clock.latches ++ [latch] } }

def checkAndLatchGrantDeadline : TaskResult (Store σ × Bool) :=
  match checkGrantDeadline env store grantId lease time with
  | .valid => .ok (store, true)
  | .expiredMonotonic => do
      let store ← latchGrant store grantId lease time .monotonicDeadline
      return (store, false)
  | .expiredWall => do
      let store ← latchGrant store grantId lease time .wallExpiry
      return (store, false)
  | .invalidOrIncomplete => .ok (store, false)

end Latching

/-! ## 3. What a denial changes -/

/-- The Tasks and the receipts are as before; observations and latches were only added. -/
structure Latched (before after : Store σ) : Prop where
  core : after.core = before.core
  receipts : after.receipts = before.receipts
  observations : before.clock.observations <+: after.clock.observations
  latches : before.clock.latches <+: after.clock.latches

theorem Latched.refl (store : Store σ) : Latched store store :=
  ⟨rfl, rfl, List.prefix_refl _, List.prefix_refl _⟩

theorem Latched.trans {a b c : Store σ} (h : Latched a b) (k : Latched b c) : Latched a c :=
  ⟨k.core.trans h.core, k.receipts.trans h.receipts, h.observations.trans k.observations,
    h.latches.trans k.latches⟩

variable {env : TimeEnv} {store store' : Store σ} {lease : Lease} {time : ProtectedTimeContext}

theorem latched_advanceClockSessionIn (h : advanceClockSessionIn store lease time = .ok store') :
    Latched store store' := by
  unfold advanceClockSessionIn at h
  simp only [bind_eq_ok', exists_unit, rejectIf_ok] at h
  obtain ⟨_, _, h⟩ := h
  rw [← Except.ok.inj h]
  exact ⟨rfl, rfl, List.prefix_refl _, List.prefix_refl _⟩

theorem latched_latchGrant {grantId : String} {reason : LatchReason}
    (h : latchGrant store grantId lease time reason = .ok store') : Latched store store' := by
  unfold latchGrant at h
  simp only [bind_eq_ok', exists_unit, rejectIf_ok, expect_ok] at h
  obtain ⟨_, _, _, h⟩ := h
  rw [← Except.ok.inj h]
  exact ⟨rfl, rfl, List.prefix_refl _, List.prefix_append _ _⟩

theorem latched_checkAndLatch {grantId : String} {valid : Bool}
    (h : checkAndLatchGrantDeadline env store grantId lease time = .ok (store', valid)) :
    Latched store store' := by
  have hlatch : ∀ reason, (do
      let store ← latchGrant store grantId lease time reason
      return (store, false)) = Except.ok (store', valid) → Latched store store' := by
    intro reason h
    rw [bind_eq_ok'] at h
    obtain ⟨s, hs, h⟩ := h
    have e : s = store' := congrArg Prod.fst (Except.ok.inj h)
    rw [← e]
    exact latched_latchGrant hs
  unfold checkAndLatchGrantDeadline at h
  split at h
  · have e : store = store' := congrArg Prod.fst (Except.ok.inj h)
    rw [← e]
    exact Latched.refl store
  · exact hlatch _ h
  · exact hlatch _ h
  · have e : store = store' := congrArg Prod.fst (Except.ok.inj h)
    rw [← e]
    exact Latched.refl store

end Aios.Tasks
