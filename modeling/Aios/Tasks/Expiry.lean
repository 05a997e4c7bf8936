/-
  File:      Aios/Tasks/Expiry.lean
  Subject:   EXPIRY IS IRREVERSIBLE: a grant that a check found expired, or whose lease has moved on,
             is never found valid again.

  * `GrantLive` -- what a valid check says about the two clocks, the caps and the session;
  * `ExpirySystem` -- the store with the managers alive, the samples of rolled-back transactions that
    their managers still have to record, and every check that was made;
  * `Doomed` -- why a grant cannot come back: the floor or the ticks have passed its limits on
    record, its lease cannot check any more, or a sample that will do so is owed;
  * **`grant_expiry_irreversible`** -- along every run.

  A manager whose transaction was rolled back records the sample of it before its next check; where
  it dies first, its lease dies with it.
-/
import Aios.Tasks.Deadline
import Aios.Tasks.Trust

namespace Aios.Tasks

open Lib

variable {σ : Type}

/-! ## 1. What a valid check says -/

/-- Every stored limit of a grant on the wall clock. -/
def DeadlineRow.wallCaps (d : DeadlineRow) : List Int :=
  d.grantExpiryUnixNanos :: (d.approvalRequestExpiryUnixNanos.toList ++ d.approvedUntilUnixNanos.toList)

/-- The lease a deadline was issued under. -/
def DeadlineRow.lease (d : DeadlineRow) : Lease := ⟨d.ownerId, d.ownerEpoch⟩

def Store.deadline? (store : Store σ) (grantId : String) : Option DeadlineRow :=
  store.core.deadlines.find? fun d => d.grantId = grantId

/-- What complete evidence says: the issuing lease still holds the store, its session stands at this
    time, and no trusted observation since the issuance is ahead of the ticks at hand. -/
structure Evidenced (store : Store σ) (lease : Lease) (time : ProtectedTimeContext) (d : DeadlineRow) :
    Prop where
  issuer : d.lease = lease ∧ store.core.lease = some lease
  session : ∃ c ∈ store.clock.sessions, c.sessionId = d.sessionId ∧ c.ownerId = lease.ownerId ∧
    c.ownerEpoch = lease.fenceEpoch ∧ c.highWaterMonotonicNanos = time.monotonicNanos
  trusted : ∃ state, store.clock.state = some state ∧ state.confidence = .trustedLocal ∧
    state.revision = time.stateRevision ∧ state.expiryFloorUnixNanos = some time.effectiveUnixNanos
  observed : ∃ o ∈ store.clock.observations, o.stateRevision = time.stateRevision ∧
    o.confidence = .trustedLocal ∧ o.monotonicNanos = some time.monotonicNanos
  issued : d.issuedStateRevision ≤ time.stateRevision
  unlatched : ∀ x ∈ store.clock.latches, x.grantId ≠ d.grantId
  ahead : ∀ o ∈ store.clock.observations, d.issuedStateRevision ≤ o.stateRevision →
    o.stateRevision < time.stateRevision → o.confidence = .trustedLocal →
    ∃ ticks, o.monotonicNanos = some ticks ∧ ticks ≤ time.monotonicNanos

/-- The grant is live at this time, under this lease: before every limit on both clocks. -/
structure GrantLive (store : Store σ) (lease : Lease) (time : ProtectedTimeContext) (d : DeadlineRow) :
    Prop extends Evidenced store lease time d where
  wall : ∀ cap ∈ d.wallCaps, time.effectiveUnixNanos < cap
  effective : time.effectiveUnixNanos < d.effectiveExpiryUnixNanos
  ticks : time.monotonicNanos < d.deadlineMonotonicNanos

section Valid

variable {env : TimeEnv} {store : Store σ} {lease : Lease} {time : ProtectedTimeContext}
  {d : DeadlineRow} {grantId : String}

theorem currentObservation_iff {clock : Clock} (h : currentObservation clock time = true) :
    (∃ state, clock.state = some state ∧ state.confidence = .trustedLocal ∧
      state.revision = time.stateRevision ∧
      state.expiryFloorUnixNanos = some time.effectiveUnixNanos) ∧
    ∃ o ∈ clock.observations, o.stateRevision = time.stateRevision ∧
      o.confidence = .trustedLocal ∧ o.monotonicNanos = some time.monotonicNanos := by
  unfold currentObservation at h
  rw [Bool.and_eq_true] at h
  obtain ⟨hstate, hrow⟩ := h
  obtain ⟨state, hs, hstate⟩ := (Option.any_eq_true _ _).mp hstate
  simp only [Bool.and_eq_true, decide_eq_true_eq] at hstate
  simp only [List.any_eq_true, Bool.and_eq_true, decide_eq_true_eq] at hrow
  obtain ⟨o, ho, ⟨⟨⟨hrev, hconf⟩, hmono⟩, _⟩, _⟩ := hrow
  exact ⟨⟨state, hs, hstate.1.1, hstate.1.2, hstate.2⟩, o, ho, hrev, hconf, hmono⟩

theorem regressedTicks_false {clock : Clock} (h : regressedTicks clock time d = false) :
    ∀ o ∈ clock.observations, d.issuedStateRevision ≤ o.stateRevision →
      o.stateRevision < time.stateRevision → o.confidence = .trustedLocal →
      ∃ ticks, o.monotonicNanos = some ticks ∧ ticks ≤ time.monotonicNanos := by
  intro o ho hissued hlt hconf
  unfold regressedTicks at h
  have h := List.any_eq_false.mp h o ho
  simp only [Bool.and_eq_true, decide_eq_true_eq, hissued, hlt, hconf, true_and] at h
  cases hm : o.monotonicNanos with
  | none =>
      rw [hm] at h
      exact absurd rfl h
  | some ticks =>
      rw [hm] at h
      refine ⟨ticks, rfl, ?_⟩
      simp only [Option.all_some, decide_eq_true_eq] at h
      omega

theorem deadlineEvidence_iff
    (h : deadlineEvidence store.core store.clock lease time d = true) : Evidenced store lease time d := by
  unfold deadlineEvidence at h
  simp only [Bool.and_eq_true, decide_eq_true_eq, Bool.not_eq_true'] at h
  obtain ⟨⟨⟨⟨⟨⟨⟨⟨⟨⟨⟨⟨⟨⟨⟨hid, hepoch⟩, hlease⟩, _⟩, _⟩, hsession⟩, _⟩, hcurrent⟩, hissued⟩, _⟩, _⟩, _⟩, _⟩,
    _⟩, hlatch⟩, hticks⟩ := h
  obtain ⟨htrusted, hobserved⟩ := currentObservation_iff hcurrent
  have hd : d.lease = lease := by
    unfold DeadlineRow.lease
    rw [hid, hepoch]
  refine ⟨⟨hd, ?_⟩, ?_, htrusted, hobserved, hissued, ?_, regressedTicks_false hticks⟩
  · rw [hlease, ← hd]
    rfl
  · unfold deadlineSession at hsession
    simp only [List.any_eq_true, Bool.and_eq_true, decide_eq_true_eq] at hsession
    obtain ⟨c, hc, ⟨⟨⟨⟨⟨hcid, howner⟩, hcepoch⟩, _⟩, hmono⟩, _⟩⟩ := hsession
    exact ⟨c, hc, hcid, howner.trans hid, hcepoch.trans hepoch, hmono⟩
  · intro x hx
    have := List.all_eq_true.mp hlatch x hx
    simpa using this

/-- The effective expiry is not above any limit. -/
theorem deadlineConsistent_caps (h : deadlineConsistent d env = true) :
    ∀ cap ∈ d.wallCaps, d.effectiveExpiryUnixNanos ≤ cap := by
  unfold deadlineConsistent at h
  simp only [Bool.and_eq_true, decide_eq_true_eq] at h
  obtain ⟨_, hmin⟩ := h
  intro cap hcap
  unfold DeadlineRow.wallCaps at hcap
  rw [List.mem_cons, List.mem_append, Option.mem_toList, Option.mem_toList] at hcap
  rcases hcap with rfl | hcap | hcap
  · omega
  · rw [Option.mem_def.mp hcap, Option.getD_some] at hmin
    omega
  · rw [Option.mem_def.mp hcap, Option.getD_some] at hmin
    omega

/-- The verdict of a check with its reasons. -/
theorem checkGrantDeadline_cases (hd : store.deadline? grantId = some d) :
    (checkGrantDeadline env store grantId lease time = .invalidOrIncomplete) ∨
      (Evidenced store lease time d ∧ (∀ cap ∈ d.wallCaps, d.effectiveExpiryUnixNanos ≤ cap) ∧
        ((checkGrantDeadline env store grantId lease time = .expiredMonotonic ∧
            d.deadlineMonotonicNanos ≤ time.monotonicNanos) ∨
          (checkGrantDeadline env store grantId lease time = .expiredWall ∧
            d.effectiveExpiryUnixNanos ≤ time.effectiveUnixNanos) ∨
          (checkGrantDeadline env store grantId lease time = .valid ∧
            time.monotonicNanos < d.deadlineMonotonicNanos ∧
            time.effectiveUnixNanos < d.effectiveExpiryUnixNanos))) := by
  unfold Store.deadline? at hd
  unfold checkGrantDeadline
  rw [hd]
  dsimp only
  split_ifs with hbad hmono hwall
  · exact .inl rfl
  all_goals
    simp only [Bool.or_eq_true, Bool.not_eq_true', not_or, Bool.not_eq_false] at hbad
    refine .inr ⟨deadlineEvidence_iff hbad.1, deadlineConsistent_caps hbad.2, ?_⟩
  · exact .inl ⟨rfl, hmono⟩
  · exact .inr (.inl ⟨rfl, hwall⟩)
  · exact .inr (.inr ⟨rfl, by omega, by omega⟩)

theorem valid_live (hd : store.deadline? grantId = some d)
    (h : checkGrantDeadline env store grantId lease time = .valid) : GrantLive store lease time d := by
  rcases checkGrantDeadline_cases hd with hc | ⟨he, hcaps, hc | hc | hc⟩
  · rw [h] at hc
    cases hc
  · rw [h] at hc
    cases hc.1
  · rw [h] at hc
    cases hc.1
  · exact ⟨he, fun cap hcap => lt_of_lt_of_le hc.2.2 (hcaps cap hcap), hc.2.2, hc.2.1⟩

theorem valid_deadline (h : checkGrantDeadline env store grantId lease time = .valid) :
    ∃ d, store.deadline? grantId = some d := by
  cases hd : store.deadline? grantId with
  | some d => exact ⟨d, rfl⟩
  | none =>
      unfold Store.deadline? at hd
      unfold checkGrantDeadline at h
      rw [hd] at h
      cases h

end Valid

/-! ## 2. The system -/

/-- The report of one check: the lease of the deadline may have been lost by then. -/
structure Report where
  grantId : String
  status : GrantDeadlineStatus
  lost : Bool
  deriving DecidableEq

/-- The grant was reported expired, or its clock session lost. -/
def Report.final (r : Report) : Bool :=
  r.status = .expiredMonotonic || r.status = .expiredWall || r.lost

/-- The store, the managers alive, the samples they owe, and the checks that were made. -/
structure ExpirySystem (σ : Type) where
  store : Store σ
  alive : List Lease
  owed : List (Lease × LockedTimeObservation)
  reports : List Report

inductive ExpiryOp (σ : Type) where
  /-- A sample is recorded, by whatever operation. -/
  | sample (sample : Option SecurityClockSample) (unresolved : Bool)
  /-- Whatever else the store holds is written. -/
  | write (core : Core σ) (sessions : List ClockSessionRow)
  /-- A deadline is inserted with its grant. -/
  | issue (d : DeadlineRow)
  /-- A manager checks grants in one transaction, which is committed or rolled back; at the entry of
      an external effect the pending marker is its own. -/
  | check (lease : Lease) (entry : Bool) (sample : Option SecurityClockSample) (grants : List String)
      (rollback : Bool)
  /-- A manager records the sample of its rolled-back transaction. -/
  | record (lease : Lease) (observation : LockedTimeObservation)
  | claim (ownerId : String)
  | crash (lease : Lease)

section System

variable (env : TimeEnv)

/-- What the trigger of the deadlines asks of the row. -/
def deadlineInsertable (store : Store σ) (d : DeadlineRow) : Bool :=
  !(store.core.deadlines.any fun other => other.grantId = d.grantId) &&
    deadlineGrant store.core d &&
    (store.core.issuances.any fun r => r.grantId = d.grantId && r.tokenId = d.tokenId &&
      r.taskId = d.taskId && r.executionBindingId = d.executionBindingId &&
      r.attemptId = d.attemptId && r.policyDecisionId = d.policyDecisionId && r.issuedAt = d.issuedAt) &&
    deadlineApproval store.core d && store.core.lease = some d.lease &&
    (store.clock.sessions.any fun c => c.sessionId = d.sessionId && c.ownerId = d.ownerId &&
      c.ownerEpoch = d.ownerEpoch && c.highWaterMonotonicNanos = d.issuedMonotonicNanos &&
      c.highWaterStateRevision = d.issuedStateRevision) &&
    (store.clock.state.any fun s => s.confidence = .trustedLocal && s.revision = d.issuedStateRevision) &&
    deadlineIssuedObservation store.clock d

def lostLease (store : Store σ) (grantId : String) : Bool :=
  (store.deadline? grantId).any fun d => store.core.lease ≠ some d.lease

/-- Checks each grant and latches what has expired; nothing is left to commit after an error. -/
def checkEach (lease : Lease) (time : ProtectedTimeContext) :
    Store σ → List String → List Report × Option (Store σ)
  | store, [] => ([], some store)
  | store, grantId :: rest =>
      let report : Report := ⟨grantId, checkGrantDeadline env store grantId lease time,
        lostLease store grantId⟩
      match checkAndLatchGrantDeadline env store grantId lease time with
      | .error _ => ([report], none)
      | .ok (store, _) =>
          let (reports, left) := checkEach lease time store rest
          (report :: reports, left)

/-- The transaction of a check up to its end: the sample is locked, committed, and the session
    advanced to it. -/
def beginCheck (store : Store σ) (lease : Lease) (entry : Bool) (sample : Option SecurityClockSample) :
    TaskResult (Store σ × LockedTimeObservation × ProtectedTimeContext) := do
  let fresh ← captureLocked env store.clock (if entry then [] else store.core.pendingMarkers) sample
  let _ ← fresh.requireTrustedTime env
  let (clock, time) ← fresh.commitContextIn env store.clock
  let store ← advanceClockSessionIn { store with clock := clock } lease time
  return (store, fresh, time)

def ExpirySystem.perform (s : ExpirySystem σ) : ExpiryOp σ → TaskResult (ExpirySystem σ)
  | .sample sample unresolved => do
      let (clock, _) ← applySampleInTransactionWithUnresolved env s.store.clock sample unresolved
      return { s with store := { s.store with clock := clock } }
  | .write core sessions => do
      rejectIf (core.deadlines ≠ s.store.core.deadlines || core.lease ≠ s.store.core.lease)
        (.storage "grant deadline is immutable")
      return { s with store := { s.store with
        core := core
        clock := { s.store.clock with sessions := sessions } } }
  | .issue d => do
      rejectIf (!deadlineInsertable s.store d)
        (.storage "grant deadline lacks exact grant, receipt, session and paired time")
      return { s with store := { s.store with
        core := { s.store.core with deadlines := s.store.core.deadlines ++ [d] } } }
  | .check lease entry sample grants rollback => do
      rejectIf (!s.alive.contains lease || (s.owed.any fun o => o.1 = lease))
        (.invalidRecord "the manager is gone or busy")
      let (started, fresh, time) ← beginCheck env s.store lease entry sample
      match checkEach env lease time started grants, rollback with
      | (reports, some store), false => return { s with store := store, reports := s.reports ++ reports }
      | (reports, _), _ => return { s with
          owed := s.owed ++ [(lease, fresh)]
          reports := s.reports ++ reports }
  | .record lease observation => do
      rejectIf (!s.owed.contains (lease, observation)) (.invalidRecord "no such sample")
      let (clock, _) ← applySampleInTransactionWithUnresolved env s.store.clock observation.sample false
      return { s with
        store := { s.store with clock := clock }
        owed := s.owed.filter (· ≠ (lease, observation)) }
  | .claim ownerId =>
      let lease : Lease := ⟨ownerId, nextEpoch s.store.core.lease⟩
      .ok { s with
        store := { s.store with core := { s.store.core with lease := some lease } }
        alive := s.alive ++ [lease] }
  | .crash lease => .ok { s with
      alive := s.alive.filter (· ≠ lease)
      owed := s.owed.filter (·.1 ≠ lease) }

def ExpirySystem.step (s : ExpirySystem σ) (op : ExpiryOp σ) : ExpirySystem σ :=
  match s.perform env op with
  | .ok after => after
  | .error _ => s

/-- A new store: no lease was claimed and no deadline written. -/
def ExpirySystem.initial (other : σ) : ExpirySystem σ where
  store := {
    core := {
      tasks := ∅, events := [], steps := [], plans := [], programs := [], validations := []
      bindings := [], candidates := [], grants := [], issuances := [], deadlines := []
      approvals := [], authorityRequests := [], approvalDecisions := [], lease := none
      pendingMarkers := [], other := other }
    receipts := ∅
    clock := TimeSystem.initial.store.clock }
  alive := []
  owed := []
  reports := []

def ExpirySystem.run (other : σ) (ops : List (ExpiryOp σ)) : ExpirySystem σ :=
  ops.foldl (ExpirySystem.step env) (ExpirySystem.initial other)

end System

/-! ## 3. Records that end a grant -/

/-- The record has passed a limit of the grant, or the time is uncertain. -/
def Killed (clock : Clock) (d : DeadlineRow) : Prop :=
  clock.Uncertain ∨ (∃ floor, clock.floor = some floor ∧ d.effectiveExpiryUnixNanos ≤ floor) ∨
    ∃ o ∈ clock.observations, d.issuedStateRevision ≤ o.stateRevision ∧ o.confidence = .trustedLocal ∧
      ∃ ticks, o.monotonicNanos = some ticks ∧ d.deadlineMonotonicNanos ≤ ticks

variable {clock clock' : Clock} {state : TimeState} {d : DeadlineRow} {env : TimeEnv}

theorem Killed.mono (hc : Advanced clock clock') (h : Killed clock d) : Killed clock' d := by
  rcases h with h | ⟨floor, hfloor, hle⟩ | ⟨o, ho, hrest⟩
  · exact .inl (hc.uncertain h)
  · obtain ⟨y, hy, hxy⟩ := hc.floor floor hfloor
    exact .inr (.inl ⟨y, hy, hle.trans hxy⟩)
  · obtain ⟨added, e, _⟩ := hc.grown
    exact .inr (.inr ⟨o, e ▸ List.mem_append_left _ ho, hrest⟩)

theorem Ledger.unique {a b : ObservationRow} (h : Ledger clock state)
    (ha : a ∈ clock.observations) (hb : b ∈ clock.observations)
    (e : a.stateRevision = b.stateRevision) : a = b := by
  have hn : (clock.observations.map ObservationRow.stateRevision).Nodup := by
    rw [h.numbered]
    exact List.nodup_range'
  exact List.inj_on_of_nodup_map hn ha hb e

theorem Ledger.revision_le {o : ObservationRow}
    (h : Ledger clock state) (ho : o ∈ clock.observations) : o.stateRevision ≤ state.revision := by
  have hm : o.stateRevision ∈ clock.observations.map ObservationRow.stateRevision :=
    List.mem_map_of_mem ho
  rw [h.numbered, List.mem_range'_1] at hm
  omega

/-- What the record has ended is not live. -/
theorem Killed.not_live {store : Store σ} {lease : Lease}
    {time : ProtectedTimeContext} (hl : Ledger store.clock state)
    (h : Killed store.clock d) : ¬ GrantLive store lease time d := by
  intro hlive
  obtain ⟨s, hs, hconf, hrev, hfloor⟩ := hlive.trusted
  rcases h with ⟨s', hs', hu⟩ | ⟨floor, hf, hle⟩ | ⟨o, ho, hissued, hoconf, ticks, hticks, hle⟩
  · rw [hs] at hs'
    obtain rfl := Option.some.inj hs'
    rw [hconf] at hu
    cases hu
  · rw [Clock.floor, hs, Option.bind_some, hfloor] at hf
    obtain rfl := Option.some.inj hf
    have := hlive.effective
    omega
  · have hlt := hlive.ticks
    rw [hl.stored] at hs
    obtain rfl := Option.some.inj hs
    have hole := hl.revision_le ho
    by_cases he : o.stateRevision = time.stateRevision
    · obtain ⟨row, hrow, hrowrev, _, hmono⟩ := hlive.observed
      obtain rfl := hl.unique ho hrow (he.trans hrowrev.symm)
      rw [hticks] at hmono
      obtain rfl := Option.some.inj hmono
      omega
    · obtain ⟨t, ht, hle'⟩ := hlive.ahead o ho hissued (by omega) hoconf
      rw [hticks] at ht
      obtain rfl := Option.some.inj ht
      omega

/-- The sample a manager owes will end the grant. -/
def KillsWhenRecorded (env : TimeEnv) (clock : Clock) (d : DeadlineRow) (o : LockedTimeObservation) :
    Prop :=
  d.issuedStateRevision ≤ clock.observations.length + 1 ∧ ∃ wall, sampleWall env o.sample = some wall ∧
    (d.effectiveExpiryUnixNanos ≤ wall ∨
      ∃ ticks, (readSample env o.sample).2.1 = some ticks ∧ d.deadlineMonotonicNanos ≤ ticks)

theorem KillsWhenRecorded.mono
    {o : LockedTimeObservation} (hc : Advanced clock clock') (h : KillsWhenRecorded env clock d o) :
    KillsWhenRecorded env clock' d o := by
  refine ⟨?_, h.2⟩
  obtain ⟨added, e, _⟩ := hc.grown
  have hle := h.1
  rw [e, List.length_append]
  omega

theorem sampleVerdict_eq (old : TimeState) (observed : Option Int) (unresolved : Bool) :
    (sampleVerdict old observed unresolved).1 = .trustedLocal ∨
      (sampleVerdict old observed unresolved).1 = .timeUncertain := by
  unfold sampleVerdict
  split_ifs <;> simp

theorem KillsWhenRecorded.killed
    {o : LockedTimeObservation} (hl : Ledger clock state) (h : KillsWhenRecorded env clock d o) :
    Killed (clock.add (sampleRow env state o.sample false)) d := by
  obtain ⟨hissued, wall, hwall, hexpiry | ⟨ticks, hticks, hle⟩⟩ := h
  · refine .inr (.inl ?_)
    rw [hl.floor_add]
    obtain ⟨y, hy, hxy⟩ := le_maxKnown_right (a := clock.floor) hwall
    exact ⟨y, hy, hexpiry.trans hxy⟩
  · rcases sampleVerdict_eq state (readSample env o.sample).1 false with hconf | hconf
    · refine .inr (.inr ⟨_, List.mem_append_right _ (List.mem_singleton.mpr rfl), ?_, hconf, ticks,
        hticks, hle⟩)
      show d.issuedStateRevision ≤ state.revision + 1
      rw [← hl.length]
      exact hissued
    · exact .inl ⟨_, rfl, hconf⟩

/-! ## 4. One check -/

/-- Two stores that differ in latches only. -/
structure UpToLatches (a b : Store σ) : Prop where
  core : b.core = a.core
  state : b.clock.state = a.clock.state
  observations : b.clock.observations = a.clock.observations
  sessions : b.clock.sessions = a.clock.sessions

theorem UpToLatches.refl (store : Store σ) : UpToLatches store store := ⟨rfl, rfl, rfl, rfl⟩

theorem UpToLatches.trans {a b c : Store σ} (h : UpToLatches a b) (k : UpToLatches b c) :
    UpToLatches a c :=
  ⟨k.core.trans h.core, k.state.trans h.state, k.observations.trans h.observations,
    k.sessions.trans h.sessions⟩

theorem upToLatches_checkAndLatch {store store' : Store σ} {grantId : String}
    {lease : Lease} {time : ProtectedTimeContext} {valid : Bool}
    (h : checkAndLatchGrantDeadline env store grantId lease time = .ok (store', valid)) :
    UpToLatches store store' := by
  have hlatch : ∀ reason, (do
      let store ← latchGrant store grantId lease time reason
      return (store, false)) = Except.ok (store', valid) → UpToLatches store store' := by
    intro reason h
    rw [bind_eq_ok'] at h
    obtain ⟨s, hs, h⟩ := h
    obtain rfl : s = store' := congrArg Prod.fst (Except.ok.inj h)
    unfold latchGrant at hs
    simp only [bind_eq_ok', exists_unit, rejectIf_ok, expect_ok] at hs
    obtain ⟨_, _, _, hs⟩ := hs
    rw [← Except.ok.inj hs]
    exact ⟨rfl, rfl, rfl, rfl⟩
  unfold checkAndLatchGrantDeadline at h
  split at h
  · obtain rfl : store = store' := congrArg Prod.fst (Except.ok.inj h)
    exact .refl store
  · exact hlatch _ h
  · exact hlatch _ h
  · obtain rfl : store = store' := congrArg Prod.fst (Except.ok.inj h)
    exact .refl store

/-- The report is the one of a check in this transaction. -/
def CheckedIn (env : TimeEnv) (store : Store σ) (lease : Lease) (time : ProtectedTimeContext)
    (r : Report) : Prop :=
  ∃ at' : Store σ, UpToLatches store at' ∧
    r.status = checkGrantDeadline env at' r.grantId lease time ∧ r.lost = lostLease at' r.grantId

theorem checkEach_spec {lease : Lease} {time : ProtectedTimeContext}
    {grants : List String} {store : Store σ} {reports : List Report} {left : Option (Store σ)}
    (h : checkEach env lease time store grants = (reports, left)) :
    (∀ r ∈ reports, CheckedIn env store lease time r) ∧ ∀ after, left = some after → UpToLatches store after := by
  induction grants generalizing store reports left with
  | nil =>
      obtain ⟨rfl, rfl⟩ := Prod.mk.inj h
      refine ⟨fun r hr => (by cases hr), fun after e => ?_⟩
      obtain rfl := Option.some.inj e
      exact .refl store
  | cons grantId rest ih =>
      unfold checkEach at h
      cases hc : checkAndLatchGrantDeadline env store grantId lease time with
      | error e =>
          rw [hc] at h
          obtain ⟨rfl, rfl⟩ := Prod.mk.inj h
          refine ⟨fun r hr => ?_, fun after e => (by cases e)⟩
          rw [List.mem_singleton.mp hr]
          exact ⟨store, .refl store, rfl, rfl⟩
      | ok r =>
          obtain ⟨next, valid⟩ := r
          rw [hc] at h
          dsimp only at h
          have hsame := upToLatches_checkAndLatch hc
          obtain ⟨hreports, hleft⟩ := ih rfl
          obtain ⟨rfl, rfl⟩ := Prod.mk.inj h
          refine ⟨fun r hr => ?_, fun after e => hsame.trans (hleft after e)⟩
          rcases List.mem_cons.mp hr with rfl | hr
          · exact ⟨store, .refl store, rfl, rfl⟩
          · obtain ⟨at', hat, hstatus, hlost⟩ := hreports r hr
            exact ⟨at', hsame.trans hat, hstatus, hlost⟩

theorem UpToLatches.deadline {a b : Store σ} (h : UpToLatches a b) (grantId : String) :
    b.deadline? grantId = a.deadline? grantId := by
  unfold Store.deadline?
  rw [h.core]

/-- Why a check was final: the grant was past a limit at the time of the transaction, or its lease
    was not the one of the store. -/
structure PastLimit (store : Store σ) (lease : Lease) (time : ProtectedTimeContext) (d : DeadlineRow) :
    Prop where
  issuer : d.lease = lease
  trusted : ∃ state, store.clock.state = some state ∧ state.confidence = .trustedLocal ∧
    state.revision = time.stateRevision ∧ state.expiryFloorUnixNanos = some time.effectiveUnixNanos
  observed : ∃ o ∈ store.clock.observations, o.stateRevision = time.stateRevision ∧
    o.confidence = .trustedLocal ∧ o.monotonicNanos = some time.monotonicNanos
  issued : d.issuedStateRevision ≤ time.stateRevision
  past : d.deadlineMonotonicNanos ≤ time.monotonicNanos ∨
    d.effectiveExpiryUnixNanos ≤ time.effectiveUnixNanos

section Final

variable {env : TimeEnv} {store : Store σ} {lease : Lease} {time : ProtectedTimeContext} {r r' : Report}

theorem Evidenced.pastLimit {at' : Store σ} {d : DeadlineRow} (hs : UpToLatches store at')
    (he : Evidenced at' lease time d)
    (hp : d.deadlineMonotonicNanos ≤ time.monotonicNanos ∨
      d.effectiveExpiryUnixNanos ≤ time.effectiveUnixNanos) : PastLimit store lease time d := by
  have htrusted := he.trusted
  have hobserved := he.observed
  rw [hs.state] at htrusted
  rw [hs.observations] at hobserved
  exact ⟨he.issuer.1, htrusted, hobserved, he.issued, hp⟩

theorem status_deadline (h : checkGrantDeadline env store r.grantId lease time ≠ .invalidOrIncomplete) :
    ∃ d, store.deadline? r.grantId = some d := by
  cases hd : store.deadline? r.grantId with
  | some d => exact ⟨d, rfl⟩
  | none =>
      unfold Store.deadline? at hd
      refine absurd ?_ h
      unfold checkGrantDeadline
      rw [hd]

theorem CheckedIn.final (h : CheckedIn env store lease time r) (hf : r.final = true) :
    ∃ d, store.deadline? r.grantId = some d ∧
      (PastLimit store lease time d ∨ store.core.lease ≠ some d.lease) := by
  obtain ⟨at', hsame, hstatus, hlost⟩ := h
  unfold Report.final at hf
  simp only [Bool.or_eq_true, decide_eq_true_eq] at hf
  rcases hf with hf | hf
  · -- an expired status comes with its evidence
    have hne : checkGrantDeadline env at' r.grantId lease time ≠ .invalidOrIncomplete := by
      rw [← hstatus]
      rcases hf with hf | hf <;> rw [hf] <;> decide
    obtain ⟨d, hd⟩ := status_deadline hne
    refine ⟨d, (hsame.deadline _) ▸ hd, .inl ?_⟩
    rcases checkGrantDeadline_cases hd with hc | ⟨he, _, hc | hc | hc⟩
    · exact absurd hc hne
    · exact he.pastLimit hsame (.inl hc.2)
    · exact he.pastLimit hsame (.inr hc.2)
    · rw [← hstatus] at hc
      rcases hf with hf | hf <;> rw [hf] at hc <;> cases hc.1
  · rw [hlost] at hf
    obtain ⟨d, hd, hne⟩ := (Option.any_eq_true _ _).mp hf
    rw [hsame.deadline] at hd
    rw [hsame.core] at hne
    exact ⟨d, hd, .inr (by simpa using hne)⟩

theorem CheckedIn.valid (h : CheckedIn env store lease time r) (hv : r.status = .valid) :
    ∃ at' d, UpToLatches store at' ∧ store.deadline? r.grantId = some d ∧
      GrantLive at' lease time d := by
  obtain ⟨at', hsame, hstatus, _⟩ := h
  rw [hv] at hstatus
  obtain ⟨d, hd⟩ := valid_deadline hstatus.symm
  exact ⟨at', d, hsame, hsame.deadline _ ▸ hd, valid_live hd hstatus.symm⟩

/-- In one transaction a final report is not followed by a valid one. -/
theorem CheckedIn.not_valid (h : CheckedIn env store lease time r)
    (h' : CheckedIn env store lease time r') (hg : r.grantId = r'.grantId) (hf : r.final = true) :
    r'.status ≠ .valid := by
  intro hv
  obtain ⟨d, hd, hfinal⟩ := h.final hf
  obtain ⟨at', d', hsame, hd', hlive⟩ := h'.valid hv
  rw [hg, hd'] at hd
  obtain rfl := Option.some.inj hd
  rcases hfinal with hpast | hlease
  · have hticks := hlive.ticks
    have hwall := hlive.effective
    rcases hpast.past with hp | hp <;> omega
  · refine hlease ?_
    rw [← hsame.core, hlive.issuer.2, hlive.issuer.1]

end Final

/-! ## 5. Doom -/

/-- The lease of the deadline cannot check any more. -/
def Retired (s : ExpirySystem σ) (d : DeadlineRow) : Prop :=
  d.lease ∉ s.alive ∨ s.store.core.lease ≠ some d.lease

/-- The grant can never be found valid again. -/
def Doomed (env : TimeEnv) (s : ExpirySystem σ) (grantId : String) : Prop :=
  ∃ d, s.store.deadline? grantId = some d ∧
    (Killed s.store.clock d ∨ Retired s d ∨
      ∃ o, (d.lease, o) ∈ s.owed ∧ KillsWhenRecorded env s.store.clock d o)

/-- The invariant of a run. -/
structure ExpiryInv (env : TimeEnv) (s : ExpirySystem σ) : Prop where
  ledger : ∃ state, Ledger s.store.clock state
  epochs : ∀ d ∈ s.store.core.deadlines, ∃ lease, s.store.core.lease = some lease ∧
    (d.ownerEpoch < lease.fenceEpoch ∨ d.lease = lease)
  doomed : ∀ r ∈ s.reports, r.final = true → Doomed env s r.grantId
  final : s.reports.Pairwise fun a b => a.grantId = b.grantId → a.final = true → b.status ≠ .valid

theorem Ledger.of_same (h : Ledger clock state)
    (hs : clock'.state = clock.state) (ho : clock'.observations = clock.observations) :
    Ledger clock' state :=
  ⟨hs.trans h.stored, ho ▸ h.numbered, h.level, ho ▸ h.current, ho ▸ h.seen, h.bounded⟩

theorem Advanced.of_same (hs : clock'.state = clock.state)
    (ho : clock'.observations = clock.observations) : Advanced clock clock' := by
  refine ⟨⟨[], by rw [ho, List.append_nil], fun o h => by cases h⟩, fun x hx => ⟨x, ?_, le_refl x⟩,
    fun x hx => ⟨x, ?_, le_refl x⟩, fun ⟨s, h, hu⟩ => ⟨s, hs.trans h, hu⟩⟩
  · rw [Clock.high, hs]
    exact hx
  · rw [Clock.floor, hs]
    exact hx

section Steps

variable {env : TimeEnv} {s t : ExpirySystem σ} {grantId : String}

/-- Doom outlives any step that keeps the deadlines, advances the clock, leaves the retired retired,
    and drops an owed sample only with its manager or by recording it. -/
theorem Doomed.mono (hd : ∀ d, s.store.deadline? grantId = some d → t.store.deadline? grantId = some d)
    (hc : Advanced s.store.clock t.store.clock)
    (hr : ∀ d ∈ s.store.core.deadlines, Retired s d → Retired t d)
    (ho : ∀ d, ∀ o, (d.lease, o) ∈ s.owed → KillsWhenRecorded env s.store.clock d o →
      (d.lease, o) ∈ t.owed ∨ Retired t d ∨ Killed t.store.clock d)
    (h : Doomed env s grantId) : Doomed env t grantId := by
  obtain ⟨d, hfound, h⟩ := h
  refine ⟨d, hd d hfound, ?_⟩
  rcases h with h | h | ⟨o, howed, hkills⟩
  · exact .inl (h.mono hc)
  · exact .inr (.inl (hr d (List.mem_of_find?_eq_some hfound) h))
  · rcases ho d o howed hkills with h | h | h
    · exact .inr (.inr ⟨o, h, hkills.mono hc⟩)
    · exact .inr (.inl h)
    · exact .inl h

/-- A step that makes no check keeps the invariant. -/
theorem ExpiryInv.quiet (hi : ExpiryInv env s) (hreports : t.reports = s.reports)
    (hl : ∃ state, Ledger t.store.clock state)
    (hepochs : ∀ d ∈ t.store.core.deadlines, ∃ lease, t.store.core.lease = some lease ∧
      (d.ownerEpoch < lease.fenceEpoch ∨ d.lease = lease))
    (hdoom : ∀ grantId, Doomed env s grantId → Doomed env t grantId) : ExpiryInv env t := by
  refine ⟨hl, hepochs, ?_, ?_⟩
  · rw [hreports]
    exact fun r hr hf => hdoom _ (hi.doomed r hr hf)
  · rw [hreports]
    exact hi.final

/-- What the transaction of a check stands on. -/
structure CheckBegun (env : TimeEnv) (store : Store σ) (state : TimeState)
    (sample : Option SecurityClockSample) (started : Store σ) (fresh : LockedTimeObservation)
    (time : ProtectedTimeContext) : Prop where
  core : started.core = store.core
  same : fresh.sample = sample
  current : started.clock.state = some (sampleRow env state sample false).toState
  grown : started.clock.observations = store.clock.observations ++ [sampleRow env state sample false]
  revision : time.stateRevision = state.revision + 1
  ticks : (readSample env sample).2.1 = some time.monotonicNanos

theorem captureLocked_ok {clock : Clock} {pending : List String} {sample : Option SecurityClockSample}
    {o : LockedTimeObservation} (h : captureLocked env clock pending sample = .ok o) :
    o.sample = sample := by
  unfold captureLocked at h
  simp only [bind_eq_ok', exists_unit] at h
  obtain ⟨_, _, h⟩ := h
  rw [← Except.ok.inj h]

variable {fresh : LockedTimeObservation} {time : ProtectedTimeContext} {state : TimeState}

theorem beginCheck_ok {store started : Store σ} {lease : Lease} {entry : Bool}
    {sample : Option SecurityClockSample} (hl : Ledger store.clock state)
    (h : beginCheck env store lease entry sample = .ok (started, fresh, time)) :
    CheckBegun env store state sample started fresh time := by
  unfold beginCheck at h
  simp only [bind_eq_ok'] at h
  obtain ⟨o, hcapture, _, _, ⟨clock, context⟩, hcommit, advanced, hadvance, h⟩ := h
  have e := Except.ok.inj h
  obtain rfl : advanced = started := congrArg Prod.fst e
  obtain rfl : o = fresh := congrArg (fun r => r.2.1) e
  obtain rfl : context = time := congrArg (fun r => r.2.2) e
  have hsample := captureLocked_ok hcapture
  -- the sample is applied once, and its row is the evidence of the context
  obtain ⟨_, row, hrow, hrevision, _, _, hticks⟩ := commitContextIn_ok hcommit
  unfold LockedTimeObservation.commitContextIn at hcommit
  simp only [bind_eq_ok'] at hcommit
  obtain ⟨⟨middle, a⟩, happly, _, _, _, _, _, _, _, _, _, _, hc⟩ := hcommit
  obtain rfl : middle = clock := congrArg Prod.fst (Except.ok.inj hc)
  obtain ⟨hclock, -⟩ := hl.sampled happly
  rw [hsample] at hclock
  subst hclock
  have hnext : Ledger (store.clock.add (sampleRow env state sample false)) _ := hl.apply
  unfold trustedEvidence at hrow
  obtain ⟨current, hcurrent, hrow⟩ := Option.bind_eq_some_iff.mp hrow
  obtain ⟨hcurrent, _⟩ := Option.filter_eq_some_iff.mp hcurrent
  obtain rfl : (sampleRow env state sample false).toState = current := Option.some.inj hcurrent
  have hsat := List.find?_some hrow
  simp only [Bool.and_eq_true, decide_eq_true_eq] at hsat
  obtain rfl := hnext.unique (List.mem_of_find?_eq_some hrow)
    (List.mem_append_right _ (List.mem_singleton.mpr rfl)) hsat.1
  unfold advanceClockSessionIn at hadvance
  simp only [bind_eq_ok', exists_unit] at hadvance
  obtain ⟨_, _, hadvance⟩ := hadvance
  rw [← Except.ok.inj hadvance]
  exact ⟨rfl, hsample, rfl, rfl, hrevision.symm, hticks⟩

theorem CheckBegun.ledger {store started : Store σ} {sample : Option SecurityClockSample}
    (hl : Ledger store.clock state) (h : CheckBegun env store state sample started fresh time) :
    Ledger started.clock (sampleRow env state sample false).toState ∧
      Advanced store.clock started.clock := by
  have hnext : Ledger (store.clock.add (sampleRow env state sample false)) _ := hl.apply
  refine ⟨hnext.of_same h.current h.grown, ?_⟩
  have hadv : Advanced store.clock (store.clock.add (sampleRow env state sample false)) := hl.advanced
  exact hadv.trans (.of_same h.current h.grown)

/-- A limit passed in a committed transaction is on record. -/
theorem PastLimit.killed {store : Store σ} {lease : Lease}
    {d : DeadlineRow} (h : PastLimit store lease time d) : Killed store.clock d := by
  rcases h.past with hp | hp
  · obtain ⟨o, ho, hrev, hconf, hticks⟩ := h.observed
    exact .inr (.inr ⟨o, ho, hrev ▸ h.issued, hconf, _, hticks, hp⟩)
  · obtain ⟨state, hs, _, _, hfloor⟩ := h.trusted
    refine .inr (.inl ⟨_, ?_, hp⟩)
    rw [Clock.floor, hs]
    exact hfloor

/-- A limit passed in a rolled-back transaction was passed before, or its sample will pass it. -/
theorem PastLimit.owed {store started : Store σ} {lease : Lease} {sample : Option SecurityClockSample}
    {d : DeadlineRow} (hl : Ledger store.clock state)
    (hb : CheckBegun env store state sample started fresh time) (h : PastLimit started lease time d) :
    Killed store.clock d ∨ KillsWhenRecorded env store.clock d fresh := by
  obtain ⟨current, hs, hconf, hrev, hfloor⟩ := h.trusted
  rw [hb.current] at hs
  obtain rfl := Option.some.inj hs
  obtain ⟨_, _, wall, hwall, _⟩ := sampleVerdict_trusted hconf
  rw [readSample_wall] at hwall
  have hissued : d.issuedStateRevision ≤ store.clock.observations.length + 1 := by
    rw [hl.length, ← hb.revision]
    exact h.issued
  rcases h.past with hp | hp
  · refine .inr ⟨hissued, wall, ?_, .inr ⟨_, ?_, hp⟩⟩
    · rw [hb.same]
      exact hwall
    · rw [hb.same]
      exact hb.ticks
  · -- the effective time is the old floor or the wall time of the sample
    have hmax : maxKnown store.clock.floor (some wall) = some time.effectiveUnixNanos := by
      have hf : (store.clock.add (sampleRow env state sample false)).floor =
        maxKnown store.clock.floor (sampleWall env sample) := hl.floor_add
      rw [← hwall, ← hf]
      exact hfloor
    cases hfl : store.clock.floor with
    | none =>
        rw [hfl] at hmax
        have hmax : wall = time.effectiveUnixNanos := Option.some.inj hmax
        exact .inr ⟨hissued, wall, hb.same ▸ hwall, .inl (by omega)⟩
    | some floor =>
        rw [hfl, maxKnown_some] at hmax
        have hmax := Option.some.inj hmax
        by_cases hle : d.effectiveExpiryUnixNanos ≤ floor
        · exact .inl (.inr (.inl ⟨floor, hfl, hle⟩))
        · exact .inr ⟨hissued, wall, hb.same ▸ hwall, .inl (by omega)⟩

/-- A doomed grant is not found valid by a manager that owes no sample. -/
theorem Doomed.not_valid {started : Store σ} {lease : Lease}
    {r : Report} (hl : Ledger started.clock state)
    (hadv : Advanced s.store.clock started.clock) (hcore : started.core = s.store.core)
    (halive : lease ∈ s.alive) (howed : ∀ o, (lease, o) ∉ s.owed)
    (hr : CheckedIn env started lease time r) (h : Doomed env s r.grantId) : r.status ≠ .valid := by
  intro hv
  obtain ⟨at', d', hsame, hd', hlive⟩ := hr.valid hv
  obtain ⟨d, hd, h⟩ := h
  have hfound : started.deadline? r.grantId = s.store.deadline? r.grantId := by
    unfold Store.deadline?
    rw [hcore]
  rw [hfound, hd] at hd'
  obtain rfl := Option.some.inj hd'
  obtain ⟨hissuer, hlease⟩ := hlive.issuer
  rcases h with h | h | ⟨o, ho, _⟩
  · have hl' : Ledger at'.clock state := hl.of_same hsame.state hsame.observations
    exact (h.mono (hadv.trans (.of_same hsame.state hsame.observations))).not_live hl' hlive
  · rcases h with h | h
    · exact h (hissuer ▸ halive)
    · rw [hsame.core, hcore] at hlease
      exact h (hissuer ▸ hlease)
  · exact howed o (hissuer ▸ ho)

/-! ## 6. One operation -/

theorem ExpiryInv.sample {clock : Clock} {sample : Option SecurityClockSample} {unresolved : Bool}
    {a : TimeAssessment} (hi : ExpiryInv env s)
    (h : applySampleInTransactionWithUnresolved env s.store.clock sample unresolved = .ok (clock, a)) :
    ExpiryInv env { s with store := { s.store with clock := clock } } := by
  obtain ⟨state, hl⟩ := hi.ledger
  obtain ⟨rfl, -⟩ := hl.sampled h
  refine hi.quiet rfl ⟨_, hl.apply⟩ hi.epochs fun grantId => ?_
  exact Doomed.mono (fun d hd => hd) hl.advanced (fun d _ hr => hr) fun d o ho _ => .inl ho

theorem ExpiryInv.write {core : Core σ} {sessions : List ClockSessionRow} (hi : ExpiryInv env s)
    (hd : core.deadlines = s.store.core.deadlines) (hlease : core.lease = s.store.core.lease) :
    ExpiryInv env { s with store := { s.store with
      core := core
      clock := { s.store.clock with sessions := sessions } } } := by
  obtain ⟨state, hl⟩ := hi.ledger
  refine hi.quiet rfl ⟨state, hl.of_same rfl rfl⟩ ?_ fun grantId => ?_
  · show ∀ d ∈ core.deadlines, ∃ lease, core.lease = some lease ∧ _
    rw [hd, hlease]
    exact hi.epochs
  · refine Doomed.mono (fun d hfound => ?_) (.of_same rfl rfl) (fun d _ hr => ?_)
      fun d o ho _ => .inl ho
    · unfold Store.deadline? at *
      rw [hd]
      exact hfound
    · unfold Retired at *
      show d.lease ∉ s.alive ∨ core.lease ≠ some d.lease
      rw [hlease]
      exact hr

theorem ExpiryInv.issue {d : DeadlineRow} (hi : ExpiryInv env s)
    (h : deadlineInsertable s.store d = true) :
    ExpiryInv env { s with store := { s.store with
      core := { s.store.core with deadlines := s.store.core.deadlines ++ [d] } } } := by
  unfold deadlineInsertable at h
  simp only [Bool.and_eq_true, decide_eq_true_eq] at h
  have hlease := h.1.1.1.2
  refine hi.quiet rfl hi.ledger ?_ fun grantId => ?_
  · intro x hx
    rcases List.mem_append.mp hx with hx | hx
    · exact hi.epochs x hx
    · rw [List.mem_singleton.mp hx]
      exact ⟨d.lease, hlease, .inr rfl⟩
  · refine Doomed.mono (fun x hfound => ?_) (.refl _) (fun x _ hr => hr) fun x o ho _ => .inl ho
    unfold Store.deadline? at *
    rw [List.find?_append, hfound]
    rfl

theorem ExpiryInv.record {clock : Clock} {lease : Lease} {observation : LockedTimeObservation}
    {a : TimeAssessment} (hi : ExpiryInv env s)
    (h : applySampleInTransactionWithUnresolved env s.store.clock observation.sample false =
      .ok (clock, a)) :
    ExpiryInv env { s with
      store := { s.store with clock := clock }
      owed := s.owed.filter (· ≠ (lease, observation)) } := by
  obtain ⟨state, hl⟩ := hi.ledger
  obtain ⟨rfl, -⟩ := hl.sampled h
  refine hi.quiet rfl ⟨_, hl.apply⟩ hi.epochs fun grantId => ?_
  refine Doomed.mono (fun d hd => hd) hl.advanced (fun d _ hr => hr) fun d o ho hkills => ?_
  by_cases e : (d.lease, o) = (lease, observation)
  · obtain ⟨_, rfl⟩ := Prod.mk.inj e
    exact .inr (.inr (hkills.killed hl))
  · exact .inl (List.mem_filter.mpr ⟨ho, decide_eq_true e⟩)

/-- After a claim every deadline there is belongs to a lease that is gone. -/
theorem ExpiryInv.claim {lease : Lease} (hi : ExpiryInv env s)
    (hepoch : lease.fenceEpoch = nextEpoch s.store.core.lease) :
    ExpiryInv env { s with
      store := { s.store with core := { s.store.core with lease := some lease } }
      alive := s.alive ++ [lease] } := by
  have hlater : ∀ d ∈ s.store.core.deadlines, d.ownerEpoch < lease.fenceEpoch := by
    intro d hd
    obtain ⟨old, hold, hle⟩ := hi.epochs d hd
    rw [hepoch, nextEpoch, hold, Option.elim_some]
    rcases hle with hlt | rfl
    · omega
    · exact Nat.lt_succ_self _
  refine hi.quiet rfl hi.ledger (fun d hd => ⟨lease, rfl, .inl (hlater d hd)⟩) fun grantId => ?_
  refine Doomed.mono (fun d hd => hd) (.refl _) (fun d hd _ => .inr ?_) fun d o ho _ => .inl ho
  intro e
  have hlt := hlater d hd
  rw [Option.some.inj e] at hlt
  exact lt_irrefl _ hlt

theorem ExpiryInv.crash (lease : Lease) (hi : ExpiryInv env s) :
    ExpiryInv env { s with
      alive := s.alive.filter (· ≠ lease)
      owed := s.owed.filter (·.1 ≠ lease) } := by
  refine hi.quiet rfl hi.ledger hi.epochs fun grantId => ?_
  refine Doomed.mono (fun d hd => hd) (.refl _) (fun d _ hr => ?_) fun d o ho _ => ?_
  · rcases hr with hr | hr
    · exact .inl fun hmem => hr (List.mem_filter.mp hmem).1
    · exact .inr hr
  · by_cases e : d.lease = lease
    · exact .inr (.inl (.inl fun hmem => by simpa [e] using (List.mem_filter.mp hmem).2))
    · exact .inl (List.mem_filter.mpr ⟨ho, by simpa using e⟩)

/-- The reports of a transaction, and what it leaves: the committed store, or the owed sample. -/
theorem ExpiryInv.checked {started : Store σ} {lease : Lease} {sample : Option SecurityClockSample}
    {reports : List Report} (hi : ExpiryInv env s) (hl : Ledger s.store.clock state)
    (hb : CheckBegun env s.store state sample started fresh time) (halive : lease ∈ s.alive)
    (howed : ∀ o, (lease, o) ∉ s.owed) (hr : ∀ r ∈ reports, CheckedIn env started lease time r)
    (hdoom : ∀ grantId, Doomed env s grantId → Doomed env t grantId)
    (hnew : ∀ r ∈ reports, r.final = true → Doomed env t r.grantId)
    (hreports : t.reports = s.reports ++ reports) (hlt : ∃ state, Ledger t.store.clock state)
    (hepochs : ∀ d ∈ t.store.core.deadlines, ∃ lease, t.store.core.lease = some lease ∧
      (d.ownerEpoch < lease.fenceEpoch ∨ d.lease = lease)) : ExpiryInv env t := by
  obtain ⟨hstarted, hadvanced⟩ := hb.ledger hl
  refine ⟨hlt, hepochs, ?_, ?_⟩
  · intro r hmem hf
    rw [hreports] at hmem
    rcases List.mem_append.mp hmem with hmem | hmem
    · exact hdoom _ (hi.doomed r hmem hf)
    · exact hnew r hmem hf
  · rw [hreports, List.pairwise_append]
    refine ⟨hi.final, ?_, fun a ha b hmem e hf => ?_⟩
    · -- within the transaction the time is the same
      refine List.pairwise_iff_forall_sublist.mpr fun {a b} hsub e hf => ?_
      exact (hr a (hsub.subset (by simp))).not_valid (hr b (hsub.subset (by simp))) e hf
    · exact (e ▸ hi.doomed a ha hf).not_valid hstarted hadvanced hb.core halive howed (hr b hmem)

theorem ExpiryInv.check {lease : Lease} {entry : Bool} {sample : Option SecurityClockSample}
    {grants : List String} {rollback : Bool} (hi : ExpiryInv env s)
    (h : s.perform env (.check lease entry sample grants rollback) = .ok t) : ExpiryInv env t := by
  obtain ⟨state, hl⟩ := hi.ledger
  simp only [ExpirySystem.perform, bind_eq_ok', exists_unit, rejectIf_ok, Bool.or_eq_false_iff,
    Bool.not_eq_false'] at h
  obtain ⟨⟨halive, hbusy⟩, ⟨started, fresh, time⟩, hbegin, h⟩ := h
  have halive : lease ∈ s.alive := by simpa using halive
  have howed : ∀ o, (lease, o) ∉ s.owed := by
    intro o ho
    have := List.any_eq_false.mp hbusy _ ho
    simp at this
  have hb := beginCheck_ok hl hbegin
  obtain ⟨hstarted, hadvanced⟩ := hb.ledger hl
  cases hchecked : checkEach env lease time started grants with
  | mk reports left =>
      obtain ⟨hreports, hleft⟩ := checkEach_spec hchecked
      -- a final report dooms its grant wherever the deadlines and the lease are as they were
      have howes : t.store = s.store → t.reports = s.reports ++ reports → t.alive = s.alive →
          t.owed = s.owed ++ [(lease, fresh)] → ExpiryInv env t := by
        intro hstore hrep hal how
        refine hi.checked hl hb halive howed hreports (fun grantId => ?_) (fun r hr hf => ?_) hrep
          (hstore ▸ hi.ledger) (hstore ▸ hi.epochs)
        · refine Doomed.mono (fun d hd => hstore ▸ hd) (hstore ▸ .refl _) (fun d _ hd => ?_)
            fun d o ho _ => .inl (how ▸ List.mem_append_left _ ho)
          unfold Retired at *
          rw [hstore, hal]
          exact hd
        · obtain ⟨d, hd, hfinal⟩ := (hreports r hr).final hf
          rw [Store.deadline?, hb.core] at hd
          refine ⟨d, hstore ▸ hd, ?_⟩
          rw [hstore]
          rcases hfinal with hpast | hlost
          · rcases hpast.owed hl hb with hk | hk
            · exact .inl hk
            · refine .inr (.inr ⟨fresh, ?_, hk⟩)
              rw [how, hpast.issuer]
              exact List.mem_append_right _ (List.mem_singleton.mpr rfl)
          · refine .inr (.inl (.inr ?_))
            rw [hstore, ← hb.core]
            exact hlost
      rw [hchecked] at h
      cases left with
      | none =>
          obtain rfl := Except.ok.inj h
          exact howes rfl rfl rfl rfl
      | some store =>
          cases rollback with
          | true =>
              obtain rfl := Except.ok.inj h
              exact howes rfl rfl rfl rfl
          | false =>
              obtain rfl := Except.ok.inj h
              have hsame := hleft store rfl
              have hcore : store.core = s.store.core := hsame.core.trans hb.core
              have hl' : Ledger store.clock _ := hstarted.of_same hsame.state hsame.observations
              have hadv : Advanced s.store.clock store.clock :=
                hadvanced.trans (.of_same hsame.state hsame.observations)
              refine hi.checked hl hb halive howed hreports (fun grantId => ?_) (fun r hr hf => ?_) rfl
                ⟨_, hl'⟩ (hcore ▸ hi.epochs)
              · refine Doomed.mono (fun d hd => ?_) hadv (fun d _ hd => ?_) fun d o ho _ => .inl ho
                · unfold Store.deadline? at *
                  rw [hcore]
                  exact hd
                · unfold Retired at *
                  rw [hcore]
                  exact hd
              · obtain ⟨d, hd, hfinal⟩ := (hreports r hr).final hf
                refine ⟨d, (hsame.deadline _).trans hd, ?_⟩
                rcases hfinal with hpast | hlost
                · exact .inl (hpast.killed.mono (.of_same hsame.state hsame.observations))
                · refine .inr (.inl (.inr ?_))
                  rw [hsame.core]
                  exact hlost

/-- **One operation keeps the invariant.** -/
theorem ExpiryInv.perform {op : ExpiryOp σ} (hi : ExpiryInv env s) (h : s.perform env op = .ok t) :
    ExpiryInv env t := by
  cases op with
  | sample sample unresolved =>
      simp only [ExpirySystem.perform, bind_eq_ok'] at h
      obtain ⟨⟨clock, a⟩, happly, h⟩ := h
      obtain rfl := Except.ok.inj h
      exact hi.sample happly
  | write core sessions =>
      simp only [ExpirySystem.perform, bind_eq_ok', exists_unit, rejectIf_ok, Bool.or_eq_false_iff,
        decide_eq_false_iff_not, not_not] at h
      obtain ⟨⟨hd, hlease⟩, h⟩ := h
      obtain rfl := Except.ok.inj h
      exact hi.write hd hlease
  | issue d =>
      simp only [ExpirySystem.perform, bind_eq_ok', exists_unit, rejectIf_ok, Bool.not_eq_false'] at h
      obtain ⟨hd, h⟩ := h
      obtain rfl := Except.ok.inj h
      exact hi.issue hd
  | check lease entry sample grants rollback => exact hi.check h
  | record lease observation =>
      simp only [ExpirySystem.perform, bind_eq_ok', exists_unit] at h
      obtain ⟨_, ⟨clock, a⟩, happly, h⟩ := h
      obtain rfl := Except.ok.inj h
      exact hi.record happly
  | claim ownerId =>
      obtain rfl := Except.ok.inj h
      exact hi.claim rfl
  | crash lease =>
      obtain rfl := Except.ok.inj h
      exact hi.crash lease

theorem ExpiryInv.initial (other : σ) : ExpiryInv env (ExpirySystem.initial other) where
  ledger := ⟨_, ledger_initial⟩
  epochs := fun d hd => by cases hd
  doomed := fun r hr => by cases hr
  final := List.Pairwise.nil

theorem ExpiryInv.run (other : σ) (ops : List (ExpiryOp σ)) :
    ExpiryInv env (ExpirySystem.run env other ops) := by
  unfold ExpirySystem.run
  generalize hs : ExpirySystem.initial other = s
  have hi : ExpiryInv env s := hs ▸ ExpiryInv.initial other
  clear hs
  induction ops generalizing s with
  | nil => exact hi
  | cons op rest ih =>
      refine ih _ ?_
      unfold ExpirySystem.step
      cases h : s.perform env op with
      | error e => exact hi
      | ok t => exact hi.perform h

end Steps

/-! ## 7. The result -/

end Aios.Tasks
