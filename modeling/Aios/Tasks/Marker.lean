/-
  File:      Aios/Tasks/Marker.lean
  Subject:   TIME MARKERS: the fence around an effect outside the store, and the operations that feed
             the record of trusted time.

  An effect outside the store is prepared by a durable marker and resolved by a second receipt; in
  between the marker is pending and nothing else may use the time. What the triggers of the tables
  refuse is refused here by the insert itself (`insertPreparation`, `insertResolution`). The clock of
  a transaction is its sample, an argument; the business writes of a protected operation are to other
  tables and are left out.
-/
import Aios.Tasks.Time
import Mathlib.Logic.Relation

namespace Aios.Tasks

open Lib

/-! ## 1. Tables and permits -/

inductive ExternalEffectKind where
  | read
  | stagingWrite
  | stagingSeal
  | publication
  | exportConstruction
  | exportCopy
  | exportFinalize
  deriving DecidableEq, Repr

inductive ExternalResolutionKind where
  | effectInvoked
  | noEffect
  deriving DecidableEq, Repr

/-- A row of `trusted_time_effect_preparations`. -/
structure PreparationRow where
  markerId : String
  taskId : String
  subjectKind : ExternalEffectKind
  subjectId : String
  ownerId : String
  ownerEpoch : Nat
  preparedStateRevision : Nat
  preparedObservedUnixNanos : Int
  deriving DecidableEq, Repr

/-- A row of `trusted_time_effect_resolutions`. -/
structure ResolutionRow where
  markerId : String
  resolvedStateRevision : Nat
  entryObservedUnixNanos : Option Int
  resolutionKind : ExternalResolutionKind
  deriving DecidableEq, Repr

/-- The permit to resolve a marker; only a preparation makes one. -/
structure ExternalTimePermit where
  markerId : String
  taskId : String
  subjectKind : ExternalEffectKind
  subjectId : String
  ownerId : String
  ownerEpoch : Nat
  preparedStateRevision : Nat
  deriving DecidableEq, Repr

/-- The tables the time operations read and write. -/
structure TimeStore where
  clock : Clock
  preparations : List PreparationRow
  resolutions : List ResolutionRow
  /-- `trusted_time_effect_pending`. -/
  pending : List String
  lease : Option Lease

def TimeStore.withClock (store : TimeStore) (clock : Clock) : TimeStore := { store with clock := clock }

/-! ## 2. Assessment -/

/-- The full check of the observations, at startup. -/
def stateMatchesAudit (clock : Clock) : Bool :=
  match clock.state with
  | none => false
  | some state =>
      let revisions := clock.observations.map ObservationRow.stateRevision
      if state.revision = 0 then
        state.confidence = .unassessed && state.highWaterUnixNanos.isNone &&
          state.expiryFloorUnixNanos.isNone && clock.observations.length = 0
      else
        clock.observations.length = state.revision && revisions.min? = some 1 &&
          revisions.max? = some state.revision &&
          ((latestObservation clock.observations).any fun row =>
            row.highWaterUnixNanos = state.highWaterUnixNanos && row.confidence = state.confidence) &&
          ((clock.observations.find? fun row => row.stateRevision = state.revision).any fun row =>
            row.expiryFloorUnixNanos = state.expiryFloorUnixNanos && row.confidence = state.confidence)

/-- Whether a pending marker stops a sample, makes it uncertain, or is ignored. -/
inductive PendingPolicy where
  | deny
  | latch
  | recordOnly
  deriving DecidableEq, Repr

section Operations

variable (env : TimeEnv) (store : TimeStore)

def assessSampleWithPendingPolicy (sample : Option SecurityClockSample) (policy : PendingPolicy) :
    TaskResult (TimeStore × TimeAssessment) := do
  let pending := !store.pending.isEmpty
  rejectIf (policy = .deny && pending) timeUncertain
  let (clock, assessment) ← applySampleInTransactionWithUnresolved env store.clock sample
    (policy = .latch && pending)
  return (store.withClock clock, assessment)

def assess (sample : Option SecurityClockSample) : TaskResult (TimeStore × TimeAssessment) := do
  rejectIf (!store.pending.isEmpty) timeUncertain
  assessSampleWithPendingPolicy env store sample .deny

def startupAssess (sample : Option SecurityClockSample) : TaskResult (TimeStore × TimeAssessment) :=
  assessSampleWithPendingPolicy env store sample .latch

/-- A locked sample that is recorded on its own, after a rollback. -/
def LockedTimeObservation.commit (o : LockedTimeObservation) : TaskResult (TimeStore × TimeAssessment) :=
  assessSampleWithPendingPolicy env store o.sample .recordOnly

/-! ## 3. Locked samples -/

/-- The pending marker is the permitted one, or there is none of both. -/
def pendingPermitted (permitted : Option String) : Bool :=
  match permitted, store.pending.head? with
  | none, none => true
  | some expected, some actual => expected = actual && store.pending.length = 1
  | _, _ => false

def captureLockedWithPermit (sample : Option SecurityClockSample) (permitted : Option String) :
    TaskResult LockedTimeObservation := do
  rejectIf (!stateMatchesAuditTail store.clock) timeStateInvalid
  rejectIf (!pendingPermitted store permitted) timeUncertain
  let observed := sample.bind fun s => env.parseNanos s.wall
  return ⟨sample, lockedEffective store.clock.state observed⟩

/-- A protected transaction: the locked sample must be trusted, the operation works with its time,
    and the sample is committed with it, `again` where the operation has committed it before. -/
def withProtected (sample : Option SecurityClockSample) (again : Bool) : TaskResult (TimeStore × Int) := do
  let fresh ← captureLockedWithPermit env store sample none
  let _ ← fresh.requireTrustedTime env
  let effective ← expect fresh.effectiveNanos timeUncertain
  let (clock, assessment) ← fresh.commitIn env store.clock
  let _ ← assessment.requireTrustedTime env
  if again then
    let (clock, assessment) ← fresh.commitIn env clock
    let _ ← assessment.requireTrustedTime env
    return (store.withClock clock, effective)
  return (store.withClock clock, effective)

/-- A protected transaction whose sample is committed before the operation, which is given the
    context of that very observation. -/
def withProtectedObservation (sample : Option SecurityClockSample) : TaskResult (TimeStore × Int) := do
  let fresh ← captureLockedWithPermit env store sample none
  let _ ← fresh.requireTrustedTime env
  let (clock, context) ← fresh.commitContextIn env store.clock
  return (store.withClock clock, context.effectiveUnixNanos)

/-! ## 4. Preparation -/

/-- The manager with this lease is the one the store knows. -/
def TimeStore.assertLease (lease : Lease) : TaskResult Unit :=
  rejectIf (store.lease ≠ some lease)
    (.invalidRecord "Task Manager write rejected by stale ownership fence")

/-- The revision and the observed time of the current state. -/
def currentObserved (clock : Clock) : Option (Nat × Option Int) := do
  let state ← clock.state
  let row ← clock.observations.find? fun o => o.stateRevision = state.revision
  return (state.revision, row.observedUnixNanos)

/-- The state is trusted, and so is the observation of its revision. -/
def currentTrusted (clock : Clock) (revision : Nat) (observed : Int) : Bool :=
  clock.state.any fun s => s.confidence = .trustedLocal && s.revision = revision &&
    clock.observations.any fun o => o.stateRevision = s.revision && o.confidence = .trustedLocal &&
      o.observedUnixNanos = some observed

/-- Inserts a preparation; its trigger makes the marker pending. -/
def insertPreparation (row : PreparationRow) : TaskResult TimeStore := do
  rejectIf (store.preparations.any fun p => p.markerId = row.markerId)
    (.storage "in-flight time marker already exists")
  rejectIf (!(currentTrusted store.clock row.preparedStateRevision row.preparedObservedUnixNanos &&
      store.lease = some ⟨row.ownerId, row.ownerEpoch⟩))
    (.storage "in-flight time preparation lacks exact clock and owner")
  rejectIf (store.pending.contains row.markerId) (.storage "in-flight time marker is already pending")
  rejectIf (store.resolutions.any fun r => r.markerId = row.markerId)
    (.storage "in-flight time pending projection is invalid")
  return { store with
    preparations := store.preparations ++ [row]
    pending := store.pending ++ [row.markerId] }

/-- What a preparation is asked for. -/
structure EffectSubject where
  taskId : String
  subjectKind : ExternalEffectKind
  subjectId : String
  deriving DecidableEq, Repr

/-- A text of 1 to 256 characters without a NUL. -/
def subjectText (text : String) : Bool :=
  !text.isEmpty && text.length ≤ 256 && !text.toList.contains (Char.ofNat 0)

def EffectSubject.valid (subject : EffectSubject) (lease : Lease) : Bool :=
  1 ≤ lease.fenceEpoch && subjectText subject.taskId && subjectText subject.subjectId

/-- The locked transaction of a preparation; `assess` has come before. -/
def prepareExternalEffect (lease : Lease) (subject : EffectSubject) (sample : Option SecurityClockSample)
    (markerId : String) : TaskResult (TimeStore × ExternalTimePermit × Int) := do
  rejectIf (!subject.valid lease) (.invalidRecord "invalid in-flight time subject")
  store.assertLease lease
  let fresh ← captureLockedWithPermit env store sample none
  let _ ← fresh.requireTrustedTime env
  let effective ← expect fresh.effectiveNanos timeUncertain
  let (clock, assessment) ← fresh.commitIn env store.clock
  let _ ← assessment.requireTrustedTime env
  let (revision, observed) ← expect (currentObserved clock) (.storage "Query returned no rows")
  let observed ← expect observed (.storage "Invalid column type Null")
  let prepared ← insertPreparation (store.withClock clock) ⟨markerId, subject.taskId,
    subject.subjectKind, subject.subjectId, lease.ownerId, lease.fenceEpoch, revision, observed⟩
  return (prepared, ⟨markerId, subject.taskId, subject.subjectKind, subject.subjectId, lease.ownerId,
    lease.fenceEpoch, revision⟩, effective)

/-! ## 5. Entry and resolution -/

/-- The preparation says what the permit says. -/
def PreparationRow.matches (p : PreparationRow) (permit : ExternalTimePermit) : Bool :=
  p.markerId = permit.markerId && p.taskId = permit.taskId && p.subjectKind = permit.subjectKind &&
    p.subjectId = permit.subjectId && p.ownerId = permit.ownerId && p.ownerEpoch = permit.ownerEpoch &&
    p.preparedStateRevision = permit.preparedStateRevision

def permitMatchesLocked (permit : ExternalTimePermit) : TaskResult Unit := do
  store.assertLease ⟨permit.ownerId, permit.ownerEpoch⟩
  rejectIf (!store.preparations.any fun p => p.matches permit && store.pending.contains p.markerId &&
    !store.resolutions.any fun r => r.markerId = p.markerId) timeUncertain

/-- The locked sample of an entry, and the revision it was committed under, if it was. -/
structure ExternalEntrySample where
  markerId : String
  observation : LockedTimeObservation
  committedStateRevision : Option Nat
  deriving DecidableEq, Repr

def captureExternalEntry (permit : ExternalTimePermit) (sample : Option SecurityClockSample) :
    TaskResult ExternalEntrySample := do
  permitMatchesLocked store permit
  let observation ← captureLockedWithPermit env store sample (some permit.markerId)
  return ⟨permit.markerId, observation, none⟩

/-- The sample of the entry is committed early, for a check of the authority. -/
def ExternalEntrySample.commitContextIn (entry : ExternalEntrySample) :
    TaskResult (TimeStore × ExternalEntrySample × ProtectedTimeContext) := do
  rejectIf entry.committedStateRevision.isSome timeUncertain
  let (clock, context) ← entry.observation.commitContextIn env store.clock
  return (store.withClock clock, { entry with committedStateRevision := some context.stateRevision },
    context)

/-- What the trigger of a resolution asks of the marker and the time. -/
def resolutionExact (row : ResolutionRow) : Bool :=
  store.pending.contains row.markerId && store.pending.length = 1 &&
    store.preparations.any fun p => p.markerId = row.markerId &&
      store.lease = some ⟨p.ownerId, p.ownerEpoch⟩ &&
      store.clock.state.any fun s => s.revision = row.resolvedStateRevision &&
        p.preparedStateRevision < s.revision &&
        (store.clock.observations.any fun o => o.stateRevision = s.revision &&
          o.confidence = s.confidence && o.observedUnixNanos = row.entryObservedUnixNanos) &&
        match row.resolutionKind with
        | .effectInvoked => s.confidence = .trustedLocal && row.entryObservedUnixNanos.isSome
        | .noEffect => s.confidence = .trustedLocal || s.confidence = .timeUncertain

/-- Inserts a resolution; its trigger takes the marker out of the pending ones. -/
def insertResolution (row : ResolutionRow) : TaskResult TimeStore := do
  rejectIf (store.resolutions.any fun r => r.markerId = row.markerId ||
      r.resolvedStateRevision = row.resolvedStateRevision)
    (.storage "in-flight time resolution already exists")
  rejectIf (!resolutionExact store row)
    (.storage "in-flight time resolution lacks exact entry clock and owner")
  return { store with
    resolutions := store.resolutions ++ [row]
    pending := store.pending.filter fun id => id ≠ row.markerId }

/-- The assessment of an entry: the one of its early commit, or the one of its commit now. -/
def entryAssessment (entry : ExternalEntrySample) : TaskResult (TimeStore × TimeAssessment) :=
  match entry.committedStateRevision with
  | some committed => do
      let state ← expect store.clock.state (.storage "Query returned no rows")
      rejectIf (state.revision ≠ committed || state.confidence ≠ .trustedLocal) timeUncertain
      return (store, ⟨state.confidence, state.expiryFloorUnixNanos⟩)
  | none => do
      let (clock, assessment) ← entry.observation.commitIn env store.clock
      return (store.withClock clock, assessment)

def resolveExternalEntryInKind (permit : ExternalTimePermit) (entry : ExternalEntrySample)
    (kind : ExternalResolutionKind) : TaskResult (TimeStore × TimeAssessment) := do
  rejectIf (entry.markerId ≠ permit.markerId) timeUncertain
  permitMatchesLocked store permit
  if kind = .effectInvoked then
    let _ ← entry.observation.requireTrustedTime env
  let (store, assessment) ← entryAssessment env store entry
  if kind = .effectInvoked then
    let _ ← assessment.requireTrustedTime env
  let (revision, observed) ← expect (currentObserved store.clock) (.storage "Query returned no rows")
  let resolved ← insertResolution store ⟨permit.markerId, revision, observed, kind⟩
  return (resolved, assessment)

/-- Whether an entry checks the authority before its resolution: it commits its sample early, and the
    check goes on or gives up with the sample written. -/
inductive EarlyCommit where
  | none
  | checked
  | abandoned
  deriving DecidableEq, Repr

def earlyCommit (entry : ExternalEntrySample) : EarlyCommit → TaskResult (TimeStore × ExternalEntrySample)
  | .none => .ok (store, entry)
  | .checked => do
      let (store, entry, _) ← entry.commitContextIn env store
      return (store, entry)
  | .abandoned => do
      let (clock, _) ← entry.observation.commitIn env store.clock
      return (store.withClock clock, entry)

/-- The transaction of an entry: its sample, the early commit where the authority is checked, and
    the resolution. -/
def enterExternalEffect (permit : ExternalTimePermit) (sample : Option SecurityClockSample)
    (early : EarlyCommit) (kind : ExternalResolutionKind) : TaskResult (TimeStore × Option Int) := do
  let entry ← captureExternalEntry env store permit sample
  let (committed, entry) ← earlyCommit env store entry early
  let (resolved, _) ← resolveExternalEntryInKind env committed permit entry kind
  return (resolved, if kind = .effectInvoked then entry.observation.effectiveNanos else none)

end Operations

/-! ## 6. The system -/

/-- The store, the permits that managers hold in memory, and the times that successful protected
    operations were given, in their order. -/
structure TimeSystem where
  store : TimeStore
  permits : List ExternalTimePermit
  handed : List Int

/-- One transaction of any manager, or an event between transactions. -/
inductive TimeOp where
  | assess (sample : Option SecurityClockSample)
  | startup (sample : Option SecurityClockSample)
  /-- The sample of a transaction that was rolled back is recorded. -/
  | record (observation : LockedTimeObservation)
  | guarded (sample : Option SecurityClockSample) (again : Bool)
  | observed (sample : Option SecurityClockSample)
  | prepare (lease : Lease) (subject : EffectSubject) (sample : Option SecurityClockSample)
      (markerId : String)
  | enter (permit : ExternalTimePermit) (sample : Option SecurityClockSample) (early : EarlyCommit)
      (kind : ExternalResolutionKind)
  /-- A new manager claims the lease. -/
  | claim (ownerId : String)
  /-- A manager is gone, and its permits with it. -/
  | crash (ownerId : String)
  deriving DecidableEq

section System

variable (env : TimeEnv)

/-- The time an assessment gives, where it can be trusted and written. -/
def TimeAssessment.handed (a : TimeAssessment) : Option Int :=
  match a.requireTrustedTime env with
  | .ok _ => a.effectiveNanos
  | .error _ => none

/-- The next fence epoch. -/
def nextEpoch (lease : Option Lease) : Nat := (lease.elim 0 Lease.fenceEpoch) + 1

/-- What the operation does where nothing stops it. -/
def TimeSystem.perform (s : TimeSystem) : TimeOp → TaskResult TimeSystem
  | .assess sample => do
      let (store, assessment) ← Tasks.assess env s.store sample
      return { s with store := store, handed := s.handed ++ (assessment.handed env).toList }
  | .startup sample => do
      let (store, _) ← startupAssess env s.store sample
      return { s with store := store }
  | .record observation => do
      let (store, _) ← observation.commit env s.store
      return { s with store := store }
  | .guarded sample again => do
      let (store, effective) ← withProtected env s.store sample again
      return { s with store := store, handed := s.handed ++ [effective] }
  | .observed sample => do
      let (store, effective) ← withProtectedObservation env s.store sample
      return { s with store := store, handed := s.handed ++ [effective] }
  | .prepare lease subject sample markerId => do
      let (store, permit, effective) ← prepareExternalEffect env s.store lease subject sample markerId
      return ⟨store, s.permits ++ [permit], s.handed ++ [effective]⟩
  | .enter permit sample early kind => do
      rejectIf (!s.permits.contains permit) (.invalidRecord "no such permit")
      let (store, effective) ← enterExternalEffect env s.store permit sample early kind
      return { s with store := store, handed := s.handed ++ effective.toList }
  | .claim ownerId => .ok { s with store := { s.store with
      lease := some ⟨ownerId, nextEpoch s.store.lease⟩ } }
  | .crash ownerId => .ok { s with permits := s.permits.filter fun p => p.ownerId ≠ ownerId }

/-- One step: an operation that fails leaves the system as it was. -/
def TimeSystem.step (s : TimeSystem) (op : TimeOp) : TimeSystem :=
  match s.perform env op with
  | .ok after => after
  | .error _ => s

/-- The tables as the migrations leave them. -/
def TimeSystem.initial : TimeSystem where
  store := {
    clock := ⟨some ⟨.unassessed, none, none, "TIME_UNASSESSED", 0⟩, [], [], []⟩
    preparations := []
    resolutions := []
    pending := []
    lease := none }
  permits := []
  handed := []

/-- A run of operations, in any order. -/
def TimeSystem.run (ops : List TimeOp) : TimeSystem :=
  ops.foldl (TimeSystem.step env) TimeSystem.initial

end System

/-! ## 7. What an operation does

  Every operation applies samples to the clock and changes the markers by one insert at most.
-/

variable {env : TimeEnv} {store store' : TimeStore} {sample : Option SecurityClockSample}

/-- The state a row of the observations stands for. -/
def ObservationRow.toState (row : ObservationRow) : TimeState :=
  ⟨row.confidence, row.highWaterUnixNanos, row.expiryFloorUnixNanos, row.reasonCode, row.stateRevision⟩

/-- The wall time of a sample. -/
def sampleWall (env : TimeEnv) (sample : Option SecurityClockSample) : Option Int :=
  sample.bind fun s => env.parseNanos s.wall

/-- The row a sample adds to a state. -/
def sampleRow (env : TimeEnv) (old : TimeState) (sample : Option SecurityClockSample)
    (unresolved : Bool) : ObservationRow :=
  let read := readSample env sample
  let verdict := sampleVerdict old read.1 unresolved
  let high := maxKnown old.highWaterUnixNanos read.1
  ⟨old.revision + 1, read.1, read.2.1, high, maxKnown old.expiryFloorUnixNanos high, verdict.1,
    verdict.2, read.2.2⟩

/-- The clock with one row more. -/
def Clock.add (clock : Clock) (row : ObservationRow) : Clock :=
  { clock with state := some row.toState, observations := clock.observations ++ [row] }

theorem readSample_wall : (readSample env sample).1 = sampleWall env sample := by
  unfold readSample sampleWall
  cases sample with
  | none => rfl
  | some s =>
      simp only [Option.bind_some]
      cases env.parseNanos s.wall with
      | none => rfl
      | some wall => rfl

variable {permit : ExternalTimePermit} {a : TimeAssessment}

/-- What an applied sample leaves, and what it took. -/
theorem applySample_ok {clock clock' : Clock} {unresolved : Bool}
    (h : applySampleInTransactionWithUnresolved env clock sample unresolved = .ok (clock', a)) :
    ∃ old, clock.state = some old ∧ old.revision < maxI64 ∧
      clock' = clock.add (sampleRow env old sample unresolved) ∧
      a = ⟨(sampleRow env old sample unresolved).confidence,
        (sampleRow env old sample unresolved).expiryFloorUnixNanos⟩ := by
  unfold applySampleInTransactionWithUnresolved at h
  simp only [bind_eq_ok', exists_unit, rejectIf_ok, expect_ok] at h
  obtain ⟨_, old, hold, _, hrev, _, h⟩ := h
  have e := Except.ok.inj h
  refine ⟨old, hold, ?_, ?_, ?_⟩
  · have := of_decide_eq_false hrev
    omega
  · exact (congrArg Prod.fst e).symm
  · exact (congrArg Prod.snd e).symm

/-- One sample was applied to the clock. -/
def Sampled (env : TimeEnv) (before after : Clock) : Prop :=
  ∃ sample unresolved a, applySampleInTransactionWithUnresolved env before sample unresolved = .ok (after, a)

/-- This sample was applied, once or more. -/
def Applied (env : TimeEnv) (sample : Option SecurityClockSample) : Clock → Clock → Prop :=
  Relation.TransGen fun before after =>
    ∃ a, applySampleInTransactionWithUnresolved env before sample false = .ok (after, a)

theorem Applied.sampled {before after : Clock} (h : Applied env sample before after) :
    Relation.ReflTransGen (Sampled env) before after := by
  induction h with
  | single k =>
      obtain ⟨a, k⟩ := k
      exact .single ⟨sample, false, a, k⟩
  | tail _ k ih =>
      obtain ⟨a, k⟩ := k
      exact ih.tail ⟨sample, false, a, k⟩

theorem applied_commitIn {clock clock' : Clock} {o : LockedTimeObservation}
    (h : o.commitIn env clock = .ok (clock', a)) : Applied env o.sample clock clock' := .single ⟨a, h⟩

theorem assessSampleWithPendingPolicy_ok {policy : PendingPolicy}
    (h : assessSampleWithPendingPolicy env store sample policy = .ok (store', a)) :
    (policy = .deny → store.pending = []) ∧
      ∃ clock, applySampleInTransactionWithUnresolved env store.clock sample
        (policy = .latch && !store.pending.isEmpty) = .ok (clock, a) ∧ store' = store.withClock clock := by
  unfold assessSampleWithPendingPolicy at h
  simp only [bind_eq_ok', exists_unit, rejectIf_ok] at h
  obtain ⟨hdeny, ⟨clock, b⟩, happly, h⟩ := h
  have e := Except.ok.inj h
  have hb : b = a := congrArg Prod.snd e
  subst hb
  refine ⟨fun hp => ?_, clock, happly, (congrArg Prod.fst e).symm⟩
  subst hp
  simpa using hdeny

theorem captureLockedWithPermit_ok {permitted : Option String} {o : LockedTimeObservation}
    (h : captureLockedWithPermit env store sample permitted = .ok o) :
    pendingPermitted store permitted = true ∧ o.sample = sample ∧
      o.effectiveNanos = lockedEffective store.clock.state (sampleWall env sample) := by
  unfold captureLockedWithPermit at h
  simp only [bind_eq_ok', exists_unit, rejectIf_ok] at h
  obtain ⟨_, hpending, h⟩ := h
  have e := Except.ok.inj h
  subst e
  exact ⟨by simpa using hpending, rfl, rfl⟩

theorem pendingPermitted_none (h : pendingPermitted store none = true) : store.pending = [] := by
  unfold pendingPermitted at h
  cases hp : store.pending with
  | nil => rfl
  | cons id rest =>
      rw [hp] at h
      cases h

theorem pendingPermitted_some {id : String} (h : pendingPermitted store (some id) = true) :
    store.pending = [id] := by
  unfold pendingPermitted at h
  cases hp : store.pending with
  | nil =>
      rw [hp] at h
      cases h
  | cons first rest =>
      rw [hp] at h
      simp only [List.head?_cons, List.length_cons, Bool.and_eq_true, decide_eq_true_eq] at h
      obtain ⟨e, hl⟩ := h
      have hr : rest = [] := List.length_eq_zero_iff.mp (by omega)
      rw [e, hr]

/-- A protected transaction found no marker, and its time is that of its sample. -/
theorem withProtected_ok {again : Bool} {effective : Int}
    (h : withProtected env store sample again = .ok (store', effective)) :
    store.pending = [] ∧ lockedEffective store.clock.state (sampleWall env sample) = some effective ∧
      ∃ clock, Applied env sample store.clock clock ∧ store' = store.withClock clock := by
  unfold withProtected at h
  simp only [bind_eq_ok', expect_ok] at h
  obtain ⟨fresh, hfresh, _, _, e, he, ⟨clock, a⟩, hcommit, _, _, h⟩ := h
  obtain ⟨hpending, hsample, heffective⟩ := captureLockedWithPermit_ok hfresh
  have hfirst := applied_commitIn hcommit
  rw [hsample] at hfirst
  rw [heffective] at he
  have hp := pendingPermitted_none hpending
  cases again with
  | false =>
      have h := Except.ok.inj h
      have e' : e = effective := congrArg Prod.snd h
      exact ⟨hp, e' ▸ he, clock, hfirst, (congrArg Prod.fst h).symm⟩
  | true =>
      simp only [if_true, bind_eq_ok'] at h
      obtain ⟨⟨clock2, a2⟩, hcommit2, _, _, h⟩ := h
      have h := Except.ok.inj h
      have hsecond := applied_commitIn hcommit2
      rw [hsample] at hsecond
      have e' : e = effective := congrArg Prod.snd h
      exact ⟨hp, e' ▸ he, clock2, hfirst.trans hsecond, (congrArg Prod.fst h).symm⟩

theorem commitContextIn_ok {clock clock' : Clock} {o : LockedTimeObservation} {t : ProtectedTimeContext}
    (h : o.commitContextIn env clock = .ok (clock', t)) :
    Applied env o.sample clock clock' ∧
      ∃ row, trustedEvidence clock' = some row ∧ row.stateRevision = t.stateRevision ∧
        row.observedUnixNanos = some t.observedUnixNanos ∧
        row.expiryFloorUnixNanos = some t.effectiveUnixNanos ∧
        row.monotonicNanos = some t.monotonicNanos := by
  unfold LockedTimeObservation.commitContextIn at h
  simp only [bind_eq_ok', expect_ok] at h
  obtain ⟨⟨middle, a⟩, hcommit, now, _, row, hrow, observed, hobserved, effective, heffective,
    monotonic, hmonotonic, h⟩ := h
  have e := Except.ok.inj h
  have hclock : middle = clock' := congrArg Prod.fst e
  have ht : (⟨now, row.stateRevision, observed, effective, monotonic⟩ : ProtectedTimeContext) = t :=
    congrArg Prod.snd e
  subst ht
  subst hclock
  exact ⟨applied_commitIn hcommit, row, hrow, rfl, hobserved, heffective, hmonotonic⟩

theorem withProtectedObservation_ok {effective : Int}
    (h : withProtectedObservation env store sample = .ok (store', effective)) :
    store.pending = [] ∧ ∃ clock row, Applied env sample store.clock clock ∧
      trustedEvidence clock = some row ∧ row.expiryFloorUnixNanos = some effective ∧
      store' = store.withClock clock := by
  unfold withProtectedObservation at h
  simp only [bind_eq_ok'] at h
  obtain ⟨fresh, hfresh, _, _, ⟨clock, t⟩, hcommit, h⟩ := h
  obtain ⟨hpending, hsample, _⟩ := captureLockedWithPermit_ok hfresh
  obtain ⟨happlied, row, hrow, _, _, hfloor, _⟩ := commitContextIn_ok hcommit
  rw [hsample] at happlied
  have e := Except.ok.inj h
  have e' : t.effectiveUnixNanos = effective := congrArg Prod.snd e
  exact ⟨pendingPermitted_none hpending, clock, row, happlied, hrow, e' ▸ hfloor,
    (congrArg Prod.fst e).symm⟩

/-- A preparation is inserted under the current trusted observation, by the manager with the lease,
    for a marker that was never used. -/
theorem insertPreparation_ok {row : PreparationRow}
    (h : insertPreparation store row = .ok store') :
    currentTrusted store.clock row.preparedStateRevision row.preparedObservedUnixNanos = true ∧
      store.lease = some ⟨row.ownerId, row.ownerEpoch⟩ ∧
      (∀ p ∈ store.preparations, p.markerId ≠ row.markerId) ∧
      (∀ r ∈ store.resolutions, r.markerId ≠ row.markerId) ∧
      store' = { store with
        preparations := store.preparations ++ [row]
        pending := store.pending ++ [row.markerId] } := by
  unfold insertPreparation at h
  simp only [bind_eq_ok', exists_unit, rejectIf_ok] at h
  obtain ⟨hprepared, hexact, _, hresolved, h⟩ := h
  simp only [Bool.not_eq_false', Bool.and_eq_true, decide_eq_true_eq] at hexact
  simp only [List.any_eq_false, decide_eq_true_eq] at hprepared hresolved
  exact ⟨hexact.1, hexact.2, hprepared, hresolved, (Except.ok.inj h).symm⟩

/-- What a preparation leaves. -/
structure MarkerPrepared (env : TimeEnv) (store : TimeStore) (lease : Lease) (subject : EffectSubject)
    (sample : Option SecurityClockSample) (markerId : String) (store' : TimeStore)
    (permit : ExternalTimePermit) (effective : Int) : Prop where
  idle : store.pending = []
  leased : store.lease = some lease
  timed : lockedEffective store.clock.state (sampleWall env sample) = some effective
  inserted : ∃ clock revision observed, Applied env sample store.clock clock ∧
    permit = ⟨markerId, subject.taskId, subject.subjectKind, subject.subjectId, lease.ownerId,
      lease.fenceEpoch, revision⟩ ∧
    insertPreparation (store.withClock clock) ⟨markerId, subject.taskId, subject.subjectKind,
      subject.subjectId, lease.ownerId, lease.fenceEpoch, revision, observed⟩ = .ok store'

theorem assertLease_ok {lease : Lease} (h : store.assertLease lease = .ok ()) :
    store.lease = some lease := by
  unfold TimeStore.assertLease at h
  rw [rejectIf_ok] at h
  simpa using h

theorem prepareExternalEffect_ok {lease : Lease} {subject : EffectSubject} {markerId : String}
    {effective : Int}
    (h : prepareExternalEffect env store lease subject sample markerId = .ok (store', permit, effective)) :
    MarkerPrepared env store lease subject sample markerId store' permit effective := by
  unfold prepareExternalEffect at h
  simp only [bind_eq_ok', exists_unit, expect_ok] at h
  obtain ⟨_, hlease, fresh, hfresh, _, _, e, he, ⟨clock, a⟩, hcommit, _, _, ⟨revision, known⟩, _,
    observed, _, prepared, hinsert, h⟩ := h
  obtain ⟨hpending, hsample, heffective⟩ := captureLockedWithPermit_ok hfresh
  have happlied := applied_commitIn hcommit
  rw [hsample] at happlied
  rw [heffective] at he
  have hr := Except.ok.inj h
  have hstore : prepared = store' := congrArg Prod.fst hr
  have heff : e = effective := congrArg (fun r => r.2.2) hr
  exact ⟨pendingPermitted_none hpending, assertLease_ok hlease, heff ▸ he, clock, revision, observed,
    happlied, (congrArg (fun r => r.2.1) hr).symm, hstore ▸ hinsert⟩

/-- The permit stands for a preparation of the current lease that is pending and unresolved. -/
theorem permitMatchesLocked_ok (h : permitMatchesLocked store permit = .ok ()) :
    store.lease = some ⟨permit.ownerId, permit.ownerEpoch⟩ ∧
      ∃ p ∈ store.preparations, p.matches permit = true ∧ p.markerId ∈ store.pending ∧
        ∀ r ∈ store.resolutions, r.markerId ≠ p.markerId := by
  unfold permitMatchesLocked at h
  simp only [bind_eq_ok', exists_unit, rejectIf_ok] at h
  obtain ⟨hlease, h⟩ := h
  simp only [Bool.not_eq_false', List.any_eq_true, Bool.and_eq_true, Bool.not_eq_true',
    List.any_eq_false, decide_eq_true_eq, List.contains_iff_mem] at h
  obtain ⟨p, hp, ⟨hmatch, hpending⟩, hresolved⟩ := h
  exact ⟨assertLease_ok hlease, p, hp, hmatch, hpending, hresolved⟩

/-- A resolution is inserted for the one pending marker, by its owner, under the current
    observation. -/
theorem insertResolution_ok {row : ResolutionRow} (h : insertResolution store row = .ok store') :
    resolutionExact store row = true ∧
      (∀ r ∈ store.resolutions, r.markerId ≠ row.markerId ∧
        r.resolvedStateRevision ≠ row.resolvedStateRevision) ∧
      store' = { store with
        resolutions := store.resolutions ++ [row]
        pending := store.pending.filter fun id => id ≠ row.markerId } := by
  unfold insertResolution at h
  simp only [bind_eq_ok', exists_unit, rejectIf_ok] at h
  obtain ⟨hfresh, hexact, h⟩ := h
  simp only [List.any_eq_false, Bool.or_eq_true, decide_eq_true_eq, not_or] at hfresh
  exact ⟨by simpa using hexact, hfresh, (Except.ok.inj h).symm⟩

/-- What an entry leaves. -/
structure MarkerEntered (env : TimeEnv) (store : TimeStore) (permit : ExternalTimePermit)
    (sample : Option SecurityClockSample) (kind : ExternalResolutionKind) (store' : TimeStore)
    (effective : Option Int) : Prop where
  alone : store.pending = [permit.markerId]
  matched : permitMatchesLocked store permit = .ok ()
  timed : effective = if kind = .effectInvoked then
    lockedEffective store.clock.state (sampleWall env sample) else none
  trusted : kind = .effectInvoked → effective.isSome = true
  inserted : ∃ clock revision observed, Applied env sample store.clock clock ∧
    insertResolution (store.withClock clock) ⟨permit.markerId, revision, observed, kind⟩ = .ok store'

theorem captureExternalEntry_ok {entry : ExternalEntrySample}
    (h : captureExternalEntry env store permit sample = .ok entry) :
    permitMatchesLocked store permit = .ok () ∧ store.pending = [permit.markerId] ∧
      entry.observation.sample = sample ∧
      entry.observation.effectiveNanos = lockedEffective store.clock.state (sampleWall env sample) ∧
      entry.committedStateRevision = none := by
  unfold captureExternalEntry at h
  simp only [bind_eq_ok', exists_unit] at h
  obtain ⟨hmatched, o, ho, h⟩ := h
  obtain ⟨hpending, hsample, heffective⟩ := captureLockedWithPermit_ok ho
  have e := Except.ok.inj h
  subst e
  exact ⟨hmatched, pendingPermitted_some hpending, hsample, heffective, rfl⟩

/-- The assessment of an entry applies its sample, unless it was committed before. -/
theorem entryAssessment_ok {entry : ExternalEntrySample}
    (h : entryAssessment env store entry = .ok (store', a)) :
    (entry.committedStateRevision.isSome = true ∧ store' = store) ∨
      ∃ clock, Applied env entry.observation.sample store.clock clock ∧ store' = store.withClock clock := by
  unfold entryAssessment at h
  cases hc : entry.committedStateRevision with
  | some committed =>
      simp only [hc, bind_eq_ok', exists_unit, expect_ok] at h
      obtain ⟨state, _, _, h⟩ := h
      exact .inl ⟨rfl, (congrArg Prod.fst (Except.ok.inj h)).symm⟩
  | none =>
      simp only [hc, bind_eq_ok'] at h
      obtain ⟨⟨clock, b⟩, hcommit, h⟩ := h
      exact .inr ⟨clock, applied_commitIn hcommit, (congrArg Prod.fst (Except.ok.inj h)).symm⟩

theorem resolveExternalEntryInKind_ok {entry : ExternalEntrySample} {kind : ExternalResolutionKind}
    (h : resolveExternalEntryInKind env store permit entry kind = .ok (store', a)) :
    (kind = .effectInvoked → entry.observation.effectiveNanos.isSome = true) ∧
      ∃ middle revision observed, entryAssessment env store entry = .ok (middle, a) ∧
        insertResolution middle ⟨permit.markerId, revision, observed, kind⟩ = .ok store' := by
  unfold resolveExternalEntryInKind at h
  simp only [bind_eq_ok', exists_unit] at h
  obtain ⟨_, _, h⟩ := h
  cases kind with
  | effectInvoked =>
      simp only [if_true, LockedTimeObservation.requireTrustedTime, bind_eq_ok', expect_ok] at h
      obtain ⟨_, ⟨nanos, hnanos, _⟩, ⟨middle, b⟩, hentry, _, _, ⟨revision, observed⟩, _, resolved,
        hinsert, h⟩ := h
      have e := Except.ok.inj h
      have hs : resolved = store' := congrArg Prod.fst e
      have hb : b = a := congrArg Prod.snd e
      exact ⟨fun _ => by rw [hnanos]; rfl, middle, revision, observed, hb ▸ hentry, hs ▸ hinsert⟩
  | noEffect =>
      simp only [reduceCtorEq, if_false, bind_eq_ok', expect_ok] at h
      obtain ⟨⟨middle, b⟩, hentry, ⟨revision, observed⟩, _, resolved, hinsert, h⟩ := h
      have e := Except.ok.inj h
      have hs : resolved = store' := congrArg Prod.fst e
      have hb : b = a := congrArg Prod.snd e
      exact ⟨fun hk => (by cases hk), middle, revision, observed, hb ▸ hentry, hs ▸ hinsert⟩

/-- The sample of an early commit, and what it leaves of the entry. -/
theorem earlyCommit_ok {entry entry' : ExternalEntrySample} {early : EarlyCommit}
    (h : earlyCommit env store entry early = .ok (store', entry')) :
    entry'.observation = entry.observation ∧
      ((store' = store ∧ entry' = entry) ∨
        ∃ clock, Applied env entry.observation.sample store.clock clock ∧
          store' = store.withClock clock) := by
  cases early with
  | none =>
      have e := Except.ok.inj h
      have hs : store = store' := congrArg Prod.fst e
      have he : entry = entry' := congrArg Prod.snd e
      exact ⟨by rw [he], .inl ⟨hs.symm, he.symm⟩⟩
  | checked =>
      simp only [earlyCommit, ExternalEntrySample.commitContextIn, bind_eq_ok', exists_unit] at h
      obtain ⟨⟨s, e, t⟩, ⟨_, ⟨clock, c⟩, hcommit, hr⟩, h⟩ := h
      have hr := Except.ok.inj hr
      have h := Except.ok.inj h
      have hs : store.withClock clock = store' :=
        (congrArg (fun r => r.1) hr).trans (congrArg Prod.fst h)
      have he := (congrArg (fun r => r.2.1) hr).trans (congrArg Prod.snd h)
      subst he
      exact ⟨rfl, .inr ⟨clock, (commitContextIn_ok hcommit).1, hs.symm⟩⟩
  | abandoned =>
      simp only [earlyCommit, bind_eq_ok'] at h
      obtain ⟨⟨clock, a⟩, hcommit, h⟩ := h
      have h := Except.ok.inj h
      have he : entry = entry' := congrArg Prod.snd h
      exact ⟨by rw [he], .inr ⟨clock, applied_commitIn hcommit, (congrArg Prod.fst h).symm⟩⟩

theorem enterExternalEffect_ok {early : EarlyCommit}
    {kind : ExternalResolutionKind} {effective : Option Int}
    (h : enterExternalEffect env store permit sample early kind = .ok (store', effective)) :
    MarkerEntered env store permit sample kind store' effective := by
  unfold enterExternalEffect at h
  simp only [bind_eq_ok'] at h
  obtain ⟨entry, hentry, ⟨committed, entry'⟩, hearly, ⟨resolved, a⟩, hresolve, h⟩ := h
  obtain ⟨hmatched, halone, hsample, heffective, hnone⟩ := captureExternalEntry_ok hentry
  obtain ⟨hobservation, hearly⟩ := earlyCommit_ok hearly
  obtain ⟨htrusted, middle, revision, observed, hassess, hinsert⟩ :=
    resolveExternalEntryInKind_ok hresolve
  have hassess := entryAssessment_ok hassess
  rw [hobservation, hsample] at hassess
  rw [hsample] at hearly
  have e := Except.ok.inj h
  have hs : resolved = store' := congrArg Prod.fst e
  have he : (if kind = .effectInvoked then entry'.observation.effectiveNanos else none) = effective :=
    congrArg Prod.snd e
  rw [hobservation, heffective] at he
  rw [hobservation, heffective] at htrusted
  subst hs
  refine ⟨halone, hmatched, he.symm, fun hk => ?_, ?_⟩
  · rw [← he, if_pos hk]
    exact htrusted hk
  -- the sample is committed early, at the resolution, or at both
  rcases hearly with ⟨e1, e2⟩ | ⟨clock, happlied, e1⟩
  · subst e1 e2
    rcases hassess with ⟨hsome, _⟩ | ⟨clock, happlied, e3⟩
    · rw [hnone] at hsome
      cases hsome
    · subst e3
      exact ⟨clock, revision, observed, happlied, hinsert⟩
  · subst e1
    rcases hassess with ⟨_, e3⟩ | ⟨clock2, happlied2, e3⟩
    · subst e3
      exact ⟨clock, revision, observed, happlied, hinsert⟩
    · subst e3
      exact ⟨clock2, revision, observed, happlied.trans happlied2, hinsert⟩

end Aios.Tasks
