/-
  File:      Aios/Tasks/Time.lean
  Subject:   TRUSTED TIME: samples of the security clock, their durable record, and the protected
             time a transaction works with.

  A sample moves the one row of the time state and adds one observation. It never touches a clock
  session or an expiry latch (`Observed`).
-/
import Aios.Tasks.Store
import Mathlib.Algebra.Group.Int.Defs

namespace Aios.Tasks

open Lib

/-! ## 1. Samples -/

inductive TimeSource where
  | systemClock
  | injectedClock
  deriving DecidableEq, Repr

def TimeSource.asStr : TimeSource → String
  | .systemClock => "SYSTEM_CLOCK"
  | .injectedClock => "INJECTED_CLOCK"

structure SecurityClockSample where
  wall : String
  monotonicNanos : Nat
  source : TimeSource
  deriving DecidableEq, Repr

/-- RFC 3339, read and written. -/
structure TimeEnv where
  rfc3339 : String → Option Int
  formatNanos : Int → Option String

/-- A signed 64-bit number. -/
def toI64 (n : Int) : Option Int :=
  if -(2 ^ 63) ≤ n ∧ n < 2 ^ 63 then some n else none

/-- `i64::saturating_sub`. -/
def saturatingSub (a b : Int) : Int := max (-(2 ^ 63)) (min (2 ^ 63 - 1) (a - b))

def rollbackToleranceNanos : Int := 2000000000

structure TimeAssessment where
  confidence : Confidence
  effectiveNanos : Option Int
  deriving DecidableEq, Repr

structure LockedTimeObservation where
  sample : Option SecurityClockSample
  effectiveNanos : Option Int
  deriving DecidableEq, Repr

structure ProtectedTimeContext where
  now : String
  stateRevision : Nat
  observedUnixNanos : Int
  effectiveUnixNanos : Int
  monotonicNanos : Int
  deriving DecidableEq, Repr

def timeUncertain : TaskManagerError := .invalidRecord "TIME_UNCERTAIN"
def timeStateInvalid : TaskManagerError := .invalidRecord "TIME_STATE_INVALID"

section Formatting

variable (env : TimeEnv)

def TimeEnv.parseNanos (text : String) : Option Int := (env.rfc3339 text).bind toI64

def TimeEnv.format (nanos : Int) : TaskResult String := expect (env.formatNanos nanos) timeUncertain

def TimeAssessment.requireTrustedTime (a : TimeAssessment) : TaskResult String := do
  rejectIf (a.confidence ≠ .trustedLocal) timeUncertain
  let nanos ← expect a.effectiveNanos timeUncertain
  env.format nanos

def LockedTimeObservation.requireTrustedTime (o : LockedTimeObservation) : TaskResult String := do
  let nanos ← expect o.effectiveNanos timeUncertain
  env.format nanos

end Formatting

/-! ## 2. The record of a sample -/

/-- The observation with the greatest revision. -/
def latestObservation : List ObservationRow → Option ObservationRow
  | [] => none
  | row :: rest =>
      match latestObservation rest with
      | none => some row
      | some last => some (if last.stateRevision < row.stateRevision then row else last)

/-- The time state agrees with the tail of the observations. -/
def stateMatchesAuditTail (clock : Clock) : Bool :=
  match clock.state with
  | none => false
  | some state =>
      if state.revision = 0 then
        state.confidence = .unassessed && state.highWaterUnixNanos.isNone &&
          state.expiryFloorUnixNanos.isNone && (latestObservation clock.observations).isNone
      else
        (latestObservation clock.observations).any fun row =>
          row.stateRevision = state.revision && row.highWaterUnixNanos = state.highWaterUnixNanos &&
            row.expiryFloorUnixNanos = state.expiryFloorUnixNanos && row.confidence = state.confidence

/-- The greater of two known values, or the known one. -/
def maxKnown : Option Int → Option Int → Option Int
  | some a, some b => some (max a b)
  | some a, none => some a
  | none, b => b

/-- A wall time behind the high water by more than the tolerance. -/
def wallRolledBack (observed highWater : Option Int) : Bool :=
  (observed.bind fun wall => highWater.map fun high =>
    decide (wall < saturatingSub high rollbackToleranceNanos)).getD false

/-- The confidence and its reason after a sample. -/
def sampleVerdict (old : TimeState) (observed : Option Int) (unresolved : Bool) :
    Confidence × String :=
  if old.confidence = .timeUncertain then (.timeUncertain, "TIME_UNCERTAIN")
  else if unresolved then (.timeUncertain, "TIME_EFFECT_UNRESOLVED")
  else if observed.isNone then (.timeUncertain, "TIME_SOURCE_UNAVAILABLE")
  else if wallRolledBack observed old.highWaterUnixNanos then (.timeUncertain, "TIME_ROLLBACK_DETECTED")
  else (.trustedLocal, "TIME_OK")

/-- A stored state that no sample can have left. -/
def malformedTimeState (old : TimeState) : Bool :=
  (old.expiryFloorUnixNanos.bind fun floor => old.highWaterUnixNanos.map fun high =>
    decide (floor < high)).getD false

section Samples

variable (env : TimeEnv) (clock : Clock)

/-- The wall time, the ticks and the source of a sample that can be read. -/
def readSample (sample : Option SecurityClockSample) : Option Int × Option Int × String :=
  match sample.bind fun s => (env.parseNanos s.wall).map fun wall => (wall, s) with
  | none => (none, none, "UNAVAILABLE")
  | some (wall, s) => (some wall, toI64 s.monotonicNanos, s.source.asStr)

def applySampleInTransactionWithUnresolved (sample : Option SecurityClockSample)
    (unresolved : Bool) : TaskResult (Clock × TimeAssessment) := do
  rejectIf (!stateMatchesAuditTail clock) timeStateInvalid
  let old ← expect clock.state (.invalidRecord "TIME_STATE_MISSING")
  rejectIf (malformedTimeState old) timeStateInvalid
  let (observed, monotonic, source) := readSample env sample
  let (confidence, reason) := sampleVerdict old observed unresolved
  let high := maxKnown old.highWaterUnixNanos observed
  let floor := maxKnown old.expiryFloorUnixNanos high
  rejectIf (maxI64 ≤ old.revision) timeStateInvalid
  let row : ObservationRow :=
    ⟨old.revision + 1, observed, monotonic, high, floor, confidence, reason, source⟩
  rejectIf (clock.observations.any fun other => other.stateRevision = row.stateRevision)
    (.storage "trusted time observation already exists")
  return ({ clock with
      state := some ⟨confidence, high, floor, reason, old.revision + 1⟩
      observations := clock.observations ++ [row] }, ⟨confidence, floor⟩)

def applySampleInTransaction (sample : Option SecurityClockSample) :
    TaskResult (Clock × TimeAssessment) :=
  applySampleInTransactionWithUnresolved env clock sample false

/-- The locked sample goes into the transaction it was taken in. -/
def LockedTimeObservation.commitIn (o : LockedTimeObservation) : TaskResult (Clock × TimeAssessment) :=
  applySampleInTransaction env clock o.sample

/-- The evidence of the observation that carries the current revision. -/
def trustedEvidence (clock : Clock) : Option ObservationRow :=
  (clock.state.filter fun s => s.confidence = .trustedLocal).bind fun s =>
    clock.observations.find? fun o => o.stateRevision = s.revision && o.confidence = .trustedLocal

def LockedTimeObservation.commitContextIn (o : LockedTimeObservation) :
    TaskResult (Clock × ProtectedTimeContext) := do
  let (clock, assessment) ← o.commitIn env clock
  let now ← assessment.requireTrustedTime env
  let row ← expect (trustedEvidence clock) (.storage "Query returned no rows")
  let observed ← expect row.observedUnixNanos timeUncertain
  let effective ← expect row.expiryFloorUnixNanos timeUncertain
  let monotonic ← expect row.monotonicNanos timeUncertain
  return (clock, ⟨now, row.stateRevision, observed, effective, monotonic⟩)

/-- The effective time of a locked sample: never behind the floor. -/
def lockedEffective (state : Option TimeState) (observed : Option Int) : Option Int :=
  state.bind fun s =>
    if s.confidence = .trustedLocal then
      s.expiryFloorUnixNanos.bind fun floor => observed.bind fun now =>
        if saturatingSub floor rollbackToleranceNanos ≤ now then some (max floor now) else none
    else none

def captureLocked (pendingMarkers : List String) (sample : Option SecurityClockSample) :
    TaskResult LockedTimeObservation := do
  rejectIf (!stateMatchesAuditTail clock) timeStateInvalid
  rejectIf (!pendingMarkers.isEmpty) timeUncertain
  let observed := sample.bind fun s => env.parseNanos s.wall
  return ⟨sample, lockedEffective clock.state observed⟩

end Samples

/-! ## 3. What a sample changes -/

/-- Observations were added; sessions and latches are as before. -/
structure Observed (before after : Clock) : Prop where
  observations : before.observations <+: after.observations
  sessions : after.sessions = before.sessions
  latches : after.latches = before.latches

variable {env : TimeEnv} {clock clock' : Clock}

theorem observed_applySample {sample : Option SecurityClockSample} {unresolved : Bool}
    {a : TimeAssessment}
    (h : applySampleInTransactionWithUnresolved env clock sample unresolved = .ok (clock', a)) :
    Observed clock clock' := by
  unfold applySampleInTransactionWithUnresolved at h
  simp only [bind_eq_ok', exists_unit, rejectIf_ok, expect_ok] at h
  obtain ⟨_, old, _, _, _, _, h⟩ := h
  have e := congrArg Prod.fst (Except.ok.inj h)
  subst e
  exact ⟨List.prefix_append _ _, rfl, rfl⟩

theorem observed_commitIn {o : LockedTimeObservation} {a : TimeAssessment}
    (h : o.commitIn env clock = .ok (clock', a)) : Observed clock clock' := observed_applySample h

theorem observed_commitContextIn {o : LockedTimeObservation} {t : ProtectedTimeContext}
    (h : o.commitContextIn env clock = .ok (clock', t)) : Observed clock clock' := by
  unfold LockedTimeObservation.commitContextIn at h
  simp only [bind_eq_ok', expect_ok] at h
  obtain ⟨⟨middle, assessment⟩, hcommit, _, _, _, _, _, _, _, _, _, _, h⟩ := h
  have e := congrArg Prod.fst (Except.ok.inj h)
  have e : middle = clock' := e
  rw [← e]
  exact observed_commitIn hcommit

end Aios.Tasks
