/-
  File:      Aios/Tasks/Protected.lean
  Subject:   PROTECTED TRANSACTIONS: a locked sample decides the time of a callback, and the same
             sample goes into the record, with the callback's writes or without them.

  The locked sample is compared with the floor, the recorded one with the high water. In a row the
  tables accept (`stateCheck`) the floor is not behind the high water, so both give one time:

  * `Settles` -- what a locked sample with an effective time knows about the clock, and what every
    record of that sample keeps;
  * `WriteAccepted` -- the CHECKs and triggers of the time tables on one record;
  * `Site`, `Elsewhere` -- the whole store, and what other connections do between the transactions;
  * **`locked_observation_agrees`** -- the time of the locked sample is the recorded one, once and
    again, and no protected call that succeeds has lost it.
-/
import Aios.Tasks.Trust

namespace Aios.Tasks

open Lib

/-! ## 1. The time tables -/

/-- A floor behind its high water; a missing one is not compared. -/
def floorBehind (s : TimeState) : Bool := malformedTimeState s

/-- The CHECK of `trusted_time_state`. -/
def stateCheck (s : TimeState) : Bool :=
  match s.confidence with
  | .unassessed => s.highWaterUnixNanos.isNone && s.expiryFloorUnixNanos.isNone && s.revision = 0
  | .trustedLocal => 0 < s.revision && s.highWaterUnixNanos.isSome && !floorBehind s
  | .timeUncertain => 0 < s.revision && (s.highWaterUnixNanos.isNone || !floorBehind s)

/-- A value is lost or goes back. -/
def goesBack (old new : Option Int) : Bool :=
  old.any fun a => !new.any fun b => a ≤ b

/-- The trigger `trusted_time_state_monotone` lets the update through. -/
def stateMonotone (old new : TimeState) : Bool :=
  new.revision = old.revision + 1 && !goesBack old.highWaterUnixNanos new.highWaterUnixNanos &&
    !goesBack old.expiryFloorUnixNanos new.expiryFloorUnixNanos &&
    !(old.confidence = .timeUncertain && new.confidence ≠ .timeUncertain)

/-- The CHECKs of `trusted_time_observations`. -/
def observationCheck (row : ObservationRow) : Bool :=
  (row.confidence = .trustedLocal || row.confidence = .timeUncertain) &&
    ["SYSTEM_CLOCK", "INJECTED_CLOCK", "UNAVAILABLE"].contains row.sourceClass

/-- The tables accept the record of one sample: the new state passes its CHECK and its trigger, and
    the new observation its CHECKs and its trigger. -/
structure WriteAccepted (before after : Clock) : Prop where
  state : ∃ old new, before.state = some old ∧ after.state = some new ∧ stateCheck new = true ∧
    stateMonotone old new = true
  observation : ∃ row, after.observations = before.observations ++ [row] ∧
    observationCheck row = true ∧ ∀ o ∈ before.observations, o.stateRevision ≠ row.stateRevision

/-- The row of the time state, where there is one, passes its CHECK. -/
def Clock.Stored (clock : Clock) : Prop := ∀ s, clock.state = some s → stateCheck s = true

/-! ## 2. When a sample can be recorded -/

/-- The clock can take one sample more. -/
def recordable (clock : Clock) : Bool :=
  stateMatchesAuditTail clock &&
    clock.state.any fun s => !malformedTimeState s && decide (s.revision < maxI64)

variable {env : TimeEnv} {clock clock' : Clock} {sample : Option SecurityClockSample}

theorem latestObservation_eq_none {rows : List ObservationRow} (h : latestObservation rows = none) :
    rows = [] := by
  cases rows with
  | nil => rfl
  | cons row rest =>
      simp only [latestObservation] at h
      cases hrest : latestObservation rest with
      | none => simp [hrest] at h
      | some last => simp [hrest] at h

theorem le_latestObservation {rows : List ObservationRow} {last : ObservationRow}
    (h : latestObservation rows = some last) : ∀ o ∈ rows, o.stateRevision ≤ last.stateRevision := by
  induction rows generalizing last with
  | nil => cases h
  | cons row rest ih =>
      intro o ho
      simp only [latestObservation] at h
      cases hrest : latestObservation rest with
      | none =>
          rw [hrest] at h
          obtain rfl := Option.some.inj h
          rw [latestObservation_eq_none hrest] at ho
          rw [List.mem_singleton.mp ho]
      | some l =>
          rw [hrest] at h
          have h := Option.some.inj h
          have hle := ih hrest
          rcases List.mem_cons.mp ho with rfl | ho
          · split at h <;> subst h <;> omega
          · have := hle o ho
            split at h <;> subst h <;> omega

variable {o : LockedTimeObservation} {s : TimeState} {before after : Clock} {t : Int}
  {store : TimeStore} {e : TaskManagerError}

/-- No observation is numbered above the state. -/
theorem revision_bounds (h : stateMatchesAuditTail clock = true)
    (hs : clock.state = some s) : ∀ o ∈ clock.observations, o.stateRevision ≤ s.revision := by
  unfold stateMatchesAuditTail at h
  rw [hs] at h
  dsimp only at h
  intro o ho
  cases hlast : latestObservation clock.observations with
  | none =>
      rw [latestObservation_eq_none hlast] at ho
      cases ho
  | some last =>
      have hle := le_latestObservation hlast o ho
      rw [hlast] at h
      by_cases h0 : s.revision = 0
      · simp [h0] at h
      · simp only [h0, if_false, Option.any_some, Bool.and_eq_true, decide_eq_true_eq] at h
        omega

/-- A sample is recorded exactly where the clock can take it. -/
theorem applySample_eq {unresolved : Bool} :
    applySampleInTransactionWithUnresolved env clock sample unresolved =
      match clock.state with
      | some old =>
          if recordable clock then
            .ok (clock.add (sampleRow env old sample unresolved),
              ⟨(sampleRow env old sample unresolved).confidence,
                (sampleRow env old sample unresolved).expiryFloorUnixNanos⟩)
          else .error timeStateInvalid
      | none => .error timeStateInvalid := by
  unfold applySampleInTransactionWithUnresolved recordable
  cases hs : clock.state with
  | none =>
      have ht : stateMatchesAuditTail clock = false := by
        unfold stateMatchesAuditTail
        rw [hs]
      simp [ht, rejectIf]
      rfl
  | some old =>
      cases ht : stateMatchesAuditTail clock with
      | false => simp [rejectIf]; rfl
      | true =>
          have hfresh : (clock.observations.any fun o => decide (o.stateRevision = old.revision + 1)) = false := by
            rw [List.any_eq_false]
            intro o ho
            have := revision_bounds ht hs o ho
            simp only [decide_eq_true_eq]
            omega
          cases hm : malformedTimeState old with
          | true =>
              simp only [hm, rejectIf, expect, Bool.not_true, Bool.not_true, Bool.false_eq_true, if_false,
                if_true, ok_bind, Option.any_some, Bool.false_and, Bool.and_false]
              rfl
          | false =>
              by_cases hr : old.revision < maxI64
              · have hnot : ¬ maxI64 ≤ old.revision := by omega
                simp only [hm, hr, hnot, hfresh, rejectIf, expect, Bool.not_true, Bool.not_false,
                  Bool.false_eq_true, if_false, if_true, ok_bind, Option.any_some, decide_true,
                  decide_false, Bool.and_true]
                rfl
              · have hle : maxI64 ≤ old.revision := by omega
                simp only [hm, hr, hle, rejectIf, expect, Bool.not_true, Bool.not_false,
                  Bool.false_eq_true, if_false, if_true, ok_bind, Option.any_some, decide_true,
                  decide_false, Bool.and_false]
                rfl

/-! ## 3. The locked sample and its record -/

theorem captureLockedWithPermit_tail {permitted : Option String}
    (h : captureLockedWithPermit env store sample permitted = .ok o) :
    stateMatchesAuditTail store.clock = true := by
  unfold captureLockedWithPermit at h
  simp only [bind_eq_ok', exists_unit, rejectIf_ok] at h
  simpa using h.1

/-- The sample stands at `t`: the state is trusted, the sample is not behind its high water by more
    than the tolerance, and `t` is the later of the floor and the sample. -/
structure Settles (env : TimeEnv) (sample : Option SecurityClockSample) (t : Int) (clock : Clock)
    (s : TimeState) : Prop where
  stored : clock.state = some s
  tail : stateMatchesAuditTail clock = true
  check : stateCheck s = true
  trusted : s.confidence = .trustedLocal
  level : ∃ wall floor high, sampleWall env sample = some wall ∧ s.expiryFloorUnixNanos = some floor ∧
    s.highWaterUnixNanos = some high ∧ high ≤ floor ∧
    saturatingSub high rollbackToleranceNanos ≤ wall ∧ max floor wall = t

theorem saturatingSub_mono {a b : Int} (c : Int) (h : a ≤ b) : saturatingSub a c ≤ saturatingSub b c := by
  unfold saturatingSub
  omega

/-- A trusted row that passes its CHECK has a high water, and no floor behind it. -/
theorem stateCheck_trusted (h : stateCheck s = true) (ht : s.confidence = .trustedLocal) :
    0 < s.revision ∧ ∃ high, s.highWaterUnixNanos = some high ∧
      ∀ floor, s.expiryFloorUnixNanos = some floor → high ≤ floor := by
  unfold stateCheck at h
  simp only [ht, Bool.and_eq_true, decide_eq_true_eq, Option.isSome_iff_exists, Bool.not_eq_true'] at h
  obtain ⟨⟨hr, high, hhigh⟩, hfloor⟩ := h
  refine ⟨hr, high, hhigh, fun floor hf => ?_⟩
  unfold floorBehind malformedTimeState at hfloor
  rw [hf, hhigh] at hfloor
  simpa using hfloor

/-- An effective time is what the sample stands at. -/
theorem settles_of_capture {permitted : Option String} (hstored : store.clock.Stored)
    (h : captureLockedWithPermit env store sample permitted = .ok o) (ht : o.effectiveNanos = some t) :
    ∃ s, Settles env sample t store.clock s := by
  have htail := captureLockedWithPermit_tail h
  obtain ⟨_, _, he⟩ := captureLockedWithPermit_ok h
  rw [ht] at he
  obtain ⟨s, hs, he⟩ := Option.bind_eq_some_iff.mp he.symm
  have hcheck := hstored s hs
  split at he
  · rename_i htrusted
    obtain ⟨floor, hfloor, he⟩ := Option.bind_eq_some_iff.mp he
    obtain ⟨wall, hwall, he⟩ := Option.bind_eq_some_iff.mp he
    split at he
    · rename_i hle
      obtain ⟨_, high, hhigh, hbelow⟩ := stateCheck_trusted hcheck htrusted
      have hhf := hbelow floor hfloor
      exact ⟨s, hs, htail, hcheck, htrusted, wall, floor, high, hwall, hfloor, hhigh, hhf,
        (saturatingSub_mono _ hhf).trans hle, Option.some.inj he⟩
    · cases he
  · cases he

/-- The record of a sample that stands at `t` is trusted, and its floor is `t`. -/
theorem Settles.row (h : Settles env sample t clock s) :
    (sampleRow env s sample false).confidence = .trustedLocal ∧
      (sampleRow env s sample false).expiryFloorUnixNanos = some t := by
  obtain ⟨wall, floor, high, hwall, hfloor, hhigh, hle, hbehind, rfl⟩ := h.level
  have hread : (readSample env sample).1 = some wall := readSample_wall.trans hwall
  constructor
  · have hnot : ¬ wall < saturatingSub high rollbackToleranceNanos := by omega
    simp [sampleRow, hread, sampleVerdict, h.trusted, wallRolledBack, hhigh, hnot]
  · simp only [sampleRow, hread, hhigh, hfloor, maxKnown]
    congr 1
    omega

theorem readSample_source : (readSample env sample).2.2 ∈ ["SYSTEM_CLOCK", "INJECTED_CLOCK", "UNAVAILABLE"] := by
  unfold readSample
  cases sample.bind fun s => (env.parseNanos s.wall).map fun wall => (wall, s) with
  | none => simp
  | some read =>
      obtain ⟨wall, s⟩ := read
      cases hsource : s.source <;> simp [hsource, TimeSource.asStr]

theorem goesBack_maxKnown (a b : Option Int) : goesBack a (maxKnown a b) = false := by
  cases a <;> cases b <;> simp [goesBack, maxKnown]

/-- The verdict is one the tables know, and trusts only a sample that could be read. -/
theorem sampleVerdict_cases (old : TimeState) (observed : Option Int) (unresolved : Bool) :
    (sampleVerdict old observed unresolved).1 = .timeUncertain ∨
      (sampleVerdict old observed unresolved).1 = .trustedLocal ∧ observed.isSome = true ∧
        old.confidence ≠ .timeUncertain := by
  unfold sampleVerdict
  split
  · exact .inl rfl
  · rename_i hold
    split
    · exact .inl rfl
    · split
      · exact .inl rfl
      · rename_i hsome
        split
        · exact .inl rfl
        · refine .inr ⟨rfl, ?_, hold⟩
          cases observed with
          | none => exact absurd rfl hsome
          | some wall => rfl

variable {unresolved : Bool}

/-- The recorded floor is not behind the recorded high water. -/
theorem sampleRow_level (old : TimeState) :
    floorBehind (sampleRow env old sample unresolved).toState = false := by
  show malformedTimeState _ = false
  simp only [malformedTimeState, sampleRow, ObservationRow.toState]
  cases maxKnown old.highWaterUnixNanos (readSample env sample).1 with
  | none => cases old.expiryFloorUnixNanos <;> rfl
  | some high => cases old.expiryFloorUnixNanos <;> simp [maxKnown]

theorem sampleRow_check (old : TimeState) :
    stateCheck (sampleRow env old sample unresolved).toState = true := by
  have hlevel : floorBehind (sampleRow env old sample unresolved).toState = false := sampleRow_level old
  have hrev : (sampleRow env old sample unresolved).toState.revision = old.revision + 1 := rfl
  have hconf : (sampleRow env old sample unresolved).toState.confidence =
    (sampleVerdict old (readSample env sample).1 unresolved).1 := rfl
  unfold stateCheck
  rw [hlevel, hconf, hrev]
  rcases sampleVerdict_cases old (readSample env sample).1 unresolved with hu | ⟨ht, hsome, _⟩
  · simp [hu]
  · obtain ⟨wall, hwall⟩ := Option.isSome_iff_exists.mp hsome
    obtain ⟨high, hhigh, _⟩ := le_maxKnown_right (a := old.highWaterUnixNanos) hwall
    have hhigh' : (sampleRow env old sample unresolved).toState.highWaterUnixNanos = some high := hhigh
    simp [ht, hhigh']

theorem sampleRow_monotone (old : TimeState) :
    stateMonotone old (sampleRow env old sample unresolved).toState = true := by
  have hconf : old.confidence = .timeUncertain →
      (sampleVerdict old (readSample env sample).1 unresolved).1 = .timeUncertain := by
    intro hu
    rcases sampleVerdict_cases old (readSample env sample).1 unresolved with h | ⟨_, _, h⟩
    · exact h
    · exact absurd hu h
  simp only [stateMonotone, sampleRow, ObservationRow.toState, goesBack_maxKnown]
  by_cases hu : old.confidence = .timeUncertain
  · simp [hconf hu]
  · simp [hu]

/-- **The tables accept every record** of a sample on top of a tail that adds up. -/
theorem writeAccepted_add {old : TimeState} (htail : stateMatchesAuditTail clock = true)
    (hold : clock.state = some old) :
    WriteAccepted clock (clock.add (sampleRow env old sample unresolved)) where
  state := ⟨old, _, hold, rfl, sampleRow_check old, sampleRow_monotone old⟩
  observation := by
    refine ⟨_, rfl, ?_, fun o ho => ?_⟩
    · have hconf : (sampleRow env old sample unresolved).confidence =
        (sampleVerdict old (readSample env sample).1 unresolved).1 := rfl
      have hsource : ["SYSTEM_CLOCK", "INJECTED_CLOCK", "UNAVAILABLE"].contains (readSample env sample).2.2 = true :=
        List.contains_iff_mem.mpr readSample_source
      unfold observationCheck
      rw [hconf, show (sampleRow env old sample unresolved).sourceClass = (readSample env sample).2.2 from rfl,
        hsource]
      rcases sampleVerdict_cases old (readSample env sample).1 unresolved with h | ⟨h, _⟩ <;> simp [h]
    · have hrev : (sampleRow env old sample unresolved).stateRevision = old.revision + 1 := rfl
      have := revision_bounds htail hold o ho
      omega

/-- The sample stands at the same time after its record. -/
theorem Settles.add (h : Settles env sample t clock s) :
    Settles env sample t (clock.add (sampleRow env s sample false)) (sampleRow env s sample false).toState := by
  obtain ⟨hconfidence, hrowFloor⟩ := h.row
  obtain ⟨wall, floor, high, hwall, hfloor, hhigh, hle, hbehind, hmax⟩ := h.level
  have hread : (readSample env sample).1 = some wall := readSample_wall.trans hwall
  have hrowHigh : (sampleRow env s sample false).highWaterUnixNanos = some (max high wall) := by
    simp only [sampleRow, hread, hhigh, maxKnown]
  have hrev : (sampleRow env s sample false).stateRevision = s.revision + 1 := rfl
  have hnew : ∀ o ∈ clock.observations, o.stateRevision < (sampleRow env s sample false).stateRevision := by
    intro o ho
    have := revision_bounds h.tail h.stored o ho
    omega
  refine ⟨rfl, ?_, sampleRow_check s, hconfidence, wall, t, max high wall, hwall, hrowFloor, hrowHigh,
    by omega, ?_, by omega⟩
  · have hlast := latestObservation_concat hnew
    simp [stateMatchesAuditTail, Clock.add, hrev, hlast, ObservationRow.toState]
  · have hmin := (sampleWall_bounds hwall).1
    rcases le_total high wall with hw | hw
    · rw [max_eq_right hw]
      unfold saturatingSub rollbackToleranceNanos
      omega
    · rw [max_eq_left hw]
      exact hbehind

/-- The record of a sample that stands at `t` fails only where the revisions are used up. -/
theorem Settles.commitIn (h : Settles env o.sample t clock s) : o.commitIn env clock =
      if s.revision < maxI64 then
        .ok (clock.add (sampleRow env s o.sample false), ⟨.trustedLocal, some t⟩)
      else .error timeStateInvalid := by
  have hwell : malformedTimeState s = false := by
    obtain ⟨_, floor, high, _, hfloor, hhigh, hle, _⟩ := h.level
    simp [malformedTimeState, hfloor, hhigh, hle]
  have e : o.commitIn env clock = applySampleInTransactionWithUnresolved env clock o.sample false := rfl
  rw [e, applySample_eq, h.stored]
  simp only [recordable, h.tail, h.stored, hwell, h.row.1, h.row.2, Option.any_some, Bool.true_and,
    Bool.not_false, decide_eq_true_eq]

/-! ## 4. What writes can do to the time -/

/-- One write to the time tables that their CHECKs and triggers let through. -/
inductive TimeWrite : Clock → Clock → Prop where
  | update {clock : Clock} {old new : TimeState} (hold : clock.state = some old)
      (hcheck : stateCheck new = true) (hmonotone : stateMonotone old new = true) :
      TimeWrite clock { clock with state := some new }
  | insert {clock : Clock} {row : ObservationRow} (hcheck : observationCheck row = true)
      (hnew : ∀ o ∈ clock.observations, o.stateRevision ≠ row.stateRevision) :
      TimeWrite clock { clock with observations := clock.observations ++ [row] }
  /-- The sessions and the latches are other tables. -/
  | other {before after : Clock} (hstate : after.state = before.state)
      (hobservations : after.observations = before.observations) : TimeWrite before after

/-- Any number of writes. -/
def TimeGuarded : Clock → Clock → Prop := Relation.ReflTransGen TimeWrite

theorem WriteAccepted.guarded (h : WriteAccepted before after) : TimeGuarded before after := by
  obtain ⟨old, new, hold, hafter, hcheck, hmonotone⟩ := h.state
  obtain ⟨row, hrow, hobservation, hnew⟩ := h.observation
  have hfirst : TimeWrite before { before with state := some new } := .update hold hcheck hmonotone
  have hsecond : TimeWrite { before with state := some new } _ := .insert hobservation hnew
  exact ((Relation.ReflTransGen.single hfirst).tail hsecond).tail (.other hafter hrow)

/-- The floor of the record is at `t` or later. -/
def Clock.FloorFrom (clock : Clock) (t : Int) : Prop := ∃ floor, clock.floor = some floor ∧ t ≤ floor

theorem TimeWrite.stored (h : TimeWrite before after) (hs : before.Stored) : after.Stored := by
  cases h with
  | update _ hcheck _ =>
      intro s e
      rw [← Option.some.inj e]
      exact hcheck
  | insert _ _ => exact hs
  | other hstate _ =>
      intro s e
      exact hs s (hstate ▸ e)

theorem TimeWrite.floorFrom (h : TimeWrite before after)
    (hf : before.FloorFrom t) : after.FloorFrom t := by
  obtain ⟨floor, hfloor, hle⟩ := hf
  cases h with
  | @update old new hold _ hmonotone =>
      have hof : old.expiryFloorUnixNanos = some floor := by
        rw [Clock.floor, hold] at hfloor
        exact hfloor
      simp only [stateMonotone, goesBack, hof, Bool.and_eq_true, Option.any_some, Bool.not_eq_true',
        Bool.not_eq_false', Option.any_eq_true, decide_eq_true_eq] at hmonotone
      obtain ⟨⟨_, floor', hfloor', hle'⟩, _⟩ := hmonotone
      exact ⟨floor', hfloor', hle.trans hle'⟩
  | insert _ _ => exact ⟨floor, hfloor, hle⟩
  | other hstate _ => exact ⟨floor, by rw [Clock.floor, hstate]; exact hfloor, hle⟩

theorem TimeWrite.observations (h : TimeWrite before after) :
    before.observations <+: after.observations := by
  cases h with
  | update _ _ _ => exact List.prefix_refl _
  | insert _ _ => exact List.prefix_append _ _
  | other _ hobservations => exact hobservations ▸ List.prefix_refl _

theorem TimeGuarded.stored (h : TimeGuarded before after) (hs : before.Stored) : after.Stored := by
  induction h with
  | refl => exact hs
  | tail _ k ih => exact k.stored ih

theorem TimeGuarded.floorFrom (h : TimeGuarded before after)
    (hf : before.FloorFrom t) : after.FloorFrom t := by
  induction h with
  | refl => exact hf
  | tail _ k ih => exact k.floorFrom ih

theorem TimeGuarded.observations (h : TimeGuarded before after) :
    before.observations <+: after.observations := by
  induction h with
  | refl => exact List.prefix_refl _
  | tail _ k ih => exact ih.trans k.observations

/-! ## 5. Protected calls -/

/-- The whole store: what the time operations read and write, and all other rows. -/
structure Site (β : Type) where
  time : TimeStore
  rows : β

variable {α β ι : Type}

def Site.withClock (site : Site β) (clock : Clock) : Site β :=
  { site with time := site.time.withClock clock }

/-- An operation on the open transaction. It may write any row; to the time tables it writes what
    their triggers let through. -/
structure Callback (α β ι : Type) where
  run : Site β → ι → TaskResult (α × Site β)
  guarded : ∀ {site input value written}, run site input = .ok (value, written) →
    TimeGuarded site.time.clock written.time.clock

/-- What happens around the transactions of a call: other connections write before its lock and before
    its sample is recorded alone, and the store acknowledges its commit or does not. -/
structure Elsewhere (β : Type) where
  beforeLock : Site β → Site β
  beforeRecord : Site β → Site β
  acknowledged : Bool
  lock_guarded : ∀ site, TimeGuarded site.time.clock (beforeLock site).time.clock
  record_guarded : ∀ site, TimeGuarded site.time.clock (beforeRecord site).time.clock

section Calls

variable (env : TimeEnv) (w : Elsewhere β) (first second : Option SecurityClockSample)

/-- The assessment before a protected transaction, and the store it leaves. -/
def protectedNow (site : Site β) : TaskResult String × Site β :=
  match assess env site.time first with
  | .error e => (.error e, site)
  | .ok (time, assessment) => (assessment.requireTrustedTime env, { site with time := time })

/-- The transaction was rolled back, and its sample goes into the record alone. -/
def recordAlone (fresh : LockedTimeObservation) (error : TaskManagerError) (site : Site β) :
    TaskResult α × Site β :=
  let site := w.beforeRecord site
  match fresh.commit env site.time with
  | .error refused => (.error refused, site)
  | .ok (time, _) => (.error error, { site with time := time })

/-- The locked transaction of a protected call: its sample must be trusted, and `body` works with it. -/
def underLock (body : Site β → LockedTimeObservation → String → TaskResult (α × Site β))
    (locked : Site β) : TaskResult α × Site β :=
  match captureLockedWithPermit env locked.time second none with
  | .error e => (.error e, locked)
  | .ok fresh =>
      match fresh.requireTrustedTime env with
      | .error e => recordAlone env w fresh e locked
      | .ok now =>
          match body locked fresh now with
          | .error e => recordAlone env w fresh e locked
          | .ok (value, done) =>
              if w.acknowledged then (.ok value, done)
              else recordAlone env w fresh (.storage "the commit was not acknowledged") locked

/-- The frame of both protected calls; `body` is what they do under the lock. -/
def withLocked (body : Site β → LockedTimeObservation → String → TaskResult (α × Site β))
    (site : Site β) : TaskResult α × Site β :=
  match protectedNow env first site with
  | (.error e, assessed) => (.error e, assessed)
  | (.ok _, assessed) => underLock env w second body (w.beforeLock assessed)

/-- The callback runs first, and its sample is committed with its writes. -/
def withProtectedImmediate (operation : Callback α β String) : Site β → TaskResult α × Site β :=
  withLocked env w first second fun locked fresh now => do
    let (value, written) ← operation.run locked now
    let (clock, observation) ← fresh.commitIn env written.time.clock
    let _ ← observation.requireTrustedTime env
    return (value, written.withClock clock)

/-- The sample is committed first, and the callback is given the evidence of that observation. -/
def withProtectedObservationOf (operation : Callback α β ProtectedTimeContext) :
    Site β → TaskResult α × Site β :=
  withLocked env w first second fun locked fresh _ => do
    let (clock, context) ← fresh.commitContextIn env locked.time.clock
    operation.run (locked.withClock clock) context

/-! ## 6. How a call ends -/

/-- The clock with the sample recorded, where it can take one. -/
def Clock.record (clock : Clock) (sample : Option SecurityClockSample) : Clock :=
  match clock.state with
  | some old => if recordable clock then clock.add (sampleRow env old sample false) else clock
  | none => clock

/-- The store under the lock of the call: the first sample is recorded. -/
def lockedSite (site : Site β) : Site β := w.beforeLock (site.withClock (site.time.clock.record env first))

/-- The observation of the sample is in the record, trusted, and the floor is at `t` or later. -/
structure Kept (sample : Option SecurityClockSample) (t : Int) (clock : Clock) : Prop where
  observation : ∃ row ∈ clock.observations, row.observedUnixNanos = sampleWall env sample ∧
    row.confidence = .trustedLocal ∧ ∃ floor, row.expiryFloorUnixNanos = some floor ∧ t ≤ floor
  floor : clock.FloorFrom t

/-- A call that fails leaves the rows of the other connections and none of its own; the samples it
    has taken are recorded, each where the record can take it. -/
inductive Undone (site : Site β) : Site β → Prop where
  /-- A pending marker stops the call before its first sample. -/
  | pending (h : site.time.pending ≠ []) : Undone site site
  /-- The first sample is recorded and cannot be used. -/
  | assessed : Undone site (site.withClock (site.time.clock.record env first))
  /-- Under the lock no sample is taken: the record does not add up, or a marker is pending. -/
  | locked (h : stateMatchesAuditTail (lockedSite env w first site).time.clock = false ∨
        (lockedSite env w first site).time.pending ≠ []) : Undone site (lockedSite env w first site)
  /-- Both samples are recorded. -/
  | recorded {after : Site β} (h : after = w.beforeRecord (lockedSite env w first site)) :
      Undone site (after.withClock (after.time.clock.record env second))

end Calls

variable {w : Elsewhere β} {first second : Option SecurityClockSample} {site : Site β}

@[simp] theorem Site.withClock_clock (site : Site β) (clock : Clock) :
    (site.withClock clock).time.clock = clock := rfl

@[simp] theorem Site.withClock_rows (site : Site β) (clock : Clock) :
    (site.withClock clock).rows = site.rows := rfl

/-- A sample that is applied, or refused, leaves the recorded clock. -/
theorem applySample_record (env : TimeEnv) (clock : Clock) (sample : Option SecurityClockSample) :
    (∃ a, applySampleInTransactionWithUnresolved env clock sample false = .ok (clock.record env sample, a)) ∨
      (∃ e, applySampleInTransactionWithUnresolved env clock sample false = .error e) ∧
        clock.record env sample = clock := by
  rw [applySample_eq]
  unfold Clock.record
  cases clock.state with
  | none => exact .inr ⟨⟨_, rfl⟩, rfl⟩
  | some old =>
      by_cases hr : recordable clock = true
      · simp only [hr, if_true]
        exact .inl ⟨_, rfl⟩
      · simp only [hr]
        exact .inr ⟨⟨_, rfl⟩, rfl⟩

theorem commit_eq : o.commit env store = do
      let (clock, a) ← applySampleInTransactionWithUnresolved env store.clock o.sample false
      return (store.withClock clock, a) := by
  unfold LockedTimeObservation.commit assessSampleWithPendingPolicy
  simp [rejectIf]
  rfl

theorem assess_eq (h : store.pending = []) : assess env store sample = do
      let (clock, a) ← applySampleInTransactionWithUnresolved env store.clock sample false
      return (store.withClock clock, a) := by
  unfold assess assessSampleWithPendingPolicy
  simp [rejectIf, h]
  rfl

theorem assess_pending (h : store.pending ≠ []) : assess env store sample = .error timeUncertain := by
  unfold assess
  simp [rejectIf, h]
  rfl

/-- The record of the sample alone ends in an error and writes nothing else. -/
theorem recordAlone_spec {fresh : LockedTimeObservation} : (recordAlone env w fresh e site (α := α)).2 =
        (w.beforeRecord site).withClock ((w.beforeRecord site).time.clock.record env fresh.sample) ∧
      ∀ value, (recordAlone env w fresh e site (α := α)).1 ≠ .ok value := by
  unfold recordAlone
  dsimp only
  rw [commit_eq]
  obtain ⟨a, h⟩ | ⟨⟨refused, h⟩, hsame⟩ :=
    applySample_record env (w.beforeRecord site).time.clock fresh.sample
  · rw [h]
    exact ⟨rfl, fun value hv => by cases hv⟩
  · rw [h, hsame]
    exact ⟨rfl, fun value hv => by cases hv⟩

/-- The assessment that comes first: it records its sample, unless a marker is pending. -/
theorem protectedNow_spec (hp : site.time.pending = []) :
    (protectedNow env first site).2 = site.withClock (site.time.clock.record env first) := by
  unfold protectedNow
  rw [assess_eq hp]
  obtain ⟨a, h⟩ | ⟨⟨refused, h⟩, hsame⟩ := applySample_record env site.time.clock first
  · rw [h]
    rfl
  · rw [h, hsame]
    rfl

theorem protectedNow_pending (hp : site.time.pending ≠ []) :
    protectedNow env first site = (.error timeUncertain, site) := by
  unfold protectedNow
  rw [assess_pending hp]

theorem captureLockedWithPermit_error (h : captureLockedWithPermit env store sample none = .error e) :
    stateMatchesAuditTail store.clock = false ∨ store.pending ≠ [] := by
  unfold captureLockedWithPermit at h
  cases ht : stateMatchesAuditTail store.clock with
  | false => exact .inl rfl
  | true =>
      right
      intro hp
      simp [rejectIf, ht, pendingPermitted, hp] at h
      cases h

variable {body : Site β → LockedTimeObservation → String → TaskResult (α × Site β)}

/-- **A locked transaction succeeds only through its body**. -/
theorem underLock_ok {locked : Site β} {value : α}
    (h : (underLock env w second body locked).1 = .ok value) :
    ∃ fresh now, captureLockedWithPermit env locked.time second none = .ok fresh ∧
      fresh.requireTrustedTime env = .ok now ∧
      body locked fresh now = .ok (value, (underLock env w second body locked).2) := by
  unfold underLock at h ⊢
  cases hcapture : captureLockedWithPermit env locked.time second none with
  | error e =>
      rw [hcapture] at h
      cases h
  | ok fresh =>
      rw [hcapture] at h
      dsimp only at h ⊢
      cases htrust : fresh.requireTrustedTime env with
      | error e =>
          rw [htrust] at h
          exact absurd h (recordAlone_spec.2 value)
      | ok now =>
          rw [htrust] at h
          dsimp only at h ⊢
          cases hbody : body locked fresh now with
          | error e =>
              rw [hbody] at h
              exact absurd h (recordAlone_spec.2 value)
          | ok done =>
              obtain ⟨v, after⟩ := done
              rw [hbody] at h
              dsimp only at h ⊢
              split at h
              · rename_i hack
                rw [if_pos hack]
                obtain rfl := Except.ok.inj h
                exact ⟨fresh, now, rfl, htrust, hbody⟩
              · exact absurd h (recordAlone_spec.2 value)

/-- A locked transaction that fails took no sample, or has recorded it alone. -/
theorem underLock_error {locked : Site β} (h : (underLock env w second body locked).1 = .error e) :
    ((stateMatchesAuditTail locked.time.clock = false ∨ locked.time.pending ≠ []) ∧
        (underLock env w second body locked).2 = locked) ∨ (underLock env w second body locked).2 =
        (w.beforeRecord locked).withClock ((w.beforeRecord locked).time.clock.record env second) := by
  unfold underLock at h ⊢
  cases hcapture : captureLockedWithPermit env locked.time second none with
  | error e => exact .inl ⟨captureLockedWithPermit_error hcapture, rfl⟩
  | ok fresh =>
      right
      have hsample := (captureLockedWithPermit_ok hcapture).2.1
      have halone : ∀ e, (recordAlone env w fresh e locked (α := α)).2 =
          (w.beforeRecord locked).withClock ((w.beforeRecord locked).time.clock.record env second) := by
        intro e
        rw [recordAlone_spec.1, hsample]
      rw [hcapture] at h
      dsimp only at h ⊢
      cases htrust : fresh.requireTrustedTime env with
      | error e => exact halone e
      | ok now =>
          rw [htrust] at h
          dsimp only at h ⊢
          cases hbody : body locked fresh now with
          | error e => exact halone e
          | ok done =>
              obtain ⟨v, after⟩ := done
              rw [hbody] at h
              dsimp only at h ⊢
              split at h
              · cases h
              · rename_i hack
                rw [if_neg hack]
                exact halone _

/-- The call is its locked transaction, or has ended with its first sample. -/
theorem withLocked_cases :
    withLocked env w first second body site =
        underLock env w second body (lockedSite env w first site) ∨
      (∃ e, (withLocked env w first second body site).1 = .error e) ∧
        Undone env w first second site (withLocked env w first second body site).2 := by
  unfold withLocked
  by_cases hp : site.time.pending = []
  · have hnow : (protectedNow env first site).2 = _ := protectedNow_spec hp
    cases hres : protectedNow env first site with
    | mk result assessed =>
        rw [hres] at hnow
        obtain rfl : assessed = site.withClock (site.time.clock.record env first) := hnow
        cases result with
        | error e => exact .inr ⟨⟨e, rfl⟩, .assessed⟩
        | ok text => exact .inl rfl
  · rw [protectedNow_pending hp]
    exact .inr ⟨⟨_, rfl⟩, .pending hp⟩

theorem withLocked_ok {value : α} (h : (withLocked env w first second body site).1 = .ok value) :
    ∃ fresh now, captureLockedWithPermit env (lockedSite env w first site).time second none = .ok fresh ∧
      fresh.requireTrustedTime env = .ok now ∧
      body (lockedSite env w first site) fresh now =
        .ok (value, (withLocked env w first second body site).2) := by
  rcases (withLocked_cases : withLocked env w first second body site = _ ∨ _) with e | ⟨⟨err, e⟩, _⟩
  · rw [e] at h ⊢
    exact underLock_ok h
  · rw [h] at e
    cases e

theorem withLocked_error (h : (withLocked env w first second body site).1 = .error e) :
    Undone env w first second site (withLocked env w first second body site).2 := by
  rcases (withLocked_cases : withLocked env w first second body site = _ ∨ _) with he | ⟨_, hundone⟩
  · rw [he] at h ⊢
    obtain ⟨hnone, hsame⟩ | hrecorded := underLock_error h
    · rw [hsame]
      exact .locked hnone
    · rw [hrecorded]
      exact .recorded rfl
  · exact hundone

/-! ## 7. The time of a success -/

theorem requireTrusted_ok {now : String} (h : o.requireTrustedTime env = .ok now) :
    ∃ t, o.effectiveNanos = some t ∧ env.formatNanos t = some now := by
  unfold LockedTimeObservation.requireTrustedTime at h
  simp only [bind_eq_ok', expect_ok] at h
  obtain ⟨t, ht, hformat⟩ := h
  unfold TimeEnv.format at hformat
  rw [expect_ok] at hformat
  exact ⟨t, ht, hformat⟩

theorem assessment_trusted {a : TimeAssessment} {now : String} (h : a.requireTrustedTime env = .ok now) :
    a.confidence = .trustedLocal := by
  unfold TimeAssessment.requireTrustedTime at h
  simp only [bind_eq_ok', exists_unit, rejectIf_ok] at h
  simpa using h.1

/-- What the sample stands at depends on the state and the observations alone. -/
theorem Settles.congr (h : Settles env sample t clock s)
    (hstate : clock'.state = clock.state) (hobservations : clock'.observations = clock.observations) :
    Settles env sample t clock' s where
  stored := hstate.trans h.stored
  tail := by
    have ht := h.tail
    unfold stateMatchesAuditTail at ht ⊢
    rw [hstate, hobservations]
    exact ht
  check := h.check
  trusted := h.trusted
  level := h.level

/-- The recorded sample is at its own wall time or later, and not behind the floor before it. -/
theorem sampleRow_floor (old : TimeState) {wall : Int} (hwall : sampleWall env sample = some wall) :
    ∃ floor, (sampleRow env old sample false).expiryFloorUnixNanos = some floor ∧ wall ≤ floor ∧
      ∀ before, old.expiryFloorUnixNanos = some before → before ≤ floor := by
  have hread : (readSample env sample).1 = some wall := readSample_wall.trans hwall
  obtain ⟨high, hhigh, hwh⟩ := le_maxKnown_right (a := old.highWaterUnixNanos) hread
  obtain ⟨floor, hfloor, hhf⟩ := le_maxKnown_right (a := old.expiryFloorUnixNanos) hhigh
  refine ⟨floor, hfloor, hwh.trans hhf, fun before hbefore => ?_⟩
  obtain ⟨floor', hfloor', hle⟩ := le_maxKnown_left
    (b := maxKnown old.highWaterUnixNanos (readSample env sample).1) hbefore
  rw [hfloor] at hfloor'
  obtain rfl := Option.some.inj hfloor'
  exact hle

/-- A trusted record after guarded writes keeps the time of the lock. -/
theorem Settles.kept {s old : TimeState} {written : Clock} (h : Settles env sample t clock s)
    (hg : TimeGuarded clock written) (hold : written.state = some old)
    (ht : (sampleRow env old sample false).confidence = .trustedLocal) :
    Kept env sample t (written.add (sampleRow env old sample false)) := by
  obtain ⟨wall, floor, high, hwall, hfloor, _, _, _, hmax⟩ := h.level
  have hfrom : clock.FloorFrom floor := by
    refine ⟨floor, ?_, le_refl floor⟩
    rw [Clock.floor, h.stored]
    exact hfloor
  obtain ⟨before, hbefore, hfb⟩ := hg.floorFrom hfrom
  rw [Clock.floor, hold] at hbefore
  obtain ⟨after, hafter, hwa, hba⟩ := sampleRow_floor old hwall
  have hle : t ≤ after := by
    have := hba before hbefore
    omega
  exact ⟨⟨_, List.mem_append_right _ (List.mem_singleton.mpr rfl), readSample_wall, ht, after, hafter, hle⟩,
    after, hafter, hle⟩

/-- Guarded writes keep what is kept. -/
theorem Kept.guarded (h : Kept env sample t clock) (hg : TimeGuarded clock clock') :
    Kept env sample t clock' := by
  obtain ⟨row, hrow, hrest⟩ := h.observation
  exact ⟨⟨row, hg.observations.subset hrow, hrest⟩, hg.floorFrom h.floor⟩

/-- The evidence of a fresh record is its own row. -/
theorem trustedEvidence_add {old : TimeState} (htail : stateMatchesAuditTail clock = true)
    (hold : clock.state = some old) (htrusted : (sampleRow env old sample false).confidence = .trustedLocal) :
    trustedEvidence (clock.add (sampleRow env old sample false)) = some (sampleRow env old sample false) := by
  have hnone : clock.observations.find? (fun o => o.stateRevision =
      (sampleRow env old sample false).stateRevision && o.confidence = .trustedLocal) = none := by
    rw [List.find?_eq_none]
    intro o ho
    have hle := revision_bounds htail hold o ho
    have hrev : (sampleRow env old sample false).stateRevision = old.revision + 1 := rfl
    have hne : o.stateRevision ≠ old.revision + 1 := by omega
    simp [hrev, hne]
  have hlast : (clock.observations ++ [sampleRow env old sample false]).find? (fun o =>
      o.stateRevision = (sampleRow env old sample false).stateRevision && o.confidence = .trustedLocal) =
        some (sampleRow env old sample false) := by
    rw [List.find?_append, hnone]
    simp [htrusted]
  simp only [trustedEvidence, Clock.add, ObservationRow.toState, htrusted, Option.filter_some,
    decide_true, if_true, Option.bind_some]
  exact hlast

/-- **A context is the row of its own sample**: trusted, with exactly its times. -/
theorem commitContextIn_row {c : ProtectedTimeContext}
    (h : o.commitContextIn env clock = .ok (clock', c)) :
    ∃ old, clock.state = some old ∧ clock' = clock.add (sampleRow env old o.sample false) ∧
      (sampleRow env old o.sample false).confidence = .trustedLocal ∧
      c.stateRevision = old.revision + 1 ∧ env.formatNanos c.effectiveUnixNanos = some c.now ∧
      (sampleRow env old o.sample false).expiryFloorUnixNanos = some c.effectiveUnixNanos ∧
      (sampleRow env old o.sample false).monotonicNanos = some c.monotonicNanos ∧
      sampleWall env o.sample = some c.observedUnixNanos := by
  unfold LockedTimeObservation.commitContextIn at h
  simp only [bind_eq_ok', expect_ok] at h
  obtain ⟨⟨middle, a⟩, hcommit, now, hnow, row, hrow, observed, hobserved, effective, heffective,
    monotonic, hmonotonic, h⟩ := h
  have htail : stateMatchesAuditTail clock = true := by
    have hcommit' : applySampleInTransactionWithUnresolved env clock o.sample false = .ok (middle, a) := hcommit
    unfold applySampleInTransactionWithUnresolved at hcommit'
    simp only [bind_eq_ok', exists_unit, rejectIf_ok] at hcommit'
    simpa using hcommit'.1
  obtain ⟨old, hold, _, rfl, rfl⟩ := applySample_ok hcommit
  have htrusted : (sampleRow env old o.sample false).confidence = .trustedLocal := assessment_trusted hnow
  rw [trustedEvidence_add htail hold htrusted] at hrow
  obtain rfl := Option.some.inj hrow
  have e := Except.ok.inj h
  have hclock := congrArg Prod.fst e
  have hcontext := congrArg Prod.snd e
  dsimp only at hclock hcontext
  subst hcontext
  unfold TimeAssessment.requireTrustedTime TimeEnv.format at hnow
  simp only [bind_eq_ok', exists_unit, rejectIf_ok, expect_ok] at hnow
  obtain ⟨_, nanos, hnanos, hformat⟩ := hnow
  rw [heffective] at hnanos
  obtain rfl := Option.some.inj hnanos
  exact ⟨old, hold, hclock.symm, htrusted, rfl, hformat, heffective, hmonotonic,
    readSample_wall.symm.trans hobserved⟩

/-- The effective time of a context is not behind the time observed with it. -/
theorem context_effective {c : ProtectedTimeContext}
    (h : o.commitContextIn env clock = .ok (clock', c)) : c.observedUnixNanos ≤ c.effectiveUnixNanos := by
  obtain ⟨old, _, _, _, _, _, hfloor, _, hwall⟩ := commitContextIn_row h
  obtain ⟨floor, hfloor', hle, _⟩ := sampleRow_floor old hwall
  rw [hfloor] at hfloor'
  obtain rfl := Option.some.inj hfloor'
  exact hle

/-- The context of a locked sample is that of the time it stands at. -/
theorem Settles.context {c : ProtectedTimeContext}
    (h : Settles env o.sample t clock s) (hcommit : o.commitContextIn env clock = .ok (clock', c)) :
    clock' = clock.add (sampleRow env s o.sample false) ∧ env.formatNanos t = some c.now ∧
      c.effectiveUnixNanos = t ∧ sampleWall env o.sample = some c.observedUnixNanos ∧
      c.stateRevision = s.revision + 1 := by
  obtain ⟨old, hold, hclock, _, hrev, hformat, hfloor, _, hwall⟩ := commitContextIn_row hcommit
  rw [h.stored] at hold
  obtain rfl := Option.some.inj hold
  rw [h.row.2] at hfloor
  obtain rfl := Option.some.inj hfloor
  exact ⟨hclock, hformat, rfl, hwall, hrev⟩

/-! ## 8. Both calls -/

/-- **A success was decided at a time that is recorded**: the callback ran under the lock at the time
    of its sample, its writes are there, and so is that sample. Where the callback leaves the time alone,
    the floor is exactly that time. -/
structure ImmediateOk (env : TimeEnv) (w : Elsewhere β) (first second : Option SecurityClockSample)
    (operation : Callback α β String) (site after : Site β) (value : α) (fresh : LockedTimeObservation)
    (t : Int) (now : String) (written : Site β) : Prop where
  captured : captureLockedWithPermit env (lockedSite env w first site).time second none = .ok fresh
  effective : fresh.effectiveNanos = some t
  formatted : env.formatNanos t = some now
  decided : operation.run (lockedSite env w first site) now = .ok (value, written)
  rows : after.rows = written.rows
  kept : ∀ later, TimeGuarded after.time.clock later → Kept env second t later
  exact : written.time.clock.state = (lockedSite env w first site).time.clock.state →
    written.time.clock.observations = (lockedSite env w first site).time.clock.observations →
    after.time.clock.floor = some t

/-- **A success was decided at a time that is recorded**: the sample is recorded under the lock, the
    callback was given that very observation, and all it wrote is there. -/
structure ObservationOk (env : TimeEnv) (w : Elsewhere β) (first second : Option SecurityClockSample)
    (operation : Callback α β ProtectedTimeContext) (site after : Site β) (value : α)
    (fresh : LockedTimeObservation) (t : Int) (clock : Clock) (context : ProtectedTimeContext) : Prop where
  captured : captureLockedWithPermit env (lockedSite env w first site).time second none = .ok fresh
  effective : fresh.effectiveNanos = some t
  committed : fresh.commitContextIn env (lockedSite env w first site).time.clock = .ok (clock, context)
  paired : context.effectiveUnixNanos = t ∧ env.formatNanos t = some context.now ∧
    sampleWall env second = some context.observedUnixNanos
  decided : operation.run ((lockedSite env w first site).withClock clock) context = .ok (value, after)
  exact : clock.floor = some t
  kept : ∀ later, TimeGuarded after.time.clock later → Kept env second t later

/-- The record of a sample is a guarded write. -/
theorem record_guarded : TimeGuarded clock (clock.record env sample) := by
  unfold Clock.record
  cases hs : clock.state with
  | none => exact .refl
  | some old =>
      dsimp only
      split
      · rename_i hr
        unfold recordable at hr
        simp only [Bool.and_eq_true] at hr
        exact (writeAccepted_add hr.1 hs).guarded
      · exact .refl

theorem lockedSite_stored (hs : site.time.clock.Stored) :
    (lockedSite env w first site).time.clock.Stored :=
  (w.lock_guarded _).stored (record_guarded.stored hs)

theorem Settles.floor (h : Settles env sample t clock s) :
    (clock.add (sampleRow env s sample false)).floor = some t := h.row.2

/-- The locked sample of a success stands at the time the callback is given. -/
theorem settles_locked {fresh : LockedTimeObservation} {now : String} (hs : site.time.clock.Stored)
    (hcapture : captureLockedWithPermit env (lockedSite env w first site).time second none = .ok fresh)
    (htrust : fresh.requireTrustedTime env = .ok now) :
    fresh.sample = second ∧ ∃ t s, fresh.effectiveNanos = some t ∧ env.formatNanos t = some now ∧
      Settles env second t (lockedSite env w first site).time.clock s := by
  obtain ⟨t, heffective, hformat⟩ := requireTrusted_ok htrust
  obtain ⟨s, hsettles⟩ := settles_of_capture (lockedSite_stored hs) hcapture heffective
  exact ⟨(captureLockedWithPermit_ok hcapture).2.1, t, s, heffective, hformat, hsettles⟩

theorem withProtectedImmediate_ok {operation : Callback α β String} {value : α}
    (hs : site.time.clock.Stored)
    (h : (withProtectedImmediate env w first second operation site).1 = .ok value) :
    ∃ fresh t now written, ImmediateOk env w first second operation site
      (withProtectedImmediate env w first second operation site).2 value fresh t now written := by
  unfold withProtectedImmediate at h ⊢
  obtain ⟨fresh, now, hcapture, htrust, hbody⟩ := withLocked_ok h
  obtain ⟨hsample, t, s, heffective, hformat, hsettles⟩ := settles_locked hs hcapture htrust
  simp only [bind_eq_ok'] at hbody
  obtain ⟨⟨v, written⟩, hrun, ⟨clock, a⟩, hcommit, text, ha, e⟩ := hbody
  have e := Except.ok.inj e
  obtain rfl : v = value := congrArg Prod.fst e
  have hafter : written.withClock clock = _ := congrArg Prod.snd e
  subst hsample
  obtain ⟨old, hold, _, hclock, hassessment⟩ := applySample_ok hcommit
  have htrusted := assessment_trusted ha
  rw [hassessment] at htrusted
  have hkept := hsettles.kept (operation.guarded hrun) hold htrusted
  rw [← hclock] at hkept
  refine ⟨fresh, t, now, written, hcapture, heffective, hformat, hrun, ?_, ?_, fun hstate hobservations => ?_⟩
  · rw [← hafter]
    rfl
  · rw [← hafter]
    exact fun later hlater => hkept.guarded hlater
  · have hsame := hsettles.congr hstate hobservations
    rw [hsame.commitIn] at hcommit
    split at hcommit
    · rw [← hafter]
      have hclock := congrArg Prod.fst (Except.ok.inj hcommit)
      dsimp only at hclock
      rw [Site.withClock_clock, ← hclock]
      exact hsame.floor
    · cases hcommit

theorem withProtectedObservationOf_ok {operation : Callback α β ProtectedTimeContext} {value : α}
    (hs : site.time.clock.Stored)
    (h : (withProtectedObservationOf env w first second operation site).1 = .ok value) :
    ∃ fresh t clock context, ObservationOk env w first second operation site
      (withProtectedObservationOf env w first second operation site).2 value fresh t clock context := by
  unfold withProtectedObservationOf at h ⊢
  obtain ⟨fresh, now, hcapture, htrust, hbody⟩ := withLocked_ok h
  obtain ⟨hsample, t, s, heffective, _, hsettles⟩ := settles_locked hs hcapture htrust
  simp only [bind_eq_ok'] at hbody
  obtain ⟨⟨clock, context⟩, hcommit, hrun⟩ := hbody
  subst hsample
  obtain ⟨rfl, hnow, heff, hwall, _⟩ := hsettles.context hcommit
  have hkept := (hsettles.kept .refl hsettles.stored hsettles.row.1).guarded (operation.guarded hrun)
  exact ⟨fresh, t, _, context, hcapture, heffective, hcommit, ⟨heff, hnow, hwall⟩, hrun, hsettles.floor,
    fun later hlater => hkept.guarded hlater⟩

/-- The time part of the call is the locked step of the marker system. -/
theorem withProtectedObservationOf_step {operation : Callback α β ProtectedTimeContext} {value : α}
    (h : (withProtectedObservationOf env w first second operation site).1 = .ok value) :
    ∃ clock t, withProtectedObservation env (lockedSite env w first site).time second =
        .ok ((lockedSite env w first site).time.withClock clock, t) ∧
      TimeGuarded clock (withProtectedObservationOf env w first second operation site).2.time.clock := by
  unfold withProtectedObservationOf at h ⊢
  obtain ⟨fresh, now, hcapture, htrust, hbody⟩ := withLocked_ok h
  simp only [bind_eq_ok'] at hbody
  obtain ⟨⟨clock, context⟩, hcommit, hrun⟩ := hbody
  refine ⟨clock, context.effectiveUnixNanos, ?_, operation.guarded hrun⟩
  unfold withProtectedObservation
  rw [hcapture]
  simp only [ok_bind, htrust, hcommit]
  rfl

/-- A stored clock takes a sample exactly where its tail adds up and a revision is left. -/
theorem recordable_iff (hs : clock.Stored) :
    recordable clock = true ↔ stateMatchesAuditTail clock = true ∧
      ∃ s, clock.state = some s ∧ s.revision < maxI64 := by
  have hwell : ∀ s, clock.state = some s → malformedTimeState s = false := by
    intro s e
    have hcheck := hs s e
    unfold stateCheck floorBehind at hcheck
    cases hc : s.confidence <;> rw [hc] at hcheck <;>
      simp only [Bool.and_eq_true, Bool.or_eq_true, Option.isNone_iff_eq_none, Bool.not_eq_true'] at hcheck
    · simp [malformedTimeState, hcheck.1.2]
    · exact hcheck.2
    · rcases hcheck.2 with hnone | hnot
      · cases hf : s.expiryFloorUnixNanos <;> simp [malformedTimeState, hnone, hf]
      · exact hnot
  unfold recordable
  rw [Bool.and_eq_true, Option.any_eq_true]
  constructor
  · intro h
    obtain ⟨htail, s, e, h⟩ := h
    simp only [Bool.and_eq_true, decide_eq_true_eq] at h
    exact ⟨htail, s, e, h.2⟩
  · intro h
    obtain ⟨htail, s, e, hlt⟩ := h
    exact ⟨htail, s, e, by simp [hwell s e, hlt]⟩

/-- The record of a locked sample with the effective time `t`: while a revision is left it is trusted,
    its floor is exactly `t` and the tables accept it, once and a second time. -/
structure LockedRecords (env : TimeEnv) (o : LockedTimeObservation) (t : Int) (clock : Clock)
    (s : TimeState) : Prop where
  stored : clock.state = some s
  once : s.revision < maxI64 → ∃ c, o.commitIn env clock = .ok (c, ⟨.trustedLocal, some t⟩) ∧
    c.floor = some t ∧ WriteAccepted clock c
  twice : s.revision + 1 < maxI64 → ∃ c c', o.commitIn env clock = .ok (c, ⟨.trustedLocal, some t⟩) ∧
    o.commitIn env c = .ok (c', ⟨.trustedLocal, some t⟩) ∧ c'.floor = some t ∧ WriteAccepted c c'
  exhausted : maxI64 ≤ s.revision → o.commitIn env clock = .error timeStateInvalid

theorem Settles.records (h : Settles env o.sample t clock s) : LockedRecords env o t clock s where
  stored := h.stored
  once := by
    intro hlt
    exact ⟨_, by rw [h.commitIn, if_pos hlt], h.floor, writeAccepted_add h.tail h.stored⟩
  twice := by
    intro hlt
    have hnext := h.add
    have hrev : (sampleRow env s o.sample false).toState.revision = s.revision + 1 := rfl
    have hfirst : s.revision < maxI64 := by omega
    exact ⟨_, _, by rw [h.commitIn, if_pos hfirst], by rw [hnext.commitIn, hrev, if_pos hlt], hnext.floor,
      writeAccepted_add hnext.tail hnext.stored⟩
  exhausted := by
    intro hle
    rw [h.commitIn, if_neg (by omega)]

/-- How a call ends: a success kept the time it was decided at, a failure left nothing but its samples. -/
structure CallEnds (env : TimeEnv) (w : Elsewhere β) (first second : Option SecurityClockSample)
    (site : Site β) (result : TaskResult α × Site β) (Succeeded : α → Prop) : Prop where
  succeeded : ∀ value, result.1 = .ok value → Succeeded value
  failed : ∀ e, result.1 = .error e → Undone env w first second site result.2

/-- **THE LOCKED OBSERVATION AND ITS COMMIT AGREE.** -/
theorem locked_observation_agrees (env : TimeEnv) (w : Elsewhere β)
    (first second : Option SecurityClockSample) (site : Site β) (hs : site.time.clock.Stored) :
    (∀ permitted o t, captureLockedWithPermit env site.time second permitted = .ok o →
        o.effectiveNanos = some t → ∃ s, LockedRecords env o t site.time.clock s) ∧
      (∀ operation : Callback α β String,
        CallEnds env w first second site (withProtectedImmediate env w first second operation site)
          fun value => ∃ fresh t now written, ImmediateOk env w first second operation site
            (withProtectedImmediate env w first second operation site).2 value fresh t now written) ∧
      (∀ operation : Callback α β ProtectedTimeContext,
        CallEnds env w first second site (withProtectedObservationOf env w first second operation site)
          fun value => ∃ fresh t clock context, ObservationOk env w first second operation site
            (withProtectedObservationOf env w first second operation site).2 value fresh t clock context) ∧
      (∀ later, TimeGuarded site.time.clock later → (recordable later = true ↔
        stateMatchesAuditTail later = true ∧ ∃ s, later.state = some s ∧ s.revision < maxI64)) := by
  refine ⟨fun permitted o t hcapture ht => ?_, fun operation => ⟨?_, ?_⟩, fun operation => ⟨?_, ?_⟩,
    fun later hlater => recordable_iff (hlater.stored hs)⟩
  · obtain ⟨s, h⟩ := settles_of_capture hs hcapture ht
    rw [← (captureLockedWithPermit_ok hcapture).2.1] at h
    exact ⟨s, h.records⟩
  · intro value h
    exact withProtectedImmediate_ok hs h
  · intro e h
    exact withLocked_error h
  · intro value h
    exact withProtectedObservationOf_ok hs h
  · intro e h
    exact withLocked_error h

/-! ## 9. The epoch -/

def epochText : String := "1970-01-01T00:00:00Z"

def epochEnv : TimeEnv where
  rfc3339 := fun text => if text = epochText then some 0 else none
  formatNanos := fun nanos => if nanos = 0 then some epochText else none

def epochSample : SecurityClockSample := ⟨epochText, 7, .injectedClock⟩

/-- A store whose last sample was taken at the epoch, under this revision. -/
def epochSite (revision : Nat) : Site String where
  time := {
    clock := ⟨some ⟨.trustedLocal, some 0, some 0, "TIME_OK", revision⟩,
      [⟨revision, some 0, some 5, some 0, some 0, .trustedLocal, "TIME_OK", "INJECTED_CLOCK"⟩], [], []⟩
    preparations := []
    resolutions := []
    pending := []
    lease := none }
  rows := "before"

/-- Nothing happens elsewhere. -/
def alone : Elsewhere String where
  beforeLock := id
  beforeRecord := id
  acknowledged := true
  lock_guarded := fun _ => .refl
  record_guarded := fun _ => .refl

def noteTime : Callback Unit String String where
  run := fun site now => .ok ((), { site with rows := now })
  guarded := by
    intro site now value written h
    have e : { site with rows := now } = written := congrArg Prod.snd (Except.ok.inj h)
    rw [← e]
    exact .refl

theorem epochSite_stored (revision : Nat) (h : 0 < revision) : (epochSite revision).time.clock.Stored := by
  intro s e
  obtain rfl := Option.some.inj e
  simp [stateCheck, floorBehind, malformedTimeState, h]

/-- The second sample of the epoch is recorded under the lock, and the note is written with it. -/
theorem epoch_observation_recorded :
    (∃ s, LockedRecords epochEnv ⟨some epochSample, some 0⟩ 0 (epochSite 1).time.clock s) ∧
      ∃ fresh t now written, ImmediateOk epochEnv alone (some epochSample) (some epochSample) noteTime
        (epochSite 1) (withProtectedImmediate epochEnv alone (some epochSample) (some epochSample) noteTime
          (epochSite 1)).2 () fresh t now written := by
  have h := locked_observation_agrees (α := Unit) epochEnv alone (some epochSample) (some epochSample)
    (epochSite 1) (epochSite_stored 1 (by decide))
  exact ⟨h.1 none ⟨some epochSample, some 0⟩ 0 (by rfl) rfl, (h.2.1 noteTime).succeeded () (by rfl)⟩

/-- Where the last revision is used up, a sample with an effective time cannot be recorded. -/
theorem last_revision_refuses :
    ¬ ∀ (env : TimeEnv) (store : TimeStore) (sample : Option SecurityClockSample)
      (o : LockedTimeObservation) (t : Int), store.clock.Stored →
        captureLockedWithPermit env store sample none = .ok o → o.effectiveNanos = some t →
          ∃ c, o.commitIn env store.clock = .ok (c, ⟨.trustedLocal, some t⟩) := by
  intro h
  obtain ⟨c, hc⟩ := h epochEnv (epochSite maxI64).time (some epochSample) ⟨some epochSample, some 0⟩ 0
    (epochSite_stored maxI64 (by decide)) (by rfl) rfl
  have hrefused : (⟨some epochSample, some 0⟩ : LockedTimeObservation).commitIn epochEnv
      (epochSite maxI64).time.clock = .error timeStateInvalid := by rfl
  rw [hrefused] at hc
  cases hc

end Aios.Tasks
