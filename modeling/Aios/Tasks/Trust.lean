/-
  File:      Aios/Tasks/Trust.lean
  Subject:   TRUSTED TIME over whole runs: it never goes back, and its distrust is final.

  * `Ledger clock state` -- the INVARIANT of the clock: the observations are numbered 1, 2, …, n
    where n is the revision of the state, the last one is the state, floor and high water are the
    same value, and no observation is above it;
  * `Advanced before after` -- what any number of samples can do to a clock;
  * `TimeSound`, `TimeAdvanced` -- the same for the system, with the times it has handed out;
  * **`trusted_time_monotone`** -- both hold along every run, and a sample behind the high water by
    more than the tolerance makes the time uncertain for good.
-/
import Aios.Tasks.Marker

namespace Aios.Tasks

open Lib

/-! ## 1. The ledger -/

def Clock.high (clock : Clock) : Option Int := clock.state.bind TimeState.highWaterUnixNanos

def Clock.floor (clock : Clock) : Option Int := clock.state.bind TimeState.expiryFloorUnixNanos

def Clock.Uncertain (clock : Clock) : Prop :=
  ∃ state, clock.state = some state ∧ state.confidence = .timeUncertain

/-- The state is the last observation, or the one before any. -/
def StateCurrent (observations : List ObservationRow) (state : TimeState) : Prop :=
  match observations.getLast? with
  | none => state.confidence = .unassessed ∧ state.highWaterUnixNanos = none
  | some row => row.toState = state

/-- The state and its observations agree. -/
structure Ledger (clock : Clock) (state : TimeState) : Prop where
  stored : clock.state = some state
  numbered : clock.observations.map ObservationRow.stateRevision = List.range' 1 state.revision
  level : state.expiryFloorUnixNanos = state.highWaterUnixNanos
  current : StateCurrent clock.observations state
  seen : ∀ o ∈ clock.observations, ∀ wall, o.observedUnixNanos = some wall →
    ∃ high, state.highWaterUnixNanos = some high ∧ wall ≤ high
  bounded : ∀ high, state.highWaterUnixNanos = some high → high < 2 ^ 63

variable {env : TimeEnv} {clock clock' : Clock} {state : TimeState}
  {sample : Option SecurityClockSample} {unresolved : Bool}

theorem Ledger.length (h : Ledger clock state) : clock.observations.length = state.revision := by
  have e := congrArg List.length h.numbered
  rwa [List.length_map, List.length_range'] at e

theorem Ledger.high_eq (h : Ledger clock state) : clock.high = state.highWaterUnixNanos := by
  rw [Clock.high, h.stored]
  rfl

theorem Ledger.floor_eq (h : Ledger clock state) : clock.floor = state.highWaterUnixNanos := by
  rw [Clock.floor, h.stored, ← h.level]
  rfl

theorem ledger_initial : Ledger (TimeSystem.initial.store.clock)
    ⟨.unassessed, none, none, "TIME_UNASSESSED", 0⟩ where
  stored := rfl
  numbered := rfl
  level := rfl
  current := ⟨rfl, rfl⟩
  seen := by
    intro o ho
    cases ho
  bounded := by
    intro high e
    cases e

/-- A state with observations is the last of them, and the others are numbered below it. -/
theorem Ledger.tail (h : Ledger clock state) (hr : state.revision ≠ 0) :
    ∃ earlier row, clock.observations = earlier ++ [row] ∧ row.toState = state ∧
      ∀ o ∈ earlier, o.stateRevision < state.revision := by
  have hne : clock.observations ≠ [] := by
    intro e
    have hl := h.length
    rw [e] at hl
    exact hr hl.symm
  have hc := h.current
  unfold StateCurrent at hc
  rw [List.getLast?_eq_some_getLast hne] at hc
  have hsplit := (List.dropLast_append_getLast hne).symm
  refine ⟨_, _, hsplit, hc, fun o ho => ?_⟩
  have hp : (clock.observations.map ObservationRow.stateRevision).Pairwise (· < ·) := by
    rw [h.numbered]
    exact List.pairwise_lt_range'
  rw [hsplit, List.map_append, List.pairwise_append] at hp
  have hlt := hp.2.2 _ (List.mem_map_of_mem ho) _ (List.mem_map_of_mem (List.mem_singleton.mpr rfl))
  rw [← hc]
  exact hlt

theorem Ledger.empty (h : Ledger clock state) (hr : state.revision = 0) :
    clock.observations = [] ∧ state.confidence = .unassessed ∧ state.highWaterUnixNanos = none := by
  have he : clock.observations = [] := List.length_eq_zero_iff.mp (h.length.trans hr)
  have hc := h.current
  rw [he] at hc
  exact ⟨he, hc⟩

theorem latestObservation_concat {earlier : List ObservationRow} {row : ObservationRow}
    (h : ∀ o ∈ earlier, o.stateRevision < row.stateRevision) :
    latestObservation (earlier ++ [row]) = some row := by
  induction earlier with
  | nil => rfl
  | cons o rest ih =>
      have hrest := ih fun o' ho' => h o' (List.mem_cons_of_mem _ ho')
      have ho := h o List.mem_cons_self
      have hno : ¬ row.stateRevision < o.stateRevision := by omega
      simp only [List.cons_append, latestObservation, hrest, if_neg hno]

/-- The observation of the current revision is the last one. -/
theorem Ledger.find (h : Ledger clock state) {row : ObservationRow} (hrow : row ∈ clock.observations)
    (hrev : row.stateRevision = state.revision) : row.toState = state := by
  by_cases hr : state.revision = 0
  · rw [(h.empty hr).1] at hrow
    cases hrow
  · obtain ⟨earlier, last, hobs, hlast, hlt⟩ := h.tail hr
    rw [hobs] at hrow
    rcases List.mem_append.mp hrow with hin | hin
    · have := hlt row hin
      omega
    · rw [List.mem_singleton.mp hin]
      exact hlast

/-! ## 2. Both checks of the ledger -/

theorem Ledger.auditTail (h : Ledger clock state) : stateMatchesAuditTail clock = true := by
  unfold stateMatchesAuditTail
  rw [h.stored]
  by_cases hr : state.revision = 0
  · obtain ⟨he, hc, hn⟩ := h.empty hr
    have hf := h.level
    rw [hn] at hf
    simp [hr, he, hc, hn, hf, latestObservation]
  · obtain ⟨earlier, row, hobs, hrow, hlt⟩ := h.tail hr
    have hrev : row.stateRevision = state.revision := by rw [← hrow]; rfl
    have hlatest : latestObservation (earlier ++ [row]) = some row :=
      latestObservation_concat (by rwa [hrev])
    rw [← hrev] at hr
    subst hrow
    simp [hr, hobs, hlatest, ObservationRow.toState]

theorem Ledger.audit (h : Ledger clock state) : stateMatchesAudit clock = true := by
  unfold stateMatchesAudit
  rw [h.stored]
  by_cases hr : state.revision = 0
  · obtain ⟨he, hc, hn⟩ := h.empty hr
    have hf := h.level
    rw [hn] at hf
    simp [hr, he, hc, hn, hf]
  · obtain ⟨earlier, row, hobs, hrow, hlt⟩ := h.tail hr
    have hrev : row.stateRevision = state.revision := by rw [← hrow]; rfl
    have hlatest : latestObservation (earlier ++ [row]) = some row :=
      latestObservation_concat (by rwa [hrev])
    have hmin : (List.range' 1 state.revision).min? = some 1 := by
      rw [List.min?_eq_some_iff]
      refine ⟨by rw [List.mem_range'_1]; omega, fun b hb => ?_⟩
      rw [List.mem_range'_1] at hb
      exact hb.1
    have hmax : (List.range' 1 state.revision).max? = some state.revision := by
      rw [List.max?_eq_some_iff]
      refine ⟨by rw [List.mem_range'_1]; omega, fun b hb => ?_⟩
      rw [List.mem_range'_1] at hb
      omega
    have hfind : clock.observations.find? (fun o => o.stateRevision = state.revision) = some row := by
      rw [hobs, List.find?_append, List.find?_eq_none.mpr]
      · simp [hrev]
      · intro o ho
        have := hlt o ho
        simp only [decide_eq_true_eq]
        omega
    have hlen := h.length
    simp only [h.numbered, hmin, hmax, hfind, hr, hlen]
    rw [hobs, hlatest]
    subst hrow
    simp [ObservationRow.toState]

/-! ## 3. One sample -/

theorem maxKnown_some {a b : Int} : maxKnown (some a) (some b) = some (max a b) := rfl

/-- The greater of two known values is above both. -/
theorem le_maxKnown_left {a b : Option Int} {x : Int} (h : a = some x) :
    ∃ y, maxKnown a b = some y ∧ x ≤ y := by
  subst h
  cases b with
  | none => exact ⟨x, rfl, le_refl x⟩
  | some b => exact ⟨max x b, rfl, le_max_left x b⟩

theorem le_maxKnown_right {a b : Option Int} {x : Int} (h : b = some x) :
    ∃ y, maxKnown a b = some y ∧ x ≤ y := by
  subst h
  cases a with
  | none => exact ⟨x, rfl, le_refl x⟩
  | some a => exact ⟨max a x, rfl, le_max_right a x⟩

theorem maxKnown_absorb (a b : Option Int) : maxKnown a (maxKnown a b) = maxKnown a b := by
  cases a <;> cases b <;> simp [maxKnown]

/-- A bound on both values is a bound on the greater. -/
theorem maxKnown_lt {a b : Option Int} {y n : Int} (ha : ∀ x, a = some x → x < n)
    (hb : ∀ x, b = some x → x < n) (h : maxKnown a b = some y) : y < n := by
  cases a with
  | none => exact hb y h
  | some a =>
      cases b with
      | none =>
          obtain rfl := Option.some.inj h
          exact ha a rfl
      | some b =>
          obtain rfl := Option.some.inj h
          exact max_lt (ha a rfl) (hb b rfl)

theorem toI64_bounds {n m : Int} (h : toI64 n = some m) : -(2 ^ 63) ≤ m ∧ m < 2 ^ 63 := by
  unfold toI64 at h
  split at h
  · rename_i hn
    obtain rfl := Option.some.inj h
    exact hn
  · cases h

theorem sampleWall_bounds {wall : Int} (h : sampleWall env sample = some wall) :
    -(2 ^ 63) ≤ wall ∧ wall < 2 ^ 63 := by
  unfold sampleWall at h
  obtain ⟨s, _, h⟩ := Option.bind_eq_some_iff.mp h
  obtain ⟨n, _, h⟩ := Option.bind_eq_some_iff.mp h
  exact toI64_bounds h

/-- A sample keeps the ledger. -/
theorem Ledger.apply (h : Ledger clock state) :
    Ledger (clock.add (sampleRow env state sample unresolved))
      (sampleRow env state sample unresolved).toState where
  stored := rfl
  numbered := by
    show (clock.observations ++ [_]).map _ = List.range' 1 (state.revision + 1)
    rw [List.map_append, h.numbered, List.range'_1_concat]
    show _ ++ [state.revision + 1] = _
    rw [Nat.add_comm]
  level := by
    show maxKnown state.expiryFloorUnixNanos (maxKnown state.highWaterUnixNanos _) = maxKnown _ _
    rw [h.level]
    exact maxKnown_absorb _ _
  current := by
    unfold StateCurrent
    rw [show (clock.add (sampleRow env state sample unresolved)).observations =
      clock.observations ++ [sampleRow env state sample unresolved] from rfl, List.getLast?_concat]
  seen := by
    intro o ho wall hwall
    rcases List.mem_append.mp ho with ho | ho
    · obtain ⟨high, hhigh, hle⟩ := h.seen o ho wall hwall
      obtain ⟨y, hy, hxy⟩ := le_maxKnown_left (b := (readSample env sample).1) hhigh
      exact ⟨y, hy, hle.trans hxy⟩
    · rw [List.mem_singleton.mp ho] at hwall
      exact le_maxKnown_right hwall
  bounded := by
    intro high e
    refine maxKnown_lt h.bounded (fun x hx => ?_) e
    rw [readSample_wall] at hx
    exact (sampleWall_bounds hx).2

theorem Ledger.sampled {a : TimeAssessment} (h : Ledger clock state)
    (k : applySampleInTransactionWithUnresolved env clock sample unresolved = .ok (clock', a)) :
    clock' = clock.add (sampleRow env state sample unresolved) ∧
      a = ⟨(sampleRow env state sample unresolved).confidence,
        (sampleRow env state sample unresolved).expiryFloorUnixNanos⟩ := by
  obtain ⟨old, hold, _, hclock, ha⟩ := applySample_ok k
  rw [h.stored] at hold
  obtain rfl := Option.some.inj hold
  exact ⟨hclock, ha⟩

/-- With a ledger a sample fails only where the revisions are used up. -/
theorem Ledger.apply_ok_iff (h : Ledger clock state) :
    (∃ r, applySampleInTransactionWithUnresolved env clock sample unresolved = .ok r) ↔
      state.revision < maxI64 := by
  constructor
  · rintro ⟨⟨clock', a⟩, hr⟩
    obtain ⟨old, hold, hlt, _⟩ := applySample_ok hr
    rw [h.stored] at hold
    obtain rfl := Option.some.inj hold
    exact hlt
  · intro hlt
    have hwell : malformedTimeState state = false := by
      unfold malformedTimeState
      rw [h.level]
      cases state.highWaterUnixNanos with
      | none => rfl
      | some high => simp
    have hfresh : (clock.observations.any fun o => decide (o.stateRevision = state.revision + 1)) = false := by
      rw [List.any_eq_false]
      intro o ho
      have hm : o.stateRevision ∈ clock.observations.map ObservationRow.stateRevision :=
        List.mem_map_of_mem ho
      rw [h.numbered, List.mem_range'_1] at hm
      simp only [decide_eq_true_eq]
      omega
    have hnot : ¬ maxI64 ≤ state.revision := by omega
    refine ⟨(clock.add (sampleRow env state sample unresolved),
      ⟨(sampleRow env state sample unresolved).confidence,
        (sampleRow env state sample unresolved).expiryFloorUnixNanos⟩), ?_⟩
    unfold applySampleInTransactionWithUnresolved
    simp only [h.auditTail, h.stored, hwell, hfresh, hnot, rejectIf, expect, Bool.not_true,
      Bool.false_eq_true, if_false, decide_false, ok_bind]
    rfl

/-! ## 4. What samples can do -/

/-- Observations were added; high water and floor did not fall; uncertainty stayed; and a sample
    behind the high water by more than the tolerance made the time uncertain. -/
structure Advanced (before after : Clock) : Prop where
  grown : ∃ added, after.observations = before.observations ++ added ∧
    ∀ o ∈ added, ∀ wall high, o.observedUnixNanos = some wall → before.high = some high →
      wall < high - rollbackToleranceNanos → after.Uncertain
  high : ∀ x, before.high = some x → ∃ y, after.high = some y ∧ x ≤ y
  floor : ∀ x, before.floor = some x → ∃ y, after.floor = some y ∧ x ≤ y
  uncertain : before.Uncertain → after.Uncertain

theorem Advanced.refl (clock : Clock) : Advanced clock clock where
  grown := ⟨[], (List.append_nil _).symm, fun o ho => by cases ho⟩
  high := fun x hx => ⟨x, hx, le_refl x⟩
  floor := fun x hx => ⟨x, hx, le_refl x⟩
  uncertain := id

theorem Advanced.trans {a b c : Clock} (h : Advanced a b) (k : Advanced b c) : Advanced a c where
  grown := by
    obtain ⟨first, hb, hfirst⟩ := h.grown
    obtain ⟨second, hc, hsecond⟩ := k.grown
    refine ⟨first ++ second, by rw [hc, hb, List.append_assoc], ?_⟩
    intro o ho wall high hwall hhigh hlt
    rcases List.mem_append.mp ho with ho | ho
    · exact k.uncertain (hfirst o ho wall high hwall hhigh hlt)
    · -- the high water has only risen in between
      obtain ⟨y, hy, hle⟩ := h.high high hhigh
      exact hsecond o ho wall y hwall hy (by omega)
  high := by
    intro x hx
    obtain ⟨y, hy, hxy⟩ := h.high x hx
    obtain ⟨z, hz, hyz⟩ := k.high y hy
    exact ⟨z, hz, hxy.trans hyz⟩
  floor := by
    intro x hx
    obtain ⟨y, hy, hxy⟩ := h.floor x hx
    obtain ⟨z, hz, hyz⟩ := k.floor y hy
    exact ⟨z, hz, hxy.trans hyz⟩
  uncertain := fun hu => k.uncertain (h.uncertain hu)

theorem sampleVerdict_uncertain {observed : Option Int} (h : state.confidence = .timeUncertain) :
    (sampleVerdict state observed unresolved).1 = .timeUncertain := by
  rw [sampleVerdict, if_pos h]

theorem sampleVerdict_unresolved {observed : Option Int} :
    (sampleVerdict state observed true).1 = .timeUncertain := by
  unfold sampleVerdict
  split
  · rfl
  · rfl

theorem sampleVerdict_rolledBack {observed : Option Int}
    (h : wallRolledBack observed state.highWaterUnixNanos = true) :
    (sampleVerdict state observed unresolved).1 = .timeUncertain := by
  unfold sampleVerdict
  rw [if_pos h]
  split_ifs <;> rfl

/-- A trusted verdict needs a wall time that is not rolled back. -/
theorem sampleVerdict_trusted {observed : Option Int}
    (h : (sampleVerdict state observed unresolved).1 = .trustedLocal) :
    state.confidence ≠ .timeUncertain ∧ unresolved = false ∧ ∃ wall, observed = some wall ∧
      wallRolledBack observed state.highWaterUnixNanos = false := by
  unfold sampleVerdict at h
  split_ifs at h with hu hr hn hb
  refine ⟨hu, by simpa using hr, ?_⟩
  cases observed with
  | none => exact absurd rfl hn
  | some wall => exact ⟨wall, rfl, by simpa using hb⟩

/-- Behind a high water in range by more than the tolerance is rolled back. -/
theorem wallRolledBack_of_lt {wall high : Int} (hh : high < 2 ^ 63)
    (h : wall < high - rollbackToleranceNanos) : wallRolledBack (some wall) (some high) = true := by
  show decide (wall < saturatingSub high rollbackToleranceNanos) = true
  unfold saturatingSub
  unfold rollbackToleranceNanos at *
  rw [decide_eq_true_eq]
  omega

theorem Ledger.latches {wall high : Int} (h : Ledger clock state)
    (hwall : sampleWall env sample = some wall) (hhigh : state.highWaterUnixNanos = some high)
    (hlt : wall < high - rollbackToleranceNanos) :
    (sampleRow env state sample unresolved).confidence = .timeUncertain := by
  refine sampleVerdict_rolledBack ?_
  rw [readSample_wall, hwall, hhigh]
  exact wallRolledBack_of_lt (h.bounded high hhigh) hlt

theorem Ledger.advanced (h : Ledger clock state) :
    Advanced clock (clock.add (sampleRow env state sample unresolved)) := by
  have hnext : Ledger (clock.add (sampleRow env state sample unresolved)) _ := h.apply
  have hrise : ∀ x, state.highWaterUnixNanos = some x →
      ∃ y, (sampleRow env state sample unresolved).highWaterUnixNanos = some y ∧ x ≤ y :=
    fun x hx => le_maxKnown_left hx
  refine ⟨⟨_, rfl, ?_⟩, ?_, ?_, ?_⟩
  · intro o ho wall high hwall hhigh hlt
    rw [List.mem_singleton.mp ho] at hwall
    rw [h.high_eq] at hhigh
    have hwall : sampleWall env sample = some wall := readSample_wall ▸ hwall
    exact ⟨_, rfl, h.latches hwall hhigh hlt⟩
  · rw [h.high_eq, hnext.high_eq]
    exact hrise
  · rw [h.floor_eq, hnext.floor_eq]
    exact hrise
  · rintro ⟨old, hold, hconf⟩
    rw [h.stored] at hold
    obtain rfl := Option.some.inj hold
    exact ⟨_, rfl, sampleVerdict_uncertain hconf⟩

/-- Any number of samples keep the ledger and only advance the clock. -/
theorem Ledger.samples {before after : Clock} (h : Ledger before state)
    (k : Relation.ReflTransGen (Sampled env) before after) :
    (∃ state', Ledger after state') ∧ Advanced before after := by
  induction k with
  | refl => exact ⟨⟨state, h⟩, .refl before⟩
  | tail _ step ih =>
      obtain ⟨⟨state', hmiddle⟩, hadvanced⟩ := ih
      obtain ⟨sample, unresolved, a, happly⟩ := step
      obtain ⟨rfl, -⟩ := hmiddle.sampled happly
      exact ⟨⟨_, hmiddle.apply⟩, hadvanced.trans hmiddle.advanced⟩

/-! ## 5. The time handed out -/

theorem lockedEffective_some {stored : Option TimeState} {observed : Option Int} {effective : Int}
    (h : lockedEffective stored observed = some effective) :
    ∃ s floor now, stored = some s ∧ s.confidence = .trustedLocal ∧
      s.expiryFloorUnixNanos = some floor ∧ observed = some now ∧ effective = max floor now := by
  unfold lockedEffective at h
  obtain ⟨s, hs, h⟩ := Option.bind_eq_some_iff.mp h
  split at h
  · rename_i hc
    obtain ⟨floor, hf, h⟩ := Option.bind_eq_some_iff.mp h
    obtain ⟨now, hn, h⟩ := Option.bind_eq_some_iff.mp h
    split at h
    · exact ⟨s, floor, now, hs, hc, hf, hn, (Option.some.inj h).symm⟩
    · cases h
  · cases h

theorem Ledger.floor_add (h : Ledger clock state) :
    (clock.add (sampleRow env state sample unresolved)).floor =
      maxKnown clock.floor (sampleWall env sample) := by
  have hnext : Ledger (clock.add (sampleRow env state sample unresolved)) _ := h.apply
  rw [hnext.floor_eq, h.floor_eq, ← readSample_wall]
  rfl

/-- The floor after a sample is the effective time its lock was given, however often the sample is
    applied. -/
theorem Ledger.applied_floor {effective : Int} (h : Ledger clock state)
    (he : lockedEffective clock.state (sampleWall env sample) = some effective)
    (k : Applied env sample clock clock') :
    (∃ state', Ledger clock' state') ∧ clock'.floor = some effective := by
  obtain ⟨s, floor, now, hs, _, hfloor, hnow, rfl⟩ := lockedEffective_some he
  have hstart : clock.floor = some floor := by
    rw [Clock.floor, hs]
    exact hfloor
  induction k with
  | single step =>
      obtain ⟨a, step⟩ := step
      obtain ⟨rfl, -⟩ := h.sampled step
      refine ⟨⟨_, h.apply⟩, ?_⟩
      rw [h.floor_add, hstart, hnow]
      rfl
  | tail _ step ih =>
      obtain ⟨a, step⟩ := step
      obtain ⟨⟨middle, hmiddle⟩, hf⟩ := ih
      obtain ⟨rfl, -⟩ := hmiddle.sampled step
      refine ⟨⟨_, hmiddle.apply⟩, ?_⟩
      rw [hmiddle.floor_add, hf, hnow, maxKnown_some]
      congr 1
      omega

theorem Ledger.evidence_floor {row : ObservationRow} (h : Ledger clock state)
    (hrow : trustedEvidence clock = some row) : clock.floor = row.expiryFloorUnixNanos := by
  unfold trustedEvidence at hrow
  obtain ⟨s, hs, hrow⟩ := Option.bind_eq_some_iff.mp hrow
  rw [h.stored] at hs
  obtain ⟨hs, _⟩ := Option.filter_eq_some_iff.mp hs
  obtain rfl := Option.some.inj hs
  have hmem := List.mem_of_find?_eq_some hrow
  have hsat := List.find?_some hrow
  simp only [Bool.and_eq_true, decide_eq_true_eq] at hsat
  rw [Clock.floor, h.stored, ← h.find hmem hsat.1]
  rfl

theorem Ledger.assessed_floor {a : TimeAssessment} {t : Int} (h : Ledger clock state)
    (k : applySampleInTransactionWithUnresolved env clock sample unresolved = .ok (clock', a))
    (ht : t ∈ (a.handed env).toList) : clock'.floor = some t := by
  obtain ⟨rfl, rfl⟩ := h.sampled k
  rw [Option.mem_toList, TimeAssessment.handed] at ht
  split at ht
  · exact ht
  · cases ht

variable {s t : TimeSystem} {op : TimeOp}

/-- An operation applies samples to the clock, and what it hands out is the floor it leaves. -/
structure TimeStep (env : TimeEnv) (before after : TimeSystem) : Prop where
  samples : Relation.ReflTransGen (Sampled env) before.store.clock after.store.clock
  handed : ∃ given, after.handed = before.handed ++ given ∧ given.length ≤ 1 ∧
    ∀ t ∈ given, after.store.clock.floor = some t

theorem timeStep_quiet {store : TimeStore} {permits : List ExternalTimePermit}
    (h : Relation.ReflTransGen (Sampled env) s.store.clock store.clock) :
    TimeStep env s ⟨store, permits, s.handed⟩ :=
  ⟨h, [], (List.append_nil _).symm, by simp, fun t ht => by cases ht⟩

theorem timeStep_hands {store : TimeStore} {permits : List ExternalTimePermit} {effective : Int}
    (h : Relation.ReflTransGen (Sampled env) s.store.clock store.clock)
    (hf : store.clock.floor = some effective) :
    TimeStep env s ⟨store, permits, s.handed ++ [effective]⟩ := by
  refine ⟨h, [effective], rfl, by simp, fun t ht => ?_⟩
  rw [List.mem_singleton.mp ht]
  exact hf

theorem assess_ok {store store' : TimeStore} {a : TimeAssessment}
    (h : assess env store sample = .ok (store', a)) :
    store.pending = [] ∧ ∃ clock, applySampleInTransactionWithUnresolved env store.clock sample false =
      .ok (clock, a) ∧ store' = store.withClock clock := by
  unfold assess at h
  simp only [bind_eq_ok', exists_unit] at h
  obtain ⟨_, h⟩ := h
  obtain ⟨hidle, clock, happly, e⟩ := assessSampleWithPendingPolicy_ok h
  exact ⟨hidle rfl, clock, happly, e⟩

/-- **One operation**, whichever it is. -/
theorem perform_timeStep {state : TimeState} (hl : Ledger s.store.clock state)
    (h : s.perform env op = .ok t) : TimeStep env s t := by
  cases op with
  | assess sample =>
      simp only [TimeSystem.perform, bind_eq_ok'] at h
      obtain ⟨⟨store, a⟩, hassess, h⟩ := h
      obtain rfl := Except.ok.inj h
      obtain ⟨_, clock, happly, rfl⟩ := assess_ok hassess
      refine ⟨.single ⟨sample, false, a, happly⟩, _, rfl, ?_, fun t ht => hl.assessed_floor happly ht⟩
      exact Option.length_toList_le
  | startup sample =>
      simp only [TimeSystem.perform, bind_eq_ok'] at h
      obtain ⟨⟨store, a⟩, hassess, h⟩ := h
      obtain rfl := Except.ok.inj h
      obtain ⟨_, clock, happly, rfl⟩ := assessSampleWithPendingPolicy_ok hassess
      exact timeStep_quiet (.single ⟨_, _, a, happly⟩)
  | record observation =>
      simp only [TimeSystem.perform, bind_eq_ok'] at h
      obtain ⟨⟨store, a⟩, hassess, h⟩ := h
      obtain rfl := Except.ok.inj h
      obtain ⟨_, clock, happly, rfl⟩ := assessSampleWithPendingPolicy_ok hassess
      exact timeStep_quiet (.single ⟨_, _, a, happly⟩)
  | guarded sample again =>
      simp only [TimeSystem.perform, bind_eq_ok'] at h
      obtain ⟨⟨store, effective⟩, hprotected, h⟩ := h
      obtain rfl := Except.ok.inj h
      obtain ⟨_, he, clock, happlied, rfl⟩ := withProtected_ok hprotected
      exact timeStep_hands happlied.sampled (hl.applied_floor he happlied).2
  | observed sample =>
      simp only [TimeSystem.perform, bind_eq_ok'] at h
      obtain ⟨⟨store, effective⟩, hprotected, h⟩ := h
      obtain rfl := Except.ok.inj h
      obtain ⟨_, clock, row, happlied, hrow, hfloor, rfl⟩ := withProtectedObservation_ok hprotected
      obtain ⟨⟨state', hl'⟩, _⟩ := hl.samples happlied.sampled
      exact timeStep_hands happlied.sampled ((hl'.evidence_floor hrow).trans hfloor)
  | prepare lease subject sample markerId =>
      simp only [TimeSystem.perform, bind_eq_ok'] at h
      obtain ⟨⟨store, permit, effective⟩, hprepare, h⟩ := h
      obtain rfl := Except.ok.inj h
      have hprepared := prepareExternalEffect_ok hprepare
      obtain ⟨clock, revision, observed, happlied, _, hinsert⟩ := hprepared.inserted
      obtain ⟨_, _, _, _, rfl⟩ := insertPreparation_ok hinsert
      exact timeStep_hands happlied.sampled (hl.applied_floor hprepared.timed happlied).2
  | enter permit sample early kind =>
      simp only [TimeSystem.perform, bind_eq_ok', exists_unit] at h
      obtain ⟨_, ⟨store, effective⟩, henter, h⟩ := h
      obtain rfl := Except.ok.inj h
      have hentered := enterExternalEffect_ok henter
      obtain ⟨clock, revision, observed, happlied, hinsert⟩ := hentered.inserted
      obtain ⟨_, _, rfl⟩ := insertResolution_ok hinsert
      refine ⟨happlied.sampled, _, rfl, Option.length_toList_le, fun x hx => ?_⟩
      have htimed := hentered.timed
      rw [Option.mem_toList] at hx
      rw [show effective = some x from hx] at htimed
      split at htimed
      · exact (hl.applied_floor htimed.symm happlied).2
      · cases htimed
  | claim ownerId =>
      obtain rfl := Except.ok.inj h
      exact timeStep_quiet .refl
  | crash ownerId =>
      obtain rfl := Except.ok.inj h
      exact timeStep_quiet .refl

/-! ## 6. Whole runs -/

/-- What holds in every state: the record is in order, both checks agree with it, and the times
    handed out are not above the floor. -/
structure TimeSound (s : TimeSystem) : Prop where
  ordered : ∀ high, s.store.clock.high = some high →
    ∃ floor, s.store.clock.floor = some floor ∧ high ≤ floor
  counted : ∃ state, s.store.clock.state = some state ∧
    state.revision = s.store.clock.observations.length ∧
    ∀ row, s.store.clock.observations.getLast? = some row → row.toState = state
  audited : stateMatchesAudit s.store.clock = true ∧ stateMatchesAuditTail s.store.clock = true
  handed : s.handed.Pairwise (· ≤ ·)

/-- What holds from a state to any later one: nothing goes back, and what is handed out later is not
    behind any wall time observed before. -/
structure TimeAdvanced (before after : TimeSystem) : Prop where
  clock : Advanced before.store.clock after.store.clock
  handed : ∃ given, after.handed = before.handed ++ given ∧
    ∀ t ∈ given, ∀ o ∈ before.store.clock.observations, ∀ wall, o.observedUnixNanos = some wall →
      wall - rollbackToleranceNanos ≤ t

/-- A sample behind the high water by more than the tolerance makes the time uncertain, unless the
    revisions are used up and it is refused. -/
def RollbackLatches (env : TimeEnv) (s : TimeSystem) : Prop :=
  ∀ sample unresolved wall high, sampleWall env sample = some wall → s.store.clock.high = some high →
    wall < high - rollbackToleranceNanos →
    match applySampleInTransactionWithUnresolved env s.store.clock sample unresolved with
    | .ok (clock, _) => clock.Uncertain
    | .error _ => maxI64 ≤ s.store.clock.observations.length

/-- The invariant of a run. -/
structure TimeInv (s : TimeSystem) : Prop where
  ledger : ∃ state, Ledger s.store.clock state
  sorted : s.handed.Pairwise (· ≤ ·)
  below : ∀ t ∈ s.handed, ∃ floor, s.store.clock.floor = some floor ∧ t ≤ floor

/-- What any number of steps may do beside the clock. -/
structure HandedOn (before after : TimeSystem) : Prop where
  clock : Advanced before.store.clock after.store.clock
  handed : ∃ given, after.handed = before.handed ++ given ∧
    ∀ t ∈ given, ∀ floor, before.store.clock.floor = some floor → floor ≤ t

theorem TimeInv.initial : TimeInv TimeSystem.initial where
  ledger := ⟨_, ledger_initial⟩
  sorted := List.Pairwise.nil
  below := fun t ht => by cases ht

theorem HandedOn.refl (s : TimeSystem) : HandedOn s s :=
  ⟨.refl _, [], (List.append_nil _).symm, fun t ht => by cases ht⟩

theorem HandedOn.trans {a b c : TimeSystem} (h : HandedOn a b) (k : HandedOn b c) : HandedOn a c := by
  obtain ⟨first, hb, hfirst⟩ := h.handed
  obtain ⟨second, hc, hsecond⟩ := k.handed
  refine ⟨h.clock.trans k.clock, first ++ second, by rw [hc, hb, List.append_assoc], ?_⟩
  intro t ht floor hfloor
  rcases List.mem_append.mp ht with ht | ht
  · exact hfirst t ht floor hfloor
  · obtain ⟨y, hy, hle⟩ := h.clock.floor floor hfloor
    exact hle.trans (hsecond t ht y hy)

theorem TimeStep.handedOn {state : TimeState} (hl : Ledger s.store.clock state)
    (h : TimeStep env s t) : HandedOn s t := by
  obtain ⟨given, hgiven, _, hfloor⟩ := h.handed
  have hadvanced := (hl.samples h.samples).2
  refine ⟨hadvanced, given, hgiven, fun x hx floor hf => ?_⟩
  obtain ⟨y, hy, hle⟩ := hadvanced.floor floor hf
  rw [hfloor x hx] at hy
  exact hle.trans (le_of_eq (Option.some.inj hy).symm)

theorem TimeStep.inv (hi : TimeInv s) (h : TimeStep env s t) : TimeInv t := by
  obtain ⟨state, hl⟩ := hi.ledger
  obtain ⟨hl', hadvanced⟩ := hl.samples h.samples
  obtain ⟨given, hgiven, hone, hfloor⟩ := h.handed
  have hbelow : ∀ x ∈ t.handed, ∃ floor, t.store.clock.floor = some floor ∧ x ≤ floor := by
    intro x hx
    rw [hgiven] at hx
    rcases List.mem_append.mp hx with hx | hx
    · obtain ⟨floor, hf, hle⟩ := hi.below x hx
      obtain ⟨y, hy, hle'⟩ := hadvanced.floor floor hf
      exact ⟨y, hy, hle.trans hle'⟩
    · exact ⟨x, hfloor x hx, le_refl x⟩
  refine ⟨hl', ?_, hbelow⟩
  rw [hgiven, List.pairwise_append]
  refine ⟨hi.sorted, ?_, fun x hx y hy => ?_⟩
  · cases given with
    | nil => exact List.Pairwise.nil
    | cons x rest =>
        have : rest = [] := List.length_eq_zero_iff.mp (by simp only [List.length_cons] at hone; omega)
        rw [this]
        exact List.pairwise_singleton _ _
  · obtain ⟨floor, hf, hle⟩ := hbelow x (by rw [hgiven]; exact List.mem_append_left _ hx)
    rw [hfloor y hy] at hf
    exact hle.trans (le_of_eq (Option.some.inj hf).symm)

/-- One step, successful or not. -/
theorem TimeInv.step (hi : TimeInv s) (op : TimeOp) :
    TimeInv (s.step env op) ∧ HandedOn s (s.step env op) := by
  unfold TimeSystem.step
  obtain ⟨state, hl⟩ := hi.ledger
  cases h : s.perform env op with
  | error e => exact ⟨hi, .refl s⟩
  | ok t =>
      have hstep := perform_timeStep hl h
      exact ⟨hstep.inv hi, hstep.handedOn hl⟩

theorem TimeInv.run {ops : List TimeOp} (hi : TimeInv s) :
    TimeInv (ops.foldl (TimeSystem.step env) s) ∧ HandedOn s (ops.foldl (TimeSystem.step env) s) := by
  induction ops generalizing s with
  | nil => exact ⟨hi, .refl s⟩
  | cons op rest ih =>
      obtain ⟨hone, hon⟩ := hi.step op
      obtain ⟨hrest, hlater⟩ := ih hone
      exact ⟨hrest, hon.trans hlater⟩

theorem TimeInv.sound (hi : TimeInv s) : TimeSound s := by
  obtain ⟨state, hl⟩ := hi.ledger
  refine ⟨fun high hhigh => ?_, ⟨state, hl.stored, hl.length.symm, fun row hrow => ?_⟩,
    ⟨hl.audit, hl.auditTail⟩, hi.sorted⟩
  · rw [hl.high_eq] at hhigh
    exact ⟨high, hl.floor_eq.trans hhigh, le_refl high⟩
  · have hc := hl.current
    unfold StateCurrent at hc
    rwa [hrow] at hc

theorem TimeInv.latches (hi : TimeInv s) : RollbackLatches env s := by
  intro sample unresolved wall high hwall hhigh hlt
  obtain ⟨state, hl⟩ := hi.ledger
  rw [hl.high_eq] at hhigh
  cases h : applySampleInTransactionWithUnresolved env s.store.clock sample unresolved with
  | ok r =>
      obtain ⟨clock, a⟩ := r
      obtain ⟨rfl, -⟩ := hl.sampled h
      exact ⟨_, rfl, hl.latches hwall hhigh hlt⟩
  | error e =>
      show maxI64 ≤ s.store.clock.observations.length
      rw [hl.length]
      by_contra hn
      have hok : ∃ r, applySampleInTransactionWithUnresolved env s.store.clock sample unresolved = .ok r :=
        hl.apply_ok_iff.mpr (by omega)
      obtain ⟨r, hr⟩ := hok
      rw [h] at hr
      cases hr

theorem TimeInv.advanced (hi : TimeInv s) (h : HandedOn s t) : TimeAdvanced s t := by
  obtain ⟨state, hl⟩ := hi.ledger
  obtain ⟨given, hgiven, hfloor⟩ := h.handed
  refine ⟨h.clock, given, hgiven, fun x hx o ho wall hwall => ?_⟩
  obtain ⟨high, hhigh, hle⟩ := hl.seen o ho wall hwall
  have hx := hfloor x hx high (hl.floor_eq.trans hhigh)
  unfold rollbackToleranceNanos
  omega

/-- **Trusted time never goes back and its distrust is final.** After any operations, in any order
    and with any samples, failures and restarts, the record is in order; from there on nothing goes
    back; and a sample that is too far behind makes the time uncertain. -/
theorem trusted_time_monotone (env : TimeEnv) (ops later : List TimeOp) :
    TimeSound (TimeSystem.run env ops) ∧
      TimeAdvanced (TimeSystem.run env ops) (TimeSystem.run env (ops ++ later)) ∧
      RollbackLatches env (TimeSystem.run env ops) := by
  have hi : TimeInv (TimeSystem.run env ops) := (TimeInv.run .initial).1
  refine ⟨hi.sound, hi.advanced ?_, hi.latches⟩
  unfold TimeSystem.run
  rw [List.foldl_append]
  exact (TimeInv.run hi).2

end Aios.Tasks
