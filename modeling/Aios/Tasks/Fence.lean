/-
  File:      Aios/Tasks/Fence.lean
  Subject:   THE FENCE around an effect outside the store: one marker at a time, resolved once.

  * `FenceInv` -- the INVARIANT of a run: at most one marker is pending, it has its preparation and
    no resolution, no marker is used twice, and a resolution stands on an observation after the one
    of its preparation;
  * `FenceStep` -- what one operation can do to the markers, whoever performs it;
  * `perform_frozen` -- with an uncertain time nothing is handed out, prepared or entered;
  * **`markers_one_shot`** -- all of it along every run, and after a startup that finds a marker.
-/
import Aios.Tasks.Trust

namespace Aios.Tasks

open Lib

variable {env : TimeEnv} {clock clock' : Clock} {state : TimeState}
  {sample : Option SecurityClockSample} {s t : TimeSystem} {op : TimeOp}

/-! ## 1. The order of the observations -/

/-- The later observation has no smaller floor, and where it is trusted its wall time is not behind
    the earlier one by more than the tolerance. -/
structure NotEarlier (a b : ObservationRow) : Prop where
  floor : ∀ x, a.expiryFloorUnixNanos = some x → ∃ y, b.expiryFloorUnixNanos = some y ∧ x ≤ y
  wall : b.confidence = .trustedLocal → ∀ x, a.observedUnixNanos = some x →
    ∃ y, b.observedUnixNanos = some y ∧ x - rollbackToleranceNanos ≤ y

theorem le_of_not_rolledBack {wall high : Int} (hh : high < 2 ^ 63)
    (h : wallRolledBack (some wall) (some high) = false) : high - rollbackToleranceNanos ≤ wall := by
  by_contra hn
  rw [wallRolledBack_of_lt hh (by omega)] at h
  cases h

theorem Ledger.notEarlier {unresolved : Bool} (h : Ledger clock state)
    (hp : clock.observations.Pairwise NotEarlier) (o : ObservationRow) (ho : o ∈ clock.observations) :
    NotEarlier o (sampleRow env state sample unresolved) := by
  have hr : state.revision ≠ 0 := by
    intro hr
    rw [(h.empty hr).1] at ho
    cases ho
  obtain ⟨earlier, last, hobs, hlast, _⟩ := h.tail hr
  -- the floor of the row is not above the one of the state
  have hfloor : ∀ x, o.expiryFloorUnixNanos = some x →
      ∃ y, state.expiryFloorUnixNanos = some y ∧ x ≤ y := by
    intro x hx
    rw [hobs] at ho hp
    rcases List.mem_append.mp ho with hin | hin
    · rw [← hlast]
      exact ((List.pairwise_append.mp hp).2.2 o hin last (List.mem_singleton.mpr rfl)).floor x hx
    · rw [List.mem_singleton.mp hin] at hx
      rw [← hlast]
      exact ⟨x, hx, le_refl x⟩
  constructor
  · intro x hx
    obtain ⟨y, hy, hxy⟩ := hfloor x hx
    obtain ⟨z, hz, hyz⟩ := le_maxKnown_left (b := maxKnown state.highWaterUnixNanos
      (readSample env sample).1) hy
    exact ⟨z, hz, hxy.trans hyz⟩
  · intro htrusted x hx
    obtain ⟨_, _, wall, hwall, hback⟩ := sampleVerdict_trusted htrusted
    obtain ⟨high, hhigh, hle⟩ := h.seen o ho x hx
    rw [hwall, hhigh] at hback
    have := le_of_not_rolledBack (h.bounded high hhigh) hback
    exact ⟨wall, hwall, by omega⟩

theorem Ledger.samples_notEarlier {before after : Clock} (h : Ledger before state)
    (hp : before.observations.Pairwise NotEarlier)
    (k : Relation.ReflTransGen (Sampled env) before after) :
    after.observations.Pairwise NotEarlier := by
  induction k with
  | refl => exact hp
  | @tail middle after earlier step ih =>
      obtain ⟨⟨state', hmiddle⟩, _⟩ := h.samples earlier
      obtain ⟨sample, unresolved, a, happly⟩ := step
      obtain ⟨rfl, -⟩ := hmiddle.sampled happly
      refine List.pairwise_append.mpr ⟨ih, List.pairwise_singleton _ _, fun o ho r hr => ?_⟩
      rw [List.mem_singleton.mp hr]
      exact hmiddle.notEarlier ih o ho

/-- In a ledger the order of the revisions is the order of the rows. -/
theorem notEarlier_of_lt {observations : List ObservationRow} {a b : ObservationRow}
    (hp : observations.Pairwise NotEarlier)
    (hs : (observations.map ObservationRow.stateRevision).Pairwise (· < ·)) (ha : a ∈ observations)
    (hb : b ∈ observations) (hlt : a.stateRevision < b.stateRevision) : NotEarlier a b := by
  induction observations with
  | nil => cases ha
  | cons o rest ih =>
      rw [List.pairwise_cons] at hp
      rw [List.map_cons, List.pairwise_cons] at hs
      rcases List.mem_cons.mp ha with rfl | ha'
      · rcases List.mem_cons.mp hb with rfl | hb'
        · exact absurd hlt (lt_irrefl _)
        · exact hp.1 b hb'
      · rcases List.mem_cons.mp hb with rfl | hb'
        · have := hs.1 _ (List.mem_map_of_mem ha')
          omega
        · exact ih hp.2 hs.2 ha' hb'

/-! ## 2. One operation -/

/-- What an operation does to the markers, the permits and the times handed out. -/
inductive MarkerStep (env : TimeEnv) (s : TimeSystem) : TimeOp → TimeSystem → Prop
  /-- It only samples, and with a marker pending it hands nothing out. -/
  | clocked {op : TimeOp} {clock : Clock} {handed : List Int}
      (samples : Relation.ReflTransGen (Sampled env) s.store.clock clock)
      (fenced : s.store.pending ≠ [] → handed = s.handed) :
      MarkerStep env s op ⟨s.store.withClock clock, s.permits, handed⟩
  | prepared {lease : Lease} {subject : EffectSubject} {sample : Option SecurityClockSample}
      {markerId : String} {store : TimeStore} {permit : ExternalTimePermit} {effective : Int}
      (done : MarkerPrepared env s.store lease subject sample markerId store permit effective) :
      MarkerStep env s (.prepare lease subject sample markerId)
        ⟨store, s.permits ++ [permit], s.handed ++ [effective]⟩
  | entered {permit : ExternalTimePermit} {sample : Option SecurityClockSample} {early : EarlyCommit}
      {kind : ExternalResolutionKind} {store : TimeStore} {effective : Option Int}
      (holds : permit ∈ s.permits)
      (done : MarkerEntered env s.store permit sample kind store effective) :
      MarkerStep env s (.enter permit sample early kind)
        ⟨store, s.permits, s.handed ++ effective.toList⟩
  /-- A lease changes hands, or permits are lost. -/
  | moved {op : TimeOp} {lease : Option Lease} {permits : List ExternalTimePermit}
      (lost : ∀ permit ∈ permits, permit ∈ s.permits) :
      MarkerStep env s op ⟨{ s.store with lease := lease }, permits, s.handed⟩

theorem perform_markerStep (h : s.perform env op = .ok t) : MarkerStep env s op t := by
  cases op with
  | assess sample =>
      simp only [TimeSystem.perform, bind_eq_ok'] at h
      obtain ⟨⟨store, a⟩, hassess, h⟩ := h
      obtain rfl := Except.ok.inj h
      obtain ⟨hidle, clock, happly, rfl⟩ := assess_ok hassess
      exact .clocked (.single ⟨sample, false, a, happly⟩) (absurd hidle)
  | startup sample =>
      simp only [TimeSystem.perform, bind_eq_ok'] at h
      obtain ⟨⟨store, a⟩, hassess, h⟩ := h
      obtain rfl := Except.ok.inj h
      obtain ⟨_, clock, happly, rfl⟩ := assessSampleWithPendingPolicy_ok hassess
      exact .clocked (.single ⟨_, _, a, happly⟩) fun _ => rfl
  | record observation =>
      simp only [TimeSystem.perform, bind_eq_ok'] at h
      obtain ⟨⟨store, a⟩, hassess, h⟩ := h
      obtain rfl := Except.ok.inj h
      obtain ⟨_, clock, happly, rfl⟩ := assessSampleWithPendingPolicy_ok hassess
      exact .clocked (.single ⟨_, _, a, happly⟩) fun _ => rfl
  | guarded sample again =>
      simp only [TimeSystem.perform, bind_eq_ok'] at h
      obtain ⟨⟨store, effective⟩, hprotected, h⟩ := h
      obtain rfl := Except.ok.inj h
      obtain ⟨hidle, _, clock, happlied, rfl⟩ := withProtected_ok hprotected
      exact .clocked happlied.sampled (absurd hidle)
  | observed sample =>
      simp only [TimeSystem.perform, bind_eq_ok'] at h
      obtain ⟨⟨store, effective⟩, hprotected, h⟩ := h
      obtain rfl := Except.ok.inj h
      obtain ⟨hidle, clock, row, happlied, _, _, rfl⟩ := withProtectedObservation_ok hprotected
      exact .clocked happlied.sampled (absurd hidle)
  | prepare lease subject sample markerId =>
      simp only [TimeSystem.perform, bind_eq_ok'] at h
      obtain ⟨⟨store, permit, effective⟩, hprepare, h⟩ := h
      obtain rfl := Except.ok.inj h
      exact .prepared (prepareExternalEffect_ok hprepare)
  | enter permit sample early kind =>
      simp only [TimeSystem.perform, bind_eq_ok', exists_unit, rejectIf_ok] at h
      obtain ⟨hholds, ⟨store, effective⟩, henter, h⟩ := h
      obtain rfl := Except.ok.inj h
      exact .entered (by simpa using hholds) (enterExternalEffect_ok henter)
  | claim ownerId =>
      obtain rfl := Except.ok.inj h
      exact .moved fun _ hp => hp
  | crash ownerId =>
      obtain rfl := Except.ok.inj h
      exact .moved fun _ hp => (List.mem_filter.mp hp).1

theorem PreparationRow.matches_iff {p : PreparationRow} {permit : ExternalTimePermit} :
    p.matches permit = true ↔ p.markerId = permit.markerId ∧ p.taskId = permit.taskId ∧
      p.subjectKind = permit.subjectKind ∧ p.subjectId = permit.subjectId ∧
      p.ownerId = permit.ownerId ∧ p.ownerEpoch = permit.ownerEpoch ∧
      p.preparedStateRevision = permit.preparedStateRevision := by
  simp only [PreparationRow.matches, Bool.and_eq_true, decide_eq_true_eq, and_assoc]

/-! ## 3. The invariant -/

/-- The observation of a preparation: trusted, and of the time the row says. -/
def PreparationRow.observedIn (p : PreparationRow) (clock : Clock) (o : ObservationRow) : Prop :=
  o ∈ clock.observations ∧ o.stateRevision = p.preparedStateRevision ∧ o.confidence = .trustedLocal ∧
    o.observedUnixNanos = some p.preparedObservedUnixNanos

/-- The preparation of a resolution; where the effect was invoked, the trusted observation of the
    resolution is not earlier than the one of the preparation. -/
def ResolutionBacked (store : TimeStore) (r : ResolutionRow) : Prop :=
  ∃ p ∈ store.preparations, p.markerId = r.markerId ∧ p.preparedStateRevision < r.resolvedStateRevision ∧
    (r.resolutionKind = .effectInvoked → ∃ a b, p.observedIn store.clock a ∧
      b ∈ store.clock.observations ∧ b.stateRevision = r.resolvedStateRevision ∧
      b.confidence = .trustedLocal ∧ b.observedUnixNanos = r.entryObservedUnixNanos ∧ NotEarlier a b)

/-- Nothing is pending, or one marker that is prepared and not resolved. -/
def OnePending (store : TimeStore) : Prop :=
  store.pending = [] ∨ ∃ p ∈ store.preparations, store.pending = [p.markerId] ∧
    ∀ r ∈ store.resolutions, r.markerId ≠ p.markerId

/-- The invariant of the fence. -/
structure FenceInv (s : TimeSystem) : Prop where
  time : TimeInv s
  history : s.store.clock.observations.Pairwise NotEarlier
  prepared : (s.store.preparations.map PreparationRow.markerId).Nodup
  resolved : (s.store.resolutions.map ResolutionRow.markerId).Nodup
  one : OnePending s.store
  observed : ∀ p ∈ s.store.preparations, ∃ o, p.observedIn s.store.clock o
  backed : ∀ r ∈ s.store.resolutions, ResolutionBacked s.store r
  held : ∀ permit ∈ s.permits, ∃ p ∈ s.store.preparations, p.matches permit = true

theorem FenceInv.initial : FenceInv TimeSystem.initial where
  time := .initial
  history := List.Pairwise.nil
  prepared := List.nodup_nil
  resolved := List.nodup_nil
  one := .inl rfl
  observed := fun p hp => by cases hp
  backed := fun r hr => by cases hr
  held := fun p hp => by cases hp

theorem observedIn_mono {p : PreparationRow} {o : ObservationRow}
    (hc : Advanced clock clock') (h : p.observedIn clock o) : p.observedIn clock' o := by
  obtain ⟨ho, hrest⟩ := h
  obtain ⟨added, e, _⟩ := hc.grown
  exact ⟨e ▸ List.mem_append_left _ ho, hrest⟩

theorem ResolutionBacked.mono {store store' : TimeStore} {r : ResolutionRow}
    (hc : Advanced store.clock store'.clock) (hp : ∀ p ∈ store.preparations, p ∈ store'.preparations)
    (h : ResolutionBacked store r) : ResolutionBacked store' r := by
  obtain ⟨p, hmem, hid, hlt, heffect⟩ := h
  refine ⟨p, hp p hmem, hid, hlt, fun hk => ?_⟩
  obtain ⟨a, b, ha, hb, hrest⟩ := heffect hk
  obtain ⟨added, e, _⟩ := hc.grown
  exact ⟨a, b, observedIn_mono hc ha, e ▸ List.mem_append_left _ hb, hrest⟩

theorem currentTrusted_iff {revision : Nat} {observed : Int}
    (h : currentTrusted clock revision observed = true) :
    ∃ o ∈ clock.observations, o.stateRevision = revision ∧ o.confidence = .trustedLocal ∧
      o.observedUnixNanos = some observed := by
  unfold currentTrusted at h
  obtain ⟨s, _, h⟩ := (Option.any_eq_true _ _).mp h
  simp only [Bool.and_eq_true, decide_eq_true_eq, List.any_eq_true] at h
  obtain ⟨⟨_, hrev⟩, o, ho, ⟨hrow, hconf⟩, hobs⟩ := h
  exact ⟨o, ho, hrow.trans hrev, hconf, hobs⟩

/-- What an inserted resolution stands on. -/
theorem resolutionExact_backed {store : TimeStore} {r : ResolutionRow}
    (hl : (store.clock.observations.map ObservationRow.stateRevision).Pairwise (· < ·))
    (hh : store.clock.observations.Pairwise NotEarlier)
    (ho : ∀ p ∈ store.preparations, ∃ o, p.observedIn store.clock o)
    (h : resolutionExact store r = true) : ResolutionBacked store r := by
  unfold resolutionExact at h
  simp only [Bool.and_eq_true, List.any_eq_true, decide_eq_true_eq] at h
  obtain ⟨⟨_, _⟩, p, hp, ⟨⟨hid, _⟩, h⟩⟩ := h
  obtain ⟨s, _, h⟩ := (Option.any_eq_true _ _).mp h
  simp only [Bool.and_eq_true, decide_eq_true_eq, List.any_eq_true] at h
  obtain ⟨⟨⟨hrev, hlt⟩, b, hb, ⟨hbrev, hbconf⟩, hbobs⟩, hkind⟩ := h
  refine ⟨p, hp, hid, by omega, fun hk => ?_⟩
  obtain ⟨a, ha⟩ := ho p hp
  have hearlier : a.stateRevision < b.stateRevision := by
    have := ha.2.1
    omega
  rw [hk] at hkind
  simp only [Bool.and_eq_true, decide_eq_true_eq] at hkind
  exact ⟨a, b, ha, hb, hbrev.trans hrev, hbconf.trans hkind.1, hbobs,
    notEarlier_of_lt hh hl ha.1 hb hearlier⟩

theorem Ledger.sorted (h : Ledger clock state) :
    (clock.observations.map ObservationRow.stateRevision).Pairwise (· < ·) := by
  rw [h.numbered]
  exact List.pairwise_lt_range'

theorem nodup_map_concat {α β : Type} {f : α → β} {l : List α} {a : α} (h : (l.map f).Nodup)
    (ha : ∀ b ∈ l, f b ≠ f a) : ((l ++ [a]).map f).Nodup := by
  rw [List.map_append, List.nodup_append]
  refine ⟨h, List.nodup_singleton _, fun x hx y hy e => ?_⟩
  obtain ⟨b, hb, rfl⟩ := List.mem_map.mp hx
  rw [List.map_singleton, List.mem_singleton] at hy
  exact ha b hb (e.trans hy)

/-- **One operation keeps the fence.** -/
theorem FenceInv.perform (hi : FenceInv s) (h : s.perform env op = .ok t) : FenceInv t := by
  obtain ⟨state, hl⟩ := hi.time.ledger
  have htime : TimeInv t := (perform_timeStep hl h).inv hi.time
  have hsamples := (perform_timeStep hl h).samples
  have hadvanced := (hl.samples hsamples).2
  have hhistory := hl.samples_notEarlier hi.history hsamples
  obtain ⟨state', hl'⟩ := htime.ledger
  cases perform_markerStep h with
  | clocked samples fenced =>
      exact ⟨htime, hhistory, hi.prepared, hi.resolved, hi.one,
        fun p hp => (hi.observed p hp).imp fun o ho => observedIn_mono hadvanced ho,
        fun r hr => (hi.backed r hr).mono hadvanced fun p hp => hp, hi.held⟩
  | moved lost =>
      exact ⟨htime, hi.history, hi.prepared, hi.resolved, hi.one, hi.observed, hi.backed,
        fun permit hp => hi.held permit (lost permit hp)⟩
  | @prepared lease subject sample markerId store permit effective done =>
      obtain ⟨clock, revision, observed, happlied, rfl, hinsert⟩ := done.inserted
      obtain ⟨htrusted, _, hnew, hunresolved, rfl⟩ := insertPreparation_ok hinsert
      have hidle : s.store.pending = [] := done.idle
      refine ⟨htime, hhistory, nodup_map_concat hi.prepared hnew, hi.resolved, ?_, ?_, ?_, ?_⟩
      · refine .inr ⟨_, List.mem_append_right _ (List.mem_singleton.mpr rfl), ?_, hunresolved⟩
        show s.store.pending ++ _ = _
        rw [hidle]
        rfl
      · intro p hp
        rcases List.mem_append.mp hp with hp | hp
        · exact (hi.observed p hp).imp fun o ho => observedIn_mono hadvanced ho
        · rw [List.mem_singleton.mp hp]
          obtain ⟨o, ho, hrest⟩ := currentTrusted_iff htrusted
          exact ⟨o, ho, hrest⟩
      · intro r hr
        exact (hi.backed r hr).mono hadvanced fun p hp => List.mem_append_left _ hp
      · intro permit hp
        rcases List.mem_append.mp hp with hp | hp
        · obtain ⟨p, hmem, hmatch⟩ := hi.held permit hp
          exact ⟨p, List.mem_append_left _ hmem, hmatch⟩
        · rw [List.mem_singleton.mp hp]
          exact ⟨_, List.mem_append_right _ (List.mem_singleton.mpr rfl),
            PreparationRow.matches_iff.mpr ⟨rfl, rfl, rfl, rfl, rfl, rfl, rfl⟩⟩
  | @entered permit sample early kind store effective holds done =>
      obtain ⟨clock, revision, observed, happlied, hinsert⟩ := done.inserted
      obtain ⟨hexact, hnew, rfl⟩ := insertResolution_ok hinsert
      have hobserved : ∀ p ∈ s.store.preparations, ∃ o, p.observedIn clock o :=
        fun p hp => (hi.observed p hp).imp fun o ho => observedIn_mono hadvanced ho
      refine ⟨htime, hhistory, hi.prepared, nodup_map_concat hi.resolved fun r hr => (hnew r hr).1, ?_,
        hobserved, ?_, hi.held⟩
      · -- the one pending marker is the resolved one
        refine .inl ?_
        show s.store.pending.filter _ = []
        rw [done.alone]
        simp
      · intro r hr
        rcases List.mem_append.mp hr with hr | hr
        · exact (hi.backed r hr).mono hadvanced fun p hp => hp
        · rw [List.mem_singleton.mp hr]
          have hbacked : ResolutionBacked (s.store.withClock clock) _ :=
            resolutionExact_backed hl'.sorted hhistory hobserved hexact
          exact hbacked

/-! ## 4. An uncertain time -/

theorem lockedEffective_uncertain (h : clock.Uncertain) (observed : Option Int) :
    lockedEffective clock.state observed = none := by
  obtain ⟨state, hs, hc⟩ := h
  cases he : lockedEffective clock.state observed with
  | none => rfl
  | some effective =>
      obtain ⟨state', _, _, hs', hc', _⟩ := lockedEffective_some he
      rw [hs] at hs'
      obtain rfl := Option.some.inj hs'
      rw [hc] at hc'
      cases hc'

/-- An assessment of an uncertain time hands nothing out. -/
theorem handed_uncertain {a : TimeAssessment} {unresolved : Bool} (h : clock.Uncertain)
    (k : applySampleInTransactionWithUnresolved env clock sample unresolved = .ok (clock', a)) :
    a.handed env = none := by
  obtain ⟨state, hs, hc⟩ := h
  obtain ⟨old, hold, _, _, rfl⟩ := applySample_ok k
  rw [hs] at hold
  obtain rfl := Option.some.inj hold
  have hconf : (sampleRow env state sample unresolved).confidence = .timeUncertain :=
    sampleVerdict_uncertain hc
  unfold TimeAssessment.handed TimeAssessment.requireTrustedTime
  rw [hconf]
  rfl

/-- Nothing was handed out, prepared or entered. -/
structure Frozen (before after : TimeSystem) : Prop where
  handed : after.handed = before.handed
  preparations : after.store.preparations = before.store.preparations
  entered : ∀ r ∈ after.store.resolutions, r.resolutionKind = .effectInvoked →
    r ∈ before.store.resolutions

theorem Frozen.refl (s : TimeSystem) : Frozen s s := ⟨rfl, rfl, fun _ hr _ => hr⟩

theorem Frozen.trans {a b c : TimeSystem} (h : Frozen a b) (k : Frozen b c) : Frozen a c :=
  ⟨k.handed.trans h.handed, k.preparations.trans h.preparations,
    fun r hr hk => h.entered r (k.entered r hr hk) hk⟩

theorem captureLocked_uncertain {permitted : Option String} {o : LockedTimeObservation}
    {store : TimeStore} (h : store.clock.Uncertain)
    (k : captureLockedWithPermit env store sample permitted = .ok o) : o.effectiveNanos = none := by
  rw [(captureLockedWithPermit_ok k).2.2]
  exact lockedEffective_uncertain h _

theorem perform_frozen (h : s.store.clock.Uncertain) (k : s.perform env op = .ok t) : Frozen s t := by
  cases op with
  | assess sample =>
      simp only [TimeSystem.perform, bind_eq_ok'] at k
      obtain ⟨⟨store, a⟩, hassess, k⟩ := k
      obtain rfl := Except.ok.inj k
      obtain ⟨_, clock, happly, rfl⟩ := assess_ok hassess
      refine ⟨?_, rfl, fun _ hr _ => hr⟩
      show s.handed ++ (a.handed env).toList = s.handed
      rw [handed_uncertain h happly]
      exact List.append_nil _
  | startup sample =>
      simp only [TimeSystem.perform, bind_eq_ok'] at k
      obtain ⟨⟨store, a⟩, hassess, k⟩ := k
      obtain rfl := Except.ok.inj k
      obtain ⟨_, clock, happly, rfl⟩ := assessSampleWithPendingPolicy_ok hassess
      exact ⟨rfl, rfl, fun _ hr _ => hr⟩
  | record observation =>
      simp only [TimeSystem.perform, bind_eq_ok'] at k
      obtain ⟨⟨store, a⟩, hassess, k⟩ := k
      obtain rfl := Except.ok.inj k
      obtain ⟨_, clock, happly, rfl⟩ := assessSampleWithPendingPolicy_ok hassess
      exact ⟨rfl, rfl, fun _ hr _ => hr⟩
  | guarded sample again =>
      simp only [TimeSystem.perform, bind_eq_ok'] at k
      obtain ⟨⟨store, effective⟩, hprotected, _⟩ := k
      have he := (withProtected_ok hprotected).2.1
      rw [lockedEffective_uncertain h] at he
      cases he
  | observed sample =>
      simp only [TimeSystem.perform, withProtectedObservation, LockedTimeObservation.requireTrustedTime,
        bind_eq_ok', expect_ok] at k
      obtain ⟨_, ⟨fresh, hfresh, _, ⟨nanos, he, _⟩, _⟩, _⟩ := k
      rw [captureLocked_uncertain h hfresh] at he
      cases he
  | prepare lease subject sample markerId =>
      simp only [TimeSystem.perform, bind_eq_ok'] at k
      obtain ⟨⟨store, permit, effective⟩, hprepare, _⟩ := k
      have he := (prepareExternalEffect_ok hprepare).timed
      rw [lockedEffective_uncertain h] at he
      cases he
  | enter permit sample early kind =>
      simp only [TimeSystem.perform, bind_eq_ok', exists_unit] at k
      obtain ⟨_, ⟨store, effective⟩, henter, k⟩ := k
      obtain rfl := Except.ok.inj k
      have hentered := enterExternalEffect_ok henter
      obtain ⟨clock, revision, observed, _, hinsert⟩ := hentered.inserted
      obtain ⟨hexact, _, rfl⟩ := insertResolution_ok hinsert
      have htimed := hentered.timed
      rw [lockedEffective_uncertain h, ite_self] at htimed
      subst htimed
      refine ⟨List.append_nil _, rfl, fun r hr hk => ?_⟩
      rcases List.mem_append.mp hr with hr | hr
      · exact hr
      · rw [List.mem_singleton.mp hr] at hk
        cases hentered.trusted hk
  | claim ownerId =>
      obtain rfl := Except.ok.inj k
      exact ⟨rfl, rfl, fun _ hr _ => hr⟩
  | crash ownerId =>
      obtain rfl := Except.ok.inj k
      exact ⟨rfl, rfl, fun _ hr _ => hr⟩

/-! ## 5. Whole runs -/

/-- What holds in every state: one marker pending at most, not resolved before; one resolution for a
    marker at most, on an observation that is not earlier than the one of the preparation. -/
structure FenceSound (s : TimeSystem) : Prop where
  one : s.store.pending.length ≤ 1
  waiting : ∀ id ∈ s.store.pending, (∃ p ∈ s.store.preparations, p.markerId = id) ∧
    ∀ r ∈ s.store.resolutions, r.markerId ≠ id
  once : (s.store.resolutions.map ResolutionRow.markerId).Nodup
  backed : ∀ r ∈ s.store.resolutions, ResolutionBacked s.store r

/-- What one step can do: with a marker pending only its own permit is given a time, and a
    resolution is added by a held permit that says what the preparation says, under its lease. -/
structure FenceStep (s : TimeSystem) (op : TimeOp) (t : TimeSystem) : Prop where
  fenced : ∀ id, s.store.pending = [id] → t.store.preparations = s.store.preparations ∧
    (t.handed ≠ s.handed → ∃ permit sample early, op = .enter permit sample early .effectInvoked ∧
      permit.markerId = id)
  resolved : t.store.resolutions = s.store.resolutions ∨
    ∃ permit sample early r, op = .enter permit sample early r.resolutionKind ∧ permit ∈ s.permits ∧
      t.store.resolutions = s.store.resolutions ++ [r] ∧ r.markerId = permit.markerId ∧
      s.store.pending = [permit.markerId] ∧ t.store.pending = [] ∧
      s.store.lease = some ⟨permit.ownerId, permit.ownerEpoch⟩ ∧
      ∃ p ∈ s.store.preparations, p.matches permit = true

/-- A startup that finds a marker makes the time uncertain, and nothing is handed out, prepared or
    entered from then on. It fails only where the revisions are used up. -/
def StartupLatches (env : TimeEnv) (s : TimeSystem) : Prop :=
  ∀ sample, s.store.pending ≠ [] →
    match s.perform env (.startup sample) with
    | .ok t => t.store.clock.Uncertain ∧ ∀ later : List TimeOp,
        (later.foldl (TimeSystem.step env) t).store.clock.Uncertain ∧
          Frozen s (later.foldl (TimeSystem.step env) t)
    | .error _ => maxI64 ≤ s.store.clock.observations.length

theorem FenceInv.step (hi : FenceInv s) : FenceInv (s.step env op) := by
  unfold TimeSystem.step
  cases h : s.perform env op with
  | error e => exact hi
  | ok t => exact hi.perform h

theorem FenceInv.run (ops : List TimeOp) (hi : FenceInv s) :
    FenceInv (ops.foldl (TimeSystem.step env) s) := by
  induction ops generalizing s with
  | nil => exact hi
  | cons op rest ih => exact ih hi.step

theorem FenceInv.sound (hi : FenceInv s) : FenceSound s := by
  refine ⟨?_, ?_, hi.resolved, hi.backed⟩
  · rcases hi.one with h | ⟨p, _, h, _⟩
    · rw [h]
      exact Nat.zero_le 1
    · rw [h]
      exact le_refl 1
  · intro id hid
    rcases hi.one with h | ⟨p, hp, h, hr⟩
    · rw [h] at hid
      cases hid
    · rw [h, List.mem_singleton] at hid
      subst hid
      exact ⟨⟨p, hp, rfl⟩, hr⟩

theorem perform_fenceStep (h : s.perform env op = .ok t) : FenceStep s op t := by
  cases perform_markerStep h with
  | clocked samples fenced =>
      refine ⟨fun id hid => ⟨rfl, fun hne => absurd (fenced ?_) hne⟩, .inl rfl⟩
      rw [hid]
      exact List.cons_ne_nil _ _
  | moved lost => exact ⟨fun id hid => ⟨rfl, fun hne => absurd rfl hne⟩, .inl rfl⟩
  | prepared done =>
      obtain ⟨clock, revision, observed, _, _, hinsert⟩ := done.inserted
      obtain ⟨_, _, _, _, rfl⟩ := insertPreparation_ok hinsert
      refine ⟨fun id hid => ?_, .inl rfl⟩
      rw [done.idle] at hid
      cases hid
  | @entered permit sample early kind store effective holds done =>
      obtain ⟨clock, revision, observed, _, hinsert⟩ := done.inserted
      obtain ⟨_, _, rfl⟩ := insertResolution_ok hinsert
      obtain ⟨hlease, p, hp, hmatch, _⟩ := permitMatchesLocked_ok done.matched
      refine ⟨fun id hid => ⟨rfl, fun hne => ?_⟩,
        .inr ⟨permit, sample, early, _, rfl, holds, rfl, rfl, done.alone, ?_, hlease, p, hp, hmatch⟩⟩
      · rw [done.alone] at hid
        cases kind with
        | effectInvoked => exact ⟨permit, sample, early, rfl, List.head_eq_of_cons_eq hid⟩
        | noEffect =>
            have htimed := done.timed
            rw [if_neg (by decide)] at htimed
            subst htimed
            exact absurd (List.append_nil _) hne
      · show s.store.pending.filter _ = []
        rw [done.alone]
        simp

theorem step_fenceStep : FenceStep s op (s.step env op) := by
  unfold TimeSystem.step
  cases h : s.perform env op with
  | error e => exact ⟨fun id _ => ⟨rfl, fun hne => absurd rfl hne⟩, .inl rfl⟩
  | ok t => exact perform_fenceStep h

/-- An uncertain time stays uncertain and frozen. -/
theorem frozen_run (later : List TimeOp) (hi : TimeInv s) (h : s.store.clock.Uncertain) :
    (later.foldl (TimeSystem.step env) s).store.clock.Uncertain ∧
      Frozen s (later.foldl (TimeSystem.step env) s) := by
  induction later generalizing s with
  | nil => exact ⟨h, .refl s⟩
  | cons op rest ih =>
      obtain ⟨hnext, hon⟩ := hi.step op
      have hfrozen : Frozen s (s.step env op) := by
        unfold TimeSystem.step
        cases k : s.perform env op with
        | error e => exact .refl s
        | ok t => exact perform_frozen h k
      obtain ⟨hu, hrest⟩ := ih hnext (hon.clock.uncertain h)
      exact ⟨hu, hfrozen.trans hrest⟩

theorem TimeInv.startup_latches (hi : TimeInv s) : StartupLatches env s := by
  intro sample hpending
  obtain ⟨state, hl⟩ := hi.ledger
  have hfull : s.store.pending.isEmpty = false := by
    cases hp : s.store.pending with
    | nil => exact absurd hp hpending
    | cons id rest => rfl
  cases h : s.perform env (.startup sample) with
  | ok t =>
      have hi' : TimeInv t := (perform_timeStep hl h).inv hi
      simp only [TimeSystem.perform, bind_eq_ok'] at h
      obtain ⟨⟨store, a⟩, hassess, h⟩ := h
      obtain rfl := Except.ok.inj h
      obtain ⟨_, clock, happly, rfl⟩ := assessSampleWithPendingPolicy_ok hassess
      rw [hfull] at happly
      obtain ⟨rfl, -⟩ := hl.sampled happly
      have hu : (s.store.clock.add (sampleRow env state sample true)).Uncertain :=
        ⟨_, rfl, sampleVerdict_unresolved⟩
      refine ⟨hu, fun later => ?_⟩
      obtain ⟨hlater, hfrozen⟩ := frozen_run later hi' hu
      refine ⟨hlater, Frozen.trans ?_ hfrozen⟩
      exact ⟨rfl, rfl, fun _ hr _ => hr⟩
  | error e =>
      show maxI64 ≤ s.store.clock.observations.length
      rw [hl.length]
      by_contra hn
      have hok : ∃ r, applySampleInTransactionWithUnresolved env s.store.clock sample true = .ok r :=
        hl.apply_ok_iff.mpr (by omega)
      obtain ⟨r, hr⟩ := hok
      simp only [TimeSystem.perform, startupAssess, assessSampleWithPendingPolicy, hfull, hr,
        rejectIf, ok_bind, reduceCtorEq, decide_false, decide_true, Bool.false_and, Bool.true_and,
        Bool.not_false, Bool.false_eq_true, if_false] at h
      cases h

/-- **Markers are one at a time and one shot**, in every run of any number of managers. -/
theorem markers_one_shot (env : TimeEnv) (ops : List TimeOp) :
    FenceSound (TimeSystem.run env ops) ∧
      (∀ op, FenceStep (TimeSystem.run env ops) op ((TimeSystem.run env ops).step env op)) ∧
      StartupLatches env (TimeSystem.run env ops) := by
  have hi : FenceInv (TimeSystem.run env ops) := FenceInv.initial.run ops
  exact ⟨hi.sound, fun op => step_fenceStep, hi.time.startup_latches⟩

end Aios.Tasks
