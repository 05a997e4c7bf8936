/-
  File:      Aios/Policy/Atomic.lean
  Subject:   FINALISATION IS ATOMIC: in every run, a candidate is either pending and nothing of it exists,
             or final and everything of it does; and a second finalisation returns the first result.

  The invariant is `Sound`. Its step has three cases (`perform_cases`): an operation that writes nothing
  of any candidate, a reservation, and a finalisation.
-/
import Aios.Policy.Replay

namespace Aios.Policy

open Lib Provenance

/-! ## 1. The invariant -/

/-- The candidate is final. -/
def Final (s : PolicyStore) (id : String) : Prop :=
  ∃ st, (s.statuses.find? fun st => st.candidateId = id) = some st ∧ st.state = .finalized

/-- The identities are those of a final candidate. -/
def OfFinal (s : PolicyStore) (bindingId attemptId : String) : Prop :=
  ∃ c ∈ s.reservations, Final s c.candidateId ∧ c.bindingId = bindingId ∧ c.attemptId = attemptId

def ResourceRow.IsOutput (r : ResourceRow) : Prop := r.resourceKind = "output-allocation"

structure Sound (env : PolicyEnv) (s : PolicyStore) : Prop where
  identities : ∀ c ∈ s.reservations, ∀ c' ∈ s.reservations,
    c.candidateId = c'.candidateId ∨ c.bindingId = c'.bindingId ∨ c.attemptId = c'.attemptId → c = c'
  statusesOnce : (s.statuses.map StatusRow.candidateId).Nodup
  statuses : ∀ c ∈ s.reservations, ∃ st, (s.statuses.find? fun st => st.candidateId = c.candidateId) = some st ∧
    ((st.state = .pending ∧ st.revision = 1) ∨ st.state = .finalized)
  resources : ∀ r ∈ s.resources, ∃ c ∈ s.reservations, c.candidateId = r.candidateId
  outputs : ∀ r ∈ s.resources, r.IsOutput → r.action = "artifact.write"
  outputsOnce : ∀ r ∈ s.resources, ∀ r' ∈ s.resources, r.IsOutput → r'.IsOutput →
    r.resourceId = r'.resourceId → r.candidateId = r'.candidateId
  grants : ∀ g ∈ s.grants, OfFinal s g.executionBindingId g.attemptId
  issuances : ∀ i ∈ s.issuances, OfFinal s i.executionBindingId i.attemptId
  deadlines : ∀ d ∈ s.deadlines, OfFinal s d.executionBindingId d.attemptId
  bindings : ∀ b ∈ s.bindings, OfFinal s b.bindingId b.attemptId
  steps : ∀ x ∈ s.steps, ∀ c ∈ s.reservations, x.attemptId = c.attemptId → Final s c.candidateId
  allocations : ∀ a ∈ s.allocations, ∀ r ∈ s.resources, r.IsOutput → r.resourceId = a.allocationId →
    Final s r.candidateId
  replays : ∀ c ∈ s.reservations, Final s c.candidateId →
    ∃ result, replayFinalizedCandidate env s c.candidateId = .ok (some result)

theorem sound_initial (env : PolicyEnv) (world : World) : Sound env (.initial world) := by
  constructor <;> simp [PolicyStore.initial]

section Steps

variable {env : PolicyEnv} {a b : PolicyStore}

theorem Final.evolves (h : Evolves a b) {id : String} (hf : Final a id) : Final b id := by
  obtain ⟨st, hst, hstate⟩ := hf
  exact ⟨st, h.statuses id st hst (by rw [hstate]; decide), hstate⟩

theorem OfFinal.evolves (h : Evolves a b) {bindingId attemptId : String} (hf : OfFinal a bindingId attemptId) :
    OfFinal b bindingId attemptId := by
  obtain ⟨c, hc, hfinal, hids⟩ := hf
  exact ⟨c, h.reservations.subset hc, hfinal.evolves h, hids⟩

/-- A pending candidate is not final. -/
theorem not_final_of_pending {id : String} (hp : a.loadView.state? id = some .pending) : ¬ Final a id := by
  rintro ⟨st, hst, hstate⟩
  have hp' : ((a.statuses.find? fun st => st.candidateId = id).map StatusRow.state) = some .pending := hp
  rw [hst] at hp'
  have hpending : st.state = .pending := Option.some.inj hp'
  rw [hstate] at hpending
  cases hpending

/-- A reservation is found under its identity. -/
theorem Sound.find_reservation (h : Sound env a) {c : ReservationRow} (hc : c ∈ a.reservations) :
    a.loadView.reservation? c.candidateId = some c := by
  obtain ⟨x, hx⟩ : ∃ x, a.loadView.reservation? c.candidateId = some x := by
    rw [← Option.isSome_iff_exists]
    exact List.find?_isSome.mpr ⟨c, hc, by simp⟩
  have hid : x.candidateId = c.candidateId := by simpa using List.find?_some hx
  rw [hx, h.identities x (List.mem_of_find?_eq_some hx) c hc (.inl hid)]

/-- No binding has an identity of a candidate that is pending. -/
theorem Sound.no_binding_of_pending (h : Sound env a) {c : ReservationRow} (hc : c ∈ a.reservations)
    (hp : a.loadView.state? c.candidateId = some .pending) {x : BindingRow} (hx : x ∈ a.bindings)
    (hid : x.bindingId = c.bindingId) : False := by
  obtain ⟨c', hc', hfinal, hbinding, -⟩ := h.bindings x hx
  obtain rfl := h.identities c' hc' c hc (.inr (.inl (hbinding.trans hid)))
  exact not_final_of_pending hp hfinal

/-! ## 2. An operation that writes nothing of a candidate -/

theorem mem_of_map_eq {α : Type} {l r : List α} {k : α → α} (h : r.map k = l.map k) {x : α} (hx : x ∈ r) :
    ∃ y ∈ l, k y = k x := by
  have hmem : k x ∈ l.map k := h ▸ List.mem_map_of_mem hx
  exact List.mem_map.mp hmem

theorem Sound.quiet (h : Sound env a) (hev : Evolves a b) (hq : Quiet a b) : Sound env b := by
  have hfinal : ∀ id, Final b id ↔ Final a id := fun id => by unfold Final; rw [hq.statuses]
  refine { h with
    identities := hq.reservations ▸ h.identities, statusesOnce := hq.statuses ▸ h.statusesOnce
    statuses := ?_, resources := ?_, outputs := hq.resources ▸ h.outputs
    outputsOnce := hq.resources ▸ h.outputsOnce, grants := ?_
    issuances := ?_, deadlines := ?_, bindings := ?_, steps := ?_, allocations := ?_, replays := ?_ }
  · rw [hq.reservations, hq.statuses]
    exact h.statuses
  · rw [hq.resources, hq.reservations]
    exact h.resources
  · intro g hg
    obtain ⟨g', hg', he⟩ := mem_of_map_eq hq.grants hg
    have hbinding : g'.executionBindingId = g.executionBindingId := (congrArg GrantRow.executionBindingId he :)
    have hattempt : g'.attemptId = g.attemptId := (congrArg GrantRow.attemptId he :)
    rw [← hbinding, ← hattempt]
    exact (h.grants g' hg').evolves hev
  · rw [hq.issuances]
    exact fun i hi => (h.issuances i hi).evolves hev
  · rw [hq.deadlines]
    exact fun d hd => (h.deadlines d hd).evolves hev
  · rw [hq.bindings]
    exact fun x hx => (h.bindings x hx).evolves hev
  · intro x hx c hc hid
    rw [hq.reservations] at hc
    rw [hfinal]
    rcases hq.steps x hx with ⟨y, hy, he⟩ | hguard
    · have hattempt : y.attemptId = x.attemptId := (congrArg StepRow.attemptId he :)
      exact h.steps y hy c hc (hattempt.trans hid)
    · -- the trigger asks for a binding of a pending candidate, and there is none
      simp only [stepGuard, List.all_eq_true, Bool.or_eq_true, Bool.and_eq_true, decide_eq_true_eq,
        Bool.not_eq_true', List.any_eq_true] at hguard
      rcases hguard c hc with hfree | ⟨⟨⟨hp, -⟩, -⟩, bound, hbound, hfields⟩
      · simp [stepCollides, hid] at hfree
      · exact absurd (h.no_binding_of_pending hc hp hbound hfields.1.1.1.1.1) id
  · intro x hx r hr hout hid
    rw [hq.resources] at hr
    rw [hfinal]
    rcases hq.allocations x hx with ⟨y, hy, he⟩ | hguard
    · have hsame : y.allocationId = x.allocationId := (congrArg AllocationRow.allocationId he :)
      exact h.allocations y hy r hr hout (hid.trans hsame.symm)
    · obtain ⟨c, hc, hcid⟩ := h.resources r hr
      simp only [allocationGuard, List.all_eq_true, Bool.or_eq_true] at hguard
      rcases hguard r hr with hfree | hguard
      · have hkind : r.resourceKind = "output-allocation" := hout
        simp [hkind, hid] at hfree
      · rw [← hcid, h.find_reservation hc] at hguard
        simp only [Option.all_some, Bool.and_eq_true, decide_eq_true_eq, List.any_eq_true] at hguard
        obtain ⟨⟨hp, -⟩, bound, hbound, hfields⟩ := hguard
        exact absurd (h.no_binding_of_pending hc hp hbound hfields.1) id
  · intro c hc hf
    rw [hq.reservations] at hc
    obtain ⟨result, hr⟩ := h.replays c hc ((hfinal _).mp hf)
    exact ⟨result, replayFinalizedCandidate_evolves hev hr⟩

end Steps

/-! ## 3. A reservation -/

section Reserve

variable {env : PolicyEnv} {a b : PolicyStore}

/-- A reservation makes no candidate final. -/
theorem final_of_insert {c : ReservationRow} {id : String}
    (hb : b.statuses = a.statuses ++ [⟨c.candidateId, 1, .pending⟩]) (h : Final b id) : Final a id := by
  obtain ⟨st, hst, hstate⟩ := h
  rw [hb, List.find?_append] at hst
  cases hfound : a.statuses.find? fun st => st.candidateId = id with
  | some x =>
      rw [hfound] at hst
      exact ⟨st, hfound.trans hst, hstate⟩
  | none =>
      rw [hfound, Option.none_or] at hst
      have hnew := List.mem_singleton.mp (List.mem_of_find?_eq_some hst)
      rw [hnew] at hstate
      cases hstate

theorem Sound.insertReservation {c : ReservationRow} {acc : Resolved} (h : Sound env a)
    (hkinds : ∀ r ∈ acc.rows, r.IsOutput → r.action = "artifact.write")
    (hins : insertReservation a c acc = .ok b) : Sound env b := by
  have hev := (insertReservation_ok hins).evolves
  simp only [Policy.insertReservation, bind_eq_ok', exists_unit, rejectIf_ok] at hins
  obtain ⟨hguard, hb⟩ := hins
  simp only [Bool.or_eq_false_iff, Bool.not_eq_false'] at hguard
  obtain ⟨⟨⟨hres, hrows⟩, -⟩, hstatus⟩ := hguard
  simp only [reservationInsertable, Bool.and_eq_true, List.all_eq_true, decide_eq_true_eq] at hres
  obtain ⟨⟨hfresh, -⟩, hsteps⟩ := hres
  simp only [resourcesInsertable, Bool.and_eq_true, List.all_eq_true, decide_eq_true_eq, Bool.or_eq_true]
    at hrows
  obtain ⟨⟨⟨⟨⟨howned, hothers⟩, -⟩, -⟩, houts⟩, -⟩ := hrows
  simp only [statusInsertable, List.all_eq_true, decide_eq_true_eq] at hstatus
  have hback : ∀ id, Final b id → Final a id :=
    fun id => final_of_insert (c := c) (by rw [← Except.ok.inj hb])
  obtain rfl := Except.ok.inj hb
  refine ⟨?_, ?_, ?_, ?_, ?_, ?_, ?_, ?_, ?_, ?_, ?_, ?_, ?_⟩
  · intro x hx y hy he
    rcases List.mem_append.mp hx with hx | hx <;> rcases List.mem_append.mp hy with hy | hy
    · exact h.identities x hx y hy he
    · rw [List.mem_singleton.mp hy] at he
      have hne := hfresh x hx
      rcases he with he | he | he
      · exact absurd he hne.1.1.1
      · exact absurd he hne.1.1.2
      · exact absurd he hne.1.2
    · rw [List.mem_singleton.mp hx] at he
      have hne := hfresh y hy
      rcases he with he | he | he
      · exact absurd he.symm hne.1.1.1
      · exact absurd he.symm hne.1.1.2
      · exact absurd he.symm hne.1.2
    · rw [List.mem_singleton.mp hx, List.mem_singleton.mp hy]
  · show ((a.statuses ++ [_]).map _).Nodup
    rw [List.map_append]
    refine List.nodup_append.mpr ⟨h.statusesOnce, List.nodup_singleton _, ?_⟩
    intro x hx y hy
    obtain ⟨st, hst, rfl⟩ := List.mem_map.mp hx
    rw [List.mem_singleton.mp hy]
    exact hstatus st hst
  · intro x hx
    rcases List.mem_append.mp hx with hx | hx
    · obtain ⟨st, hst, hstate⟩ := h.statuses x hx
      refine ⟨st, ?_, hstate⟩
      show (a.statuses ++ [_]).find? _ = _
      rw [List.find?_append, hst]
      rfl
    · rw [List.mem_singleton.mp hx]
      refine ⟨⟨c.candidateId, 1, .pending⟩, ?_, .inl ⟨rfl, rfl⟩⟩
      show (a.statuses ++ [_]).find? _ = _
      have hnone : (a.statuses.find? fun st => decide (st.candidateId = c.candidateId)) = none := by
        rw [List.find?_eq_none]
        intro st hst
        simpa using hstatus st hst
      rw [List.find?_append, hnone]
      simp
  · intro r hr
    rcases List.mem_append.mp hr with hr | hr
    · obtain ⟨x, hx, hid⟩ := h.resources r hr
      exact ⟨x, List.mem_append_left _ hx, hid⟩
    · exact ⟨c, List.mem_append_right _ (List.mem_singleton_self _), (howned r hr).symm⟩
  · intro r hr hout
    rcases List.mem_append.mp hr with hr | hr
    · exact h.outputs r hr hout
    · exact hkinds r hr hout
  · intro r hr r' hr' hout hout' hid
    rcases List.mem_append.mp hr with hr | hr <;> rcases List.mem_append.mp hr' with hr' | hr'
    · exact h.outputsOnce r hr r' hr' hout hout' hid
    · rcases houts r' hr' with hkind | hnew
      · exact absurd hout' hkind
      · rcases hnew.1 r hr with hkind | hne
        · exact absurd hout hkind
        · exact absurd hid hne
    · rcases houts r hr with hkind | hnew
      · exact absurd hout hkind
      · rcases hnew.1 r' hr' with hkind | hne
        · exact absurd hout' hkind
        · exact absurd hid.symm hne
    · rw [howned r hr, howned r' hr']
  · exact fun g hg => (h.grants g hg).evolves hev
  · exact fun i hi => (h.issuances i hi).evolves hev
  · exact fun d hd => (h.deadlines d hd).evolves hev
  · exact fun x hx => (h.bindings x hx).evolves hev
  · intro x hx y hy hid
    rcases List.mem_append.mp hy with hy | hy
    · exact (h.steps x hx y hy hid).evolves hev
    · rw [List.mem_singleton.mp hy] at hid
      exact absurd hid (hsteps x hx).1.1
  · intro x hx r hr hout hid
    rcases List.mem_append.mp hr with hr | hr
    · exact (h.allocations x hx r hr hout hid).evolves hev
    · rcases houts r hr with hkind | hnew
      · exact absurd hout hkind
      · exact absurd hid.symm (hnew.2 x hx)
  · intro x hx hf
    have hfinal := hback _ hf
    rcases List.mem_append.mp hx with hx | hx
    · obtain ⟨result, hr⟩ := h.replays x hx hfinal
      exact ⟨result, replayFinalizedCandidate_evolves hev hr⟩
    · rw [List.mem_singleton.mp hx] at hfinal
      obtain ⟨st, hst, -⟩ := hfinal
      have hid : st.candidateId = c.candidateId := by simpa using List.find?_some hst
      exact absurd hid (hstatus st (List.mem_of_find?_eq_some hst))

end Reserve

/-! ## 4. A finalisation -/

section Finalise

variable {env : PolicyEnv} {backend : LocalPolicyBackend} {a : PolicyStore} {w : FinalWrites}
  {id createdAt : String}

/-- The finaliser makes its own candidate final. -/
theorem FinalWrites.Checked.final (h : w.Checked env backend a id createdAt) (hs : Sound env a) :
    Final (w.store id createdAt) id := by
  obtain ⟨st, hst, hstate, -, -⟩ := replayFinalizedCandidate_some.mp (h.replays hs.statusesOnce)
  exact ⟨st, hst, hstate⟩

/-- The finaliser makes no other candidate final. -/
theorem FinalWrites.Checked.final_other (h : w.Checked env backend a id createdAt) {other : String}
    (hne : other ≠ id) (hf : Final (w.store id createdAt) other) : Final a other := by
  obtain ⟨st, hst, hstate⟩ := hf
  have hsame : w.evaluated.statuses = a.statuses := by rw [h.evaluated_same]
  have hst' : ((a.statuses.map fun s => if s.isPending id then s.finalized else s).find?
      fun st => st.candidateId = other) = some st := by rw [← hsame]; exact hst
  rw [List.find?_map] at hst'
  obtain ⟨x, hx, rfl⟩ := Option.map_eq_some_iff.mp hst'
  have hxid : x.candidateId = other := by
    have hfound := List.find?_some hx
    simp only [Function.comp, decide_eq_true_eq] at hfound
    split at hfound
    · exact hfound
    · exact hfound
  have hnot : x.isPending id = false := by simp [StatusRow.isPending, hxid, hne]
  rw [hnot] at hstate
  refine ⟨x, ?_, hstate⟩
  rw [← hx]
  congr 1
  funext s
  show _ = decide (StatusRow.candidateId (if _ then _ else _) = other)
  split
  · rfl
  · rfl

/-- An output that is allocated is one of the candidate. -/
theorem FinalWrites.Checked.output_owner (h : w.Checked env backend a id createdAt) (hs : Sound env a)
    {x : AllocationRow} (hx : x ∈ w.outputs) {r : ResourceRow} (hr : r ∈ a.resources) (hout : r.IsOutput)
    (hid : r.resourceId = x.allocationId) : r.candidateId = id := by
  obtain ⟨f, row, hrow, hcand, hkind, he, hfor⟩ := h.output_row hx
  have hrowId : row.resourceId = f.id := (congrArg BindingResource.id he :)
  rw [← hcand]
  exact hs.outputsOnce r hr row hrow hout hkind (hid.trans (hfor.id.trans hrowId.symm))

theorem Sound.finalise (h : Sound env a) (hw : w.Checked env backend a id createdAt) :
    Sound env (w.store id createdAt) := by
  have hev := hw.evolves
  have hfinal := hw.final h
  have hcid := hw.candidateId_eq
  have hcmem : w.facts.candidate ∈ a.reservations := List.mem_of_find?_eq_some hw.reserved
  have hsame := hw.evaluated_same
  have hres : (w.store id createdAt).reservations = a.reservations := by
    show w.evaluated.reservations = _
    rw [hsame]
  have hrows : (w.store id createdAt).resources = a.resources := by
    show w.evaluated.resources = _
    rw [hsame]
  -- whatever carries the identities of the candidate is of a final one
  have hown : OfFinal (w.store id createdAt) w.facts.candidate.bindingId w.facts.candidate.attemptId := by
    refine ⟨w.facts.candidate, by rw [hres]; exact hcmem, ?_, rfl, rfl⟩
    rw [hcid]
    exact hfinal
  have hissued : ∀ entry ∈ w.entries, entry.1.executionBindingId = w.facts.candidate.bindingId ∧
      entry.1.attemptId = w.facts.candidate.attemptId ∧
      entry.2.executionBindingId = entry.1.executionBindingId ∧ entry.2.attemptId = entry.1.attemptId := by
    intro entry hentry
    obtain ⟨r, -, hi⟩ := exists_left_of_forall₂ hw.issued hentry
    obtain ⟨d, json, expires, -, -, -, he⟩ := hi.grant
    obtain ⟨prepared, approval, lease, time, hdead, -⟩ := hi.deadline
    rw [hdead, he]
    exact ⟨rfl, rfl, rfl, rfl⟩
  refine ⟨by rw [hres]; exact h.identities, ?_, ?_, by rw [hres, hrows]; exact h.resources,
    by rw [hrows]; exact h.outputs, by rw [hrows]; exact h.outputsOnce, ?_, ?_, ?_, ?_, ?_, ?_, ?_⟩
  · have hids : (w.store id createdAt).statuses.map StatusRow.candidateId =
        a.statuses.map StatusRow.candidateId := by
      show (w.evaluated.statuses.map _).map _ = _
      rw [hsame, List.map_map]
      refine List.map_congr_left fun s _ => ?_
      show StatusRow.candidateId (if _ then _ else _) = _
      split
      · rfl
      · rfl
    rw [hids]
    exact h.statusesOnce
  · rw [hres]
    intro c hc
    obtain ⟨st, hst, hstate⟩ := h.statuses c hc
    have hst' : (w.evaluated.statuses.find? fun s => s.candidateId = c.candidateId) = some st := by
      rw [hsame]
      exact hst
    refine ⟨_, find?_marked id hst', ?_⟩
    split
    · exact .inr rfl
    · exact hstate
  · intro g hg
    rcases List.mem_append.mp hg with hg | hg
    · exact (h.grants g (by rw [hsame] at hg; exact hg)).evolves hev
    · obtain ⟨entry, hentry, rfl⟩ := List.mem_map.mp hg
      rw [(hissued entry hentry).1, (hissued entry hentry).2.1]
      exact hown
  · intro i hi
    rcases List.mem_append.mp hi with hi | hi
    · exact (h.issuances i (by rw [hsame] at hi; exact hi)).evolves hev
    · obtain ⟨g, hg, rfl⟩ := List.mem_map.mp hi
      obtain ⟨entry, hentry, rfl⟩ := List.mem_map.mp hg
      show OfFinal _ entry.1.executionBindingId entry.1.attemptId
      rw [(hissued entry hentry).1, (hissued entry hentry).2.1]
      exact hown
  · intro d hd
    rcases List.mem_append.mp hd with hd | hd
    · exact (h.deadlines d (by rw [hsame] at hd; exact hd)).evolves hev
    · obtain ⟨entry, hentry, rfl⟩ := List.mem_map.mp hd
      obtain ⟨hbinding, hattempt, hbinding', hattempt'⟩ := hissued entry hentry
      rw [hbinding', hattempt', hbinding, hattempt]
      exact hown
  · intro x hx
    rcases List.mem_append.mp hx with hx | hx
    · exact (h.bindings x (by rw [hsame] at hx; exact hx)).evolves hev
    · rw [List.mem_singleton.mp hx]
      exact hown
  · rw [hres]
    intro x hx c hc hid
    rcases List.mem_append.mp hx with hx | hx
    · exact (h.steps x (by rw [hsame] at hx; exact hx) c hc hid).evolves hev
    · rw [List.mem_singleton.mp hx] at hid
      have hcc := h.identities _ hcmem c hc (.inr (.inr hid))
      rw [← hcc, hcid]
      exact hfinal
  · rw [hrows]
    intro x hx r hr hout hid
    rcases List.mem_append.mp hx with hx | hx
    · exact (h.allocations x (by rw [hsame] at hx; exact hx) r hr hout hid).evolves hev
    · rw [hw.output_owner h hx hr hout hid]
      exact hfinal
  · rw [hres]
    intro c hc hf
    by_cases hother : c.candidateId = id
    · rw [hother]
      exact ⟨_, hw.replays h.statusesOnce⟩
    · obtain ⟨result, hr⟩ := h.replays c hc (hw.final_other hother hf)
      exact ⟨result, replayFinalizedCandidate_evolves hev hr⟩

end Finalise

/-! ## 5. Every run -/

section Runs

variable {env : PolicyEnv}

theorem Sound.perform {a b : PolicyStore} (op : PolicyOp) (hop : perform env a op = .ok b) (h : Sound env a) :
    Sound env b := by
  obtain ⟨hev, hcase⟩ := perform_cases hop
  cases hcase with
  | quiet hq => exact h.quiet hev hq
  | reserved hr =>
      rcases reserveAuthorityCandidate_ok hr with ⟨-, rfl⟩ | ⟨-, w, hw, hins, -⟩
      · exact h
      · refine h.insertReservation (fun r hr hout => ?_) hins
        rcases (resolveAll_ok hw.resolved).2 r hr with hr | hnew
        · cases hr
        · exact hnew.2 hout
  | finalised w hw hb =>
      rw [hb]
      exact h.finalise hw

theorem sound_run (world : World) (ops : List PolicyOp) : Sound env (run env (.initial world) ops) :=
  run_invariant Sound.perform ops (sound_initial env world)

/-- Nothing of the candidate exists but its reservation. -/
structure Untouched (s : PolicyStore) (c : ReservationRow) : Prop where
  pending : ∃ st, (s.statuses.find? fun st => st.candidateId = c.candidateId) = some st ∧
    st.state = .pending ∧ st.revision = 1
  grants : ∀ g ∈ s.grants, g.executionBindingId ≠ c.bindingId ∧ g.attemptId ≠ c.attemptId
  issuances : ∀ i ∈ s.issuances, i.executionBindingId ≠ c.bindingId ∧ i.attemptId ≠ c.attemptId
  deadlines : ∀ d ∈ s.deadlines, d.executionBindingId ≠ c.bindingId ∧ d.attemptId ≠ c.attemptId
  bindings : ∀ b ∈ s.bindings, b.bindingId ≠ c.bindingId ∧ b.attemptId ≠ c.attemptId
  steps : ∀ x ∈ s.steps, x.attemptId ≠ c.attemptId
  allocations : ∀ r ∈ s.resources, r.candidateId = c.candidateId → r.IsOutput →
    ∀ a ∈ s.allocations, a.allocationId ≠ r.resourceId

/-- Everything of the candidate exists: its final status, one binding and one step, a grant with its
    receipt and deadline for each of its resources, and an allocation for each of its outputs. -/
structure Complete (env : PolicyEnv) (s : PolicyStore) (c : ReservationRow)
    (result : FinalizedAuthorityCandidate) : Prop where
  final : ∃ st, (s.statuses.find? fun st => st.candidateId = c.candidateId) = some st ∧
    st.state = .finalized ∧ st.revision = 2
  identities : result.candidateId = c.candidateId ∧ result.bindingId = c.bindingId ∧
    result.attemptId = c.attemptId
  binding : ∃ b ∈ s.bindings, bindingOf c b = true ∧ b.grantRefs = result.grantIds
  step : ∃ x ∈ s.steps, stepOf c x = true
  counted : result.grantIds.Nodup ∧ result.grantIds.length =
    (s.resources.filter fun r => r.candidateId = c.candidateId).length +
      (s.loadView.exportPin? c.candidateId).toList.length
  grants : ∀ id ∈ result.grantIds, ∃ g ∈ s.grants, g.grantId = id ∧ g.executionBindingId = c.bindingId ∧
    g.attemptId = c.attemptId ∧ issuedWith s g = true
  allocations : ∀ r ∈ s.resources, r.candidateId = c.candidateId → r.IsOutput →
    r.resourceId ∈ result.allocationIds ∧ allocationOf s c r.bindingResource = true
  replay : replayFinalizedCandidate env s c.candidateId = .ok (some result)

theorem Sound.untouched {s : PolicyStore} (h : Sound env s) {c : ReservationRow} (hc : c ∈ s.reservations)
    (hnot : ¬ Final s c.candidateId) : Untouched s c := by
  have hfree : ∀ {bindingId attemptId : String}, OfFinal s bindingId attemptId →
      bindingId ≠ c.bindingId ∧ attemptId ≠ c.attemptId := by
    rintro bindingId attemptId ⟨x, hx, hfinal, rfl, rfl⟩
    constructor
    · intro he
      exact hnot (h.identities x hx c hc (.inr (.inl he)) ▸ hfinal)
    · intro he
      exact hnot (h.identities x hx c hc (.inr (.inr he)) ▸ hfinal)
  obtain ⟨st, hst, hstate⟩ := h.statuses c hc
  refine ⟨⟨st, hst, ?_⟩, fun g hg => hfree (h.grants g hg), fun i hi => hfree (h.issuances i hi),
    fun d hd => hfree (h.deadlines d hd), fun b hb => hfree (h.bindings b hb), ?_, ?_⟩
  · rcases hstate with hp | hf
    · exact hp
    · exact absurd ⟨st, hst, hf⟩ hnot
  · intro x hx he
    exact hnot (h.steps x hx c hc he)
  · intro r hr hid hout a ha he
    exact hnot (hid ▸ h.allocations a ha r hr hout he.symm)

theorem Sound.complete {s : PolicyStore} {c : ReservationRow} {result : FinalizedAuthorityCandidate}
    (hs : Sound env s) (hmem : c ∈ s.reservations)
    (h : replayFinalizedCandidate env s c.candidateId = .ok (some result)) : Complete env s c result := by
  have hc := hs.find_reservation hmem
  obtain ⟨st, hst, hstate, hrev, hrows⟩ := replayFinalizedCandidate_some.mp h
  simp only [replayRows, bind_eq_ok', exists_unit, expect_ok, rejectIf_ok] at hrows
  obtain ⟨c', hc', b, hb, hstep, hcounts, hlen, hall, -, hr⟩ := hrows
  obtain rfl : c = c' := Option.some.inj (hc.symm.trans hc')
  obtain rfl := Except.ok.inj hr
  simp only [Bool.or_eq_false_iff, decide_eq_false_iff_not, not_not, Bool.not_eq_false', decide_eq_true_eq,
    List.isEmpty_eq_false_iff] at hcounts
  simp only [decide_eq_false_iff_not, not_not] at hlen
  simp only [Bool.not_eq_false', List.any_eq_true] at hstep
  simp only [Bool.not_eq_false', List.all_eq_true, Bool.and_eq_true, Bool.or_eq_true] at hall
  have hperm := sortOn_perm (fun r : ResourceRow => toLex (r.action, r.semanticSelector))
    (s.resources.filter fun r => r.candidateId = c.candidateId)
  refine ⟨⟨st, hst, hstate, hrev⟩, ⟨rfl, rfl, rfl⟩,
    ⟨b, List.mem_of_find?_eq_some hb, List.find?_some hb, rfl⟩, hstep, ⟨hcounts.1.2, ?_⟩, ?_, ?_, h⟩
  · show b.grantRefs.length = _
    rw [← hlen, bindingResources, List.length_append, List.length_map]
    congr 1
    · exact hperm.length_eq
    · cases s.loadView.exportPin? c.candidateId <;> rfl
  · intro id hid
    obtain ⟨e, he, rfl⟩ : ∃ e ∈ (bindingResources s c.candidateId (s.loadView.exportPin? c.candidateId)).zip
        (b.grantRefs.zip b.policyDecisionRefs), e.2.1 = id := by
      have hzip : (b.grantRefs.zip b.policyDecisionRefs).map Prod.fst = b.grantRefs :=
        List.map_fst_zip (le_of_eq hcounts.1.1.1.2)
      have hzip' : ((bindingResources s c.candidateId (s.loadView.exportPin? c.candidateId)).zip
          (b.grantRefs.zip b.policyDecisionRefs)).map Prod.snd = b.grantRefs.zip b.policyDecisionRefs := by
        refine List.map_snd_zip ?_
        rw [List.length_zip, hlen]
        omega
      have hid' : id ∈ ((bindingResources s c.candidateId (s.loadView.exportPin? c.candidateId)).zip
          (b.grantRefs.zip b.policyDecisionRefs)).map (Prod.fst ∘ Prod.snd) := by
        rw [← List.map_map, hzip', hzip]
        exact hid
      exact List.mem_map.mp hid'
    obtain ⟨hgrant, -⟩ := hall e he
    simp only [grantComplete, Bool.and_eq_true, List.any_eq_true, decide_eq_true_eq] at hgrant
    obtain ⟨⟨⟨g, hg, hfields⟩, -⟩, -⟩ := hgrant
    exact ⟨g, hg, hfields.1.1.1.1.1.1.1.1, hfields.1.1.2, hfields.1.2, hfields.2⟩
  · intro r hr hid hout
    have hwrite := hs.outputs r hr hout
    have hrow : r ∈ s.loadView.resourcesOf c.candidateId :=
      hperm.mem_iff.mpr (List.mem_filter.mpr ⟨hr, by simpa using hid⟩)
    have hmem : r.bindingResource ∈ bindingResources s c.candidateId (s.loadView.exportPin? c.candidateId) :=
      List.mem_append_left _ (List.mem_map_of_mem hrow)
    have hkind : r.resourceKind = "output-allocation" := hout
    have hisOut : r.bindingResource.isOutput = true := by
      simp [BindingResource.isOutput, ResourceRow.bindingResource, hwrite, hkind]
    refine ⟨List.mem_map.mpr ⟨_, List.mem_filter.mpr ⟨hmem, hisOut⟩, rfl⟩, ?_⟩
    obtain ⟨e, he, heq⟩ : ∃ e ∈ (bindingResources s c.candidateId (s.loadView.exportPin? c.candidateId)).zip
        (b.grantRefs.zip b.policyDecisionRefs), e.1 = r.bindingResource := by
      have hzip : ((bindingResources s c.candidateId (s.loadView.exportPin? c.candidateId)).zip
          (b.grantRefs.zip b.policyDecisionRefs)).map Prod.fst =
          bindingResources s c.candidateId (s.loadView.exportPin? c.candidateId) := by
        refine List.map_fst_zip ?_
        rw [List.length_zip, hlen]
        omega
      rw [← hzip] at hmem
      exact List.mem_map.mp hmem
    have hout' := (hall e he).2
    rw [heq, hisOut] at hout'
    rcases hout' with hfalse | hfound
    · cases hfalse
    · exact hfound

/-- **FINALISATION IS ATOMIC AND REPLAYABLE.** In every state a run reaches, whatever calls failed or
    died on the way:
    * of every candidate there is nothing but its pending reservation, or all of it;
    * what one call of the finaliser returned, every later call and the replay return again, from any
      later state, and write nothing;
    * no two candidates for one attempt are final. -/
theorem finalisation_atomic (env : PolicyEnv) (world : World) (ops : List PolicyOp) :
    let s := run env (.initial world) ops
    (∀ c ∈ s.reservations, Untouched s c ∨ ∃ result, Complete env s c result) ∧
    (∀ (call : CallContext) (candidateId : String) (time : Tasks.ProtectedTimeContext) (s' : PolicyStore)
        (result : FinalizedAuthorityCandidate),
      finalizePendingAuthorityCandidate env call.outside call.backend time call.lease s candidateId
        call.started = .ok (s', result) →
      ∀ later : List PolicyOp, let t := run env s' later
        replayFinalizedCandidate env t candidateId = .ok (some result) ∧
        ∀ (again : CallContext) (time' : Tasks.ProtectedTimeContext),
          finalizePendingAuthorityCandidate env again.outside again.backend time' again.lease t candidateId
            again.started = .ok (t, result)) ∧
    ∀ c ∈ s.reservations, ∀ c' ∈ s.reservations, c.attemptId = c'.attemptId →
      Final s c.candidateId → Final s c'.candidateId → c = c' := by
  intro s
  have hs : Sound env s := sound_run world ops
  refine ⟨?_, ?_, ?_⟩
  · intro c hc
    by_cases hfinal : Final s c.candidateId
    · obtain ⟨result, hr⟩ := hs.replays c hc hfinal
      exact .inr ⟨result, hs.complete hc hr⟩
    · exact .inl (hs.untouched hc hfinal)
  · intro call candidateId time s' result hcall later t
    have hfirst : replayFinalizedCandidate env s' candidateId = .ok (some result) := by
      rcases finalize_cases hcall with ⟨hr, rfl⟩ | ⟨w, hw, rfl, rfl⟩
      · exact hr
      · exact hw.replays hs.statusesOnce
    have hlater : replayFinalizedCandidate env t candidateId = .ok (some result) :=
      replayFinalizedCandidate_evolves (run_evolves s' later) hfirst
    exact ⟨hlater, fun again time' => finalize_of_replay hlater⟩
  · intro c hc c' hc' hid _ _
    exact hs.identities c hc c' hc' (.inr (.inr hid))

end Runs

end Aios.Policy
