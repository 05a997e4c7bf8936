/-
  File:      Aios/Policy/Replay.lean
  Subject:   THE REPLAY of a finalisation: it returns what the finaliser returned, right after it
             (`FinalWrites.Checked.replays`) and however the ledger evolves from there
             (`replayFinalizedCandidate_evolves`).
-/
import Aios.Lib.Keyed
import Aios.Policy.Run

namespace Aios.Policy

open Lib Provenance

/-! ## 1. Rows that are found again -/

section Lists

variable {α β γ δ ε : Type}

theorem any_of_initial {l r : List α} {p q : α → Bool} (h : l <+: r) (hpq : ∀ x, p x = true → q x = true)
    (hl : l.any p = true) : r.any q = true := by
  obtain ⟨x, hx, hp⟩ := List.any_eq_true.mp hl
  exact List.any_eq_true.mpr ⟨x, h.subset hx, hpq x hp⟩

/-- A property that does not look at the use of a row. -/
theorem any_of_map_initial {l r : List α} {k : α → α} {p q : α → Bool} (h : l.map k <+: r.map k)
    (hp : ∀ x, p (k x) = p x) (hq : ∀ x, q (k x) = q x) (hpq : ∀ x, p x = true → q x = true)
    (hl : l.any p = true) : r.any q = true := by
  have hcomp : ∀ (f : α → Bool), (∀ x, f (k x) = f x) → ∀ s : List α, s.any f = (s.map k).any f := by
    intro f hf s
    rw [List.any_map]
    congr 1
    funext x
    exact (hf x).symm
  rw [hcomp q hq]
  rw [hcomp p hp] at hl
  exact any_of_initial h hpq hl

theorem find?_of_initial {l r : List α} {p : α → Bool} {x : α} (h : l <+: r) (hx : l.find? p = some x) :
    r.find? p = some x := by
  obtain ⟨t, rfl⟩ := h
  rw [List.find?_append, hx]
  rfl

/-- The elements of three lists that go along with each other. -/
theorem mem_zip_of_forall₂ {P : α → β → Prop} {Q : α → γ → Prop} {l : List α} {m : List β} {n : List γ}
    {f : α → δ} {g : β → ε} {k : γ → ε} (hm : List.Forall₂ P l m) (hn : List.Forall₂ Q l n) {e : δ × ε × ε}
    (he : e ∈ (l.map f).zip ((m.map g).zip (n.map k))) :
    ∃ a ∈ l, ∃ b ∈ m, ∃ c ∈ n, P a b ∧ Q a c ∧ e = (f a, g b, k c) := by
  induction hm generalizing n with
  | nil => cases he
  | cons hab _ ih =>
      cases hn with
      | cons hac hn =>
          rcases List.mem_cons.mp he with rfl | he
          · exact ⟨_, List.mem_cons_self, _, List.mem_cons_self, _, List.mem_cons_self, hab, hac, rfl⟩
          · obtain ⟨a, ha, b, hb, c, hc, h⟩ := ih hn he
            exact ⟨a, List.mem_cons_of_mem _ ha, b, List.mem_cons_of_mem _ hb, c,
              List.mem_cons_of_mem _ hc, h⟩

end Lists

/-! ## 2. The rows of a finalised candidate, later -/

section Later

variable {env : PolicyEnv} {a b : PolicyStore}

theorem issuedWith_evolves (h : Evolves a b) {g : GrantRow} (hg : issuedWith a g = true) :
    issuedWith b g = true := by
  simp only [issuedWith, Bool.and_eq_true] at hg ⊢
  exact ⟨any_of_initial h.issuances (fun _ hp => hp) hg.1, any_of_initial h.deadlines (fun _ hp => hp) hg.2⟩

theorem decidedFor_evolves (h : Evolves a b) {r : BindingResource} {id : String}
    (hd : decidedFor a r id = true) : decidedFor b r id = true := by
  unfold decidedFor at hd ⊢
  refine any_of_initial h.decisions (fun d hp => ?_) hd
  simp only [Bool.and_eq_true] at hp ⊢
  exact ⟨hp.1, any_of_initial h.requests (fun _ hq => hq) hp.2⟩

theorem grantComplete_evolves (h : Evolves a b) {c : ReservationRow} {r : BindingResource}
    {grantId decisionId : String} (hg : grantComplete env a c r grantId decisionId = true) :
    grantComplete env b c r grantId decisionId = true := by
  simp only [grantComplete, Bool.and_eq_true] at hg ⊢
  obtain ⟨⟨hgrant, hdecided⟩, hevent⟩ := hg
  refine ⟨⟨?_, decidedFor_evolves h hdecided⟩, any_of_initial h.events (fun _ hp => hp) hevent⟩
  refine any_of_map_initial h.grants (fun _ => rfl) (fun _ => rfl) (fun g hp => ?_) hgrant
  simp only [Bool.and_eq_true] at hp ⊢
  exact ⟨hp.1, issuedWith_evolves h hp.2⟩

theorem allocationOf_evolves (h : Evolves a b) {c : ReservationRow} {r : BindingResource}
    (ha : allocationOf a c r = true) : allocationOf b c r = true :=
  any_of_map_initial h.allocations (fun _ => rfl) (fun _ => rfl) (fun _ hp => hp) ha

theorem bindingResources_evolves (h : Evolves a b) {id : String}
    (hid : (a.loadView.reservation? id).isSome) (pin : Option ExportPin) :
    bindingResources b id pin = bindingResources a id pin := by
  have hrows := h.resources id hid
  unfold bindingResources LoadView.resourcesOf
  rw [show b.loadView.resources = b.resources from rfl, show a.loadView.resources = a.resources from rfl,
    hrows]

/-- **The replay is the same however the ledger evolves.** -/
theorem replayRows_evolves (h : Evolves a b) {id : String} {r : FinalizedAuthorityCandidate}
    (hr : replayRows env a id = .ok r) : replayRows env b id = .ok r := by
  simp only [replayRows, bind_eq_ok', exists_unit, expect_ok, rejectIf_ok] at hr ⊢
  obtain ⟨c, hc, x, hx, hstep, hcounts, hlen, hall, hsome, hr⟩ := hr
  have hid : (a.loadView.reservation? id).isSome := by rw [hc]; rfl
  have hpin : b.loadView.exportPin? id = a.loadView.exportPin? id := h.exportPins id hid
  have hres := bindingResources_evolves h hid (a.loadView.exportPin? id)
  refine ⟨c, h.reservation hc, x, find?_of_initial h.bindings hx, ?_, ?_, ?_, ?_, ?_, ?_⟩
  · simp only [Bool.not_eq_false'] at hstep ⊢
    exact any_of_map_initial h.steps (fun _ => rfl) (fun _ => rfl) (fun _ hp => hp) hstep
  · rw [hpin]
    exact hcounts
  · rw [hpin, hres]
    exact hlen
  · rw [hpin, hres]
    simp only [Bool.not_eq_false', List.all_eq_true, Bool.and_eq_true, Bool.or_eq_true] at hall ⊢
    intro e he
    obtain ⟨hgrant, hout⟩ := hall e he
    exact ⟨grantComplete_evolves h hgrant, hout.imp_right (allocationOf_evolves h)⟩
  · rw [hpin, hres]
    exact hsome
  · rw [hpin, hres]
    exact hr

theorem replayFinalizedCandidate_some {id : String} {r : FinalizedAuthorityCandidate} :
    replayFinalizedCandidate env a id = .ok (some r) ↔
      ∃ s, (a.statuses.find? fun s => s.candidateId = id) = some s ∧ s.state = .finalized ∧ s.revision = 2 ∧
        replayRows env a id = .ok r := by
  unfold replayFinalizedCandidate
  constructor
  · intro h
    split at h
    · cases h
    · next s hs =>
        split at h
        · cases h
        · simp only [bind_eq_ok', exists_unit, rejectIf_ok, Bool.or_eq_false_iff, decide_eq_false_iff_not,
            not_not] at h
          obtain ⟨⟨hstate, hrev⟩, r', hr', h⟩ := h
          obtain rfl := Option.some.inj (Except.ok.inj h)
          exact ⟨s, hs, hstate, hrev, hr'⟩
  · rintro ⟨s, hs, hstate, hrev, hr⟩
    rw [hs]
    simp [hstate, hrev, hr, bind, Except.bind, rejectIf, pure, Except.pure]

theorem replayFinalizedCandidate_evolves (h : Evolves a b) {id : String} {r : FinalizedAuthorityCandidate}
    (hr : replayFinalizedCandidate env a id = .ok (some r)) :
    replayFinalizedCandidate env b id = .ok (some r) := by
  obtain ⟨s, hs, hstate, hrev, hrows⟩ := replayFinalizedCandidate_some.mp hr
  exact replayFinalizedCandidate_some.mpr ⟨s, h.statuses id s hs (by rw [hstate]; decide), hstate, hrev,
    replayRows_evolves h hrows⟩

/-- A candidate with a replay is never finalised again: the call returns the replay and writes nothing. -/
theorem finalize_of_replay {outside : Outside} {backend : LocalPolicyBackend}
    {time : Tasks.ProtectedTimeContext} {lease : Tasks.Lease} {id started : String}
    {r : FinalizedAuthorityCandidate} (hr : replayFinalizedCandidate env a id = .ok (some r)) :
    finalizePendingAuthorityCandidate env outside backend time lease a id started = .ok (a, r) := by
  unfold finalizePendingAuthorityCandidate
  rw [hr]
  rfl

end Later

/-! ## 3. Right after the finalisation -/

namespace FinalWrites.Checked

variable {w : FinalWrites} {env : PolicyEnv} {backend : LocalPolicyBackend} {before : PolicyStore}
  {id createdAt : String}

/-- The tables of the evaluation apart, the finaliser starts from the store it was given. -/
theorem evaluated_same (h : w.Checked env backend before id createdAt) :
    w.evaluated = { before with
      requests := w.evaluated.requests, decisions := w.evaluated.decisions
      fingerprints := w.evaluated.fingerprints, approvals := w.evaluated.approvals
      approvalBindings := w.evaluated.approvalBindings } := h.evaluated.writes.same

theorem reserved (h : w.Checked env backend before id createdAt) :
    before.loadView.reservation? id = some w.facts.candidate := (load_ok h.evaluated.loaded).reserved

theorem candidateId_eq (h : w.Checked env backend before id createdAt) :
    w.facts.candidate.candidateId = id := by
  simpa using List.find?_some h.reserved

/-- The resources of the facts are those of the binding. -/
theorem wiring (h : w.Checked env backend before id createdAt) :
    bindingResources before id (before.loadView.exportPin? id) =
      w.facts.resources.map ResourceFacts.bindingResource := (load_ok h.evaluated.loaded).wiring.symm

/-- An output that is allocated is one of the candidate, and is for a row that was reserved. -/
theorem output_row (h : w.Checked env backend before id createdAt) {x : AllocationRow} (hx : x ∈ w.outputs) :
    ∃ f, ∃ r ∈ before.resources, r.candidateId = id ∧ r.resourceKind = "output-allocation" ∧
      r.bindingResource = f.bindingResource ∧ AllocatedFor w.facts.candidate f x := by
  obtain ⟨f, hf, hfor⟩ := exists_left_of_forall₂ h.allocated hx
  obtain ⟨hfmem, hwrite⟩ := List.mem_filter.mp hf
  have hwrite : f.action = "artifact.write" := by simpa using hwrite
  have hkind : f.kind = "output-allocation" := by
    rcases (load_ok h.evaluated.loaded).regular f hfmem with ⟨ha, -⟩ | ⟨-, hk⟩ | ⟨ha, -⟩
    · rw [hwrite] at ha
      exact absurd ha (by decide)
    · exact hk
    · rw [hwrite] at ha
      exact absurd ha (by decide)
  have hwired : f.bindingResource ∈ bindingResources before id (before.loadView.exportPin? id) := by
    rw [h.wiring]
    exact List.mem_map_of_mem hfmem
  rcases List.mem_append.mp hwired with hrow | hpin
  · obtain ⟨row, hrow, he⟩ := List.mem_map.mp hrow
    have hmem : row ∈ before.resources.filter fun r => r.candidateId = id := (sortOn_perm _ _).mem_iff.mp hrow
    obtain ⟨hin, hcand⟩ := List.mem_filter.mp hmem
    exact ⟨f, row, hin, by simpa using hcand, (congrArg BindingResource.kind he).trans hkind, he, hfor⟩
  · obtain ⟨pin, -, he⟩ := Option.map_eq_some_iff.mp (Option.mem_toList.mp hpin)
    have hegress : "external-destination" = f.kind := (congrArg BindingResource.kind he :)
    rw [hkind] at hegress
    exact absurd hegress (by decide)

/-- The one decision over a resource is the one at its place. -/
theorem decision_unique {r : ResourceFacts}
    {entry : GrantRow × Tasks.DeadlineRow} {d : CandidatePolicyDecision}
    (hi : IssuedOver env w.evaluated w.facts w.evaluation w.activation createdAt r entry)
    (hd : Decided env backend w.policy w.activation w.facts w.now w.evaluated r d)
    (hmem : d ∈ w.evaluation.decisions) :
    ∃ json expires, decisionExact w.evaluated w.facts r d w.activation = true ∧
      env.canonicalJson (grantsValue r) = .ok json ∧
      entry.1 = grantRow env w.facts r d w.activation.contentHash json createdAt expires := by
  obtain ⟨d', json, expires, hone, hexact, hjson, he⟩ := hi.grant
  have hin : d ∈ w.evaluation.decisions.filter fun d =>
      decide (d.action = r.action) && decide (d.semanticSelector = r.selector) := by
    refine List.mem_filter.mpr ⟨hmem, ?_⟩
    simp [hd.action, hd.selector]
  rw [hone] at hin
  obtain rfl := List.mem_singleton.mp hin
  exact ⟨json, expires, hexact, hjson, he⟩

/-- Everything the replay asks for of one grant. -/
theorem grantComplete_after (h : w.Checked env backend before id createdAt) {r : ResourceFacts}
    {entry : GrantRow × Tasks.DeadlineRow} {d : CandidatePolicyDecision}
    (hi : IssuedOver env w.evaluated w.facts w.evaluation w.activation createdAt r entry)
    (hd : Decided env backend w.policy w.activation w.facts w.now w.evaluated r d)
    (hentry : entry ∈ w.entries) (hmem : d ∈ w.evaluation.decisions) :
    grantComplete env (w.store id createdAt) w.facts.candidate r.bindingResource entry.1.grantId
      d.decisionId = true := by
  obtain ⟨json, expires, hexact, -, he⟩ := decision_unique hi hd hmem
  obtain ⟨prepared, approval, lease, time, hdead, hexp⟩ := hi.deadline
  have hgrant : entry.1 ∈ w.entries.map Prod.fst := List.mem_map_of_mem hentry
  simp only [grantComplete, Bool.and_eq_true, List.any_eq_true, decide_eq_true_eq]
  refine ⟨⟨⟨entry.1, List.mem_append_right _ hgrant, ?_⟩, ?_⟩, ?_⟩
  · refine ⟨⟨⟨⟨⟨⟨⟨⟨rfl, ?_⟩, ?_⟩, ?_⟩, ?_⟩, ?_⟩, ?_⟩, ?_⟩, ?_⟩
    iterate 7 rw [he]; rfl
    simp only [issuedWith, Bool.and_eq_true, List.any_eq_true, decide_eq_true_eq]
    refine ⟨⟨entry.1.issuance, List.mem_append_right _ (List.mem_map_of_mem hgrant), ?_⟩,
      ⟨entry.2, List.mem_append_right _ (List.mem_map_of_mem hentry), ?_⟩⟩
    · exact ⟨⟨⟨⟨⟨⟨rfl, rfl⟩, rfl⟩, rfl⟩, rfl⟩, rfl⟩, rfl⟩
    · rw [hdead]
      exact ⟨⟨⟨⟨⟨⟨⟨rfl, rfl⟩, rfl⟩, rfl⟩, rfl⟩, rfl⟩, rfl⟩, hexp⟩
  · simp only [decisionExact, Bool.and_eq_true, List.any_eq_true, decide_eq_true_eq] at hexact
    obtain ⟨⟨⟨row, hrow, hfields⟩, ⟨q, hq, hqf⟩⟩, -⟩ := hexact
    simp only [decidedFor, List.any_eq_true, Bool.and_eq_true, decide_eq_true_eq]
    refine ⟨row, hrow, ⟨⟨⟨⟨hfields.1.1.1.1.1.1.1.1.1.1.1.1, ?_⟩, ?_⟩, ?_⟩, ?_⟩, ⟨q, hq, ?_, hqf.1.2⟩⟩
    · exact hfields.1.1.1.1.1.1.1.1.1.2
    · exact hfields.1.1.1.2
    · exact hfields.1.1.2
    · exact hfields.1.2
    · exact hqf.1.1.1.1.trans hfields.1.1.1.1.1.1.1.1.1.1.1.2.symm
  · obtain ⟨e, he, hevent⟩ := exists_right_of_forall₂ h.announced (List.mem_map_of_mem hentry)
    exact ⟨e, List.mem_append_right _ he, ⟨hevent.1, hevent.2.1⟩, hevent.2.2⟩

/-- An output of the candidate is allocated. -/
theorem allocationOf_after (h : w.Checked env backend before id createdAt) {r : ResourceFacts}
    (hr : r ∈ w.facts.resources) (hout : r.bindingResource.isOutput = true) :
    allocationOf (w.store id createdAt) w.facts.candidate r.bindingResource = true := by
  have hwrite : r ∈ written w.facts.resources := by
    simp only [BindingResource.isOutput, Bool.and_eq_true] at hout
    exact List.mem_filter.mpr ⟨hr, hout.1⟩
  obtain ⟨x, hx, hfor⟩ := exists_right_of_forall₂ h.allocated hwrite
  simp only [allocationOf, List.any_eq_true, Bool.and_eq_true, decide_eq_true_eq]
  exact ⟨x, List.mem_append_right _ hx, ⟨⟨⟨⟨⟨⟨hfor.id, hfor.task⟩, hfor.program⟩, hfor.node⟩, hfor.binding⟩,
    hfor.attempt⟩, hfor.port⟩, hfor.type⟩

/-- The outputs of the binding are the resources that are written. -/
theorem outputs_after (h : w.Checked env backend before id createdAt) :
    ((w.facts.resources.map ResourceFacts.bindingResource).filter BindingResource.isOutput).map
      BindingResource.id = (written w.facts.resources).map ResourceFacts.id := by
  have hregular := (load_ok h.evaluated.loaded).regular
  rw [List.filter_map, List.map_map]
  unfold written
  have hsame : (w.facts.resources.filter (BindingResource.isOutput ∘ ResourceFacts.bindingResource)) =
      w.facts.resources.filter fun r => r.action = "artifact.write" := by
    refine List.filter_congr fun r hr => ?_
    show BindingResource.isOutput r.bindingResource = _
    unfold BindingResource.isOutput ResourceFacts.bindingResource
    rcases hregular r hr with ⟨ha, hk⟩ | ⟨ha, hk⟩ | ⟨ha, hk⟩
    · simp [ha]
    · simp [ha, hk]
    · simp [ha]
  rw [hsame]
  rfl

theorem replayRows_after (h : w.Checked env backend before id createdAt) :
    replayRows env (w.store id createdAt) id = .ok (w.result id) := by
  have hev := h.evolves
  have hid : (before.loadView.reservation? id).isSome := by rw [h.reserved]; rfl
  have hpin : (w.store id createdAt).loadView.exportPin? id = before.loadView.exportPin? id :=
    hev.exportPins id hid
  have hres : bindingResources (w.store id createdAt) id (before.loadView.exportPin? id) =
      w.facts.resources.map ResourceFacts.bindingResource :=
    (bindingResources_evolves hev hid _).trans h.wiring
  have hwired : w.facts.resources.length = w.grantIds.length := by
    rw [← h.bound.lengths, ← h.bound.wired, h.wiring, List.length_map]
  simp only [replayRows, bind_eq_ok', exists_unit, expect_ok, rejectIf_ok]
  refine ⟨w.facts.candidate, hev.reservation h.reserved, w.binding createdAt, ?_, ?_, ?_, ?_, ?_, ?_, ?_⟩
  · -- the binding is new, so it is the one that is found
    have hb : w.evaluated.bindings = before.bindings := by rw [h.evaluated_same]
    show (w.evaluated.bindings ++ [_]).find? _ = _
    rw [hb, List.find?_append]
    have hnone : before.bindings.find? (bindingOf w.facts.candidate) = none := by
      rw [List.find?_eq_none]
      intro x hx hmatch
      have hnew := h.bindingNew
      simp only [bindingInsertable, List.all_eq_true, Bool.and_eq_true, decide_eq_true_eq] at hnew
      simp only [bindingOf, Bool.and_eq_true, decide_eq_true_eq] at hmatch
      exact (hnew x hx).1.1 hmatch.1.1.1.1.1.1.1.1
    rw [hnone]
    simp [bindingOf, binding, bindingRow]
  · simp only [Bool.not_eq_false', List.any_eq_true]
    refine ⟨_, List.mem_append_right _ (List.mem_singleton_self _), ?_⟩
    simp [stepOf, readyStep]
  · have hne : w.grantIds ≠ [] := by
      intro hnil
      have hlen := h.bound.lengths
      rw [hnil] at hlen
      exact h.bound.nonempty (List.length_eq_zero_iff.mp hlen)
    have hcounted := h.bound.counted
    rw [h.bound.lengths] at hcounted
    rw [hpin]
    have hgrants : (w.binding createdAt).grantRefs = w.grantIds := rfl
    have hdecisions : (w.binding createdAt).policyDecisionRefs = w.decisionIds := rfl
    rw [hgrants, hdecisions]
    simp [hne, h.bound.lengths, hcounted, h.bound.grantsOnce, h.bound.decisionsOnce]
  · rw [hpin, hres, List.length_map, hwired]
    simp [binding, bindingRow]
  · rw [hpin, hres]
    simp only [Bool.not_eq_false', List.all_eq_true, Bool.and_eq_true, Bool.or_eq_true]
    intro e he
    obtain ⟨r, hr, entry, hentry, d, hd, hi, hdec, rfl⟩ :=
      mem_zip_of_forall₂ h.issued h.evaluated.decided he
    refine ⟨h.grantComplete_after hi hdec hentry hd, ?_⟩
    by_cases hout : r.bindingResource.isOutput = true
    · exact .inr (h.allocationOf_after hr hout)
    · exact .inl (by simpa using hout)
  · rw [hpin, hres, h.outputs_after]
    simpa using h.someOutput
  · rw [hpin, hres, h.outputs_after]
    rfl

/-- **The replay right after a finalisation returns what it returned.** -/
theorem replays (h : w.Checked env backend before id createdAt)
    (honce : (before.statuses.map StatusRow.candidateId).Nodup) :
    replayFinalizedCandidate env (w.store id createdAt) id = .ok (some (w.result id)) := by
  rw [replayFinalizedCandidate_some]
  obtain ⟨s, hs⟩ := List.length_eq_one_iff.mp h.pendingOnce
  have hmem : s ∈ before.statuses.filter (StatusRow.isPending id) := by rw [hs]; exact List.mem_singleton_self _
  obtain ⟨hin, hpending⟩ := List.mem_filter.mp hmem
  have hfields := hpending
  simp only [StatusRow.isPending, Bool.and_eq_true, decide_eq_true_eq] at hfields
  have hfound : (before.statuses.find? fun s => s.candidateId = id) = some s := by
    obtain ⟨x, hx⟩ : ∃ x, (before.statuses.find? fun s => s.candidateId = id) = some x := by
      rw [← Option.isSome_iff_exists, List.find?_isSome]
      exact ⟨s, hin, by simpa using hfields.1.1⟩
    have hxid : x.candidateId = id := by simpa using List.find?_some hx
    rw [hx, List.inj_on_of_nodup_map honce (List.mem_of_find?_eq_some hx) hin (hxid.trans hfields.1.1.symm)]
  have hst : w.evaluated.statuses = before.statuses := by rw [h.evaluated_same]
  refine ⟨s.finalized, ?_, rfl, ?_, h.replayRows_after⟩
  · have hmarked := find?_marked id
      (show (w.evaluated.statuses.find? fun s => s.candidateId = id) = some s by rw [hst]; exact hfound)
    exact hmarked.trans (by rw [hpending]; rfl)
  · show s.revision + 1 = 2
    rw [hfields.2]

end FinalWrites.Checked

end Aios.Policy
