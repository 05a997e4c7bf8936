/-
  File:      Aios/Policy/Reserved.lean
  Subject:   WHAT A RESERVATION RECORDS: the rows of a candidate say which request it was made for, up to
             the order of its resources, and a repeated request is compared with them.

  * `NewCandidate` -- everything a reservation that is not a replay finds, and what it checks;
  * `Recorded` -- the rows of a candidate hold a request and its result;
  * `recorded_of_new`, `recorded_of_replay` -- a reservation records its request, and a replay finds a
    recorded one; `Recorded.replay` -- a recorded request is replayed with its result.
-/
import Aios.Lib.Keyed
import Aios.Policy.Reserve

namespace Aios.Policy

open Lib Provenance

/-! ## 1. The resources of a request -/

/-- The resource that is stored for the choice, where it is no export. -/
def CandidateResourceChoice.reserved? (c : CandidateResourceChoice) : Option ReservedChoice :=
  match c.handle with
  | .inputArtifact artifactId => some ⟨c.action, c.semanticSelector, "artifact", artifactId, none⟩
  | .outputAllocation allocationId port =>
      some ⟨c.action, c.semanticSelector, "output-allocation", allocationId, some port⟩
  | _ => none

/-- The export that is pinned for the choice. -/
def CandidateResourceChoice.exported? (c : CandidateResourceChoice) : Option RequestedExport :=
  match c.handle with
  | .externalExport serviceId source operationId purpose maxSize =>
      some ⟨c.action, c.semanticSelector, serviceId, source, operationId, purpose, maxSize⟩
  | _ => none

/-- The choice is for something this profile resolves. -/
def CandidateResourceChoice.Readable (c : CandidateResourceChoice) : Prop :=
  c.reserved?.isSome ∨ (c.exported?.isSome ∧ c.action = "data.egress")

/-- The choices a stored resource and an export stand for. -/
def ReservedChoice.asChoice (r : ReservedChoice) : CandidateResourceChoice :=
  ⟨r.action, r.semanticSelector,
    match r.outputPort with
    | none => .inputArtifact r.resourceId
    | some port => .outputAllocation r.resourceId port⟩

@[inherit_doc ReservedChoice.asChoice]
def RequestedExport.asChoice (e : RequestedExport) : CandidateResourceChoice :=
  ⟨e.action, e.selector, .externalExport e.serviceId e.sourceArtifactId e.operationId e.purpose e.maxSizeBytes⟩

section Choices

theorem requestedChoices_ok {acc acc' : List ReservedChoice × Option RequestedExport}
    {l : List CandidateResourceChoice} :
    requestedChoices acc l = .ok acc' ↔ (∀ c ∈ l, c.Readable) ∧
      acc'.1 = acc.1 ++ l.filterMap CandidateResourceChoice.reserved? ∧
      acc'.2.toList = acc.2.toList ++ l.filterMap CandidateResourceChoice.exported? := by
  induction l generalizing acc with
  | nil =>
      obtain ⟨requested, exported⟩ := acc
      obtain ⟨requested', exported'⟩ := acc'
      simp only [requestedChoices, List.filterMap_nil, List.append_nil, List.not_mem_nil, false_implies,
        implies_true, true_and, Except.ok.injEq, Prod.mk.injEq]
      constructor
      · rintro ⟨rfl, rfl⟩
        exact ⟨rfl, rfl⟩
      · rintro ⟨rfl, h⟩
        refine ⟨rfl, ?_⟩
        cases exported <;> cases exported' <;> simp_all
  | cons choice rest ih =>
      obtain ⟨requested, exported⟩ := acc
      obtain ⟨action, selector, handle⟩ := choice
      rw [List.forall_mem_cons]
      cases handle with
      | inputArtifact artifactId =>
          have hread : CandidateResourceChoice.Readable ⟨action, selector, .inputArtifact artifactId⟩ := .inl rfl
          rw [List.filterMap_cons_some (f := CandidateResourceChoice.reserved?) rfl,
            List.filterMap_cons_none (f := CandidateResourceChoice.exported?) rfl, requestedChoices, ih]
          simp only [hread, true_and, List.append_assoc, List.singleton_append]
      | outputAllocation allocationId port =>
          have hread : CandidateResourceChoice.Readable ⟨action, selector, .outputAllocation allocationId port⟩ :=
            .inl rfl
          rw [List.filterMap_cons_some (f := CandidateResourceChoice.reserved?) rfl,
            List.filterMap_cons_none (f := CandidateResourceChoice.exported?) rfl, requestedChoices, ih]
          simp only [hread, true_and, List.append_assoc, List.singleton_append]
      | networkService serviceId =>
          constructor
          · intro h
            cases h
          · rintro ⟨⟨h | ⟨h, -⟩, -⟩, -⟩ <;> cases h
      | externalExport serviceId source operationId purpose maxSize =>
          rw [List.filterMap_cons_none (f := CandidateResourceChoice.reserved?) rfl,
            List.filterMap_cons_some (f := CandidateResourceChoice.exported?) rfl, requestedChoices]
          simp only [bind_eq_ok', exists_unit, rejectIf_ok, ih, Bool.or_eq_false_iff,
            decide_eq_false_iff_not, not_not]
          constructor
          · rintro ⟨⟨haction, hfree⟩, hread, hreq, hexp⟩
            refine ⟨⟨.inr ⟨rfl, haction⟩, hread⟩, hreq, ?_⟩
            cases exported with
            | none => exact hexp
            | some e => cases hfree
          · rintro ⟨⟨h | ⟨-, haction⟩, hread⟩, hreq, hexp⟩
            · cases h
            cases exported with
            | none => exact ⟨⟨haction, rfl⟩, hread, hreq, hexp⟩
            | some e =>
                -- a second export does not fit where one is
                have hlen := congrArg List.length hexp
                have hone := Option.length_toList_le (o := acc'.2)
                simp only [List.length_append, List.length_cons, Option.toList_some, List.length_nil] at hlen
                omega

/-- A readable request is what its resources and its exports stand for. -/
theorem perm_choices {l : List CandidateResourceChoice} (h : ∀ c ∈ l, c.Readable) :
    l.Perm ((l.filterMap CandidateResourceChoice.reserved?).map ReservedChoice.asChoice ++
      (l.filterMap CandidateResourceChoice.exported?).map RequestedExport.asChoice) := by
  induction l with
  | nil => exact .nil
  | cons c rest ih =>
      have hrest := ih fun x hx => h x (List.mem_cons_of_mem _ hx)
      have hc := h c List.mem_cons_self
      obtain ⟨action, selector, handle⟩ := c
      cases handle with
      | inputArtifact artifactId => exact hrest.cons _
      | outputAllocation allocationId port => exact hrest.cons _
      | externalExport serviceId source operationId purpose maxSize =>
          exact (hrest.cons _).trans List.perm_middle.symm
      | networkService serviceId =>
          simp [CandidateResourceChoice.Readable, CandidateResourceChoice.reserved?,
            CandidateResourceChoice.exported?] at hc

theorem ReservedChoice.key_injective {a b : ReservedChoice} (h : a.key = b.key) : a = b := by
  obtain ⟨_, _, _, _, _⟩ := a
  obtain ⟨_, _, _, _, _⟩ := b
  simp only [ReservedChoice.key, EmbeddingLike.apply_eq_iff_eq, Prod.mk.injEq] at h
  obtain ⟨rfl, rfl, rfl, rfl, rfl⟩ := h
  rfl

/-- Sorted alike, the resources are the same up to their order. -/
theorem sorted_eq_iff {l r : List ReservedChoice} :
    sortOn ReservedChoice.key l = sortOn ReservedChoice.key r ↔ l.Perm r :=
  sortOn_eq_iff_perm fun _ _ _ _ => ReservedChoice.key_injective

/-- The export a pin was made for. -/
def ExportPin.requested (pin : ExportPin) : RequestedExport :=
  ⟨"data.egress", pin.selector, pin.serviceId, pin.sourceArtifactId, pin.operationId, pin.purpose,
    pin.maxSizeBytes⟩

theorem exportMatches_iff {e : Option RequestedExport} {pin : Option ExportPin} :
    exportMatches e pin = true ↔ e = pin.map ExportPin.requested := by
  cases e with
  | none => cases pin <;> simp [exportMatches]
  | some e =>
      cases pin with
      | none => simp [exportMatches]
      | some pin =>
          obtain ⟨action, selector, serviceId, source, operationId, purpose, maxSize⟩ := e
          simp only [exportMatches, Bool.and_eq_true, decide_eq_true_eq, Option.map_some, Option.some.injEq,
            ExportPin.requested, RequestedExport.mk.injEq, and_assoc]
          constructor
          · rintro ⟨rfl, rfl, rfl, rfl, rfl, rfl, rfl⟩
            exact ⟨rfl, rfl, rfl, rfl, rfl, rfl, rfl⟩
          · rintro ⟨rfl, rfl, rfl, rfl, rfl, rfl, rfl⟩
            exact ⟨rfl, rfl, rfl, rfl, rfl, rfl, rfl⟩

/-- One element at most has no other order. -/
theorem eq_of_toList_perm {α : Type} {o : Option α} {l : List α} (h : o.toList.Perm l) : o.toList = l := by
  cases o with
  | none => exact h.nil_eq
  | some x => exact (List.perm_singleton.mp h.symm).symm

/-- What is no export is stored. -/
theorem length_reserved {l : List CandidateResourceChoice} (h : ∀ c ∈ l, c.Readable) :
    (l.filter fun c => !c.handle.isExport).length =
      (l.filterMap CandidateResourceChoice.reserved?).length := by
  induction l with
  | nil => rfl
  | cons c rest ih =>
      have hrest := ih fun x hx => h x (List.mem_cons_of_mem _ hx)
      have hc := h c List.mem_cons_self
      obtain ⟨action, selector, handle⟩ := c
      cases handle with
      | inputArtifact artifactId => exact congrArg (· + 1) hrest
      | outputAllocation allocationId port => exact congrArg (· + 1) hrest
      | externalExport serviceId source operationId purpose maxSize => exact hrest
      | networkService serviceId =>
          rcases hc with hc | ⟨hc, -⟩
          · cases hc
          · cases hc

end Choices

/-! ## 2. A recorded request -/

/-- The resources the store holds of the candidate. -/
def PolicyStore.choices (s : PolicyStore) (candidateId : String) : List ReservedChoice :=
  (s.resources.filter fun r => r.candidateId = candidateId).map ResourceRow.choice

/-- What a reservation says about its candidate. -/
def ReservationRow.pending (c : ReservationRow) (count : Nat) : PendingAuthorityCandidate where
  candidateId := c.candidateId
  bindingId := c.bindingId
  attemptId := c.attemptId
  taskId := c.taskId
  semanticProgramHash := c.semanticProgramHash
  registrySnapshotId := c.registrySnapshotId
  nodeId := c.nodeId
  capability := c.capability
  providerRegistrationId := c.providerRegistrationId
  providerId := c.providerId
  providerBuildHash := c.providerBuildHash
  conformanceEvidenceId := c.conformanceEvidenceId
  executionProfileRef := c.executionProfileRef
  isolationClass := c.isolationClass
  placementLocality := "local"
  resourceCount := count

/-- The rows of the candidate hold the request and its result. -/
structure Recorded (s : PolicyStore) (c : ReservationRow) (q : ReserveAuthorityCandidate)
    (result : PendingAuthorityCandidate) : Prop where
  found : s.loadView.reservation? q.candidateId = some c
  same : requestMatches c q = true
  readable : ∀ r ∈ q.resources, r.Readable
  stored : (s.choices q.candidateId).Perm (q.resources.filterMap CandidateResourceChoice.reserved?)
  pinned : ((s.loadView.exportPin? q.candidateId).map ExportPin.requested).toList =
    q.resources.filterMap CandidateResourceChoice.exported?
  counted : c.resourceCount = (s.choices q.candidateId).length
  profile : c.executionProfileRef = "profile:stage1-local:" ++ c.isolationClass
  placed : c.placementLocality = "local"
  returned : result = c.pending (s.choices q.candidateId).length

theorem candidateId_of_found {s : PolicyStore} {id : String} {c : ReservationRow}
    (h : s.loadView.reservation? id = some c) : c.candidateId = id := by
  simpa using List.find?_some h

/-- The request with its resources in another order. -/
def ReserveAuthorityCandidate.reordered (q : ReserveAuthorityCandidate)
    (resources : List CandidateResourceChoice) : ReserveAuthorityCandidate :=
  { q with resources := resources }

section Recorded

variable {env : PolicyEnv} {s : PolicyStore} {c c' : ReservationRow} {q q' : ReserveAuthorityCandidate}
  {result result' : PendingAuthorityCandidate}

/-- The order of the resources is not recorded. -/
theorem Recorded.reordered (h : Recorded s c q result) {resources : List CandidateResourceChoice}
    (hperm : resources.Perm q.resources) : Recorded s c (q.reordered resources) result where
  found := h.found
  same := h.same
  readable := fun r hr => h.readable r (hperm.mem_iff.mp hr)
  stored := h.stored.trans (hperm.symm.filterMap _)
  pinned := by
    have hexports := hperm.symm.filterMap CandidateResourceChoice.exported?
    rw [← h.pinned] at hexports
    exact eq_of_toList_perm hexports
  counted := h.counted
  profile := h.profile
  placed := h.placed
  returned := h.returned

/-- **One candidate records one request**, up to the order of its resources, and one result. -/
theorem Recorded.unique (h : Recorded s c q result) (h' : Recorded s c' q' result')
    (hid : q'.candidateId = q.candidateId) :
    (∃ resources, resources.Perm q.resources ∧ q' = q.reordered resources) ∧ result' = result := by
  obtain rfl : c' = c := Option.some.inj (h'.found.symm.trans (hid ▸ h.found))
  refine ⟨⟨q'.resources, ?_, ?_⟩, ?_⟩
  · have hstored := h'.stored.symm.trans (hid ▸ h.stored)
    have hpinned := h'.pinned.symm.trans (hid ▸ h.pinned)
    have hall := (perm_choices h'.readable).trans
      ((hstored.map ReservedChoice.asChoice).append_right _)
    rw [hpinned] at hall
    exact hall.trans (perm_choices h.readable).symm
  · have hsame := h.same
    have hsame' := h'.same
    simp only [requestMatches, Bool.and_eq_true, decide_eq_true_eq] at hsame hsame'
    obtain ⟨⟨⟨⟨⟨⟨⟨⟨h1, h2⟩, h3⟩, h4⟩, h5⟩, h6⟩, h7⟩, h8⟩, h9⟩ := hsame
    obtain ⟨⟨⟨⟨⟨⟨⟨⟨h1', h2'⟩, h3'⟩, h4'⟩, h5'⟩, h6'⟩, h7'⟩, h8'⟩, h9'⟩ := hsame'
    obtain ⟨_, _, _, _, _, _, _, _, _, _, _⟩ := q
    obtain ⟨_, _, _, _, _, _, _, _, _, _, _⟩ := q'
    simp only at h1 h2 h3 h4 h5 h6 h7 h8 h9 h1' h2' h3' h4' h5' h6' h7' h8' h9' hid
    subst h1 h2 h3 h4 h5 h6 h7 h8 h9 h1' h2' h3' h4' h5' h6' h7' h8' h9' hid
    rfl
  · rw [h'.returned, h.returned, hid]

theorem currentExportPin_ok {pin : Option ExportPin}
    (h : currentExportPin env s.loadView c = .ok pin) : s.loadView.exportPin? c.candidateId = pin := by
  unfold currentExportPin at h
  split at h
  · next hnone => rw [hnone, ← Except.ok.inj h]
  · simp only [bind_eq_ok', expect_ok] at h
    obtain ⟨t, -, h⟩ := h
    unfold loadCurrentExportPin at h
    split at h
    · next hnone => rw [hnone, ← Except.ok.inj h]
    · next p hsome =>
        simp only [bind_eq_ok', exists_unit, rejectIf_ok] at h
        rw [hsome, ← Except.ok.inj h.2]

/-- A replay finds a recorded request. -/
theorem recorded_of_replay (h : replayExisting env s q = .ok (some result)) : ∃ c, Recorded s c q result := by
  simp only [replayExisting] at h
  split at h
  · next c state hc hstate =>
      simp only [bind_eq_ok', exists_unit, rejectIf_ok, Prod.exists] at h
      obtain ⟨hsame, pin, hpin, -, hcount, requested, exported, hreq, hsorted, hexport, hprofile, h⟩ := h
      obtain ⟨hread, hrequested, hexported⟩ := requestedChoices_ok.mp hreq
      simp only [List.nil_append, Option.toList_none] at hrequested hexported
      simp only [Bool.or_eq_false_iff, decide_eq_false_iff_not, not_not, Bool.not_eq_false']
        at hsame hcount hsorted hexport hprofile
      have hperm : (s.choices q.candidateId).Perm requested := sorted_eq_iff.mp hsorted
      have hid := candidateId_of_found hc
      rw [hrequested] at hperm
      refine ⟨c, hc, hsame.1, hread, hperm, ?_, ?_, hprofile.1, hprofile.2, ?_⟩
      · rw [← hid, currentExportPin_ok hpin, ← exportMatches_iff.mp hexport, hexported]
      · rw [hperm.length_eq, hcount, length_reserved hread]
      · rw [← Option.some.inj (Except.ok.inj h), ← hid]
        unfold ReservationRow.pending
        rw [List.length_map]
        simp [PolicyStore.choices]
  · cases h

/-- **A recorded request is replayed** with its result, while its candidate is pending and its export is
    current. -/
theorem Recorded.replay (h : Recorded s c q result)
    (hpending : s.loadView.state? q.candidateId = some .pending) {pin : Option ExportPin}
    (hpin : currentExportPin env s.loadView c = .ok pin) : replayExisting env s q = .ok (some result) := by
  have hid := candidateId_of_found h.found
  obtain rfl := (currentExportPin_ok hpin).symm
  have hexports := h.pinned
  rw [← hid] at hexports
  have hreq : requestedChoices ([], none) q.resources = .ok
      (q.resources.filterMap CandidateResourceChoice.reserved?,
        (s.loadView.exportPin? c.candidateId).map ExportPin.requested) :=
    requestedChoices_ok.mpr ⟨h.readable, rfl, hexports⟩
  -- nothing is asked for beyond what is stored
  have hsealed : (q.resources.any fun claim =>
      !((s.choices q.candidateId).any fun r =>
          r.action = claim.action && r.semanticSelector = claim.semanticSelector) &&
        !((s.loadView.exportPin? c.candidateId).any fun p =>
          claim.action = "data.egress" && claim.semanticSelector = p.selector)) = false := by
    rw [List.any_eq_false]
    intro claim hclaim
    rcases h.readable claim hclaim with hres | ⟨hexp, haction⟩
    · obtain ⟨r, hr⟩ := Option.isSome_iff_exists.mp hres
      have hmem : r ∈ s.choices q.candidateId :=
        h.stored.mem_iff.mpr (List.mem_filterMap.mpr ⟨claim, hclaim, hr⟩)
      have hkey : r.action = claim.action ∧ r.semanticSelector = claim.semanticSelector := by
        unfold CandidateResourceChoice.reserved? at hr
        split at hr
        · obtain rfl := Option.some.inj hr
          exact ⟨rfl, rfl⟩
        · obtain rfl := Option.some.inj hr
          exact ⟨rfl, rfl⟩
        · cases hr
      have hany : ((s.choices q.candidateId).any fun r =>
          r.action = claim.action && r.semanticSelector = claim.semanticSelector) = true :=
        List.any_eq_true.mpr ⟨r, hmem, by simp [hkey]⟩
      simp [hany]
    · obtain ⟨e, he⟩ := Option.isSome_iff_exists.mp hexp
      have hmem : e ∈ ((s.loadView.exportPin? c.candidateId).map ExportPin.requested).toList := by
        rw [hexports]
        exact List.mem_filterMap.mpr ⟨claim, hclaim, he⟩
      obtain ⟨p, hp, hpe⟩ := Option.map_eq_some_iff.mp (Option.mem_toList.mp hmem)
      have hkey : claim.semanticSelector = p.selector := by
        unfold CandidateResourceChoice.exported? at he
        split at he
        · rw [← hpe] at he
          exact congrArg RequestedExport.selector (Option.some.inj he)
        · cases he
      simp [hp, haction, hkey]
  have hcount : c.resourceCount = (q.resources.filter fun r => !r.handle.isExport).length := by
    rw [h.counted, h.stored.length_eq, length_reserved h.readable]
  have hsorted : sortOn ReservedChoice.key (s.choices q.candidateId) =
      sortOn ReservedChoice.key (q.resources.filterMap CandidateResourceChoice.reserved?) :=
    sorted_eq_iff.mpr h.stored
  have hmatch : exportMatches ((s.loadView.exportPin? c.candidateId).map ExportPin.requested)
      (s.loadView.exportPin? c.candidateId) = true := exportMatches_iff.mpr rfl
  simp only [replayExisting, h.found, hpending, bind_eq_ok', exists_unit, rejectIf_ok, Prod.exists]
  refine ⟨by simp [h.same], _, hpin, hsealed, by simp [hcount], _, _, hreq, ?_, by simp [hmatch], ?_, ?_⟩
  · simpa [PolicyStore.choices] using hsorted
  · simp [h.profile, h.placed]
  · rw [h.returned, ← hid]
    rfl

end Recorded

/-! ## 3. A new reservation -/

section Resolved

variable {env : PolicyEnv} {world : World} {q : ReserveAuthorityCandidate} {t : TaskRow} {program node : Json}
  {allocated : List String}

/-- The choices of the request for a declared pair. -/
def ReserveAuthorityCandidate.choicesFor (q : ReserveAuthorityCandidate) (pair : String × String) :
    List CandidateResourceChoice :=
  q.resources.filter fun c => c.action = pair.1 && c.semanticSelector = pair.2

theorem resolve_choice {acc acc' : Resolved} {pair : String × String}
    (h : resolve env world q t program node allocated acc pair = .ok acc') :
    ∃ c, q.choicesFor pair = [c] ∧ c.Readable ∧
      acc'.rows.map ResourceRow.choice = acc.rows.map ResourceRow.choice ++ c.reserved?.toList ∧
      (acc'.exportPin.map ExportPin.requested).toList =
        (acc.exportPin.map ExportPin.requested).toList ++ c.exported?.toList := by
  obtain ⟨action, selector⟩ := pair
  unfold resolve at h
  dsimp only at h
  split at h
  · next choice hone =>
      have hmem : choice ∈ q.choicesFor (action, selector) := by
        rw [show q.choicesFor (action, selector) = [choice] from hone]
        exact List.mem_singleton_self _
      have hkey : choice.action = action ∧ choice.semanticSelector = selector := by
        simpa using (List.mem_filter.mp hmem).2
      obtain ⟨rfl, rfl⟩ := hkey
      simp only [bind_eq_ok', exists_unit, rejectIf_ok] at h
      obtain ⟨-, h⟩ := h
      refine ⟨choice, hone, ?_⟩
      split at h
      · next serviceId source operationId purpose maxSize hhandle =>
          split at h
          · next haction =>
              simp only [bind_eq_ok'] at h
              obtain ⟨pin, hpin, h⟩ := h
              obtain rfl := Except.ok.inj h
              simp only [resolveExport, bind_eq_ok', exists_unit, expect_ok, rejectIf_ok, Prod.exists] at hpin
              obtain ⟨_, -, _, -, _, -, hfree, _, -, -, _, _, -, hpin⟩ := hpin
              obtain rfl := Except.ok.inj hpin
              simp only [Bool.or_eq_false_iff] at hfree
              have hnone : acc.exportPin = none := by simpa using hfree.1.1.1.1.1.1.1.1
              simp [CandidateResourceChoice.Readable, CandidateResourceChoice.reserved?,
                CandidateResourceChoice.exported?, ExportPin.requested, hhandle, haction, hnone]
          · cases h
      · next artifactId hhandle =>
          split at h
          · next haction =>
              simp only [bind_eq_ok'] at h
              obtain ⟨row, hr, h⟩ := h
              obtain rfl := Except.ok.inj h
              simp only [resolveInput, bind_eq_ok', exists_unit, expect_ok, rejectIf_ok] at hr
              obtain ⟨_, -, _, -, _, -, _, -, -, hr⟩ := hr
              obtain rfl := Except.ok.inj hr
              simp [CandidateResourceChoice.Readable, CandidateResourceChoice.reserved?,
                CandidateResourceChoice.exported?, ResourceRow.choice, hhandle, haction]
          · cases h
      · next allocationId port hhandle =>
          split at h
          · next haction =>
              simp only [Bool.and_eq_true, decide_eq_true_eq] at haction
              simp only [bind_eq_ok'] at h
              obtain ⟨row, hr, h⟩ := h
              obtain rfl := Except.ok.inj h
              simp only [resolveOutput, bind_eq_ok', exists_unit, expect_ok, rejectIf_ok] at hr
              obtain ⟨_, -, -, _, -, -, hr⟩ := hr
              obtain rfl := Except.ok.inj hr
              simp [CandidateResourceChoice.Readable, CandidateResourceChoice.reserved?,
                CandidateResourceChoice.exported?, ResourceRow.choice, hhandle, haction]
          · cases h
      · cases h
  · cases h

/-- Every pair takes its one choice, and what is resolved are these choices in their order. -/
theorem resolveAll_choices {acc acc' : Resolved} {pairs : List (String × String)}
    (h : resolveAll env world q t program node allocated acc pairs = .ok acc') :
    ∃ choices, List.Forall₂ (fun pair c => q.choicesFor pair = [c]) pairs choices ∧
      (∀ c ∈ choices, c.Readable) ∧
      acc'.rows.map ResourceRow.choice = acc.rows.map ResourceRow.choice ++
        choices.filterMap CandidateResourceChoice.reserved? ∧
      (acc'.exportPin.map ExportPin.requested).toList = (acc.exportPin.map ExportPin.requested).toList ++
        choices.filterMap CandidateResourceChoice.exported? := by
  induction pairs generalizing acc with
  | nil =>
      obtain rfl := Except.ok.inj h
      exact ⟨[], .nil, fun _ hc => (by cases hc), (List.append_nil _).symm, (List.append_nil _).symm⟩
  | cons pair rest ih =>
      simp only [resolveAll, bind_eq_ok'] at h
      obtain ⟨acc1, h1, h2⟩ := h
      obtain ⟨c, hone, hread, hrows, hpin⟩ := resolve_choice h1
      obtain ⟨choices, hall, hreads, hrows', hpin'⟩ := ih h2
      refine ⟨c :: choices, .cons hone hall, List.forall_mem_cons.mpr ⟨hread, hreads⟩, ?_, ?_⟩
      · rw [hrows', hrows, List.append_assoc]
        congr 1
        cases hc : c.reserved? with
        | none => rw [List.filterMap_cons_none hc]; rfl
        | some r => rw [List.filterMap_cons_some hc]; rfl
      · rw [hpin', hpin, List.append_assoc]
        congr 1
        cases hc : c.exported? with
        | none => rw [List.filterMap_cons_none hc]; rfl
        | some e => rw [List.filterMap_cons_some hc]; rfl

/-- Where every choice is for a declared pair and there are as many, the choices that were taken are all
    of them. -/
theorem choices_perm {pairs : List (String × String)} {choices : List CandidateResourceChoice}
    (hall : List.Forall₂ (fun pair c => q.choicesFor pair = [c]) pairs choices)
    (hclaimed : ∀ c ∈ q.resources, (c.action, c.semanticSelector) ∈ pairs)
    (hcount : pairs.length = q.resources.length) : choices.Perm q.resources := by
  have htaken : ∀ c ∈ q.resources, q.choicesFor (c.action, c.semanticSelector) = [c] ∧ c ∈ choices := by
    intro c hc
    obtain ⟨x, hx, hone⟩ := exists_right_of_forall₂ hall (hclaimed c hc)
    have hmem : c ∈ q.choicesFor (c.action, c.semanticSelector) := List.mem_filter.mpr ⟨hc, by simp⟩
    rw [hone] at hmem
    obtain rfl := List.mem_singleton.mp hmem
    exact ⟨hone, hx⟩
  -- a choice that stood twice would be taken twice for its pair
  have hnodup : q.resources.Nodup := by
    rw [List.nodup_iff_count_le_one]
    intro c
    by_cases hc : c ∈ q.resources
    · have hfilter : (q.choicesFor (c.action, c.semanticSelector)).count c = q.resources.count c :=
        List.count_filter (by simp)
      rw [← hfilter, (htaken c hc).1]
      exact List.count_le_length
    · rw [List.count_eq_zero_of_not_mem hc]
      exact Nat.zero_le 1
  have hsub : q.resources.Subperm choices := List.subperm_of_subset hnodup fun c hc => (htaken c hc).2
  exact (hsub.perm_of_length_le (by rw [← hall.length_eq, hcount])).symm

end Resolved

/-- Everything a reservation finds that is not a replay. -/
structure NewCandidate where
  task : TaskRow
  program : ProgramRow
  parsed : Json
  node : Json
  capability : String
  provider : SelectedProvider
  declared : List Json
  pairs : List (String × String)
  resolved : Resolved

namespace NewCandidate

def row (w : NewCandidate) (q : ReserveAuthorityCandidate) (checkedAt : String) : ReservationRow :=
  reservationRow q w.program w.capability w.provider w.resolved.rows.length checkedAt

def result (w : NewCandidate) (q : ReserveAuthorityCandidate) : PendingAuthorityCandidate :=
  pendingCandidate q w.capability w.provider w.resolved.rows.length

/-- What was checked before the rows were written. -/
structure Checked (w : NewCandidate) (env : PolicyEnv) (before : PolicyStore)
    (q : ReserveAuthorityCandidate) : Prop where
  parsed : env.parseJson w.program.programJson = some w.parsed
  node : Tasks.programNode w.parsed q.nodeId = some w.node
  hashed : env.recomputeSemanticHash w.program.programJson = some q.semanticProgramHash
  attempt : q.attemptNumber = latestAttempt before q + 1
  selected : w.provider.registrationId = q.providerRegistrationId
  declared : (w.node.get? "authority_requests").bind Json.asArr = some w.declared
  read : declaredPairs w.declared = .ok w.pairs
  claimed : ∀ c ∈ q.resources, (c.action, c.semanticSelector) ∈ w.pairs
  counted : w.declared.length = q.resources.length
  resolved : resolveAll env before.world q w.task w.parsed w.node
    (before.allocations.map AllocationRow.allocationId) ⟨[], none⟩ w.pairs = .ok w.resolved

end NewCandidate

section New

variable {env : PolicyEnv} {outside : ReserveOutside} {a b : PolicyStore} {q : ReserveAuthorityCandidate}
  {lease : Tasks.Lease} {selected checkedAt : String} {result : PendingAuthorityCandidate}

/-- **A reservation** is a replay, or writes the rows of a new candidate. -/
theorem reserveAuthorityCandidate_ok
    (h : reserveAuthorityCandidate env outside a q lease selected checkedAt = .ok (b, result)) :
    (replayExisting env a q = .ok (some result) ∧ b = a) ∨
      (replayExisting env a q = .ok none ∧ ∃ w : NewCandidate, w.Checked env a q ∧
        insertReservation a (w.row q checkedAt) w.resolved = .ok b ∧ result = w.result q) := by
  simp only [reserveAuthorityCandidate, bind_eq_ok', exists_unit, rejectIf_ok] at h
  obtain ⟨-, -, existing, hreplay, h⟩ := h
  cases existing with
  | some replayed =>
      obtain ⟨rfl, rfl⟩ := Prod.mk.inj (Except.ok.inj h)
      exact .inl ⟨hreplay, rfl⟩
  | none =>
      simp only [bind_eq_ok', exists_unit, expect_ok, rejectIf_ok] at h
      obtain ⟨_, -, _, -, t, -, p, -, program, hprogram, node, hnode, capability, -, hreceipt, -, hattempt,
        provider, -, hprovider, declared, hdeclared, pairs, hpairs, hclaimed, hcount, acc, hacc, -, s, hins,
        h⟩ := h
      obtain ⟨rfl, rfl⟩ := Prod.mk.inj (Except.ok.inj h)
      simp only [Bool.or_eq_false_iff, decide_eq_false_iff_not, not_not] at hreceipt hattempt hprovider hcount
      refine .inr ⟨hreplay, ⟨t, p, program, node, capability, provider, declared, pairs, acc⟩,
        ⟨hprogram, hnode, hreceipt.2, hattempt, hprovider, hdeclared, hpairs, fun c hc => ?_, hcount, hacc⟩,
        hins, rfl⟩
      have hin := List.any_eq_false.mp hclaimed c hc
      simpa using hin

/-- What the tables asked of the new rows, and the store with them. -/
structure Inserted (a b : PolicyStore) (c : ReservationRow) (acc : Resolved) : Prop where
  reservation : reservationInsertable a c = true
  resources : resourcesInsertable a c acc.rows = true
  pin : pinInsertable a c acc.exportPin = true
  status : statusInsertable a c = true
  stored : b = { a with
    reservations := a.reservations ++ [c]
    resources := a.resources ++ acc.rows
    exportPins := a.exportPins ++ (acc.exportPin.map fun pin => (c.candidateId, pin)).toList
    statuses := a.statuses ++ [⟨c.candidateId, 1, .pending⟩] }

theorem insertReservation_ok {c : ReservationRow} {acc : Resolved} (h : insertReservation a c acc = .ok b) :
    Inserted a b c acc := by
  simp only [insertReservation, bind_eq_ok', exists_unit, rejectIf_ok] at h
  obtain ⟨hguard, h⟩ := h
  simp only [Bool.or_eq_false_iff, Bool.not_eq_false'] at hguard
  exact ⟨hguard.1.1.1, hguard.1.1.2, hguard.1.2, hguard.2, (Except.ok.inj h).symm⟩

theorem Inserted.fresh {c : ReservationRow} {acc : Resolved} (h : Inserted a b c acc) :
    ∀ x ∈ a.reservations, x.candidateId ≠ c.candidateId := by
  have hres := h.reservation
  simp only [reservationInsertable, Bool.and_eq_true, List.all_eq_true, decide_eq_true_eq] at hres
  exact fun x hx => (hres.1.1 x hx).1.1.1

/-- The rows of the candidate are the ones that were inserted. -/
theorem Inserted.rows {c : ReservationRow} {acc : Resolved} (h : Inserted a b c acc) :
    (b.resources.filter fun r => r.candidateId = c.candidateId) = acc.rows := by
  have hrows := h.resources
  simp only [resourcesInsertable, Bool.and_eq_true, List.all_eq_true, decide_eq_true_eq] at hrows
  have hold : (a.resources.filter fun r => r.candidateId = c.candidateId) = [] := by
    rw [List.filter_eq_nil_iff]
    intro r hr
    simpa using hrows.1.1.1.1.2 r hr
  have hnew : (acc.rows.filter fun r => r.candidateId = c.candidateId) = acc.rows := by
    rw [List.filter_eq_self]
    intro r hr
    simpa using hrows.1.1.1.1.1 r hr
  rw [h.stored, List.filter_append, hold, hnew, List.nil_append]

theorem lookup_of_notMem {β : Type} {l : List (String × β)} {id : String} (h : ∀ x ∈ l, x.1 ≠ id) :
    l.lookup id = none := by
  rw [List.lookup_eq_none_iff]
  intro x hx
  have hne := (h x hx).symm
  simpa using hne

/-- The pin of the candidate is the one that was inserted, where every other one is of a candidate that
    was there. -/
theorem Inserted.exportPin {c : ReservationRow} {acc : Resolved} (h : Inserted a b c acc)
    (hpins : ∀ x ∈ a.exportPins, ∃ c ∈ a.reservations, c.candidateId = x.1) :
    b.loadView.exportPin? c.candidateId = acc.exportPin := by
  have hfree : a.exportPins.lookup c.candidateId = none := lookup_of_notMem fun x hx he => by
    obtain ⟨y, hy, hid⟩ := hpins x hx
    exact h.fresh y hy (hid.trans he)
  show b.exportPins.lookup c.candidateId = _
  rw [h.stored]
  show (a.exportPins ++ _).lookup _ = _
  rw [List.lookup_append, hfree, Option.none_or]
  cases acc.exportPin with
  | none => rfl
  | some pin => simp

/-- **A new reservation records its request**, where every pin is of a candidate that is there. -/
theorem recorded_of_new {w : NewCandidate} (hw : w.Checked env a q)
    (hpins : ∀ x ∈ a.exportPins, ∃ c ∈ a.reservations, c.candidateId = x.1)
    (h : Inserted a b (w.row q checkedAt) w.resolved) :
    Recorded b (w.row q checkedAt) q (w.result q) := by
  obtain ⟨choices, hall, hread, hrows, hpin⟩ := resolveAll_choices hw.resolved
  have hpairs : w.pairs.length = w.declared.length := (mapM_ok.mp hw.read).length_eq.symm
  have hperm := choices_perm hall hw.claimed (hpairs.trans hw.counted)
  have hstored : b.choices q.candidateId = w.resolved.rows.map ResourceRow.choice :=
    congrArg (List.map ResourceRow.choice) h.rows
  have hlookup : b.loadView.exportPin? q.candidateId = w.resolved.exportPin := h.exportPin hpins
  refine ⟨?_, ?_, fun r hr => hread r (hperm.mem_iff.mpr hr), ?_, ?_, ?_, rfl, rfl, ?_⟩
  · show b.reservations.find? _ = _
    have hid : (w.row q checkedAt).candidateId = q.candidateId := rfl
    rw [h.stored, ← hid]
    have hfresh : ∀ c ∈ a.reservations, c.candidateId ≠ (w.row q checkedAt).candidateId := h.fresh
    exact (find?_append_fresh hfresh).trans (if_pos rfl)
  · simp [requestMatches, NewCandidate.row, reservationRow, hw.selected]
  · rw [hstored, hrows]
    exact hperm.filterMap _
  · rw [hlookup]
    have hexports := hperm.filterMap CandidateResourceChoice.exported?
    have hpin : (w.resolved.exportPin.map ExportPin.requested).toList =
        choices.filterMap CandidateResourceChoice.exported? := hpin
    rw [← hpin] at hexports
    exact eq_of_toList_perm hexports
  · rw [hstored, List.length_map]
    rfl
  · rw [hstored, List.length_map]
    rfl

end New

end Aios.Policy
