/-
  File:      Aios/Policy/Loaded.lean
  Subject:   What a successful load says about the candidate: which rows its resources come from, in
             which order, and what kinds they are of.
-/
import Aios.Policy.Issue

namespace Aios.Policy

open Lib Provenance

/-! ## 1. The shape of a resource -/

/-- A resource as the binding wires it. -/
def ResourceFacts.bindingResource (r : ResourceFacts) : BindingResource :=
  ⟨r.action, r.selector, r.kind, r.id, r.outputPort, r.semanticType⟩

/-- The action of a resource goes with its kind. -/
def ResourceFacts.Regular (r : ResourceFacts) : Prop :=
  (r.action = "artifact.read" ∧ r.kind = "artifact") ∨
    (r.action = "artifact.write" ∧ r.kind = "output-allocation") ∨
    (r.action = "data.egress" ∧ r.kind = "external-destination")

section Load

variable {env : PolicyEnv} {view : LoadView} {taskId id : String} {now : Int}

theorem loadResource_ok {row : ResourceRow} {r : ResourceFacts}
    (h : loadResource env view taskId now row = .ok r) :
    r.bindingResource = row.bindingResource ∧ r.Regular ∧ r.exportPin = none := by
  unfold loadResource at h
  split at h
  · next hkind =>
      simp only [bind_eq_ok', exists_unit, expect_ok, rejectIf_ok] at h
      obtain ⟨a, -, hadm, h⟩ := h
      obtain rfl := (Except.ok.inj h).symm
      have hread : row.action = "artifact.read" := by
        simp only [Bool.or_eq_false_iff, Bool.not_eq_eq_eq_not, Bool.not_false] at hadm
        have hin := hadm.1.1
        simp only [inputAdmissible, Bool.and_eq_true, decide_eq_true_eq] at hin
        exact hin.1.1.1.1.1
      exact ⟨rfl, .inl ⟨hread, hkind⟩, rfl⟩
  · simp only [bind_eq_ok', exists_unit, rejectIf_ok] at h
    obtain ⟨hadm, h⟩ := h
    obtain rfl := (Except.ok.inj h).symm
    simp only [Bool.or_eq_false_iff, decide_eq_false_iff_not, not_not] at hadm
    exact ⟨rfl, .inr (.inl ⟨hadm.1.2, hadm.1.1⟩), rfl⟩

theorem loadCurrentExportPin_ok {t : TaskRow} {pin : Option ExportPin}
    (h : loadCurrentExportPin env view t id = .ok pin) : view.exportPin? id = pin := by
  unfold loadCurrentExportPin at h
  split at h
  · next hnone => rw [hnone, ← Except.ok.inj h]
  · next p hsome =>
      simp only [bind_eq_ok', exists_unit, rejectIf_ok] at h
      rw [hsome, ← Except.ok.inj h.2]

theorem withExport_ok {constraints : List (String × Json)} {reserved all : List ResourceFacts}
    {pin : Option ExportPin} (h : withExport constraints reserved pin = .ok all) :
    all = reserved ++ (pin.map exportFacts).toList := by
  cases pin with
  | none =>
      rw [← Except.ok.inj h]
      exact (List.append_nil _).symm
  | some p =>
      simp only [withExport, bind_eq_ok', exists_unit, rejectIf_ok] at h
      exact (Except.ok.inj h.2).symm

/-- Labels change neither the wiring of a resource nor its kind nor its pin. -/
theorem labelOutputs_map {β : Type} {f : ResourceFacts → β}
    (hf : ∀ r s t, f { r with sensitivity := s, retention := t } = f r) (sensitivity retention : String)
    (resources : List ResourceFacts) :
    (labelOutputs sensitivity retention resources).map f = resources.map f := by
  unfold labelOutputs
  rw [List.map_map]
  refine List.map_congr_left fun r _ => ?_
  show f (if _ then _ else _) = f r
  split
  · exact hf r _ _
  · rfl

/-! ## 2. The load -/

/-- Everything `load` found in the view. -/
structure LoadedFrom (env : PolicyEnv) (view : LoadView) (id : String) (now : Int)
    (facts : CandidateFacts) : Prop where
  reserved : view.reservation? id = some facts.candidate
  pending : view.state? id = some .pending
  wiring : facts.resources.map ResourceFacts.bindingResource =
    (view.resourcesOf id).map ResourceRow.bindingResource ++
      ((view.exportPin? id).map ExportPin.bindingResource).toList
  regular : ∀ r ∈ facts.resources, r.Regular
  task : ∃ t, view.world.task? facts.candidate.taskId = some t ∧ facts.taskState = t.state ∧
    facts.taskPrincipalId = t.principalId
  node : ∃ t p node, view.world.task? facts.candidate.taskId = some t ∧
    activeProgram view.world t facts.candidate = some p ∧ loadNode env facts.candidate p = .ok node ∧
    checkNode node facts.resources = .ok ()

theorem loadFacts_ok {facts : CandidateFacts} (h : loadFacts env view id now = .ok facts) :
    LoadedFrom env view id now facts := by
  simp only [loadFacts, bind_eq_ok', exists_unit, expect_ok, rejectIf_ok, Prod.exists] at h
  obtain ⟨c, t, hcand, constraints, -, p, hp, reserved, hres, pin, hpin, exported, hexp, sensitivity, -,
    retention, -, -, node, hnode, hcheck, h⟩ := h
  obtain rfl := (Except.ok.inj h).symm
  simp only [loadCandidate, bind_eq_ok', exists_unit, expect_ok, rejectIf_ok] at hcand
  obtain ⟨c', hc, hpend, t', ht, -, -, he⟩ := hcand
  obtain ⟨rfl, rfl⟩ := Prod.mk.inj (Except.ok.inj he)
  have hpin' := loadCurrentExportPin_ok hpin
  have hregular : ∀ r ∈ reserved, r.Regular := by
    intro r hr
    obtain ⟨row, -, hrow⟩ := exists_of_mem_mapM hres hr
    exact (loadResource_ok hrow).2.1
  have hwire : reserved.map ResourceFacts.bindingResource =
      (view.resourcesOf id).map ResourceRow.bindingResource :=
    map_of_mapM (fun _ _ hr => (loadResource_ok hr).1) hres
  refine ⟨hc, ?_, ?_, ?_, ⟨t', ht, rfl, rfl⟩, ⟨t', p, node, ht, hp, hnode, hcheck⟩⟩
  · simpa using hpend
  · rw [withExport_ok hexp, labelOutputs_map (fun _ _ _ => rfl), List.map_append, hwire, hpin']
    cases pin with
    | none => rfl
    | some p => rfl
  · intro r hr
    obtain ⟨s, hs, rfl⟩ := List.mem_map.mp hr
    have hs' : s.Regular := by
      rw [withExport_ok hexp] at hs
      rcases List.mem_append.mp hs with hs | hs
      · exact hregular s hs
      · cases pin with
        | none => cases hs
        | some p =>
            rw [List.mem_singleton.mp hs]
            exact .inr (.inr ⟨rfl, rfl⟩)
    split
    · exact hs'
    · exact hs'

theorem load_ok {store : PolicyStore} {facts : CandidateFacts}
    (h : CandidateFacts.load env store id now = .ok facts) :
    LoadedFrom env store.loadView id now facts := loadFacts_ok h

end Load

end Aios.Policy
