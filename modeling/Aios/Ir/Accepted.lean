/-
  File:      Aios/Ir/Accepted.lean
  Subject:   WHAT THE ANALYSIS ACCEPTS, without indices, maps or diagnostics.

  `Accepted` collects the properties of the phases. `analyze_spec` is the one theorem later results
  use: the analysis always returns, it returns a summary exactly for an accepted program, and the
  summary is the one of the derived effects (`summaryOf`).
-/
import Aios.Ir.Fallbacks
import Aios.Ir.Graph

namespace Aios

open Lib

structure Accepted (program : AiosIr) (registry : SemanticRegistry) : Prop where
  ids : UniqueIds program
  references : ReferencesOk program
  acyclic : ¬ Cyclic program
  types : TypesOk program registry
  effects : ∀ n ∈ program.nodes, ∀ c,
    registry.findCapability n.operation.capability = some c → NodeEffectsOk program c n
  fallbacks : ∀ n ∈ program.nodes, NodeFallbacksOk program registry n

variable {registry : SemanticRegistry} {program : AiosIr} {s : EffectSummary}

/-- **Every node of an accepted program has its contract**, and passes against it. -/
theorem Accepted.contract (h : Accepted program registry) {n : Node} (hn : n ∈ program.nodes) :
    ∃ c, registry.findCapability n.operation.capability = some c ∧
      resolvedEffects registry n = derivedEffects c n ∧ NodeFits program registry n c ∧
      NodeEffectsOk program c n := by
  obtain ⟨c, hc, hfits⟩ := h.types.nodes n hn
  refine ⟨c, hc, ?_, hfits, h.effects n hn c hc⟩
  unfold resolvedEffects
  rw [hc]

/-! ## 1. The summary -/

/-- The effects of all nodes; PURE is dropped beside another effect. -/
def programEffects (registry : SemanticRegistry) (l : List Node) : EffectSet :=
  let union : EffectSet :=
    Std.ExtTreeSet.ofList (l.flatMap fun n => (resolvedEffects registry n).toList)
  if 1 < union.size then union.erase .pure else union

/-- The summary of an accepted program. -/
def summaryOf (program : AiosIr) (registry : SemanticRegistry) : EffectSummary :=
  let ordered := orderedNodes program
  { schemaVersion := "0.1"
    semanticProgramHash := ""
    registrySnapshotId := registry.snapshotId
    effects := (programEffects registry ordered).toList
    authorityClasses :=
      (Std.ExtTreeSet.ofList (ordered.flatMap requestedActions) : Std.ExtTreeSet String).toList
    egressModes :=
      (Std.ExtTreeSet.ofList (ordered.map (·.egress.mode)) : Std.ExtTreeSet EgressMode).toList
    containsProbabilistic := ordered.any (·.executionClass = .probabilistic)
    containsOpaqueExternal := ordered.any (·.executionClass = .opaqueExternal) ||
      ordered.any fun n => (resolvedEffects registry n).contains .legacyOpaque
    nodes := ordered.map fun n => nodeSummary n (resolvedEffects registry n)
    verificationBarriers := (ordered.filter (·.operation.kind = .verify)).map (·.id)
    generatedBy := some ⟨some "org.ainative.aios-ir-validator", some "0.1.0"⟩
    generatedAt := none }

theorem orderedNodes_perm (program : AiosIr) : (orderedNodes program).Perm program.nodes :=
  sortOn_perm _ _

theorem mem_orderedNodes {n : Node} :
    n ∈ orderedNodes program ↔ n ∈ program.nodes := (orderedNodes_perm program).mem_iff

/-- The loop of the summary adds the nodes of the list to what it has. -/
theorem summarizeNodes_spec (registry : SemanticRegistry) {nodeEffects : EffectMap} :
    ∀ (l : List Node) (s : SummaryState),
    (∀ n ∈ l, nodeEffects[n.id]? = some (resolvedEffects registry n)) →
    ∃ s', summarizeNodes nodeEffects l s = .ok s' ∧
      (∀ e, e ∈ s'.effects ↔ e ∈ s.effects ∨ ∃ n ∈ l, e ∈ resolvedEffects registry n) ∧
      (∀ a, a ∈ s'.authorityClasses ↔ a ∈ s.authorityClasses ∨ ∃ n ∈ l, a ∈ requestedActions n) ∧
      (∀ m, m ∈ s'.egressModes ↔ m ∈ s.egressModes ∨ ∃ n ∈ l, n.egress.mode = m) ∧
      s'.nodes = s.nodes ++ l.map (fun n => nodeSummary n (resolvedEffects registry n)) ∧
      s'.verificationBarriers = s.verificationBarriers ++
        (l.filter (·.operation.kind = .verify)).map (·.id)
  | [], s, _ => ⟨s, rfl, by simp, by simp, by simp, by simp, by simp⟩
  | node :: rest, s, h => by
      obtain ⟨s', hs', h1, h2, h3, h4, h5⟩ := summarizeNodes_spec registry rest
        { effects := s.effects.insertMany (resolvedEffects registry node).toList
          authorityClasses := s.authorityClasses.insertMany (nodeAuthorities node).toList
          egressModes := s.egressModes.insert node.egress.mode
          nodes := s.nodes ++ [nodeSummary node (resolvedEffects registry node)]
          verificationBarriers :=
            if node.operation.kind = .verify then s.verificationBarriers ++ [node.id]
            else s.verificationBarriers }
        fun n hn => h n (List.mem_cons_of_mem _ hn)
      refine ⟨s', ?_, fun e => ?_, fun a => ?_, fun m => ?_, ?_, ?_⟩
      · rw [summarizeNodes, bind_eq_ok']
        exact ⟨resolvedEffects registry node, expect_ok.mpr (h node List.mem_cons_self), hs'⟩
      · rw [h1 e, List.exists_mem_cons_iff, ← or_assoc]
        simp
      · rw [h2 a, List.exists_mem_cons_iff, ← or_assoc]
        simp [nodeAuthorities]
      · rw [h3 m, List.exists_mem_cons_iff, ← or_assoc, Std.ExtTreeSet.mem_insert,
          Std.LawfulEqCmp.compare_eq_iff_eq, or_comm (a := node.egress.mode = m)]
      · rw [h4]
        simp
      · rw [h5]
        by_cases hk : node.operation.kind = .verify
        · rw [if_pos hk, List.filter_cons_of_pos (by simpa using hk)]
          simp
        · rw [if_neg hk, List.filter_cons_of_neg (by simpa using hk)]

/-- **The summary of the source is `summaryOf`.** -/
theorem buildSummary_eq {nodeEffects : EffectMap} (heff : EffectsOf registry nodeEffects program.nodes) :
    buildSummary program registry.snapshotId "" nodeEffects = .ok (summaryOf program registry) := by
  obtain ⟨s, hs, h1, h2, h3, h4, h5⟩ := summarizeNodes_spec registry
    (orderedNodes program) ⟨∅, ∅, ∅, [], []⟩ fun n hn => heff.get (mem_orderedNodes.mp hn)
  have heffects : s.effects = (Std.ExtTreeSet.ofList
      ((orderedNodes program).flatMap fun n => (resolvedEffects registry n).toList) : EffectSet) := by
    refine Std.ExtTreeSet.ext_mem fun e => ?_
    rw [h1 e]
    simp
  have hauth : s.authorityClasses = (Std.ExtTreeSet.ofList
      ((orderedNodes program).flatMap requestedActions) : Std.ExtTreeSet String) := by
    refine Std.ExtTreeSet.ext_mem fun a => ?_
    rw [h2 a]
    simp
  have hegress : s.egressModes = (Std.ExtTreeSet.ofList
      ((orderedNodes program).map (·.egress.mode)) : Std.ExtTreeSet EgressMode) := by
    refine Std.ExtTreeSet.ext_mem fun m => ?_
    rw [h3 m]
    simp
  have hany : ∀ f : Node → Bool, program.nodes.any f = (orderedNodes program).any f := by
    intro f
    rw [Bool.eq_iff_iff, List.any_eq_true, List.any_eq_true]
    simp only [mem_orderedNodes]
  have hopaque : (nodeEffects.toList.any fun p => p.2.contains .legacyOpaque) =
      program.nodes.any fun n => (resolvedEffects registry n).contains .legacyOpaque := by
    rw [Bool.eq_iff_iff, List.any_eq_true, List.any_eq_true]
    constructor
    · rintro ⟨⟨id, effects⟩, hm, hc⟩
      have hm := Std.ExtTreeMap.mem_toList_iff_getElem?_eq_some.mp hm
      obtain ⟨n, hn, _, rfl⟩ := (heff id effects).mp hm
      exact ⟨n, hn, hc⟩
    · rintro ⟨n, hn, hc⟩
      exact ⟨(n.id, resolvedEffects registry n),
        Std.ExtTreeMap.mem_toList_iff_getElem?_eq_some.mpr (heff.get hn), hc⟩
  unfold buildSummary
  rw [hs]
  show Except.ok _ = Except.ok _
  unfold summaryOf programEffects
  simp only [heffects, hauth, hegress, h4, h5, hopaque, hany, List.nil_append]

/-! ## 2. Unused pure nodes -/

/-- The warnings return, and none is an error. -/
theorem warnUnusedPureNodes_spec
    {nodeEffects : EffectMap} (heff : EffectsOf registry nodeEffects program.nodes) :
    ∃ ds, warnUnusedPureNodes program nodeEffects = .ok ds ∧ ∀ d ∈ ds, d.severity ≠ .error := by
  have hnode : ∀ p ∈ program.nodes.zipIdx, ∃ ds,
      warnUnusedPureNode program nodeEffects p.1 p.2 = .ok ds ∧ ∀ d ∈ ds, d.severity ≠ .error := by
    intro p hp
    unfold warnUnusedPureNode
    rw [heff.get (List.fst_mem_of_mem_zipIdx hp)]
    simp only [expect, bind, Except.bind]
    split
    · exact ⟨[], rfl, by simp⟩
    · split
      · exact ⟨[], rfl, by simp⟩
      · exact ⟨_, rfl, by simp [ValidatorReasonCode.severity]⟩
  obtain ⟨ds, hds⟩ := collect_total fun p hp => (hnode p hp).imp fun _ h => h.1
  refine ⟨ds, hds, fun d hd => ?_⟩
  obtain ⟨p, hp, found, hrun, hmem⟩ := (mem_collect hds).2 d hd
  obtain ⟨found', hrun', hall⟩ := hnode p hp
  rw [hrun] at hrun'
  cases hrun'
  exact hall d hmem

/-! ## 3. The analysis -/

/-- A run returns: with the summary and no error where the condition holds, with none and an error
    elsewhere. -/
def Outcome (x : Analysis) (accepted : Prop) (summary : EffectSummary) : Prop :=
  ∃ o d, x = .ok (o, d) ∧ ((accepted ∧ o = some summary ∧ d.hasErrors = false) ∨
    (¬ accepted ∧ o = none ∧ d.hasErrors = true))

/-- What a run from a clean collector pushes: nothing but warnings where the condition holds, at
    least one error and nothing but errors elsewhere. -/
def Traced (x : Analysis) (d : DiagnosticCollector) (accepted : Prop) (summary : EffectSummary) :
    Prop :=
  ∃ found, (x = .ok (some summary, d.pushAll found) ∧ accepted ∧ ∀ w ∈ found, w.severity ≠ .error) ∨
    (x = .ok (none, d.pushAll found) ∧ ¬ accepted ∧ AllErrors found ∧ found ≠ [])

theorem Traced.congr {x : Analysis} {d : DiagnosticCollector} {p q : Prop}
    (h : Traced x d p s) (hpq : p ↔ q) : Traced x d q s := by
  rw [propext hpq] at h
  exact h

/-- A phase that is clean exactly when `p` holds puts `p` before the condition of the rest. -/
theorem afterPhase_traced {d : DiagnosticCollector} {found : List Diagnostic}
    {next : DiagnosticCollector → Analysis} {p q : Prop}
    (hd : d.hasErrors = false) (herr : AllErrors found) (hnil : found = [] ↔ p)
    (hnext : p → Traced (next d) d q s) : Traced (afterPhase d found next) d (p ∧ q) s := by
  unfold afterPhase
  by_cases hfound : found = []
  · have hp : p := hnil.mp hfound
    have hpush : d.pushAll found = d := by rw [hfound]; rfl
    simp only [hpush, hd, Bool.false_eq_true, if_false]
    exact (hnext hp).congr (and_iff_right hp).symm
  · have hseen : (d.pushAll found).hasErrors = true := by
      rw [← Bool.not_eq_false]
      exact fun h => hfound ((pushAll_clean herr).mp h).2
    simp only [hseen, if_true]
    exact ⟨found, Or.inr ⟨rfl, fun h => hfound (hnil.mpr h.1), herr, hfound⟩⟩

/-- **The analysis of a clean collector always returns**: with the summary of the program and
    nothing but warnings when the program is accepted, with none and nothing but errors when not. -/
theorem analyze_traced (program : AiosIr) (registry : SemanticRegistry) {d : DiagnosticCollector}
    (hd : d.hasErrors = false) :
    Traced (analyze program registry d) d (Accepted program registry) (summaryOf program registry) := by
  have hphases : Traced (analyze program registry d) d (UniqueIds program ∧
      ReferencesOk program ∧ ¬ Cyclic program ∧ TypesOk program registry ∧
      (∀ n ∈ program.nodes, ∀ c, registry.findCapability n.operation.capability = some c →
        NodeEffectsOk program c n) ∧
      (∀ n ∈ program.nodes, NodeFallbacksOk program registry n) ∧ True)
      (summaryOf program registry) := by
    have hindexErr := indexNodes_allErrors program
    have hindexNil := indexNodes_nil program
    have hindexes : UniqueIds program → Indexes (indexNodes program).1 program :=
      indexNodes_indexes
    unfold analyze
    generalize indexNodes program = index at hindexErr hindexNil hindexes ⊢
    obtain ⟨nodes, found⟩ := index
    refine afterPhase_traced hd hindexErr hindexNil fun hu => ?_
    have hx : Indexes nodes program := hindexes hu
    refine afterPhase_traced hd (validateReferences_allErrors program nodes)
      (validateReferences_nil hx) fun hr => ?_
    obtain ⟨found, hrun, _, herr, hnil, _⟩ := validateAcyclic_spec hx hr.producersResolve
    have hnil : found = [] ↔ ¬ Cyclic program := by
      rw [← hnil, not_not]
    rw [hrun, ok_bind]
    refine afterPhase_traced hd herr hnil fun hacyclic => ?_
    obtain ⟨found, caps, hrun, herr, hnil, hcap⟩ :=
      validateTypesAndCapabilities_spec registry hx hu hr
    rw [hrun, ok_bind]
    refine afterPhase_traced hd herr hnil fun ht => ?_
    have hcap := hcap (hnil.mpr ht)
    obtain ⟨found, effects, hrun, herr, hnil, heff⟩ := validateEffects_spec hu ht hcap
    rw [hrun, ok_bind]
    refine afterPhase_traced hd herr hnil fun _ => ?_
    obtain ⟨found, hrun, herr, hnil⟩ := validateFallbacks_spec hu hr ht hcap heff
    rw [hrun, ok_bind]
    refine afterPhase_traced hd herr hnil fun _ => ?_
    obtain ⟨warnings, hrun, hwarn⟩ := warnUnusedPureNodes_spec heff
    rw [hrun, ok_bind, buildSummary_eq heff, ok_bind]
    exact ⟨warnings, Or.inl ⟨rfl, trivial, fun w hw => by simp [hwarn w hw]⟩⟩
  refine hphases.congr ⟨?_, ?_⟩
  · intro ⟨h1, h2, h3, h4, h5, h6, _⟩
    exact ⟨h1, h2, h3, h4, h5, h6⟩
  · intro h
    exact ⟨h.ids, h.references, h.acyclic, h.types, h.effects, h.fallbacks, trivial⟩

/-- **The analysis always returns**, and it returns the summary of the program exactly when the
    collector was clean and the program is accepted. -/
theorem analyze_spec (program : AiosIr) (registry : SemanticRegistry) (d : DiagnosticCollector) :
    Outcome (analyze program registry d) (d.hasErrors = false ∧ Accepted program registry)
      (summaryOf program registry) := by
  cases hd : d.hasErrors with
  | true =>
      -- the first phase already finds the error of the collector
      have hseen : (d.pushAll (indexNodes program).2).hasErrors = true := by
        rw [DiagnosticCollector.pushAll_hasErrors, hd, Bool.true_or]
      refine ⟨none, d.pushAll (indexNodes program).2, ?_, Or.inr ⟨by simp, rfl, hseen⟩⟩
      unfold analyze afterPhase
      simp only [hseen, if_true]
  | false =>
      obtain ⟨found, ⟨hrun, hacc, hwarn⟩ | ⟨hrun, hnot, herr, hne⟩⟩ :=
        analyze_traced program registry hd
      · refine ⟨_, _, hrun, Or.inl ⟨⟨rfl, hacc⟩, rfl, ?_⟩⟩
        rw [DiagnosticCollector.pushAll_hasErrors, hd, Bool.false_or, List.any_eq_false]
        intro w hw
        simpa using hwarn w hw
      · refine ⟨_, _, hrun, Or.inr ⟨fun h => hnot h.2, rfl, ?_⟩⟩
        rw [← Bool.not_eq_false]
        exact fun h => hne ((pushAll_clean herr).mp h).2

/-- A program the analysis returns a summary for was met with a clean collector and is accepted. -/
theorem clean_of_analyze {d d' : DiagnosticCollector}
    (h : analyze program registry d = .ok (some s, d')) :
    d.hasErrors = false ∧ Accepted program registry := by
  obtain ⟨o, d'', hrun, ho⟩ := analyze_spec program registry d
  rw [h] at hrun
  cases hrun
  rcases ho with ⟨ha, _, _⟩ | ⟨_, ho, _⟩
  · exact ha
  · cases ho

/-- A summary is returned for accepted programs only, and it is theirs. -/
theorem accepted_of_analyze {d d' : DiagnosticCollector}
    (h : analyze program registry d = .ok (some s, d')) :
    Accepted program registry ∧ s = summaryOf program registry := by
  obtain ⟨o, d'', hrun, ho⟩ := analyze_spec program registry d
  rw [h] at hrun
  cases hrun
  rcases ho with ⟨ha, ho, _⟩ | ⟨_, ho, _⟩
  · exact ⟨ha.2, Option.some.inj ho⟩
  · cases ho

end Aios
