/-
  File:      Aios/Ir/Unused.lean
  Subject:   THE WARNINGS OF UNUSED PURE NODES: one for each node whose effects are {PURE} and whose
             results lead nowhere.

  Every such node starts a search of its own over the consumers. The consumer sets hold the data flow,
  parallel references once (`buildConsumers_spec`), and the search is exact (Lib/Search.lean): it succeeds
  exactly where a path of the data flow ends at a useful node (`isUseful_iff`).
-/
import Aios.Ir.Guarantees
import Aios.Ir.Recomputed

namespace Aios

open Lib

/-! ## 1. The consumers -/

theorem mem_insertConsumer {consumer producer : String} {consumers : ConsumerMap} {u v : String} :
    v ∈ consumersOf (consumers.insert producer ((consumers.getD producer ∅).insert consumer)) u ↔
      v ∈ consumersOf consumers u ∨ (v = consumer ∧ u = producer) :=
  mem_addEdge (g := (consumers, ∅))

/-- The edges of one node. -/
theorem mem_insertConsumers {consumer u v : String} : ∀ (ps : List String) (consumers : ConsumerMap),
    v ∈ consumersOf (ps.foldl (fun consumers producer =>
        consumers.insert producer ((consumers.getD producer ∅).insert consumer)) consumers) u ↔
      v ∈ consumersOf consumers u ∨ (v = consumer ∧ u ∈ ps)
  | [], consumers => by simp
  | p :: ps, consumers => by
      rw [List.foldl_cons, mem_insertConsumers ps, mem_insertConsumer, List.mem_cons]
      tauto

theorem mem_foldConsumers {u v : String} : ∀ (l : List Node) (consumers : ConsumerMap),
    v ∈ consumersOf (l.foldl (fun consumers node => (producers node).foldl (fun consumers producer =>
        consumers.insert producer ((consumers.getD producer ∅).insert node.id)) consumers) consumers) u ↔
      v ∈ consumersOf consumers u ∨ ∃ n ∈ l, n.id = v ∧ u ∈ producers n
  | [], consumers => by simp
  | n :: l, consumers => by
      rw [List.foldl_cons, mem_foldConsumers l, mem_insertConsumers, List.exists_mem_cons_iff, or_assoc,
        eq_comm (a := v)]

/-- **The consumers the source collects are the data flow.** -/
theorem buildConsumers_spec (program : AiosIr) (u v : String) :
    v ∈ consumersOf (buildConsumers program) u ↔ FeedsNode program u v := by
  unfold buildConsumers FeedsNode
  rw [mem_foldConsumers]
  simp [consumersOf, mem_producers]

/-! ## 2. Useful nodes -/

/-- A program output refers to the node. -/
def FeedsOutput (program : AiosIr) (id : String) : Prop :=
  ∃ name port : String, program.outputs[name]? = some (.node id port)

/-- The node has an effect other than PURE. -/
def HasEffect (program : AiosIr) (registry : SemanticRegistry) (id : String) : Prop :=
  ∃ n ∈ program.nodes, n.id = id ∧ ∃ e ∈ resolvedEffects registry n, e ≠ .pure

/-- The effects are {PURE}. -/
def OnlyPure (effects : EffectSet) : Prop := ∀ e, e ∈ effects ↔ e = .pure

/-- A path of the data flow leads from the node to a program output or to an effect. -/
def LeadsSomewhere (program : AiosIr) (registry : SemanticRegistry) (id : String) : Prop :=
  ∃ target, Relation.ReflTransGen (FeedsNode program) id target ∧
    (FeedsOutput program target ∨ HasEffect program registry target)

/-- The node is pure, and its results lead nowhere. -/
def Unused (program : AiosIr) (registry : SemanticRegistry) (node : Node) : Prop :=
  OnlyPure (resolvedEffects registry node) ∧ ¬LeadsSomewhere program registry node.id

theorem mem_outputNodes {program : AiosIr} {id : String} :
    id ∈ outputNodes program ↔ FeedsOutput program id := by
  unfold outputNodes FeedsOutput
  rw [List.mem_filterMap]
  constructor
  · rintro ⟨⟨name, r⟩, hr, e⟩
    rw [Std.ExtTreeMap.mem_toList_iff_getElem?_eq_some] at hr
    cases r with
    | input _ => cases e
    | node node port =>
        obtain rfl := Option.some.inj e
        exact ⟨name, port, hr⟩
  · rintro ⟨name, port, h⟩
    exact ⟨(name, .node id port), Std.ExtTreeMap.mem_toList_iff_getElem?_eq_some.mpr h, rfl⟩

theorem onlyPure_toList {effects : EffectSet} : OnlyPure effects ↔ effects.toList = [.pure] := by
  constructor
  · intro h
    have hnodup := nodup_toList effects
    have hmem : ∀ e, e ∈ effects.toList ↔ e = .pure := fun e => by
      rw [Std.ExtTreeSet.mem_toList, h e]
    cases hlist : effects.toList with
    | nil => exact absurd ((hmem .pure).mpr rfl) (hlist ▸ List.not_mem_nil)
    | cons a rest =>
        rw [hlist] at hnodup hmem
        obtain rfl := (hmem a).mp List.mem_cons_self
        cases rest with
        | nil => rfl
        | cons b rest =>
            obtain rfl := (hmem b).mp (List.mem_cons_of_mem _ List.mem_cons_self)
            exact absurd List.mem_cons_self (List.nodup_cons.mp hnodup).1
  · intro h e
    rw [← Std.ExtTreeSet.mem_toList, h, List.mem_singleton]

/-- The test of the source: one element, and PURE among them. -/
theorem isEffectful_iff {effects : EffectSet} : isEffectful effects = false ↔ OnlyPure effects := by
  unfold isEffectful
  rw [Bool.or_eq_false_iff, decide_eq_false_iff_not, not_not, Bool.not_eq_false',
    Std.ExtTreeSet.contains_iff_mem, ← Std.ExtTreeSet.length_toList, onlyPure_toList]
  constructor
  · rintro ⟨hlength, hpure⟩
    obtain ⟨a, ha⟩ := List.length_eq_one_iff.mp hlength
    rw [← Std.ExtTreeSet.mem_toList, ha] at hpure
    rw [ha, List.mem_singleton.mp hpure]
  · intro h
    rw [← Std.ExtTreeSet.mem_toList, h]
    exact ⟨rfl, List.mem_singleton_self _⟩

section Search

variable {program : AiosIr} {registry : SemanticRegistry} {effects : EffectMap}

/-- A derived set is {PURE} or holds another effect. -/
theorem effectful_resolved (haccepted : Accepted program registry) {n : Node} (hn : n ∈ program.nodes) :
    isEffectful (resolvedEffects registry n) = true ↔ ∃ e ∈ resolvedEffects registry n, e ≠ .pure := by
  obtain ⟨c, -, hderived, -⟩ := haccepted.contract hn
  rw [hderived]
  constructor
  · intro h
    by_contra hnone
    have hall : ∀ e ∈ derivedEffects c n, e = .pure := fun e he => by
      by_contra hne
      exact hnone ⟨e, he, hne⟩
    have hnot : ¬OnlyPure (derivedEffects c n) := fun hp => by
      rw [isEffectful_iff.mpr hp] at h
      cases h
    refine hnot (pure_mem_derivedEffects.mp ?_)
    rw [mem_derivedEffects]
    by_cases hsource : ∃ f, EffectSource c n f
    · obtain ⟨f, hf⟩ := hsource
      exact absurd (hall f (mem_derivedEffects.mpr (.inl hf))) (not_pure_of_source hf)
    · exact .inr ⟨rfl, fun f hf => hsource ⟨f, hf⟩⟩
  · rintro ⟨e, he, hne⟩
    by_contra h
    exact hne ((isEffectful_iff.mp (Bool.not_eq_true _ ▸ h) e).mp he)

theorem mem_effectful (haccepted : Accepted program registry)
    (heff : EffectsOf registry effects program.nodes) {id : String} :
    id ∈ (effects.toList.filter fun p => isEffectful p.2).map Prod.fst ↔ HasEffect program registry id := by
  unfold HasEffect
  simp only [List.mem_map, List.mem_filter]
  constructor
  · rintro ⟨⟨id, s⟩, ⟨hs, heffectful⟩, rfl⟩
    obtain ⟨n, hn, hid, rfl⟩ := (heff id s).mp (Std.ExtTreeMap.mem_toList_iff_getElem?_eq_some.mp hs)
    exact ⟨n, hn, hid, (effectful_resolved haccepted hn).mp heffectful⟩
  · rintro ⟨n, hn, rfl, h⟩
    exact ⟨(n.id, resolvedEffects registry n),
      ⟨Std.ExtTreeMap.mem_toList_iff_getElem?_eq_some.mpr (heff.get hn),
        (effectful_resolved haccepted hn).mpr h⟩, rfl⟩

/-- **The search of the source is exact.** -/
theorem isUseful_iff (haccepted : Accepted program registry)
    (heff : EffectsOf registry effects program.nodes) (id : String) :
    isUseful program effects id = true ↔ LeadsSomewhere program registry id := by
  have hsucc : Succ (consumersOf (buildConsumers program)) = FeedsNode program := by
    funext a b
    exact propext (buildConsumers_spec program a b)
  have hkeys : ∀ a, a ∉ (buildConsumers program).keys → consumersOf (buildConsumers program) a = [] := by
    intro a ha
    rw [Std.ExtTreeMap.mem_keys] at ha
    unfold consumersOf
    rw [Std.ExtTreeMap.getElem?_eq_none ha]
  have hcost : cost (consumersOf (buildConsumers program)) (buildConsumers program).keys [id] [] ≤
      consumerFuel (buildConsumers program) := by
    unfold cost consumerFuel
    simp
  unfold isUseful LeadsSomewhere
  rw [searchUnseen_iff hkeys hcost, hsucc]
  refine exists_congr fun target => and_congr Iff.rfl ?_
  rw [Bool.or_eq_true, List.contains_iff_mem, List.contains_iff_mem, mem_outputNodes,
    mem_effectful haccepted heff]

end Search

/-! ## 3. The warnings -/

/-- What is reported of an unused node. -/
def unusedWarning (node : Node) (nodeIndex : Nat) : Diagnostic :=
  contextual .irGraphUnusedPureNode "pure node has no path to a program output or effectful node"
    (some node.id) none (some node.operation.capability) (some s!"/nodes/{nodeIndex}")

/-- The warnings are those of the unused nodes, one for each. -/
structure WarnsUnused (program : AiosIr) (registry : SemanticRegistry) (warnings : List Diagnostic) :
    Prop where
  /-- every warning is that of a node -/
  each : ∀ w ∈ warnings, ∃ n i, program.nodes[i]? = some n ∧ w = unusedWarning n i
  exact : ∀ n ∈ program.nodes, (∃ w ∈ warnings, w.nodeId = some n.id) ↔ Unused program registry n
  once : (warnings.map Diagnostic.nodeId).Nodup

section Warnings

variable {program : AiosIr} {registry : SemanticRegistry} {effects : EffectMap} {warnings : List Diagnostic}

/-- One node is reported exactly when it is unused. -/
theorem warnUnusedPureNode_eq (haccepted : Accepted program registry)
    (heff : EffectsOf registry effects program.nodes) {n : Node} (hn : n ∈ program.nodes) (i : Nat) :
    (Unused program registry n ∧ warnUnusedPureNode program effects n i = .ok [unusedWarning n i]) ∨
      (¬Unused program registry n ∧ warnUnusedPureNode program effects n i = .ok []) := by
  unfold warnUnusedPureNode Unused
  rw [heff.get hn, show expect (some (resolvedEffects registry n)) _ = Except.ok _ from rfl, ok_bind]
  by_cases hpure : isEffectful (resolvedEffects registry n) = true
  · rw [if_pos hpure]
    refine .inr ⟨fun h => ?_, rfl⟩
    rw [isEffectful_iff.mpr h.1] at hpure
    cases hpure
  · rw [if_neg hpure]
    by_cases huseful : isUseful program effects n.id = true
    · rw [if_pos huseful]
      exact .inr ⟨fun h => h.2 ((isUseful_iff haccepted heff n.id).mp huseful), rfl⟩
    · rw [if_neg huseful]
      exact .inl ⟨⟨isEffectful_iff.mp (Bool.not_eq_true _ ▸ hpure),
        fun h => huseful ((isUseful_iff haccepted heff n.id).mpr h)⟩, rfl⟩

/-- The warnings of a part of the nodes name some of them, in their order. -/
theorem collect_nodeIds (haccepted : Accepted program registry)
    (heff : EffectsOf registry effects program.nodes) : ∀ (l : List (Node × Nat)) {ds : List Diagnostic},
    (∀ p ∈ l, p.1 ∈ program.nodes) →
    collect l (fun p => warnUnusedPureNode program effects p.1 p.2) = .ok ds →
    (ds.map Diagnostic.nodeId).Sublist (l.map fun p => some p.1.id)
  | [], ds, _, h => by
      obtain rfl : [] = ds := Except.ok.inj h
      exact .slnil
  | p :: l, ds, hl, h => by
      rw [collect, bind_eq_ok'] at h
      obtain ⟨xs, hxs, h⟩ := h
      rw [bind_eq_ok'] at h
      obtain ⟨ys, hys, h⟩ := h
      obtain rfl : xs ++ ys = ds := Except.ok.inj h
      have ih := collect_nodeIds haccepted heff l (fun q hq => hl q (List.mem_cons_of_mem _ hq)) hys
      rcases warnUnusedPureNode_eq haccepted heff (hl p List.mem_cons_self) p.2 with ⟨-, hp⟩ | ⟨-, hp⟩
      · rw [hp] at hxs
        obtain rfl := Except.ok.inj hxs
        exact ih.cons_cons _
      · rw [hp] at hxs
        obtain rfl := Except.ok.inj hxs
        exact ih.cons _

/-- **What `warn_unused_pure_nodes` reports are the unused nodes.** -/
theorem warnUnusedPureNodes_exact (haccepted : Accepted program registry)
    (heff : EffectsOf registry effects program.nodes)
    (h : warnUnusedPureNodes program effects = .ok warnings) : WarnsUnused program registry warnings := by
  obtain ⟨hall, honly⟩ := mem_collect h
  have hnode : ∀ p ∈ program.nodes.zipIdx, p.1 ∈ program.nodes := fun p hp => List.fst_mem_of_mem_zipIdx hp
  have hfound : ∀ w ∈ warnings, ∃ n i, program.nodes[i]? = some n ∧ Unused program registry n ∧
      w = unusedWarning n i := by
    intro w hw
    obtain ⟨p, hp, xs, hrun, hmem⟩ := honly w hw
    rcases warnUnusedPureNode_eq haccepted heff (hnode p hp) p.2 with ⟨hunused, hp'⟩ | ⟨-, hp'⟩
    · rw [hp'] at hrun
      obtain rfl := Except.ok.inj hrun
      exact ⟨p.1, p.2, List.mem_zipIdx_iff_getElem?.mp hp, hunused, List.mem_singleton.mp hmem⟩
    · rw [hp'] at hrun
      obtain rfl := Except.ok.inj hrun
      cases hmem
  refine ⟨fun w hw => ?_, fun n hn => ⟨?_, fun hunused => ?_⟩, ?_⟩
  · obtain ⟨n, i, hn, -, he⟩ := hfound w hw
    exact ⟨n, i, hn, he⟩
  · rintro ⟨w, hw, hid⟩
    obtain ⟨m, i, hm, hunused, rfl⟩ := hfound w hw
    rwa [haccepted.ids.eq (List.mem_of_getElem? hm) hn (Option.some.inj hid)] at hunused
  · obtain ⟨i, hi⟩ := List.mem_iff_getElem?.mp hn
    obtain ⟨xs, hrun, hmem⟩ := hall (n, i) (List.mem_zipIdx_iff_getElem?.mpr hi)
    rcases warnUnusedPureNode_eq haccepted heff hn i with ⟨-, he⟩ | ⟨hnot, -⟩
    · rw [he] at hrun
      obtain rfl := Except.ok.inj hrun
      exact ⟨unusedWarning n i, hmem _ (List.mem_singleton_self _), rfl⟩
    · exact absurd hunused hnot
  · have hsub := collect_nodeIds haccepted heff _ hnode h
    refine hsub.nodup ?_
    have hids : (program.nodes.zipIdx.map fun p => some p.1.id) = (program.nodes.map (·.id)).map some := by
      calc (program.nodes.zipIdx.map fun p => some p.1.id)
          = (program.nodes.zipIdx.map Prod.fst).map fun n => some n.id := by rw [List.map_map]; rfl
        _ = (program.nodes.map (·.id)).map some := by rw [List.zipIdx_map_fst, List.map_map]; rfl
    rw [hids]
    exact haccepted.ids.map (Option.some_injective _)

end Warnings

/-- **Unused-node warnings are exact.** The analysis of an accepted program pushes the warning of each
    unused node once, and no other. -/
theorem unused_warnings_exact {program : AiosIr} {registry : SemanticRegistry} {d d' : DiagnosticCollector}
    {summary : EffectSummary} (h : analyze program registry d = .ok (some summary, d')) :
    ∃ effects warnings, EffectsOf registry effects program.nodes ∧
      warnUnusedPureNodes program effects = .ok warnings ∧ d' = d.pushAll warnings ∧
      WarnsUnused program registry warnings := by
  obtain ⟨hclean, haccepted⟩ := clean_of_analyze h
  obtain ⟨effects, warnings, heff, hwarned, -, hrun⟩ := analyze_accepted hclean haccepted
  rw [h] at hrun
  have hd : d' = d.pushAll warnings := congrArg Prod.snd (Except.ok.inj hrun)
  exact ⟨effects, warnings, heff, hwarned, hd, warnUnusedPureNodes_exact haccepted heff hwarned⟩

/-- A node beside the sample whose document nobody reads. -/
def idleProgram : AiosIr :=
  { sampleProgram [] with
    nodes := sampleNode "idle" "doc.clean@1" (.input "doc") :: (sampleProgram []).nodes }

theorem idle_warnings : ∃ effects warnings,
    EffectsOf sampleRegistry effects idleProgram.nodes ∧
      warnUnusedPureNodes idleProgram effects = .ok warnings ∧
      WarnsUnused idleProgram sampleRegistry warnings := by
  have hidle : isAccepted idleProgram sampleRegistry = true := by decide +kernel
  obtain ⟨_, _, _, h⟩ := analyzed_of_isAccepted hidle
  obtain ⟨effects, warnings, heff, hwarned, -, hexact⟩ := unused_warnings_exact h
  exact ⟨effects, warnings, heff, hwarned, hexact⟩

end Aios
