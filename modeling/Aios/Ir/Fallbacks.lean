/-
  File:      Aios/Ir/Fallbacks.lean
  Subject:   The fallback phase: envelopes, ports and the recursion check.

  The recursion check searches the union of all nodes' fallback lists once per listed fallback;
  the search is exact (Lib/Search.lean), so a listed fallback passes exactly when the primary
  cannot be reached from it (`fallbackPathExists_iff`). `FallbackOk` says what else is checked.
-/
import Aios.Ir.Effects

namespace Aios

open Lib

/-! ## 1. The fallback relation -/

/-- Some node with primary capability `a` lists `b` as a fallback. -/
def FallbackEdge (program : AiosIr) (a b : String) : Prop :=
  ∃ n ∈ program.nodes, n.operation.capability = a ∧ b ∈ n.failure.fallbacks

theorem mem_fallbacksOf {relation : FallbackRelation} {a b : String} :
    b ∈ fallbacksOf relation a ↔ b ∈ relation.getD a ∅ := by
  unfold fallbacksOf
  rw [Std.ExtTreeMap.getD_eq_getD_getElem?]
  cases relation[a]? with
  | none => simp
  | some fallbacks => simp

theorem mem_insertAll {b : String} : ∀ (l : List String) (s : Std.ExtTreeSet String),
    b ∈ l.foldl (fun fallbacks ref => fallbacks.insert ref) s ↔ b ∈ s ∨ b ∈ l
  | [], s => by simp
  | a :: l, s => by
      rw [List.foldl_cons, mem_insertAll l, Std.ExtTreeSet.mem_insert,
        Std.LawfulEqCmp.compare_eq_iff_eq, List.mem_cons, eq_comm (a := a)]
      tauto

/-- One node adds its own edges. -/
theorem mem_addFallbacks (relation : FallbackRelation) (node : Node) {a b : String} :
    b ∈ fallbacksOf (addFallbacks relation node) a ↔
      b ∈ fallbacksOf relation a ∨ (node.operation.capability = a ∧ b ∈ node.failure.fallbacks) := by
  unfold addFallbacks
  cases hf : node.failure with
  | fallback cs =>
      simp only [FailurePolicy.fallbacks]
      rw [mem_fallbacksOf, mem_fallbacksOf, Std.ExtTreeMap.getD_insert]
      by_cases e : node.operation.capability = a
      · subst e
        rw [if_pos Std.ReflCmp.compare_self, mem_insertAll]
        simp
      · rw [if_neg fun h => e (Std.LawfulEqCmp.eq_of_compare h)]
        simp [e]
  | stop => simp [FailurePolicy.fallbacks]
  | retry n => simp [FailurePolicy.fallbacks]
  | replan n => simp [FailurePolicy.fallbacks]

theorem mem_foldFallbacks {a b : String} : ∀ (l : List Node) (relation : FallbackRelation),
    b ∈ fallbacksOf (l.foldl addFallbacks relation) a ↔
      b ∈ fallbacksOf relation a ∨
        ∃ n ∈ l, n.operation.capability = a ∧ b ∈ n.failure.fallbacks
  | [], relation => by simp
  | node :: l, relation => by
      rw [List.foldl_cons, mem_foldFallbacks l, mem_addFallbacks, List.exists_mem_cons_iff, or_assoc]

/-- **The relation the source builds is the union over all nodes.** -/
theorem buildFallbackRelation_spec (program : AiosIr) (a b : String) :
    b ∈ fallbacksOf (buildFallbackRelation program) a ↔ FallbackEdge program a b := by
  unfold buildFallbackRelation FallbackEdge
  rw [mem_foldFallbacks]
  simp [fallbacksOf]

/-- **The search of the recursion check is exact.** -/
theorem fallbackPathExists_iff (program : AiosIr) (start target : String) :
    fallbackPathExists (buildFallbackRelation program) start target = true ↔
      Relation.ReflTransGen (FallbackEdge program) start target := by
  have hsucc : Succ (fallbacksOf (buildFallbackRelation program)) = FallbackEdge program := by
    funext a b
    exact propext (buildFallbackRelation_spec program a b)
  have hkeys : ∀ a, a ∉ (buildFallbackRelation program).keys →
      fallbacksOf (buildFallbackRelation program) a = [] := by
    intro a ha
    rw [Std.ExtTreeMap.mem_keys] at ha
    unfold fallbacksOf
    rw [Std.ExtTreeMap.getElem?_eq_none ha]
  have hcost : cost (fallbacksOf (buildFallbackRelation program))
      (buildFallbackRelation program).keys [start] [] ≤
        fallbackFuel (buildFallbackRelation program) := by
    unfold cost fallbackFuel
    simp
  unfold fallbackPathExists
  rw [search_iff hkeys hcost, hsucc]
  simp

/-! ## 2. The properties -/

/-- The port of the node is read by a node or by a program output. -/
def Consumed (program : AiosIr) (node : Node) (port : String) : Prop :=
  (∃ m ∈ program.nodes, ∃ p : String, m.inputs[p]? = some (.node node.id port)) ∨
    ∃ p : String, program.outputs[p]? = some (.node node.id port)

/-- The fallback takes the node's bound inputs and produces what is read of it. -/
structure FallbackPortsOk (program : AiosIr) (node : Node) (primary fallback : CapabilityContract) :
    Prop where
  bound : ∀ (port : String) (r : ValueRef), node.inputs[port]? = some r →
    ∃ p f, primary.inputs[port]? = some p ∧ fallback.inputs[port]? = some f ∧
      f.typeRef = p.typeRef ∧
      (f.required = true → ∀ name i, r = .input name → program.inputs[name]? = some i →
        i.required = true)
  required : ∀ (port : String) (f : PortContract), fallback.inputs[port]? = some f →
    f.required = true → port ∈ node.inputs
  consumed : ∀ port, Consumed program node port →
    ∃ t f, node.outputs[port]? = some t ∧ fallback.outputs[port]? = some f ∧ f.typeRef = t

/-- What the fallback phase checks of a resolved fallback. -/
structure FallbackOk (program : AiosIr) (node : Node) (primary fallback : CapabilityContract) :
    Prop where
  reads : "artifact.read" ∈ fallback.requiredAuthorityClasses → ReadsCovered program node fallback
  ports : FallbackPortsOk program node primary fallback
  executionClass : node.executionClass ∈ fallback.allowedExecutionClasses
  role : fallback.role = expectedRole node.operation.kind
  effects : ∀ e ∈ fallback.allowedEffectClasses, e ≠ .pure → e ∈ derivedEffects primary node
  authority : ∀ a ∈ fallback.allowedAuthorityClasses, a ∈ requestedActions node
  egress : node.egress.mode = .deny → ∀ m ∈ fallback.allowedEgressModes, m = .deny

/-- A listed fallback: the primary is out of its reach, it resolves, and its contract fits. -/
def ListedFallbackOk (program : AiosIr) (registry : SemanticRegistry) (node : Node)
    (primary : CapabilityContract) (ref : String) : Prop :=
  ¬ Relation.ReflTransGen (FallbackEdge program) ref node.operation.capability ∧
    ∃ fallback, registry.findCapability ref = some fallback ∧
      FallbackOk program node primary fallback

/-- All listed fallbacks of the node are in order. -/
def NodeFallbacksOk (program : AiosIr) (registry : SemanticRegistry) (node : Node) : Prop :=
  ∀ c, registry.findCapability node.operation.capability = some c →
    ∀ ref ∈ node.failure.fallbacks, ListedFallbackOk program registry node c ref

/-! ## 3. The checks -/

variable {program : AiosIr} {node : Node}

theorem mem_consumedPorts {port : String} :
    port ∈ consumedPorts program node ↔ Consumed program node port := by
  have hmatch : ∀ r : ValueRef, readPort node r = some port ↔ r = .node node.id port := by
    intro r
    cases r with
    | input name => simp [readPort]
    | node producer q =>
        simp only [readPort, ValueRef.node.injEq]
        by_cases e : producer = node.id <;> simp [e]
  unfold consumedPorts Consumed
  simp only [List.mem_filterMap, hmatch, List.mem_append, List.mem_flatMap, List.mem_map]
  constructor
  · rintro ⟨r, hr | hr, rfl⟩
    · obtain ⟨m, hm, ⟨p, r⟩, hp, rfl⟩ := hr
      exact Or.inl ⟨m, hm, p, Std.ExtTreeMap.mem_toList_iff_getElem?_eq_some.mp hp⟩
    · obtain ⟨⟨p, r⟩, hp, rfl⟩ := hr
      exact Or.inr ⟨p, Std.ExtTreeMap.mem_toList_iff_getElem?_eq_some.mp hp⟩
  · rintro (⟨m, hm, p, hp⟩ | ⟨p, hp⟩)
    · exact ⟨_, Or.inl ⟨m, hm, (p, _),
        Std.ExtTreeMap.mem_toList_iff_getElem?_eq_some.mpr hp, rfl⟩, rfl⟩
    · exact ⟨_, Or.inr ⟨(p, _), Std.ExtTreeMap.mem_toList_iff_getElem?_eq_some.mpr hp, rfl⟩, rfl⟩

/-- A consumed port is a declared output of the node. -/
theorem Consumed.declared (hu : UniqueIds program) (hr : ReferencesOk program)
    (hn : node ∈ program.nodes) {port : String} (h : Consumed program node port) :
    port ∈ node.outputs := by
  have hres : Resolves program (.node node.id port) := by
    rcases h with ⟨m, hm, p, hp⟩ | ⟨p, hp⟩
    · exact hr.inputs m hm p _ hp
    · exact (hr.outputs p _ hp).2
  obtain ⟨m, hm, hid, hport⟩ := hres
  rw [← hu.eq hm hn hid]
  exact hport

theorem consumedOutputsMatch_spec (node : Node) (fallback : CapabilityContract) :
    ∀ (ports : List String), (∀ p ∈ ports, p ∈ node.outputs) →
    ∃ b, consumedOutputsMatch node fallback ports = .ok b ∧
      (b = true ↔ ∀ port ∈ ports, ∃ t f, node.outputs[port]? = some t ∧
        fallback.outputs[port]? = some f ∧ f.typeRef = t)
  | [], _ => ⟨true, rfl, by simp⟩
  | port :: ports, h => by
      obtain ⟨t, ht⟩ := Option.isSome_iff_exists.mp
        (Std.ExtTreeMap.mem_iff_isSome_getElem?.mp (h port List.mem_cons_self))
      obtain ⟨b, hb, hiff⟩ := consumedOutputsMatch_spec node fallback ports
        fun p hp => h p (List.mem_cons_of_mem _ hp)
      have hhead : ((fallback.outputs[port]?).any fun f => decide (f.typeRef = t)) = true ↔
          ∃ t' f, node.outputs[port]? = some t' ∧ fallback.outputs[port]? = some f ∧
            f.typeRef = t' := by
        rw [ht]
        cases fallback.outputs[port]? <;> simp [eq_comm]
      rw [consumedOutputsMatch, ht]
      by_cases hm : ((fallback.outputs[port]?).any fun f => decide (f.typeRef = t)) = true
      · refine ⟨b, ?_, ?_⟩
        · show (if _ then _ else _) = _
          rw [if_pos hm, hb]
        · rw [hiff, List.forall_mem_cons]
          exact ⟨fun h => ⟨hhead.mp hm, h⟩, fun h => h.2⟩
      · refine ⟨false, ?_, ?_⟩
        · show (if _ then _ else _) = _
          rw [if_neg hm]
          rfl
        · rw [List.forall_mem_cons]
          exact ⟨fun h => (Bool.false_ne_true h).elim, fun h => absurd (hhead.mpr h.1) hm⟩

theorem all_toList_iff {α : Type} {m : Std.ExtTreeMap String α} {f : String × α → Bool} :
    m.toList.all f = true ↔ ∀ k v, m[k]? = some v → f (k, v) = true := by
  rw [List.all_eq_true]
  constructor
  · intro h k v hkv
    exact h (k, v) (Std.ExtTreeMap.mem_toList_iff_getElem?_eq_some.mpr hkv)
  · rintro h ⟨k, v⟩ hkv
    exact h k v (Std.ExtTreeMap.mem_toList_iff_getElem?_eq_some.mp hkv)

theorem boundInputsMatch_iff {primary fallback : CapabilityContract} :
    boundInputsMatch program node primary fallback = true ↔
      ∀ (port : String) (r : ValueRef), node.inputs[port]? = some r →
        ∃ p f, primary.inputs[port]? = some p ∧ fallback.inputs[port]? = some f ∧ f.typeRef = p.typeRef ∧
          (f.required = true → ∀ name i, r = .input name → program.inputs[name]? = some i →
            i.required = true) := by
  unfold boundInputsMatch
  rw [all_toList_iff]
  refine forall₃_congr fun port r _ => ?_
  simp only
  cases primary.inputs[port]? with
  | none => simp
  | some p =>
      cases fallback.inputs[port]? with
      | none => simp
      | some f =>
          simp only [Option.some.injEq, exists_and_left, exists_eq_left']
          by_cases e : f.typeRef = p.typeRef
          · rw [if_neg (not_not.mpr e)]
            simp only [e, true_and]
            cases f.required with
            | false => simp
            | true =>
                cases r with
                | node id q => simp
                | input name =>
                    have hname : (∀ (n : String) (i : ProgramInput), ValueRef.input name = .input n →
                        program.inputs[n]? = some i → i.required = true) ↔
                        ∀ i, program.inputs[name]? = some i → i.required = true := by
                      constructor
                      · intro h i
                        exact h name i rfl
                      · intro h n i e
                        cases e
                        exact h i
                    simp only [hname]
                    cases program.inputs[name]? <;> simp
          · rw [if_pos e]
            simp [e]

theorem requiredFallbackInputsAreBound_iff {fallback : CapabilityContract} :
    requiredFallbackInputsAreBound node fallback = true ↔
      ∀ (port : String) (f : PortContract), fallback.inputs[port]? = some f →
        f.required = true → port ∈ node.inputs := by
  unfold requiredFallbackInputsAreBound
  rw [all_toList_iff]
  refine forall₃_congr fun port f _ => ?_
  cases f.required <;> simp

/-- **The port check returns**, and passes exactly when the ports are in order. -/
theorem fallbackPortsCompatible_spec (hu : UniqueIds program)
    (hr : ReferencesOk program) (hn : node ∈ program.nodes) (primary fallback : CapabilityContract) :
    ∃ b, fallbackPortsCompatible program node primary fallback = .ok b ∧
      (b = true ↔ FallbackPortsOk program node primary fallback) := by
  obtain ⟨b, hb, hiff⟩ := consumedOutputsMatch_spec node fallback (consumedPorts program node)
    fun p hp => (mem_consumedPorts.mp hp).declared hu hr hn
  refine ⟨boundInputsMatch program node primary fallback &&
    requiredFallbackInputsAreBound node fallback && b, ?_, ?_⟩
  · unfold fallbackPortsCompatible
    rw [hb]
    rfl
  · rw [Bool.and_eq_true, Bool.and_eq_true, boundInputsMatch_iff,
      requiredFallbackInputsAreBound_iff, hiff]
    constructor
    · rintro ⟨⟨h1, h2⟩, h3⟩
      exact ⟨h1, h2, fun port hp => h3 port (mem_consumedPorts.mpr hp)⟩
    · intro h
      exact ⟨⟨h.bound, h.required⟩, fun port hp => h.consumed port (mem_consumedPorts.mp hp)⟩

/-- **The checks of one listed fallback return**, and find nothing exactly when it is in order. -/
theorem validateFallback_spec (hu : UniqueIds program)
    (hr : ReferencesOk program) (registry : SemanticRegistry)
    (hn : node ∈ program.nodes) (primary : CapabilityContract) (i : Nat) (ref : String) (j : Nat) :
    ∃ ds, validateFallback program registry (buildFallbackRelation program) node primary
        (derivedEffects primary node) i (ref, j) = .ok ds ∧ AllErrors ds ∧
      (ds = [] ↔ ListedFallbackOk program registry node primary ref) := by
  unfold validateFallback ListedFallbackOk
  simp only
  by_cases hself : ref = node.operation.capability
  · rw [if_pos hself]
    refine ⟨_, rfl, by simp [ValidatorReasonCode.severity], ?_⟩
    subst hself
    simp [Relation.ReflTransGen.refl]
  · rw [if_neg hself]
    have hrec : ((if fallbackPathExists (buildFallbackRelation program) ref
          node.operation.capability = true then
        [contextual .irFailurePolicyRecursiveFallback
          "fallback relation contains a multi-capability cycle" (some node.id) none
          (some node.operation.capability)
          (some s!"/nodes/{i}/failure/fallback_capabilities/{j}")] else []) = []) ↔
        ¬ Relation.ReflTransGen (FallbackEdge program) ref node.operation.capability := by
      rw [← fallbackPathExists_iff]
      simp
    have hrecErr : AllErrors (if fallbackPathExists (buildFallbackRelation program) ref
          node.operation.capability = true then
        [contextual .irFailurePolicyRecursiveFallback
          "fallback relation contains a multi-capability cycle" (some node.id) none
          (some node.operation.capability)
          (some s!"/nodes/{i}/failure/fallback_capabilities/{j}")] else []) := by
      split <;> simp [ValidatorReasonCode.severity]
    cases hc : registry.findCapability ref with
    | none =>
        refine ⟨_, rfl, allErrors_append.mpr ⟨hrecErr, by simp [ValidatorReasonCode.severity]⟩, ?_⟩
        simp
    | some fallback =>
        obtain ⟨b, hb, hports⟩ := fallbackPortsCompatible_spec hu hr hn primary fallback
        simp only
        rw [hb]
        refine ⟨_, rfl, ?_, ?_⟩
        · refine allErrors_append.mpr ⟨allErrors_append.mpr ⟨allErrors_append.mpr
            ⟨allErrors_append.mpr ⟨allErrors_append.mpr ⟨allErrors_append.mpr
              ⟨allErrors_append.mpr ⟨hrecErr, ?_⟩, ?_⟩, ?_⟩, ?_⟩, ?_⟩, ?_⟩, ?_⟩
          · split
            · exact validateRequiredArtifactReadResources_allErrors _ _ _ _ _
            · exact allErrors_nil
          all_goals split <;> simp [ValidatorReasonCode.severity]
        · have hreads : ((if (fallback.requiredAuthorityClasses.any fun a =>
                decide (a = "artifact.read")) = true then
              validateRequiredArtifactReadResources program node fallback ref i else []) = []) ↔
              ("artifact.read" ∈ fallback.requiredAuthorityClasses →
                ReadsCovered program node fallback) := by
            have hnil : validateRequiredArtifactReadResources program node fallback ref i = [] ↔
                ReadsCovered program node fallback := validateRequiredArtifactReadResources_nil
            rw [← hnil]
            simp
          rw [List.append_eq_nil_iff, List.append_eq_nil_iff, List.append_eq_nil_iff,
            List.append_eq_nil_iff, List.append_eq_nil_iff, List.append_eq_nil_iff,
            List.append_eq_nil_iff, hrec, hreads]
          simp only [ite_eq_right_iff, List.cons_ne_nil, imp_false, Bool.not_eq_true',
            hports, List.contains_eq_mem, not_not, ne_eq, List.any_filter, List.any_eq_true, Bool.and_eq_true, decide_eq_true_eq,
            ← Bool.not_eq_true, Std.ExtTreeSet.contains_iff_mem, not_exists, not_and,
            Option.some.injEq, exists_eq_left']
          constructor
          · rintro ⟨⟨⟨⟨⟨⟨⟨h0, h1⟩, h2⟩, h3⟩, h4⟩, h5⟩, h6⟩, h7⟩
            exact ⟨h0, h1, h2, h3, h4, h5, h6, h7⟩
          · rintro ⟨h0, h⟩
            exact ⟨⟨⟨⟨⟨⟨⟨h0, h.reads⟩, h.ports⟩, h.executionClass⟩, h.role⟩, h.effects⟩,
              h.authority⟩, h.egress⟩

/-! ## 4. The phase -/

/-- The checks of one node's fallback list. -/
theorem validateNodeFallbacks_spec {registry : SemanticRegistry}
    {capabilities : CapabilityMap} {nodeEffects : EffectMap} (hu : UniqueIds program)
    (hr : ReferencesOk program) (hn : node ∈ program.nodes)
    {c : CapabilityContract} (hc : registry.findCapability node.operation.capability = some c)
    (hcap : capabilities[node.id]? = some c)
    (heff : nodeEffects[node.id]? = some (derivedEffects c node)) (i : Nat) :
    ∃ ds, validateNodeFallbacks program registry capabilities nodeEffects node i = .ok ds ∧
      AllErrors ds ∧ (ds = [] ↔ NodeFallbacksOk program registry node) := by
  have hone : NodeFallbacksOk program registry node ↔
      ∀ ref ∈ node.failure.fallbacks, ListedFallbackOk program registry node c ref := by
    constructor
    · intro h
      exact h c hc
    · intro h c' hc'
      rw [hc] at hc'
      cases hc'
      exact h
  rw [hone]
  unfold validateNodeFallbacks
  cases hf : node.failure with
  | fallback cs =>
      have hlist : ∀ q ∈ cs.zipIdx, ∃ ds, validateFallback program registry
          (buildFallbackRelation program) node c (derivedEffects c node) i q = .ok ds ∧
          AllErrors ds ∧ (ds = [] ↔ ListedFallbackOk program registry node c q.1) := by
        rintro ⟨ref, j⟩ _
        exact validateFallback_spec hu hr registry hn c i ref j
      obtain ⟨ds, hds, herr, hnil⟩ := collect_spec hlist
      refine ⟨ds, ?_, herr, hnil.trans forall_mem_zipIdx⟩
      simp only
      rw [bind_eq_ok']
      refine ⟨c, expect_ok.mpr hcap, ?_⟩
      rw [bind_eq_ok']
      exact ⟨derivedEffects c node, expect_ok.mpr heff, hds⟩
  | stop => exact ⟨[], rfl, allErrors_nil, by simp [FailurePolicy.fallbacks]⟩
  | retry n => exact ⟨[], rfl, allErrors_nil, by simp [FailurePolicy.fallbacks]⟩
  | replan n => exact ⟨[], rfl, allErrors_nil, by simp [FailurePolicy.fallbacks]⟩

/-- **The fallback phase returns**, and finds nothing exactly when every listed fallback of every
    node is in order. -/
theorem validateFallbacks_spec {registry : SemanticRegistry}
    {capabilities : CapabilityMap} {nodeEffects : EffectMap} (hu : UniqueIds program)
    (hr : ReferencesOk program) (ht : TypesOk program registry)
    (hcap : Resolved registry capabilities program.nodes)
    (heff : EffectsOf registry nodeEffects program.nodes) :
    ∃ ds, validateFallbacks program registry capabilities nodeEffects = .ok ds ∧ AllErrors ds ∧
      (ds = [] ↔ ∀ n ∈ program.nodes, NodeFallbacksOk program registry n) := by
  have hnode : ∀ p ∈ program.nodes.zipIdx, ∃ ds,
      validateNodeFallbacks program registry capabilities nodeEffects p.1 p.2 = .ok ds ∧
      AllErrors ds ∧ (ds = [] ↔ NodeFallbacksOk program registry p.1) := by
    intro p hp
    have hn : p.1 ∈ program.nodes := List.fst_mem_of_mem_zipIdx hp
    obtain ⟨c, hc, _⟩ := ht.nodes p.1 hn
    have hres : resolvedEffects registry p.1 = derivedEffects c p.1 := by
      unfold resolvedEffects
      rw [hc]
    exact validateNodeFallbacks_spec hu hr hn hc ((hcap p.1 hn).trans hc)
      ((heff.get hn).trans (congrArg some hres)) p.2
  obtain ⟨ds, hds, herr, hnil⟩ := collect_spec hnode
  exact ⟨ds, hds, herr, hnil.trans forall_mem_zipIdx⟩

/-- **Listed fallbacks in order form no cycle.** -/
theorem fallbackEdge_acyclic {registry : SemanticRegistry} (ht : TypesOk program registry)
    (h : ∀ n ∈ program.nodes, NodeFallbacksOk program registry n) (a : String) :
    ¬ Relation.TransGen (FallbackEdge program) a a := by
  intro hc
  -- the first edge of the cycle leads to a fallback that reaches its primary
  obtain ⟨b, ⟨n, hn, rfl, hb⟩, hback⟩ := Relation.TransGen.head'_iff.mp hc
  obtain ⟨c, hc, _⟩ := ht.nodes n hn
  exact (h n hn c hc b hb).1 hback

end Aios
