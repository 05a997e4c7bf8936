/-
  File:      Aios/Ir/Effects.lean
  Subject:   The effect phase: derived effects, authority, placement, egress and cache of a node.

  An effect enters a node's set in four ways: required by the contract, implied by a request,
  forced by a placement that is never local, or PURE for want of any other (`mem_derivedEffects`).
  `NodeEffectsOk` says what the phase checks of them.
-/
import Aios.Ir.Capabilities

namespace Aios

open Lib

/-! ## 1. Derived effects -/

/-- An effect other than the PURE of an empty set: required, requested or forced by placement. -/
def EffectSource (contract : CapabilityContract) (node : Node) (e : EffectClass) : Prop :=
  (e ∈ contract.requiredEffectClasses ∧ e ≠ .pure) ∨
  (∃ q ∈ node.authorityRequests, effectForAuthorityClass q.action = some e) ∨
  (nonLocalOnly node = true ∧ e = .network) ∨
  (nonLocalOnly node = true ∧ node.inputs.isEmpty = false ∧ e = .dataEgress)

theorem mem_insertRequests {e : EffectClass} : ∀ (l : List AuthorityRequest) (s : EffectSet),
    e ∈ l.foldl addRequestEffect s ↔
      e ∈ s ∨ ∃ q ∈ l, effectForAuthorityClass q.action = some e
  | [], s => by simp
  | q :: l, s => by
      rw [List.foldl_cons, mem_insertRequests l, addRequestEffect]
      cases hq : effectForAuthorityClass q.action with
      | none => simp [hq]
      | some f =>
          simp only [Std.ExtTreeSet.mem_insert, Std.LawfulEqCmp.compare_eq_iff_eq,
            List.exists_mem_cons_iff, hq, Option.some.injEq]
          tauto

variable {contract : CapabilityContract} {node : Node} {program : AiosIr} {i : Nat}

/-- **The derived effects are the sources**, and PURE stands for having none. -/
theorem mem_derivedEffects {e : EffectClass} : e ∈ derivedEffects contract node ↔
      EffectSource contract node e ∨ (e = .pure ∧ ∀ f, ¬ EffectSource contract node f) := by
  have key : ∀ placed : EffectSet, (∀ f, f ∈ placed ↔ EffectSource contract node f) →
      (e ∈ (if placed.isEmpty then placed.insert .pure else placed) ↔
        EffectSource contract node e ∨ (e = .pure ∧ ∀ f, ¬ EffectSource contract node f)) := by
    intro placed hp
    by_cases he : placed.isEmpty = true
    · have hnone : ∀ f, ¬ EffectSource contract node f := by
        intro f hf
        have := (hp f).mpr hf
        rw [Std.ExtTreeSet.isEmpty_iff.mp he] at this
        exact Std.ExtTreeSet.not_mem_empty this
      rw [if_pos he, Std.ExtTreeSet.mem_insert, Std.LawfulEqCmp.compare_eq_iff_eq, hp]
      constructor
      · rintro (h | h)
        · exact Or.inr ⟨h.symm, hnone⟩
        · exact Or.inl h
      · rintro (h | ⟨h, _⟩)
        · exact Or.inr h
        · exact Or.inl h.symm
    · rw [if_neg he, hp]
      refine ⟨Or.inl, fun h => h.resolve_right fun h' => he ?_⟩
      rw [Std.ExtTreeSet.isEmpty_iff, Std.ExtTreeSet.eq_empty_iff_forall_not_mem]
      exact fun f hf => h'.2 f ((hp f).mp hf)
  unfold derivedEffects
  refine key _ fun f => ?_
  have hnet : EffectClass.network = f ↔ f = .network := eq_comm
  have hegr : EffectClass.dataEgress = f ↔ f = .dataEgress := eq_comm
  unfold EffectSource
  cases hl : nonLocalOnly node with
  | false =>
      simp only [Bool.false_eq_true, if_false, mem_insertRequests, Std.ExtTreeSet.mem_ofList,
        List.contains_iff_mem, List.mem_filter, decide_eq_true_eq, false_and, or_false]
  | true =>
      cases hi : node.inputs.isEmpty with
      | true =>
          simp only [if_true, mem_insertRequests, Std.ExtTreeSet.mem_ofList, List.contains_iff_mem,
            List.mem_filter, decide_eq_true_eq, Std.ExtTreeSet.mem_insert,
            Std.LawfulEqCmp.compare_eq_iff_eq, true_and, Bool.true_eq_false, false_and, or_false,
            hnet]
          exact or_rotate
      | false =>
          simp only [if_true, Bool.false_eq_true, if_false, mem_insertRequests,
            Std.ExtTreeSet.mem_ofList, List.contains_iff_mem, List.mem_filter, decide_eq_true_eq,
            Std.ExtTreeSet.mem_insert, Std.LawfulEqCmp.compare_eq_iff_eq, true_and, hnet, hegr]
          rw [or_rotate, or_rotate, or_assoc]
          exact or_congr Iff.rfl (or_congr Iff.rfl or_comm)

theorem not_pure_of_source {e : EffectClass} (h : EffectSource contract node e) : e ≠ .pure := by
  rcases h with h | ⟨q, _, hq⟩ | ⟨_, rfl⟩ | ⟨_, _, rfl⟩
  · exact h.2
  · exact (effectForAuthorityClass_protected hq).1
  · decide
  · decide

/-- A derived effect other than PURE has a source. -/
theorem source_of_mem {e : EffectClass}
    (h : e ∈ derivedEffects contract node) (hp : e ≠ .pure) : EffectSource contract node e :=
  (mem_derivedEffects.mp h).resolve_right fun h' => hp h'.1

/-- **PURE is derived exactly when it is the only effect.** -/
theorem pure_mem_derivedEffects : .pure ∈ derivedEffects contract node ↔
      ∀ e, e ∈ derivedEffects contract node ↔ e = .pure := by
  constructor
  · intro h e
    have hnone : ∀ f, ¬ EffectSource contract node f :=
      ((mem_derivedEffects.mp h).resolve_left fun h' => not_pure_of_source h' rfl).2
    rw [mem_derivedEffects]
    exact ⟨fun h' => (h'.resolve_left (hnone e)).1, fun e => Or.inr ⟨e, hnone⟩⟩
  · intro h
    exact (h .pure).mpr rfl

/-! ## 2. The properties -/

/-- `artifact.read` requests cover the artifact inputs the contract reads as artifacts. -/
def ReadsCovered (program : AiosIr) (node : Node) (contract : CapabilityContract) : Prop :=
  ∀ (port name : String) (s : PortContract) (i : ProgramInput),
    node.inputs[port]? = some (.input name) → contract.inputs[port]? = some s →
    program.inputs[name]? = some i → startsWith s.typeRef "artifact." = true →
    startsWith i.typeRef "artifact." = true →
    ∃ q ∈ node.authorityRequests, q.action = "artifact.read" ∧ q.resource = "input:" ++ name

/-- Destinations, `data.egress` requests and DATA_EGRESS against the declared mode. -/
def EgressOk (node : Node) (effects : EffectSet) : Prop :=
  match node.egress.mode with
  | .deny => node.egress.destinationClasses = [] ∧ dataEgressResources node = [] ∧
      .dataEgress ∉ effects
  | .policy => node.egress.destinationClasses ≠ [] ∧
      ∀ resource, resource ∈ dataEgressResources node ↔
        ∃ c ∈ node.egress.destinationClasses, resource = "destination:" ++ c

/-- What the effect phase checks of a node and its contract. -/
structure NodeEffectsOk (program : AiosIr) (contract : CapabilityContract) (node : Node) : Prop where
  distinct : (node.authorityRequests.map fun q => (q.action, q.resource)).Nodup
  allowedAuthority : ∀ q ∈ node.authorityRequests, q.action ∈ contract.allowedAuthorityClasses
  mapped : ∀ q ∈ node.authorityRequests, (effectForAuthorityClass q.action).isSome
  required : ∀ a ∈ contract.requiredAuthorityClasses, a ∈ requestedActions node
  reads : "artifact.read" ∈ contract.requiredAuthorityClasses → ReadsCovered program node contract
  placementNetwork : nonLocalOnly node = true → "network.connect" ∈ requestedActions node
  placementEgress : nonLocalOnly node = true → node.inputs.isEmpty = false →
    "data.egress" ∈ requestedActions node
  allowedEffects : ∀ e ∈ derivedEffects contract node, e ∈ contract.allowedEffectClasses
  egressMode : node.egress.mode ∈ contract.allowedEgressModes
  egress : EgressOk node (derivedEffects contract node)
  cache : node.cache ≠ .never → node.executionClass = .deterministic

/-! ## 3. The checks -/

theorem validateRequests_allErrors (contract : CapabilityContract) (node : Node) (i : Nat) :
    ∀ (l : List AuthorityRequest) (pairs : List (String × String)) (j : Nat),
    AllErrors (validateRequests contract node i pairs j l)
  | [], _, _ => allErrors_nil
  | q :: l, pairs, j => by
      rw [validateRequests]
      refine allErrors_append.mpr ⟨allErrors_append.mpr ⟨allErrors_append.mpr ⟨?_, ?_⟩, ?_⟩,
        validateRequests_allErrors contract node i l _ _⟩
      · split <;> simp [ValidatorReasonCode.severity]
      · split <;> simp [ValidatorReasonCode.severity]
      · split <;> simp [ValidatorReasonCode.severity]

theorem validateRequests_nil (contract : CapabilityContract) (node : Node) (i : Nat) :
    ∀ (l : List AuthorityRequest) (pairs : List (String × String)) (j : Nat),
    validateRequests contract node i pairs j l = [] ↔
      ((l.map fun q => (q.action, q.resource)).Nodup ∧
        ∀ q ∈ l, (q.action, q.resource) ∉ pairs) ∧
      (∀ q ∈ l, q.action ∈ contract.allowedAuthorityClasses) ∧
      ∀ q ∈ l, (effectForAuthorityClass q.action).isSome
  | [], _, _ => by simp [validateRequests]
  | q :: l, pairs, j => by
      rw [validateRequests, List.append_eq_nil_iff, List.append_eq_nil_iff, List.append_eq_nil_iff,
        validateRequests_nil contract node i l]
      have hfresh : (∀ r ∈ l, (r.action, r.resource) ∉ (q.action, q.resource) :: pairs) ↔
          (q.action, q.resource) ∉ l.map (fun r => (r.action, r.resource)) ∧
            ∀ r ∈ l, (r.action, r.resource) ∉ pairs := by
        simp only [List.mem_cons, not_or, List.mem_map, not_exists, not_and]
        exact ⟨fun h => ⟨fun r hr e => (h r hr).1 e, fun r hr => (h r hr).2⟩,
          fun h r hr => ⟨fun e => h.1 r hr e, h.2 r hr⟩⟩
      rw [hfresh]
      simp only [Option.isNone_iff_eq_none, ← ne_eq, ite_eq_right_iff, List.cons_ne_nil, imp_false, List.contains_eq_mem,
        decide_eq_true_eq, Bool.not_eq_true', decide_eq_false_iff_not, not_not, List.map_cons,
        List.nodup_cons, List.forall_mem_cons, Option.isSome_iff_ne_none]
      tauto

theorem validateRequiredArtifactReadResources_allErrors (program : AiosIr) (node : Node)
    (contract : CapabilityContract) (reported : String) (i : Nat) :
    AllErrors (validateRequiredArtifactReadResources program node contract reported i) := by
  unfold validateRequiredArtifactReadResources
  refine allErrors_flatMap fun p _ => ?_
  split
  · exact allErrors_nil
  · split
    · split
      · exact allErrors_nil
      · split <;> simp [ValidatorReasonCode.severity]
    · exact allErrors_nil

theorem validateRequiredArtifactReadResources_nil {reported : String} :
    validateRequiredArtifactReadResources program node contract reported i = [] ↔
      ReadsCovered program node contract := by
  unfold validateRequiredArtifactReadResources
  rw [flatMap_toList_nil (P := fun port r => ∀ (name : String) (s : PortContract)
    (i : ProgramInput), r = .input name → contract.inputs[port]? = some s →
    program.inputs[name]? = some i → startsWith s.typeRef "artifact." = true →
    startsWith i.typeRef "artifact." = true →
    ∃ q ∈ node.authorityRequests, q.action = "artifact.read" ∧ q.resource = "input:" ++ name)]
  · constructor
    · intro h port name s i hp hs hi h1 h2
      exact h port _ hp name s i rfl hs hi h1 h2
    · rintro h port r hp name s i rfl hs hi h1 h2
      exact h port name s i hp hs hi h1 h2
  · intro port r
    cases r with
    | node _ _ => simp
    | input name =>
        have hname : (∀ (n : String) (s : PortContract) (i : ProgramInput), ValueRef.input name = .input n →
            contract.inputs[port]? = some s → program.inputs[n]? = some i →
            startsWith s.typeRef "artifact." = true → startsWith i.typeRef "artifact." = true →
            ∃ q ∈ node.authorityRequests, q.action = "artifact.read" ∧ q.resource = "input:" ++ n) ↔
            ∀ s i, contract.inputs[port]? = some s → program.inputs[name]? = some i →
              startsWith s.typeRef "artifact." = true → startsWith i.typeRef "artifact." = true →
              ∃ q ∈ node.authorityRequests, q.action = "artifact.read" ∧
                q.resource = "input:" ++ name := by
          constructor
          · intro h s i
            exact h name s i rfl
          · intro h n s i e
            cases e
            exact h s i
        simp only [hname]
        cases contract.inputs[port]? with
        | none => simp
        | some s =>
            cases program.inputs[name]? with
            | none => simp
            | some inp =>
                cases h1 : startsWith s.typeRef "artifact." <;>
                  cases h2 : startsWith inp.typeRef "artifact." <;> simp [h1, h2]

theorem validateRequiredAuthorities_allErrors (program : AiosIr) (contract : CapabilityContract)
    (node : Node) (i : Nat) : AllErrors (validateRequiredAuthorities program contract node i) := by
  unfold validateRequiredAuthorities
  refine allErrors_flatMap fun a _ => ?_
  split
  · simp [ValidatorReasonCode.severity]
  · split
    · exact validateRequiredArtifactReadResources_allErrors _ _ _ _ _
    · exact allErrors_nil

theorem validateRequiredAuthorities_nil : validateRequiredAuthorities program contract node i = [] ↔
      (∀ a ∈ contract.requiredAuthorityClasses, a ∈ requestedActions node) ∧
      ("artifact.read" ∈ contract.requiredAuthorityClasses → ReadsCovered program node contract) := by
  unfold validateRequiredAuthorities
  rw [List.flatMap_eq_nil_iff]
  have hone : ∀ a, ((if !(requestedActions node).contains a then
        [contextual .irRequiredAuthorityMissing s!"required authority class '{a}' was not requested"
          (some node.id) none (some node.operation.capability)
          (some s!"/nodes/{i}/authority_requests")]
      else if a = "artifact.read" then
        validateRequiredArtifactReadResources program node contract node.operation.capability i
      else []) = []) ↔
      a ∈ requestedActions node ∧ (a = "artifact.read" → ReadsCovered program node contract) := by
    intro a
    by_cases ha : a ∈ requestedActions node
    · by_cases hr : a = "artifact.read"
      · rw [if_neg (by simpa using ha), if_pos hr, validateRequiredArtifactReadResources_nil]
        exact ⟨fun h => ⟨ha, fun _ => h⟩, fun h => h.2 hr⟩
      · rw [if_neg (by simpa using ha), if_neg hr]
        exact ⟨fun _ => ⟨ha, fun h => absurd h hr⟩, fun _ => rfl⟩
    · rw [if_pos (by simpa using ha)]
      simp [ha]
  simp only [hone]
  constructor
  · intro h
    exact ⟨fun a ha => (h a ha).1, fun hr => (h _ hr).2 rfl⟩
  · rintro ⟨h1, h2⟩ a ha
    exact ⟨h1 a ha, fun e => h2 (e ▸ ha)⟩

theorem requirePlacementAuthority_allErrors (node : Node) (i : Nat) (action : String) :
    AllErrors (requirePlacementAuthority node i action) := by
  unfold requirePlacementAuthority
  split <;> simp [ValidatorReasonCode.severity]

theorem requirePlacementAuthority_nil {action : String} :
    requirePlacementAuthority node i action = [] ↔ action ∈ requestedActions node := by
  unfold requirePlacementAuthority
  simp

theorem validatePlacement_allErrors (node : Node) (i : Nat) :
    AllErrors (validatePlacement node i) := by
  unfold validatePlacement
  split
  · refine allErrors_append.mpr ⟨requirePlacementAuthority_allErrors _ _ _, ?_⟩
    split
    · exact allErrors_nil
    · exact requirePlacementAuthority_allErrors _ _ _
  · exact allErrors_nil

theorem validatePlacement_nil : validatePlacement node i = [] ↔
    (nonLocalOnly node = true → "network.connect" ∈ requestedActions node) ∧
    (nonLocalOnly node = true → node.inputs.isEmpty = false → "data.egress" ∈ requestedActions node) := by
  unfold validatePlacement
  cases hl : nonLocalOnly node with
  | false => simp
  | true =>
      cases hi : node.inputs.isEmpty <;> simp [requirePlacementAuthority_nil]

theorem validateAllowedEffects_allErrors (contract : CapabilityContract) (node : Node)
    (effects : EffectSet) (i : Nat) :
    AllErrors (validateAllowedEffects contract node effects i) := by
  unfold validateAllowedEffects
  refine allErrors_flatMap fun e _ => ?_
  split <;> simp [ValidatorReasonCode.severity]

theorem validateAllowedEffects_nil
    {effects : EffectSet} : validateAllowedEffects contract node effects i = [] ↔
      ∀ e ∈ effects, e ∈ contract.allowedEffectClasses := by
  unfold validateAllowedEffects
  rw [List.flatMap_eq_nil_iff]
  simp

theorem validateEgress_allErrors (node : Node) (contract : CapabilityContract) (effects : EffectSet)
    (i : Nat) : AllErrors (validateEgress node contract effects i) := by
  unfold validateEgress
  refine allErrors_append.mpr ⟨?_, ?_⟩
  · split <;> simp [ValidatorReasonCode.severity]
  · split
    · split <;> simp [ValidatorReasonCode.severity]
    · simp only
      split <;> simp [ValidatorReasonCode.severity]

theorem validateEgress_nil {effects : EffectSet} : validateEgress node contract effects i = [] ↔
      node.egress.mode ∈ contract.allowedEgressModes ∧ EgressOk node effects := by
  unfold validateEgress EgressOk
  rw [List.append_eq_nil_iff]
  refine and_congr (by simp) ?_
  cases node.egress.mode with
  | deny =>
      simp only [ite_eq_right_iff, List.cons_ne_nil, imp_false, Bool.or_eq_true, not_or,
        Bool.not_eq_true, Bool.not_eq_false', List.isEmpty_iff, Std.ExtTreeSet.contains_iff_mem,
        and_assoc]
  | policy =>
      have hsub : ((node.egress.destinationClasses.map ("destination:" ++ ·)).any
          (!(dataEgressResources node).contains ·)) = false ↔
          ∀ c ∈ node.egress.destinationClasses, "destination:" ++ c ∈ dataEgressResources node := by
        simp
      have hsup : ((dataEgressResources node).any
          (!(node.egress.destinationClasses.map ("destination:" ++ ·)).contains ·)) = false ↔
          ∀ resource ∈ dataEgressResources node,
            ∃ c ∈ node.egress.destinationClasses, "destination:" ++ c = resource := by
        simp
      simp only [ite_eq_right_iff, List.cons_ne_nil, imp_false, Bool.not_eq_true,
        Bool.or_eq_false_iff, hsub, hsup, List.isEmpty_eq_false_iff, ne_eq, List.map_eq_nil_iff,
        and_assoc]
      refine and_congr Iff.rfl ⟨?_, ?_⟩
      · rintro ⟨h1, h2⟩ resource
        constructor
        · intro hr
          obtain ⟨c, hc, e⟩ := h2 resource hr
          exact ⟨c, hc, e.symm⟩
        · rintro ⟨c, hc, rfl⟩
          exact h1 c hc
      · intro h
        refine ⟨fun c hc => (h _).mpr ⟨c, hc, rfl⟩, fun resource hr => ?_⟩
        obtain ⟨c, hc, e⟩ := (h resource).mp hr
        exact ⟨c, hc, e.symm⟩

/-- **The effect checks of a node find nothing exactly when the node's effects are in order.** -/
theorem validateNodeEffects_nil : validateNodeEffects program contract node i = [] ↔
      NodeEffectsOk program contract node := by
  have hcache : validateCache node i = [] ↔
      (node.cache ≠ .never → node.executionClass = .deterministic) := by
    unfold validateCache
    simp
  unfold validateNodeEffects
  rw [List.append_eq_nil_iff, List.append_eq_nil_iff, List.append_eq_nil_iff,
    List.append_eq_nil_iff, List.append_eq_nil_iff, validateRequests_nil,
    validateRequiredAuthorities_nil, validatePlacement_nil, validateAllowedEffects_nil,
    validateEgress_nil, hcache]
  constructor
  · rintro ⟨⟨⟨⟨⟨h1, h4⟩, h5⟩, h6⟩, h7⟩, h8⟩
    exact ⟨h1.1.1, h1.2.1, h1.2.2, h4.1, h4.2, h5.1, h5.2, h6, h7.1, h7.2, h8⟩
  · intro h
    have hfresh : ∀ q ∈ node.authorityRequests,
        (q.action, q.resource) ∉ ([] : List (String × String)) := fun q _ => List.not_mem_nil
    refine ⟨⟨⟨⟨⟨⟨⟨h.distinct, hfresh⟩, h.allowedAuthority, h.mapped⟩, h.required, h.reads⟩,
      h.placementNetwork, h.placementEgress⟩, h.allowedEffects⟩, h.egressMode, h.egress⟩, h.cache⟩

theorem validateNodeEffects_allErrors (program : AiosIr) (contract : CapabilityContract)
    (node : Node) (i : Nat) : AllErrors (validateNodeEffects program contract node i) := by
  unfold validateNodeEffects
  refine allErrors_append.mpr ⟨allErrors_append.mpr ⟨allErrors_append.mpr ⟨allErrors_append.mpr
    ⟨allErrors_append.mpr ⟨validateRequests_allErrors _ _ _ _ _ _,
      validateRequiredAuthorities_allErrors _ _ _ _⟩, validatePlacement_allErrors _ _⟩,
      validateAllowedEffects_allErrors _ _ _ _⟩, validateEgress_allErrors _ _ _ _⟩, ?_⟩
  unfold validateCache
  split <;> simp [ValidatorReasonCode.severity]

/-! ## 4. The phase -/

/-- The effects of a node under the contract the registry resolves for it. -/
def resolvedEffects (registry : SemanticRegistry) (node : Node) : EffectSet :=
  match registry.findCapability node.operation.capability with
  | some contract => derivedEffects contract node
  | none => ∅

/-- The map holds exactly the effects of the nodes of the list. -/
def EffectsOf (registry : SemanticRegistry) (allEffects : EffectMap) (l : List Node) : Prop :=
  ∀ id effects, allEffects[id]? = some effects ↔
    ∃ n ∈ l, n.id = id ∧ resolvedEffects registry n = effects

theorem EffectsOf.get {registry : SemanticRegistry} {allEffects : EffectMap} {l : List Node}
    (h : EffectsOf registry allEffects l) {n : Node} (hn : n ∈ l) :
    allEffects[n.id]? = some (resolvedEffects registry n) :=
  (h _ _).mpr ⟨n, hn, rfl, rfl⟩

theorem validateEffectsFrom_spec {program : AiosIr} {registry : SemanticRegistry}
    {capabilities : CapabilityMap} : ∀ (l done : List Node) (i : Nat) (allEffects : EffectMap),
    ((done ++ l).map (·.id)).Nodup →
    (∀ n ∈ l, ∃ c, registry.findCapability n.operation.capability = some c ∧
      capabilities[n.id]? = some c) → EffectsOf registry allEffects done →
    ∃ ds effects, validateEffectsFrom program capabilities i l allEffects = .ok (ds, effects) ∧
      AllErrors ds ∧
      (ds = [] ↔ ∀ n ∈ l, ∀ c, registry.findCapability n.operation.capability = some c →
        NodeEffectsOk program c n) ∧
      EffectsOf registry effects (done ++ l)
  | [], done, _, allEffects, _, _, hdone =>
      ⟨[], allEffects, rfl, allErrors_nil, by simp, by simpa using hdone⟩
  | node :: rest, done, i, allEffects, hn, hcap, hdone => by
      obtain ⟨c, hc, hget⟩ := hcap node List.mem_cons_self
      have hres : resolvedEffects registry node = derivedEffects c node := by
        unfold resolvedEffects
        rw [hc]
      have hnew : ∀ m ∈ done, m.id ≠ node.id := by
        intro m hm e
        rw [List.map_append, List.nodup_append] at hn
        exact hn.2.2 m.id (List.mem_map.mpr ⟨m, hm, rfl⟩) node.id (by simp) e
      have hstep : EffectsOf registry (allEffects.insert node.id (derivedEffects c node))
          (done ++ [node]) := by
        intro id effects
        rw [Std.ExtTreeMap.getElem?_insert]
        by_cases e : node.id = id
        · subst e
          rw [if_pos Std.ReflCmp.compare_self]
          constructor
          · intro h
            exact ⟨node, by simp, rfl, hres.trans (Option.some.inj h)⟩
          · rintro ⟨m, hm, hid, hm'⟩
            rcases List.mem_append.mp hm with hm | hm
            · exact absurd hid (hnew m hm)
            · rw [List.mem_singleton.mp hm, hres] at hm'
              rw [hm']
        · rw [if_neg fun h => e (Std.LawfulEqCmp.eq_of_compare h), hdone id effects]
          constructor
          · rintro ⟨m, hm, h⟩
            exact ⟨m, List.mem_append_left _ hm, h⟩
          · rintro ⟨m, hm, hid, h⟩
            rcases List.mem_append.mp hm with hm | hm
            · exact ⟨m, hm, hid, h⟩
            · rw [List.mem_singleton.mp hm] at hid
              exact absurd hid e
      obtain ⟨ds, effects, h, herr, hnil, hall⟩ := validateEffectsFrom_spec rest (done ++ [node])
        (i + 1) _ (by simpa using hn) (fun n hm => hcap n (List.mem_cons_of_mem _ hm)) hstep
      refine ⟨validateNodeEffects program c node i ++ ds, effects, ?_,
        allErrors_append.mpr ⟨validateNodeEffects_allErrors _ _ _ _, herr⟩, ?_, by simpa using hall⟩
      · rw [validateEffectsFrom, bind_eq_ok']
        refine ⟨c, expect_ok.mpr hget, ?_⟩
        rw [bind_eq_ok']
        exact ⟨_, h, rfl⟩
      · rw [List.append_eq_nil_iff, validateNodeEffects_nil, hnil, List.forall_mem_cons]
        refine and_congr ⟨fun h c' hc' => ?_, fun h => h c hc⟩ Iff.rfl
        rw [hc] at hc'
        cases hc'
        exact h

/-- **The effect phase returns** the effects of every node, and finds nothing exactly when every
    node's effects are in order. -/
theorem validateEffects_spec {registry : SemanticRegistry}
    {capabilities : CapabilityMap} (hu : UniqueIds program) (ht : TypesOk program registry)
    (hcap : Resolved registry capabilities program.nodes) :
    ∃ ds effects, validateEffects program capabilities = .ok (ds, effects) ∧ AllErrors ds ∧
      (ds = [] ↔ ∀ n ∈ program.nodes, ∀ c,
        registry.findCapability n.operation.capability = some c → NodeEffectsOk program c n) ∧
      EffectsOf registry effects program.nodes := by
  have hall : ∀ n ∈ program.nodes, ∃ c, registry.findCapability n.operation.capability = some c ∧
      capabilities[n.id]? = some c := by
    intro n hn
    obtain ⟨c, hc, _⟩ := ht.nodes n hn
    exact ⟨c, hc, (hcap n hn).trans hc⟩
  have hnone : EffectsOf registry ∅ [] := by
    intro id effects
    simp
  exact validateEffectsFrom_spec program.nodes [] 0 ∅ hu hall hnone

end Aios
