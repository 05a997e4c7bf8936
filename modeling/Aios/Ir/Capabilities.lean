/-
  File:      Aios/Ir/Capabilities.lean
  Subject:   The type and capability phase: what it accepts and which contract it resolves.

  `NodeFits` says of one node and its contract what the phase checks: role, execution class, port
  shape and the types that flow into the ports. After the references are checked the phase cannot
  stop at an `expect` (`validateFlowTypes_spec`), and the map it hands to the next phases holds,
  for every node, the contract the registry resolves.
-/
import Aios.Ir.References

namespace Aios

open Lib

/-! ## 1. The properties -/

/-- The type of a value, and whether it is an optional program input. -/
def HasType (program : AiosIr) : ValueRef → String → Bool → Prop
  | .input name, t, optional => ∃ i, program.inputs[name]? = some i ∧ i.typeRef = t ∧
      optional = !i.required
  | .node id port, t, optional => (∃ n ∈ program.nodes, n.id = id ∧ n.outputs[port]? = some t) ∧
      optional = false

/-- The value fits the port: its type is the port's, and it is there when the port needs it. -/
def Flows (program : AiosIr) (r : ValueRef) (port : PortContract) : Prop :=
  ∃ optional, HasType program r port.typeRef optional ∧ (port.required = true → optional = false)

/-- The node's declared outputs have known types. -/
def OutputTypesKnown (registry : SemanticRegistry) (node : Node) : Prop :=
  ∀ (port t : String), node.outputs[port]? = some t → (registry.findType t).isSome

/-- The ports of the node are ports of the contract, and the required ones are there. -/
structure PortsFit (node : Node) (contract : CapabilityContract) : Prop where
  requiredInputs : ∀ (port : String) (s : PortContract), contract.inputs[port]? = some s →
    s.required = true → port ∈ node.inputs
  declaredInputs : ∀ port : String, port ∈ node.inputs → port ∈ contract.inputs
  requiredOutputs : ∀ (port : String) (s : PortContract), contract.outputs[port]? = some s →
    s.required = true → port ∈ node.outputs
  declaredOutputs : ∀ (port t : String), node.outputs[port]? = some t →
    ∃ s, contract.outputs[port]? = some s ∧ s.typeRef = t

/-- The node fits its contract. -/
structure NodeFits (program : AiosIr) (registry : SemanticRegistry) (node : Node)
    (contract : CapabilityContract) : Prop where
  outputTypes : OutputTypesKnown registry node
  role : contract.role = expectedRole node.operation.kind
  executionClass : node.executionClass ∈ contract.allowedExecutionClasses
  ports : PortsFit node contract
  flow : ∀ (port : String) (r : ValueRef) (s : PortContract), node.inputs[port]? = some r →
    contract.inputs[port]? = some s → Flows program r s

/-- The program inputs have known types and every node fits the contract it resolves to. -/
structure TypesOk (program : AiosIr) (registry : SemanticRegistry) : Prop where
  inputTypes : ∀ (name : String) (i : ProgramInput), program.inputs[name]? = some i →
    (registry.findType i.typeRef).isSome
  nodes : ∀ n ∈ program.nodes, ∃ c, registry.findCapability n.operation.capability = some c ∧
    NodeFits program registry n c

/-! ## 2. Flow types -/

variable {nodes : NodeIndex} {program : AiosIr} {node : Node}

/-- **A resolving reference has exactly one type**, and the source's lookup returns it. -/
theorem valueType_spec (hx : Indexes nodes program) {r : ValueRef} (hr : Resolves program r) :
    ∃ t optional, valueType program nodes r = .ok (t, optional) ∧
      ∀ t' optional', HasType program r t' optional' ↔ t' = t ∧ optional' = optional := by
  cases r with
  | input name =>
      obtain ⟨i, hi⟩ := Option.isSome_iff_exists.mp (Std.ExtTreeMap.mem_iff_isSome_getElem?.mp hr)
      refine ⟨i.typeRef, !i.required, ?_, fun t' o' => ?_⟩
      · unfold valueType
        rw [bind_eq_ok']
        exact ⟨i, expect_ok.mpr hi, rfl⟩
      · unfold HasType
        constructor
        · rintro ⟨j, e, rfl, rfl⟩
          rw [hi] at e
          cases e
          exact ⟨rfl, rfl⟩
        · rintro ⟨rfl, rfl⟩
          exact ⟨i, hi, rfl, rfl⟩
  | node id port =>
      obtain ⟨n, hn, hid, hport⟩ := hr
      obtain ⟨t, ht⟩ := Option.isSome_iff_exists.mp (Std.ExtTreeMap.mem_iff_isSome_getElem?.mp hport)
      have hlook := (hx id n).mpr ⟨hn, hid⟩
      refine ⟨t, false, ?_, fun t' o' => ?_⟩
      · unfold valueType
        rw [bind_eq_ok']
        refine ⟨n, expect_ok.mpr hlook, ?_⟩
        rw [bind_eq_ok']
        exact ⟨t, expect_ok.mpr ht, rfl⟩
      · unfold HasType
        constructor
        · rintro ⟨⟨m, hm, hmid, hmt⟩, rfl⟩
          have e := (hx id m).mpr ⟨hm, hmid⟩
          rw [hlook] at e
          cases e
          rw [ht] at hmt
          cases hmt
          exact ⟨rfl, rfl⟩
        · rintro ⟨rfl, rfl⟩
          exact ⟨⟨n, hn, hid, ht⟩, rfl⟩

/-- The two findings on one bound port. -/
def flowFindings (node : Node) (nodeIndex : Nat) (port : String) (expected : PortContract)
    (actual : String) (optional : Bool) : List Diagnostic :=
  (if optional && expected.required then
    [contextual .irOptionalInputToRequiredPort
      s!"optional program input cannot feed required port '{port}'" (some node.id) (some port)
      (some node.operation.capability) (some s!"/nodes/{nodeIndex}/inputs/{escapePointer port}")]
  else []) ++
  if actual ≠ expected.typeRef then
    [contextual .irTypeMismatch
      s!"value type '{actual}' does not match required type '{expected.typeRef}'" (some node.id)
      (some port) (some node.operation.capability)
      (some s!"/nodes/{nodeIndex}/inputs/{escapePointer port}")]
  else []

theorem flowFindings_allErrors (node : Node) (i : Nat) (port : String) (expected : PortContract)
    (actual : String) (optional : Bool) :
    AllErrors (flowFindings node i port expected actual optional) := by
  unfold flowFindings
  refine allErrors_append.mpr ⟨?_, ?_⟩
  · split <;> simp [ValidatorReasonCode.severity]
  · split <;> simp [ValidatorReasonCode.severity]

theorem flowFindings_nil {i : Nat} {port : String} {expected : PortContract}
    {actual : String} {optional : Bool} : flowFindings node i port expected actual optional = [] ↔
      actual = expected.typeRef ∧ (expected.required = true → optional = false) := by
  unfold flowFindings
  rw [List.append_eq_nil_iff]
  cases optional <;> cases expected.required <;> simp

/-- The result of a loop is a list of errors when every run's is, and it is empty exactly when
    every element is good. -/
theorem collect_spec {α : Type} {l : List α} {f : α → Checked (List Diagnostic)} {P : α → Prop}
    (h : ∀ a ∈ l, ∃ ds, f a = .ok ds ∧ AllErrors ds ∧ (ds = [] ↔ P a)) :
    ∃ ds, collect l f = .ok ds ∧ AllErrors ds ∧ (ds = [] ↔ ∀ a ∈ l, P a) := by
  obtain ⟨r, hr⟩ := collect_total fun a ha => ⟨_, (h a ha).choose_spec.1⟩
  obtain ⟨h1, h2⟩ := mem_collect hr
  refine ⟨r, hr, fun d hd => ?_, ?_⟩
  · obtain ⟨a, ha, xs, hxs, hd⟩ := h2 d hd
    obtain ⟨ds, hds, herr, _⟩ := h a ha
    rw [hds] at hxs
    cases hxs
    exact herr d hd
  · constructor
    · rintro rfl a ha
      obtain ⟨ds, hds, _, hiff⟩ := h a ha
      rw [collect_nil.mp hr a ha] at hds
      cases hds
      exact hiff.mp rfl
    · intro hall
      have hnil : collect l f = .ok [] := collect_nil.mpr fun a ha => by
        obtain ⟨ds, hds, _, hiff⟩ := h a ha
        rw [hds, hiff.mpr (hall a ha)]
      rw [hr] at hnil
      exact Except.ok.inj hnil

/-- **The flow check returns**, and finds nothing exactly when every bound value fits its port. -/
theorem validateFlowTypes_spec (hx : Indexes nodes program)
    (hr : ∀ (port : String) (r : ValueRef), node.inputs[port]? = some r →
      Resolves program r) (contract : CapabilityContract) (i : Nat) :
    ∃ ds, validateFlowTypes program nodes node contract i = .ok ds ∧ AllErrors ds ∧
      (ds = [] ↔ ∀ (port : String) (r : ValueRef) (s : PortContract),
        node.inputs[port]? = some r → contract.inputs[port]? = some s → Flows program r s) := by
  obtain ⟨ds, hds, herr, hiff⟩ : ∃ ds, validateFlowTypes program nodes node contract i = .ok ds ∧ AllErrors ds ∧
      (ds = [] ↔ ∀ p ∈ node.inputs.toList, ∀ s, contract.inputs[p.1]? = some s → Flows program p.2 s) := by
    refine collect_spec ?_
    intro p hm
    obtain ⟨port, r⟩ := p
    have hm := Std.ExtTreeMap.mem_toList_iff_getElem?_eq_some.mp hm
    simp only
    cases hc : contract.inputs[port]? with
    | none => exact ⟨[], rfl, allErrors_nil, by simp⟩
    | some s =>
        obtain ⟨t, o, hv, huniq⟩ := valueType_spec hx (hr port r hm)
        refine ⟨flowFindings node i port s t o, ?_, flowFindings_allErrors _ _ _ _ _ _, ?_⟩
        · simp only [hv]
          rfl
        · rw [flowFindings_nil]
          constructor
          · rintro ⟨rfl, ho⟩ s' hs'
            cases hs'
            exact ⟨o, (huniq _ _).mpr ⟨rfl, rfl⟩, ho⟩
          · intro hall
            obtain ⟨o', ht, ho⟩ := hall s rfl
            obtain ⟨e, rfl⟩ := (huniq _ _).mp ht
            exact ⟨e.symm, ho⟩
  refine ⟨ds, hds, herr, hiff.trans ⟨fun h port r s hp hs => ?_, ?_⟩⟩
  · exact h (port, r) (Std.ExtTreeMap.mem_toList_iff_getElem?_eq_some.mpr hp) s hs
  · rintro h ⟨port, r⟩ hm s hs
    exact h port r s (Std.ExtTreeMap.mem_toList_iff_getElem?_eq_some.mp hm) hs

/-! ## 3. Ports and contracts -/

theorem validatePortShape_allErrors (node : Node) (contract : CapabilityContract) (i : Nat) :
    AllErrors (validatePortShape node contract i) := by
  unfold validatePortShape
  refine allErrors_append.mpr ⟨allErrors_append.mpr ⟨allErrors_append.mpr
    ⟨allErrors_flatMap fun p _ => ?_, allErrors_flatMap fun p _ => ?_⟩,
    allErrors_flatMap fun p _ => ?_⟩, allErrors_flatMap fun p _ => ?_⟩
  · split <;> simp [ValidatorReasonCode.severity]
  · split <;> simp [ValidatorReasonCode.severity]
  · split <;> simp [ValidatorReasonCode.severity]
  · split
    · simp [ValidatorReasonCode.severity]
    · split <;> simp [ValidatorReasonCode.severity]

theorem validatePortShape_nil {contract : CapabilityContract} {i : Nat} :
    validatePortShape node contract i = [] ↔ PortsFit node contract := by
  unfold validatePortShape
  rw [List.append_eq_nil_iff, List.append_eq_nil_iff, List.append_eq_nil_iff,
    flatMap_toList_nil (P := fun port s => s.required = true → port ∈ node.inputs)
      (fun port s => by simp),
    flatMap_toList_nil (P := fun port _ => port ∈ contract.inputs) (fun port r => by simp),
    flatMap_toList_nil (P := fun port s => s.required = true → port ∈ node.outputs)
      (fun port s => by simp),
    flatMap_toList_nil (P := fun port t => ∃ s, contract.outputs[port]? = some s ∧ s.typeRef = t)
      (fun port t => by cases contract.outputs[port]? <;> simp)]
  constructor
  · rintro ⟨⟨⟨h1, h2⟩, h3⟩, h4⟩
    refine ⟨h1, fun port hp => ?_, h3, h4⟩
    obtain ⟨r, hr⟩ := Option.isSome_iff_exists.mp (Std.ExtTreeMap.mem_iff_isSome_getElem?.mp hp)
    exact h2 port r hr
  · intro h
    refine ⟨⟨⟨h.requiredInputs, fun port r hr => h.declaredInputs port ?_⟩, h.requiredOutputs⟩,
      h.declaredOutputs⟩
    rw [Std.ExtTreeMap.mem_iff_isSome_getElem?, hr]
    rfl

/-- **The checks of one node return** the contract the registry resolves, and find nothing exactly
    when there is one and the node fits it. -/
theorem validateNodeCapability_spec (registry : SemanticRegistry) (hx : Indexes nodes program)
    (hr : ∀ (port : String) (r : ValueRef), node.inputs[port]? = some r → Resolves program r) (i : Nat) :
    ∃ ds, validateNodeCapability program registry nodes node i =
        .ok (ds, registry.findCapability node.operation.capability) ∧ AllErrors ds ∧
      (ds = [] ↔ ∃ c, registry.findCapability node.operation.capability = some c ∧
        NodeFits program registry node c) := by
  have houtErr : ∀ p ∈ node.outputs.toList, AllErrors
      (if (registry.findType p.2).isNone then
        [contextual .irTypeNotFound s!"output '{p.1}' references unknown type '{p.2}'" (some node.id)
          (some p.1) (some node.operation.capability)
          (some s!"/nodes/{i}/outputs/{escapePointer p.1}")]
      else []) := by
    intro p _
    split <;> simp [ValidatorReasonCode.severity]
  unfold validateNodeCapability
  simp only
  cases hc : registry.findCapability node.operation.capability with
  | none =>
      refine ⟨_, rfl, allErrors_append.mpr ⟨allErrors_flatMap houtErr, ?_⟩, ?_⟩
      · simp [ValidatorReasonCode.severity]
      · simp
  | some c =>
      obtain ⟨flow, hflow, hflowErr, hflowNil⟩ := validateFlowTypes_spec hx hr c i
      simp only
      rw [hflow]
      refine ⟨_, rfl, ?_, ?_⟩
      · refine allErrors_append.mpr ⟨allErrors_append.mpr ⟨allErrors_append.mpr ⟨allErrors_append.mpr
          ⟨allErrors_flatMap houtErr, ?_⟩, ?_⟩, validatePortShape_allErrors _ _ _⟩, hflowErr⟩
        · split <;> simp [ValidatorReasonCode.severity]
        · split <;> simp [ValidatorReasonCode.severity]
      · rw [List.append_eq_nil_iff, List.append_eq_nil_iff, List.append_eq_nil_iff,
          List.append_eq_nil_iff, validatePortShape_nil, hflowNil,
          flatMap_toList_nil (P := fun _ t => (registry.findType t).isSome) (fun port t => by
            cases registry.findType t <;> simp)]
        simp only [ite_eq_right_iff, List.cons_ne_nil, imp_false, ne_eq, not_not,
          Bool.not_eq_true', List.contains_eq_mem, decide_eq_false_iff_not]
        constructor
        · rintro ⟨⟨⟨⟨h1, h2⟩, h3⟩, h4⟩, h5⟩
          exact ⟨c, rfl, h1, h2, h3, h4, h5⟩
        · rintro ⟨c', e, h⟩
          cases e
          exact ⟨⟨⟨⟨h.outputTypes, h.role⟩, h.executionClass⟩, h.ports⟩, h.flow⟩

/-! ## 4. The phase -/

/-- The map holds, for each node of the list, the contract the registry resolves. -/
def Resolved (registry : SemanticRegistry) (capabilities : CapabilityMap) (l : List Node) : Prop :=
  ∀ n ∈ l, capabilities[n.id]? = registry.findCapability n.operation.capability

theorem validateNodeCapabilities_spec {program : AiosIr} (registry : SemanticRegistry)
    {nodes : NodeIndex} (hx : Indexes nodes program) :
    ∀ (l : List Node) (i : Nat) (capabilities : CapabilityMap), (l.map (·.id)).Nodup →
    (∀ n ∈ l, ∀ (port : String) (r : ValueRef), n.inputs[port]? = some r → Resolves program r) →
    ∃ ds caps, validateNodeCapabilities program registry nodes i l capabilities = .ok (ds, caps) ∧
      AllErrors ds ∧
      (ds = [] ↔ ∀ n ∈ l, ∃ c, registry.findCapability n.operation.capability = some c ∧
        NodeFits program registry n c) ∧
      (ds = [] → Resolved registry caps l) ∧
      ∀ id, id ∉ l.map (·.id) → caps[id]? = capabilities[id]?
  | [], _, capabilities, _, _ => by
      refine ⟨[], capabilities, rfl, allErrors_nil, by simp, fun _ n hn => ?_, fun _ _ => rfl⟩
      cases hn
  | node :: rest, i, capabilities, hn, hr => by
      obtain ⟨hnew, hn⟩ := List.nodup_cons.mp hn
      obtain ⟨ds₁, h₁, herr₁, hnil₁⟩ := validateNodeCapability_spec registry hx
        (hr node List.mem_cons_self) i
      let capabilities₁ := (registry.findCapability node.operation.capability).elim capabilities
        fun contract => capabilities.insert node.id contract
      obtain ⟨ds₂, caps, h₂, herr₂, hnil₂, hres₂, hframe₂⟩ := validateNodeCapabilities_spec registry hx rest
        (i + 1) capabilities₁ hn fun n hm => hr n (List.mem_cons_of_mem _ hm)
      have hself : ds₁ = [] → capabilities₁[node.id]? =
          registry.findCapability node.operation.capability := by
        intro e
        obtain ⟨c, hc, _⟩ := hnil₁.mp e
        simp only [capabilities₁, hc, Option.elim_some]
        exact Std.ExtTreeMap.getElem?_insert_self
      have hother : ∀ id, id ≠ node.id → capabilities₁[id]? = capabilities[id]? := by
        intro id hid
        simp only [capabilities₁]
        cases registry.findCapability node.operation.capability with
        | some contract =>
            rw [Option.elim_some, Std.ExtTreeMap.getElem?_insert, if_neg]
            exact fun h => hid (Std.LawfulEqCmp.eq_of_compare h).symm
        | none => rfl
      refine ⟨ds₁ ++ ds₂, caps, ?_, allErrors_append.mpr ⟨herr₁, herr₂⟩, ?_, ?_, ?_⟩
      · rw [validateNodeCapabilities, bind_eq_ok']
        refine ⟨_, h₁, ?_⟩
        rw [bind_eq_ok']
        refine ⟨(ds₂, caps), ?_, rfl⟩
        simp only [capabilities₁] at h₂
        cases hf : registry.findCapability node.operation.capability with
        | some contract =>
            rw [hf, Option.elim_some] at h₂
            exact h₂
        | none =>
            rw [hf, Option.elim_none] at h₂
            exact h₂
      · rw [List.append_eq_nil_iff, hnil₁, hnil₂, List.forall_mem_cons]
      · intro e n hm
        obtain ⟨e₁, e₂⟩ := List.append_eq_nil_iff.mp e
        rcases List.mem_cons.mp hm with rfl | hm
        · rw [hframe₂ n.id hnew, hself e₁]
        · exact hres₂ e₂ n hm
      · intro id hid
        rw [List.map_cons, List.mem_cons, not_or] at hid
        rw [hframe₂ id hid.2, hother id hid.1]

/-- **The type and capability phase returns**, finds nothing exactly when the program is well typed
    against the registry, and then hands on the resolved contracts. -/
theorem validateTypesAndCapabilities_spec (registry : SemanticRegistry)
    (hx : Indexes nodes program) (hu : UniqueIds program) (hr : ReferencesOk program) :
    ∃ ds caps, validateTypesAndCapabilities program registry nodes = .ok (ds, caps) ∧
      AllErrors ds ∧ (ds = [] ↔ TypesOk program registry) ∧
      (ds = [] → Resolved registry caps program.nodes) := by
  obtain ⟨ds, caps, h, herr, hnil, hres, _⟩ := validateNodeCapabilities_spec registry
    hx program.nodes 0 ∅ hu hr.inputs
  refine ⟨program.inputs.toList.flatMap (validateInputType registry) ++ ds, caps, ?_,
    allErrors_append.mpr ⟨allErrors_flatMap fun p _ => ?_, herr⟩, ?_, ?_⟩
  · unfold validateTypesAndCapabilities
    simp only
    rw [bind_eq_ok']
    exact ⟨_, h, rfl⟩
  · unfold validateInputType
    split <;> simp [ValidatorReasonCode.severity]
  · rw [List.append_eq_nil_iff, hnil, flatMap_toList_nil
      (P := fun _ i => (registry.findType i.typeRef).isSome) (fun name i => by
        unfold validateInputType
        cases registry.findType i.typeRef <;> simp)]
    exact ⟨fun h => ⟨h.1, h.2⟩, fun h => ⟨h.inputTypes, h.nodes⟩⟩
  · intro e
    exact hres (List.append_eq_nil_iff.mp e).2

end Aios
