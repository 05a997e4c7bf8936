/-
  File:      Aios/Ir/Guarantees.lean
  Subject:   WHAT AN ACCEPTED PROGRAM GUARANTEES: no effect without authority, egress as declared,
             fallbacks that neither broaden nor recurse, and an executable data flow.

  The results are read off `Accepted` and, where they need the contracts themselves, off
  `ValidCapability`. Section 4 shows where the fallback phase falls short: it holds a fallback
  against the node's envelope, but not the placement of the node against the fallback's own
  contract.
-/
import Aios.Ir.Accepted
import Mathlib.Data.List.Forall2

namespace Aios

open Lib

/-- The analysis returns this summary. -/
def Analyzed (program : AiosIr) (registry : SemanticRegistry) (summary : EffectSummary) : Prop :=
  ∃ d d', analyze program registry d = .ok (some summary, d')

variable {program : AiosIr} {registry : SemanticRegistry} {node : Node} {e : EffectClass}
  {contract : CapabilityContract}

theorem Analyzed.accepted {summary : EffectSummary} (h : Analyzed program registry summary) :
    Accepted program registry ∧ summary = summaryOf program registry := by
  obtain ⟨d, d', h⟩ := h
  exact accepted_of_analyze h

/-- The analysis, started with an empty collector, returns a summary. -/
def isAccepted (program : AiosIr) (registry : SemanticRegistry) : Bool :=
  match analyze program registry (.new 256) with
  | .ok (some _, _) => true
  | _ => false

theorem analyzed_of_isAccepted
    (h : isAccepted program registry = true) : ∃ summary, Analyzed program registry summary := by
  unfold isAccepted at h
  split at h
  · rename_i s d' e
    exact ⟨s, .new 256, d', e⟩
  · cases h

/-- The node lists at least one locality, and none of the listed ones is local. -/
def OnlyNonLocal (node : Node) : Prop :=
  ∃ c, node.constraints = some c ∧ c.locality ≠ [] ∧ ∀ l ∈ c.locality, l ≠ .onHost

theorem nonLocalOnly_iff : nonLocalOnly node = true ↔ OnlyNonLocal node := by
  unfold nonLocalOnly OnlyNonLocal
  cases node.constraints with
  | none => simp
  | some c => simp

/-! ## A sample: clean a document, then send it, with a second sender to fall back on -/

def sampleType : TypeContract where
  typeId := "artifact.doc"
  version := "1.0.0"
  kind := .artifact
  description := "a document"
  logicalSchemaRef := none
  nullable := false
  representations := []
  equality := ⟨.byteIdentical, none, none, none⟩
  unitSemantics := none
  conversionCapabilities := []
  conformance := ⟨"suite", none, none⟩
  notes := []

/-- One document in, one document out. -/
def sampleCapability (id : String) (effects : List EffectClass) (authority : List String)
    (mode : EgressMode) : CapabilityContract where
  capability := id
  version := "1.0.0"
  description := none
  role := .ordinary
  inputs := .ofList [("doc", (⟨"artifact.doc@1", true, none⟩ : PortContract))]
  outputs := .ofList [("doc", (⟨"artifact.doc@1", true, none⟩ : PortContract))]
  allowedExecutionClasses := [.deterministic]
  requiredEffectClasses := effects
  allowedEffectClasses := effects
  requiredAuthorityClasses := authority
  allowedAuthorityClasses := authority
  allowedEgressModes := [mode]
  determinism := none
  errorClasses := []
  conformance := ⟨"suite", none, none⟩
  notes := []

def sampleSender (id : String) : CapabilityContract :=
  sampleCapability id [.network, .dataEgress] ["network.connect", "data.egress"] .policy

def sampleRegistry : SemanticRegistry where
  snapshot := ⟨"0.1", "sample", none, [], [], "2026-01-01T00:00:00Z", none, []⟩
  snapshotId := "sample"
  hashVerification := .strict
  types := .ofList [(("artifact.doc", 1), sampleType)] lexCmp
  capabilities := .ofList [(("doc.clean", 1), sampleCapability "doc.clean" [.pure] [] .deny),
    (("doc.send", 1), sampleSender "doc.send"), (("doc.post", 1), sampleSender "doc.post")] lexCmp
  typeHashes := ∅
  capabilityHashes := ∅

def sampleNode (id capability : String) (source : ValueRef) : Node where
  id := id
  operation := ⟨.invoke, capability⟩
  executionClass := .deterministic
  inputs := .ofList [("doc", source)]
  outputs := .ofList [("doc", "artifact.doc@1")]
  authorityRequests := []
  egress := ⟨.deny, []⟩
  constraints := none
  failure := .stop
  cache := .never
  description := none
  metadata := none

/-- The sending node: remote only, with its authority and destination. -/
def sampleSend (fallbacks : List String) : Node :=
  { sampleNode "send" "doc.send@1" (.node "clean" "doc") with
    authorityRequests :=
      [⟨"network.connect", "host:mail", none⟩, ⟨"data.egress", "destination:mail", none⟩]
    egress := ⟨.policy, ["mail"]⟩
    constraints := some ⟨[.remote], none, none, none, none⟩
    failure := .fallback fallbacks }

def sampleProgram (fallbacks : List String) : AiosIr where
  irVersion := "0.1"
  programId := "sample"
  kind := .taskGraph
  inputs := .ofList [("doc", (⟨"artifact.doc@1", true, [], none⟩ : ProgramInput))]
  nodes := [sampleSend fallbacks, sampleNode "clean" "doc.clean@1" (.input "doc")]
  outputs := .ofList [("sent", ValueRef.node "send" "doc")]
  metadata := none

theorem sampleRegistry_validated : sampleRegistry.Validated := by
  have hall : ∀ p ∈ sampleRegistry.capabilities.toList,
      validateCapabilityContract p.2 = .ok () := by decide +kernel
  intro key contract h
  exact hall (key, contract) (Std.ExtTreeMap.mem_toList_iff_getElem?_eq_some.mpr h)

theorem sampleProgram_analyzed :
    ∃ summary, Analyzed (sampleProgram ["doc.post@1"]) sampleRegistry summary :=
  analyzed_of_isAccepted (by decide +kernel)

/-! ## 1. No effect without authority -/

/-- The node requests an authority class that maps to the effect. -/
def Backed (node : Node) (e : EffectClass) : Prop :=
  ∃ q ∈ node.authorityRequests, effectForAuthorityClass q.action = some e

theorem backed_of_action {a : String}
    (ha : a ∈ requestedActions node) (he : effectForAuthorityClass a = some e) : Backed node e := by
  obtain ⟨q, hq, rfl⟩ := List.mem_map.mp ha
  exact ⟨q, hq, he⟩

/-- **Each source of an effect comes with its request**: the contract's authority classes cover its
    required effects, and placement asks for `network.connect` and `data.egress`. -/
theorem backed_of_mem (hv : ValidCapability contract) (h : NodeEffectsOk program contract node)
    (he : e ∈ derivedEffects contract node) (hp : e ≠ .pure) (hl : e ≠ .legacyOpaque) :
    Backed node e := by
  rcases source_of_mem he hp with h1 | h2 | h3 | h4
  · obtain ⟨a, ha, hae⟩ := hv.backed e h1.1 hp hl
    exact backed_of_action (h.required a ha) hae
  · exact h2
  · exact backed_of_action (h.placementNetwork h3.1)
      (by rw [h3.2]; exact effectForAuthorityClass_network.mpr rfl)
  · exact backed_of_action (h.placementEgress h4.1 h4.2.1)
      (by rw [h4.2.2]; exact effectForAuthorityClass_dataEgress.mpr rfl)

theorem requested_mem (h : NodeEffectsOk program contract node) {q : AuthorityRequest}
    (hq : q ∈ node.authorityRequests) :
    ∃ e, effectForAuthorityClass q.action = some e ∧ e ∈ derivedEffects contract node := by
  obtain ⟨e, he⟩ := Option.isSome_iff_exists.mp (h.mapped q hq)
  exact ⟨e, he, mem_derivedEffects.mpr (Or.inl (Or.inr (Or.inl ⟨q, hq, he⟩)))⟩

theorem mem_programEffects {l : List Node}
    (hp : e ≠ .pure) : e ∈ programEffects registry l ↔ ∃ n ∈ l, e ∈ resolvedEffects registry n := by
  unfold programEffects
  simp only
  split
  · rw [Std.ExtTreeSet.mem_erase, ne_eq, Std.LawfulEqCmp.compare_eq_iff_eq]
    simp [Ne.symm hp]
  · simp

/-- The effects of the summary other than PURE are those of the nodes. -/
theorem mem_summary_effects (hp : e ≠ .pure) : e ∈ (summaryOf program registry).effects ↔
      ∃ n ∈ program.nodes, e ∈ resolvedEffects registry n := by
  show e ∈ (programEffects registry (orderedNodes program)).toList ↔ _
  rw [Std.ExtTreeSet.mem_toList, mem_programEffects hp]
  simp only [mem_orderedNodes]

theorem mem_summary_nodes {s : NodeEffectSummary} : s ∈ (summaryOf program registry).nodes ↔
      ∃ n ∈ program.nodes, nodeSummary n (resolvedEffects registry n) = s := by
  show s ∈ (orderedNodes program).map _ ↔ _
  rw [List.mem_map]
  simp only [mem_orderedNodes]

/-- **No unbacked effect.** In an accepted program every protected effect of a node, and so of the
    summary, has its authority request; every request's effect is derived; every derived effect is
    allowed by the contract; and PURE stands alone. -/
theorem effects_backed_by_authority {program : AiosIr} {registry : SemanticRegistry}
    {summary : EffectSummary} (hr : registry.Validated) (h : Analyzed program registry summary) :
    (∀ n ∈ program.nodes, ∃ c, registry.findCapability n.operation.capability = some c ∧
      nodeSummary n (derivedEffects c n) ∈ summary.nodes ∧
      (∀ e ∈ derivedEffects c n, e ≠ .pure → e ≠ .legacyOpaque → Backed n e) ∧
      (∀ q ∈ n.authorityRequests, ∃ e, effectForAuthorityClass q.action = some e ∧
        e ∈ derivedEffects c n) ∧
      (∀ e ∈ derivedEffects c n, e ∈ c.allowedEffectClasses) ∧
      (.pure ∈ derivedEffects c n ↔ ∀ e, e ∈ derivedEffects c n ↔ e = .pure)) ∧
    (∀ s ∈ summary.nodes, ∃ n ∈ program.nodes, s.nodeId = n.id ∧
      ∀ e ∈ s.effects, e ≠ .pure → e ≠ .legacyOpaque → Backed n e) ∧
    (∀ e ∈ summary.effects, e ≠ .pure → e ≠ .legacyOpaque → ∃ n ∈ program.nodes, Backed n e) := by
  obtain ⟨ha, rfl⟩ := h.accepted
  have hnode : ∀ n ∈ program.nodes, ∀ e ∈ resolvedEffects registry n, e ≠ .pure →
      e ≠ .legacyOpaque → Backed n e := by
    intro n hn e he hp hl
    obtain ⟨c, hc, hres, _, hok⟩ := ha.contract hn
    rw [hres] at he
    exact backed_of_mem (hr.find hc) hok he hp hl
  refine ⟨fun n hn => ?_, fun s hs => ?_, fun e he hp hl => ?_⟩
  · obtain ⟨c, hc, hres, _, hok⟩ := ha.contract hn
    refine ⟨c, hc, ?_, ?_, fun q hq => requested_mem hok hq, hok.allowedEffects,
      pure_mem_derivedEffects⟩
    · rw [← hres]
      exact mem_summary_nodes.mpr ⟨n, hn, rfl⟩
    · rw [← hres]
      exact hnode n hn
  · obtain ⟨n, hn, rfl⟩ := mem_summary_nodes.mp hs
    refine ⟨n, hn, rfl, fun e he hp hl => hnode n hn e ?_ hp hl⟩
    exact Std.ExtTreeSet.mem_toList.mp he
  · obtain ⟨n, hn, he⟩ := (mem_summary_effects hp).mp he
    exact ⟨n, hn, hnode n hn e he hp hl⟩

theorem sample_effects_backed : ∃ summary,
    Analyzed (sampleProgram ["doc.post@1"]) sampleRegistry summary ∧
    ∀ e ∈ summary.effects, e ≠ .pure → e ≠ .legacyOpaque →
      ∃ n ∈ (sampleProgram ["doc.post@1"]).nodes, Backed n e := by
  obtain ⟨summary, h⟩ := sampleProgram_analyzed
  exact ⟨summary, h, (effects_backed_by_authority sampleRegistry_validated h).2.2⟩

/-! ## 2. Egress as declared -/

/-- The node has a `data.egress` request for the resource. -/
def RequestsEgress (node : Node) (resource : String) : Prop :=
  ∃ q ∈ node.authorityRequests, q.action = "data.egress" ∧ q.resource = resource

theorem mem_dataEgressResources {resource : String} :
    resource ∈ dataEgressResources node ↔ RequestsEgress node resource := by
  unfold dataEgressResources RequestsEgress
  simp only [List.mem_map, List.mem_filter, decide_eq_true_eq, and_assoc]

/-- What the two modes mean for destinations, requests and the effect. -/
theorem egressOk_cases {effects : EffectSet} (h : EgressOk node effects) :
    (node.egress.mode = .deny ∧ node.egress.destinationClasses = [] ∧
      (∀ resource, ¬ RequestsEgress node resource) ∧ .dataEgress ∉ effects) ∨
    (node.egress.mode = .policy ∧ node.egress.destinationClasses ≠ [] ∧
      ∀ resource, RequestsEgress node resource ↔
        ∃ c ∈ node.egress.destinationClasses, resource = "destination:" ++ c) := by
  unfold EgressOk at h
  cases hm : node.egress.mode with
  | deny =>
      rw [hm] at h
      refine Or.inl ⟨rfl, h.1, fun resource hq => ?_, h.2.2⟩
      have hmem := mem_dataEgressResources.mpr hq
      rw [h.2.1] at hmem
      cases hmem
  | policy =>
      rw [hm] at h
      refine Or.inr ⟨rfl, h.1, fun resource => ?_⟩
      rw [← mem_dataEgressResources]
      exact h.2 resource

/-- **DATA_EGRESS is derived exactly in policy mode.** -/
theorem dataEgress_iff_policy (h : NodeEffectsOk program contract node) :
    .dataEgress ∈ derivedEffects contract node ↔ node.egress.mode = .policy := by
  rcases egressOk_cases h.egress with ⟨hm, _, _, hno⟩ | ⟨hm, hne, hreq⟩
  · rw [hm]
    exact ⟨fun h' => absurd h' hno, fun h' => by cases h'⟩
  · refine ⟨fun _ => hm, fun _ => ?_⟩
    obtain ⟨c, hc⟩ := List.exists_mem_of_ne_nil _ hne
    obtain ⟨q, hq, ha, _⟩ := (hreq _).mpr ⟨c, hc, rfl⟩
    exact mem_derivedEffects.mpr (Or.inl (Or.inr (Or.inl
      ⟨q, hq, effectForAuthorityClass_dataEgress.mpr ha⟩)))

/-- A node that is never local and has bound inputs is in policy mode, with both requests. -/
theorem policy_of_placement (h : NodeEffectsOk program contract node) (hl : OnlyNonLocal node)
    (hi : node.inputs.isEmpty = false) : node.egress.mode = .policy ∧
      "network.connect" ∈ requestedActions node ∧ "data.egress" ∈ requestedActions node := by
  have hl := nonLocalOnly_iff.mpr hl
  refine ⟨(dataEgress_iff_policy h).mp ?_, h.placementNetwork hl, h.placementEgress hl hi⟩
  exact mem_derivedEffects.mpr (Or.inl (Or.inr (Or.inr (Or.inr ⟨hl, hi, rfl⟩))))

/-- **Egress declaration and effect coincide**, for every source of the effect and every mode. -/
theorem egress_matches_effect {program : AiosIr} {registry : SemanticRegistry}
    {summary : EffectSummary} (h : Analyzed program registry summary) :
    ∀ n ∈ program.nodes, ∃ c, registry.findCapability n.operation.capability = some c ∧
      (.dataEgress ∈ derivedEffects c n ↔ n.egress.mode = .policy) ∧
      (n.egress.mode = .policy → n.egress.destinationClasses ≠ [] ∧
        ∀ resource, RequestsEgress n resource ↔
          ∃ d ∈ n.egress.destinationClasses, resource = "destination:" ++ d) ∧
      (n.egress.mode = .deny → n.egress.destinationClasses = [] ∧
        ∀ resource, ¬ RequestsEgress n resource) ∧
      (OnlyNonLocal n → n.inputs.isEmpty = false → n.egress.mode = .policy ∧
        "network.connect" ∈ requestedActions n ∧ "data.egress" ∈ requestedActions n) := by
  intro n hn
  obtain ⟨c, hc, _, _, hok⟩ := h.accepted.1.contract hn
  refine ⟨c, hc, dataEgress_iff_policy hok, fun hm => ?_, fun hm => ?_, policy_of_placement hok⟩
  · rcases egressOk_cases hok.egress with ⟨hd, _⟩ | ⟨_, hne, hreq⟩
    · rw [hm] at hd
      cases hd
    · exact ⟨hne, hreq⟩
  · rcases egressOk_cases hok.egress with ⟨_, hd, hreq, _⟩ | ⟨hp, _⟩
    · exact ⟨hd, hreq⟩
    · rw [hm] at hp
      cases hp

theorem sample_egress_matches : ∃ summary,
    Analyzed (sampleProgram ["doc.post@1"]) sampleRegistry summary ∧
    OnlyNonLocal (sampleSend ["doc.post@1"]) ∧
    ∃ c, sampleRegistry.findCapability "doc.send@1" = some c ∧
      (.dataEgress ∈ derivedEffects c (sampleSend ["doc.post@1"]) ↔
        (sampleSend ["doc.post@1"]).egress.mode = .policy) := by
  obtain ⟨summary, h⟩ := sampleProgram_analyzed
  obtain ⟨c, hc, hiff, _⟩ := egress_matches_effect h (sampleSend ["doc.post@1"]) List.mem_cons_self
  exact ⟨summary, h, nonLocalOnly_iff.mp (by decide +kernel), c, hc, hiff⟩

/-! ## 3. Fallbacks -/

/-- The value is there whenever the program runs: a node output or a required program input. -/
def NonOptional (program : AiosIr) (r : ValueRef) : Prop :=
  ∀ name, r = .input name → ∃ i, program.inputs[name]? = some i ∧ i.required = true

/-- A fallback stays inside the node's envelope and fits its ports. -/
structure WithinNode (program : AiosIr) (summary : EffectSummary) (node : Node)
    (primary fallback : CapabilityContract) : Prop where
  effects : ∀ e ∈ fallback.allowedEffectClasses, e ≠ .pure →
    e ∈ derivedEffects primary node ∧ e ∈ summary.effects
  authority : ∀ a, a ∈ fallback.allowedAuthorityClasses ∨ a ∈ fallback.requiredAuthorityClasses →
    ∃ q ∈ node.authorityRequests, q.action = a
  egress : node.egress.mode = .deny → ∀ m ∈ fallback.allowedEgressModes, m = .deny
  role : fallback.role = expectedRole node.operation.kind
  executionClass : node.executionClass ∈ fallback.allowedExecutionClasses
  boundInputs : ∀ (port : String) (r : ValueRef), node.inputs[port]? = some r →
    ∃ p f, primary.inputs[port]? = some p ∧ fallback.inputs[port]? = some f ∧
      f.typeRef = p.typeRef
  requiredInputs : ∀ (port : String) (f : PortContract), fallback.inputs[port]? = some f →
    f.required = true → ∃ r, node.inputs[port]? = some r ∧ NonOptional program r
  outputs : ∀ port, Consumed program node port →
    ∃ t f, node.outputs[port]? = some t ∧ fallback.outputs[port]? = some f ∧ f.typeRef = t

/-- A listed fallback of an accepted program resolves, and passed the checks. -/
theorem Accepted.fallback
    (h : Accepted program registry) {n : Node} (hn : n ∈ program.nodes) {ref : String}
    (href : ref ∈ n.failure.fallbacks) : ∃ c f, registry.findCapability n.operation.capability = some c ∧
      registry.findCapability ref = some f ∧ NodeEffectsOk program c n ∧
      resolvedEffects registry n = derivedEffects c n ∧ FallbackOk program n c f := by
  obtain ⟨c, hc, hres, _, hok⟩ := h.contract hn
  obtain ⟨_, f, hf, hfok⟩ := h.fallbacks n hn c hc ref href
  exact ⟨c, f, hc, hf, hok, hres, hfok⟩

theorem withinNode_of_ok (ha : Accepted program registry) {n : Node} (hn : n ∈ program.nodes)
    {c f : CapabilityContract} (hres : resolvedEffects registry n = derivedEffects c n)
    (hv : ValidCapability f) (h : FallbackOk program n c f) :
    WithinNode program (summaryOf program registry) n c f := by
  refine ⟨fun e he hp => ?_, fun a ha => ?_, h.egress, h.role, h.executionClass, ?_, ?_,
    h.ports.consumed⟩
  · have hmem := h.effects e he hp
    refine ⟨hmem, (mem_summary_effects hp).mpr ⟨n, hn, ?_⟩⟩
    rw [hres]
    exact hmem
  · have hallowed : a ∈ f.allowedAuthorityClasses := ha.elim id (hv.authorityAllowed a)
    obtain ⟨q, hq, e⟩ := List.mem_map.mp (h.authority a hallowed)
    exact ⟨q, hq, e⟩
  · intro port r hr
    obtain ⟨p, g, hp, hg, e, _⟩ := h.ports.bound port r hr
    exact ⟨p, g, hp, hg, e⟩
  · intro port g hg hreq
    have hin := h.ports.required port g hg hreq
    obtain ⟨r, hr⟩ := Option.isSome_iff_exists.mp (Std.ExtTreeMap.mem_iff_isSome_getElem?.mp hin)
    refine ⟨r, hr, ?_⟩
    intro name e
    subst e
    have hres := ha.references.inputs n hn port _ hr
    obtain ⟨i, hi⟩ := Option.isSome_iff_exists.mp (Std.ExtTreeMap.mem_iff_isSome_getElem?.mp hres)
    obtain ⟨_, g', _, hg', _, hopt⟩ := h.ports.bound port _ hr
    rw [hg] at hg'
    cases hg'
    exact ⟨i, hi, hopt hreq name i rfl hi⟩

/-- **Fallbacks never broaden and never recurse.** -/
theorem fallbacks_never_broaden {program : AiosIr} {registry : SemanticRegistry}
    {summary : EffectSummary} (hr : registry.Validated) (h : Analyzed program registry summary) :
    (∀ n ∈ program.nodes, ∀ ref ∈ n.failure.fallbacks, ∃ c f,
      registry.findCapability n.operation.capability = some c ∧
      registry.findCapability ref = some f ∧ WithinNode program summary n c f) ∧
    ∀ a, ¬ Relation.TransGen (FallbackEdge program) a a := by
  obtain ⟨ha, rfl⟩ := h.accepted
  refine ⟨fun n hn ref href => ?_, fallbackEdge_acyclic ha.types ha.fallbacks⟩
  obtain ⟨c, f, hc, hf, _, hres, hfok⟩ := ha.fallback hn href
  exact ⟨c, f, hc, hf, withinNode_of_ok ha hn hres (hr.find hf) hfok⟩

theorem sample_fallback_within : ∃ summary c f,
    Analyzed (sampleProgram ["doc.post@1"]) sampleRegistry summary ∧
    sampleRegistry.findCapability "doc.post@1" = some f ∧
    WithinNode (sampleProgram ["doc.post@1"]) summary (sampleSend ["doc.post@1"]) c f := by
  obtain ⟨summary, h⟩ := sampleProgram_analyzed
  obtain ⟨c, f, _, hf, hw⟩ := (fallbacks_never_broaden sampleRegistry_validated h).1
    (sampleSend ["doc.post@1"]) List.mem_cons_self "doc.post@1" List.mem_cons_self
  exact ⟨summary, c, f, h, hf, hw⟩

/-! ## 4. A fallback against its own contract -/

/-- The effects that running `fallback` in the place of the node necessarily has. -/
def RunEffect (node : Node) (fallback : CapabilityContract) (e : EffectClass) : Prop :=
  (e ∈ fallback.requiredEffectClasses ∧ e ≠ .pure) ∨ (OnlyNonLocal node ∧ e = .network) ∨
    (OnlyNonLocal node ∧ node.inputs.isEmpty = false ∧ e = .dataEgress)

/-- Every fallback of the program runs inside its own contract. -/
def FallbacksRunInside (program : AiosIr) (registry : SemanticRegistry) : Prop :=
  ∀ n ∈ program.nodes, ∀ ref ∈ n.failure.fallbacks, ∀ f,
    registry.findCapability ref = some f →
    (∀ e, RunEffect n f e → e ∈ f.allowedEffectClasses) ∧
    (OnlyNonLocal n → n.inputs.isEmpty = false → n.egress.mode ∈ f.allowedEgressModes)

/-- Where a node is placed non-locally, its fallbacks allow NETWORK, and DATA_EGRESS if the node
    has bound inputs: the check the effect phase makes of the primary capability. -/
def FallbacksAllowPlacement (program : AiosIr) (registry : SemanticRegistry) : Prop :=
  ∀ n ∈ program.nodes, OnlyNonLocal n → ∀ ref ∈ n.failure.fallbacks, ∀ f,
    registry.findCapability ref = some f →
    .network ∈ f.allowedEffectClasses ∧
      (n.inputs.isEmpty = false → .dataEgress ∈ f.allowedEffectClasses)

/-- **A fallback of an accepted program runs inside its contract exactly when that contract allows
    the effects of the node's placement.** -/
theorem fallbacks_run_inside_iff {program : AiosIr} {registry : SemanticRegistry}
    {summary : EffectSummary} (hr : registry.Validated) (h : Analyzed program registry summary) :
    FallbacksRunInside program registry ↔ FallbacksAllowPlacement program registry := by
  have ha := h.accepted.1
  constructor
  · intro hin n hn hl ref href f hf
    obtain ⟨heff, _⟩ := hin n hn ref href f hf
    exact ⟨heff .network (Or.inr (Or.inl ⟨hl, rfl⟩)),
      fun hi => heff .dataEgress (Or.inr (Or.inr ⟨hl, hi, rfl⟩))⟩
  · intro hall n hn ref href f hf
    have hv := hr.find hf
    refine ⟨fun e he => ?_, fun hl hi => ?_⟩
    · rcases he with h1 | h2 | h3
      · exact hv.effectsAllowed e h1.1
      · rw [h2.2]
        exact (hall n hn h2.1 ref href f hf).1
      · rw [h3.2.2]
        exact (hall n hn h3.1 ref href f hf).2 h3.2.1
    · -- placement with bound inputs forces policy mode, which DATA_EGRESS in the contract carries
      obtain ⟨c, _, _, _, hok⟩ := ha.contract hn
      rw [(policy_of_placement hok hl hi).1]
      exact hv.policyEffect.mpr ((hall n hn hl ref href f hf).2 hi)

theorem sample_fallback_runs_inside : ∃ summary,
    Analyzed (sampleProgram ["doc.post@1"]) sampleRegistry summary ∧
    (FallbacksRunInside (sampleProgram ["doc.post@1"]) sampleRegistry ↔
      FallbacksAllowPlacement (sampleProgram ["doc.post@1"]) sampleRegistry) := by
  obtain ⟨summary, h⟩ := sampleProgram_analyzed
  exact ⟨summary, h, fallbacks_run_inside_iff sampleRegistry_validated h⟩

/-- A remote-only node with bound inputs may fall back on a capability that is pure, denies egress
    and so cannot run where the node runs: the analysis accepts it. -/
theorem remote_node_pure_fallback : ∃ summary, sampleRegistry.Validated ∧
    Analyzed (sampleProgram ["doc.clean@1"]) sampleRegistry summary ∧
    ¬ FallbacksRunInside (sampleProgram ["doc.clean@1"]) sampleRegistry := by
  have haccepted : isAccepted (sampleProgram ["doc.clean@1"]) sampleRegistry = true := by
    decide +kernel
  obtain ⟨summary, h⟩ := analyzed_of_isAccepted haccepted
  refine ⟨summary, sampleRegistry_validated, h, fun hin => ?_⟩
  have hfind : sampleRegistry.findCapability "doc.clean@1" =
      some (sampleCapability "doc.clean" [.pure] [] .deny) := by decide +kernel
  have hremote : OnlyNonLocal (sampleSend ["doc.clean@1"]) :=
    nonLocalOnly_iff.mp (by decide +kernel)
  obtain ⟨heff, _⟩ := hin (sampleSend ["doc.clean@1"]) List.mem_cons_self "doc.clean@1"
    List.mem_cons_self _ hfind
  have hnet : EffectClass.network ∈ [EffectClass.pure] :=
    heff .network (Or.inr (Or.inl ⟨hremote, rfl⟩))
  exact absurd hnet (by decide)

/-! ## 5. The data flow is executable -/

/-- A permutation of the images is the image of a permutation. -/
theorem exists_perm_of_map {α β : Type} {f : α → β} {l : List α} {order : List β}
    (h : order.Perm (l.map f)) : ∃ l' : List α, l'.Perm l ∧ l'.map f = order := by
  have hf : List.Forall₂ (fun b a => b = f a) (l.map f) l := by
    rw [List.forall₂_map_left_iff, List.forall₂_same]
    exact fun _ _ => rfl
  obtain ⟨l', hl', hp⟩ := List.perm_comp_forall₂ h hf
  refine ⟨l', hp, ?_⟩
  rw [← List.forall₂_eq_eq_eq, List.forall₂_map_left_iff]
  exact List.Forall₂.flip (hl'.imp fun _ _ e => e.symm)

/-- The node can run once the nodes before it have: each node input is a declared output of one of
    them, of the type the contract's port has; the required ports are bound, and none of them to an
    optional program input. -/
structure Executable (program : AiosIr) (contract : CapabilityContract) (before : List Node)
    (node : Node) : Prop where
  inputs : ∀ port id q : String, node.inputs[port]? = some (.node id q) →
    ∃ m ∈ before, m.id = id ∧ ∃ t s, m.outputs[q]? = some t ∧
      contract.inputs[port]? = some s ∧ s.typeRef = t
  requiredInputs : ∀ (port : String) (s : PortContract), contract.inputs[port]? = some s →
    s.required = true → ∃ r, node.inputs[port]? = some r ∧ NonOptional program r
  requiredOutputs : ∀ (port : String) (s : PortContract), contract.outputs[port]? = some s →
    s.required = true → port ∈ node.outputs

/-- A node that fits its contract can run behind its producers. -/
theorem executable_of_fits (hu : UniqueIds program) (hn : node ∈ program.nodes)
    (hfits : NodeFits program registry node contract) {before : List Node}
    (hsub : ∀ m ∈ before, m ∈ program.nodes)
    (hbefore : ∀ a, FeedsNode program a node.id → ∃ m ∈ before, m.id = a) :
    Executable program contract before node := by
  refine ⟨fun port id q hq => ?_, fun port s hs hreq => ?_, hfits.ports.requiredOutputs⟩
  · obtain ⟨m, hm, hid⟩ := hbefore id ⟨node, hn, rfl, port, q, hq⟩
    have hin : port ∈ node.inputs := by
      rw [Std.ExtTreeMap.mem_iff_isSome_getElem?, hq]
      rfl
    obtain ⟨s, hs⟩ := Option.isSome_iff_exists.mp
      (Std.ExtTreeMap.mem_iff_isSome_getElem?.mp (hfits.ports.declaredInputs port hin))
    obtain ⟨_, ⟨⟨m', hm', hid', ht⟩, _⟩, _⟩ := hfits.flow port _ s hq hs
    rw [hu.eq hm' (hsub m hm) (hid'.trans hid.symm)] at ht
    exact ⟨m, hm, hid, s.typeRef, s, ht, hs, rfl⟩
  · have hin := hfits.ports.requiredInputs port s hs hreq
    obtain ⟨r, hr⟩ := Option.isSome_iff_exists.mp (Std.ExtTreeMap.mem_iff_isSome_getElem?.mp hin)
    refine ⟨r, hr, fun name e => ?_⟩
    subst e
    obtain ⟨optional, ⟨i, hi, _, ho⟩, hopt⟩ := hfits.flow port _ s hr hs
    rw [hopt hreq] at ho
    exact ⟨i, hi, by simpa using ho.symm⟩

/-- **The data flow is executable.** The cycle check reports exactly the cyclic programs, and an
    accepted program has an order of all its nodes in which each can run behind those before it. -/
theorem dataflow_executable :
    (∀ program, UniqueIds program → ProducersResolve program →
      ∃ ds, validateAcyclic program (indexNodes program).1 = .ok ds ∧
        ((∃ d ∈ ds, d.code = .irGraphCycle) ↔ Cyclic program)) ∧
    ∀ program registry summary, Analyzed program registry summary →
      ∃ order : List Node, order.Perm program.nodes ∧
        ∀ l n r, order = l ++ n :: r → ∃ c,
          registry.findCapability n.operation.capability = some c ∧
          Executable program c l n := by
  constructor
  · intro program hu hp
    obtain ⟨ds, hds, hcode, _, hiff, _⟩ := validateAcyclic_spec (indexNodes_indexes hu) hp
    refine ⟨ds, hds, ?_⟩
    rw [← hiff]
    constructor
    · intro ⟨d, hd, _⟩ e
      rw [e] at hd
      cases hd
    · intro hne
      obtain ⟨d, hd⟩ := List.exists_mem_of_ne_nil ds hne
      exact ⟨d, hd, hcode d hd⟩
  · intro program registry summary h
    have ha := h.accepted.1
    have hx := indexNodes_indexes ha.ids
    obtain ⟨ds, _, _, _, hiff, horder⟩ := validateAcyclic_spec hx ha.references.producersResolve
    have hnil : ds = [] := by
      by_contra hne
      exact ha.acyclic (hiff.mp hne)
    obtain ⟨ids, hids, hflow⟩ := horder hnil
    have hkeys : ids.Perm (program.nodes.map (·.id)) := by
      refine hids.trans ((List.perm_ext_iff_of_nodup Std.ExtTreeMap.nodup_keys ha.ids).mpr fun id => ?_)
      rw [Std.ExtTreeMap.mem_keys, hx.mem, List.mem_map]
    obtain ⟨order, hperm, hmap⟩ := exists_perm_of_map hkeys
    refine ⟨order, hperm, fun l n r e => ?_⟩
    have hmem : ∀ m ∈ l, m ∈ program.nodes := fun m hm => hperm.mem_iff.mp (by
      rw [e]
      exact List.mem_append_left _ hm)
    have hn : n ∈ program.nodes := hperm.mem_iff.mp (by
      rw [e]
      exact List.mem_append_right _ List.mem_cons_self)
    obtain ⟨c, hc, _, hfits, _⟩ := ha.contract hn
    refine ⟨c, hc, executable_of_fits ha.ids hn hfits hmem fun a hfeeds => ?_⟩
    have hsplit : ids = l.map (·.id) ++ n.id :: r.map (·.id) := by
      rw [← hmap, e]
      simp
    exact List.mem_map.mp (hflow _ _ _ hsplit a hfeeds)

theorem sample_dataflow_executable : ∃ summary order,
    Analyzed (sampleProgram ["doc.post@1"]) sampleRegistry summary ∧
    List.Perm order (sampleProgram ["doc.post@1"]).nodes ∧
    (∃ ds, validateAcyclic (sampleProgram ["doc.post@1"])
        (indexNodes (sampleProgram ["doc.post@1"])).1 = .ok ds ∧
      ((∃ d ∈ ds, d.code = .irGraphCycle) ↔ Cyclic (sampleProgram ["doc.post@1"]))) ∧
    ∀ l n r, order = l ++ n :: r → ∃ c,
      sampleRegistry.findCapability n.operation.capability = some c ∧
      Executable (sampleProgram ["doc.post@1"]) c l n := by
  obtain ⟨summary, h⟩ := sampleProgram_analyzed
  have ha := h.accepted.1
  obtain ⟨order, hperm, hrun⟩ := dataflow_executable.2 _ _ _ h
  exact ⟨summary, order, h, hperm,
    dataflow_executable.1 _ ha.ids ha.references.producersResolve, hrun⟩

end Aios
