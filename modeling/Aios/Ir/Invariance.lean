/-
  File:      Aios/Ir/Invariance.lean
  Subject:   THE ANALYSIS DOES NOT DEPEND ON ORDER OR PROSE.

  Two programs that are the same up to order and prose (`SameProgram`) are accepted or refused
  together (`SameProgram.accepted_iff`), and an accepted one has the other's summary
  (`summaryOf_eq`). Each property of the phases is carried over one program to the other; symmetry
  of the relation gives the way back.
-/
import Aios.Ir.Accepted
import Aios.Ir.Identity

namespace Aios

open Lib

/-! ## 1. Symmetry -/

theorem SameInput.symm {a b : ProgramInput} (h : SameInput a b) : SameInput b a :=
  ⟨h.typeRef.symm, h.required.symm, h.mediaTypes.symm⟩

theorem SameEgress.symm {a b : Egress} (h : SameEgress a b) : SameEgress b a :=
  ⟨h.mode.symm, h.destinationClasses.symm⟩

theorem SameConstraints.symm {a b : Constraints} (h : SameConstraints a b) : SameConstraints b a :=
  ⟨h.locality.symm, h.maxLatencyMs.symm, h.maxCostMicrousd.symm, h.minMemoryBytes.symm,
    h.accelerator.symm⟩

variable {p q : AiosIr} {a b : Node}

theorem SameNode.symm (h : SameNode a b) : SameNode b a :=
  ⟨h.id.symm, h.operation.symm, h.executionClass.symm, h.inputs.symm, h.outputs.symm,
    h.authorityRequests.symm, h.egress.symm, h.constraints.symm, h.failure.symm, h.cache.symm⟩

/-- Paired lists: each element on the left has its partner. -/
theorem exists_partner {α β : Type} {R : α → β → Prop} {l : List α} {r : List β}
    (h : List.Forall₂ R l r) {a : α} (ha : a ∈ l) : ∃ b ∈ r, R a b := by
  induction h with
  | nil => cases ha
  | @cons x y l r hxy _ ih =>
      rcases List.mem_cons.mp ha with e | ha
      · rw [e]
        exact ⟨y, List.mem_cons_self, hxy⟩
      · obtain ⟨b, hb, hr⟩ := ih ha
        exact ⟨b, List.mem_cons_of_mem y hb, hr⟩

theorem rel_symm {α : Type} {R : α → α → Prop} (hR : ∀ a b, R a b → R b a) {x y : Option α}
    (h : Option.Rel R x y) : Option.Rel R y x := by
  cases h with
  | none => exact .none
  | some h => exact .some (hR _ _ h)

theorem SameProgram.symm (h : SameProgram p q) : SameProgram q p := by
  obtain ⟨l, hl, hp⟩ := h.nodes
  have hflip : List.Forall₂ SameNode l p.nodes :=
    (List.Forall₂.flip hl).imp fun _ _ hs => hs.symm
  obtain ⟨m, hm, hmp⟩ := List.perm_comp_forall₂ hp.symm hflip
  exact ⟨h.irVersion.symm, h.kind.symm, fun name => rel_symm (fun _ _ => SameInput.symm) (h.inputs name),
    ⟨m, hm, hmp⟩, h.outputs.symm⟩

/-- Every node has its counterpart. -/
theorem SameProgram.node (h : SameProgram p q) {n : Node} (hn : n ∈ p.nodes) :
    ∃ m ∈ q.nodes, SameNode n m := by
  obtain ⟨l, hl, hp⟩ := h.nodes
  obtain ⟨m, hm, hs⟩ := exists_partner hl hn
  exact ⟨m, hp.mem_iff.mp hm, hs⟩

/-- Every program input has its counterpart. -/
theorem SameProgram.input (h : SameProgram p q) {name : String} {i : ProgramInput}
    (hi : p.inputs[name]? = some i) : ∃ j, q.inputs[name]? = some j ∧ SameInput i j := by
  have hrel := h.inputs name
  rw [hi] at hrel
  cases hj : q.inputs[name]? with
  | none =>
      rw [hj] at hrel
      cases hrel
  | some j =>
      rw [hj, Option.rel_some_some] at hrel
      exact ⟨j, rfl, hrel⟩

theorem SameProgram.mem_inputs (h : SameProgram p q) {name : String}
    (hn : name ∈ p.inputs) : name ∈ q.inputs := by
  obtain ⟨i, hi⟩ := Option.isSome_iff_exists.mp (Std.ExtTreeMap.mem_iff_isSome_getElem?.mp hn)
  obtain ⟨j, hj, _⟩ := h.input hi
  rw [Std.ExtTreeMap.mem_iff_isSome_getElem?, hj]
  rfl

/-! ## 2. What a node shows to the phases -/

/-- Every request has a counterpart that asks for the same. -/
theorem SameNode.request (h : SameNode a b) {q : AuthorityRequest} (hq : q ∈ a.authorityRequests) :
    ∃ r ∈ b.authorityRequests, r.action = q.action ∧ r.resource = q.resource := by
  have hpair : q.pair ∈ b.authorityRequests.map AuthorityRequest.pair :=
    h.authorityRequests.mem_iff.mp (List.mem_map_of_mem hq)
  obtain ⟨r, hr, e⟩ := List.mem_map.mp hpair
  have e : r.action = q.action ∧ r.resource = q.resource := by
    simpa [AuthorityRequest.pair] using e
  exact ⟨r, hr, e⟩

theorem SameNode.mem_requestedActions (h : SameNode a b) {x : String}
    (hx : x ∈ requestedActions a) : x ∈ requestedActions b := by
  obtain ⟨q, hq, rfl⟩ := List.mem_map.mp hx
  obtain ⟨r, hr, e, _⟩ := h.request hq
  exact List.mem_map.mpr ⟨r, hr, e⟩

theorem nonLocalOnly_getD (n : Node) : nonLocalOnly n =
    (!(n.constraints.getD .empty).locality.isEmpty &&
      (n.constraints.getD .empty).locality.all (· ≠ .onHost)) := by
  unfold nonLocalOnly
  cases n.constraints with
  | none => rfl
  | some c => rfl

theorem SameNode.nonLocalOnly_eq (h : SameNode a b) : nonLocalOnly a = nonLocalOnly b := by
  have hl := h.constraints.locality
  rw [nonLocalOnly_getD, nonLocalOnly_getD, hl.isEmpty_eq, hl.all_eq]

/-- **The derived effects do not depend on order or prose.** -/
theorem SameNode.derivedEffects_eq (h : SameNode a b) (c : CapabilityContract) :
    derivedEffects c a = derivedEffects c b := by
  have hsource : ∀ {a b : Node}, SameNode a b → ∀ e, EffectSource c a e → EffectSource c b e := by
    intro a b h e he
    rcases he with h1 | ⟨q, hq, he⟩ | h3 | h4
    · exact Or.inl h1
    · obtain ⟨r, hr, e', _⟩ := h.request hq
      exact Or.inr (Or.inl ⟨r, hr, by rw [e']; exact he⟩)
    · rw [h.nonLocalOnly_eq] at h3
      exact Or.inr (Or.inr (Or.inl h3))
    · rw [h.nonLocalOnly_eq, h.inputs] at h4
      exact Or.inr (Or.inr (Or.inr h4))
  have hiff : ∀ e, EffectSource c a e ↔ EffectSource c b e :=
    fun e => ⟨hsource h e, hsource h.symm e⟩
  refine Std.ExtTreeSet.ext_mem fun e => ?_
  rw [mem_derivedEffects, mem_derivedEffects]
  simp only [hiff]

theorem SameNode.resolvedEffects_eq (h : SameNode a b) (registry : SemanticRegistry) :
    resolvedEffects registry a = resolvedEffects registry b := by
  unfold resolvedEffects
  rw [h.operation]
  cases registry.findCapability b.operation.capability with
  | none => rfl
  | some c => exact h.derivedEffects_eq c

theorem SameNode.nodeSummary_eq (h : SameNode a b) (effects : EffectSet) :
    nodeSummary a effects = nodeSummary b effects := by
  have hauth : nodeAuthorities a = nodeAuthorities b := by
    refine Std.ExtTreeSet.ext_mem fun x => ?_
    unfold nodeAuthorities
    rw [Std.ExtTreeSet.mem_ofList, Std.ExtTreeSet.mem_ofList, List.contains_iff_mem,
      List.contains_iff_mem]
    exact ⟨h.mem_requestedActions, h.symm.mem_requestedActions⟩
  unfold nodeSummary
  rw [h.id, h.operation, h.executionClass, hauth, h.egress.mode]

/-! ## 3. The phases -/

section Phases

variable {p q : AiosIr} (h : SameProgram p q)

include h

theorem SameProgram.uniqueIds (hu : UniqueIds p) : UniqueIds q := by
  obtain ⟨l, hl, hp⟩ := h.nodes
  have hids : p.nodes.map (·.id) = l.map (·.id) := by
    rw [← List.forall₂_eq_eq_eq, List.forall₂_map_left_iff, List.forall₂_map_right_iff]
    exact hl.imp fun _ _ hs => hs.id
  have hperm : (p.nodes.map (·.id)).Perm (q.nodes.map (·.id)) := by
    rw [hids]
    exact hp.map _
  exact hperm.nodup_iff.mp hu

theorem SameProgram.resolves {r : ValueRef} (hr : Resolves p r) : Resolves q r := by
  cases r with
  | input name => exact h.mem_inputs hr
  | node id port =>
      obtain ⟨n, hn, rfl, hport⟩ := hr
      obtain ⟨m, hm, hs⟩ := h.node hn
      exact ⟨m, hm, hs.id.symm, hs.outputs ▸ hport⟩

theorem SameProgram.referencesOk (hr : ReferencesOk p) : ReferencesOk q := by
  refine ⟨fun m hm port r hport => ?_, fun m hm x hx name hname => ?_, fun port r hport => ?_⟩
  · obtain ⟨n, hn, hs⟩ := h.symm.node hm
    rw [hs.inputs] at hport
    exact h.resolves (hr.inputs n hn port r hport)
  · obtain ⟨n, hn, hs⟩ := h.symm.node hm
    obtain ⟨y, hy, _, e⟩ := hs.request hx
    rw [← e] at hname
    obtain ⟨hmem, port, hport⟩ := hr.selectors n hn y hy name hname
    exact ⟨h.mem_inputs hmem, port, by rw [hs.inputs]; exact hport⟩
  · rw [← h.outputs] at hport
    obtain ⟨hnode, hres⟩ := hr.outputs port r hport
    exact ⟨hnode, h.resolves hres⟩

theorem SameProgram.feedsNode {a b : String} (hf : FeedsNode p a b) : FeedsNode q a b := by
  obtain ⟨n, hn, rfl, port, x, hport⟩ := hf
  obtain ⟨m, hm, hs⟩ := h.node hn
  exact ⟨m, hm, hs.id.symm, port, x, hs.inputs ▸ hport⟩

theorem SameProgram.cyclic (hc : Cyclic p) : Cyclic q := by
  obtain ⟨id, hid⟩ := hc
  exact ⟨id, Relation.TransGen.mono (fun _ _ => h.feedsNode) _ _ hid⟩

theorem SameProgram.hasType {r : ValueRef} {t : String} {optional : Bool}
    (ht : HasType p r t optional) : HasType q r t optional := by
  cases r with
  | input name =>
      obtain ⟨i, hi, htype, hopt⟩ := ht
      obtain ⟨j, hj, hs⟩ := h.input hi
      exact ⟨j, hj, hs.typeRef ▸ htype, hs.required ▸ hopt⟩
  | node id port =>
      obtain ⟨⟨n, hn, rfl, htype⟩, hopt⟩ := ht
      obtain ⟨m, hm, hs⟩ := h.node hn
      exact ⟨⟨m, hm, hs.id.symm, hs.outputs ▸ htype⟩, hopt⟩

theorem SameProgram.flows {r : ValueRef} {port : PortContract} (hf : Flows p r port) :
    Flows q r port := by
  obtain ⟨optional, ht, hreq⟩ := hf
  exact ⟨optional, h.hasType ht, hreq⟩

theorem SameProgram.nodeFits {registry : SemanticRegistry} {a b : Node} {c : CapabilityContract}
    (hs : SameNode a b) (hf : NodeFits p registry a c) : NodeFits q registry b c where
  outputTypes := fun port t ht => hf.outputTypes port t (hs.outputs ▸ ht)
  role := by rw [← hs.operation]; exact hf.role
  executionClass := by rw [← hs.executionClass]; exact hf.executionClass
  ports :=
    ⟨fun port s hp hreq => hs.inputs ▸ hf.ports.requiredInputs port s hp hreq,
      fun port hp => hf.ports.declaredInputs port (hs.inputs ▸ hp),
      fun port s hp hreq => hs.outputs ▸ hf.ports.requiredOutputs port s hp hreq,
      fun port t hp => hf.ports.declaredOutputs port t (hs.outputs ▸ hp)⟩
  flow := fun port r s hr hc => h.flows (hf.flow port r s (hs.inputs ▸ hr) hc)

theorem SameProgram.typesOk {registry : SemanticRegistry} (ht : TypesOk p registry) :
    TypesOk q registry := by
  refine ⟨fun name j hj => ?_, fun m hm => ?_⟩
  · obtain ⟨i, hi, hs⟩ := h.symm.input hj
    rw [hs.typeRef]
    exact ht.inputTypes name i hi
  · obtain ⟨n, hn, hs⟩ := h.symm.node hm
    obtain ⟨c, hc, hf⟩ := ht.nodes n hn
    exact ⟨c, by rw [hs.operation]; exact hc, h.nodeFits hs.symm hf⟩

theorem SameProgram.readsCovered {a b : Node} {c : CapabilityContract} (hs : SameNode a b)
    (hr : ReadsCovered p a c) : ReadsCovered q b c := by
  intro port name s j hport hc hj h1 h2
  obtain ⟨i, hi, hij⟩ := h.symm.input hj
  rw [← hs.inputs] at hport
  rw [hij.typeRef] at h2
  obtain ⟨x, hx, haction, hresource⟩ := hr port name s i hport hc hi h1 h2
  obtain ⟨y, hy, e1, e2⟩ := hs.request hx
  exact ⟨y, hy, e1.trans haction, e2.trans hresource⟩

end Phases

/-- The resources of the `data.egress` requests are the same, up to order. -/
theorem SameNode.mem_dataEgressResources (h : SameNode a b) {x : String}
    (hx : x ∈ dataEgressResources a) : x ∈ dataEgressResources b := by
  unfold dataEgressResources at hx ⊢
  obtain ⟨q, hq, rfl⟩ := List.mem_map.mp hx
  rw [List.mem_filter] at hq
  obtain ⟨r, hr, e1, e2⟩ := h.request hq.1
  refine List.mem_map.mpr ⟨r, List.mem_filter.mpr ⟨hr, ?_⟩, e2⟩
  rw [e1]
  exact hq.2

theorem SameNode.egressOk (h : SameNode a b) {effects : EffectSet}
    (he : EgressOk a effects) : EgressOk b effects := by
  have hd := h.egress.destinationClasses
  have hres : ∀ x, x ∈ dataEgressResources a ↔ x ∈ dataEgressResources b :=
    fun x => ⟨h.mem_dataEgressResources, h.symm.mem_dataEgressResources⟩
  unfold EgressOk at he ⊢
  rw [← h.egress.mode]
  cases hm : a.egress.mode with
  | deny =>
      simp only [hm] at he ⊢
      refine ⟨?_, List.eq_nil_iff_forall_not_mem.mpr fun x hx => ?_, he.2.2⟩
      · rw [he.1] at hd
        exact hd.symm.eq_nil
      · have hx := (hres x).mpr hx
        rw [he.2.1] at hx
        cases hx
  | policy =>
      simp only [hm] at he ⊢
      refine ⟨fun e => he.1 ?_, fun x => ?_⟩
      · rw [e] at hd
        exact hd.eq_nil
      · rw [← hres x, he.2 x]
        simp only [hd.mem_iff]

/-- **The effect phase judges a node and its counterpart alike.** -/
theorem SameProgram.nodeEffectsOk (h : SameProgram p q)
    (hs : SameNode a b) {c : CapabilityContract} (ho : NodeEffectsOk p c a) : NodeEffectsOk q c b where
  distinct := hs.authorityRequests.nodup_iff.mp ho.distinct
  allowedAuthority := fun x hx => by
    obtain ⟨y, hy, e, _⟩ := hs.symm.request hx
    rw [← e]
    exact ho.allowedAuthority y hy
  mapped := fun x hx => by
    obtain ⟨y, hy, e, _⟩ := hs.symm.request hx
    rw [← e]
    exact ho.mapped y hy
  required := fun x hx => hs.mem_requestedActions (ho.required x hx)
  reads := fun hr => h.readsCovered hs (ho.reads hr)
  placementNetwork := fun hn =>
    hs.mem_requestedActions (ho.placementNetwork (hs.nonLocalOnly_eq.trans hn))
  placementEgress := fun hn hi =>
    hs.mem_requestedActions (ho.placementEgress (hs.nonLocalOnly_eq.trans hn) (hs.inputs ▸ hi))
  allowedEffects := fun e he => ho.allowedEffects e (by rw [hs.derivedEffects_eq]; exact he)
  egressMode := by rw [← hs.egress.mode]; exact ho.egressMode
  egress := by
    rw [← hs.derivedEffects_eq]
    exact hs.egressOk ho.egress
  cache := by
    rw [← hs.cache, ← hs.executionClass]
    exact ho.cache

theorem SameProgram.fallbackEdge (h : SameProgram p q) {a b : String}
    (he : FallbackEdge p a b) : FallbackEdge q a b := by
  obtain ⟨n, hn, ha, hb⟩ := he
  obtain ⟨m, hm, hs⟩ := h.node hn
  exact ⟨m, hm, by rw [← hs.operation]; exact ha, by rw [← hs.failure]; exact hb⟩

theorem SameProgram.consumed (h : SameProgram p q) (hs : SameNode a b)
    {port : String} (hc : Consumed p a port) : Consumed q b port := by
  rcases hc with ⟨n, hn, x, hx⟩ | ⟨x, hx⟩
  · obtain ⟨m, hm, hnm⟩ := h.node hn
    refine Or.inl ⟨m, hm, x, ?_⟩
    rw [← hnm.inputs, ← hs.id]
    exact hx
  · refine Or.inr ⟨x, ?_⟩
    rw [← h.outputs, ← hs.id]
    exact hx

theorem SameProgram.fallbackOk (h : SameProgram p q) (hs : SameNode a b)
    {primary fallback : CapabilityContract} (ho : FallbackOk p a primary fallback) :
    FallbackOk q b primary fallback where
  reads := fun hr => h.readsCovered hs (ho.reads hr)
  ports := by
    refine ⟨fun port r hr => ?_, fun port f hf hreq => ?_, fun port hc => ?_⟩
    · rw [← hs.inputs] at hr
      obtain ⟨x, f, hx, hf, ht, hopt⟩ := ho.ports.bound port r hr
      refine ⟨x, f, hx, hf, ht, fun hreq name j e hj => ?_⟩
      obtain ⟨i, hi, hij⟩ := h.symm.input hj
      rw [hij.required]
      exact hopt hreq name i e hi
    · rw [← hs.inputs]
      exact ho.ports.required port f hf hreq
    · obtain ⟨t, f, ht, hf, e⟩ := ho.ports.consumed port (h.symm.consumed hs.symm hc)
      exact ⟨t, f, by rw [← hs.outputs]; exact ht, hf, e⟩
  executionClass := by rw [← hs.executionClass]; exact ho.executionClass
  role := by rw [← hs.operation]; exact ho.role
  effects := fun e he hp => by
    rw [← hs.derivedEffects_eq]
    exact ho.effects e he hp
  authority := fun x hx => hs.mem_requestedActions (ho.authority x hx)
  egress := by rw [← hs.egress.mode]; exact ho.egress

theorem SameProgram.nodeFallbacksOk (h : SameProgram p q)
    {registry : SemanticRegistry} (hs : SameNode a b)
    (ho : NodeFallbacksOk p registry a) : NodeFallbacksOk q registry b := by
  intro c hc ref href
  rw [← hs.operation] at hc
  rw [← hs.failure] at href
  obtain ⟨hreach, fallback, hfind, hok⟩ := ho c hc ref href
  refine ⟨fun hr => hreach ?_, fallback, hfind, h.fallbackOk hs hok⟩
  rw [hs.operation]
  exact Relation.ReflTransGen.mono (fun _ _ => h.symm.fallbackEdge) _ _ hr

/-- **Programs that are the same are accepted together.** -/
theorem SameProgram.accepted (h : SameProgram p q) {registry : SemanticRegistry}
    (ha : Accepted p registry) : Accepted q registry where
  ids := h.uniqueIds ha.ids
  references := h.referencesOk ha.references
  acyclic := fun hc => ha.acyclic (h.symm.cyclic hc)
  types := h.typesOk ha.types
  effects := fun m hm c hc => by
    obtain ⟨n, hn, hs⟩ := h.symm.node hm
    exact h.nodeEffectsOk hs.symm (ha.effects n hn c (by rw [← hs.operation]; exact hc))
  fallbacks := fun m hm => by
    obtain ⟨n, hn, hs⟩ := h.symm.node hm
    exact h.nodeFallbacksOk hs.symm (ha.fallbacks n hn)

theorem SameProgram.accepted_iff (h : SameProgram p q) (registry : SemanticRegistry) :
    Accepted p registry ↔ Accepted q registry :=
  ⟨h.accepted, h.symm.accepted⟩

/-! ## 4. The summary -/

/-- A function that does not tell paired elements apart maps paired lists alike. -/
theorem map_eq_of_paired {α β : Type} {R : α → α → Prop} {f : α → β} (hf : ∀ a b, R a b → f a = f b)
    {l r : List α} (h : List.Forall₂ R l r) : l.map f = r.map f := by
  induction h with
  | nil => rfl
  | cons hab _ ih => rw [List.map_cons, List.map_cons, hf _ _ hab, ih]

/-- The ordered nodes of the two programs are paired. -/
theorem SameProgram.orderedNodes (h : SameProgram p q) (hu : UniqueIds p) :
    List.Forall₂ SameNode (orderedNodes p) (orderedNodes q) :=
  (Node.views_eq_iff _ _).mp ((sorted_views_eq_iff hu).mpr h.nodes)

/-- **The summary does not depend on order or prose.** -/
theorem summaryOf_eq (h : SameProgram p q) (hu : UniqueIds p)
    (registry : SemanticRegistry) : summaryOf p registry = summaryOf q registry := by
  have hn := h.orderedNodes hu
  have hmap {β : Type} (f : Node → β) (hf : ∀ a b, SameNode a b → f a = f b) :
      (Aios.orderedNodes p).map f = (Aios.orderedNodes q).map f := map_eq_of_paired hf hn
  have hany : ∀ f : Node → Bool, (∀ a b, SameNode a b → f a = f b) →
      (Aios.orderedNodes p).any f = (Aios.orderedNodes q).any f := by
    intro f hf
    have e : ∀ l : List Node, l.any f = (l.map f).any id := fun l => by rw [List.any_map]; rfl
    rw [e, e, hmap f hf]
  have heffects : programEffects registry (Aios.orderedNodes p) =
      programEffects registry (Aios.orderedNodes q) := by
    unfold programEffects
    rw [List.flatMap, List.flatMap, hmap _ fun a b hs => by rw [hs.resolvedEffects_eq]]
  have hauth : (Std.ExtTreeSet.ofList ((Aios.orderedNodes p).flatMap requestedActions) :
      Std.ExtTreeSet String) =
      Std.ExtTreeSet.ofList ((Aios.orderedNodes q).flatMap requestedActions) := by
    have hmem : ∀ {p q : AiosIr}, SameProgram p q → ∀ x,
        x ∈ (Aios.orderedNodes p).flatMap requestedActions →
          x ∈ (Aios.orderedNodes q).flatMap requestedActions := by
      intro p q h x hx
      obtain ⟨n, hn, hx⟩ := List.mem_flatMap.mp hx
      obtain ⟨m, hm, hs⟩ := h.node (mem_orderedNodes.mp hn)
      exact List.mem_flatMap.mpr ⟨m, mem_orderedNodes.mpr hm, hs.mem_requestedActions hx⟩
    refine Std.ExtTreeSet.ext_mem fun x => ?_
    rw [Std.ExtTreeSet.mem_ofList, Std.ExtTreeSet.mem_ofList, List.contains_iff_mem,
      List.contains_iff_mem]
    exact ⟨hmem h x, hmem h.symm x⟩
  have hbarriers : ((Aios.orderedNodes p).filter (·.operation.kind = .verify)).map (·.id) =
      ((Aios.orderedNodes q).filter (·.operation.kind = .verify)).map (·.id) := by
    have e : ∀ l : List Node, (l.filter (·.operation.kind = .verify)).map (·.id) =
        ((l.map fun n => (n.operation.kind, n.id)).filter (·.1 = .verify)).map Prod.snd := by
      intro l
      rw [List.filter_map, List.map_map]
      rfl
    rw [e, e, hmap _ fun a b hs => by rw [hs.operation, hs.id]]
  unfold summaryOf
  simp only
  rw [heffects, hauth, hbarriers, hmap _ fun a b hs => hs.egress.mode,
    hany _ fun a b hs => by rw [hs.executionClass],
    hany (fun n => decide (n.executionClass = .opaqueExternal)) fun a b hs => by
      rw [hs.executionClass],
    hany (fun n => (resolvedEffects registry n).contains .legacyOpaque) fun a b hs => by
      rw [hs.resolvedEffects_eq],
    hmap (fun n => nodeSummary n (resolvedEffects registry n)) fun a b hs => by
      rw [hs.resolvedEffects_eq, hs.nodeSummary_eq]]

end Aios
