/-
  File:      Aios/Ir/Satisfiable.lean
  Subject:   NO DEAD CONTRACT: a capability contract the registry admits can be used.

  The loader's rules and the program validator's rules are two systems of inclusions over effects,
  authority classes and egress modes. `Node.declare` asks for what the contract requires and no more:
  denied egress where the contract permits it and one destination where it does not, a request for each
  required authority class, `artifact.read` over every program input the node binds, local placement.
  The effects of such a node are the required ones (`required_of_source`), so the validator finds nothing
  (`declare_ok`).
-/
import Aios.Ir.Guarantees
import Mathlib.Data.List.Dedup

namespace Aios

open Lib

/-! ## 1. The declaration -/

/-- Denied egress where it is permitted, one destination elsewhere. -/
def usableEgress (contract : CapabilityContract) : Egress :=
  if .deny ∈ contract.allowedEgressModes then ⟨.deny, []⟩ else ⟨.policy, ["declared"]⟩

/-- The program inputs a node binds, once each. -/
def boundInputs (node : Node) : List String :=
  (node.inputs.toList.filterMap fun p =>
    match p.2 with
    | .input name => some name
    | .node _ _ => none).dedup

/-- The resources asked for under an authority class. -/
def usableResources (node : Node) (authority : String) : List String :=
  if authority = "artifact.read" then "declared" :: (boundInputs node).map ("input:" ++ ·)
  else if authority = "data.egress" then ["destination:declared"]
  else ["declared"]

def usableRequests (contract : CapabilityContract) (node : Node) : List AuthorityRequest :=
  contract.requiredAuthorityClasses.dedup.flatMap fun authority =>
    (usableResources node authority).map fun resource => ⟨authority, resource, none⟩

def usableLocality : List Locality := [.onHost]

/-- The node with this egress, these requests and this locality. -/
def Node.declared (node : Node) (egress : Egress) (requests : List AuthorityRequest)
    (locality : List Locality) : Node :=
  { node with
    egress := egress
    authorityRequests := requests
    constraints := some ⟨locality, none, none, none, none⟩ }

def Node.declare (node : Node) (contract : CapabilityContract) : Node :=
  node.declared (usableEgress contract) (usableRequests contract node) usableLocality

/-! ## 2. Its requests -/

section Requests

variable {contract : CapabilityContract} {node : Node}

theorem mem_usableRequests {q : AuthorityRequest} : q ∈ usableRequests contract node ↔
    q.action ∈ contract.requiredAuthorityClasses ∧ q.resource ∈ usableResources node q.action ∧
      q.reason = none := by
  unfold usableRequests
  simp only [List.mem_flatMap, List.mem_dedup, List.mem_map]
  constructor
  · rintro ⟨authority, ha, resource, hr, rfl⟩
    exact ⟨ha, hr, rfl⟩
  · rintro ⟨ha, hr, hreason⟩
    exact ⟨q.action, ha, q.resource, hr, by rw [← hreason]⟩

theorem usableResources_ne_nil (authority : String) : usableResources node authority ≠ [] := by
  unfold usableResources
  split
  · exact List.cons_ne_nil _ _
  · split <;> exact List.cons_ne_nil _ _

theorem input_injective : Function.Injective ("input:" ++ · : String → String) := by
  intro a b h
  have h : ("input:" ++ a).toList = ("input:" ++ b).toList := congrArg String.toList h
  rw [String.toList_append, String.toList_append] at h
  exact String.toList_injective (List.append_cancel_left h)

theorem nodup_usableResources (authority : String) : (usableResources node authority).Nodup := by
  unfold usableResources
  split
  · refine List.nodup_cons.mpr ⟨?_, (List.nodup_dedup _).map input_injective⟩
    intro h
    obtain ⟨name, -, e⟩ := List.mem_map.mp h
    have e : ("input:" ++ name).toList.head? = some 'd' := by rw [e]; rfl
    rw [String.toList_append] at e
    exact absurd (show some 'i' = some 'd' from e) (by decide)
  · split <;> exact List.nodup_singleton _

/-- No request is made twice. -/
theorem nodup_usableRequests :
    ((usableRequests contract node).map fun q => (q.action, q.resource)).Nodup := by
  have hpairs : (usableRequests contract node).map (fun q => (q.action, q.resource)) =
      contract.requiredAuthorityClasses.dedup.flatMap fun authority =>
        (usableResources node authority).map fun resource => (authority, resource) := by
    unfold usableRequests
    rw [List.map_flatMap]
    refine congrArg (fun f => List.flatMap f _) (funext fun authority => ?_)
    rw [List.map_map]
    rfl
  rw [hpairs, List.nodup_flatMap]
  refine ⟨fun authority _ => (nodup_usableResources authority).map fun _ _ h => (Prod.mk.inj h).2, ?_⟩
  refine (List.nodup_dedup _).imp fun {a b} hne => ?_
  show List.Disjoint _ _
  rw [List.disjoint_left]
  rintro p ha hb
  obtain ⟨r, -, rfl⟩ := List.mem_map.mp ha
  obtain ⟨s, -, e⟩ := List.mem_map.mp hb
  exact hne (Prod.mk.inj e).1.symm

/-- Every required class is asked for. -/
theorem requested_of_required {authority : String} (h : authority ∈ contract.requiredAuthorityClasses) :
    authority ∈ requestedActions (node.declare contract) := by
  have hresources : usableResources node authority ≠ [] := usableResources_ne_nil authority
  obtain ⟨resource, hr⟩ := List.exists_mem_of_ne_nil _ hresources
  exact List.mem_map.mpr ⟨⟨authority, resource, none⟩, mem_usableRequests.mpr ⟨h, hr, rfl⟩, rfl⟩

theorem mem_boundInputs {port name : String} (h : node.inputs[port]? = some (.input name)) :
    name ∈ boundInputs node :=
  List.mem_dedup.mpr (List.mem_filterMap.mpr
    ⟨(port, .input name), Std.ExtTreeMap.mem_toList_iff_getElem?_eq_some.mpr h, rfl⟩)

theorem reads_covered {program : AiosIr} (h : "artifact.read" ∈ contract.requiredAuthorityClasses) :
    ReadsCovered program (node.declare contract) contract := by
  intro port name _ _ hport _ _ _ _
  refine ⟨⟨"artifact.read", "input:" ++ name, none⟩, mem_usableRequests.mpr ⟨h, ?_, rfl⟩, rfl, rfl⟩
  unfold usableResources
  rw [if_pos rfl]
  exact List.mem_cons_of_mem _ (List.mem_map_of_mem (mem_boundInputs hport))

/-- The resources of its `data.egress` requests. -/
theorem mem_declared_egress {resource : String} : resource ∈ dataEgressResources (node.declare contract) ↔
    "data.egress" ∈ contract.requiredAuthorityClasses ∧ resource = "destination:declared" := by
  have hresources : usableResources node "data.egress" = ["destination:declared"] := rfl
  unfold dataEgressResources
  simp only [List.mem_map, List.mem_filter, decide_eq_true_eq]
  constructor
  · rintro ⟨q, ⟨hq, haction⟩, rfl⟩
    obtain ⟨hrequired, hresource, -⟩ := mem_usableRequests.mp hq
    rw [haction] at hrequired hresource
    rw [hresources] at hresource
    exact ⟨hrequired, List.mem_singleton.mp hresource⟩
  · rintro ⟨hrequired, rfl⟩
    exact ⟨⟨"data.egress", "destination:declared", none⟩,
      ⟨mem_usableRequests.mpr ⟨hrequired, by rw [hresources]; exact List.mem_singleton_self _, rfl⟩, rfl⟩, rfl⟩

end Requests

/-! ## 3. Its effects -/

section Effects

variable {contract : CapabilityContract} (h : ValidCapability contract) {node : Node}

theorem onHost_declare : nonLocalOnly (node.declare contract) = false := rfl

include h

/-- What it asks for has no effect beyond the required ones. -/
theorem required_of_source {e : EffectClass} (he : EffectSource contract (node.declare contract) e) :
    e ∈ contract.requiredEffectClasses := by
  rcases he with hrequired | ⟨q, hq, heffect⟩ | ⟨hplaced, -⟩ | ⟨hplaced, -⟩
  · exact hrequired.1
  · obtain ⟨e', he', hmapped⟩ := h.requiredMapped q.action (mem_usableRequests.mp hq).1
    rw [hmapped] at heffect
    exact Option.some.inj heffect ▸ he'
  · rw [onHost_declare] at hplaced
    cases hplaced
  · rw [onHost_declare] at hplaced
    cases hplaced

/-- A contract without a required effect beside PURE allows PURE. -/
theorem pure_allowed (hnone : ∀ e ∈ contract.requiredEffectClasses, e = .pure) :
    .pure ∈ contract.allowedEffectClasses := by
  cases hrequired : contract.requiredEffectClasses with
  | nil => exact h.pureAllowed hrequired
  | cons e rest =>
      have he : e ∈ contract.requiredEffectClasses := hrequired ▸ List.mem_cons_self
      exact hnone e he ▸ h.effectsAllowed e he

theorem declared_effects_allowed {e : EffectClass} (he : e ∈ derivedEffects contract (node.declare contract)) :
    e ∈ contract.allowedEffectClasses := by
  rcases mem_derivedEffects.mp he with hsource | ⟨rfl, hnone⟩
  · exact h.effectsAllowed e (required_of_source h hsource)
  · refine pure_allowed h fun f hf => ?_
    by_contra hpure
    exact hnone f (.inl ⟨hf, hpure⟩)

/-- The egress of a declaration: denied where nothing requires it, and else with the one destination its
    request names. -/
theorem declared_egress_ok : (node.declare contract).egress.mode ∈ contract.allowedEgressModes ∧
    EgressOk (node.declare contract) (derivedEffects contract (node.declare contract)) := by
  by_cases hdeny : EgressMode.deny ∈ contract.allowedEgressModes
  · have hegress : (node.declare contract).egress = ⟨.deny, []⟩ := if_pos hdeny
    refine ⟨by rw [hegress]; exact hdeny, ?_⟩
    have hauthority : "data.egress" ∉ contract.requiredAuthorityClasses :=
      fun ha => h.denyAuthority.mpr ha hdeny
    have hrequired : .dataEgress ∉ contract.requiredEffectClasses := fun he => h.denyEffect.mpr he hdeny
    unfold EgressOk
    rw [hegress]
    refine ⟨rfl, List.eq_nil_iff_forall_not_mem.mpr fun r hr => hauthority (mem_declared_egress.mp hr).1, ?_⟩
    intro he
    exact hrequired (required_of_source h (source_of_mem he (by decide)))
  · have hegress : (node.declare contract).egress = ⟨.policy, ["declared"]⟩ := if_neg hdeny
    have hauthority : "data.egress" ∈ contract.requiredAuthorityClasses := h.denyAuthority.mp hdeny
    have hpolicy : EgressMode.policy ∈ contract.allowedEgressModes :=
      h.policyEffect.mpr (h.effectsAllowed _ (h.denyEffect.mp hdeny))
    refine ⟨by rw [hegress]; exact hpolicy, ?_⟩
    unfold EgressOk
    rw [hegress]
    refine ⟨List.cons_ne_nil _ _, fun resource => ?_⟩
    rw [mem_declared_egress]
    simp only [List.mem_singleton, exists_eq_left]
    exact and_iff_right hauthority

/-- **A node declared after its contract passes against it.** -/
theorem declare_ok (program : AiosIr) (hcache : node.cache ≠ .never → node.executionClass = .deterministic) :
    NodeEffectsOk program contract (node.declare contract) where
  distinct := nodup_usableRequests
  allowedAuthority q hq := h.authorityAllowed q.action (mem_usableRequests.mp hq).1
  mapped q hq := by
    obtain ⟨e, -, he⟩ := h.requiredMapped q.action (mem_usableRequests.mp hq).1
    rw [he]
    rfl
  required _ ha := requested_of_required ha
  reads := reads_covered
  placementNetwork hplaced := by
    rw [onHost_declare] at hplaced
    cases hplaced
  placementEgress hplaced := by
    rw [onHost_declare] at hplaced
    cases hplaced
  allowedEffects _ he := declared_effects_allowed h he
  egressMode := (declared_egress_ok h).1
  egress := (declared_egress_ok h).2
  cache := hcache

end Effects

/-! ## 4. No contract is dead -/

/-- **No dead contract is admitted.** Whatever a node binds, there are an egress, authority requests and a
    locality under which the validator finds nothing in it. -/
theorem no_dead_contract {contract : CapabilityContract} (h : validateCapabilityContract contract = .ok ())
    (program : AiosIr) (node : Node) (nodeIndex : Nat)
    (hcache : node.cache ≠ .never → node.executionClass = .deterministic) :
    ∃ (egress : Egress) (requests : List AuthorityRequest) (locality : List Locality),
      validateNodeEffects program contract (node.declared egress requests locality) nodeIndex = [] :=
  ⟨_, _, _, validateNodeEffects_nil.mpr (declare_ok (validCapability_of_ok h) program hcache)⟩

/-- The sending contract of the sample permits no denied egress; its node caches nothing. -/
theorem sender_not_dead : ∃ (egress : Egress) (requests : List AuthorityRequest) (locality : List Locality),
    validateNodeEffects (sampleProgram []) (sampleSender "doc.send")
      ((sampleSend []).declared egress requests locality) 0 = [] :=
  no_dead_contract (by decide +kernel) (sampleProgram []) (sampleSend []) 0 fun h => absurd rfl h

end Aios
