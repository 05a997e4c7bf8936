/-
  File:      Aios/Registry/Contract.lean
  Subject:   Validation of one contract (`aios-registry/src/authority.rs`,
             `aios-registry/src/loader.rs`: `validate_capability_contract`,
             `validate_type_contract` and the checks they call).

  The checks stand in the order of the source, each with its error. What a passed capability
  contract guarantees to the program analysis is collected once, in `ValidCapability`
  (`validCapability_of_ok`): required inside allowed, every protected required effect backed by a
  required authority class, every authority class mapped to an effect of its envelope, PURE
  required alone, and the egress modes, DATA_EGRESS and `data.egress` in step.
-/
import Aios.Registry.Version

namespace Aios

open Lib

/-! ## 1. Authority classes and effects -/

/-- The effect an authority class necessarily introduces; unknown classes have none. -/
def effectForAuthorityClass : String → Option EffectClass
  | "artifact.read" => some .artifactRead
  | "artifact.write" => some .artifactWrite
  | "network.connect" => some .network
  | "data.egress" => some .dataEgress
  | "external.send" => some .externalMessage
  | "secret.use" => some .secretAccess
  | "state.write" => some .persistentState
  | "device.use" => some .deviceAccess
  | "system.change" => some .systemChange
  | _ => none

variable {c : CapabilityContract} {a : String}

/-- No authority class maps to PURE or LEGACY_OPAQUE. -/
theorem effectForAuthorityClass_protected {e : EffectClass}
    (h : effectForAuthorityClass a = some e) : e ≠ .pure ∧ e ≠ .legacyOpaque := by
  unfold effectForAuthorityClass at h
  split at h <;> first
    | (simp only [Option.some.injEq] at h; subst h; exact ⟨by decide, by decide⟩)
    | cases h

/-- Only `data.egress` maps to DATA_EGRESS. -/
theorem effectForAuthorityClass_dataEgress :
    effectForAuthorityClass a = some .dataEgress ↔ a = "data.egress" := by
  constructor
  · intro h
    unfold effectForAuthorityClass at h
    split at h <;> first | rfl | exact absurd h (by decide)
  · rintro rfl
    rfl

/-- Only `network.connect` maps to NETWORK. -/
theorem effectForAuthorityClass_network :
    effectForAuthorityClass a = some .network ↔ a = "network.connect" := by
  constructor
  · intro h
    unfold effectForAuthorityClass at h
    split at h <;> first | rfl | exact absurd h (by decide)
  · rintro rfl
    rfl

/-! ## 2. Checks on single fields -/

/-- `value.chars().count() > maximum`. -/
def exceedsMaxLength (value : String) (maximum : Nat) : Bool := maximum < value.length

def validTolerance (value : Option F64) : Bool := value.all fun x => x.isFinite && x.nonneg

def uniqueValues {α : Type} [DecidableEq α] (values : List α) (label : String) :
    RegistryResult Unit :=
  rejectIf (!decide values.Nodup) (.schema s!"{label} contains a duplicate")

def uniqueStrings (values : List String) (label : String) : RegistryResult Unit :=
  uniqueValues values label

def validatePortName (name capability : String) : RegistryResult Unit :=
  rejectIf (!headTail (fun c => isAsciiAlphabetic c || c = '_')
      (fun c => isAsciiAlphanumeric c || c = '_') name.toList)
    (.schema s!"capability {capability} has invalid port name {debugStr name}")

def validateAuthorityClass (authority capability : String) : RegistryResult Unit :=
  rejectIf (authority.utf8ByteSize < 3 || exceedsMaxLength authority 128 ||
      !headTail isAsciiLowercase (fun c => isAsciiLowercase c || isAsciiDigit c ||
        c = '_' || c = '.' || c = ':' || c = '-') authority.toList)
    (.schema s!"capability {capability} has invalid authority class {debugStr authority}")

def validateErrorClass (errorClass capability : String) : RegistryResult Unit :=
  rejectIf (errorClass.utf8ByteSize < 3 || exceedsMaxLength errorClass 160 ||
      !headTail isAsciiUppercase (fun c => isAsciiUppercase c || isAsciiDigit c || c = '_')
        errorClass.toList)
    (.schema s!"capability {capability} has invalid error class {debugStr errorClass}")

def validateConformance (conformance : Conformance) (owner : String) : RegistryResult Unit := do
  rejectIf (conformance.suiteId.isEmpty || exceedsMaxLength conformance.suiteId 256)
    (.schema s!"{owner} has invalid conformance suite ID")
  rejectIf (conformance.suiteVersion.any (exceedsMaxLength · 64))
    (.schema s!"{owner} conformance suite version exceeds 64 characters")
  rejectIf (conformance.suiteHash.any (exceedsMaxLength · 256))
    (.schema s!"{owner} conformance suite hash exceeds 256 characters")

/-! ## 3. Capability contracts -/

def validatePort (capability : String) (port : String × PortContract) : RegistryResult Unit := do
  validatePortName port.1 capability
  rejectIf (exceedsMaxLength port.2.typeRef 128)
    (.schema s!"capability {capability} port {debugStr port.1} has an overlong type reference")
  let _ ← SemanticRef.parse port.2.typeRef
  rejectIf (port.2.description.any (exceedsMaxLength · 1024))
    (.schema
      s!"capability {capability} port {debugStr port.1} description exceeds 1024 characters")

/-- A port name may serve inputs and outputs only with one type. -/
def reusesPortName (contract : CapabilityContract) : Bool :=
  contract.inputs.toList.any fun p =>
    (contract.outputs[p.1]?).any fun output => output.typeRef ≠ p.2.typeRef

def validateCapabilityEgressConsistency (contract : CapabilityContract) : RegistryResult Unit :=
  let permitsDenyEgress := contract.allowedEgressModes.contains .deny
  let permitsPolicyEgress := contract.allowedEgressModes.contains .policy
  let requiresDataEgressEffect := contract.requiredEffectClasses.contains .dataEgress
  let allowsDataEgressEffect := contract.allowedEffectClasses.contains .dataEgress
  let requiresDataEgressAuthority := contract.requiredAuthorityClasses.contains "data.egress"
  let allowsDataEgressAuthority := contract.allowedAuthorityClasses.contains "data.egress"
  let requiresPolicyEgress := !permitsDenyEgress
  rejectIf (permitsPolicyEgress != allowsDataEgressEffect ||
      permitsPolicyEgress != allowsDataEgressAuthority ||
      requiresPolicyEgress != requiresDataEgressEffect ||
      requiresPolicyEgress != requiresDataEgressAuthority)
    (.schema (s!"capability {contract.capability} has contradictory egress, DATA_EGRESS, or " ++
      "data.egress envelopes"))

/-- A required effect other than PURE and LEGACY_OPAQUE needs its required authority class. -/
def validateRequiredEffect (contract : CapabilityContract) (effect : EffectClass) :
    RegistryResult Unit :=
  rejectIf (effect ≠ .pure && effect ≠ .legacyOpaque &&
      !contract.requiredAuthorityClasses.any (effectForAuthorityClass · = some effect))
    (.schema (s!"capability {contract.capability} requires protected effect {effect.debug} " ++
      "without its mapped required authority class"))

def validateRequiredAuthority (contract : CapabilityContract) (authority : String) :
    RegistryResult Unit :=
  match effectForAuthorityClass authority with
  | none => .error (.schema
      (s!"capability {contract.capability} uses required authority class {debugStr authority} " ++
        "without a closed-profile effect mapping"))
  | some impliedEffect =>
      rejectIf (!contract.requiredEffectClasses.contains impliedEffect)
        (.schema (s!"capability {contract.capability} required authority class " ++
          s!"{debugStr authority} is absent from required_effect_classes"))

def validateAllowedAuthority (contract : CapabilityContract) (authority : String) :
    RegistryResult Unit :=
  match effectForAuthorityClass authority with
  | none => .error (.schema
      (s!"capability {contract.capability} uses allowed authority class {debugStr authority} " ++
        "without a closed-profile effect mapping"))
  | some impliedEffect =>
      rejectIf (!contract.allowedEffectClasses.contains impliedEffect)
        (.schema (s!"capability {contract.capability} allowed authority class " ++
          s!"{debugStr authority} implies an effect outside allowed_effect_classes"))

/-- The structural part: texts, ports, duplicates and class names. -/
def validateCapabilityShape (contract : CapabilityContract) : RegistryResult Unit := do
  validateSemanticId contract.capability
  let _ ← FullVersion.parse contract.version
  rejectIf (contract.description.any (exceedsMaxLength · 4096) ||
      contract.notes.any (exceedsMaxLength · 2048))
    (.schema s!"capability {contract.capability} metadata violates schema length constraints")
  rejectIf contract.outputs.isEmpty
    (.schema s!"capability {contract.capability} must declare at least one output")
  forEach (contract.inputs.toList ++ contract.outputs.toList) (validatePort contract.capability)
  rejectIf (reusesPortName contract)
    (.schema (s!"capability {contract.capability} reuses a port name for different input and " ++
      "output types"))
  uniqueValues contract.allowedExecutionClasses
    s!"capability {contract.capability} allowed execution classes"
  uniqueValues contract.requiredEffectClasses s!"capability {contract.capability} required effects"
  uniqueValues contract.allowedEffectClasses s!"capability {contract.capability} allowed effects"
  uniqueStrings contract.requiredAuthorityClasses
    s!"capability {contract.capability} required authority"
  uniqueStrings contract.allowedAuthorityClasses
    s!"capability {contract.capability} allowed authority"
  uniqueValues contract.allowedEgressModes s!"capability {contract.capability} allowed egress"
  uniqueStrings contract.errorClasses s!"capability {contract.capability} error classes"
  rejectIf (contract.allowedExecutionClasses.isEmpty || contract.allowedEffectClasses.isEmpty ||
      contract.allowedEgressModes.isEmpty)
    (.schema s!"capability {contract.capability} has an empty required nonempty envelope")
  forEach (contract.requiredAuthorityClasses ++ contract.allowedAuthorityClasses)
    (validateAuthorityClass · contract.capability)
  forEach contract.errorClasses (validateErrorClass · contract.capability)
  rejectIf (contract.determinism.any fun determinism =>
      !validTolerance determinism.numericAbsoluteTolerance ||
        !validTolerance determinism.numericRelativeTolerance)
    (.schema s!"capability {contract.capability} has an invalid determinism tolerance")

/-- The envelope part: required against allowed, effects against authority, egress. -/
def validateCapabilityEnvelope (contract : CapabilityContract) : RegistryResult Unit := do
  rejectIf (contract.requiredEffectClasses.isEmpty && !contract.allowedEffectClasses.contains .pure)
    (.validation .registryPureEffectContradiction
      s!"capability {contract.capability} has no required effect but does not allow PURE")
  rejectIf (contract.requiredEffectClasses.any (!contract.allowedEffectClasses.contains ·))
    (.validation .registryRequiredEffectNotAllowed
      s!"capability {contract.capability} requires an effect absent from allowed_effect_classes")
  rejectIf (contract.requiredAuthorityClasses.any (!contract.allowedAuthorityClasses.contains ·))
    (.validation .registryRequiredAuthorityNotAllowed
      (s!"capability {contract.capability} requires authority absent from " ++
        "allowed_authority_classes"))
  validateCapabilityEgressConsistency contract
  let requiresPure := contract.requiredEffectClasses.contains .pure
  let requiredNonPure := contract.requiredEffectClasses.any (· ≠ .pure)
  let allowedNonPure := contract.allowedEffectClasses.any (· ≠ .pure)
  rejectIf (requiresPure && (requiredNonPure || allowedNonPure))
    (.validation .registryPureEffectContradiction
      s!"capability {contract.capability} requires PURE while permitting a non-PURE effect")
  -- the source walks the sorted set of required effects; which one is named first is its order
  forEach (Std.ExtTreeSet.ofList contract.requiredEffectClasses : Std.ExtTreeSet EffectClass).toList
    (validateRequiredEffect contract)
  forEach contract.requiredAuthorityClasses (validateRequiredAuthority contract)
  forEach contract.allowedAuthorityClasses (validateAllowedAuthority contract)

def validateCapabilityContract (contract : CapabilityContract) : RegistryResult Unit := do
  validateCapabilityShape contract
  validateCapabilityEnvelope contract
  validateConformance contract.conformance s!"capability {contract.capability}"

/-! ## 4. Type contracts -/

/-- Checks the representations from left to right; `seen` are the identifiers so far. -/
def validateRepresentations (typeId : String) :
    List String → List Representation → RegistryResult Unit
  | _, [] => .ok ()
  | seen, r :: rs => do
      rejectIf (r.id.isEmpty || exceedsMaxLength r.id 160)
        (.schema s!"type {typeId} has an invalid representation ID")
      rejectIf (seen.contains r.id)
        (.schema s!"type {typeId} repeats representation ID {debugStr r.id}")
      rejectIf (r.mediaType.any (exceedsMaxLength · 160) || r.schemaRef.any (exceedsMaxLength · 1024))
        (.schema (s!"type {typeId} representation {debugStr r.id} violates schema length " ++
          "constraints"))
      validateRepresentations typeId (r.id :: seen) rs

def validateTypeContract (contract : TypeContract) : RegistryResult Unit := do
  validateSemanticId contract.typeId
  rejectIf (exceedsMaxLength contract.typeId 128)
    (.schema s!"type identifier {debugStr contract.typeId} exceeds 128 characters")
  let _ ← FullVersion.parse contract.version
  rejectIf (contract.description.isEmpty || exceedsMaxLength contract.description 4096)
    (.schema s!"type {contract.typeId} description length is outside 1..=4096")
  rejectIf (contract.logicalSchemaRef.any (exceedsMaxLength · 1024) ||
      contract.notes.any (exceedsMaxLength · 2048))
    (.schema s!"type {contract.typeId} metadata violates schema length constraints")
  validateRepresentations contract.typeId [] contract.representations
  rejectIf (contract.equality.canonicalizer.any (exceedsMaxLength · 256) ||
      !validTolerance contract.equality.numericAbsoluteTolerance ||
      !validTolerance contract.equality.numericRelativeTolerance ||
      contract.unitSemantics.any fun unit =>
        unit.canonicalUnit.any (exceedsMaxLength · 64) || unit.notes.any (exceedsMaxLength · 1024))
    (.schema s!"type {contract.typeId} equality or unit semantics violate schema constraints")
  uniqueStrings contract.conversionCapabilities s!"type {contract.typeId} conversion_capabilities"
  forEach contract.conversionCapabilities fun reference => do
    rejectIf (exceedsMaxLength reference 160)
      (.schema s!"type {contract.typeId} has an overlong conversion capability reference")
    let _ ← SemanticRef.parse reference
  validateConformance contract.conformance s!"type {contract.typeId}"

/-! ## 5. What a validated capability contract guarantees -/

/-- The facts the program analysis takes from a validated capability contract. -/
structure ValidCapability (c : CapabilityContract) : Prop where
  effectsAllowed : ∀ e ∈ c.requiredEffectClasses, e ∈ c.allowedEffectClasses
  authorityAllowed : ∀ a ∈ c.requiredAuthorityClasses, a ∈ c.allowedAuthorityClasses
  /-- a protected required effect is backed by a required authority class -/
  backed : ∀ e ∈ c.requiredEffectClasses, e ≠ .pure → e ≠ .legacyOpaque →
    ∃ a ∈ c.requiredAuthorityClasses, effectForAuthorityClass a = some e
  requiredMapped : ∀ a ∈ c.requiredAuthorityClasses,
    ∃ e ∈ c.requiredEffectClasses, effectForAuthorityClass a = some e
  allowedMapped : ∀ a ∈ c.allowedAuthorityClasses,
    ∃ e ∈ c.allowedEffectClasses, effectForAuthorityClass a = some e
  pureAllowed : c.requiredEffectClasses = [] → .pure ∈ c.allowedEffectClasses
  pureAlone : .pure ∈ c.requiredEffectClasses → ∀ e ∈ c.allowedEffectClasses, e = .pure
  policyEffect : .policy ∈ c.allowedEgressModes ↔ .dataEgress ∈ c.allowedEffectClasses
  policyAuthority : .policy ∈ c.allowedEgressModes ↔ "data.egress" ∈ c.allowedAuthorityClasses
  denyEffect : .deny ∉ c.allowedEgressModes ↔ .dataEgress ∈ c.requiredEffectClasses
  denyAuthority : .deny ∉ c.allowedEgressModes ↔ "data.egress" ∈ c.requiredAuthorityClasses

theorem validateRequiredEffect_ok {e : EffectClass}
    (h : validateRequiredEffect c e = .ok ()) (hp : e ≠ .pure) (hl : e ≠ .legacyOpaque) :
    ∃ a ∈ c.requiredAuthorityClasses, effectForAuthorityClass a = some e := by
  unfold validateRequiredEffect at h
  simpa [hp, hl] using h

theorem validateRequiredAuthority_ok (h : validateRequiredAuthority c a = .ok ()) :
    ∃ e ∈ c.requiredEffectClasses, effectForAuthorityClass a = some e := by
  unfold validateRequiredAuthority at h
  split at h
  · cases h
  · rename_i e he
    exact ⟨e, by simpa using h, he⟩

theorem validateAllowedAuthority_ok (h : validateAllowedAuthority c a = .ok ()) :
    ∃ e ∈ c.allowedEffectClasses, effectForAuthorityClass a = some e := by
  unfold validateAllowedAuthority at h
  split at h
  · cases h
  · rename_i e he
    exact ⟨e, by simpa using h, he⟩

/-- The four equations of the egress check. -/
theorem validateCapabilityEgressConsistency_ok (h : validateCapabilityEgressConsistency c = .ok ()) :
    (.policy ∈ c.allowedEgressModes ↔ .dataEgress ∈ c.allowedEffectClasses) ∧
    (.policy ∈ c.allowedEgressModes ↔ "data.egress" ∈ c.allowedAuthorityClasses) ∧
    (.deny ∉ c.allowedEgressModes ↔ .dataEgress ∈ c.requiredEffectClasses) ∧
    (.deny ∉ c.allowedEgressModes ↔ "data.egress" ∈ c.requiredAuthorityClasses) := by
  unfold validateCapabilityEgressConsistency at h
  simp only [rejectIf_ok, Bool.or_eq_false_iff, bne_eq_false_iff_eq] at h
  obtain ⟨⟨⟨h1, h2⟩, h3⟩, h4⟩ := h
  refine ⟨?_, ?_, ?_, ?_⟩
  · rw [← List.contains_iff_mem, ← List.contains_iff_mem, h1]
  · rw [← List.contains_iff_mem, ← List.contains_iff_mem, h2]
  · rw [← List.contains_iff_mem, ← List.contains_iff_mem, ← h3]
    simp
  · rw [← List.contains_iff_mem, ← List.contains_iff_mem, ← h4]
    simp

/-- **A passed capability contract is a valid capability.** -/
theorem validCapability_of_ok (h : validateCapabilityContract c = .ok ()) : ValidCapability c := by
  unfold validateCapabilityContract at h
  rw [unit_bind_eq_ok, unit_bind_eq_ok] at h
  have h := h.2.1
  unfold validateCapabilityEnvelope at h
  simp only [unit_bind_eq_ok, rejectIf_ok, forEach_ok] at h
  obtain ⟨h1, h2, h3, h4, h5, h6, h7, h8⟩ := h
  obtain ⟨e1, e2, e3, e4⟩ := validateCapabilityEgressConsistency_ok h4
  refine ⟨?_, ?_, ?_, ?_, ?_, ?_, ?_, e1, e2, e3, e4⟩
  · simpa using h2
  · simpa using h3
  · intro e he hp hl
    have hm : e ∈ (Std.ExtTreeSet.ofList c.requiredEffectClasses : Std.ExtTreeSet EffectClass) := by
      simpa using he
    exact validateRequiredEffect_ok (h6 e (Std.ExtTreeSet.mem_toList.mpr hm)) hp hl
  · exact fun a ha => validateRequiredAuthority_ok (h7 a ha)
  · exact fun a ha => validateAllowedAuthority_ok (h8 a ha)
  · intro hn
    simpa [hn] using h1
  · intro hp e he
    simp only [Bool.and_eq_false_iff, Bool.or_eq_false_iff] at h5
    rcases h5 with h5 | ⟨_, h5⟩
    · rw [List.contains_iff_mem.mpr hp] at h5
      cases h5
    · simpa using List.any_eq_false.mp h5 e he

end Aios
