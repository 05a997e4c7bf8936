/-
  File:      Aios/Registry/Conformance.lean
  Subject:   THE STATIC COMPARISON of a provider manifest with the contracts of a registry
             (`aios-registry/src/conformance.rs`).

  The checks stand in the order of the source; each pushes one diagnostic. A claim whose identifier,
  version, contract or identity is missing ends its checks early, a repeated claim is not checked at
  all; both are refusals, so a valid report has seen every check of every claim
  (`validateProviderCapability_clean`). What the checks say together is `Conforms`.

  Whether a collector is invalid does not depend on its bound (`Alike`): the verdict is the same for
  every bound, zero included (`validateProviderManifest_alike`).
-/
import Aios.Contracts.Provider
import Aios.Registry.SelfCertifying

namespace Aios.Declared

open Lib

/-! ## 1. Reports -/

structure ProviderConformanceOptions where
  /-- lets a missing contract hash through, for fixtures only -/
  allowBootstrapMissingContractHash : Bool
  maxDiagnostics : Nat
  deriving DecidableEq, Repr

structure ProviderConformanceDiagnostic where
  code : ProviderReasonCode
  message : String
  providerId : String
  capability : Option String
  deriving DecidableEq, Repr

structure ProviderConformanceReport where
  valid : Bool
  diagnostics : List ProviderConformanceDiagnostic
  diagnosticsTruncated : Bool
  bootstrapContractHashBypassUsed : Bool
  deriving DecidableEq, Repr

structure DiagnosticCollector where
  providerId : String
  maximum : Nat
  diagnostics : List ProviderConformanceDiagnostic
  truncated : Bool
  invalid : Bool
  bootstrapContractHashBypassUsed : Bool
  deriving DecidableEq, Repr

namespace DiagnosticCollector

def new (providerId : String) (maximum : Nat) : DiagnosticCollector :=
  ⟨providerId, maximum, [], false, false, false⟩

def markBootstrapContractHashBypass (c : DiagnosticCollector) : DiagnosticCollector :=
  { c with bootstrapContractHashBypassUsed := true }

/-- A full collector keeps the verdict and drops the text. -/
def push (c : DiagnosticCollector) (code : ProviderReasonCode) (message : String)
    (capability : Option String) : DiagnosticCollector :=
  if c.maximum ≤ c.diagnostics.length then { c with invalid := true, truncated := true }
  else { c with
    invalid := true
    diagnostics := c.diagnostics ++ [⟨code, message, c.providerId, capability⟩] }

/-- Pushes where the condition holds. -/
def pushIf (c : DiagnosticCollector) (bad : Bool) (code : ProviderReasonCode) (message : String)
    (capability : Option String) : DiagnosticCollector :=
  if bad then c.push code message capability else c

def finish (c : DiagnosticCollector) : ProviderConformanceReport :=
  ⟨!c.invalid, c.diagnostics, c.truncated, c.bootstrapContractHashBypassUsed⟩

end DiagnosticCollector

/-! ## 2. The conditions -/

def hasDuplicates {α : Type} [DecidableEq α] (values : List α) : Bool := !decide values.Nodup

def v01ProviderIsolationFloor : IsolationProfile := .p2

/-- At least three bytes of the lowercase alphabet, the first a letter or a digit. -/
def validateProviderId (id : String) : Bool :=
  3 ≤ id.utf8ByteSize && headTail (fun c => isAsciiLowercase c || isAsciiDigit c)
    (fun c => isAsciiLowercase c || isAsciiDigit c || c = '_' || c = '.' || c = '-') id.toList

namespace ProviderCapability

variable (p : ProviderCapability)

/-- `authority_actions`: those of the declared authority, none where there is none. -/
def authorityActions : List String := p.authority.elim [] ProviderAuthority.actions

/-- The part of the declaration the schema asks for. -/
def malformed : Bool :=
  p.effectClasses.isEmpty || p.execution.locality.isEmpty || hasDuplicates p.execution.locality ||
    p.conformance.suite.isEmpty ||
    (p.resourceRequirements.any fun requirements =>
      requirements.minMemoryBytes = some 0 || hasDuplicates requirements.preferredAccelerators) ||
    p.authority.any fun authority =>
      hasDuplicates authority.actions || hasDuplicates authority.resourceClasses

def belowFloor : Bool := p.execution.minimumIsolation.lt v01ProviderIsolationFloor

def networkDefaultRequiresNetwork : Bool :=
  p.execution.networkDefault = some .allowlist || p.execution.networkDefault = some .internet

def networkReachableLocality : Bool := p.execution.locality.any (· ≠ .onHost)

def includesLocalCapability : Bool := p.execution.locality.contains .onHost

def remoteExecution (kind : ProviderRuntimeKind) : Bool :=
  kind = .remote || p.networkReachableLocality

def requiresNetworkEnvelope (kind : ProviderRuntimeKind) : Bool :=
  p.networkDefaultRequiresNetwork || p.remoteExecution kind

/-- A run elsewhere takes inputs with it. -/
def remoteBindableInput (kind : ProviderRuntimeKind) (contract : CapabilityContract) : Bool :=
  p.remoteExecution kind && !contract.inputs.isEmpty

def providerEgress (kind : ProviderRuntimeKind) (contract : CapabilityContract) : EgressMode :=
  if p.remoteBindableInput kind contract || p.effectClasses.contains .dataEgress ||
      p.authorityActions.any (· = "data.egress") then .policy
  else .deny

def executionClassIncompatible (contract : CapabilityContract) : Bool :=
  !contract.allowedExecutionClasses.contains p.execution.executionClass

def authorityNotAllowed (contract : CapabilityContract) : Bool :=
  hasDuplicates p.authorityActions ||
    p.authorityActions.any (!contract.allowedAuthorityClasses.contains ·)

def requiredAuthorityMissing (contract : CapabilityContract) : Bool :=
  contract.requiredAuthorityClasses.any (!p.authorityActions.contains ·)

def authorityNotReflected : Bool :=
  p.authorityActions.any fun action =>
    (effectForAuthorityClass action).all fun effect => !p.effectClasses.contains effect

def effectNotAllowed (contract : CapabilityContract) : Bool :=
  hasDuplicates p.effectClasses || p.effectClasses.any (!contract.allowedEffectClasses.contains ·) ||
    (p.effectClasses.contains .pure && p.effectClasses.any (· ≠ .pure))

def requiredEffectMissing (contract : CapabilityContract) : Bool :=
  contract.requiredEffectClasses.any (!p.effectClasses.contains ·)

/-- The declared effects and those the execution implies, without PURE and LEGACY_OPAQUE. -/
def protectedEffects (kind : ProviderRuntimeKind) (contract : CapabilityContract) :
    List EffectClass :=
  let implied : List EffectClass :=
    (if p.requiresNetworkEnvelope kind then [.network] else []) ++
      if p.remoteBindableInput kind contract then [.dataEgress] else []
  (p.effectClasses ++ implied).filter fun effect => effect ≠ .pure && effect ≠ .legacyOpaque

def missingProtectedEffectAuthority (kind : ProviderRuntimeKind) (contract : CapabilityContract) :
    Bool :=
  (p.protectedEffects kind contract).any fun effect =>
    !p.authorityActions.any (effectForAuthorityClass · = some effect)

def suiteMismatch (contract : CapabilityContract) : Bool :=
  p.conformance.suite ≠ contract.conformance.suiteId ||
    p.conformance.suiteHash ≠ contract.conformance.suiteHash

end ProviderCapability

/-! ## 3. The checks of one claim -/

/-- The declared hash is the generated one, or is missing where that is let through. -/
def checkContractHash (declared : Option String) (expected : String)
    (options : ProviderConformanceOptions) (capability : String) (c : DiagnosticCollector) :
    DiagnosticCollector :=
  if declared = some expected then c
  else if declared = none && options.allowBootstrapMissingContractHash then
    c.markBootstrapContractHashBypass
  else c.push .providerContractHashMismatch
    s!"provider contract hash {debugOption declared} does not match {expected}" (some capability)

/-- The representations declared for one port. -/
def checkRepresentations (registry : SemanticRegistry) (contract : CapabilityContract)
    (capability : String) (c : DiagnosticCollector) (entry : String × List String) :
    DiagnosticCollector :=
  match contract.inputs[entry.1]?.or contract.outputs[entry.1]? with
  | none => c.push .providerPortOrTypeMismatch
      s!"provider declares representations for unknown port {debugStr entry.1}" (some capability)
  | some port =>
      match SemanticRef.parse port.typeRef with
      | .error _ => c.push .providerPortOrTypeMismatch
          s!"semantic port {debugStr entry.1} has an invalid type reference" (some capability)
      | .ok reference =>
          match registry.typeContract reference.id reference.major with
          | none => c.push .providerPortOrTypeMismatch
              s!"semantic port {debugStr entry.1} type is absent from the snapshot" (some capability)
          | some type =>
              c.pushIf (hasDuplicates entry.2 ||
                  entry.2.any fun r => !type.representations.any (·.id = r))
                .providerPortOrTypeMismatch
                (s!"provider representations for port {debugStr entry.1} are incompatible with " ++
                  port.typeRef) (some capability)

/-- The checks against the resolved contract, after that of its hash. -/
def checkEnvelope (registry : SemanticRegistry) (contract : CapabilityContract)
    (p : ProviderCapability) (kind : ProviderRuntimeKind) (c : DiagnosticCollector) :
    DiagnosticCollector :=
  let capability := some p.contract.capability
  let c := c.pushIf (p.executionClassIncompatible contract) .providerExecutionClassIncompatible
    "provider execution class is outside the semantic contract envelope" capability
  let c := c.pushIf (p.authorityNotAllowed contract) .providerAuthorityNotAllowed
    "provider authority exceeds or ambiguously repeats the semantic contract envelope" capability
  let c := c.pushIf (p.requiredAuthorityMissing contract) .providerRequiredAuthorityMissing
    "provider declaration omits authority required by the semantic contract" capability
  let c := c.pushIf p.authorityNotReflected .providerRequiredEffectMissing
    "provider authority declaration is not reflected in its effect envelope" capability
  let c := c.pushIf (p.effectNotAllowed contract) .providerEffectNotAllowed
    "provider effects exceed or contradict the semantic contract envelope" capability
  let c := c.pushIf (p.requiredEffectMissing contract) .providerRequiredEffectMissing
    "provider declaration omits an effect required by the semantic contract" capability
  let c := c.pushIf (kind = .remote && p.includesLocalCapability) .providerDeclarationInvalid
    "remote provider runtime contradicts a capability declaration containing local locality"
    capability
  let c := c.pushIf (p.requiresNetworkEnvelope kind && !p.effectClasses.contains .network)
    .providerRequiredEffectMissing
    "provider network default or remote execution requires the NETWORK effect declaration" capability
  let c := c.pushIf (p.remoteBindableInput kind contract && !p.effectClasses.contains .dataEgress)
    .providerRequiredEffectMissing
    "remote execution with bindable inputs requires the DATA_EGRESS effect declaration" capability
  let c := c.pushIf (p.missingProtectedEffectAuthority kind contract)
    .providerRequiredAuthorityMissing
    "provider protected effects require their mapped authority actions" capability
  let c := c.pushIf (!contract.allowedEgressModes.contains (p.providerEgress kind contract))
    .providerEgressNotAllowed
    "provider data-egress declaration is not permitted by the semantic contract" capability
  let c := c.pushIf (p.suiteMismatch contract) .providerSuiteMismatch
    "provider conformance suite identity/hash does not match the semantic contract" capability
  p.representations.toList.foldl
    (checkRepresentations registry contract p.contract.capability) c

/-- `capability_contract_hash`. -/
def capabilityContractHashOf (registry : SemanticRegistry) (id : String) (major : Nat) :
    Option String :=
  registry.capabilityHashes[(id, major)]?

/-- The parsed version of a claim with a well-formed identifier. -/
def claimedVersion (claim : ProviderContractClaim) : Option FullVersion :=
  match FullVersion.parse claim.version with
  | .ok version => if (validateSemanticId claim.capability).toBool then some version else none
  | .error _ => none

def validateProviderCapability (registry : SemanticRegistry) (p : ProviderCapability)
    (kind : ProviderRuntimeKind) (options : ProviderConformanceOptions) (c : DiagnosticCollector) :
    DiagnosticCollector :=
  let capability := p.contract.capability
  let c := c.pushIf p.malformed .providerDeclarationInvalid
    "provider capability declaration violates required nonempty or uniqueness constraints"
    (some capability)
  let c := c.pushIf p.belowFloor .providerIsolationIncompatible
    "provider minimum isolation is below the v0.1 P2 provider floor" (some capability)
  match claimedVersion p.contract with
  | none => c.push .providerDeclarationInvalid
      "provider semantic contract claim has an invalid ID or full version" (some capability)
  | some version =>
      match registry.capabilityContract capability version.major with
      | none => c.push .providerContractNotFound
          s!"semantic contract {capability}@{version.major} is absent from the selected snapshot"
          (some capability)
      | some contract =>
          if contract.version ≠ p.contract.version then
            c.push .providerContractNotFound
              (s!"provider claims {capability} {p.contract.version}, but the snapshot selects " ++
                contract.version) (some capability)
          else
            match capabilityContractHashOf registry capability version.major with
            | none => c.push .providerContractNotFound
                "resolved semantic contract has no immutable content identity" (some capability)
            | some expected =>
                checkEnvelope registry contract p kind
                  (checkContractHash p.contract.contractHash expected options capability c)

/-! ## 4. The checks of a manifest -/

def claimKey (p : ProviderCapability) : String × String := (p.contract.capability, p.contract.version)

/-- The claims in the order of the manifest; `claims` are the earlier ones. -/
def validateClaims (registry : SemanticRegistry) (kind : ProviderRuntimeKind)
    (options : ProviderConformanceOptions) : List (String × String) → List ProviderCapability →
    DiagnosticCollector → DiagnosticCollector
  | _, [], c => c
  | claims, p :: rest, c =>
      if claims.contains (claimKey p) then
        validateClaims registry kind options claims rest
          (c.push .providerDeclarationInvalid "provider repeats the same semantic contract claim"
            (some p.contract.capability))
      else
        validateClaims registry kind options (claimKey p :: claims) rest
          (validateProviderCapability registry p kind options c)

/-- The conditions on the manifest as a whole. -/
def manifestInvalid (manifest : CapabilityManifest) : Bool :=
  manifest.schemaVersion ≠ "0.1" || !validateProviderId manifest.id || manifest.version.isEmpty ||
    manifest.publisher.id.isEmpty || manifest.provides.isEmpty

def checkManifest (registry : SemanticRegistry) (manifest : CapabilityManifest)
    (c : DiagnosticCollector) : DiagnosticCollector :=
  let c := c.pushIf (!registry.isStrictlyVerified) .providerDeclarationInvalid
    "provider conformance requires a strictly hash-verified registry" none
  c.pushIf (manifestInvalid manifest) .providerDeclarationInvalid
    ("provider manifest has an unsupported schema version, invalid identity, or no capability " ++
      "declarations") none

def validateProviderManifest (registry : SemanticRegistry) (manifest : CapabilityManifest)
    (options : ProviderConformanceOptions) : ProviderConformanceReport :=
  (validateClaims registry manifest.runtime.kind options [] manifest.provides
    (checkManifest registry manifest (.new manifest.id options.maxDiagnostics))).finish

/-! ## 5. What a clean collector has seen -/

/-- Nothing was refused and nothing was let through. -/
structure DiagnosticCollector.Clean (c : DiagnosticCollector) : Prop where
  valid : c.invalid = false
  unused : c.bootstrapContractHashBypassUsed = false

namespace DiagnosticCollector

variable {c : DiagnosticCollector} {code : ProviderReasonCode} {message : String}
  {capability : Option String}

@[simp] theorem push_invalid : (c.push code message capability).invalid = true := by
  unfold push
  split <;> rfl

@[simp] theorem push_bypass :
    (c.push code message capability).bootstrapContractHashBypassUsed =
      c.bootstrapContractHashBypassUsed := by
  unfold push
  split <;> rfl

theorem not_clean_push : ¬(c.push code message capability).Clean := by
  intro h
  have hvalid := h.valid
  rw [push_invalid] at hvalid
  cases hvalid

theorem pushIf_clean {bad : Bool} :
    (c.pushIf bad code message capability).Clean ↔ c.Clean ∧ bad = false := by
  cases bad with
  | false => simp [pushIf]
  | true => simp [pushIf, not_clean_push]

end DiagnosticCollector

variable {options : ProviderConformanceOptions} {c d : DiagnosticCollector}
  {registry : SemanticRegistry} {contract : CapabilityContract} {p : ProviderCapability}
  {kind : ProviderRuntimeKind}

theorem checkContractHash_clean {declared : Option String} {expected capability : String} :
    (checkContractHash declared expected options capability c).Clean ↔
      c.Clean ∧ declared = some expected := by
  unfold checkContractHash
  by_cases h : declared = some expected
  · simp [h]
  · rw [if_neg h]
    refine iff_of_false (fun hclean => ?_) (fun hclean => h hclean.2)
    split at hclean
    · have hunused := hclean.unused
      cases hunused
    · exact DiagnosticCollector.not_clean_push hclean

theorem checkRepresentations_clean {capability : String} {entry : String × List String}
    (h : (checkRepresentations registry contract capability c entry).Clean) : c.Clean := by
  unfold checkRepresentations at h
  split at h
  · exact absurd h DiagnosticCollector.not_clean_push
  · split at h
    · exact absurd h DiagnosticCollector.not_clean_push
    · split at h
      · exact absurd h DiagnosticCollector.not_clean_push
      · exact (DiagnosticCollector.pushIf_clean.mp h).1

theorem representations_clean {capability : String} {entries : List (String × List String)}
    (h : (entries.foldl (checkRepresentations registry contract capability) c).Clean) : c.Clean := by
  induction entries generalizing c with
  | nil => exact h
  | cons entry entries ih => exact checkRepresentations_clean (ih h)

/-- No condition of the envelope holds. -/
structure EnvelopeChecked (contract : CapabilityContract) (kind : ProviderRuntimeKind)
    (p : ProviderCapability) : Prop where
  authority : p.authorityNotAllowed contract = false
  requiredAuthority : p.requiredAuthorityMissing contract = false
  reflected : p.authorityNotReflected = false
  effects : p.effectNotAllowed contract = false
  requiredEffects : p.requiredEffectMissing contract = false
  network : (p.requiresNetworkEnvelope kind && !p.effectClasses.contains .network) = false
  dataEgress : (p.remoteBindableInput kind contract && !p.effectClasses.contains .dataEgress) = false
  backed : p.missingProtectedEffectAuthority kind contract = false
  egress : (!contract.allowedEgressModes.contains (p.providerEgress kind contract)) = false

theorem checkEnvelope_clean (h : (checkEnvelope registry contract p kind c).Clean) :
    c.Clean ∧ EnvelopeChecked contract kind p := by
  have hchecks := representations_clean h
  simp only [DiagnosticCollector.pushIf_clean] at hchecks
  obtain ⟨⟨⟨⟨⟨⟨⟨⟨⟨⟨⟨⟨hc, -⟩, hauthority⟩, hrequired⟩, hreflected⟩, heffects⟩, hmissing⟩, -⟩, hnetwork⟩,
    hegress⟩, hbacked⟩, hmode⟩, -⟩ := hchecks
  exact ⟨hc, hauthority, hrequired, hreflected, heffects, hmissing, hnetwork, hegress, hbacked, hmode⟩

/-! ## 6. What the checks say together -/

/-- A run of the claim may take place away from this host. -/
def RunsElsewhere (kind : ProviderRuntimeKind) (p : ProviderCapability) : Prop :=
  kind = .remote ∨ ∃ l ∈ p.execution.locality, l ≠ .onHost

/-- The declared network default is open. -/
def OpensNetwork (p : ProviderCapability) : Prop :=
  p.execution.networkDefault = some .allowlist ∨ p.execution.networkDefault = some .internet

/-- The declaration of a claim fits the contract. -/
structure Fits (contract : CapabilityContract) (kind : ProviderRuntimeKind)
    (p : ProviderCapability) : Prop where
  requiredEffects : ∀ e ∈ contract.requiredEffectClasses, e ∈ p.effectClasses
  allowedEffects : ∀ e ∈ p.effectClasses, e ∈ contract.allowedEffectClasses
  pureAlone : .pure ∈ p.effectClasses → ∀ e ∈ p.effectClasses, e = .pure
  requiredAuthority : ∀ a ∈ contract.requiredAuthorityClasses, a ∈ p.authorityActions
  allowedAuthority : ∀ a ∈ p.authorityActions, a ∈ contract.allowedAuthorityClasses
  /-- a protected effect is backed by an action -/
  backed : ∀ e ∈ p.effectClasses, e ≠ .pure → e ≠ .legacyOpaque →
    ∃ a ∈ p.authorityActions, effectForAuthorityClass a = some e
  /-- the effect of an action is declared -/
  reflected : ∀ a ∈ p.authorityActions, ∃ e ∈ p.effectClasses, effectForAuthorityClass a = some e
  network : RunsElsewhere kind p ∨ OpensNetwork p → .network ∈ p.effectClasses
  /-- a run elsewhere takes the inputs along; an open network default alone does not -/
  dataEgress : RunsElsewhere kind p → contract.inputs.isEmpty = false →
    .dataEgress ∈ p.effectClasses
  /-- the egress mode that results -/
  egress : (if .dataEgress ∈ p.effectClasses then EgressMode.policy else .deny) ∈
    contract.allowedEgressModes

theorem remoteExecution_iff : p.remoteExecution kind = true ↔ RunsElsewhere kind p := by
  unfold ProviderCapability.remoteExecution ProviderCapability.networkReachableLocality RunsElsewhere
  simp

theorem requiresNetworkEnvelope_iff :
    p.requiresNetworkEnvelope kind = true ↔ RunsElsewhere kind p ∨ OpensNetwork p := by
  unfold ProviderCapability.requiresNetworkEnvelope
  rw [Bool.or_eq_true, remoteExecution_iff, or_comm]
  unfold ProviderCapability.networkDefaultRequiresNetwork OpensNetwork
  simp

/-- The egress mode of a declaration whose actions are reflected and whose inputs stay or are
    declared to leave. -/
theorem providerEgress_eq (hreflected : ∀ a ∈ p.authorityActions, ∃ e ∈ p.effectClasses,
      effectForAuthorityClass a = some e)
    (hinputs : p.remoteBindableInput kind contract = true → .dataEgress ∈ p.effectClasses) :
    p.providerEgress kind contract =
      if .dataEgress ∈ p.effectClasses then EgressMode.policy else .deny := by
  unfold ProviderCapability.providerEgress
  by_cases heffect : EffectClass.dataEgress ∈ p.effectClasses
  · simp [heffect]
  · have hinput : p.remoteBindableInput kind contract = false := by
      rw [← Bool.not_eq_true]
      exact fun h => heffect (hinputs h)
    have hactions : p.authorityActions.any (· = "data.egress") = false := by
      rw [List.any_eq_false]
      intro a ha hname
      obtain ⟨e, he, hmap⟩ := hreflected a ha
      rw [of_decide_eq_true hname, effectForAuthorityClass_dataEgress.mpr rfl] at hmap
      exact heffect (Option.some.inj hmap ▸ he)
    simp [heffect, hinput, hactions]

/-- **The conditions of the envelope say that the declaration fits.** -/
theorem fits_of_checked (h : EnvelopeChecked contract kind p) : Fits contract kind p := by
  have hauthority := h.authority
  unfold ProviderCapability.authorityNotAllowed at hauthority
  have hrequired := h.requiredAuthority
  unfold ProviderCapability.requiredAuthorityMissing at hrequired
  have heffects := h.effects
  unfold ProviderCapability.effectNotAllowed at heffects
  have hmissing := h.requiredEffects
  unfold ProviderCapability.requiredEffectMissing at hmissing
  have hbacked := h.backed
  unfold ProviderCapability.missingProtectedEffectAuthority at hbacked
  have hreflected : ∀ a ∈ p.authorityActions, ∃ e ∈ p.effectClasses,
      effectForAuthorityClass a = some e := by
    intro a ha
    have hall := h.reflected
    unfold ProviderCapability.authorityNotReflected at hall
    have hone := List.any_eq_false.mp hall a ha
    cases he : effectForAuthorityClass a with
    | none => simp [he] at hone
    | some e => exact ⟨e, by simpa [he] using hone, rfl⟩
  have hinputs : p.remoteBindableInput kind contract = true → .dataEgress ∈ p.effectClasses := by
    intro hinput
    have hdata := h.dataEgress
    rw [hinput] at hdata
    simpa using hdata
  have hmode := h.egress
  rw [providerEgress_eq hreflected hinputs] at hmode
  simp only [Bool.or_eq_false_iff, Bool.and_eq_false_iff] at hauthority heffects
  refine ⟨?_, ?_, ?_, ?_, ?_, ?_, hreflected, ?_, ?_, ?_⟩
  · simpa using hmissing
  · simpa using heffects.1.2
  · intro hpure e he
    rcases heffects.2 with hnot | hall
    · rw [List.contains_iff_mem.mpr hpure] at hnot
      cases hnot
    · simpa using List.any_eq_false.mp hall e he
  · simpa using hrequired
  · simpa using hauthority.2
  · intro e he hpure hlegacy
    have hmem : e ∈ p.protectedEffects kind contract := by
      unfold ProviderCapability.protectedEffects
      simp [he, hpure, hlegacy]
    simpa using List.any_eq_false.mp hbacked e hmem
  · intro hreach
    have hnetwork := h.network
    rw [requiresNetworkEnvelope_iff.mpr hreach] at hnetwork
    simpa using hnetwork
  · intro hremote hne
    apply hinputs
    unfold ProviderCapability.remoteBindableInput
    rw [remoteExecution_iff.mpr hremote, hne]
    rfl
  · simpa using hmode

/-- The claim names a contract of the registry, with its version and its identity, and fits it. -/
def Conforms (registry : SemanticRegistry) (kind : ProviderRuntimeKind) (p : ProviderCapability) :
    Prop :=
  ∃ version contract hash, FullVersion.parse p.contract.version = .ok version ∧
    registry.capabilityContract p.contract.capability version.major = some contract ∧
    contract.version = p.contract.version ∧
    capabilityContractHashOf registry p.contract.capability version.major = some hash ∧
    p.contract.contractHash = some hash ∧ Fits contract kind p

theorem claimedVersion_some {claim : ProviderContractClaim} {version : FullVersion}
    (h : claimedVersion claim = some version) : FullVersion.parse claim.version = .ok version := by
  unfold claimedVersion at h
  split at h
  · split at h
    · cases h
      assumption
    · cases h
  · cases h

/-- **A claim that leaves the collector clean conforms.** -/
theorem validateProviderCapability_clean
    (h : (validateProviderCapability registry p kind options c).Clean) :
    c.Clean ∧ Conforms registry kind p := by
  unfold validateProviderCapability at h
  simp only at h
  split at h
  · exact absurd h DiagnosticCollector.not_clean_push
  · rename_i version hversion
    split at h
    · exact absurd h DiagnosticCollector.not_clean_push
    · rename_i contract hcontract
      split at h
      · exact absurd h DiagnosticCollector.not_clean_push
      · rename_i hsame
        split at h
        · exact absurd h DiagnosticCollector.not_clean_push
        · rename_i hash hhash
          obtain ⟨hc, hchecked⟩ := checkEnvelope_clean h
          obtain ⟨hc, hdeclared⟩ := checkContractHash_clean.mp hc
          simp only [DiagnosticCollector.pushIf_clean] at hc
          exact ⟨hc.1.1, version, contract, hash, claimedVersion_some hversion, hcontract,
            not_not.mp hsame, hhash, hdeclared, fits_of_checked hchecked⟩

/-- A clean run over the claims has met each of them once. -/
theorem validateClaims_clean {claims : List (String × String)} {l : List ProviderCapability}
    (h : (validateClaims registry kind options claims l c).Clean) :
    c.Clean ∧ (∀ p ∈ l, Conforms registry kind p) ∧ (l.map claimKey).Nodup ∧
      ∀ p ∈ l, claimKey p ∉ claims := by
  induction l generalizing claims c with
  | nil => exact ⟨h, by simp, List.nodup_nil, by simp⟩
  | cons p l ih =>
      rw [validateClaims] at h
      split at h
      · exact absurd (ih h).1 DiagnosticCollector.not_clean_push
      · rename_i hnew
        obtain ⟨hc, hall, hnodup, hfresh⟩ := ih h
        obtain ⟨hc, hp⟩ := validateProviderCapability_clean hc
        have hnot : claimKey p ∉ claims := by simpa using hnew
        refine ⟨hc, ?_, ?_, ?_⟩
        · intro q hq
          rcases List.mem_cons.mp hq with rfl | hq
          · exact hp
          · exact hall q hq
        · rw [List.map_cons, List.nodup_cons]
          refine ⟨fun hmem => ?_, hnodup⟩
          obtain ⟨q, hq, hkey⟩ := List.mem_map.mp hmem
          exact hfresh q hq (by simp [hkey])
        · intro q hq
          rcases List.mem_cons.mp hq with rfl | hq
          · exact hnot
          · exact fun hmem => hfresh q hq (List.mem_cons_of_mem _ hmem)

/-- **A valid report without the bypass is about claims that conform, each made once.** -/
theorem validateProviderManifest_sound {manifest : CapabilityManifest}
    (hvalid : (validateProviderManifest registry manifest options).valid = true)
    (hunused : (validateProviderManifest registry manifest
      options).bootstrapContractHashBypassUsed = false) :
    (∀ p ∈ manifest.provides, Conforms registry manifest.runtime.kind p) ∧
      (manifest.provides.map claimKey).Nodup ∧ registry.isStrictlyVerified = true := by
  have hclean : (validateClaims registry manifest.runtime.kind options [] manifest.provides
      (checkManifest registry manifest (.new manifest.id options.maxDiagnostics))).Clean := by
    refine ⟨?_, hunused⟩
    rw [← Bool.not_eq_true']
    exact hvalid
  obtain ⟨hc, hall, hnodup, -⟩ := validateClaims_clean hclean
  unfold checkManifest at hc
  simp only [DiagnosticCollector.pushIf_clean, Bool.not_eq_false'] at hc
  exact ⟨hall, hnodup, hc.1.2⟩

/-! ## 7. The verdict does not depend on the bound -/

/-- Collectors with the same verdict; their texts may differ. -/
structure Alike (c d : DiagnosticCollector) : Prop where
  invalid : c.invalid = d.invalid
  bypass : c.bootstrapContractHashBypassUsed = d.bootstrapContractHashBypassUsed

theorem Alike.push (h : Alike c d) (code : ProviderReasonCode)
    (message : String) (capability : Option String) :
    Alike (c.push code message capability) (d.push code message capability) :=
  ⟨by simp, by simp [h.bypass]⟩

theorem Alike.pushIf (h : Alike c d) (bad : Bool)
    (code : ProviderReasonCode) (message : String) (capability : Option String) :
    Alike (c.pushIf bad code message capability) (d.pushIf bad code message capability) := by
  cases bad with
  | false => exact h
  | true => exact h.push code message capability

theorem Alike.checkContractHash (h : Alike c d)
    (declared : Option String) (expected capability : String) {o o' : ProviderConformanceOptions}
    (ho : o.allowBootstrapMissingContractHash = o'.allowBootstrapMissingContractHash) :
    Alike (checkContractHash declared expected o capability c)
      (checkContractHash declared expected o' capability d) := by
  unfold Declared.checkContractHash
  rw [ho]
  split
  · exact h
  · split
    · exact ⟨h.invalid, rfl⟩
    · exact h.push _ _ _

theorem Alike.checkRepresentations (h : Alike c d)
    (registry : SemanticRegistry) (contract : CapabilityContract) (capability : String)
    (entry : String × List String) : Alike (checkRepresentations registry contract capability c entry)
      (checkRepresentations registry contract capability d entry) := by
  unfold Declared.checkRepresentations
  split
  · exact h.push _ _ _
  · split
    · exact h.push _ _ _
    · split
      · exact h.push _ _ _
      · exact h.pushIf _ _ _ _

theorem Alike.foldl {α : Type} {f : DiagnosticCollector → α → DiagnosticCollector}
    (hf : ∀ c d, Alike c d → ∀ a, Alike (f c a) (f d a)) {l : List α}
    (h : Alike c d) : Alike (l.foldl f c) (l.foldl f d) := by
  induction l generalizing c d with
  | nil => exact h
  | cons a l ih => exact ih (hf c d h a)

theorem Alike.checkEnvelope (h : Alike c d)
    (registry : SemanticRegistry) (contract : CapabilityContract) (p : ProviderCapability)
    (kind : ProviderRuntimeKind) :
    Alike (checkEnvelope registry contract p kind c) (checkEnvelope registry contract p kind d) := by
  unfold Declared.checkEnvelope
  refine Alike.foldl (fun c d h entry => h.checkRepresentations _ _ _ entry) ?_
  repeat' apply Alike.pushIf
  exact h

theorem Alike.validateProviderCapability (h : Alike c d)
    (registry : SemanticRegistry) (p : ProviderCapability) (kind : ProviderRuntimeKind)
    {o o' : ProviderConformanceOptions}
    (ho : o.allowBootstrapMissingContractHash = o'.allowBootstrapMissingContractHash) :
    Alike (validateProviderCapability registry p kind o c)
      (validateProviderCapability registry p kind o' d) := by
  unfold Declared.validateProviderCapability
  have hfirst := (h.pushIf p.malformed .providerDeclarationInvalid
    "provider capability declaration violates required nonempty or uniqueness constraints"
    (some p.contract.capability)).pushIf p.belowFloor .providerIsolationIncompatible
    "provider minimum isolation is below the v0.1 P2 provider floor" (some p.contract.capability)
  simp only
  split
  · exact hfirst.push _ _ _
  · split
    · exact hfirst.push _ _ _
    · split
      · exact hfirst.push _ _ _
      · split
        · exact hfirst.push _ _ _
        · exact (hfirst.checkContractHash _ _ _ ho).checkEnvelope _ _ _ _

theorem Alike.validateClaims (h : Alike c d)
    (registry : SemanticRegistry) (kind : ProviderRuntimeKind) {o o' : ProviderConformanceOptions}
    (ho : o.allowBootstrapMissingContractHash = o'.allowBootstrapMissingContractHash)
    (claims : List (String × String)) (l : List ProviderCapability) :
    Alike (validateClaims registry kind o claims l c) (validateClaims registry kind o' claims l d) := by
  induction l generalizing claims c d with
  | nil => exact h
  | cons p l ih =>
      rw [Declared.validateClaims, Declared.validateClaims]
      split
      · exact ih (h.push _ _ _) claims
      · exact ih (h.validateProviderCapability registry p kind ho) (claimKey p :: claims)

/-- **The verdict is the same for every bound on the diagnostics, zero included.** -/
theorem validateProviderManifest_alike (registry : SemanticRegistry) (manifest : CapabilityManifest)
    (allow : Bool) (m n : Nat) :
    (validateProviderManifest registry manifest ⟨allow, m⟩).valid =
        (validateProviderManifest registry manifest ⟨allow, n⟩).valid ∧
      (validateProviderManifest registry manifest ⟨allow, m⟩).bootstrapContractHashBypassUsed =
        (validateProviderManifest registry manifest ⟨allow, n⟩).bootstrapContractHashBypassUsed := by
  have hnew : Alike (.new manifest.id m) (.new manifest.id n) := ⟨rfl, rfl⟩
  have hopened : Alike (checkManifest registry manifest (.new manifest.id m))
      (checkManifest registry manifest (.new manifest.id n)) := by
    unfold checkManifest
    exact (hnew.pushIf _ _ _ _).pushIf _ _ _ _
  have hclaims := hopened.validateClaims registry manifest.runtime.kind
    (show ProviderConformanceOptions.allowBootstrapMissingContractHash ⟨allow, m⟩ =
      ProviderConformanceOptions.allowBootstrapMissingContractHash ⟨allow, n⟩ from rfl) []
    manifest.provides
  exact ⟨congrArg not hclaims.invalid, hclaims.bypass⟩

/-! ## 8. Registries the loader built -/

section Built

variable {env : BuildEnv} {snapshot : RegistrySnapshot} {types : List TypeContract}
  {capabilities : List CapabilityContract} {options : RegistryBuildOptions}
  {registry : SemanticRegistry}

/-- A contract and its identity in a built registry are those of an entry of the snapshot. -/
theorem snapshot_entry (h : buildRegistry env snapshot types capabilities options = .ok registry)
    {id hash : String} {major : Nat} {contract : CapabilityContract}
    (hcontract : registry.capabilityContract id major = some contract)
    (hhash : capabilityContractHashOf registry id major = some hash) :
    contract.capability = id ∧ capabilityContractHash env.digest contract = .ok hash ∧
      ∃ entry ∈ registry.snapshot.capabilityContracts, entry.id = id ∧
        entry.version = contract.version ∧ entry.contentHash = hash := by
  have hcertified : FamilyCertified (capabilityFamily env) snapshot.capabilityContracts
      registry.capabilities registry.capabilityHashes registry.snapshot.capabilityContracts := by
    obtain ⟨t, hb, rfl⟩ := buildRegistry_ok_iff.mp h
    exact hb.certified.capabilities
  have hmem : (id, major) ∈ registry.capabilities := by
    rw [Std.ExtTreeMap.mem_iff_isSome_getElem?]
    exact Option.isSome_iff_exists.mpr ⟨contract, hcontract⟩
  obtain ⟨e, he, hfamily⟩ := hcertified.closed (id, major) (Or.inl hmem)
  obtain ⟨key, c, generated, hkey, hc, hcid, hcversion, hg, hgenerated⟩ := hcertified.entry e he
  obtain ⟨f, hperm, hf⟩ := hcertified.returned
  obtain ⟨key', c', generated', hkey', hc', hgenerated', hfe⟩ := hf e he
  -- both descriptions of the entry are about its one family
  rw [hfamily, Except.ok.injEq] at hkey hkey'
  subst hkey hkey'
  have hsame : c = contract := Option.some.inj (hc.symm.trans hcontract)
  have hsame' : c' = contract := Option.some.inj (hc'.symm.trans hcontract)
  subst hsame hsame'
  have hhashes : generated = hash := Option.some.inj (hg.symm.trans hhash)
  have hhashes' : generated' = generated := Except.ok.inj (hgenerated'.symm.trans hgenerated)
  have hid : e.id = id := (familyOf_ok.mp hfamily).1
  subst hhashes hhashes'
  refine ⟨hcid.trans hid, hgenerated, f e, hperm.mem_iff.mpr (List.mem_map_of_mem he), ?_⟩
  rw [hfe]
  exact ⟨hid, hcversion.symm, rfl⟩

/-- **Provider conformance is sound.** In a registry the loader built, a valid report that used no
    bypass is about claims made once each; the contract of a claim stands in the snapshot with the
    version and the content hash the claim gives, and the declaration fits it. The verdict is the
    same for every bound on the diagnostics. -/
theorem provider_conformance_sound
    (h : buildRegistry env snapshot types capabilities options = .ok registry)
    (manifest : CapabilityManifest) (allow : Bool) (bound : Nat) :
    ((validateProviderManifest registry manifest ⟨allow, bound⟩).valid = true →
      (validateProviderManifest registry manifest
        ⟨allow, bound⟩).bootstrapContractHashBypassUsed = false →
      (manifest.provides.map claimKey).Nodup ∧
      ∀ p ∈ manifest.provides, ∃ version contract,
        FullVersion.parse p.contract.version = .ok version ∧
        registry.capabilityContract p.contract.capability version.major = some contract ∧
        contract.capability = p.contract.capability ∧ contract.version = p.contract.version ∧
        (∃ entry ∈ registry.snapshot.capabilityContracts, entry.id = p.contract.capability ∧
          entry.version = p.contract.version ∧
          p.contract.contractHash = some entry.contentHash ∧
          capabilityContractHash env.digest contract = .ok entry.contentHash) ∧
        Fits contract manifest.runtime.kind p) ∧
    ∀ other, (validateProviderManifest registry manifest ⟨allow, bound⟩).valid =
      (validateProviderManifest registry manifest ⟨allow, other⟩).valid := by
  refine ⟨fun hvalid hunused => ?_, fun other =>
    (validateProviderManifest_alike registry manifest allow bound other).1⟩
  obtain ⟨hall, hnodup, -⟩ := validateProviderManifest_sound hvalid hunused
  refine ⟨hnodup, fun p hp => ?_⟩
  obtain ⟨version, contract, hash, hversion, hcontract, hsame, hhash, hdeclared, hfits⟩ := hall p hp
  obtain ⟨hid, hgenerated, entry, hentry, heid, heversion, hehash⟩ := snapshot_entry h hcontract hhash
  refine ⟨version, contract, hversion, hcontract, hid, hsame, ?_, hfits⟩
  exact ⟨entry, hentry, heid, heversion.trans hsame, by rw [hdeclared, hehash],
    by rw [hgenerated, hehash]⟩

end Built

/-! ## 9. A sample: an open network default on this host -/

/-- Fetches a page over the network; nothing leaves but the request. -/
def fetchContract : CapabilityContract where
  capability := "net.fetch"
  version := "1.0"
  description := none
  role := .ordinary
  inputs := .ofList [("request", (⟨"artifact.file@1", true, none⟩ : PortContract))]
  outputs := .ofList [("page", (⟨"artifact.file@1", true, none⟩ : PortContract))]
  allowedExecutionClasses := [.deterministic]
  requiredEffectClasses := [.network]
  allowedEffectClasses := [.network]
  requiredAuthorityClasses := ["network.connect"]
  allowedAuthorityClasses := ["network.connect"]
  allowedEgressModes := [.deny]
  determinism := none
  errorClasses := []
  conformance := ⟨"suite", none, none⟩
  notes := []

def fetchTypeHash : String :=
  "sha256:9fa37ef6be0be860ca4f71c4d6e1d336a02d81cc18cfcdc4a59d1dbeef434db3"

def fetchHash : String :=
  "sha256:a1ae45339cc7e2b61338dbec858c24d22c09212625a19c66cafa381e4c4765b7"

def fetchSnapshot : RegistrySnapshot :=
  ⟨"0.1", "sha256:47cc2065d36aef3e690ad222f54e48132561ca620fab4888b567df722202707e", none,
    [⟨"artifact.file", "1.0", fetchTypeHash, none⟩], [⟨"net.fetch", "1.0", fetchHash, none⟩],
    "2026-01-01T00:00:00Z", none, []⟩

/-- SHA-256 at the three inputs of the sample, which differ in length. -/
def fetchDigest : Digest where
  canonical := fun v => .ok (plainBytes v)
  sha256 := fun bytes =>
    if bytes.length < 350 then
      [71, 204, 32, 101, 211, 106, 239, 62, 105, 10, 210, 34, 245, 78, 72, 19, 37, 97, 202, 98, 15,
        171, 72, 136, 181, 103, 223, 114, 34, 2, 112, 126]
    else if bytes.length < 450 then
      [159, 163, 126, 246, 190, 11, 232, 96, 202, 79, 113, 196, 214, 225, 211, 54, 160, 45, 129,
        204, 24, 207, 205, 196, 165, 157, 29, 190, 239, 67, 77, 179]
    else
      [161, 174, 69, 51, 156, 199, 226, 182, 19, 56, 219, 236, 133, 140, 36, 210, 44, 9, 33, 38, 37,
        161, 156, 102, 202, 250, 56, 30, 76, 71, 101, 183]
  size := fun bytes => by
    split
    · rfl
    · split <;> rfl

def fetchEnv : BuildEnv := { fileEnv with digest := fetchDigest }

def fetchBuild : RegistryResult SemanticRegistry :=
  buildRegistry fetchEnv fetchSnapshot [fileType "artifact.file"] [fetchContract] ⟨.strict, 8⟩

/-- Runs on this host with an open network default. -/
def fetchClaim : ProviderCapability where
  contract := ⟨"net.fetch", "1.0", some fetchHash, none⟩
  conformance := ⟨"suite", none, .declared, none, none⟩
  effectClasses := [.network]
  execution := ⟨[.onHost], .deterministic, .p2, some .internet⟩
  authority := some ⟨["network.connect"], []⟩
  representations := ∅
  resourceRequirements := none

def fetchManifest : CapabilityManifest where
  schemaVersion := "0.1"
  id := "fetcher"
  version := "1.0"
  publisher := ⟨"publisher", none, none, none⟩
  runtime := ⟨.process, none, none, none, none⟩
  provides := [fetchClaim]
  trust := none

/-- The loader builds the registry in strict mode, the manifest is valid without a bypass, and the
    contract it claims has an input. -/
theorem fetch_evaluated :
    (fetchBuild.map fun r => (validateProviderManifest r fetchManifest ⟨false, 64⟩,
      (r.capabilityContract "net.fetch" 1).map fun c => c.inputs.isEmpty)).toOption =
      some (⟨true, [], false, false⟩, some false) := by
  decide +kernel

theorem fetch_valid : ∃ r contract, fetchBuild = .ok r ∧
    validateProviderManifest r fetchManifest ⟨false, 64⟩ = ⟨true, [], false, false⟩ ∧
    r.capabilityContract "net.fetch" 1 = some contract ∧ contract.inputs.isEmpty = false := by
  have h := fetch_evaluated
  cases hbuild : fetchBuild with
  | error e =>
      rw [hbuild] at h
      cases h
  | ok r =>
      rw [hbuild] at h
      simp only [Except.map, Except.toOption, Option.some.injEq, Prod.mk.injEq,
        Option.map_eq_some_iff] at h
      obtain ⟨hreport, contract, hcontract, hinputs⟩ := h
      exact ⟨r, contract, rfl, hreport, hcontract, hinputs⟩

theorem fetch_conforms : ∃ r, fetchBuild = .ok r ∧
    (validateProviderManifest r fetchManifest ⟨false, 0⟩).valid = true ∧
    ∃ contract, r.capabilityContract "net.fetch" 1 = some contract ∧
      Fits contract .process fetchClaim := by
  obtain ⟨r, contract, hbuild, hreport, hcontract, -⟩ := fetch_valid
  have hvalid : (validateProviderManifest r fetchManifest ⟨false, 64⟩).valid = true := by
    rw [hreport]
  obtain ⟨hsound, hbounds⟩ := provider_conformance_sound hbuild fetchManifest false 64
  refine ⟨r, hbuild, (hbounds 0).symm.trans hvalid, contract, hcontract, ?_⟩
  obtain ⟨-, hall⟩ := hsound hvalid (by rw [hreport])
  obtain ⟨version, c, hversion, hc, -, -, -, hfits⟩ := hall fetchClaim List.mem_cons_self
  have hmajor : version.major = 1 := by
    have hparse : FullVersion.parse "1.0" = .ok ⟨1, 0, none, "1.0"⟩ := rfl
    exact congrArg FullVersion.major (Except.ok.inj (hversion.symm.trans hparse))
  rw [hmajor] at hc
  rw [Option.some.inj (hcontract.symm.trans hc)]
  exact hfits

/-- An open network default does not take the inputs elsewhere: a valid manifest with one need not
    declare DATA_EGRESS, though its contract has inputs. -/
theorem open_network_without_egress :
    ¬∀ (env : BuildEnv) (snapshot : RegistrySnapshot) (types : List TypeContract)
      (capabilities : List CapabilityContract) (options : RegistryBuildOptions)
      (registry : SemanticRegistry) (manifest : CapabilityManifest) (allow : Bool) (bound : Nat),
      buildRegistry env snapshot types capabilities options = .ok registry →
      (validateProviderManifest registry manifest ⟨allow, bound⟩).valid = true →
      (validateProviderManifest registry manifest
        ⟨allow, bound⟩).bootstrapContractHashBypassUsed = false →
      ∀ p ∈ manifest.provides, ∀ version contract,
        FullVersion.parse p.contract.version = .ok version →
        registry.capabilityContract p.contract.capability version.major = some contract →
        RunsElsewhere manifest.runtime.kind p ∨ OpensNetwork p →
        contract.inputs.isEmpty = false → .dataEgress ∈ p.effectClasses := by
  intro hclaim
  obtain ⟨r, contract, hbuild, hreport, hcontract, hinputs⟩ := fetch_valid
  have hmem := hclaim _ _ _ _ _ r fetchManifest false 64 hbuild (by rw [hreport]) (by rw [hreport])
    fetchClaim List.mem_cons_self ⟨1, 0, none, "1.0"⟩ contract rfl hcontract (Or.inr (Or.inr rfl))
    hinputs
  revert hmem
  decide

end Aios.Declared
