/-
  File:      Aios/Registry/SemanticRegistry.lean
  Subject:   The immutable registry one validation reads (`aios-registry/src/loader.rs`,
             `SemanticRegistry` and its lookups).

  The maps are keyed by (identifier, major version). `Validated` is the property the analysis
  relies on: every stored capability contract passes `validateCapabilityContract`. The loader
  establishes it (Registry/Build.lean).
-/
import Aios.Lib.Order
import Aios.Registry.Contract

namespace Aios

open Lib

inductive HashVerificationMode where
  | strict
  | bootstrapGenerate
  deriving DecidableEq, Repr

/-- A map keyed by contract family, in the tuple order of the source. -/
abbrev FamilyMap (α : Type) := Std.ExtTreeMap (String × Nat) α lexCmp

structure SemanticRegistry where
  snapshot : RegistrySnapshot
  snapshotId : String
  hashVerification : HashVerificationMode
  types : FamilyMap TypeContract
  capabilities : FamilyMap CapabilityContract
  typeHashes : FamilyMap String
  capabilityHashes : FamilyMap String

namespace SemanticRegistry

def isStrictlyVerified (r : SemanticRegistry) : Bool := r.hashVerification = .strict

def typeContract (r : SemanticRegistry) (id : String) (major : Nat) : Option TypeContract :=
  r.types[(id, major)]?

def capabilityContract (r : SemanticRegistry) (id : String) (major : Nat) :
    Option CapabilityContract :=
  r.capabilities[(id, major)]?

def resolveType (r : SemanticRegistry) (semanticRef : String) :
    RegistryResult (Option TypeContract) := do
  let ref ← SemanticRef.parse semanticRef
  return r.typeContract ref.id ref.major

def resolveCapability (r : SemanticRegistry) (semanticRef : String) :
    RegistryResult (Option CapabilityContract) := do
  let ref ← SemanticRef.parse semanticRef
  return r.capabilityContract ref.id ref.major

/-- `resolve_type(..).ok().flatten()`. -/
def findType (r : SemanticRegistry) (semanticRef : String) : Option TypeContract :=
  (r.resolveType semanticRef).toOption.join

/-- `resolve_capability(..).ok().flatten()`. -/
def findCapability (r : SemanticRegistry) (semanticRef : String) : Option CapabilityContract :=
  (r.resolveCapability semanticRef).toOption.join

/-- Every stored capability contract passes its validation. -/
def Validated (r : SemanticRegistry) : Prop :=
  ∀ (key : String × Nat) (contract : CapabilityContract), r.capabilities[key]? = some contract →
    validateCapabilityContract contract = .ok ()

/-- A resolved capability is a stored one. -/
theorem findCapability_stored {r : SemanticRegistry} {ref : String} {c : CapabilityContract}
    (h : r.findCapability ref = some c) : ∃ key : String × Nat, r.capabilities[key]? = some c := by
  unfold findCapability resolveCapability at h
  cases hp : SemanticRef.parse ref with
  | error e =>
      rw [hp] at h
      simp [bind, Except.bind, Except.toOption] at h
  | ok s =>
      rw [hp] at h
      exact ⟨(s.id, s.major), by
        simpa [bind, Except.bind, pure, Except.pure, Except.toOption, capabilityContract] using h⟩

/-- **In a validated registry a resolved capability is a valid capability.** -/
theorem Validated.find {r : SemanticRegistry} (hr : r.Validated) {ref : String}
    {c : CapabilityContract} (h : r.findCapability ref = some c) : ValidCapability c := by
  obtain ⟨key, hk⟩ := findCapability_stored h
  exact validCapability_of_ok (hr key c hk)

end SemanticRegistry

end Aios
