/-
  File:      Aios/Contracts/Registry.lean
  Subject:   Semantic type, capability and snapshot contracts (`aios-contracts/src/registry.rs`).

  A binary64 tolerance is kept as its bit pattern: the loader asks of it only whether it is finite
  and not negative, which the bits decide (`F64.isFinite`, `F64.nonneg`).
-/
import Aios.Contracts.Ir
import Mathlib.Data.BitVec

namespace Aios

open Lib

/-! ## 1. Effect classes -/

inductive EffectClass where
  | pure
  | artifactRead
  | artifactWrite
  | network
  | dataEgress
  | externalMessage
  | secretAccess
  | persistentState
  | deviceAccess
  | systemChange
  | legacyOpaque
  deriving DecidableEq, Repr

namespace EffectClass

/-- The derived order of the enumeration: declaration order. -/
instance : Ord EffectClass := ⟨compareOn EffectClass.ctorIdx⟩

instance : Std.TransOrd EffectClass :=
  inferInstanceAs (Std.TransCmp (compareOn EffectClass.ctorIdx))

instance : Std.LawfulEqOrd EffectClass where
  eq_of_compare {a b} h := by
    cases a <;> cases b <;> first | rfl | exact absurd h (by decide)

def serde : EffectClass → String
  | .pure => "PURE"
  | .artifactRead => "ARTIFACT_READ"
  | .artifactWrite => "ARTIFACT_WRITE"
  | .network => "NETWORK"
  | .dataEgress => "DATA_EGRESS"
  | .externalMessage => "EXTERNAL_MESSAGE"
  | .secretAccess => "SECRET_ACCESS"
  | .persistentState => "PERSISTENT_STATE"
  | .deviceAccess => "DEVICE_ACCESS"
  | .systemChange => "SYSTEM_CHANGE"
  | .legacyOpaque => "LEGACY_OPAQUE"

def debug : EffectClass → String
  | .pure => "Pure"
  | .artifactRead => "ArtifactRead"
  | .artifactWrite => "ArtifactWrite"
  | .network => "Network"
  | .dataEgress => "DataEgress"
  | .externalMessage => "ExternalMessage"
  | .secretAccess => "SecretAccess"
  | .persistentState => "PersistentState"
  | .deviceAccess => "DeviceAccess"
  | .systemChange => "SystemChange"
  | .legacyOpaque => "LegacyOpaque"

end EffectClass

instance : Ord EgressMode := ⟨compareOn EgressMode.ctorIdx⟩

instance : Std.TransOrd EgressMode := inferInstanceAs (Std.TransCmp (compareOn EgressMode.ctorIdx))

instance : Std.LawfulEqOrd EgressMode where
  eq_of_compare {a b} h := by
    cases a <;> cases b <;> first | rfl | exact absurd h (by decide)

/-! ## 2. Contracts -/

/-- A binary64, by its bits. -/
structure F64 where
  bits : BitVec 64
  deriving DecidableEq, Repr

namespace F64

/-- `f64::is_finite`: the exponent is not all ones. -/
def isFinite (x : F64) : Bool := x.bits.extractLsb' 52 11 ≠ 0x7ff#11

/-- `x >= 0.0` of a finite `x`: the sign bit is clear, or the value is `-0.0`. -/
def nonneg (x : F64) : Bool := x.bits.getMsbD 0 = false || x.bits = 0x8000000000000000#64

end F64

inductive CapabilityRole where
  | ordinary
  | verifier
  deriving DecidableEq, Repr

def CapabilityRole.serde : CapabilityRole → String
  | .ordinary => "ordinary"
  | .verifier => "verifier"

def CapabilityRole.debug : CapabilityRole → String
  | .ordinary => "Ordinary"
  | .verifier => "Verifier"

structure PortContract where
  typeRef : String
  required : Bool
  description : Option String
  deriving DecidableEq, Repr

inductive DeterminismEquivalence where
  | byteIdentical
  | canonicalValue
  | numericTolerance
  | semantic
  | notApplicable
  deriving DecidableEq, Repr

def DeterminismEquivalence.serde : DeterminismEquivalence → String
  | .byteIdentical => "byte_identical"
  | .canonicalValue => "canonical_value"
  | .numericTolerance => "numeric_tolerance"
  | .semantic => "semantic"
  | .notApplicable => "not_applicable"

structure Determinism where
  equivalence : Option DeterminismEquivalence
  numericAbsoluteTolerance : Option F64
  numericRelativeTolerance : Option F64
  deriving DecidableEq, Repr

structure Conformance where
  suiteId : String
  suiteVersion : Option String
  suiteHash : Option String
  deriving DecidableEq, Repr

structure CapabilityContract where
  capability : String
  version : String
  description : Option String
  role : CapabilityRole
  inputs : Std.ExtTreeMap String PortContract
  outputs : Std.ExtTreeMap String PortContract
  allowedExecutionClasses : List ExecutionClass
  requiredEffectClasses : List EffectClass
  allowedEffectClasses : List EffectClass
  requiredAuthorityClasses : List String
  allowedAuthorityClasses : List String
  allowedEgressModes : List EgressMode
  determinism : Option Determinism
  errorClasses : List String
  conformance : Conformance
  notes : List String
  deriving DecidableEq

inductive TypeKind where
  | scalar
  | structured
  | artifact
  | stream
  | handle
  deriving DecidableEq, Repr

def TypeKind.serde : TypeKind → String
  | .scalar => "scalar"
  | .structured => "structured"
  | .artifact => "artifact"
  | .stream => "stream"
  | .handle => "handle"

structure Representation where
  id : String
  mediaType : Option String
  schemaRef : Option String
  zeroCopyCandidate : Bool
  deriving DecidableEq, Repr

inductive EqualityMode where
  | byteIdentical
  | canonicalValue
  | numericTolerance
  | semantic
  | notDefined
  deriving DecidableEq, Repr

def EqualityMode.serde : EqualityMode → String
  | .byteIdentical => "byte_identical"
  | .canonicalValue => "canonical_value"
  | .numericTolerance => "numeric_tolerance"
  | .semantic => "semantic"
  | .notDefined => "not_defined"

structure TypeEquality where
  mode : EqualityMode
  canonicalizer : Option String
  numericAbsoluteTolerance : Option F64
  numericRelativeTolerance : Option F64
  deriving DecidableEq, Repr

structure UnitSemantics where
  unitRequired : Option Bool
  canonicalUnit : Option String
  notes : Option String
  deriving DecidableEq, Repr

structure TypeContract where
  typeId : String
  version : String
  kind : TypeKind
  description : String
  logicalSchemaRef : Option String
  nullable : Bool
  representations : List Representation
  equality : TypeEquality
  unitSemantics : Option UnitSemantics
  conversionCapabilities : List String
  conformance : Conformance
  notes : List String
  deriving DecidableEq, Repr

/-! ## 3. Snapshots -/

structure ContractRef where
  id : String
  version : String
  contentHash : String
  source : Option String
  deriving DecidableEq, Repr

structure RegistryPublisher where
  id : Option String
  signature : Option String
  deriving DecidableEq, Repr

structure RegistrySnapshot where
  schemaVersion : String
  snapshotId : String
  generation : Option String
  typeContracts : List ContractRef
  capabilityContracts : List ContractRef
  createdAt : String
  publisher : Option RegistryPublisher
  notes : List String
  deriving DecidableEq, Repr

end Aios
