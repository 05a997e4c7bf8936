/-
  File:      Aios/Contracts/Diagnostics.lean
  Subject:   Reason codes, diagnostics and the derived effect summary
             (`aios-contracts/src/diagnostics.rs`, `aios-contracts/src/output.rs`).

  The severity of a diagnostic is owned by the catalogue: every code is an error except
  `irLimitDiagnostics` and `irGraphUnusedPureNode`. The stage of a code is read by no modelled
  function and is left out.
-/
import Aios.Contracts.Registry

namespace Aios

inductive Severity where
  | error
  | warning
  deriving DecidableEq, Repr

inductive ValidatorReasonCode where
  | irParseInvalid
  | irParseDuplicateKey
  | irSchemaRequired
  | irSchemaAdditionalProperty
  | irSchemaEnum
  | irSchemaPattern
  | irSchemaType
  | irSchemaRange
  | irVersionUnsupported
  | irLimitDocumentSize
  | irLimitDepth
  | irLimitNodeCount
  | irLimitPortCount
  | irLimitAuthorityRequestCount
  | irLimitFallbackCount
  | irLimitStringLength
  | irLimitDiagnostics
  | irGraphDuplicateNodeId
  | irGraphCycle
  | irGraphUnusedPureNode
  | irReferenceInputNotFound
  | irReferenceNodeNotFound
  | irReferencePortNotFound
  | irOutputNotFound
  | irTypeNotFound
  | irTypeMismatch
  | irOptionalInputToRequiredPort
  | irCapabilityNotFound
  | irCapabilityPortMismatch
  | irCapabilityRoleMismatch
  | irExecutionClassIncompatible
  | irAuthorityClassNotAllowed
  | irRequiredAuthorityMissing
  | irAuthorityDuplicateRequest
  | irEffectClassNotAllowed
  | irEgressNotAllowed
  | irEgressContradiction
  | irEgressAuthorityMismatch
  | irCacheExecutionClassMismatch
  | irFailurePolicyUnbounded
  | irFailurePolicyRecursiveFallback
  | irFallbackPortMismatch
  | irFallbackEffectBroadening
  | irFallbackAuthorityBroadening
  | irFallbackEgressBroadening
  | irCanonicalizationFailed
  | registrySchemaInvalid
  | registryUnsupportedVersion
  | registryDuplicateTypeMajor
  | registryDuplicateCapabilityMajor
  | registryEntryNotFound
  | registryContractVersionMismatch
  | registryContractHashMismatch
  | registrySnapshotHashMismatch
  | registryRequiredEffectNotAllowed
  | registryRequiredAuthorityNotAllowed
  | registryPureEffectContradiction
  deriving DecidableEq, Repr

def ValidatorReasonCode.severity : ValidatorReasonCode → Severity
  | .irLimitDiagnostics => .warning
  | .irGraphUnusedPureNode => .warning
  | _ => .error

/-- The wire text of a code. -/
def ValidatorReasonCode.asStr : ValidatorReasonCode → String
  | .irParseInvalid => "IR_PARSE_INVALID"
  | .irParseDuplicateKey => "IR_PARSE_DUPLICATE_KEY"
  | .irSchemaRequired => "IR_SCHEMA_REQUIRED"
  | .irSchemaAdditionalProperty => "IR_SCHEMA_ADDITIONAL_PROPERTY"
  | .irSchemaEnum => "IR_SCHEMA_ENUM"
  | .irSchemaPattern => "IR_SCHEMA_PATTERN"
  | .irSchemaType => "IR_SCHEMA_TYPE"
  | .irSchemaRange => "IR_SCHEMA_RANGE"
  | .irVersionUnsupported => "IR_VERSION_UNSUPPORTED"
  | .irLimitDocumentSize => "IR_LIMIT_DOCUMENT_SIZE"
  | .irLimitDepth => "IR_LIMIT_DEPTH"
  | .irLimitNodeCount => "IR_LIMIT_NODE_COUNT"
  | .irLimitPortCount => "IR_LIMIT_PORT_COUNT"
  | .irLimitAuthorityRequestCount => "IR_LIMIT_AUTHORITY_REQUEST_COUNT"
  | .irLimitFallbackCount => "IR_LIMIT_FALLBACK_COUNT"
  | .irLimitStringLength => "IR_LIMIT_STRING_LENGTH"
  | .irLimitDiagnostics => "IR_LIMIT_DIAGNOSTICS"
  | .irGraphDuplicateNodeId => "IR_GRAPH_DUPLICATE_NODE_ID"
  | .irGraphCycle => "IR_GRAPH_CYCLE"
  | .irGraphUnusedPureNode => "IR_GRAPH_UNUSED_PURE_NODE"
  | .irReferenceInputNotFound => "IR_REFERENCE_INPUT_NOT_FOUND"
  | .irReferenceNodeNotFound => "IR_REFERENCE_NODE_NOT_FOUND"
  | .irReferencePortNotFound => "IR_REFERENCE_PORT_NOT_FOUND"
  | .irOutputNotFound => "IR_OUTPUT_NOT_FOUND"
  | .irTypeNotFound => "IR_TYPE_NOT_FOUND"
  | .irTypeMismatch => "IR_TYPE_MISMATCH"
  | .irOptionalInputToRequiredPort => "IR_OPTIONAL_INPUT_TO_REQUIRED_PORT"
  | .irCapabilityNotFound => "IR_CAPABILITY_NOT_FOUND"
  | .irCapabilityPortMismatch => "IR_CAPABILITY_PORT_MISMATCH"
  | .irCapabilityRoleMismatch => "IR_CAPABILITY_ROLE_MISMATCH"
  | .irExecutionClassIncompatible => "IR_EXECUTION_CLASS_INCOMPATIBLE"
  | .irAuthorityClassNotAllowed => "IR_AUTHORITY_CLASS_NOT_ALLOWED"
  | .irRequiredAuthorityMissing => "IR_REQUIRED_AUTHORITY_MISSING"
  | .irAuthorityDuplicateRequest => "IR_AUTHORITY_DUPLICATE_REQUEST"
  | .irEffectClassNotAllowed => "IR_EFFECT_CLASS_NOT_ALLOWED"
  | .irEgressNotAllowed => "IR_EGRESS_NOT_ALLOWED"
  | .irEgressContradiction => "IR_EGRESS_CONTRADICTION"
  | .irEgressAuthorityMismatch => "IR_EGRESS_AUTHORITY_MISMATCH"
  | .irCacheExecutionClassMismatch => "IR_CACHE_EXECUTION_CLASS_MISMATCH"
  | .irFailurePolicyUnbounded => "IR_FAILURE_POLICY_UNBOUNDED"
  | .irFailurePolicyRecursiveFallback => "IR_FAILURE_POLICY_RECURSIVE_FALLBACK"
  | .irFallbackPortMismatch => "IR_FALLBACK_PORT_MISMATCH"
  | .irFallbackEffectBroadening => "IR_FALLBACK_EFFECT_BROADENING"
  | .irFallbackAuthorityBroadening => "IR_FALLBACK_AUTHORITY_BROADENING"
  | .irFallbackEgressBroadening => "IR_FALLBACK_EGRESS_BROADENING"
  | .irCanonicalizationFailed => "IR_CANONICALIZATION_FAILED"
  | .registrySchemaInvalid => "REGISTRY_SCHEMA_INVALID"
  | .registryUnsupportedVersion => "REGISTRY_UNSUPPORTED_VERSION"
  | .registryDuplicateTypeMajor => "REGISTRY_DUPLICATE_TYPE_MAJOR"
  | .registryDuplicateCapabilityMajor => "REGISTRY_DUPLICATE_CAPABILITY_MAJOR"
  | .registryEntryNotFound => "REGISTRY_ENTRY_NOT_FOUND"
  | .registryContractVersionMismatch => "REGISTRY_CONTRACT_VERSION_MISMATCH"
  | .registryContractHashMismatch => "REGISTRY_CONTRACT_HASH_MISMATCH"
  | .registrySnapshotHashMismatch => "REGISTRY_SNAPSHOT_HASH_MISMATCH"
  | .registryRequiredEffectNotAllowed => "REGISTRY_REQUIRED_EFFECT_NOT_ALLOWED"
  | .registryRequiredAuthorityNotAllowed => "REGISTRY_REQUIRED_AUTHORITY_NOT_ALLOWED"
  | .registryPureEffectContradiction => "REGISTRY_PURE_EFFECT_CONTRADICTION"

structure Diagnostic where
  severity : Severity
  code : ValidatorReasonCode
  message : String
  nodeId : Option String
  port : Option String
  capability : Option String
  jsonPointer : Option String
  related : List String
  deriving DecidableEq, Repr

def Diagnostic.new (code : ValidatorReasonCode) (message : String) : Diagnostic where
  severity := code.severity
  code := code
  message := message
  nodeId := none
  port := none
  capability := none
  jsonPointer := none
  related := []

/-! ## The effect summary -/

structure NodeEffectSummary where
  nodeId : String
  capability : String
  executionClass : ExecutionClass
  effects : List EffectClass
  authorityClasses : List String
  egressMode : EgressMode
  verificationGate : Bool
  deriving DecidableEq, Repr

structure GeneratedBy where
  id : Option String
  version : Option String
  deriving DecidableEq, Repr

structure EffectSummary where
  schemaVersion : String
  semanticProgramHash : String
  registrySnapshotId : String
  effects : List EffectClass
  authorityClasses : List String
  egressModes : List EgressMode
  containsProbabilistic : Bool
  containsOpaqueExternal : Bool
  nodes : List NodeEffectSummary
  verificationBarriers : List String
  generatedBy : Option GeneratedBy
  generatedAt : Option String
  deriving DecidableEq, Repr

end Aios
