/-
  File:      Aios/Tasks/Tables.lean
  Subject:   THE OTHER TABLES: providers, authority, outputs and operations, as the guard of a
             transition reads them.

  A table the transition itself writes is in `Core`; the columns of such a table that only the guard
  reads stand here, under the key of the row (`GrantColumns`, `RequestColumns` and so on). The checks
  of stored documents that are judged elsewhere, by schemas, by the registry of providers or by the
  artifact store, are a parameter (`DocumentChecks`).
-/
import Aios.Tasks.Guard

namespace Aios.Tasks

open Lib Provenance

/-! ## 1. Attempts and operations -/

/-- What is known of the effects of an attempt or an operation. -/
inductive Certainty where
  | notStarted
  | startedNoEffect
  | completed
  | failedNoEffect
  | failedPartialEffect
  | outcomeUnknown
  deriving DecidableEq, Repr

/-- Something may have happened that nobody knows. -/
def Certainty.uncertain : Certainty → Bool
  | .failedPartialEffect | .outcomeUnknown => true
  | _ => false

/-- The rest of a row of `step_executions`. -/
structure StepColumns where
  attemptId : String
  outcomeCertainty : Option Certainty
  deriving DecidableEq

inductive OperationState where
  | prepared
  | started
  | succeeded
  | failed
  | unknown
  | cancelled
  deriving DecidableEq, Repr

structure OperationRow where
  operationId : String
  taskId : String
  state : OperationState
  outcomeCertainty : Option Certainty
  deriving DecidableEq

/-! ## 2. Providers -/

/-- The rest of a row of `execution_bindings`. -/
structure BindingColumns where
  bindingId : String
  irVersion : String
  capability : String
  capabilityContractHash : Option String
  providerRegistrationId : Option String
  providerManifestHash : Option String
  providerBuildHash : Option String
  attempt : Nat
  policyDecisionRefs : List String
  executionProfileRef : String
  placementJson : String
  bindingJson : String
  createdAt : String
  deriving DecidableEq

structure RegistrationRow where
  registrationId : String
  providerId : String
  providerVersion : String
  manifestHash : Option String
  packageContentHash : String
  registrySnapshotId : Option String
  state : String
  trustStatus : String
  updatedAt : Option String
  deriving DecidableEq

/-- A row of `provider_conformance_evidence`. -/
structure ConformanceRow where
  evidenceId : String
  registrationId : String
  capability : String
  contractHash : Option String
  suiteId : Option String
  suiteHash : Option String
  status : String
  evidenceJson : String
  testedAt : Option String
  deriving DecidableEq

structure SnapshotRow where
  snapshotId : String
  manifestJson : String
  deriving DecidableEq

/-- A row of `provider_state_epochs`. -/
structure EpochRow where
  registrationId : String
  revision : Nat
  state : String
  transitionedAt : String
  deriving DecidableEq

/-- A row of `execution_binding_enablement_markers`. -/
structure EnablementRow where
  bindingId : String
  registrationId : String
  revision : Nat
  deriving DecidableEq

/-! ## 3. Authority -/

/-- The rest of a row of `authority_requests`. -/
structure RequestColumns where
  requestId : String
  capability : String
  principalKind : String
  principalId : String
  executionBindingId : Option String
  attemptId : Option String
  action : String
  resourceKind : String
  resourceId : String
  semanticSelector : Option String
  deriving DecidableEq

inductive PolicyDecision where
  | allow
  | deny
  | requireApproval
  deriving DecidableEq, Repr

structure PolicyDecisionRow where
  decisionId : String
  authorityRequestId : String
  taskId : String
  semanticProgramHash : String
  nodeId : String
  principalKind : String
  principalId : String
  action : String
  resourceKind : String
  resourceId : String
  decision : PolicyDecision
  policySnapshotId : String
  approvalRequestId : Option String
  deriving DecidableEq

/-- The rest of a row of `authority_grants`. -/
structure GrantColumns where
  grantId : String
  semanticProgramHash : String
  nodeId : String
  capability : String
  principalKind : String
  principalId : String
  policySnapshotId : String
  grantsJson : String
  scope : String
  maxUses : Option Nat
  usesConsumed : Nat
  delegable : Bool
  maxDelegationDepth : Nat
  deriving DecidableEq

/-- The rest of a row of `approval_requests`. -/
structure ApprovalColumns where
  approvalId : String
  action : String
  deriving DecidableEq

/-- The rest of a row of `approval_decisions`. -/
structure ApprovalDecisionColumns where
  decisionId : String
  taskId : String
  scope : String
  deriving DecidableEq

/-- A row of `authority_approval_bindings`. -/
structure ApprovalBindingRow where
  approvalId : String
  revokedAt : Option String
  deriving DecidableEq

/-- The rest of a row of `authority_candidate_reservations`. -/
structure CandidateColumns where
  candidateId : String
  nodeId : String
  deriving DecidableEq

/-- A row of `authority_evaluation_fingerprints`. -/
structure FingerprintRow where
  decisionId : String
  candidateId : String
  activationRevision : Nat
  deriving DecidableEq

/-! ## 4. Outputs -/

inductive AllocationState where
  | allocated
  | writing
  | finalizing
  | published
  | aborted
  | expired
  | failed
  deriving DecidableEq, Repr

/-- A row of `artifact_output_allocations`. -/
structure AllocationRow where
  allocationId : String
  taskId : String
  semanticProgramHash : String
  nodeId : String
  bindingId : Option String
  attemptId : Option String
  outputPort : Option String
  expectedSemanticType : Option String
  allowedMediaTypesJson : Option String
  maxSizeBytes : Option Nat
  sensitivity : String
  retention : String
  state : AllocationState
  publicationId : Option String
  publishedArtifactId : Option String
  expiresAt : String
  deriving DecidableEq

inductive PublicationState where
  | pending
  | committed
  | failed
  | aborted
  deriving DecidableEq, Repr

structure PublicationRow where
  publicationId : String
  allocationId : String
  taskId : String
  artifactId : Option String
  contentHash : Option String
  state : PublicationState
  deriving DecidableEq

structure ArtifactRow where
  artifactId : String
  semanticType : Option String
  mediaType : String
  sizeBytes : Option Nat
  contentHash : Option String
  sensitivity : String
  retentionClass : Option String
  integrityState : String
  integrityVerifiedAt : Option String
  deriving DecidableEq

structure BlobRow where
  contentHash : String
  sizeBytes : Nat
  durabilityState : String
  verifiedAt : Option String
  deriving DecidableEq

structure TaskArtifactRow where
  taskId : String
  artifactId : String
  role : String
  nodeId : Option String
  deriving DecidableEq

/-! ## 5. The tables -/

/-- The tables outside `Core`; one that nothing here looks at is inside `rest`. -/
structure Tables (ρ : Type) where
  migrations : List String
  stepColumns : List StepColumns
  operations : List OperationRow
  bindingColumns : List BindingColumns
  registrations : List RegistrationRow
  conformance : List ConformanceRow
  snapshots : List SnapshotRow
  /-- The snapshots of `semantic_current_usable_snapshots` that are ADMITTED. -/
  admittedSnapshots : List String
  /-- `execution_binding_admission_markers`: a binding and its evidence. -/
  admissionMarkers : List (String × String)
  enablementMarkers : List EnablementRow
  epochs : List EpochRow
  requestColumns : List RequestColumns
  policyDecisions : List PolicyDecisionRow
  grantColumns : List GrantColumns
  approvalColumns : List ApprovalColumns
  approvalDecisionColumns : List ApprovalDecisionColumns
  approvalBindings : List ApprovalBindingRow
  candidateColumns : List CandidateColumns
  fingerprints : List FingerprintRow
  /-- The revisions of `authority_policy_activations`. -/
  activations : List Nat
  allocations : List AllocationRow
  publications : List PublicationRow
  artifacts : List ArtifactRow
  blobs : List BlobRow
  taskArtifacts : List TaskArtifactRow
  rest : ρ

variable {ρ : Type}

/-- A binding with the rows it is joined to. -/
structure BindingEvidence where
  binding : BindingRow
  columns : BindingColumns
  program : ProgramRow
  snapshot : SnapshotRow
  registration : RegistrationRow
  conformance : ConformanceRow
  deriving DecidableEq

/-- What is judged elsewhere. -/
structure DocumentChecks (ρ : Type) where
  /-- The embedded schema of a validation result. -/
  validationSchema : Json → Bool
  /-- `aios_ir::recompute_semantic_hash`. -/
  recomputeSemanticHash : String → Option String
  /-- The one latest conformance evidence of a binding, at the time of the check. -/
  latestConformanceEvidenceId : Tables ρ → List BindingRow → BindingGrantCheck → Bool →
    TaskResult (Option String)
  /-- The receipt of the binding repeats its columns. -/
  receiptMatches : BindingEvidence → BindingGrantCheck → Bool → Bool
  verifiedProviderAdmission : Tables ρ → BindingEvidence → String → TaskResult Bool
  /-- The contract of the snapshot and the evidence of the provider agree with the binding. -/
  conformanceValid : Tables ρ → BindingEvidence → String → Bool → TaskResult Bool
  /-- `committed_publication_receipt_authenticates`. -/
  committedPublicationValid : Store (Tables ρ) → String → String → TaskResult Bool
  unresolvedProviderInvocationIds : Store (Tables ρ) → String → TaskResult (List String)
  unresolvedCredentialUseIds : Store (Tables ρ) → String → TaskResult (List String)
  /-- The invocations and the uses of credentials that are not over. -/
  activeInvocations : Store (Tables ρ) → String → Nat
  activeCredentialUses : Store (Tables ρ) → String → Nat
  recoveryAllowsExit : Store (Tables ρ) → String → TaskResult Bool
  validateInitialProgram : Store (Tables ρ) → InitialProgramAdmission → String →
    TaskResult ValidatedProgram

end Aios.Tasks
