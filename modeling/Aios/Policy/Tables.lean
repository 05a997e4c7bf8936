/-
  File:      Aios/Policy/Tables.lean
  Subject:   THE TABLES OF THE AUTHORITY LEDGER: reserved candidates, the policy, what was asked and
             decided, and what finalisation writes.

  A table is the list of its rows in the order of insertion. A column whose text is compared with a
  text the code builds (`request_json`, `decision_json`, `policy_json`) holds the text; one that holds
  the JSON of a list of identities holds the list. What the ledger reads of the Task, its programs and
  its artifacts is written elsewhere.
-/
import Aios.Artifacts.Labels
import Aios.Lib.Order
import Aios.Tasks.Deadline
import Aios.Tasks.Tables

namespace Aios.Policy

open Lib

/-! ## 1. Errors -/

inductive DenialStage where
  | candidateReservation
  | approvalApplication
  deriving DecidableEq, Repr

inductive DenialReason where
  | semanticRequestMismatch
  | approvalStale
  deriving DecidableEq, Repr

inductive PolicyError where
  | invalidRecord (message : String)
  | authorityDenied (stage : DenialStage) (reason : DenialReason)
  | storage (message : String)
  deriving DecidableEq, Repr

abbrev PolicyResult (α : Type) := Except PolicyError α

def reject : PolicyError := .invalidRecord "authority policy evaluation is not admissible"

/-- The error of the module of the reservations. -/
def rejectCandidate : PolicyError := .invalidRecord "authority candidate reservation is not admissible"

def artifactDenied : PolicyError := .invalidRecord "ARTIFACT_AUTHORITY_DENIED"

/-! ## 2. What is written elsewhere -/

structure TaskRow where
  taskId : String
  revision : Nat
  state : Tasks.TaskState
  principalKind : String
  principalId : String
  constraintsJson : Option String
  activeProgramRevision : Option Nat
  deriving DecidableEq

/-- A row of `semantic_program_revisions`. -/
structure ProgramRow where
  taskId : String
  programRevision : Nat
  status : String
  irVersion : String
  semanticHash : Option String
  registrySnapshotId : Option String
  programJson : String
  deriving DecidableEq

structure ArtifactRow where
  artifactId : String
  semanticType : Option String
  sizeBytes : Option Nat
  contentHash : Option String
  sensitivity : String
  retentionClass : Option String
  expiresAt : Option String
  integrityState : String
  deriving DecidableEq

structure TaskArtifactRow where
  taskId : String
  artifactId : String
  role : String
  deriving DecidableEq

/-- A row of `authority_export_services` with its state. -/
structure ExportServiceRow where
  serviceId : String
  destinationClass : String
  adapterId : String
  descriptorHash : String
  state : String
  deriving DecidableEq

/-! ## 3. Candidates -/

/-- A row of `authority_candidate_reservations`. -/
structure ReservationRow where
  candidateId : String
  bindingId : String
  attemptId : String
  taskId : String
  semanticProgramHash : String
  registrySnapshotId : String
  irVersion : String
  nodeId : String
  capability : String
  capabilityContractHash : String
  providerRegistrationId : String
  providerId : String
  providerVersion : String
  providerManifestHash : String
  providerBuildHash : String
  conformanceEvidenceId : String
  providerTrustSourceId : String
  executionProfileRef : String
  isolationClass : String
  placementLocality : String
  attemptNumber : Nat
  resourceCount : Nat
  createdAt : String
  deriving DecidableEq

/-- A row of `authority_candidate_resources`. -/
structure ResourceRow where
  candidateId : String
  action : String
  semanticSelector : String
  resourceKind : String
  resourceId : String
  outputPort : Option String
  expectedSemanticType : String
  deriving DecidableEq

/-- A row of `authority_candidate_export_pins`. -/
structure ExportPin where
  selector : String
  serviceId : String
  destinationClass : String
  descriptorHash : String
  adapterId : String
  operationId : String
  sourceArtifactId : String
  sourceContentHash : String
  purpose : String
  sensitivity : String
  maxSizeBytes : Nat
  deriving DecidableEq

/-- A row of `authority_candidate_status`. -/
structure StatusRow where
  candidateId : String
  revision : Nat
  state : Tasks.CandidateState
  deriving DecidableEq

/-! ## 4. Policy -/

/-- A row of `authority_policy_activations`. -/
structure ActivationRow where
  revision : Nat
  contentHash : String
  activatedAt : String
  deriving DecidableEq

structure PolicySnapshotRow where
  snapshotId : String
  scopeKind : String
  scopeId : String
  policyLanguage : String
  policyLanguageVersion : String
  policySetHash : String
  entitySchemaHash : String
  engineId : String
  engineVersion : String
  snapshotJson : String
  createdAt : String
  deriving DecidableEq

/-! ## 5. Requests, decisions, approvals -/

/-- A row of `authority_requests`. -/
structure RequestRow where
  requestId : String
  taskId : String
  semanticProgramHash : String
  registrySnapshotId : String
  nodeId : String
  capability : String
  principalKind : String
  principalId : String
  executionBindingId : Option String
  attemptId : Option String
  action : String
  resourceKind : String
  resourceId : String
  semanticSelector : Option String
  requestJson : String
  requestedAt : String
  deriving DecidableEq

/-- A row of `policy_decisions`. -/
structure DecisionRow where
  decisionId : String
  authorityRequestId : String
  taskId : String
  semanticProgramHash : String
  nodeId : String
  principalKind : String
  principalId : String
  action : String
  resourceKind : String
  resourceId : String
  decision : String
  policySnapshotId : String
  approvalRequestId : Option String
  reasonCodes : List String
  decisionJson : String
  decidedAt : String
  deriving DecidableEq

/-- A row of `authority_evaluation_fingerprints`. -/
structure FingerprintRow where
  decisionId : String
  candidateId : String
  fingerprint : String
  activationRevision : Nat
  evaluatedAt : String
  deriving DecidableEq

/-- A row of `approval_requests`. -/
structure ApprovalRow where
  approvalId : String
  authorityRequestId : String
  taskId : String
  semanticProgramHash : String
  nodeId : String
  action : String
  status : String
  requestJson : String
  createdAt : String
  expiresAt : String
  deriving DecidableEq

/-- A row of `authority_approval_bindings`. -/
structure ApprovalBindingRow where
  approvalId : String
  candidateId : String
  fingerprint : String
  activationRevision : Nat
  requiringDecisionId : String
  revokedAt : Option String
  deriving DecidableEq

/-- A row of `approval_decisions`. -/
structure ApprovalDecisionRow where
  decisionId : String
  approvalId : String
  taskId : String
  decision : String
  decidedByKind : String
  decidedById : String
  scope : String
  approvedUntil : Option String
  decisionJson : String
  decidedAt : String
  deriving DecidableEq

/-! ## 6. What finalisation writes -/

/-- A row of `authority_grants`. -/
structure GrantRow where
  grantId : String
  tokenId : String
  taskId : String
  semanticProgramHash : String
  nodeId : String
  capability : String
  principalKind : String
  principalId : String
  executionBindingId : String
  attemptId : String
  policyDecisionId : String
  policySnapshotId : String
  approvalId : Option String
  grantsJson : String
  scope : String
  maxUses : Option Nat
  usesConsumed : Nat
  state : Tasks.GrantState
  delegable : Bool
  maxDelegationDepth : Nat
  issuedAt : String
  expiresAt : String
  deriving DecidableEq

/-- A row of `execution_bindings`; of the receipt in `binding_json`, what is read again. -/
structure BindingRow where
  bindingId : String
  attemptId : String
  taskId : String
  semanticProgramHash : String
  registrySnapshotId : String
  irVersion : String
  nodeId : String
  capability : String
  capabilityContractHash : Option String
  providerRegistrationId : Option String
  providerId : String
  providerVersion : String
  providerManifestHash : Option String
  providerBuildHash : Option String
  attempt : Nat
  policyDecisionRefs : List String
  grantRefs : List String
  executionProfileRef : String
  /-- The locality of the placement, where it is its only member. -/
  placementLocality : Option String
  /-- Two members of the receipt, where each is there once and a text. -/
  conformanceEvidenceId : Option String
  providerTrustSourceId : Option String
  /-- The artifacts of the receipt's inputs, in the order of their ports. -/
  inputRefs : List String
  createdAt : String
  deriving DecidableEq

/-- A row of `step_executions`. -/
structure StepRow where
  attemptId : String
  taskId : String
  semanticProgramHash : String
  registrySnapshotId : Option String
  nodeId : String
  bindingId : Option String
  providerId : Option String
  providerVersion : Option String
  attemptNumber : Nat
  revision : Nat
  state : Tasks.StepState
  inputArtifacts : Option (List String)
  createdAt : String
  deriving DecidableEq

/-- A row of `artifact_output_allocations`. -/
structure AllocationRow where
  allocationId : String
  taskId : String
  semanticProgramHash : String
  nodeId : String
  bindingId : Option String
  attemptId : Option String
  outputPort : Option String
  expectedSemanticType : Option String
  maxSizeBytes : Option Nat
  sensitivity : String
  retention : String
  state : Tasks.AllocationState
  createdAt : String
  expiresAt : String
  deriving DecidableEq

/-- A row of `provenance_events`, as the replay finds it. -/
structure EventRow where
  eventId : String
  taskId : String
  eventType : String
  eventJson : Json
  deriving DecidableEq

/-! ## 7. The ledger -/

/-- What the ledger reads and other parts of the Task Manager write. -/
structure World where
  tasks : List TaskRow
  programs : List ProgramRow
  artifacts : List ArtifactRow
  taskArtifacts : List TaskArtifactRow
  exportServices : List ExportServiceRow

structure PolicyStore where
  lease : Option Tasks.Lease
  clock : Tasks.Clock
  world : World
  reservations : List ReservationRow
  resources : List ResourceRow
  /-- A candidate and its pin. -/
  exportPins : List (String × ExportPin)
  statuses : List StatusRow
  /-- `authority_policy_payloads`: a content hash and its text. -/
  payloads : List (String × String)
  activations : List ActivationRow
  policySnapshots : List PolicySnapshotRow
  requests : List RequestRow
  decisions : List DecisionRow
  fingerprints : List FingerprintRow
  approvals : List ApprovalRow
  approvalBindings : List ApprovalBindingRow
  approvalDecisions : List ApprovalDecisionRow
  grants : List GrantRow
  issuances : List Tasks.IssuanceRow
  deadlines : List Tasks.DeadlineRow
  bindings : List BindingRow
  steps : List StepRow
  allocations : List AllocationRow
  events : List EventRow

end Aios.Policy
