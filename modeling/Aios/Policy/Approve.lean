/-
  File:      Aios/Policy/Approve.lean
  Subject:   APPROVALS: the policy they are asked under, the decision of the user, its withdrawal, and
             the claim that presents one.

  None of these operations writes a grant. A claim authenticates the approval against the facts it was
  given for, compares its fingerprint with that of the facts at hand, and then only evaluates again.
-/
import Aios.Policy.Finalize

namespace Aios.Policy

open Lib Provenance

section Approve

variable (env : PolicyEnv) (outside : Outside) (backend : LocalPolicyBackend) (lease : Tasks.Lease)

/-! ## 1. The policy -/

/-- The payload of the policy: the stored one, where it is the same, or a new one. -/
def recordPayload (store : PolicyStore) (contentHash canonical : String) : PolicyResult PolicyStore :=
  match store.payloads.lookup contentHash with
  | some existing => do
      rejectIf (existing ≠ canonical) reject
      return store
  | none => return { store with payloads := store.payloads ++ [(contentHash, canonical)] }

def nextRevision (activations : List ActivationRow) : Nat :=
  ((latestActivation activations).elim 0 ActivationRow.revision) + 1

def snapshotRow (contentHash text createdAt : String) : PolicySnapshotRow :=
  ⟨contentHash, "device", "stage1-local", "builtin", "0.1", contentHash, entitySchemaHash env,
    "aios-deterministic", "0.1", text, createdAt⟩

/-- The snapshot of the policy: the stored one, where it is the same, or a new one. -/
def recordSnapshot (store : PolicyStore) (contentHash now : String) : PolicyResult PolicyStore := do
  let prior := store.policySnapshots.find? fun s => s.snapshotId = contentHash
  let created := (prior.map PolicySnapshotRow.createdAt).getD now
  let text ← env.canonicalJson (snapshotValue env contentHash created)
  match prior with
  | some s => do
      rejectIf (s.snapshotJson ≠ text) reject
      return store
  | none => return { store with
      policySnapshots := store.policySnapshots ++ [snapshotRow env contentHash text created] }

def activateLocalAuthorityPolicy (store : PolicyStore) (raw now : String) :
    PolicyResult (PolicyStore × Nat) := do
  let policy ← LocalPolicy.parse env raw
  let canonical ← env.canonicalJson policy.toJson
  let contentHash := env.hash policyDomain canonical
  let _ ← checkedTime env now
  assertManagerLease store lease
  let store ← recordPayload store contentHash canonical
  let revision := nextRevision store.activations
  let store := { store with activations := store.activations ++ [⟨revision, contentHash, now⟩] }
  let store ← recordSnapshot env store contentHash now
  return (store, revision)

/-! ## 2. The evaluation -/

def evaluatePendingAuthorityCandidate (store : PolicyStore) (candidateId started now : String) :
    PolicyResult (PolicyStore × CandidatePolicyEvaluation) := do
  let startedAt ← checkedTime env started
  let _ ← CandidateFacts.load env store candidateId startedAt
  assertManagerLease store lease
  evaluatePendingAuthorityCandidateIn env outside backend store candidateId now

/-! ## 3. The decision of the user -/

/-- The candidate waits for its user, and nothing it rests on has changed. -/
def decidable (store : PolicyStore) (candidateId now : String) (checked : Int) :
    PolicyResult CandidateFacts := do
  let facts ← CandidateFacts.load env store candidateId checked
  rejectIf (facts.taskState ≠ .waitingForAuth) reject
  requireTrue (outside.activeProgramValidationValid facts) reject
  requireTrue (outside.providerPinsCurrent facts now) reject
  return facts

/-- The policy of the approval still asks for one over the resource it was created for. -/
def requiringResource (store : PolicyStore) (facts : CandidateFacts) (a : ApprovalRow)
    (policy : LocalPolicy) : PolicyResult (RequestRow × ResourceFacts) := do
  let q ← expect (store.requests.find? fun q => q.requestId = a.authorityRequestId) reject
  let r ← expect (facts.resources.find? fun r => r.action = q.action &&
    some r.selector = q.semanticSelector && r.id = q.resourceId) reject
  rejectIf (backend.decide policy r ≠ .requireApproval) reject
  return (q, r)

def userDecision (approve : Bool) : String := if approve then "APPROVE" else "DENY"

def userStatus (approve : Bool) : String := if approve then "APPROVED" else "DENIED"

/-- The row that is written for a decision of the user. -/
def approvalDecisionRow (approval taskId principalId : String) (approve : Bool) (until? : Option String)
    (text now : String) : ApprovalDecisionRow :=
  ⟨approvalDecisionId env approval, approval, taskId, userDecision approve, "user", principalId,
    "ONE_SHOT", until?, text, now⟩

/-- The approval and its decision; an approval is decided once. -/
def recordUserDecision (store : PolicyStore) (a : ApprovalRow) (taskId principalId : String)
    (approve : Bool) (now : String) : PolicyResult PolicyStore := do
  let approval := a.approvalId
  let until? := if approve then some a.expiresAt else none
  let text ← env.canonicalJson (approvalDecisionValue (approvalDecisionId env approval) approval taskId
    (userDecision approve) principalId until? now)
  let row := approvalDecisionRow env approval taskId principalId approve until? text now
  rejectIf (store.approvalDecisions.any fun d => d.decisionId = row.decisionId || d.approvalId = approval)
    (.storage "bound approval decision already exists")
  return { store with
    approvalDecisions := store.approvalDecisions ++ [row]
    approvals := store.approvals.map fun x =>
      if x.approvalId = approval && x.status = "PENDING" then { x with status := userStatus approve } else x }

/-- `decide_candidate_approval`, within its transaction. -/
def decideCandidateApprovalIn (store : PolicyStore) (approval principalId : String) (approve : Bool)
    (now : String) : PolicyResult PolicyStore := do
  let checked ← checkedTime env now
  assertManagerLease store lease
  let (a, b) ← expect (store.approval? approval) reject
  let t ← expect (store.world.task? a.taskId) reject
  rejectIf (a.status ≠ "PENDING" || t.principalId ≠ principalId || t.principalId.isEmpty) reject
  let expires ← checkedTime env a.expiresAt
  let created ← checkedTime env a.createdAt
  rejectIf (expires ≤ checked || checked < created) reject
  let activation ← expect (latestActivation store.activations) (.storage "Invalid column type Null")
  rejectIf (b.activationRevision ≠ activation.revision) reject
  let facts ← decidable env outside store b.candidateId now checked
  let policy ← loadPolicy env store activation
  let (q, r) ← requiringResource backend store facts a policy
  let fingerprint ← facts.fingerprint env r activation.revision activation.contentHash
  rejectIf (fingerprint ≠ b.fingerprint) reject
  checkedApprovalRequest env store facts r approval q.requestId b.fingerprint activation.revision
    activation.contentHash a.createdAt a.expiresAt
  recordUserDecision env store a facts.candidate.taskId t.principalId approve now

def decideCandidateApproval (store : PolicyStore) (approval principalId : String) (approve : Bool)
    (started now : String) : PolicyResult PolicyStore := do
  let startedAt ← checkedTime env started
  let b ← expect (store.approvalBindings.find? fun b => b.approvalId = approval) reject
  let preliminary ← CandidateFacts.load env store b.candidateId startedAt
  rejectIf (preliminary.taskState ≠ .waitingForAuth) reject
  decideCandidateApprovalIn env outside backend lease store approval principalId approve now

/-! ## 4. The withdrawal -/

/-- The approval of the user is withdrawn once; to ask again changes nothing. -/
def revokeCandidateApproval (store : PolicyStore) (approval principalId now : String) :
    PolicyResult PolicyStore := do
  let checked ← checkedTime env now
  assertManagerLease store lease
  let (a, b) ← expect (store.approval? approval) reject
  let t ← expect (store.world.task? a.taskId) reject
  rejectIf (t.principalId ≠ principalId || t.principalId.isEmpty || a.status ≠ "APPROVED") reject
  if b.revokedAt.isSome then return store
  else do
    let created ← checkedTime env a.createdAt
    rejectIf (checked < created) reject
    return { store with approvalBindings := store.approvalBindings.map fun x =>
      if x.approvalId = approval && x.revokedAt.isNone then { x with revokedAt := some now } else x }

/-! ## 5. The claim -/

structure AuthenticatedApprovalClaim where
  taskId : String
  action : String
  selector : String
  fingerprint : String
  deriving DecidableEq

/-- The approval is a given one, within its time. -/
def approvalInTime (reserved requested created decided now expires : Int) : Bool :=
  decide (reserved ≤ requested) && decide (requested ≤ created) && decide (created ≤ decided) &&
    decide (decided ≤ now) && decide (now < expires)

/-- The request the approval was created for is the one these facts make. -/
def requestGenuine (facts : CandidateFacts) (r : ResourceFacts) (q : RequestRow) : PolicyResult Unit := do
  let text ← env.canonicalJson (requestValue facts r q.requestId q.requestedAt)
  rejectIf (q.requestId ≠ requestId env facts r || q.requestJson ≠ text) reject

/-- The policy of the approval's own revision asked for it, whatever the evaluator of the process says
    now, and the facts are still those it was given for. -/
def decisionGenuine (store : PolicyStore) (facts : CandidateFacts) (r : ResourceFacts)
    (b : ApprovalBindingRow) : PolicyResult ActivationRow := do
  let activation ← expect (store.activations.find? fun x => x.revision = b.activationRevision) reject
  let policy ← loadPolicy env store activation
  let fingerprint ← facts.fingerprint env r b.activationRevision activation.contentHash
  rejectIf (decideDeterministic localPolicyRuleLimit policy r.action r.kind r.sensitivity ≠ .requireApproval ||
    fingerprint ≠ b.fingerprint) reject
  return activation

def authenticateApprovedClaim (store : PolicyStore) (approval : String) (now : Int) :
    PolicyResult AuthenticatedApprovalClaim := do
  let (a, b) ← expect ((store.approval? approval).filter fun p => p.2.revokedAt.isNone) reject
  let q ← expect (store.requests.find? fun q => q.requestId = a.authorityRequestId) reject
  let c ← expect (store.loadView.reservation? b.candidateId) reject
  let ad ← expect (store.approvalDecisions.find? fun d => d.approvalId = approval &&
    d.decision = "APPROVE") reject
  let reserved ← checkedTime env c.createdAt
  let requested ← checkedTime env q.requestedAt
  let created ← checkedTime env a.createdAt
  let decided ← checkedTime env ad.decidedAt
  let expires ← checkedTime env a.expiresAt
  rejectIf (a.status ≠ "APPROVED" || !approvalInTime reserved requested created decided now expires) reject
  let facts ← CandidateFacts.load env store b.candidateId now
  rejectIf (facts.candidate.taskId ≠ a.taskId) reject
  requireTrue (outside.activeProgramValidationValid facts) reject
  let selector ← expect q.semanticSelector reject
  let r ← expect (facts.resources.find? fun r => r.action = q.action && r.selector = selector &&
    r.id = q.resourceId) reject
  requestGenuine env facts r q
  let activation ← decisionGenuine env store facts r b
  checkedPolicySnapshot env store activation.revision activation.contentHash created
  checkedApprovalRequest env store facts r approval q.requestId b.fingerprint activation.revision
    activation.contentHash a.createdAt a.expiresAt
  checkedApprovalDecision env store approval a.status a.taskId facts.taskPrincipalId a.expiresAt now
  return ⟨a.taskId, q.action, selector, b.fingerprint⟩

/-- The fingerprint of the facts at hand over the resource of the claim is that of the approval. -/
def claimExact (facts : CandidateFacts) (activation : ActivationRow) (claim : AuthenticatedApprovalClaim) :
    PolicyResult Bool :=
  match facts.resources.find? fun r => r.action = claim.action && r.selector = claim.selector with
  | none => .ok false
  | some r => do
      let fingerprint ← facts.fingerprint env r activation.revision activation.contentHash
      return decide (fingerprint = claim.fingerprint)

/-- The evaluation allows the claimed resource through the approval. -/
def claimApproved (claim : AuthenticatedApprovalClaim) (approval : String)
    (evaluation : CandidatePolicyEvaluation) : Bool :=
  evaluation.decisions.any fun d => d.action = claim.action && d.semanticSelector = claim.selector &&
    d.approvalId = some approval && d.effect = .allow

/-- The evaluator of the process is away, and every decision says so. -/
def backendUnavailable (claim : AuthenticatedApprovalClaim) (evaluation : CandidatePolicyEvaluation) :
    Bool :=
  (evaluation.decisions.any fun d => d.action = claim.action && d.semanticSelector = claim.selector &&
    d.reasonCode = "AUTH_POLICY_ENGINE_UNAVAILABLE") &&
  evaluation.decisions.all fun d => d.effect = .deny &&
    d.reasonCode = "AUTH_POLICY_ENGINE_UNAVAILABLE" && d.approvalId.isNone

/-- `apply_candidate_approval_claim`, within its transaction. -/
def applyCandidateApprovalClaimIn (store : PolicyStore) (candidateId approval now : String) :
    PolicyResult (PolicyStore × CandidatePolicyEvaluation) := do
  assertManagerLease store lease
  let checked ← checkedTime env now
  let facts ← CandidateFacts.load env store candidateId checked
  requireTrue (outside.activeProgramValidationValid facts) reject
  let claim ← authenticateApprovedClaim env outside store approval checked
  rejectIf (claim.taskId ≠ facts.candidate.taskId) reject
  let activation ← expect (latestActivation store.activations) reject
  let _ ← loadPolicy env store activation
  checkedPolicySnapshot env store activation.revision activation.contentHash checked
  let exact ← claimExact env facts activation claim
  rejectIf (!exact) (.authorityDenied .approvalApplication .approvalStale)
  let (store, evaluation) ← evaluatePendingAuthorityCandidateIn env outside backend store candidateId now
  rejectIf (!claimApproved claim approval evaluation && !backendUnavailable claim evaluation) reject
  return (store, evaluation)

def applyCandidateApprovalClaim (store : PolicyStore) (candidateId approval started now : String) :
    PolicyResult (PolicyStore × CandidatePolicyEvaluation) := do
  let startedAt ← checkedTime env started
  let _ ← CandidateFacts.load env store candidateId startedAt
  applyCandidateApprovalClaimIn env outside backend lease store candidateId approval now

end Approve

end Aios.Policy
