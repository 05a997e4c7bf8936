/-
  File:      Aios/Policy/Issue.lean
  Subject:   WHAT A FINALISATION WRITES: a grant with its receipt and deadline for each resource, the
             binding that names them, the one step of the attempt, and its outputs.

  Each of these functions works inside the transaction of the finaliser and checks the rows of the
  others again before it adds its own.
-/
import Aios.Policy.Evaluate

namespace Aios.Policy

open Lib Provenance Artifacts

/-! ## 1. Deadlines -/

structure PreparedGrantDeadline where
  grantExpiresAt : String
  grantExpiryUnixNanos : Int
  approvalRequestExpiryUnixNanos : Option Int
  approvedUntilUnixNanos : Option Int
  effectiveExpiryUnixNanos : Int
  deadlineMonotonicNanos : Int
  deriving DecidableEq

def localArtifactGrantNanos : Int := 300000000000

def rejectDeadline : PolicyError := .invalidRecord "authority grant deadline is not admissible"

/-- When the approval of a grant expires, and until when it was given. -/
structure ApprovalExpirySources where
  requestExpiresAt : String
  approvedUntil : String
  deriving DecidableEq

section Issue

variable (env : PolicyEnv)

/-- The two limits of an approval. -/
def approvalCaps : Option ApprovalExpirySources → PolicyResult (Option (Int × Int))
  | none => .ok none
  | some sources => do
      let request ← expect (env.time.parseNanos sources.requestExpiresAt) rejectDeadline
      let approved ← expect (env.time.parseNanos sources.approvedUntil) rejectDeadline
      return some (request, approved)

def deriveDeadline (effectiveNow monotonicNow : Int) (approval : Option ApprovalExpirySources) :
    PolicyResult PreparedGrantDeadline := do
  rejectIf (effectiveNow < 0 || monotonicNow < 0) rejectDeadline
  let grantCap ← expect (Tasks.toI64 (effectiveNow + localArtifactGrantNanos)) rejectDeadline
  let caps ← approvalCaps env approval
  let expiry := caps.elim grantCap fun c => min (min grantCap c.1) c.2
  let expiresAt ← expect (env.time.formatNanos expiry) rejectDeadline
  let ttl ← expect ((Tasks.toI64 (expiry - effectiveNow)).filter (0 < ·)) rejectDeadline
  let deadline ← expect (Tasks.toI64 (monotonicNow + ttl)) rejectDeadline
  return ⟨expiresAt, expiry, caps.map Prod.fst, caps.map Prod.snd, expiry, deadline⟩

def prepareLocalArtifactDeadline (time : Tasks.ProtectedTimeContext)
    (approval : Option ApprovalExpirySources) : PolicyResult PreparedGrantDeadline :=
  deriveDeadline env time.effectiveUnixNanos time.monotonicNanos approval

/-! ## 2. The clock session -/

def assertManagerLease (store : PolicyStore) (lease : Tasks.Lease) : PolicyResult Unit :=
  rejectIf (store.lease ≠ some lease)
    (.invalidRecord "Task Manager write rejected by stale ownership fence")

/-- `advance_clock_session_in`. -/
def advanceClockSession (store : PolicyStore) (lease : Tasks.Lease) (time : Tasks.ProtectedTimeContext) :
    PolicyResult PolicyStore := do
  assertManagerLease store lease
  rejectIf ((store.clock.sessions.filter (Tasks.sessionBehind lease time)).length ≠ 1)
    (.invalidRecord "CLOCK_SESSION_INVALID")
  let sessions := store.clock.sessions.map fun row =>
    if Tasks.sessionBehind lease time row then row.advance time else row
  return { store with clock := { store.clock with sessions := sessions } }

/-! ## 3. Grants -/

/-- The finaliser works in one of two states; while the Task is planned, without any approval. -/
def finalizationStateAllows (facts : CandidateFacts) (evaluation : CandidatePolicyEvaluation) : Bool :=
  match facts.taskState with
  | .waitingForAuth => true
  | .planning => evaluation.decisions.all fun d => d.effect = .allow && d.approvalId.isNone
  | _ => false

/-- The stored decision, its request and its fingerprint are those of the resource. -/
def decisionExact (store : PolicyStore) (facts : CandidateFacts) (r : ResourceFacts)
    (d : CandidatePolicyDecision) (activation : ActivationRow) : Bool :=
  let c := facts.candidate
  (store.decisions.any fun row => row.decisionId = d.decisionId &&
    row.authorityRequestId = d.authorityRequestId && row.policySnapshotId = activation.contentHash &&
    row.decision = "ALLOW" && row.taskId = c.taskId && row.semanticProgramHash = c.semanticProgramHash &&
    row.nodeId = c.nodeId && row.principalKind = "provider" && row.principalId = c.providerId &&
    row.action = r.action && row.resourceKind = r.kind && row.resourceId = r.id &&
    row.approvalRequestId = d.approvalId) &&
  (store.requests.any fun q => q.requestId = d.authorityRequestId &&
    q.executionBindingId = some c.bindingId && q.attemptId = some c.attemptId &&
    q.semanticSelector = some r.selector && q.capability = c.capability) &&
  store.fingerprints.any fun e => e.decisionId = d.decisionId && e.candidateId = c.candidateId &&
    e.fingerprint = d.evaluationFingerprint && e.activationRevision = activation.revision

/-- An approval as the grant and its deadline name it. -/
structure ApprovalEvidence where
  approvalId : String
  expiresAt : String
  decisionId : String
  approvedUntil : String
  deriving DecidableEq

/-- The approval of the decision: given, not withdrawn, and for these facts under this revision. -/
def approvalEvidence (store : PolicyStore) (facts : CandidateFacts) (d : CandidatePolicyDecision)
    (revision : Nat) (now : Int) (id : String) : PolicyResult ApprovalEvidence := do
  let c := facts.candidate
  let a ← expect (store.approvals.find? fun a => a.approvalId = id && a.status = "APPROVED") reject
  rejectIf (!store.approvalBindings.any fun b => b.approvalId = id && b.revokedAt.isNone &&
    b.candidateId = c.candidateId && b.fingerprint = d.evaluationFingerprint &&
    b.activationRevision = revision) reject
  let ad ← expect (store.approvalDecisions.find? fun ad => ad.approvalId = id &&
    ad.decision = "APPROVE" && ad.taskId = c.taskId) reject
  let approvedUntil ← expect ad.approvedUntil (.storage "Invalid column type Null")
  rejectIf (ad.scope ≠ "ONE_SHOT") reject
  checkedApprovalDecision env store id "APPROVED" c.taskId facts.taskPrincipalId a.expiresAt now
  return ⟨id, a.expiresAt, ad.decisionId, approvedUntil⟩

def optionalApprovalEvidence (store : PolicyStore) (facts : CandidateFacts) (d : CandidatePolicyDecision)
    (revision : Nat) (now : Int) : Option String → PolicyResult (Option ApprovalEvidence)
  | none => .ok none
  | some id => do
      let e ← approvalEvidence env store facts d revision now id
      return some e

def grantIdentity (candidateId : String) (r : ResourceFacts) : String :=
  candidateId ++ "\x00" ++ r.action ++ "\x00" ++ r.selector

def grantId (candidateId : String) (r : ResourceFacts) : String :=
  "grant:" ++ env.hash "AIOS-CANDIDATE-GRANT\x00v1\x00" (grantIdentity candidateId r)

def tokenId (candidateId : String) (r : ResourceFacts) : String :=
  "token:" ++ env.hash "AIOS-CANDIDATE-TOKEN\x00v1\x00" (grantIdentity candidateId r)

def grantsValue (r : ResourceFacts) : Json := .arr [Json.ofFields [
  ("action", some (.str r.action)), ("resource_kind", some (.str r.kind)),
  ("resource_id", some (.str r.id)), ("semantic_selector", some (.str r.selector)),
  ("external_export", r.exportPin.map ExportPin.toJson)]]

/-- The grant of a resource; a use that was approved or that leaves the machine happens once. -/
def grantRow (facts : CandidateFacts) (r : ResourceFacts) (d : CandidatePolicyDecision)
    (snapshotId grantsJson : String) (now expiresAt : String) : GrantRow :=
  let c := facts.candidate
  let once := d.approvalId.isSome || r.exportPin.isSome
  { grantId := grantId env c.candidateId r
    tokenId := tokenId env c.candidateId r
    taskId := c.taskId
    semanticProgramHash := c.semanticProgramHash
    nodeId := c.nodeId
    capability := c.capability
    principalKind := "provider"
    principalId := c.providerId
    executionBindingId := c.bindingId
    attemptId := c.attemptId
    policyDecisionId := d.decisionId
    policySnapshotId := snapshotId
    approvalId := d.approvalId
    grantsJson := grantsJson
    scope := if once then "ONE_SHOT" else "TASK"
    maxUses := if once then some 1 else none
    usesConsumed := 0
    state := .active
    delegable := false
    maxDelegationDepth := 0
    issuedAt := now
    expiresAt := expiresAt }

def GrantRow.issuance (g : GrantRow) : Tasks.IssuanceRow :=
  ⟨g.grantId, g.tokenId, g.taskId, g.executionBindingId, g.attemptId, g.policyDecisionId, g.issuedAt,
    Tasks.coordinatorProfile⟩

def GrantRow.deadline (g : GrantRow) (prepared : PreparedGrantDeadline)
    (approval : Option ApprovalEvidence) (lease : Tasks.Lease) (time : Tasks.ProtectedTimeContext) :
    Tasks.DeadlineRow where
  grantId := g.grantId
  tokenId := g.tokenId
  taskId := g.taskId
  executionBindingId := g.executionBindingId
  attemptId := g.attemptId
  policyDecisionId := g.policyDecisionId
  issuedAt := g.issuedAt
  grantExpiresAt := prepared.grantExpiresAt
  grantExpiryUnixNanos := prepared.grantExpiryUnixNanos
  approvalId := approval.map ApprovalEvidence.approvalId
  approvalRequestExpiresAt := approval.map ApprovalEvidence.expiresAt
  approvalRequestExpiryUnixNanos := prepared.approvalRequestExpiryUnixNanos
  approvalDecisionId := approval.map ApprovalEvidence.decisionId
  approvedUntil := approval.map ApprovalEvidence.approvedUntil
  approvedUntilUnixNanos := prepared.approvedUntilUnixNanos
  sessionId := lease.ownerId
  ownerId := lease.ownerId
  ownerEpoch := lease.fenceEpoch
  issuedStateRevision := time.stateRevision
  issuedMonotonicNanos := time.monotonicNanos
  deadlineMonotonicNanos := prepared.deadlineMonotonicNanos
  issuedObservedUnixNanos := time.observedUnixNanos
  issuedEffectiveUnixNanos := time.effectiveUnixNanos
  effectiveExpiryUnixNanos := prepared.effectiveExpiryUnixNanos

/-- The keys of the grant are free, and its deadline stands under the time and the session at hand. -/
def grantInsertable (store : PolicyStore) (g : GrantRow) (lease : Tasks.Lease)
    (time : Tasks.ProtectedTimeContext) : Bool :=
  (store.grants.all fun x => x.grantId ≠ g.grantId && x.tokenId ≠ g.tokenId) &&
  (store.issuances.all fun x => x.grantId ≠ g.grantId) &&
  (store.deadlines.all fun x => x.grantId ≠ g.grantId && x.tokenId ≠ g.tokenId) &&
  (store.clock.sessions.any fun c => c.sessionId = lease.ownerId && c.ownerId = lease.ownerId &&
    c.ownerEpoch = lease.fenceEpoch && c.highWaterMonotonicNanos = time.monotonicNanos &&
    c.highWaterStateRevision = time.stateRevision) &&
  Tasks.currentObservation store.clock time

variable (facts : CandidateFacts) (evaluation : CandidatePolicyEvaluation) (activation : ActivationRow)
  (time : Tasks.ProtectedTimeContext) (lease : Tasks.Lease)

/-- The grant of one resource with its receipt and its deadline. -/
def issueGrant (store : PolicyStore) (r : ResourceFacts) : PolicyResult (PolicyStore × String) :=
  match evaluation.decisions.filter fun d => d.action = r.action && d.semanticSelector = r.selector with
  | [d] => do
      rejectIf (!decisionExact store facts r d activation) reject
      let now ← checkedTime env time.now
      let approval ← optionalApprovalEvidence env store facts d activation.revision now d.approvalId
      let prepared ← prepareLocalArtifactDeadline env time
        (approval.map fun e => ⟨e.expiresAt, e.approvedUntil⟩)
      let grantsJson ← env.canonicalJson (grantsValue r)
      let g := grantRow env facts r d activation.contentHash grantsJson time.now prepared.grantExpiresAt
      rejectIf (!grantInsertable store g lease time) (.storage "authority grant cannot be inserted")
      return ({ store with
        grants := store.grants ++ [g]
        issuances := store.issuances ++ [g.issuance]
        deadlines := store.deadlines ++ [g.deadline prepared approval lease time] }, g.grantId)
  | _ => .error reject

def issueGrants : PolicyStore → List ResourceFacts → PolicyResult (PolicyStore × List String)
  | store, [] => .ok (store, [])
  | store, r :: rest => do
      let (store, id) ← issueGrant env facts evaluation activation time lease store r
      let (store, ids) ← issueGrants store rest
      return (store, id :: ids)

end Issue

/-- The finaliser may work on these facts. -/
def finalizable (outside : Outside) (facts : CandidateFacts) (evaluation : CandidatePolicyEvaluation) :
    PolicyResult Unit := do
  rejectIf (!finalizationStateAllows facts evaluation) reject
  if facts.taskState = .planning then requireTrue (outside.candidatePlanCoherent facts) reject
  else return ()

def issueCandidateGrantsIn (env : PolicyEnv) (outside : Outside) (store : PolicyStore) (candidateId : String)
    (evaluation : CandidatePolicyEvaluation) (time : Tasks.ProtectedTimeContext) (lease : Tasks.Lease) :
    PolicyResult (PolicyStore × List String) := do
  assertManagerLease store lease
  let now ← checkedTime env time.now
  let facts ← CandidateFacts.load env store candidateId now
  finalizable outside facts evaluation
  rejectIf (evaluation.decisions.length ≠ facts.resources.length || evaluation.decisions.isEmpty ||
    evaluation.decisions.any fun d => d.effect ≠ .allow) reject
  let activation ← expect (latestActivation store.activations) (.storage "Query returned no rows")
  rejectIf (activation.revision ≠ evaluation.activationRevision) reject
  let store ← advanceClockSession store lease time
  issueGrants env facts evaluation activation time lease store facts.resources

/-! ## 4. The binding -/

/-- A resource as the binding wires it. -/
structure BindingResource where
  action : String
  selector : String
  kind : String
  id : String
  port : Option String
  semanticType : String
  deriving DecidableEq

def ResourceRow.bindingResource (r : ResourceRow) : BindingResource :=
  ⟨r.action, r.semanticSelector, r.resourceKind, r.resourceId, r.outputPort, r.expectedSemanticType⟩

def ExportPin.bindingResource (pin : ExportPin) : BindingResource :=
  ⟨"data.egress", pin.selector, "external-destination", pin.serviceId, none, "external.export@1"⟩

/-- The reserved resources by action and selector, and the export behind them. -/
def bindingResources (store : PolicyStore) (candidateId : String) (pin : Option ExportPin) :
    List BindingResource :=
  (store.loadView.resourcesOf candidateId).map ResourceRow.bindingResource ++
    (pin.map ExportPin.bindingResource).toList

/-- The request a decision was made for is one of the candidate. -/
def requestOfCandidate (c : ReservationRow) (q : RequestRow) : Bool :=
  q.taskId = c.taskId && q.semanticProgramHash = c.semanticProgramHash &&
    q.registrySnapshotId = c.registrySnapshotId && q.nodeId = c.nodeId &&
    q.executionBindingId = some c.bindingId && q.attemptId = some c.attemptId &&
    q.capability = c.capability && q.principalKind = "provider" && q.principalId = c.providerId

def decisionOfRequest (d : DecisionRow) (q : RequestRow) : Bool :=
  d.taskId = q.taskId && d.semanticProgramHash = q.semanticProgramHash && d.nodeId = q.nodeId &&
    d.action = q.action && d.resourceKind = q.resourceKind && d.resourceId = q.resourceId &&
    d.principalKind = q.principalKind && d.principalId = q.principalId

/-- The action and selector an allowing decision of the candidate is for. -/
def decisionKey (store : PolicyStore) (c : ReservationRow) (resources : List BindingResource)
    (decisionId : String) : Option (String × String) := do
  let d ← store.decisions.find? fun d => d.decisionId = decisionId && d.decision = "ALLOW"
  let q ← store.requests.find? fun q => q.requestId = d.authorityRequestId
  guard (requestOfCandidate c q && decisionOfRequest d q &&
    resources.any fun r => r.action = q.action && some r.selector = q.semanticSelector &&
      r.kind = q.resourceKind && r.id = q.resourceId)
  let selector ← q.semanticSelector
  return (q.action, selector)

/-- The decision of an unused grant of the candidate. -/
def grantDecision (store : PolicyStore) (c : ReservationRow) (grantId : String) : Option String := do
  let g ← store.grants.find? fun g => g.grantId = grantId && g.taskId = c.taskId &&
    g.semanticProgramHash = c.semanticProgramHash && g.nodeId = c.nodeId && g.capability = c.capability &&
    g.principalKind = "provider" && g.principalId = c.providerId && g.executionBindingId = c.bindingId &&
    g.attemptId = c.attemptId && g.state = .active && g.usesConsumed = 0 && !g.delegable &&
    g.maxDelegationDepth = 0
  guard (store.issuances.any fun i => i = g.issuance)
  return g.policyDecisionId

def sameSet {α : Type} [DecidableEq α] (l r : List α) : Bool :=
  l.all (r.contains ·) && r.all (l.contains ·)

section Binding

variable (env : PolicyEnv)

/-- The artifact an input of the node is wired to. -/
def boundInput (program : Json) (resources : List BindingResource) (wiring : String × Json) :
    PolicyResult String := do
  rejectIf (Tasks.textAt wiring.2 ["source"] ≠ some "input") rejectCandidate
  let name ← expect (Tasks.textAt wiring.2 ["name"]) rejectCandidate
  let r ← expect (resources.find? fun r => r.action = "artifact.read" && r.selector = "input:" ++ name &&
    r.kind = "artifact" && r.port.isNone) rejectCandidate
  let type ← expect ((env.jsonPointer program ("/inputs/" ++ name ++ "/type")).bind Json.asStr)
    rejectCandidate
  rejectIf (r.semanticType ≠ type) rejectCandidate
  return r.id

/-- The allocation an output of the node is wired to. -/
def boundOutput (resources : List BindingResource) (port : String × Json) : PolicyResult String := do
  let r ← expect (resources.find? fun r => r.action = "artifact.write" && r.kind = "output-allocation" &&
    r.port = some port.1) rejectCandidate
  rejectIf (port.2.asStr ≠ some r.semanticType) rejectCandidate
  return r.id

/-- The inputs of the node, port by port, in a node that is for the capability and whose ports are the
    reserved resources. -/
def boundInputs (c : ReservationRow) (p : ProgramRow) (resources : List BindingResource) :
    PolicyResult (List String) := do
  let program ← expect (env.parseJson p.programJson) rejectCandidate
  let node ← expect (Tasks.programNode program c.nodeId) rejectCandidate
  rejectIf (Tasks.textAt node ["operation", "capability"] ≠ some c.capability) rejectCandidate
  let nodeInputs ← expect ((node.get? "inputs").bind Json.asObj) rejectCandidate
  let inputs ← nodeInputs.mapM (boundInput env program resources)
  let nodeOutputs ← expect ((node.get? "outputs").bind Json.asObj) rejectCandidate
  let outputs ← nodeOutputs.mapM (boundOutput resources)
  rejectIf ((resources.filter fun r => r.kind = "artifact").length ≠ inputs.length ||
    (resources.filter fun r => r.kind = "output-allocation").length ≠ outputs.length) rejectCandidate
  return inputs

def bindingRow (c : ReservationRow) (decisions grants inputs : List String) (createdAt : String) :
    BindingRow where
  bindingId := c.bindingId
  attemptId := c.attemptId
  taskId := c.taskId
  semanticProgramHash := c.semanticProgramHash
  registrySnapshotId := c.registrySnapshotId
  irVersion := c.irVersion
  nodeId := c.nodeId
  capability := c.capability
  capabilityContractHash := some c.capabilityContractHash
  providerRegistrationId := some c.providerRegistrationId
  providerId := c.providerId
  providerVersion := c.providerVersion
  providerManifestHash := some c.providerManifestHash
  providerBuildHash := some c.providerBuildHash
  attempt := c.attemptNumber
  policyDecisionRefs := decisions
  grantRefs := grants
  executionProfileRef := c.executionProfileRef
  placementLocality := some c.placementLocality
  conformanceEvidenceId := some c.conformanceEvidenceId
  providerTrustSourceId := some c.providerTrustSourceId
  inputRefs := inputs
  createdAt := createdAt

/-- No binding has the identity, the attempt or the attempt number yet. -/
def bindingInsertable (store : PolicyStore) (b : BindingRow) : Bool :=
  store.bindings.all fun x => x.bindingId ≠ b.bindingId && x.attemptId ≠ b.attemptId &&
    !(x.taskId = b.taskId && x.semanticProgramHash = b.semanticProgramHash && x.nodeId = b.nodeId &&
      x.attempt = b.attempt)

def insertReservedBindingIn (store : PolicyStore) (candidateId : String) (decisions grants : List String)
    (createdAt : String) : PolicyResult PolicyStore := do
  rejectIf (!validId candidateId || decisions.isEmpty || 32 < decisions.length ||
    decisions.length ≠ grants.length || !decide decisions.Nodup || !decide grants.Nodup ||
    !decisions.all validId || !grants.all validId) rejectCandidate
  let created ← expect (env.time.rfc3339 createdAt) rejectCandidate
  let view := store.loadView
  let c ← expect (view.reservation? candidateId) rejectCandidate
  rejectIf (view.state? candidateId ≠ some .pending) rejectCandidate
  let t ← expect (view.world.task? c.taskId) rejectCandidate
  let p ← expect (activeProgram view.world t c) rejectCandidate
  let pin ← loadCurrentExportPin env view t candidateId
  let reserved ← expect (env.time.rfc3339 c.createdAt) rejectCandidate
  rejectIf (c.resourceCount + pin.toList.length ≠ decisions.length || created < reserved ||
    c.placementLocality ≠ "local") rejectCandidate
  let resources := bindingResources store candidateId pin
  let expected : List (String × String) := resources.map fun r => (r.action, r.selector)
  rejectIf (resources.length ≠ decisions.length || !decide expected.Nodup) rejectCandidate
  let keys ← decisions.mapM fun id => expect (decisionKey store c resources id) rejectCandidate
  rejectIf (!decide keys.Nodup || !sameSet keys expected) rejectCandidate
  let covered ← grants.mapM fun id => expect (grantDecision store c id) rejectCandidate
  rejectIf (!decide covered.Nodup || !covered.all (decisions.contains ·)) rejectCandidate
  let inputs ← boundInputs env c p resources
  let b := bindingRow c decisions grants inputs createdAt
  rejectIf (!bindingInsertable store b) (.storage "UNIQUE constraint failed: execution_bindings")
  return { store with bindings := store.bindings ++ [b] }

end Binding

/-! ## 5. The step -/

/-- The input artifacts that were reserved, by selector. -/
def reservedInputs (store : PolicyStore) (candidateId : String) : List String :=
  (sortOn ResourceRow.semanticSelector (store.resources.filter fun r => r.candidateId = candidateId &&
    r.action = "artifact.read" && r.resourceKind = "artifact")).map ResourceRow.resourceId

/-- The reserved inputs, where they are the inputs of the receipt, each of them once. -/
def exactReservedStepInputs (store : PolicyStore) (candidateId : String) (b : BindingRow) :
    PolicyResult (List String) := do
  let inputs := reservedInputs store candidateId
  rejectIf (!decide inputs.Nodup || !decide b.inputRefs.Nodup || !sameSet b.inputRefs inputs)
    rejectCandidate
  return inputs

def stepRequestInvalid : PolicyError := .invalidRecord "step execution does not satisfy the v0.1 contract"

def within (value : String) (maximum : Nat) : Bool := !value.isEmpty && value.length ≤ maximum

def validateCreateStepExecutionRequest (row : StepRow) : PolicyResult Unit :=
  let inputs := row.inputArtifacts.getD []
  rejectIf (!within row.attemptId 256 || !within row.taskId 256 || !within row.nodeId 128 ||
    row.attemptNumber = 0 || 100 < row.attemptNumber || !validHash row.semanticProgramHash ||
    row.state = .starting || row.state = .running ||
    !(row.registrySnapshotId.all (within · 256)) || !(row.bindingId.all (within · 256)) ||
    !(row.providerId.all (within · 256)) || !(row.providerVersion.all (within · 128)) ||
    256 < inputs.length || !decide inputs.Nodup || inputs.any fun id => 512 < id.length)
    stepRequestInvalid

/-- The binding the step names is its own. -/
def stepBindingExact (store : PolicyStore) (row : StepRow) : Bool :=
  row.bindingId.all fun id => store.bindings.any fun b => b.bindingId = id && b.attemptId = row.attemptId &&
    b.taskId = row.taskId && b.semanticProgramHash = row.semanticProgramHash &&
    row.registrySnapshotId = some b.registrySnapshotId && b.nodeId = row.nodeId &&
    row.providerId = some b.providerId && row.providerVersion = some b.providerVersion &&
    b.attempt = row.attemptNumber

def createStepExecutionIn (store : PolicyStore) (row : StepRow) : PolicyResult PolicyStore := do
  validateCreateStepExecutionRequest row
  rejectIf (store.steps.any fun s => s.taskId = row.taskId &&
    s.semanticProgramHash = row.semanticProgramHash && s.nodeId = row.nodeId &&
    s.attemptNumber = row.attemptNumber) (.invalidRecord "step attempt tuple already exists")
  rejectIf (!stepBindingExact store row)
    (.invalidRecord "step execution binding tuple does not match its immutable receipt")
  rejectIf (store.steps.any fun s => s.attemptId = row.attemptId)
    (.storage "UNIQUE constraint failed: step_executions")
  return { store with steps := store.steps ++ [row] }

def readyStep (c : ReservationRow) (inputs : List String) (createdAt : String) : StepRow where
  attemptId := c.attemptId
  taskId := c.taskId
  semanticProgramHash := c.semanticProgramHash
  registrySnapshotId := some c.registrySnapshotId
  nodeId := c.nodeId
  bindingId := some c.bindingId
  providerId := some c.providerId
  providerVersion := some c.providerVersion
  attemptNumber := c.attemptNumber
  revision := 1
  state := .ready
  inputArtifacts := some inputs
  createdAt := createdAt

def insertReservedReadyStepIn (store : PolicyStore) (candidateId createdAt : String) :
    PolicyResult PolicyStore := do
  let view := store.loadView
  let c ← expect (view.reservation? candidateId) rejectCandidate
  rejectIf (view.state? candidateId ≠ some .pending) rejectCandidate
  let b ← expect (store.bindings.find? fun b => b.bindingId = c.bindingId && b.attemptId = c.attemptId)
    rejectCandidate
  let inputs ← exactReservedStepInputs store candidateId b
  createStepExecutionIn store (readyStep c inputs createdAt)

/-! ## 6. The outputs -/

structure OutputAllocationRequest where
  allocationId : String
  taskId : String
  semanticProgramHash : String
  nodeId : String
  bindingId : Option String
  attemptId : Option String
  outputPort : Option String
  expectedSemanticType : Option String
  allowedMediaTypes : List String
  maxSizeBytes : Option Nat
  sensitivity : Sensitivity
  retention : RetentionClass
  expiresAt : String
  deriving DecidableEq

def allocationInvalid : PolicyError := .invalidRecord "invalid Artifact output allocation"

def notATimestamp : PolicyError := .invalidRecord "Artifact timestamp is not RFC 3339"

/-- A name, an at sign and a major version. -/
def semanticTypeValid (value : String) : Bool :=
  let chars := value.toList
  let name := chars.takeWhile (· ≠ '@')
  let version := (chars.dropWhile (· ≠ '@')).drop 1
  value.isEmpty || (chars.contains '@' && chars.length ≤ 256 && name.head?.any Char.isLower &&
    (name.all fun c => c.isLower || c.isDigit || c = '_' || c = '.' || c = '-') && !version.isEmpty &&
    version.all Char.isDigit && (version = ['0'] || version.head? ≠ some '0'))

/-- A text without control characters, of a bounded length. -/
def idValid (value : String) (maximum : Nat) : Bool :=
  within value maximum && !value.toList.any isControl

def validateAllocationRequestShape (request : OutputAllocationRequest) : PolicyResult Unit := do
  rejectIf (32 < request.allowedMediaTypes.length || !decide request.allowedMediaTypes.Nodup ||
    !(request.allowedMediaTypes.all (within · 160)) ||
    !(request.outputPort.all fun port => port.length ≤ 128) || !(request.bindingId.all (within · 256)) ||
    !(request.attemptId.all (within · 256)) || request.bindingId.isSome ≠ request.attemptId.isSome)
    allocationInvalid
  rejectIf (!idValid request.allocationId 256) (.invalidRecord "invalid Artifact allocation ID")
  rejectIf (!idValid request.taskId 256) (.invalidRecord "invalid Artifact allocation Task")
  rejectIf (!idValid request.nodeId 128) (.invalidRecord "invalid Artifact allocation node")
  rejectIf (!validHash request.semanticProgramHash) (.invalidRecord "invalid canonical SHA-256 hash")
  rejectIf (!request.expectedSemanticType.all semanticTypeValid)
    (.invalidRecord "invalid Artifact semantic type")

def validateAllocationRequestExpiry (env : PolicyEnv) (request : OutputAllocationRequest) (now : String) :
    PolicyResult Unit := do
  let expires ← expect (env.time.rfc3339 request.expiresAt) notATimestamp
  let now ← expect (env.time.rfc3339 now) notATimestamp
  rejectIf (expires ≤ now) allocationInvalid

/-- The labels a stored artifact passes on. -/
def artifactLabels (world : World) (artifactId : String) : PolicyResult (Sensitivity × RetentionClass) := do
  let a ← expect (world.artifact? artifactId) artifactDenied
  let retention ← expect a.retentionClass (.storage "Invalid column type Null")
  let s ← expect (Sensitivity.parse a.sensitivity) (.storage "unknown variant")
  let t ← expect (RetentionClass.parse retention) (.storage "unknown variant")
  return (s, t)

/-- The labels an output inherits from the inputs of its attempt. -/
def inheritedLabels (labels : List (Sensitivity × RetentionClass)) : Sensitivity × RetentionClass :=
  (inherit Sensitivity.propagationRank .privateData (labels.map Prod.fst),
    inherit RetentionClass.propagationRank .task (labels.map Prod.snd))

/-- The step an allocation is bound to. -/
def boundStep (store : PolicyStore) (request : OutputAllocationRequest) (bindingId attemptId : String) :
    Option StepRow :=
  store.steps.find? fun s => s.attemptId = attemptId && s.taskId = request.taskId &&
    s.semanticProgramHash = request.semanticProgramHash && s.nodeId = request.nodeId &&
    s.bindingId = some bindingId

def validateBoundOutputPolicy (store : PolicyStore) (request : OutputAllocationRequest) :
    PolicyResult Unit :=
  match request.bindingId, request.attemptId with
  | some bindingId, some attemptId => do
      let step ← expect (boundStep store request bindingId attemptId) artifactDenied
      let labels ← (step.inputArtifacts.getD []).mapM (artifactLabels store.world)
      rejectIf ((request.sensitivity, request.retention) ≠ inheritedLabels labels) artifactDenied
  | _, _ => .ok ()

def allocationRow (request : OutputAllocationRequest) (createdAt : String) : AllocationRow :=
  ⟨request.allocationId, request.taskId, request.semanticProgramHash, request.nodeId, request.bindingId,
    request.attemptId, request.outputPort, request.expectedSemanticType, request.maxSizeBytes,
    request.sensitivity.asStr, request.retention.asStr, .allocated, createdAt, request.expiresAt⟩

def insertAllocationRow (store : PolicyStore) (request : OutputAllocationRequest) (createdAt : String) :
    PolicyResult PolicyStore := do
  rejectIf (store.allocations.any fun a => a.allocationId = request.allocationId)
    (.storage "UNIQUE constraint failed: artifact_output_allocations")
  return { store with allocations := store.allocations ++ [allocationRow request createdAt] }

/-- The reserved output the request is for. -/
def reservedOutput (store : PolicyStore) (c : ReservationRow) (request : OutputAllocationRequest) : Bool :=
  c.taskId = request.taskId && c.semanticProgramHash = request.semanticProgramHash &&
    c.nodeId = request.nodeId && some c.bindingId = request.bindingId &&
    some c.attemptId = request.attemptId &&
    store.resources.any fun r => r.candidateId = c.candidateId && r.resourceKind = "output-allocation" &&
      r.action = "artifact.write" && r.semanticSelector = "task.output" &&
      r.resourceId = request.allocationId && r.outputPort = request.outputPort &&
      some r.expectedSemanticType = request.expectedSemanticType

/-- A reserved input is still a verified input of the Task, of its type. -/
def inputCurrent (world : World) (taskId : String) (r : ResourceRow) : Bool :=
  (world.taskArtifacts.any fun ta => ta.taskId = taskId && ta.role = "input" &&
    ta.artifactId = r.resourceId) &&
  (world.artifact? r.resourceId).any fun a => a.semanticType = some r.expectedSemanticType &&
    a.integrityState = "verified"

def allocateReservedCandidateOutputIn (env : PolicyEnv) (outside : Outside) (store : PolicyStore)
    (facts : CandidateFacts) (request : OutputAllocationRequest) (time : Tasks.ProtectedTimeContext)
    (lease : Tasks.Lease) : PolicyResult PolicyStore := do
  let candidateId := facts.candidate.candidateId
  validateAllocationRequestShape request
  validateAllocationRequestExpiry env request time.now
  assertManagerLease store lease
  let view := store.loadView
  let c ← expect (view.reservation? candidateId) artifactDenied
  rejectIf (view.state? candidateId ≠ some .pending || !reservedOutput store c request) artifactDenied
  let step ← expect (store.steps.find? fun s => s.attemptId = c.attemptId && s.bindingId = some c.bindingId)
    artifactDenied
  let inputs ← expect step.inputArtifacts artifactDenied
  let reserved := store.resources.filter fun r => r.candidateId = candidateId &&
    r.resourceKind = "artifact" && r.action = "artifact.read"
  let ids := reserved.map ResourceRow.resourceId
  rejectIf (step.state ≠ .ready || !decide inputs.Nodup || !decide ids.Nodup || !sameSet inputs ids)
    artifactDenied
  rejectIf (!reserved.all (inputCurrent store.world request.taskId)) artifactDenied
  requireTrue (outside.outputAdmitted store facts request.allocationId) artifactDenied
  validateBoundOutputPolicy store request
  insertAllocationRow store request time.now

end Aios.Policy
