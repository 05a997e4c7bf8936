/-
  File:      Aios/Policy/Finalize.lean
  Subject:   THE FINALISER of a candidate, and its replay after a lost response.

  The finaliser evaluates the candidate once more, issues its grants, writes binding, step and outputs
  and moves the status, in one transaction. The replay builds the result again from the stored rows.
-/
import Aios.Policy.Issue

namespace Aios.Policy

open Lib Provenance Artifacts

/-! ## 1. Events -/

def grantEventId (env : PolicyEnv) (grantId : String) : String :=
  "event:" ++ env.hash "AIOS-AUTHORIZATION-GRANTED\x00v1\x00" grantId

def grantEvent (env : PolicyEnv) (facts : CandidateFacts) (r : ResourceFacts) (d : CandidatePolicyDecision)
    (g : GrantRow) (now : String) : Json :=
  let c := facts.candidate
  object [
    ("schema_version", .str "0.1"), ("event_id", .str (grantEventId env g.grantId)),
    ("task_id", .str c.taskId), ("event_type", .str "authorization.granted"), ("timestamp", .str now),
    ("actor", object [("kind", .str "policy-engine"), ("id", .str "aiosd.policy")]),
    ("status", .str "success"), ("semantic_program_hash", .str c.semanticProgramHash),
    ("registry_snapshot_id", .str c.registrySnapshotId), ("execution_binding_id", .str c.bindingId),
    ("provider_id", .str c.providerId), ("provider_version", .str c.providerVersion),
    ("capability", .str c.capability), ("capability_contract_hash", .str c.capabilityContractHash),
    ("authority_token_id", .str g.tokenId), ("policy_decision_id", .str d.decisionId),
    ("approval_id", textOrNull d.approvalId),
    ("details", object [("actions", .arr [.str r.action]),
      ("resource", .str (env.hash "AIOS-PROVENANCE-RESOURCE\x00v1\x00" r.id))])]

section Finalize

variable (env : PolicyEnv) (outside : Outside)

/-- The event of one grant; the journal holds every identity once. -/
def appendGrantEvent (facts : CandidateFacts) (now : String) (store : PolicyStore)
    (entry : ResourceFacts × CandidatePolicyDecision × String) : PolicyResult PolicyStore := do
  let (r, d, id) := entry
  rejectIf (r.action ≠ d.action || r.selector ≠ d.semanticSelector) reject
  let g ← expect (store.grants.find? fun g => g.grantId = id) (.storage "Query returned no rows")
  let event := grantEvent env facts r d g now
  outside.eventAccepted store event
  rejectIf (store.events.any fun e => e.eventId = grantEventId env g.grantId)
    (.storage "UNIQUE constraint failed: provenance_events")
  return { store with events := store.events ++
    [⟨grantEventId env g.grantId, facts.candidate.taskId, "authorization.granted", event⟩] }

def appendCandidateGrantEventsIn (store : PolicyStore) (facts : CandidateFacts)
    (evaluation : CandidatePolicyEvaluation) (grants : List String) (now : String) :
    PolicyResult PolicyStore := do
  rejectIf (facts.resources.length ≠ grants.length || grants.length ≠ evaluation.decisions.length) reject
  (facts.resources.zip (evaluation.decisions.zip grants)).foldlM (appendGrantEvent env outside facts now)
    store

/-! ## 2. The finaliser -/

structure FinalizedAuthorityCandidate where
  candidateId : String
  bindingId : String
  attemptId : String
  grantIds : List String
  allocationIds : List String
  deriving DecidableEq

/-- The request for an output of the candidate. -/
def outputRequest (facts : CandidateFacts) (r : ResourceFacts) (g : GrantRow) :
    PolicyResult OutputAllocationRequest := do
  let c := facts.candidate
  let sensitivity ← expect (Sensitivity.parse r.sensitivity) (.storage "unknown variant")
  let text ← expect r.retention reject
  let retention ← expect (RetentionClass.parse text) (.storage "unknown variant")
  return {
    allocationId := r.id
    taskId := c.taskId
    semanticProgramHash := c.semanticProgramHash
    nodeId := c.nodeId
    bindingId := some c.bindingId
    attemptId := some c.attemptId
    outputPort := r.outputPort
    expectedSemanticType := some r.semanticType
    allowedMediaTypes := []
    maxSizeBytes := some (8 * 1024 * 1024)
    sensitivity := sensitivity
    retention := retention
    expiresAt := g.expiresAt }

variable (backend : LocalPolicyBackend) (time : Tasks.ProtectedTimeContext) (lease : Tasks.Lease)

/-- The outputs of the candidate, each with the grant to write it. -/
def allocateOutputs (facts : CandidateFacts) : PolicyStore → List (ResourceFacts × String) →
    PolicyResult (PolicyStore × List String)
  | store, [] => .ok (store, [])
  | store, (r, id) :: rest =>
      if r.action = "artifact.write" then do
        let g ← expect (store.grants.find? fun g => g.grantId = id) (.storage "Query returned no rows")
        let request ← outputRequest facts r g
        let store ← allocateReservedCandidateOutputIn env outside store facts request time lease
        let (store, ids) ← allocateOutputs facts store rest
        return (store, r.id :: ids)
      else allocateOutputs facts store rest

/-- The status of a candidate that nothing has moved yet. -/
def StatusRow.isPending (candidateId : String) (s : StatusRow) : Bool :=
  s.candidateId = candidateId && s.state = .pending && s.revision = 1

def StatusRow.finalized (s : StatusRow) : StatusRow :=
  { s with state := .finalized, revision := s.revision + 1 }

/-- The pending status becomes final, once. -/
def markFinalized (store : PolicyStore) (candidateId : String) : PolicyResult PolicyStore := do
  rejectIf ((store.statuses.filter (StatusRow.isPending candidateId)).length ≠ 1) reject
  return { store with
    statuses := store.statuses.map fun s => if s.isPending candidateId then s.finalized else s }

/-- The transaction of the finaliser. -/
def finalizeCandidateIn (store : PolicyStore) (candidateId : String) :
    PolicyResult (PolicyStore × FinalizedAuthorityCandidate) := do
  assertManagerLease store lease
  let now ← checkedTime env time.now
  let facts ← CandidateFacts.load env store candidateId now
  let (store, evaluation) ← evaluatePendingAuthorityCandidateIn env outside backend store candidateId time.now
  finalizable outside facts evaluation
  let (store, grants) ← issueCandidateGrantsIn env outside store candidateId evaluation time lease
  rejectIf (grants.length ≠ facts.resources.length) reject
  let store ← insertReservedBindingIn env store candidateId
    (evaluation.decisions.map CandidatePolicyDecision.decisionId) grants time.now
  let store ← insertReservedReadyStepIn store candidateId time.now
  let (store, allocations) ← allocateOutputs env outside time lease facts store (facts.resources.zip grants)
  rejectIf allocations.isEmpty reject
  let store ← appendCandidateGrantEventsIn env outside store facts evaluation grants time.now
  let store ← markFinalized store candidateId
  return (store, ⟨candidateId, facts.candidate.bindingId, facts.candidate.attemptId, grants, allocations⟩)

/-! ## 3. The replay -/

/-- The binding and the step of the reservation. -/
def bindingOf (c : ReservationRow) (b : BindingRow) : Bool :=
  b.bindingId = c.bindingId && b.attemptId = c.attemptId && b.taskId = c.taskId &&
    b.semanticProgramHash = c.semanticProgramHash && b.registrySnapshotId = c.registrySnapshotId &&
    b.nodeId = c.nodeId && b.providerId = c.providerId && b.providerVersion = c.providerVersion &&
    b.attempt = c.attemptNumber

@[inherit_doc bindingOf]
def stepOf (c : ReservationRow) (s : StepRow) : Bool :=
  s.attemptId = c.attemptId && s.bindingId = some c.bindingId && s.taskId = c.taskId &&
    s.semanticProgramHash = c.semanticProgramHash && s.registrySnapshotId = some c.registrySnapshotId &&
    s.nodeId = c.nodeId && s.providerId = some c.providerId &&
    s.providerVersion = some c.providerVersion && s.attemptNumber = c.attemptNumber

/-- The receipt and the deadline of the grant. -/
def issuedWith (store : PolicyStore) (g : GrantRow) : Bool :=
  (store.issuances.any fun i => i.grantId = g.grantId && i.tokenId = g.tokenId && i.taskId = g.taskId &&
    i.executionBindingId = g.executionBindingId && i.attemptId = g.attemptId &&
    i.policyDecisionId = g.policyDecisionId && i.issuedAt = g.issuedAt) &&
  store.deadlines.any fun d => d.grantId = g.grantId && d.tokenId = g.tokenId && d.taskId = g.taskId &&
    d.executionBindingId = g.executionBindingId && d.attemptId = g.attemptId &&
    d.policyDecisionId = g.policyDecisionId && d.issuedAt = g.issuedAt && d.grantExpiresAt = g.expiresAt

/-- The decision the grant rests on, and its request. -/
def decidedFor (store : PolicyStore) (r : BindingResource) (decisionId : String) : Bool :=
  store.decisions.any fun d => d.decisionId = decisionId && d.decision = "ALLOW" && d.action = r.action &&
    d.resourceKind = r.kind && d.resourceId = r.id &&
    store.requests.any fun q => q.requestId = d.authorityRequestId && q.semanticSelector = some r.selector

/-- Everything that was written for one grant is there. -/
def grantComplete (store : PolicyStore) (c : ReservationRow) (r : BindingResource)
    (grantId decisionId : String) : Bool :=
  (store.grants.any fun g => g.grantId = grantId && g.policyDecisionId = decisionId &&
    g.taskId = c.taskId && g.semanticProgramHash = c.semanticProgramHash && g.nodeId = c.nodeId &&
    g.principalId = c.providerId && g.executionBindingId = c.bindingId && g.attemptId = c.attemptId &&
    issuedWith store g) &&
  decidedFor store r decisionId &&
  store.events.any fun e => e.eventId = grantEventId env grantId && e.taskId = c.taskId &&
    e.eventType = "authorization.granted"

def BindingResource.isOutput (r : BindingResource) : Bool :=
  r.action = "artifact.write" && r.kind = "output-allocation"

def allocationOf (store : PolicyStore) (c : ReservationRow) (r : BindingResource) : Bool :=
  store.allocations.any fun a => a.allocationId = r.id && a.taskId = c.taskId &&
    a.semanticProgramHash = c.semanticProgramHash && a.nodeId = c.nodeId &&
    a.bindingId = some c.bindingId && a.attemptId = some c.attemptId && a.outputPort = r.port &&
    a.expectedSemanticType = some r.semanticType

/-- The result of a finalised candidate, built again from its rows. -/
def replayRows (store : PolicyStore) (candidateId : String) : PolicyResult FinalizedAuthorityCandidate := do
  let c ← expect (store.loadView.reservation? candidateId) reject
  let b ← expect (store.bindings.find? (bindingOf c)) reject
  rejectIf (!store.steps.any (stepOf c)) reject
  let pin := store.loadView.exportPin? candidateId
  rejectIf (b.grantRefs.isEmpty || b.grantRefs.length ≠ b.policyDecisionRefs.length ||
    b.grantRefs.length ≠ c.resourceCount + pin.toList.length || !decide b.grantRefs.Nodup ||
    !decide b.policyDecisionRefs.Nodup) reject
  let resources := bindingResources store candidateId pin
  rejectIf (resources.length ≠ b.grantRefs.length) reject
  rejectIf (!(resources.zip (b.grantRefs.zip b.policyDecisionRefs)).all fun e =>
    grantComplete env store c e.1 e.2.1 e.2.2 && (!e.1.isOutput || allocationOf store c e.1)) reject
  let allocations := (resources.filter BindingResource.isOutput).map BindingResource.id
  rejectIf allocations.isEmpty reject
  return ⟨candidateId, c.bindingId, c.attemptId, b.grantRefs, allocations⟩

def replayFinalizedCandidate (store : PolicyStore) (candidateId : String) :
    PolicyResult (Option FinalizedAuthorityCandidate) :=
  match store.statuses.find? fun s => s.candidateId = candidateId with
  | none => .ok none
  | some status =>
      if status.state = .pending then .ok none
      else do
        rejectIf (status.state ≠ .finalized || status.revision ≠ 2) reject
        let result ← replayRows env store candidateId
        return some result

/-- `finalize_pending_authority_candidate`, with the time it starts at. -/
def finalizePendingAuthorityCandidate (store : PolicyStore) (candidateId started : String) :
    PolicyResult (PolicyStore × FinalizedAuthorityCandidate) := do
  match ← replayFinalizedCandidate env store candidateId with
  | some replayed => return (store, replayed)
  | none => do
      let startedAt ← checkedTime env started
      let preliminary ← CandidateFacts.load env store candidateId startedAt
      rejectIf (preliminary.taskState ≠ .planning && preliminary.taskState ≠ .waitingForAuth) reject
      finalizeCandidateIn env outside backend time lease store candidateId

end Finalize

end Aios.Policy
