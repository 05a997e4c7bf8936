/-
  File:      Aios/Policy/Evaluate.lean
  Subject:   THE EVALUATION OF A CANDIDATE: one decision for each of its resources, under the policy
             that is active, with the approvals that were given for exactly these facts.

  The evaluation writes requests, decisions and prompts for approval. It cannot issue a grant. All of
  it stands in one transaction: where a check fails, nothing is written.
-/
import Aios.Policy.Facts
import Aios.Provenance.Projection

namespace Aios.Policy

open Lib Provenance

/-! ## 1. Policies -/

inductive PolicyEffect where
  | allow
  | deny
  | requireApproval
  deriving DecidableEq, Repr

def PolicyEffect.asStr : PolicyEffect → String
  | .allow => "ALLOW"
  | .deny => "DENY"
  | .requireApproval => "REQUIRE_APPROVAL"

def PolicyEffect.parse : String → Option PolicyEffect
  | "ALLOW" => some .allow
  | "DENY" => some .deny
  | "REQUIRE_APPROVAL" => some .requireApproval
  | _ => none

inductive PolicyBasis where
  | allow
  | denyDefault
  | denyPolicy
  | denyEngineUnavailable
  | requireApproval
  deriving DecidableEq, Repr

def PolicyBasis.effect : PolicyBasis → PolicyEffect
  | .allow => .allow
  | .denyDefault | .denyPolicy | .denyEngineUnavailable => .deny
  | .requireApproval => .requireApproval

/-- An approval changes the effect of a `requireApproval` only; the other pairs are unreachable. -/
def PolicyBasis.reasonCode : PolicyBasis → PolicyEffect → String
  | .allow, .allow => "AUTH_ALLOW"
  | .denyDefault, .deny => "AUTH_DENY_DEFAULT"
  | .denyPolicy, .deny => "AUTH_DENY_POLICY"
  | .denyEngineUnavailable, .deny => "AUTH_POLICY_ENGINE_UNAVAILABLE"
  | .requireApproval, .requireApproval | .requireApproval, .allow => "AUTH_REQUIRE_APPROVAL"
  | .requireApproval, .deny => "AUTH_APPROVAL_DENIED"
  | _, _ => ""

structure PolicyRule where
  effect : PolicyEffect
  action : String
  resourceKind : String
  sensitivity : String
  deriving DecidableEq

structure LocalPolicy where
  schemaVersion : String
  rules : List PolicyRule
  deriving DecidableEq

def localPolicyRuleLimit : Nat := 64

def PolicyRule.toJson (r : PolicyRule) : Json := object [
  ("effect", .str r.effect.asStr), ("action", .str r.action),
  ("resource_kind", .str r.resourceKind), ("sensitivity", .str r.sensitivity)]

def LocalPolicy.toJson (p : LocalPolicy) : Json := object [
  ("schema_version", .str p.schemaVersion), ("rules", .arr (p.rules.map PolicyRule.toJson))]

def PolicyRule.ofJson (value : Json) : Option PolicyRule := do
  guard (onlyKeys value ["effect", "action", "resource_kind", "sensitivity"])
  let effect ← (stringField value "effect").bind PolicyEffect.parse
  let action ← stringField value "action"
  let kind ← stringField value "resource_kind"
  let sensitivity ← stringField value "sensitivity"
  return ⟨effect, action, kind, sensitivity⟩

def LocalPolicy.ofJson (value : Json) : Option LocalPolicy := do
  guard (onlyKeys value ["schema_version", "rules"])
  let schemaVersion ← stringField value "schema_version"
  let rules ← (value.get? "rules").bind Json.asArr
  let rules ← rules.mapM PolicyRule.ofJson
  return ⟨schemaVersion, rules⟩

/-- An action stands with the one kind of resource it is for. -/
def PolicyRule.admissible (r : PolicyRule) : Bool :=
  isSensitivity r.sensitivity &&
    ((r.action = "artifact.read" && r.resourceKind = "artifact") ||
      (r.action = "artifact.write" && r.resourceKind = "output-allocation") ||
      (r.action = "data.egress" && r.resourceKind = "external-destination"))

def LocalPolicy.parse (env : PolicyEnv) (text : String) : PolicyResult LocalPolicy := do
  let value ← expect (env.parseStrict text) reject
  let policy ← expect (LocalPolicy.ofJson value) reject
  rejectIf (policy.schemaVersion ≠ "0.1" || policy.rules.isEmpty ||
    localPolicyRuleLimit < policy.rules.length || !policy.rules.all PolicyRule.admissible) reject
  return policy

/-- The rules in order: a denial ends the search, and an approval that is asked for stays. -/
def decideRules (action kind sensitivity : String) : PolicyBasis → List PolicyRule → PolicyBasis
  | result, [] => result
  | result, rule :: rest =>
      if rule.action = action && rule.resourceKind = kind && rule.sensitivity = sensitivity then
        match rule.effect with
        | .deny => .denyPolicy
        | .requireApproval => decideRules action kind sensitivity .requireApproval rest
        | .allow => decideRules action kind sensitivity
            (if result = .requireApproval then result else .allow) rest
      else decideRules action kind sensitivity result rest

/-- `DeterministicEvaluator::decide`. -/
def decideDeterministic (maxRules : Nat) (policy : LocalPolicy) (action kind sensitivity : String) :
    PolicyBasis :=
  if maxRules < policy.rules.length then .denyDefault
  else decideRules action kind sensitivity .denyDefault policy.rules

/-- The evaluator of the process, with its bound on the rules, or none during an outage. -/
structure LocalPolicyBackend where
  evaluator : Option Nat

def LocalPolicyBackend.decide (backend : LocalPolicyBackend) (policy : LocalPolicy)
    (r : ResourceFacts) : PolicyBasis :=
  match backend.evaluator with
  | some maxRules => decideDeterministic maxRules policy r.action r.kind r.sensitivity
  | none => .denyEngineUnavailable

/-! ## 2. The active policy -/

/-- The activation with the greatest revision. -/
def latestActivation : List ActivationRow → Option ActivationRow
  | [] => none
  | row :: rest =>
      match latestActivation rest with
      | none => some row
      | some last => some (if last.revision < row.revision then row else last)

section Evaluate

variable (env : PolicyEnv)

def policyDomain : String := "AIOS-LOCAL-AUTHORITY-POLICY\x00v1\x00"

/-- The policy of the activation, whose text is canonical and has the hash it is stored under. -/
def loadPolicy (store : PolicyStore) (activation : ActivationRow) : PolicyResult LocalPolicy := do
  let text ← expect (store.payloads.lookup activation.contentHash) reject
  rejectIf (env.hash policyDomain text ≠ activation.contentHash) reject
  let policy ← LocalPolicy.parse env text
  let canonical ← env.canonicalJson policy.toJson
  rejectIf (canonical ≠ text) reject
  return policy

def entitySchemaHash : String :=
  env.hash "AIOS-LOCAL-POLICY-ENTITY-SCHEMA\x00v1\x00" "task-provider-artifact-allocation-v0.1"

def snapshotValue (contentHash createdAt : String) : Json := object [
  ("schema_version", .str "0.1"), ("snapshot_id", .str contentHash),
  ("scope", object [("kind", .str "device"), ("id", .str "stage1-local")]),
  ("policy_language", .str "builtin"), ("policy_language_version", .str "0.1"),
  ("policy_set_hash", .str contentHash), ("entity_schema_hash", .str (entitySchemaHash env)),
  ("engine", object [("id", .str "aios-deterministic"), ("version", .str "0.1")]),
  ("created_at", .str createdAt)]

def checkedPolicySnapshot (store : PolicyStore) (revision : Nat) (contentHash : String)
    (evaluatedAt : Int) : PolicyResult Unit := do
  let a ← expect (store.activations.find? fun a => a.revision = revision && a.contentHash = contentHash)
    reject
  let activated ← checkedTime env a.activatedAt
  rejectIf (evaluatedAt < activated) reject
  let s ← expect (store.policySnapshots.find? fun s => s.snapshotId = contentHash) reject
  let created ← checkedTime env s.createdAt
  rejectIf (s.scopeKind ≠ "device" || s.scopeId ≠ "stage1-local" || s.policyLanguage ≠ "builtin" ||
    s.policyLanguageVersion ≠ "0.1" || s.policySetHash ≠ contentHash ||
    s.entitySchemaHash ≠ entitySchemaHash env || s.engineId ≠ "aios-deterministic" ||
    s.engineVersion ≠ "0.1" || evaluatedAt < created) reject
  let expected ← env.canonicalJson (snapshotValue env contentHash s.createdAt)
  rejectIf (s.snapshotJson ≠ expected) reject

/-! ## 3. Requests -/

def requestId (facts : CandidateFacts) (r : ResourceFacts) : String :=
  "request:" ++ env.hash "AIOS-AUTHORITY-REQUEST\x00v1\x00"
    (facts.candidate.candidateId ++ "\x00" ++ r.action ++ "\x00" ++ r.selector)

def effectClass (action : String) : String :=
  if action = "artifact.read" then "ARTIFACT_READ"
  else if action = "artifact.write" then "ARTIFACT_WRITE"
  else "DATA_EGRESS"

def providerValue (c : ReservationRow) : Json := object [
  ("kind", .str "provider"), ("id", .str c.providerId), ("version", .str c.providerVersion),
  ("package_or_build_hash", .str c.providerBuildHash)]

def egressValue (pin : ExportPin) : Json := object [
  ("destination_class", .str pin.destinationClass), ("service_id", .str pin.serviceId),
  ("data_refs", .arr [.str pin.sourceArtifactId]), ("purpose", .str pin.purpose),
  ("source_content_hash", .str pin.sourceContentHash), ("operation_id", .str pin.operationId),
  ("adapter_id", .str pin.adapterId), ("descriptor_hash", .str pin.descriptorHash),
  ("max_size_bytes", number pin.maxSizeBytes)]

def requestValue (facts : CandidateFacts) (r : ResourceFacts) (id requestedAt : String) : Json :=
  let c := facts.candidate
  Json.ofFields [
    ("schema_version", some (.str "0.1")), ("request_id", some (.str id)),
    ("task_id", some (.str c.taskId)), ("semantic_program_hash", some (.str c.semanticProgramHash)),
    ("registry_snapshot_id", some (.str c.registrySnapshotId)), ("node_id", some (.str c.nodeId)),
    ("capability", some (.str c.capability)), ("principal", some (providerValue c)),
    ("action", some (.str r.action)),
    ("resource", some (object [("semantic_selector", .str r.selector), ("resolved_kind", .str r.kind),
      ("resolved_id", .str r.id), ("sensitivity", .str r.sensitivity)])),
    ("execution_binding_id", some (.str c.bindingId)), ("attempt_id", some (.str c.attemptId)),
    ("effect_classes", some (.arr [.str (effectClass r.action)])),
    ("requested_at", some (.str requestedAt)), ("egress", r.exportPin.map egressValue)]

/-- An egress is for an external destination, and the service it names is the resolved one. -/
def validateExactExportRequestLinks (request : Json) : PolicyResult Unit :=
  let action := Tasks.textAt request ["action"]
  let kind := Tasks.textAt request ["resource", "resolved_kind"]
  let id := Tasks.textAt request ["resource", "resolved_id"]
  let service := Tasks.textAt request ["egress", "service_id"]
  rejectIf ((action = some "data.egress" || kind = some "external-destination") &&
    !(action = some "data.egress" && kind = some "external-destination" && id.isSome && id = service &&
      id.any fun text => Tasks.startsWith text "service://")) reject

/-- The row that is written for a request. -/
def requestRow (facts : CandidateFacts) (r : ResourceFacts) (id text requestedAt : String) : RequestRow :=
  let c := facts.candidate
  ⟨id, c.taskId, c.semanticProgramHash, c.registrySnapshotId, c.nodeId, c.capability, "provider",
    c.providerId, some c.bindingId, some c.attemptId, r.action, r.kind, r.id, some r.selector, text,
    requestedAt⟩

/-- The request of the resource: the stored one, where it is the same, or a new one. -/
def recordRequest (store : PolicyStore) (facts : CandidateFacts) (r : ResourceFacts) (started : String)
    (startedAt : Int) : PolicyResult PolicyStore := do
  let id := requestId env facts r
  let prior := store.requests.find? fun q => q.requestId = id
  let requestedAt := (prior.map RequestRow.requestedAt).getD started
  let requested ← checkedTime env requestedAt
  rejectIf (startedAt < requested) reject
  let value := requestValue facts r id requestedAt
  validateExactExportRequestLinks value
  let text ← env.canonicalJson value
  match prior with
  | some q => do
      rejectIf (q ≠ requestRow facts r id text q.requestedAt) reject
      return store
  | none => return { store with requests := store.requests ++ [requestRow facts r id text started] }

/-! ## 4. Approvals -/

def approvalId (request fingerprint : String) : String :=
  "approval:" ++ env.hash "AIOS-AUTHORITY-APPROVAL\x00v1\x00" (request ++ "\x00" ++ fingerprint)

def decisionId (request fingerprint phase : String) : String :=
  "decision:" ++ env.hash "AIOS-AUTHORITY-DECISION\x00v1\x00"
    (request ++ "\x00" ++ fingerprint ++ "\x00" ++ phase)

def approvalDecisionId (approval : String) : String :=
  "approval-decision:" ++ env.hash "AIOS-APPROVAL-DECISION\x00v1\x00" approval

def approvalPrompt (facts : CandidateFacts) (r : ResourceFacts) (approval request created expires : String) :
    PolicyResult String :=
  let c := facts.candidate
  env.canonicalJson (Json.ofFields [
    ("schema_version", some (.str "0.1")), ("approval_id", some (.str approval)),
    ("authority_request_id", some (.str request)), ("task_id", some (.str c.taskId)),
    ("semantic_program_hash", some (.str c.semanticProgramHash)), ("node_id", some (.str c.nodeId)),
    ("action", some (.str r.action)),
    ("resource", some (object [("kind", .str r.kind), ("id", .str r.id), ("display_class", .str r.kind),
      ("sensitivity", .str r.sensitivity)])),
    ("principal", some (object [("kind", .str "provider"), ("id", .str c.providerId),
      ("version", .str c.providerVersion)])),
    ("scope", some (.str "ONE_SHOT")), ("effect_classes", some (.arr [.str (effectClass r.action)])),
    ("status", some (.str "PENDING")), ("created_at", some (.str created)),
    ("expires_at", some (.str expires)),
    ("policy_reason_codes", some (.arr [.str "AUTH_REQUIRE_APPROVAL"])),
    ("trusted_summary", some (.str (r.action ++ " on " ++ r.id))),
    ("destination", r.exportPin.map fun pin =>
      object [("class", .str pin.destinationClass), ("service_id", .str pin.serviceId)]),
    ("export", r.exportPin.map ExportPin.toJson)])

def decisionResource (r : ResourceFacts) : Json := Json.ofFields [
  ("resolved_kind", some (.str r.kind)), ("resolved_id", some (.str r.id)),
  ("semantic_selector", some (.str r.selector)), ("sensitivity", some (.str r.sensitivity)),
  ("external_export", r.exportPin.map ExportPin.toJson)]

def decisionValue (facts : CandidateFacts) (r : ResourceFacts) (id request effect snapshotId reason : String)
    (approval : Option String) (decidedAt : String) : Json :=
  let c := facts.candidate
  object [
    ("schema_version", .str "0.1"), ("decision_id", .str id), ("authority_request_id", .str request),
    ("task_id", .str c.taskId), ("semantic_program_hash", .str c.semanticProgramHash),
    ("registry_snapshot_id", .str c.registrySnapshotId), ("node_id", .str c.nodeId),
    ("capability", .str c.capability), ("principal", providerValue c), ("action", .str r.action),
    ("resource", decisionResource r), ("decision", .str effect), ("policy_snapshot_id", .str snapshotId),
    ("reason_codes", .arr [.str reason]), ("approval_request_id", textOrNull approval),
    ("engine", object [("id", .str "aios-deterministic"), ("version", .str "0.1")]),
    ("decided_at", .str decidedAt)]

/-- The row that is written for a decision. -/
def decisionRow (facts : CandidateFacts) (r : ResourceFacts) (id request effect snapshotId reason : String)
    (approval : Option String) (text decidedAt : String) : DecisionRow :=
  let c := facts.candidate
  ⟨id, request, c.taskId, c.semanticProgramHash, c.nodeId, "provider", c.providerId, r.action, r.kind,
    r.id, effect, snapshotId, approval, [reason], text, decidedAt⟩

/-- The approval, its binding and the decision that asked for it are exactly those of these facts. -/
def checkedApprovalRequest (store : PolicyStore) (facts : CandidateFacts) (r : ResourceFacts)
    (approval request fingerprint : String) (revision : Nat) (snapshotId created expires : String) :
    PolicyResult Unit := do
  let c := facts.candidate
  let requiring := decisionId env request fingerprint "initial"
  rejectIf (approval ≠ approvalId env request fingerprint) reject
  let prompt ← approvalPrompt env facts r approval request created expires
  let text ← env.canonicalJson (decisionValue facts r requiring request "REQUIRE_APPROVAL" snapshotId
    "AUTH_REQUIRE_APPROVAL" (some approval) created)
  rejectIf (!(store.approvals.any fun a => a.approvalId = approval && a.authorityRequestId = request &&
      a.taskId = c.taskId && a.semanticProgramHash = c.semanticProgramHash && a.nodeId = c.nodeId &&
      a.action = r.action && a.requestJson = prompt && a.createdAt = created && a.expiresAt = expires) ||
    !(store.approvalBindings.any fun b => b.approvalId = approval && b.candidateId = c.candidateId &&
      b.fingerprint = fingerprint && b.activationRevision = revision &&
      b.requiringDecisionId = requiring && b.revokedAt.isNone) ||
    !(store.decisions.contains (decisionRow facts r requiring request "REQUIRE_APPROVAL" snapshotId
      "AUTH_REQUIRE_APPROVAL" (some approval) text created)) ||
    !(store.fingerprints.contains ⟨requiring, c.candidateId, fingerprint, revision, created⟩)) reject

/-- The value of a user's decision. -/
def approvalDecisionValue (id approval taskId decision principalId : String) (until? : Option String)
    (decidedAt : String) : Json := object [
  ("schema_version", .str "0.1"), ("decision_id", .str id), ("approval_id", .str approval),
  ("task_id", .str taskId), ("decision", .str decision),
  ("decided_by", object [("kind", .str "user"), ("id", .str principalId)]),
  ("scope", .str "ONE_SHOT"), ("approved_until", textOrNull until?), ("decided_at", .str decidedAt)]

/-- The one decision of the approval, of the Task's own user and as it was recorded. -/
def checkedApprovalDecision (store : PolicyStore) (approval status taskId principalId expires : String)
    (now : Int) : PolicyResult Unit := do
  let expected ← expect (if status = "APPROVED" then some "APPROVE"
    else if status = "DENIED" then some "DENY" else none) reject
  let id := approvalDecisionId env approval
  match store.approvalDecisions.filter fun d => d.approvalId = approval with
  | [d] => do
      let until? := if status = "APPROVED" then some expires else none
      rejectIf (d.decisionId ≠ id || d.taskId ≠ taskId || d.decision ≠ expected ||
        d.decidedByKind ≠ "user" || d.decidedById ≠ principalId || d.scope ≠ "ONE_SHOT" ||
        d.approvedUntil ≠ until?) reject
      let decided ← checkedTime env d.decidedAt
      rejectIf (now < decided) reject
      let text ← env.canonicalJson (approvalDecisionValue id approval taskId expected principalId
        d.approvedUntil d.decidedAt)
      rejectIf (d.decisionJson ≠ text) reject
  | _ => .error reject

/-- What an approval makes of a decision that asks for one, and when it was created and expires. -/
structure Standing where
  effect : PolicyEffect
  timing : Option (String × String)
  deriving DecidableEq

/-- An approval that was asked for, with its binding. -/
def PolicyStore.approval? (store : PolicyStore) (approval : String) :
    Option (ApprovalRow × ApprovalBindingRow) :=
  (store.approvals.find? fun a => a.approvalId = approval).bind fun a =>
    (store.approvalBindings.find? fun b => b.approvalId = approval).map fun b => (a, b)

/-- The standing of the approval: of these facts, not withdrawn and not expired. -/
def approvalStanding (store : PolicyStore) (facts : CandidateFacts) (r : ResourceFacts)
    (approval request fingerprint : String) (revision : Nat) (snapshotId : String) (startedAt : Int) :
    PolicyResult Standing :=
  match store.approval? approval with
  | none => .ok ⟨.requireApproval, none⟩
  | some (a, b) => do
      let expires ← checkedTime env a.expiresAt
      rejectIf (b.fingerprint ≠ fingerprint || b.revokedAt.isSome || expires ≤ startedAt) reject
      let created ← checkedTime env a.createdAt
      rejectIf (startedAt < created) reject
      checkedApprovalRequest env store facts r approval request fingerprint revision snapshotId
        a.createdAt a.expiresAt
      let c := facts.candidate
      if a.status = "APPROVED" || a.status = "DENIED" then do
        checkedApprovalDecision env store approval a.status c.taskId facts.taskPrincipalId a.expiresAt
          startedAt
        return ⟨if a.status = "APPROVED" then .allow else .deny, some (a.createdAt, a.expiresAt)⟩
      else do
        rejectIf (a.status ≠ "PENDING") reject
        return ⟨.requireApproval, some (a.createdAt, a.expiresAt)⟩

/-- An hour after the given time. -/
def oneHourAfter (startedAt : Int) : PolicyResult String :=
  expect (env.time.formatNanos (startedAt + 3600 * 1000000000)) reject

/-- When the approval was created and expires; a new one is good for an hour. -/
def promptTiming (timing : Option (String × String)) (started : String) (startedAt : Int) :
    PolicyResult (String × String) :=
  match timing with
  | some pair => .ok pair
  | none => do
      let expiry ← oneHourAfter env startedAt
      return (started, expiry)

/-- The prompt for an approval that is still to be given: the stored one, or a new one. -/
def recordApproval (store : PolicyStore) (facts : CandidateFacts) (r : ResourceFacts)
    (approval request : String) (timing : Option (String × String)) (started : String) (startedAt : Int) :
    PolicyResult PolicyStore := do
  let c := facts.candidate
  let (created, expiry) ← promptTiming env timing started startedAt
  let prompt ← approvalPrompt env facts r approval request created expiry
  let row : ApprovalRow := ⟨approval, request, c.taskId, c.semanticProgramHash, c.nodeId, r.action,
    "PENDING", prompt, created, expiry⟩
  match store.approvals.find? fun a => a.approvalId = approval with
  | some a => do
      rejectIf (timing.isNone || a ≠ row) reject
      return store
  | none => return { store with approvals := store.approvals ++ [row] }

/-! ## 5. Decisions -/

structure CandidatePolicyDecision where
  action : String
  semanticSelector : String
  authorityRequestId : String
  decisionId : String
  effect : PolicyEffect
  reasonCode : String
  approvalId : Option String
  evaluationFingerprint : String
  deriving DecidableEq

structure CandidatePolicyEvaluation where
  activationRevision : Nat
  decisions : List CandidatePolicyDecision
  deriving DecidableEq

def decisionPhase (basis : PolicyBasis) (effect : PolicyEffect) : String :=
  match effect with
  | .deny =>
      if basis = .denyEngineUnavailable then "backend-unavailable"
      else if basis = .requireApproval then "approval-denied" else "initial"
  | .allow => if basis = .requireApproval then "approved" else "initial"
  | .requireApproval => "initial"

/-- The decision and its fingerprint: the stored ones, where they are the same, or new ones. -/
def recordDecision (store : PolicyStore) (facts : CandidateFacts) (r : ResourceFacts)
    (d : CandidatePolicyDecision) (activation : ActivationRow) (started : String) (startedAt : Int) :
    PolicyResult PolicyStore := do
  let prior := store.decisions.find? fun row => row.decisionId = d.decisionId
  let decidedAt := (prior.map DecisionRow.decidedAt).getD started
  let decided ← checkedTime env decidedAt
  rejectIf (startedAt < decided) reject
  let text ← env.canonicalJson (decisionValue facts r d.decisionId d.authorityRequestId d.effect.asStr
    activation.contentHash d.reasonCode d.approvalId decidedAt)
  let row := decisionRow facts r d.decisionId d.authorityRequestId d.effect.asStr activation.contentHash
    d.reasonCode d.approvalId text decidedAt
  let print : FingerprintRow := ⟨d.decisionId, facts.candidate.candidateId, d.evaluationFingerprint,
    activation.revision, decidedAt⟩
  match prior with
  | some stored => do
      rejectIf (stored ≠ row || !store.fingerprints.contains print) reject
      return store
  | none => return { store with
      decisions := store.decisions ++ [row], fingerprints := store.fingerprints ++ [print] }

/-- The binding of an approval that was asked for: the stored one, or a new one. -/
def bindApproval (store : PolicyStore) (candidateId : String) (d : CandidatePolicyDecision)
    (approval : String) (revision : Nat) : PolicyResult PolicyStore :=
  match store.approvalBindings.find? fun b => b.approvalId = approval with
  | some b => do
      rejectIf (b.candidateId ≠ candidateId || b.fingerprint ≠ d.evaluationFingerprint ||
        b.activationRevision ≠ revision || b.requiringDecisionId ≠ d.decisionId) reject
      return store
  | none => return { store with approvalBindings := store.approvalBindings ++
      [⟨approval, candidateId, d.evaluationFingerprint, revision, d.decisionId, none⟩] }

variable (backend : LocalPolicyBackend) (policy : LocalPolicy) (activation : ActivationRow)
  (facts : CandidateFacts) (started : String) (startedAt : Int)

/-- The effect of the policy, or what the approval it asks for has become. -/
def standingOf (store : PolicyStore) (r : ResourceFacts) (fingerprint : String) (basis : PolicyBasis) :
    Option String → PolicyResult Standing
  | none => .ok ⟨basis.effect, none⟩
  | some id => approvalStanding env store facts r id (requestId env facts r) fingerprint
      activation.revision activation.contentHash startedAt

/-- The decision over one resource, before it is recorded. -/
def decideResource (store : PolicyStore) (r : ResourceFacts) (fingerprint : String) :
    PolicyResult (CandidatePolicyDecision × Option (String × String)) := do
  let request := requestId env facts r
  let basis := backend.decide policy r
  let approval := if basis = .requireApproval then some (approvalId env request fingerprint) else none
  let standing ← standingOf env activation facts startedAt store r fingerprint basis approval
  let phase := decisionPhase basis standing.effect
  return (⟨r.action, r.selector, request, decisionId env request fingerprint phase, standing.effect,
    basis.reasonCode standing.effect, approval, fingerprint⟩, standing.timing)

/-- One resource: its request, its decision and, where one is still to be given, its approval (the
    phase of the decision is `initial` then). -/
def evaluateResource (store : PolicyStore) (r : ResourceFacts) :
    PolicyResult (PolicyStore × CandidatePolicyDecision) := do
  let fingerprint ← facts.fingerprint env r activation.revision activation.contentHash
  let store ← recordRequest env store facts r started startedAt
  let (d, timing) ← decideResource env backend policy activation facts startedAt store r fingerprint
  match d.approvalId, d.effect with
  | some id, .requireApproval => do
      let store ← recordApproval env store facts r id d.authorityRequestId timing started startedAt
      let store ← recordDecision env store facts r d activation started startedAt
      let store ← bindApproval store facts.candidate.candidateId d id activation.revision
      return (store, d)
  | _, _ => do
      let store ← recordDecision env store facts r d activation started startedAt
      return (store, d)

def evaluateResources : PolicyStore → List ResourceFacts →
    PolicyResult (PolicyStore × List CandidatePolicyDecision)
  | store, [] => .ok (store, [])
  | store, r :: rest => do
      let (store, d) ← evaluateResource env backend policy activation facts started startedAt store r
      let (store, decisions) ← evaluateResources store rest
      return (store, d :: decisions)

end Evaluate

/-! ## 6. The evaluation -/

/-- What the tables outside the ledger say during one transaction. -/
structure Outside where
  activeProgramValidationValid : CandidateFacts → PolicyResult Bool
  /-- The provider that was selected is still the pinned one. -/
  providerPinsCurrent : CandidateFacts → String → PolicyResult Bool
  candidatePlanCoherent : CandidateFacts → PolicyResult Bool
  /-- The grant of an output is usable, and its deadline runs. -/
  outputAdmitted : PolicyStore → CandidateFacts → String → PolicyResult Bool
  /-- The journal takes the event. -/
  eventAccepted : PolicyStore → Json → PolicyResult Unit

def requireTrue (check : PolicyResult Bool) (error : PolicyError) : PolicyResult Unit := do
  let holds ← check
  rejectIf (!holds) error

def evaluatePendingAuthorityCandidateIn (env : PolicyEnv) (outside : Outside) (backend : LocalPolicyBackend)
    (store : PolicyStore) (candidateId started : String) :
    PolicyResult (PolicyStore × CandidatePolicyEvaluation) := do
  let startedAt ← checkedTime env started
  let activation ← expect (latestActivation store.activations) reject
  let policy ← loadPolicy env store activation
  checkedPolicySnapshot env store activation.revision activation.contentHash startedAt
  let facts ← CandidateFacts.load env store candidateId startedAt
  requireTrue (outside.activeProgramValidationValid facts) reject
  requireTrue (outside.providerPinsCurrent facts started) reject
  let (store, decisions) ← evaluateResources env backend policy activation facts started startedAt store
    facts.resources
  return (store, ⟨activation.revision, decisions⟩)

end Aios.Policy
