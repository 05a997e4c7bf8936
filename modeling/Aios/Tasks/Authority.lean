/-
  File:      Aios/Tasks/Authority.lean
  Subject:   THE AUTHORITY OF A STEP: the validation of its program, the provider its binding names,
             and the grants that answer what the node declares.

  `bindingGrantsValid` ends in one loop over the grants of the binding. Every turn finds one request
  and one decision that no earlier turn found, and at the end all of them are found: so the grants
  and the declared requests are in bijection (`BindingAuthority`, `bindingGrantsValid_sound`).
-/
import Aios.Tasks.Tables

namespace Aios.Tasks

open Lib Provenance

variable {ρ : Type} (env : Env (Tables ρ)) (checks : DocumentChecks ρ) (store : Store (Tables ρ))

/-! ## 1. The validation of the active program -/

/-- The revision the Task points to. -/
def activeRevision (core : Core (Tables ρ)) (taskId : String) : Option Nat :=
  (core.tasks[taskId]?).bind TaskRow.activeProgramRevision

/-- The active program of the Task, under this hash. -/
def activeProgram (core : Core (Tables ρ)) (taskId hash : String) : Option ProgramRow :=
  core.programs.find? fun p => p.taskId = taskId && activeRevision core taskId = some p.programRevision &&
    p.status = "active" && p.semanticHash = some hash

/-- The text at a pointer of the value. -/
def textAt (value : Json) (path : List String) : Option String := (pointer value path).bind Json.asStr

/-- The build hash of the validator, or none at all. -/
def buildHashMatches (result : Json) : Option String → Bool
  | some expected => textAt result ["validator", "build_hash"] = some expected
  | none => (pointer result ["validator", "build_hash"]).all fun v => v = .null

/-- The stored result repeats the columns of its row and of the program. -/
def resultMatches (p : ProgramRow) (v : ValidationRow) (hash snapshotId : String) (result : Json) : Bool :=
  v.programId = p.programId && v.irVersion = p.irVersion && v.valid && v.semanticHash = hash &&
    v.registrySnapshotId = snapshotId && result.get? "valid" = some (.bool true) &&
    textAt result ["program_id"] = some p.programId && textAt result ["ir_version"] = some p.irVersion &&
    textAt result ["semantic_hash"] = some hash &&
    textAt result ["semantic_hash_profile"] = some "aios-ir-v0.1" &&
    textAt result ["registry_snapshot_id"] = some snapshotId &&
    textAt result ["validator", "id"] = some v.validatorId &&
    textAt result ["validator", "version"] = some v.validatorVersion &&
    buildHashMatches result v.validatorBuildHash &&
    textAt result ["validated_at"] = some v.validatedAt

def activeProgramValidationValid (taskId hash : String) : TaskResult Bool :=
  match activeProgram store.core taskId hash with
  | none => .ok false
  | some p =>
      match p.validationResultId.bind fun id =>
          store.core.validations.find? fun v => v.validationResultId = id with
      | none => .ok false
      | some v => do
          let snapshotId ← expect p.registrySnapshotId (.storage "Invalid column type Null")
          match env.parseJson v.result with
          | none => return false
          | some result =>
              return (env.journal.rfc3339 v.validatedAt).isSome && checks.validationSchema result &&
                v.taskId = taskId && checks.recomputeSemanticHash p.programJson = some hash &&
                resultMatches p v hash snapshotId result

/-! ## 2. The provider -/

/-- The store has been migrated this far. -/
def migrated (id : String) : Bool := store.core.other.migrations.contains id

def hasRegistryStore : Bool := migrated store "0012_semantic_registry_store"

def hasProviderStore : Bool := migrated store "0013_provider_registry"

/-- The registration the binding names, as it was bound. -/
def registrationOf (t : Tables ρ) (b : BindingRow) (c : BindingColumns) : Option RegistrationRow :=
  t.registrations.find? fun r => c.providerRegistrationId = some r.registrationId &&
    r.providerId = b.providerId && r.providerVersion = b.providerVersion && r.state = "registered" &&
    r.manifestHash.isSome && r.manifestHash = c.providerManifestHash &&
    c.providerBuildHash = some r.packageContentHash

/-- The evidence, if it is a pass of this registration for this contract. -/
def conformanceOf (t : Tables ρ) (evidenceId : String) (c : BindingColumns) (r : RegistrationRow) :
    Option ConformanceRow :=
  t.conformance.find? fun e => e.evidenceId = evidenceId && e.registrationId = r.registrationId &&
    e.capability = c.capability && e.contractHash.isSome &&
    e.contractHash = c.capabilityContractHash && e.status = "pass"

/-- The provider was enabled when the binding was made and its latest epoch is still that one. -/
def providerEnabled (t : Tables ρ) (b : BindingRow) (r : RegistrationRow) : Bool :=
  t.enablementMarkers.any fun m => m.bindingId = b.bindingId && m.registrationId = r.registrationId &&
    t.epochs.any fun e => e.registrationId = m.registrationId && e.revision = m.revision &&
      e.state = "registered" && r.updatedAt = some e.transitionedAt &&
      t.epochs.all fun other => other.registrationId ≠ r.registrationId || other.revision ≤ e.revision

/-- What the migrations of the store ask for beyond the join. -/
def bindingAdmitted (b : BindingRow) (r : RegistrationRow) (e : ConformanceRow) : Bool :=
  let t := store.core.other
  (!hasRegistryStore store || t.admittedSnapshots.contains b.registrySnapshotId) &&
    if hasProviderStore store then
      t.admissionMarkers.contains (b.bindingId, e.evidenceId) && providerEnabled t b r
    else r.registrySnapshotId = some b.registrySnapshotId &&
      r.trustStatus ∈ ["locally-trusted", "project-reviewed", "organization-approved"]

def bindingEvidence (check : BindingGrantCheck) (evidenceId : String) : Option BindingEvidence := do
  let t := store.core.other
  let b ← store.core.bindings.find? fun b => b.bindingId = check.bindingId &&
    b.attemptId = check.attemptId && b.taskId = check.taskId &&
    b.semanticProgramHash = check.semanticHash && b.nodeId = check.nodeId
  let c ← t.bindingColumns.find? fun c => c.bindingId = b.bindingId
  let p ← (activeProgram store.core b.taskId b.semanticProgramHash).filter fun p =>
    p.registrySnapshotId = some b.registrySnapshotId
  let snapshot ← t.snapshots.find? fun s => s.snapshotId = b.registrySnapshotId
  let r ← registrationOf t b c
  let e ← (conformanceOf t evidenceId c r).filter fun e => bindingAdmitted store b r e
  return ⟨b, c, p, snapshot, r, e⟩

/-- The binding with its provider, where the provider is still the one that was bound. -/
def currentProvider (check : BindingGrantCheck) : TaskResult (Option BindingEvidence) := do
  let t := store.core.other
  let pinned := hasProviderStore store
  match ← checks.latestConformanceEvidenceId t store.core.bindings check pinned with
  | none => return none
  | some evidenceId =>
      match bindingEvidence store check evidenceId with
      | none => return none
      | some e => do
          if e.binding.grantRefs ≠ check.grantRefs then return none
          if !checks.receiptMatches e check pinned then return none
          let admitted ← if pinned then checks.verifiedProviderAdmission t e check.checkedAt
            else .ok true
          if !admitted then return none
          let conforming ← checks.conformanceValid t e check.checkedAt pinned
          return if conforming then some e else none

/-! ## 3. What the node declares -/

/-- The one node of the program with this identity. -/
def programNode (program : Json) (nodeId : String) : Option Json :=
  ((program.get? "nodes").bind Json.asArr).bind fun nodes =>
    match nodes.filter fun node => textAt node ["id"] = some nodeId with
    | [node] => some node
    | _ => none

/-- An action and the resource it is for. -/
def authorityPair (authority : Json) : Option (String × String) := do
  let action ← textAt authority ["action"]
  let resource ← textAt authority ["resource"]
  return (action, resource)

/-- The authority a node asks for, where the node is for this capability and asks for nothing
    twice. -/
def declaredAuthority (program : Json) (nodeId capability : String) : Option (List (String × String)) := do
  let node ← programNode program nodeId
  let _ ← (textAt node ["operation", "capability"]).filter fun c => c = capability
  let requests ← (node.get? "authority_requests").bind Json.asArr
  let pairs ← requests.mapM authorityPair
  if pairs.Nodup then some pairs else none

/-- A row of `authority_requests`. -/
structure DurableRequest where
  row : AuthorityRequestRow
  columns : RequestColumns
  deriving DecidableEq

/-- The requests of this binding; the order in which they are read plays no part. -/
def durableRequests (check : BindingGrantCheck) (snapshotId : String) : List DurableRequest :=
  store.core.authorityRequests.filterMap fun r =>
    if r.taskId = check.taskId && r.semanticProgramHash = check.semanticHash &&
        r.registrySnapshotId = snapshotId && r.nodeId = check.nodeId then
      (store.core.other.requestColumns.find? fun c => c.requestId = r.requestId &&
        c.executionBindingId = some check.bindingId && c.attemptId = some check.attemptId).map fun c =>
          ⟨r, c⟩
    else none

/-- The request is made by the provider, for its capability, on a resource that was resolved. -/
def requestWellFormed (capability principalId : String) (r : DurableRequest) : Bool :=
  r.columns.capability = capability && r.columns.principalKind = "provider" &&
    r.columns.principalId = principalId && !r.columns.resourceKind.isEmpty &&
    !r.columns.resourceId.isEmpty && r.columns.semanticSelector.isSome

/-- What the request asks for, in the words of the program. -/
def DurableRequest.semantics (r : DurableRequest) : String × String :=
  (r.columns.action, r.columns.semanticSelector.getD "")

/-- The stored requests are the declared ones, each of them once. -/
def requestsMatch (capability principalId : String) (declared : List (String × String))
    (durable : List DurableRequest) : Bool :=
  durable.length = declared.length && durable.all (requestWellFormed capability principalId) &&
    (durable.map DurableRequest.semantics).Nodup && (durable.map fun r => r.row.requestId).Nodup &&
    (durable.map DurableRequest.semantics).all (declared.contains ·) &&
    declared.all ((durable.map DurableRequest.semantics).contains ·)

/-! ## 4. Grants -/

/-- The grant was issued by the authority coordinator, with these columns. -/
def issuedBy (g : GrantRow) (i : IssuanceRow) : Bool :=
  i.grantId = g.grantId && g.tokenId = some i.tokenId && i.taskId = g.taskId &&
    g.executionBindingId = some i.executionBindingId && g.attemptId = some i.attemptId &&
    i.policyDecisionId = g.policyDecisionId && i.issuedAt = g.issuedAt

/-- The decision of the grant was made for its candidate under the latest activation. -/
def evaluatedNow (t : Tables ρ) (core : Core (Tables ρ)) (g : GrantRow) (c : GrantColumns) : Bool :=
  core.candidates.any fun k => k.taskId = g.taskId && k.semanticProgramHash = c.semanticProgramHash &&
    g.executionBindingId = some k.bindingId && g.attemptId = some k.attemptId &&
    (t.candidateColumns.any fun n => n.candidateId = k.candidateId && n.nodeId = c.nodeId) &&
    t.fingerprints.any fun e => e.decisionId = g.policyDecisionId && e.candidateId = k.candidateId &&
      t.activations.contains e.activationRevision &&
      t.activations.all fun revision => revision ≤ e.activationRevision

def coordinatorProfile : String := "coordinator-issued-v0.1"

/-- A grant the coordinator issued is usable under the activation that evaluated it only. -/
def coordinatorGrantPolicyCurrent (grantId : String) : TaskResult Bool :=
  let t := store.core.other
  .ok (store.core.issuances.all fun i => i.grantId ≠ grantId || i.issuanceProfile ≠ coordinatorProfile ||
    store.core.grants.any fun g => issuedBy g i &&
      t.grantColumns.any fun c => c.grantId = g.grantId && evaluatedNow t store.core g c)

/-- A grant with the decision it rests on and the request that was decided. -/
structure GrantEvidence where
  grant : GrantRow
  columns : GrantColumns
  decision : PolicyDecisionRow
  requestId : String
  deriving DecidableEq

def usesLeft (c : GrantColumns) : Bool := c.maxUses.all fun max => c.usesConsumed < max

/-- The active grant under this identity, if it is of this binding and has a use left. -/
def grantEvidence (check : BindingGrantCheck) (grantId : String) : Option GrantEvidence := do
  let t := store.core.other
  let g ← store.core.grants.find? fun g => g.grantId = grantId && g.taskId = check.taskId &&
    g.executionBindingId = some check.bindingId && g.attemptId = some check.attemptId &&
    g.state = .active && store.core.issuances.any fun i => issuedBy g i &&
      i.issuanceProfile = coordinatorProfile
  let c ← t.grantColumns.find? fun c => c.grantId = g.grantId &&
    c.semanticProgramHash = check.semanticHash && c.nodeId = check.nodeId &&
    c.scope ∈ ["ONE_SHOT", "TASK", "TIME_LIMITED"] && usesLeft c
  let d ← t.policyDecisions.find? fun d => d.decisionId = g.policyDecisionId
  let r ← store.core.authorityRequests.find? fun r => r.requestId = d.authorityRequestId
  return ⟨g, c, d, r.requestId⟩

def approvalNotWithdrawn (t : Tables ρ) (approvalId : Option String) : Bool :=
  approvalId.all fun id => t.approvalBindings.all fun b => b.approvalId ≠ id || b.revokedAt.isNone

/-- The grant and its decision say what the request says. -/
def grantMatches (check : BindingGrantCheck) (capability principalId : String) (r : DurableRequest)
    (e : GrantEvidence) : Bool :=
  e.columns.capability = capability && e.columns.principalKind = "provider" &&
    e.columns.principalId = principalId && e.columns.policySnapshotId = e.decision.policySnapshotId &&
    e.decision.taskId = check.taskId && e.decision.semanticProgramHash = check.semanticHash &&
    e.decision.nodeId = check.nodeId && e.decision.principalKind = r.columns.principalKind &&
    e.decision.principalId = r.columns.principalId && e.decision.action = r.columns.action &&
    e.decision.resourceKind = r.columns.resourceKind && e.decision.resourceId = r.columns.resourceId &&
    e.decision.decision = .allow && !e.columns.delegable && e.columns.maxDelegationDepth = 0

/-- The one item of the grant is the request. -/
def itemMatches (items : Json) (r : DurableRequest) : Bool :=
  match items.asArr with
  | some [item] => textAt item ["action"] = some r.columns.action &&
      textAt item ["resource_kind"] = some r.columns.resourceKind &&
      textAt item ["resource_id"] = some r.columns.resourceId &&
      textAt item ["semantic_selector"] = r.columns.semanticSelector
  | _ => false

/-- The approvals of this decision, if it is one. -/
def approvingDecisions (a : ApprovalRow) : List (ApprovalDecisionRow × ApprovalDecisionColumns) :=
  store.core.approvalDecisions.filterMap fun d =>
    if d.approvalId = a.approvalId && d.decision = "APPROVE" then
      (store.core.other.approvalDecisionColumns.find? fun c => c.decisionId = d.decisionId &&
        c.taskId = a.taskId).map fun c => (d, c)
    else none

/-- The approval of exactly this request. -/
def approvedRequest (check : BindingGrantCheck) (approvalId : String) (r : DurableRequest) :
    Option ApprovalRow :=
  store.core.approvals.find? fun a => a.approvalId = approvalId &&
    a.authorityRequestId = r.row.requestId && a.taskId = check.taskId &&
    a.semanticProgramHash = check.semanticHash && a.nodeId = check.nodeId && a.status = "APPROVED" &&
    (store.core.other.approvalColumns.any fun c => c.approvalId = a.approvalId &&
      c.action = r.columns.action) &&
    store.core.authorityRequests.any fun q => q.requestId = a.authorityRequestId &&
      store.core.other.requestColumns.any fun c => c.requestId = q.requestId &&
        c.resourceKind = r.columns.resourceKind && c.resourceId = r.columns.resourceId

/-- The text is a time later than this instant. -/
def laterThan (instant : Int) (text : String) : Bool :=
  (env.journal.rfc3339 text).any fun time => instant < time

/-- A limit of the approval: a time still to come, and not before the grant ends. -/
def withinApproval (instant expires : Int) (approvedUntil : String) : Bool :=
  (env.journal.rfc3339 approvedUntil).any fun until_ => instant < until_ && expires ≤ until_

/-- The approval has one deciding approval, of the scope of the grant, and has not run out. -/
def approvalHolds (instant expires : Int) (scope : String) (a : ApprovalRow) : Bool :=
  match approvingDecisions store a with
  | [(d, c)] => c.scope = scope && a.expiresAt.all (laterThan env instant) &&
      (scope ≠ "TIME_LIMITED" || d.approvedUntil.isSome) &&
      d.approvedUntil.all (withinApproval env instant expires)
  | _ => false

/-- No approval was asked for, or the one that was asked for holds. -/
def approvalValid (check : BindingGrantCheck) (instant expires : Int) (r : DurableRequest)
    (e : GrantEvidence) : Bool :=
  match e.grant.approvalId, e.decision.approvalRequestId with
  | none, none => true
  | some approvalId, some decided => approvalId = decided &&
      (approvedRequest store check approvalId r).any (approvalHolds env store instant expires
        e.columns.scope)
  | _, _ => false

/-- The grant is current at the time of the check. -/
def grantCurrent (check : BindingGrantCheck) (r : DurableRequest) (e : GrantEvidence) : Bool :=
  (env.journal.rfc3339 e.grant.expiresAt).any fun expires =>
    (env.journal.rfc3339 check.checkedAt).any fun instant =>
      instant < expires && approvalValid env store check instant expires r e

/-- One turn of the loop: the request and the decision of the grant, where the grant is good. -/
def coverGrant (check : BindingGrantCheck) (e : BindingEvidence) (durable : List DurableRequest)
    (grantId : String) : TaskResult (Option (DurableRequest × GrantEvidence)) := do
  let current ← coordinatorGrantPolicyCurrent store grantId
  if !current then return none
  match grantEvidence store check grantId with
  | none => return none
  | some g => do
      if !approvalNotWithdrawn store.core.other g.grant.approvalId then return none
      match durable.find? fun r => r.row.requestId = g.requestId with
      | none => return none
      | some r => do
          if !grantMatches check e.columns.capability e.binding.providerId r g then return none
          let items ← expect (env.parseJson g.columns.grantsJson) (.serialization "grants_json")
          return if itemMatches items r && grantCurrent env store check r g then some (r, g) else none

/-- The requests and decisions of the grants, none of them twice. -/
def coverGrants (check : BindingGrantCheck) (e : BindingEvidence) (durable : List DurableRequest) :
    List String → List (DurableRequest × GrantEvidence) →
    TaskResult (Option (List (DurableRequest × GrantEvidence)))
  | [], covered => .ok (some covered)
  | grantId :: rest, covered => do
      match ← coverGrant env store check e durable grantId with
      | none => return none
      | some (r, g) =>
          if (covered.any fun p => p.2.requestId = g.requestId) ||
              covered.any fun p => p.2.decision.decisionId = g.decision.decisionId then return none
          else coverGrants check e durable rest (covered ++ [(r, g)])

/-- The covered requests are all of them, and the decisions are those the binding lists. -/
def allCovered (e : BindingEvidence) (durable : List DurableRequest)
    (covered : List (DurableRequest × GrantEvidence)) : Bool :=
  (durable.all fun r => covered.any fun p => p.2.requestId = r.row.requestId) &&
    (covered.all fun p => e.columns.policyDecisionRefs.contains p.2.decision.decisionId) &&
    e.columns.policyDecisionRefs.all fun ref => covered.any fun p => p.2.decision.decisionId = ref

def bindingGrantsValid (check : BindingGrantCheck) : TaskResult Bool := do
  if 64 < check.grantRefs.length || !check.grantRefs.Nodup then return false
  match ← currentProvider checks store check with
  | none => return false
  | some e => do
      if 64 < e.columns.policyDecisionRefs.length || !e.columns.policyDecisionRefs.Nodup then
        return false
      let program ← expect (env.parseJson e.program.programJson) (.serialization "program_json")
      match declaredAuthority program check.nodeId e.columns.capability with
      | none => return false
      | some declared => do
          let durable := durableRequests store check e.binding.registrySnapshotId
          if !requestsMatch e.columns.capability e.binding.providerId declared durable then return false
          if check.grantRefs.length ≠ durable.length then return false
          match ← coverGrants env store check e durable check.grantRefs [] with
          | none => return false
          | some covered => return allCovered e durable covered

/-! ## 5. What a valid binding has -/

variable {env : Env (Tables ρ)} {checks : DocumentChecks ρ} {store : Store (Tables ρ)}

/-- The active program of the Task and its validation: stored, valid, for exactly this program. -/
structure ProgramValidated (checks : DocumentChecks ρ) (store : Store (Tables ρ)) (taskId hash : String)
    (p : ProgramRow) (v : ValidationRow) : Prop where
  program : p ∈ store.core.programs ∧ p.taskId = taskId ∧
    activeRevision store.core taskId = some p.programRevision ∧ p.status = "active"
  validation : v ∈ store.core.validations ∧ p.validationResultId = some v.validationResultId
  task : v.taskId = taskId
  valid : v.valid = true
  identity : v.programId = p.programId ∧ v.irVersion = p.irVersion ∧
    p.registrySnapshotId = some v.registrySnapshotId
  hash : p.semanticHash = some hash ∧ v.semanticHash = hash ∧
    checks.recomputeSemanticHash p.programJson = some hash

theorem activeProgramValidationValid_sound {taskId hash : String}
    (h : activeProgramValidationValid env checks store taskId hash = .ok true) :
    ∃ p v, ProgramValidated checks store taskId hash p v := by
  unfold activeProgramValidationValid at h
  split at h
  · cases h
  · next p hp =>
    split at h
    · cases h
    · next v hv =>
      rw [bind_eq_ok'] at h
      obtain ⟨snapshotId, hsnapshot, h⟩ := h
      rw [expect_ok] at hsnapshot
      split at h
      · cases h
      · next result _ =>
        have hgood := Except.ok.inj h
        simp only [resultMatches, Bool.and_eq_true, decide_eq_true_eq] at hgood
        obtain ⟨⟨⟨_, htask⟩, hrecomputed⟩, hmatches⟩ := hgood
        obtain ⟨⟨⟨⟨⟨⟨⟨⟨⟨⟨⟨⟨⟨⟨hprogram, hversion⟩, hvalid⟩, hhash⟩, hsnap⟩, _⟩, _⟩, _⟩, _⟩, _⟩, _⟩, _⟩, _⟩, _⟩,
          _⟩ := hmatches
        have hfound := List.find?_some hp
        simp only [Bool.and_eq_true, decide_eq_true_eq] at hfound
        obtain ⟨id, hid, hfind⟩ := Option.bind_eq_some_iff.mp hv
        have hkey : v.validationResultId = id := by simpa using List.find?_some hfind
        exact ⟨p, v, {
          program := ⟨List.mem_of_find?_eq_some hp, hfound.1.1.1, hfound.1.1.2, hfound.1.2⟩
          validation := ⟨List.mem_of_find?_eq_some hfind, by rw [hid, hkey]⟩
          task := htask
          valid := hvalid
          identity := ⟨hprogram, hversion, by rw [hsnapshot, hsnap]⟩
          hash := ⟨hfound.2, hhash, hrecomputed⟩ }⟩

/-- The decision was evaluated under the policy activation that is in force. -/
def PolicyCurrent (t : Tables ρ) (decisionId : String) : Prop :=
  ∃ e ∈ t.fingerprints, e.decisionId = decisionId ∧ e.activationRevision ∈ t.activations ∧
    ∀ revision ∈ t.activations, revision ≤ e.activationRevision

/-- The approval of this request: one decision approves it, in the scope of the grant, it is neither
    withdrawn nor run out, and the grant ends before it does. -/
structure Approved (env : Env (Tables ρ)) (store : Store (Tables ρ)) (check : BindingGrantCheck)
    (instant expires : Int) (scope approvalId : String) (r : DurableRequest) (a : ApprovalRow) : Prop where
  stored : a ∈ store.core.approvals
  identity : a.approvalId = approvalId
  request : a.authorityRequestId = r.row.requestId
  own : a.taskId = check.taskId ∧ a.semanticProgramHash = check.semanticHash ∧ a.nodeId = check.nodeId
  status : a.status = "APPROVED"
  kept : ∀ b ∈ store.core.other.approvalBindings, b.approvalId = approvalId → b.revokedAt = none
  expiry : ∀ text, a.expiresAt = some text → ∃ time, env.journal.rfc3339 text = some time ∧ instant < time
  decision : ∃ d c, approvingDecisions store a = [(d, c)] ∧ c.scope = scope ∧
    (scope = "TIME_LIMITED" → d.approvedUntil.isSome) ∧
    ∀ text, d.approvedUntil = some text → ∃ time, env.journal.rfc3339 text = some time ∧
      instant < time ∧ expires ≤ time

/-- The grant answers the request, at the time of the check. -/
structure GrantBacks (env : Env (Tables ρ)) (store : Store (Tables ρ)) (check : BindingGrantCheck)
    (provider : BindingEvidence) (r : DurableRequest) (g : GrantEvidence) : Prop where
  request : r ∈ durableRequests store check provider.binding.registrySnapshotId
  stored : g.grant ∈ store.core.grants
  columns : g.columns ∈ store.core.other.grantColumns ∧ g.columns.grantId = g.grant.grantId
  own : g.grant.taskId = check.taskId ∧ g.grant.executionBindingId = some check.bindingId ∧
    g.grant.attemptId = some check.attemptId ∧ g.columns.semanticProgramHash = check.semanticHash ∧
    g.columns.nodeId = check.nodeId
  principal : g.columns.capability = provider.columns.capability ∧
    g.columns.principalKind = "provider" ∧ g.columns.principalId = provider.binding.providerId
  active : g.grant.state = .active
  uses : ∀ max, g.columns.maxUses = some max → g.columns.usesConsumed < max
  decision : g.decision ∈ store.core.other.policyDecisions ∧
    g.decision.decisionId = g.grant.policyDecisionId ∧
    g.decision.authorityRequestId = r.row.requestId
  allowed : g.decision.decision = .allow ∧ g.decision.action = r.columns.action ∧
    g.decision.resourceKind = r.columns.resourceKind ∧ g.decision.resourceId = r.columns.resourceId ∧
    g.decision.policySnapshotId = g.columns.policySnapshotId
  item : ∃ items, env.parseJson g.columns.grantsJson = some items ∧ itemMatches items r = true
  policy : PolicyCurrent store.core.other g.grant.policyDecisionId
  time : ∃ expires instant, env.journal.rfc3339 g.grant.expiresAt = some expires ∧
    env.journal.rfc3339 check.checkedAt = some instant ∧ instant < expires ∧
    (g.grant.approvalId = none ∧ g.decision.approvalRequestId = none ∨
      ∃ approvalId a, g.grant.approvalId = some approvalId ∧
        g.decision.approvalRequestId = some approvalId ∧
        Approved env store check instant expires g.columns.scope approvalId r a)

/-- A binding whose provider is current and whose grants are the authority its node declares, one
    for one. -/
structure BindingAuthority (env : Env (Tables ρ)) (checks : DocumentChecks ρ) (store : Store (Tables ρ))
    (check : BindingGrantCheck) (provider : BindingEvidence) (declared : List (String × String)) :
    Prop where
  current : currentProvider checks store check = .ok (some provider)
  program : ∃ program, env.parseJson provider.program.programJson = some program ∧
    declaredAuthority program check.nodeId provider.columns.capability = some declared
  nodup : check.grantRefs.Nodup ∧ declared.Nodup
  grants : ∃ covered : List (DurableRequest × GrantEvidence),
    covered.map (fun p => p.2.grant.grantId) = check.grantRefs ∧
    (covered.map fun p => p.1.semantics).Perm declared ∧
    ∀ p ∈ covered, GrantBacks env store check provider p.1 p.2

theorem policyCurrent_of {g : GrantRow} {i : IssuanceRow} (hi : i ∈ store.core.issuances)
    (hissued : issuedBy g i = true) (hprofile : i.issuanceProfile = coordinatorProfile)
    (h : coordinatorGrantPolicyCurrent store g.grantId = .ok true) :
    PolicyCurrent store.core.other g.policyDecisionId := by
  have hall := List.all_eq_true.mp (Except.ok.inj h) i hi
  simp only [issuedBy, Bool.and_eq_true, decide_eq_true_eq] at hissued
  have hgrant : i.grantId = g.grantId := hissued.1.1.1.1.1.1
  simp only [hgrant, hprofile, ne_eq, not_true_eq_false, decide_false, Bool.false_or,
    List.any_eq_true, Bool.and_eq_true, decide_eq_true_eq] at hall
  obtain ⟨g', _, hissued', c, _, _, hevaluated⟩ := hall
  simp only [issuedBy, Bool.and_eq_true, decide_eq_true_eq] at hissued'
  simp only [evaluatedNow, List.any_eq_true, Bool.and_eq_true, decide_eq_true_eq,
    List.all_eq_true, List.contains_iff_mem] at hevaluated
  obtain ⟨k, _, _, e, he, ⟨⟨hdecision, _⟩, hmember⟩, hlatest⟩ := hevaluated
  refine ⟨e, he, ?_, hmember, hlatest⟩
  rw [hdecision, ← hissued'.1.2, hissued.1.2]

theorem approved_of {check : BindingGrantCheck} {instant expires : Int} {r : DurableRequest}
    {g : GrantEvidence} (hkept : approvalNotWithdrawn store.core.other g.grant.approvalId = true)
    (h : approvalValid env store check instant expires r g = true) :
    g.grant.approvalId = none ∧ g.decision.approvalRequestId = none ∨
      ∃ approvalId a, g.grant.approvalId = some approvalId ∧
        g.decision.approvalRequestId = some approvalId ∧
        Approved env store check instant expires g.columns.scope approvalId r a := by
  unfold approvalValid at h
  split at h
  · next hnone hnone' => exact .inl ⟨hnone, hnone'⟩
  · next approvalId decided hsome hdecided =>
    rw [Bool.and_eq_true, decide_eq_true_eq, Option.any_eq_true] at h
    obtain ⟨e, a, ha, hholds⟩ := h
    refine .inr ⟨approvalId, a, hsome, by rw [hdecided, e], ?_⟩
    have hfound := List.find?_some ha
    simp only [Bool.and_eq_true, decide_eq_true_eq] at hfound
    unfold approvalHolds at hholds
    split at hholds
    · next d c hdecisions =>
      simp only [Bool.and_eq_true, Bool.or_eq_true, decide_eq_true_eq] at hholds
      rw [hsome] at hkept
      exact {
        stored := List.mem_of_find?_eq_some ha
        identity := hfound.1.1.1.1.1.1.1
        request := hfound.1.1.1.1.1.1.2
        own := ⟨hfound.1.1.1.1.1.2, hfound.1.1.1.1.2, hfound.1.1.1.2⟩
        status := hfound.1.1.2
        kept := fun b hb hid => by
          have := List.all_eq_true.mp hkept b hb
          simpa [hid] using this
        expiry := fun text htext => by
          have hlater := hholds.1.1.2
          rw [htext] at hlater
          simpa [laterThan, Option.any_eq_true] using hlater
        decision := ⟨d, c, hdecisions, hholds.1.1.1, fun hscope => by
          rcases hholds.1.2 with hne | hsome
          · exact absurd hscope hne
          · exact hsome, fun text htext => by
          have hwithin := hholds.2
          rw [htext] at hwithin
          simpa [withinApproval, Option.any_eq_true] using hwithin⟩ }
    · cases hholds
  · cases h

/-- One turn of the loop. -/
theorem coverGrant_ok {check : BindingGrantCheck} {e : BindingEvidence} {grantId : String}
    {r : DurableRequest} {g : GrantEvidence}
    (h : coverGrant env store check e (durableRequests store check e.binding.registrySnapshotId)
      grantId = .ok (some (r, g))) :
    g.grant.grantId = grantId ∧ g.requestId = r.row.requestId ∧ GrantBacks env store check e r g := by
  unfold coverGrant at h
  rw [bind_eq_ok'] at h
  obtain ⟨current, hcurrent, h⟩ := h
  cases current with
  | false => cases h
  | true =>
  simp only [Bool.not_true, Bool.false_eq_true, if_false] at h
  split at h
  · cases h
  · next g' hg' =>
    cases hkept : approvalNotWithdrawn store.core.other g'.grant.approvalId with
    | false =>
        rw [hkept] at h
        cases h
    | true =>
    rw [hkept] at h
    simp only [Bool.not_true, Bool.false_eq_true, if_false] at h
    split at h
    · cases h
    · next r' hr' =>
      cases hmatches : grantMatches check e.columns.capability e.binding.providerId r' g' with
      | false =>
          rw [hmatches] at h
          cases h
      | true =>
      rw [hmatches] at h
      simp only [Bool.not_true, Bool.false_eq_true, if_false, bind_eq_ok', expect_ok] at h
      obtain ⟨items, hitems, h⟩ := h
      split at h
      · next hgood =>
        obtain ⟨rfl, rfl⟩ := Prod.mk.inj (Option.some.inj (Except.ok.inj h))
        rw [Bool.and_eq_true] at hgood
        obtain ⟨hitem, htime⟩ := hgood
        -- the rows the grant was joined from
        unfold grantEvidence at hg'
        simp only [Option.bind_eq_bind, Option.bind_eq_some_iff] at hg'
        obtain ⟨g₀, hg₀, c₀, hc₀, d₀, hd₀, q₀, hq₀, e₀⟩ := hg'
        have e₀ := Option.some.inj e₀
        subst e₀
        have hgrant := List.find?_some hg₀
        have hcolumns := List.find?_some hc₀
        have hdecision := List.find?_some hd₀
        have hrequest := List.find?_some hr'
        have hq := List.find?_some hq₀
        simp only [Bool.and_eq_true, decide_eq_true_eq, List.any_eq_true] at hgrant hcolumns hdecision
        simp only [decide_eq_true_eq] at hrequest hq
        obtain ⟨⟨⟨⟨⟨hid, htask⟩, hbinding⟩, hattempt⟩, hactive⟩, i, hi, hissued, hprofile⟩ := hgrant
        simp only [grantMatches, Bool.and_eq_true, Bool.not_eq_true', decide_eq_true_eq] at hmatches
        obtain ⟨⟨⟨⟨⟨⟨⟨⟨⟨⟨⟨⟨⟨⟨hcapability, hkind⟩, hprincipal⟩, hsnapshot⟩, _⟩, _⟩, _⟩, _⟩, _⟩, haction⟩,
          hresourceKind⟩, hresourceId⟩, hallow⟩, _⟩, _⟩ := hmatches
        simp only [grantCurrent, Option.any_eq_true, Bool.and_eq_true, decide_eq_true_eq] at htime
        obtain ⟨expires, hexpires, instant, hinstant, hlt, happroval⟩ := htime
        refine ⟨hid, hrequest.symm, ?_⟩
        exact {
          request := List.mem_of_find?_eq_some hr'
          stored := List.mem_of_find?_eq_some hg₀
          columns := ⟨List.mem_of_find?_eq_some hc₀, hcolumns.1.1.1.1⟩
          own := ⟨htask, hbinding, hattempt, hcolumns.1.1.1.2, hcolumns.1.1.2⟩
          principal := ⟨hcapability, hkind, hprincipal⟩
          active := hactive
          uses := fun max hmax => by
            have huses := hcolumns.2
            unfold usesLeft at huses
            rw [hmax] at huses
            exact of_decide_eq_true huses
          decision := ⟨List.mem_of_find?_eq_some hd₀, hdecision, by rw [hrequest, hq]⟩
          allowed := ⟨hallow, haction, hresourceKind, hresourceId, hsnapshot.symm⟩
          item := ⟨items, hitems, hitem⟩
          policy := policyCurrent_of hi hissued hprofile (by rw [hid]; exact hcurrent)
          time := ⟨expires, instant, hexpires, hinstant, hlt, approved_of hkept happroval⟩ }
      · cases h

/-- The loop: the grants in order, each with its request, and no request twice. -/
theorem coverGrants_ok {check : BindingGrantCheck} {e : BindingEvidence} {grantIds : List String}
    {covered all : List (DurableRequest × GrantEvidence)}
    (h : coverGrants env store check e (durableRequests store check e.binding.registrySnapshotId)
      grantIds covered = .ok (some all))
    (hnodup : (covered.map fun p => p.1.row.requestId).Nodup)
    (hbacks : ∀ p ∈ covered, p.2.requestId = p.1.row.requestId ∧ GrantBacks env store check e p.1 p.2) :
    (all.map fun p => p.2.grant.grantId) = (covered.map fun p => p.2.grant.grantId) ++ grantIds ∧
      (all.map fun p => p.1.row.requestId).Nodup ∧
      ∀ p ∈ all, GrantBacks env store check e p.1 p.2 := by
  induction grantIds generalizing covered with
  | nil =>
      have e : covered = all := Option.some.inj (Except.ok.inj h)
      rw [← e]
      exact ⟨(List.append_nil _).symm, hnodup, fun p hp => (hbacks p hp).2⟩
  | cons grantId rest ih =>
      rw [coverGrants, bind_eq_ok'] at h
      obtain ⟨turn, hturn, h⟩ := h
      cases turn with
      | none => cases h
      | some pair =>
          obtain ⟨r, g⟩ := pair
          obtain ⟨hid, hrequest, hgrant⟩ := coverGrant_ok hturn
          simp only at h
          split at h
          · cases h
          · next hnew =>
            rw [Bool.or_eq_true, not_or] at hnew
            have hfresh : r.row.requestId ∉ covered.map fun p => p.1.row.requestId := by
              intro hmem
              obtain ⟨p, hp, hsame⟩ := List.mem_map.mp hmem
              refine hnew.1 (List.any_eq_true.mpr ⟨p, hp, decide_eq_true ?_⟩)
              rw [(hbacks p hp).1, hsame, hrequest]
            obtain ⟨hids, hdistinct, hall⟩ := ih h
              (by
                rw [List.map_append, List.nodup_append]
                refine ⟨hnodup, List.nodup_singleton _, fun a ha b hb => ?_⟩
                rw [List.mem_singleton.mp hb]
                intro e
                rw [e] at ha
                exact hfresh ha)
              (by
                intro p hp
                rcases List.mem_append.mp hp with hold | hnew
                · exact hbacks p hold
                · rw [List.mem_singleton.mp hnew]
                  exact ⟨hrequest, hgrant⟩)
            refine ⟨?_, hdistinct, hall⟩
            rw [hids, List.map_append, List.append_assoc]
            simp [hid]

/-- **A binding that is accepted has the authority its node declares**, one grant for each request. -/
theorem bindingGrantsValid_sound {check : BindingGrantCheck}
    (h : bindingGrantsValid env checks store check = .ok true) :
    ∃ provider declared, BindingAuthority env checks store check provider declared := by
  unfold bindingGrantsValid at h
  split at h
  · cases h
  · next hrefs =>
    simp only [Bool.or_eq_true, decide_eq_true_eq, Bool.not_eq_true', decide_eq_false_iff_not, not_or,
      not_not] at hrefs
    rw [bind_eq_ok'] at h
    obtain ⟨current, hcurrent, h⟩ := h
    cases current with
    | none => cases h
    | some e =>
        dsimp only at h
        split at h
        · cases h
        · rw [bind_eq_ok'] at h
          obtain ⟨program, hprogram, h⟩ := h
          rw [expect_ok] at hprogram
          split at h
          · cases h
          · next declared hdeclared =>
            split at h
            · cases h
            · next hmatch =>
              split at h
              · cases h
              · next hlength =>
                rw [bind_eq_ok'] at h
                obtain ⟨covered, hcovered, h⟩ := h
                cases covered with
                | none => cases h
                | some covered =>
                    rw [Bool.not_eq_true', Bool.not_eq_false] at hmatch
                    simp only [requestsMatch, Bool.and_eq_true, decide_eq_true_eq, List.all_eq_true,
                      List.contains_iff_mem] at hmatch
                    obtain ⟨⟨⟨⟨⟨hsame, _⟩, hsemantics⟩, _⟩, hsub⟩, _⟩ := hmatch
                    obtain ⟨hids, hdistinct, hbacks⟩ :=
                      coverGrants_ok hcovered List.nodup_nil fun p hp => by cases hp
                    have hids : (covered.map fun p => p.2.grant.grantId) = check.grantRefs := hids
                    have hcount : covered.length = check.grantRefs.length := by
                      rw [← hids, List.length_map]
                    -- the covered requests are the stored ones
                    have hperm : (covered.map Prod.fst).Perm
                        (durableRequests store check e.binding.registrySnapshotId) := by
                      refine (List.subperm_of_subset ?_ fun r hr => ?_).perm_of_length_le ?_
                      · refine List.Nodup.of_map (fun r => r.row.requestId) ?_
                        rw [List.map_map]
                        exact hdistinct
                      · obtain ⟨p, hp, e⟩ := List.mem_map.mp hr
                        rw [← e]
                        exact (hbacks p hp).request
                      · rw [List.length_map]
                        omega
                    have hdeclare : ((durableRequests store check e.binding.registrySnapshotId).map
                        DurableRequest.semantics).Perm declared := by
                      refine (List.subperm_of_subset hsemantics hsub).perm_of_length_le ?_
                      rw [List.length_map]
                      omega
                    refine ⟨e, declared, hcurrent, ⟨program, hprogram, hdeclared⟩, ⟨hrefs.2, ?_⟩, covered,
                      hids, ?_, hbacks⟩
                    · exact hdeclare.nodup_iff.mp hsemantics
                    · have hmap := hperm.map DurableRequest.semantics
                      rw [List.map_map] at hmap
                      exact hmap.trans hdeclare

end Aios.Tasks
