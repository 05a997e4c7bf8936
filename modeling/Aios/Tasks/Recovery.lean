/-
  File:      Aios/Tasks/Recovery.lean
  Subject:   RECOVERY SUBJECTS (`load_recovery_subjects`), beside the enumeration of unresolved
             execution (`unresolved_execution_ids`, `unresolved_execution_count`).

  Invocations of providers and uses of credentials are settled by a stored result that repeats its
  row (`authenticatedProviderInvocationResolution`, `authenticatedCredentialUseResolution`); the two
  queries over them are built from it (`linkedChecks`).

  The subjects and the identifiers are two readings of the same tables. They differ in two places: the
  query over operations counts a live operation whose outcome is already certain, which the other two
  queries leave out, and a resolution that fails ends the loading of the subjects where the other
  reading counts the invocation as unresolved. Apart from these they agree
  (`recovery_enumerations_agree_iff`).
-/
import Mathlib.Data.Prod.Lex
import Aios.Registry.Version
import Aios.Tasks.Admission

namespace Aios.Tasks

open Lib Provenance

/-! ## 1. Rows -/

def Certainty.asStr : Certainty → String
  | .notStarted => "NOT_STARTED"
  | .startedNoEffect => "STARTED_NO_EFFECT"
  | .completed => "COMPLETED"
  | .failedNoEffect => "FAILED_NO_EFFECT"
  | .failedPartialEffect => "FAILED_PARTIAL_EFFECT"
  | .outcomeUnknown => "OUTCOME_UNKNOWN"

def StepState.asStr : StepState → String
  | .pending => "PENDING"
  | .blocked => "BLOCKED"
  | .ready => "READY"
  | .starting => "STARTING"
  | .running => "RUNNING"
  | .succeeded => "SUCCEEDED"
  | .failed => "FAILED"
  | .cancelled => "CANCELLED"
  | .skipped => "SKIPPED"
  | .unknown => "UNKNOWN"

def OperationState.asStr : OperationState → String
  | .prepared => "PREPARED"
  | .started => "STARTED"
  | .succeeded => "SUCCEEDED"
  | .failed => "FAILED"
  | .unknown => "UNKNOWN"
  | .cancelled => "CANCELLED"

inductive InvocationStatus where
  | pending
  | starting
  | running
  | succeeded
  | semanticFailure
  | providerFailure
  | startFailed
  | timedOut
  | cancelled
  | outputFinalizationFailed
  | authorityRevoked
  | outcomeUnknown
  deriving DecidableEq, Repr

def InvocationStatus.asStr : InvocationStatus → String
  | .pending => "PENDING"
  | .starting => "STARTING"
  | .running => "RUNNING"
  | .succeeded => "SUCCEEDED"
  | .semanticFailure => "SEMANTIC_FAILURE"
  | .providerFailure => "PROVIDER_FAILURE"
  | .startFailed => "START_FAILED"
  | .timedOut => "TIMED_OUT"
  | .cancelled => "CANCELLED"
  | .outputFinalizationFailed => "OUTPUT_FINALIZATION_FAILED"
  | .authorityRevoked => "AUTHORITY_REVOKED"
  | .outcomeUnknown => "OUTCOME_UNKNOWN"

/-- A row of `provider_invocations`. -/
structure InvocationRow where
  invocationId : String
  attemptId : String
  bindingId : String
  taskId : String
  providerId : String
  providerVersion : String
  status : InvocationStatus
  resultJson : Option String
  startedAt : Option String
  completedAt : Option String
  deriving DecidableEq

/-- A row of `credential_use_records`. -/
structure CredentialUseRow where
  requestId : String
  resultId : Option String
  taskId : String
  credentialId : String
  status : Option String
  resultJson : Option String
  requestedAt : String
  completedAt : Option String
  deriving DecidableEq

/-- An invocation with the binding it is joined to, if there is one, and the build of that binding. -/
structure StoredProviderInvocation where
  row : InvocationRow
  binding : Option BindingRow
  bindingProviderBuildHash : Option String
  deriving DecidableEq

/-- The two tables, and what the schemas and the canonical form say of their documents. -/
structure RecoveryReads (ρ : Type) where
  invocations : ρ → List InvocationRow
  credentialUses : ρ → List CredentialUseRow
  /-- `provider_invocation_result_validator`. -/
  invocationSchema : TaskResult (Json → Bool)
  /-- `credential_use_result_validator`. -/
  credentialSchema : TaskResult (Json → Bool)
  /-- `canonical_json`. -/
  canonicalJson : Json → TaskResult String

/-! ## 2. Resolutions -/

/-- What a recovery does about an outcome, and its reason. -/
def recoveryDisposition : Certainty → String × String
  | .notStarted => ("CREATE_NEW_ATTEMPT", "RECOVERY_NOT_STARTED")
  | .startedNoEffect => ("CREATE_NEW_ATTEMPT", "RECOVERY_STARTED_NO_EFFECT")
  | .completed => ("RECONCILE_STATE", "RECOVERY_COMPLETED")
  | .failedNoEffect => ("MARK_ATTEMPT_FAILED", "RECOVERY_FAILED_NO_EFFECT")
  | .failedPartialEffect => ("REQUIRE_EXTERNAL_RECONCILIATION", "RECOVERY_FAILED_PARTIAL_EFFECT")
  | .outcomeUnknown => ("REQUIRE_EXTERNAL_RECONCILIATION", "RECOVERY_OUTCOME_UNKNOWN")

structure RecoveryResolution where
  certainty : Certainty
  safeAction : String
  reasonCode : String
  eventStatus : String
  deriving DecidableEq, Repr

/-- An uncertain outcome resolves nothing. -/
def recoveryResolution (certainty : Certainty) : Option RecoveryResolution :=
  if certainty.uncertain then none
  else some {
    certainty := certainty
    safeAction := (recoveryDisposition certainty).1
    reasonCode := (recoveryDisposition certainty).2
    eventStatus := match certainty with
      | .completed => "success"
      | .notStarted => "cancelled"
      | _ => "failure" }

/-- The statuses under which a credential was refused before it was used. -/
def refusedUses : List String :=
  ["AUTHORITY_DENIED", "HANDLE_NOT_FOUND", "HANDLE_INACTIVE", "EXPIRED", "SCOPE_MISMATCH",
    "SERVICE_MISMATCH", "EXPORT_NOT_ALLOWED", "PROVIDER_BINDING_MISMATCH", "DELEGATION_FAILED",
    "SECURE_STORE_UNAVAILABLE", "EXTERNAL_AUTH_FAILED", "RATE_OR_USE_LIMIT", "CANCELLED"]

variable {ρ : Type} (env : Env (Tables ρ)) (checks : DocumentChecks ρ) (reads : RecoveryReads ρ)
  (store : Store (Tables ρ)) (taskId : String)

/-- The stored result repeats the columns of the invocation and of its binding. -/
def invocationResultMatches (record : StoredProviderInvocation) (binding : BindingRow)
    (startedAt completedAt : String) (result : Json) : Bool :=
  let row := record.row
  binding.attemptId = row.attemptId && binding.taskId = taskId &&
    binding.providerId = row.providerId && binding.providerVersion = row.providerVersion &&
    textAt result ["invocation_id"] = some row.invocationId &&
    textAt result ["task_id"] = some taskId &&
    textAt result ["execution_binding_id"] = some row.bindingId &&
    textAt result ["node_id"] = some binding.nodeId &&
    textAt result ["provider", "id"] = some row.providerId &&
    textAt result ["provider", "version"] = some row.providerVersion &&
    pointer result ["provider", "package_or_build_hash"] =
      some (record.bindingProviderBuildHash.elim .null .str) &&
    textAt result ["status"] = some row.status.asStr &&
    textAt result ["started_at"] = some startedAt &&
    textAt result ["completed_at"] = some completedAt

def authenticatedProviderInvocationResolution (record : StoredProviderInvocation) :
    TaskResult (Option RecoveryResolution) :=
  match record.row.resultJson, record.row.startedAt, record.row.completedAt, record.binding with
  | some resultJson, some startedAt, some completedAt, some binding =>
      match env.parseJson resultJson with
      | none => .ok none
      | some result => do
          let valid ← reads.invocationSchema
          if !valid result then return none
          let canonical ← reads.canonicalJson result
          if !(canonical = resultJson &&
              invocationResultMatches taskId record binding startedAt completedAt result) then
            return none
          return match record.row.status with
            | .succeeded => recoveryResolution .completed
            | .startFailed => recoveryResolution .notStarted
            | _ => none
  | _, _, _, _ => .ok none

def credentialResultMatches (record : CredentialUseRow) (resultId status completedAt : String)
    (result : Json) : Bool :=
  textAt result ["result_id"] = some resultId && textAt result ["request_id"] = some record.requestId &&
    textAt result ["task_id"] = some taskId &&
    textAt result ["credential_handle_id"] = some record.credentialId &&
    "credential://".toList.isPrefixOf record.credentialId.toList &&
    textAt result ["status"] = some status && textAt result ["completed_at"] = some completedAt &&
    (env.journal.rfc3339 completedAt).isSome

def credentialUseResolution (record : CredentialUseRow)
    (resultId status completedAt resultJson : String) : TaskResult (Option RecoveryResolution) := do
  let result ← expect (env.parseJson resultJson) (.serialization "invalid JSON")
  let valid ← reads.credentialSchema
  if !valid result then return none
  let canonical ← reads.canonicalJson result
  if !(canonical = resultJson &&
      credentialResultMatches env taskId record resultId status completedAt result) then return none
  if status = "ALLOWED_AND_USED" then return recoveryResolution .completed
  if status ∈ refusedUses then
    return some ⟨.failedNoEffect, "NO_ACTION", "RECOVERY_FAILED_NO_EFFECT", "denied"⟩
  return none

def authenticatedCredentialUseResolution (record : CredentialUseRow) : Option RecoveryResolution :=
  match record.resultId, record.status, record.completedAt, record.resultJson with
  | some resultId, some status, some completedAt, some resultJson =>
      (credentialUseResolution env reads taskId record resultId status completedAt
        resultJson).toOption.join
  | _, _, _, _ => none

/-! ## 3. The rows of a Task -/

/-- The left join of an invocation to its binding. -/
def joinBinding (row : InvocationRow) : StoredProviderInvocation where
  row := row
  binding := store.core.bindings.find? fun b => b.bindingId = row.bindingId
  bindingProviderBuildHash := (store.core.other.bindingColumns.find? fun c =>
    c.bindingId = row.bindingId).bind BindingColumns.providerBuildHash

def storedProviderInvocations : List StoredProviderInvocation :=
  (sortOn InvocationRow.invocationId ((reads.invocations store.core.other.rest).filter fun r =>
    r.taskId = taskId)).map (joinBinding store)

def storedCredentialUses : List CredentialUseRow :=
  sortOn CredentialUseRow.requestId ((reads.credentialUses store.core.other.rest).filter fun r =>
    r.taskId = taskId)

/-- Nothing stored resolves the invocation; a resolution that fails counts as none. -/
def invocationUnresolved (record : StoredProviderInvocation) : Bool :=
  (authenticatedProviderInvocationResolution env reads taskId record).toOption.join.isNone

def credentialUnresolved (record : CredentialUseRow) : Bool :=
  (authenticatedCredentialUseResolution env reads taskId record).isNone

def invocationInventoryId (record : StoredProviderInvocation) : String :=
  "provider-invocation:" ++ record.row.invocationId

def credentialInventoryId (record : CredentialUseRow) : String :=
  "credential-use:" ++ record.requestId

def unresolvedProviderInvocationIds : List String :=
  ((storedProviderInvocations reads store taskId).filter
    (invocationUnresolved env reads taskId)).map invocationInventoryId

def unresolvedCredentialUseIds : List String :=
  ((storedCredentialUses reads store taskId).filter (credentialUnresolved env reads taskId)).map
    credentialInventoryId

/-- The checks with the two queries of the Task Manager. -/
def linkedChecks : DocumentChecks ρ :=
  { checks with
    unresolvedProviderInvocationIds := fun store taskId =>
      .ok (unresolvedProviderInvocationIds env reads store taskId)
    unresolvedCredentialUseIds := fun store taskId =>
      .ok (unresolvedCredentialUseIds env reads store taskId) }

/-! ## 4. Subjects -/

inductive SubjectKind where
  | task
  | attempt
  | externalOperation
  | artifactPublication
  | authorityGrant
  deriving DecidableEq, Repr

def SubjectKind.asStr : SubjectKind → String
  | .task => "task"
  | .attempt => "attempt"
  | .externalOperation => "external-operation"
  | .artifactPublication => "artifact-publication"
  | .authorityGrant => "authority-grant"

/-- `RecoverySubject`. -/
structure LoadedSubject where
  kind : SubjectKind
  id : String
  evidenceKind : String
  certainty : Certainty
  safeAction : String
  reasonCode : String
  observation : String
  deriving DecidableEq, Repr

/-- A subject whose action follows from its certainty. -/
def disposed (kind : SubjectKind) (id evidenceKind : String) (certainty : Certainty)
    (observation : String) : LoadedSubject :=
  ⟨kind, id, evidenceKind, certainty, (recoveryDisposition certainty).1,
    (recoveryDisposition certainty).2, observation⟩

def attemptSubject (s : StepRow) : LoadedSubject :=
  disposed .attempt s.attemptId "attempt-record"
    ((certaintyOf store.core.other s.attemptId).getD .outcomeUnknown)
    s!"durable step state={s.state.asStr}; started_at={debugOption s.startedAt}"

/-- What is taken to be certain of an operation that records nothing. -/
def presumed (state : OperationState) : Certainty :=
  if state = .prepared then .notStarted else .outcomeUnknown

def operationSubject (o : OperationRow) : LoadedSubject :=
  disposed .externalOperation ("operation:" ++ o.operationId) "external-status"
    (o.outcomeCertainty.getD (presumed o.state)) s!"durable operation state={o.state.asStr}"

def invocationSubject (r : StoredProviderInvocation) : LoadedSubject :=
  disposed .externalOperation (invocationInventoryId r) "provider-runtime" .outcomeUnknown
    (s!"durable provider invocation status={r.row.status.asStr}; started_at=" ++
      debugOption r.row.startedAt)

def credentialSubject (r : CredentialUseRow) : LoadedSubject :=
  ⟨.externalOperation, credentialInventoryId r, "credential-record", .outcomeUnknown,
    "REQUIRE_EXTERNAL_RECONCILIATION", "RECOVERY_OUTCOME_UNKNOWN",
    s!"durable credential use status={debugOption r.status}; requested_at={r.requestedAt}; " ++
      s!"completed_at={debugOption r.completedAt}"⟩

def pendingSubject (p : PublicationRow) : LoadedSubject :=
  ⟨.artifactPublication, "publication:" ++ p.publicationId, "artifact-publication", .outcomeUnknown,
    "CLEAN_STAGING", "RECOVERY_ARTIFACT_STAGING_ONLY", "durable publication remains PENDING"⟩

def grantSubject (g : GrantRow) : LoadedSubject :=
  ⟨.authorityGrant, "grant:" ++ g.grantId, "grant-record", .outcomeUnknown, "REVOKE_GRANTS",
    "RECOVERY_EXTERNAL_RECONCILIATION_REQUIRED", "durable authority grant remains ACTIVE"⟩

def committedSubject (publicationId : String) : LoadedSubject :=
  ⟨.artifactPublication, "publication:" ++ publicationId, "blob-integrity", .failedPartialEffect,
    "FAIL_TASK", "RECOVERY_ARTIFACT_INTEGRITY_FAILED",
    "committed Artifact publication lacks complete authenticated structural or blob proof"⟩

/-- The operations a recovery lists: every live one, whatever is known of its outcome. -/
def listedOperations : List OperationRow :=
  store.core.other.operations.filter fun o =>
    o.taskId = taskId && (operationLive o || uncertain o.outcomeCertainty)

/-- The invocations without a resolution; one whose resolution fails ends the query. -/
def invocationSubjects : List StoredProviderInvocation → TaskResult (List LoadedSubject)
  | [] => .ok []
  | r :: rest => do
      let resolution ← authenticatedProviderInvocationResolution env reads taskId r
      let subjects ← invocationSubjects rest
      return if resolution.isSome then subjects else invocationSubject r :: subjects

def loadRecoverySubjects : TaskResult (List LoadedSubject) := do
  let invocations ← invocationSubjects env reads taskId (storedProviderInvocations reads store taskId)
  let committed ← unresolvedCommittedPublicationIds checks store taskId
  let subjects :=
    (sortOn StepRow.attemptId (unresolvedAttempts store taskId)).map (attemptSubject store) ++
    (sortOn OperationRow.operationId (listedOperations store taskId)).map operationSubject ++
    invocations ++
    ((storedCredentialUses reads store taskId).filter (credentialUnresolved env reads taskId)).map
      credentialSubject ++
    (sortOn PublicationRow.publicationId (pendingPublications store taskId)).map pendingSubject ++
    (sortOn GrantRow.grantId (activeGrants store.core taskId)).map grantSubject ++
    committed.map committedSubject
  return sortOn (fun s => toLex (s.kind.asStr, s.id)) subjects

/-- `recovery_subject_inventory_id`. -/
def LoadedSubject.inventoryId (s : LoadedSubject) : Option String :=
  match s.kind with
  | .task => none
  | .attempt => some ("attempt:" ++ s.id)
  | .externalOperation | .artifactPublication | .authorityGrant => some s.id

/-- The inventory the subjects cover. -/
def inventoryIds (subjects : List LoadedSubject) : List String :=
  subjects.filterMap LoadedSubject.inventoryId

/-- The inventory after older subjects were carried forward; `carried` says which can be. -/
def materializedInventory (subjects : List LoadedSubject) (carried : String → Bool)
    (operationIds : List String) : List String :=
  let loaded := (inventoryIds subjects).dedup
  loaded ++ operationIds.filter fun id => !loaded.contains id && carried id

/-! ## 5. The subjects that are loaded -/

/-- Every invocation has an answer. -/
def InvocationsAnswer : Prop :=
  ∀ r ∈ storedProviderInvocations reads store taskId,
    ∃ answer, authenticatedProviderInvocationResolution env reads taskId r = .ok answer

section Loaded

variable {env checks reads store taskId}

theorem invocationSubjects_ok {l : List StoredProviderInvocation} {subjects : List LoadedSubject}
    (h : invocationSubjects env reads taskId l = .ok subjects) :
    (∀ r ∈ l, ∃ answer, authenticatedProviderInvocationResolution env reads taskId r = .ok answer) ∧
      subjects = (l.filter (invocationUnresolved env reads taskId)).map invocationSubject := by
  induction l generalizing subjects with
  | nil =>
      cases h
      exact ⟨by simp, rfl⟩
  | cons r l ih =>
      simp only [invocationSubjects, bind_eq_ok'] at h
      obtain ⟨answer, hanswer, rest, hrest, e⟩ := h
      cases e
      obtain ⟨hall, hsubjects⟩ := ih hrest
      refine ⟨?_, ?_⟩
      · intro q hq
        rcases List.mem_cons.mp hq with rfl | hq
        · exact ⟨answer, hanswer⟩
        · exact hall q hq
      · have hunresolved : invocationUnresolved env reads taskId r = answer.isNone := by
          unfold invocationUnresolved
          rw [hanswer]
          rfl
        rw [List.filter_cons, hunresolved, hsubjects]
        cases answer <;> rfl

theorem invocationSubjects_total {l : List StoredProviderInvocation}
    (h : ∀ r ∈ l, ∃ answer, authenticatedProviderInvocationResolution env reads taskId r =
      .ok answer) : ∃ subjects, invocationSubjects env reads taskId l = .ok subjects := by
  induction l with
  | nil => exact ⟨[], rfl⟩
  | cons r l ih =>
      obtain ⟨answer, hanswer⟩ := h r List.mem_cons_self
      obtain ⟨rest, hrest⟩ := ih fun q hq => h q (List.mem_cons_of_mem r hq)
      rw [invocationSubjects, hanswer, ok_bind, hrest]
      exact ⟨_, rfl⟩

theorem mem_sortOn {α κ : Type} [LinearOrder κ] {key : α → κ} {l : List α} {a : α} :
    a ∈ sortOn key l ↔ a ∈ l := (sortOn_perm key l).mem_iff

variable (env reads store taskId) in
/-- The row a subject comes from; `committed` are the publications without proof. -/
inductive LoadedFrom (committed : List String) : LoadedSubject → Prop where
  | attempt {a : StepRow} (h : a ∈ unresolvedAttempts store taskId) :
      LoadedFrom committed (attemptSubject store a)
  | operation {o : OperationRow} (h : o ∈ listedOperations store taskId) :
      LoadedFrom committed (operationSubject o)
  | invocation {r : StoredProviderInvocation} (h : r ∈ storedProviderInvocations reads store taskId)
      (hopen : invocationUnresolved env reads taskId r = true) :
      LoadedFrom committed (invocationSubject r)
  | credential {r : CredentialUseRow} (h : r ∈ storedCredentialUses reads store taskId)
      (hopen : credentialUnresolved env reads taskId r = true) :
      LoadedFrom committed (credentialSubject r)
  | pending {p : PublicationRow} (h : p ∈ pendingPublications store taskId) :
      LoadedFrom committed (pendingSubject p)
  | grant {g : GrantRow} (h : g ∈ activeGrants store.core taskId) :
      LoadedFrom committed (grantSubject g)
  | committed {id : String} (h : id ∈ committed) : LoadedFrom committed (committedSubject id)

/-- **What a load that succeeds returns**: the subjects of these rows and no others. -/
theorem loadRecoverySubjects_ok {subjects : List LoadedSubject}
    (h : loadRecoverySubjects env checks reads store taskId = .ok subjects) :
    InvocationsAnswer env reads store taskId ∧
      ∃ committed, unresolvedCommittedPublicationIds checks store taskId = .ok committed ∧
        ∀ s, s ∈ subjects ↔ LoadedFrom env reads store taskId committed s := by
  unfold loadRecoverySubjects at h
  simp only [bind_eq_ok'] at h
  obtain ⟨invocations, hinvocations, committed, hcommitted, e⟩ := h
  cases e
  obtain ⟨hanswer, rfl⟩ := invocationSubjects_ok hinvocations
  refine ⟨hanswer, committed, hcommitted, fun s => ?_⟩
  simp only [mem_sortOn, List.mem_append, List.mem_map, List.mem_filter]
  constructor
  · intro h
    rcases h with (((((⟨a, ha, rfl⟩ | ⟨o, ho, rfl⟩) | ⟨r, ⟨hr, hopen⟩, rfl⟩) |
      ⟨r, ⟨hr, hopen⟩, rfl⟩) | ⟨p, hp, rfl⟩) | ⟨g, hg, rfl⟩) | ⟨id, hid, rfl⟩
    · exact .attempt ha
    · exact .operation ho
    · exact .invocation hr hopen
    · exact .credential hr hopen
    · exact .pending hp
    · exact .grant hg
    · exact .committed hid
  · intro h
    cases h with
    | attempt ha => exact .inl (.inl (.inl (.inl (.inl (.inl ⟨_, ha, rfl⟩)))))
    | operation ho => exact .inl (.inl (.inl (.inl (.inl (.inr ⟨_, ho, rfl⟩)))))
    | invocation hr hopen => exact .inl (.inl (.inl (.inl (.inr ⟨_, ⟨hr, hopen⟩, rfl⟩))))
    | credential hr hopen => exact .inl (.inl (.inl (.inr ⟨_, ⟨hr, hopen⟩, rfl⟩)))
    | pending hp => exact .inl (.inl (.inr ⟨_, hp, rfl⟩))
    | grant hg => exact .inl (.inr ⟨_, hg, rfl⟩)
    | committed hid => exact .inr ⟨_, hid, rfl⟩

variable {committed : List String}

theorem loadRecoverySubjects_total (hanswer : InvocationsAnswer env reads store taskId)
    (hcommitted : unresolvedCommittedPublicationIds checks store taskId = .ok committed) :
    ∃ subjects, loadRecoverySubjects env checks reads store taskId = .ok subjects := by
  obtain ⟨invocations, hinvocations⟩ := invocationSubjects_total hanswer
  unfold loadRecoverySubjects
  rw [hinvocations, ok_bind, hcommitted, ok_bind]
  exact ⟨_, rfl⟩

/-! ## 6. The identifiers -/

variable (env reads store taskId) in
/-- The row an unresolved identifier comes from. -/
inductive NamedBy (committed : List String) : String → Prop where
  | attempt {a : StepRow} (h : a ∈ unresolvedAttempts store taskId) :
      NamedBy committed ("attempt:" ++ a.attemptId)
  | operation {o : OperationRow} (h : o ∈ unresolvedOperations store taskId) :
      NamedBy committed ("operation:" ++ o.operationId)
  | invocation {r : StoredProviderInvocation} (h : r ∈ storedProviderInvocations reads store taskId)
      (hopen : invocationUnresolved env reads taskId r = true) :
      NamedBy committed (invocationInventoryId r)
  | credential {r : CredentialUseRow} (h : r ∈ storedCredentialUses reads store taskId)
      (hopen : credentialUnresolved env reads taskId r = true) :
      NamedBy committed (credentialInventoryId r)
  | pending {p : PublicationRow} (h : p ∈ pendingPublications store taskId) :
      NamedBy committed ("publication:" ++ p.publicationId)
  | grant {g : GrantRow} (h : g ∈ activeGrants store.core taskId) :
      NamedBy committed ("grant:" ++ g.grantId)
  | committed {id : String} (h : id ∈ committed) : NamedBy committed ("publication:" ++ id)

/-- The publications are checked the same way. -/
theorem linked_unresolvedAmong (l : List PublicationRow) :
    unresolvedAmong (linkedChecks env checks reads) store taskId l =
      unresolvedAmong checks store taskId l := by
  induction l with
  | nil => rfl
  | cons p l ih =>
      rw [unresolvedAmong, unresolvedAmong, ih]
      rfl

theorem linked_unresolvedCommitted :
    unresolvedCommittedPublicationIds (linkedChecks env checks reads) store taskId =
      unresolvedCommittedPublicationIds checks store taskId := linked_unresolvedAmong _

theorem unresolvedExecutionIds_eq
    (h : unresolvedCommittedPublicationIds checks store taskId = .ok committed) :
    ∃ ids, unresolvedExecutionIds (linkedChecks env checks reads) store taskId = .ok ids ∧
      ∀ x, x ∈ ids ↔ NamedBy env reads store taskId committed x := by
  unfold unresolvedExecutionIds
  rw [linked_unresolvedCommitted, h]
  refine ⟨_, rfl, fun x => ?_⟩
  simp only [mem_sortOn, List.mem_append, List.mem_map, unresolvedProviderInvocationIds,
    unresolvedCredentialUseIds, List.mem_filter]
  constructor
  · intro h
    rcases h with (((((⟨o, ho, rfl⟩ | ⟨a, ha, rfl⟩) | ⟨p, hp, rfl⟩) | ⟨g, hg, rfl⟩) |
      ⟨id, hid, rfl⟩) | ⟨r, ⟨hr, hopen⟩, rfl⟩) | ⟨r, ⟨hr, hopen⟩, rfl⟩
    · exact .operation ho
    · exact .attempt ha
    · exact .pending hp
    · exact .grant hg
    · exact .committed hid
    · exact .invocation hr hopen
    · exact .credential hr hopen
  · intro h
    cases h with
    | operation ho => exact .inl (.inl (.inl (.inl (.inl (.inl ⟨_, ho, rfl⟩)))))
    | attempt ha => exact .inl (.inl (.inl (.inl (.inl (.inr ⟨_, ha, rfl⟩)))))
    | pending hp => exact .inl (.inl (.inl (.inl (.inr ⟨_, hp, rfl⟩))))
    | grant hg => exact .inl (.inl (.inl (.inr ⟨_, hg, rfl⟩)))
    | committed hid => exact .inl (.inl (.inr ⟨_, hid, rfl⟩))
    | invocation hr hopen => exact .inl (.inr ⟨_, ⟨hr, hopen⟩, rfl⟩)
    | credential hr hopen => exact .inr ⟨_, ⟨hr, hopen⟩, rfl⟩

/-- Texts with different first letters are different, whatever follows. -/
theorem tag_ne {s t x y : String} {c d : Char} (hs : s.toList.head? = some c)
    (ht : t.toList.head? = some d) (h : c ≠ d) : s ++ x ≠ t ++ y := by
  intro e
  have hlist := congrArg (fun u : String => u.toList.head?) e
  simp only [String.toList_append, List.head?_append, hs, ht] at hlist
  exact h (Option.some.inj hlist)

/-- The identifier of an operation names an operation. -/
theorem named_operation {operationId : String}
    (h : NamedBy env reads store taskId committed ("operation:" ++ operationId)) :
    ∃ o ∈ unresolvedOperations store taskId, o.operationId = operationId := by
  generalize hx : "operation:" ++ operationId = x at h
  cases h with
  | operation ho => exact ⟨_, ho, (String.append_right_inj _).mp hx.symm⟩
  | attempt => exact absurd hx (tag_ne rfl rfl (by decide))
  | invocation => exact absurd hx (tag_ne rfl rfl (by decide))
  | credential => exact absurd hx (tag_ne rfl rfl (by decide))
  | pending => exact absurd hx (tag_ne rfl rfl (by decide))
  | grant => exact absurd hx (tag_ne rfl rfl (by decide))
  | committed => exact absurd hx (tag_ne rfl rfl (by decide))

/-- Nothing is loose but grants. -/
structure OnlyGrants (env : Env (Tables ρ)) (reads : RecoveryReads ρ) (store : Store (Tables ρ))
    (taskId : String) (committed : List String) : Prop where
  operations : unresolvedOperations store taskId = []
  attempts : unresolvedAttempts store taskId = []
  pending : pendingPublications store taskId = []
  credentials : ∀ r ∈ storedCredentialUses reads store taskId,
    credentialUnresolved env reads taskId r = false
  invocations : ∀ r ∈ storedProviderInvocations reads store taskId,
    invocationUnresolved env reads taskId r = false
  committed : committed = []

theorem unresolvedExecutionCount_eq
    (h : unresolvedCommittedPublicationIds checks store taskId = .ok committed) :
    ∃ n, unresolvedExecutionCount (linkedChecks env checks reads) store taskId = .ok n ∧
      (n = 0 ↔ OnlyGrants env reads store taskId committed) := by
  unfold unresolvedExecutionCount
  rw [linked_unresolvedCommitted, h]
  refine ⟨_, rfl, ?_⟩
  simp only [unresolvedProviderInvocationIds, unresolvedCredentialUseIds, List.length_map,
    Nat.add_eq_zero_iff, List.length_eq_zero_iff, List.filter_eq_nil_iff, Bool.not_eq_true]
  constructor
  · intro ⟨⟨⟨⟨⟨h1, h2⟩, h3⟩, h4⟩, h5⟩, h6⟩
    exact ⟨h1, h2, h3, h4, h5, h6⟩
  · intro h
    exact ⟨⟨⟨⟨⟨h.operations, h.attempts⟩, h.pending⟩, h.credentials⟩, h.invocations⟩, h.committed⟩

end Loaded

/-! ## 7. Where the two enumerations agree -/

/-- The subjects and the identifiers name the same inventory, the count is zero exactly where both
    are about grants only, and an inventory over the identifiers fails the comparison of sizes only
    for want of an older subject that could be carried forward. -/
structure EnumerationsAgree (store : Store (Tables ρ)) (taskId : String)
    (subjects : List LoadedSubject) (ids : List String) (n : Nat) : Prop where
  same : ∀ x, x ∈ inventoryIds subjects ↔ x ∈ ids
  count : n = 0 ↔ (∀ s ∈ subjects, s.kind = .authorityGrant) ∧
    ∀ x ∈ ids, ∃ g ∈ activeGrants store.core taskId, x = "grant:" ++ g.grantId
  sizes : ∀ (operationIds : List String) (carried : String → Bool), operationIds.Nodup →
    (∀ x ∈ ids, x ∈ operationIds) →
    (materializedInventory subjects carried operationIds).length ≠ operationIds.length →
    ∃ x ∈ operationIds, x ∉ ids ∧ carried x = false

/-- The three queries agree: all of them fail, or they return the same unresolved work. -/
def RecoveryEnumerationsAgree : Prop :=
  match loadRecoverySubjects env checks reads store taskId,
    unresolvedExecutionIds (linkedChecks env checks reads) store taskId,
    unresolvedExecutionCount (linkedChecks env checks reads) store taskId with
  | .ok subjects, .ok ids, .ok n => EnumerationsAgree store taskId subjects ids n
  | .error _, .error _, .error _ => True
  | _, _, _ => False

/-- No live operation has an outcome that is already certain. -/
def NoneSettledWhileLive : Prop :=
  ∀ o ∈ store.core.other.operations, o.taskId = taskId → operationLive o = true →
    o.outcomeCertainty = none ∨ uncertain o.outcomeCertainty = true

section Agreement

variable {env checks reads store taskId}

theorem listed_unresolved (h : NoneSettledWhileLive store taskId) :
    listedOperations store taskId = unresolvedOperations store taskId := by
  unfold listedOperations unresolvedOperations
  refine List.filter_congr fun o ho => ?_
  unfold operationUnresolved
  by_cases htask : o.taskId = taskId
  · cases hlive : operationLive o with
    | false => simp
    | true =>
        rcases h o ho htask hlive with hnone | huncertain
        · simp [htask, hnone, uncertain]
        · simp [htask, huncertain]
  · simp [htask]

variable {subjects : List LoadedSubject}

theorem mem_inventoryIds {x : String} :
    x ∈ inventoryIds subjects ↔ ∃ s ∈ subjects, s.inventoryId = some x := List.mem_filterMap

/-- Rows that are read alike name the same inventory. -/
theorem same_inventory (h : NoneSettledWhileLive store taskId) {committed : List String}
    (hsubjects : ∀ s, s ∈ subjects ↔ LoadedFrom env reads store taskId committed s) (x : String) :
    x ∈ inventoryIds subjects ↔ NamedBy env reads store taskId committed x := by
  rw [mem_inventoryIds]
  constructor
  · rintro ⟨s, hs, hx⟩
    cases (hsubjects s).mp hs with
    | attempt ha => exact Option.some.inj hx ▸ .attempt ha
    | operation ho => exact Option.some.inj hx ▸ .operation (listed_unresolved h ▸ ho)
    | invocation hr hopen => exact Option.some.inj hx ▸ .invocation hr hopen
    | credential hr hopen => exact Option.some.inj hx ▸ .credential hr hopen
    | pending hp => exact Option.some.inj hx ▸ .pending hp
    | grant hg => exact Option.some.inj hx ▸ .grant hg
    | committed hid => exact Option.some.inj hx ▸ .committed hid
  · intro hx
    cases hx with
    | attempt ha => exact ⟨_, (hsubjects _).mpr (.attempt ha), rfl⟩
    | operation ho => exact ⟨_, (hsubjects _).mpr (.operation ((listed_unresolved h).symm ▸ ho)), rfl⟩
    | invocation hr hopen => exact ⟨_, (hsubjects _).mpr (.invocation hr hopen), rfl⟩
    | credential hr hopen => exact ⟨_, (hsubjects _).mpr (.credential hr hopen), rfl⟩
    | pending hp => exact ⟨_, (hsubjects _).mpr (.pending hp), rfl⟩
    | grant hg => exact ⟨_, (hsubjects _).mpr (.grant hg), rfl⟩
    | committed hid => exact ⟨_, (hsubjects _).mpr (.committed hid), rfl⟩

/-- Where only grants are loose, subjects and identifiers are about grants, and the other way round. -/
theorem onlyGrants_iff (h : NoneSettledWhileLive store taskId) {committed ids : List String}
    (hsubjects : ∀ s, s ∈ subjects ↔ LoadedFrom env reads store taskId committed s)
    (hids : ∀ x, x ∈ ids ↔ NamedBy env reads store taskId committed x) :
    OnlyGrants env reads store taskId committed ↔ (∀ s ∈ subjects, s.kind = .authorityGrant) ∧
        ∀ x ∈ ids, ∃ g ∈ activeGrants store.core taskId, x = "grant:" ++ g.grantId := by
  constructor
  · intro hgrants
    refine ⟨fun s hs => ?_, fun x hx => ?_⟩
    · cases (hsubjects s).mp hs with
      | attempt ha => rw [hgrants.attempts] at ha; cases ha
      | operation ho => rw [listed_unresolved h, hgrants.operations] at ho; cases ho
      | invocation hr hopen => rw [hgrants.invocations _ hr] at hopen; cases hopen
      | credential hr hopen => rw [hgrants.credentials _ hr] at hopen; cases hopen
      | pending hp => rw [hgrants.pending] at hp; cases hp
      | grant hg => rfl
      | committed hid => rw [hgrants.committed] at hid; cases hid
    · cases (hids x).mp hx with
      | attempt ha => rw [hgrants.attempts] at ha; cases ha
      | operation ho => rw [hgrants.operations] at ho; cases ho
      | invocation hr hopen => rw [hgrants.invocations _ hr] at hopen; cases hopen
      | credential hr hopen => rw [hgrants.credentials _ hr] at hopen; cases hopen
      | pending hp => rw [hgrants.pending] at hp; cases hp
      | grant hg => exact ⟨_, hg, rfl⟩
      | committed hid => rw [hgrants.committed] at hid; cases hid
  · rintro ⟨hall, -⟩
    have hkind : ∀ s, LoadedFrom env reads store taskId committed s → s.kind = .authorityGrant :=
      fun s hs => hall s ((hsubjects s).mpr hs)
    refine ⟨?_, ?_, ?_, ?_, ?_, ?_⟩
    · rw [← listed_unresolved h, List.eq_nil_iff_forall_not_mem]
      intro o ho
      cases hkind _ (.operation ho)
    · rw [List.eq_nil_iff_forall_not_mem]
      intro a ha
      cases hkind _ (.attempt ha)
    · rw [List.eq_nil_iff_forall_not_mem]
      intro p hp
      cases hkind _ (.pending hp)
    · intro r hr
      rw [← Bool.not_eq_true]
      intro hopen
      cases hkind _ (.credential hr hopen)
    · intro r hr
      rw [← Bool.not_eq_true]
      intro hopen
      cases hkind _ (.invocation hr hopen)
    · rw [List.eq_nil_iff_forall_not_mem]
      intro id hid
      cases hkind _ (.committed hid)

/-- With the same inventory, the sizes differ only where an older subject is not carried forward. -/
theorem sizes_of_same {ids : List String}
    (hsame : ∀ x, x ∈ inventoryIds subjects ↔ x ∈ ids) {operationIds : List String}
    {carried : String → Bool} (hnodup : operationIds.Nodup) (hsub : ∀ x ∈ ids, x ∈ operationIds)
    (hdiffer : (materializedInventory subjects carried operationIds).length ≠ operationIds.length) :
    ∃ x ∈ operationIds, x ∉ ids ∧ carried x = false := by
  by_contra hnone
  push Not at hnone
  apply hdiffer
  refine List.Perm.length_eq ((List.perm_ext_iff_of_nodup ?_ hnodup).mpr fun x => ?_)
  · refine List.Nodup.append (List.nodup_dedup _) (hnodup.filter _) ?_
    intro x hx hfilter
    have hnot := (List.mem_filter.mp hfilter).2
    simp only [Bool.and_eq_true, Bool.not_eq_true', List.contains_eq_mem, decide_eq_false_iff_not] at hnot
    exact hnot.1 hx
  · unfold materializedInventory
    simp only [List.mem_append, List.mem_dedup, List.mem_filter, Bool.and_eq_true, Bool.not_eq_true',
      List.contains_eq_mem, decide_eq_false_iff_not, hsame]
    constructor
    · rintro (hx | ⟨hx, -⟩)
      · exact hsub x hx
      · exact hx
    · intro hx
      by_cases hmem : x ∈ ids
      · exact .inl hmem
      · exact .inr ⟨hx, hmem, by simpa using hnone x hx hmem⟩

end Agreement

/-- **The enumerations of unresolved work agree exactly** where the publications cannot be checked at
    all, or where no live operation has an outcome that is already certain and every invocation has
    an answer. The identifiers of operations are a primary key. -/
theorem recovery_enumerations_agree_iff
    (hkeys : (store.core.other.operations.map OperationRow.operationId).Nodup) :
    RecoveryEnumerationsAgree env checks reads store taskId ↔
      (∃ e, unresolvedCommittedPublicationIds checks store taskId = .error e) ∨
        (NoneSettledWhileLive store taskId ∧ InvocationsAnswer env reads store taskId) := by
  unfold RecoveryEnumerationsAgree
  cases hcommitted : unresolvedCommittedPublicationIds checks store taskId with
  | error e =>
      -- every query checks the publications
      refine iff_of_true ?_ (.inl ⟨e, rfl⟩)
      have hload : ∃ e', loadRecoverySubjects env checks reads store taskId = .error e' := by
        cases hl : loadRecoverySubjects env checks reads store taskId with
        | error e' => exact ⟨e', rfl⟩
        | ok subjects =>
            obtain ⟨-, committed, hok, -⟩ := loadRecoverySubjects_ok hl
            rw [hcommitted] at hok
            cases hok
      obtain ⟨e', he'⟩ := hload
      rw [he']
      unfold unresolvedExecutionIds unresolvedExecutionCount
      rw [linked_unresolvedCommitted, hcommitted]
      exact trivial
  | ok committed =>
      obtain ⟨ids, hids, hnamed⟩ : ∃ ids,
          unresolvedExecutionIds (linkedChecks env checks reads) store taskId = .ok ids ∧
            ∀ x, x ∈ ids ↔ NamedBy env reads store taskId committed x :=
        unresolvedExecutionIds_eq hcommitted
      obtain ⟨n, hn, hcount⟩ : ∃ n,
          unresolvedExecutionCount (linkedChecks env checks reads) store taskId = .ok n ∧
            (n = 0 ↔ OnlyGrants env reads store taskId committed) :=
        unresolvedExecutionCount_eq hcommitted
      rw [hids, hn]
      cases hload : loadRecoverySubjects env checks reads store taskId with
      | error e =>
          refine iff_of_false (fun h => h) ?_
          rintro (⟨e', he'⟩ | ⟨-, hanswer⟩)
          · cases he'
          · obtain ⟨subjects, hsubjects⟩ := loadRecoverySubjects_total hanswer hcommitted
            rw [hsubjects] at hload
            cases hload
      | ok subjects =>
          obtain ⟨hanswer, committed', hsame, hsubjects⟩ := loadRecoverySubjects_ok hload
          cases hcommitted.symm.trans hsame
          constructor
          · intro hagree
            refine .inr ⟨fun o ho htask hlive => ?_, hanswer⟩
            -- a live operation is listed, so its identifier names an unresolved one: itself
            have hlisted : o ∈ listedOperations store taskId := by
              unfold listedOperations
              simp [ho, htask, hlive]
            have hmem : "operation:" ++ o.operationId ∈ inventoryIds subjects :=
              mem_inventoryIds.mpr ⟨_, (hsubjects _).mpr (.operation hlisted), rfl⟩
            obtain ⟨o', ho', hid⟩ := named_operation ((hnamed _).mp ((hagree.same _).mp hmem))
            have hparts := List.mem_filter.mp ho'
            have heq : o' = o := List.inj_on_of_nodup_map hkeys hparts.1 ho hid
            have hunresolved := hparts.2
            rw [heq] at hunresolved
            simp only [operationUnresolved, Bool.and_eq_true, Bool.or_eq_true] at hunresolved
            rcases hunresolved.2 with huncertain | ⟨-, hnone⟩
            · exact .inr huncertain
            · exact .inl (Option.isNone_iff_eq_none.mp hnone)
          · rintro (⟨e', he'⟩ | ⟨hnone, -⟩)
            · cases he'
            · have hinventory : ∀ x, x ∈ inventoryIds subjects ↔ x ∈ ids := fun x =>
                (same_inventory hnone hsubjects x).trans (hnamed x).symm
              refine ⟨hinventory, hcount.trans (onlyGrants_iff hnone hsubjects hnamed), ?_⟩
              intro operationIds carried hnodup hsub hdiffer
              exact sizes_of_same hinventory hnodup hsub hdiffer

/-! ## 8. An operation that ended before it was recorded as over -/

/-- No invocations and no uses. -/
def idleRecovery : RecoveryReads Unit where
  invocations := fun _ => []
  credentialUses := fun _ => []
  invocationSchema := .ok fun _ => true
  credentialSchema := .ok fun _ => true
  canonicalJson := fun value => .ok (plainText value)

/-- A Task whose only loose work is these operations. -/
def operationStore (operations : List OperationRow) : Store (Tables Unit) :=
  Store.empty deniedLease deniedClock { grantedTables with operations := operations }

/-- The operation is still UNKNOWN, its outcome is known: nothing is unresolved, and yet there is a
    subject for it. -/
def settledWhileUnknown : Store (Tables Unit) :=
  operationStore [⟨"op", "t", .unknown, some .failedNoEffect⟩]

theorem settled_operation_is_listed :
    (loadRecoverySubjects tableEnv goodDocuments idleRecovery settledWhileUnknown "t").map
        inventoryIds = .ok ["operation:op"] ∧
      unresolvedExecutionIds (linkedChecks tableEnv goodDocuments idleRecovery) settledWhileUnknown
        "t" = .ok [] ∧
      unresolvedExecutionCount (linkedChecks tableEnv goodDocuments idleRecovery) settledWhileUnknown
        "t" = .ok 0 ∧
      ¬RecoveryEnumerationsAgree tableEnv goodDocuments idleRecovery settledWhileUnknown "t" := by
  have hload : (loadRecoverySubjects tableEnv goodDocuments idleRecovery settledWhileUnknown
      "t").map inventoryIds = .ok ["operation:op"] := by decide +kernel
  have hids : unresolvedExecutionIds (linkedChecks tableEnv goodDocuments idleRecovery)
      settledWhileUnknown "t" = .ok [] := by decide +kernel
  have hcount : unresolvedExecutionCount (linkedChecks tableEnv goodDocuments idleRecovery)
      settledWhileUnknown "t" = .ok 0 := by decide +kernel
  refine ⟨hload, hids, hcount, fun h => ?_⟩
  obtain ⟨subjects, hsubjects, hinventory⟩ := map_eq_ok.mp hload
  unfold RecoveryEnumerationsAgree at h
  rw [hsubjects, hids, hcount] at h
  have hmem : "operation:op" ∈ inventoryIds subjects := by
    rw [hinventory]
    exact List.mem_cons_self
  cases (h.same _).mp hmem

theorem unknown_operation_agrees :
    RecoveryEnumerationsAgree tableEnv goodDocuments idleRecovery
      (operationStore [⟨"op", "t", .unknown, none⟩]) "t" := by
  refine (recovery_enumerations_agree_iff tableEnv goodDocuments idleRecovery _ _
    (by decide)).mpr (.inr ⟨fun o ho _ _ => ?_, fun r hr => ?_⟩)
  · rw [List.mem_singleton.mp ho]
    exact .inl rfl
  · cases hr

end Aios.Tasks
