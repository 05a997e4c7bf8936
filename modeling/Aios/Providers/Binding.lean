/-
  File:      Aios/Providers/Binding.lean
  Subject:   THE INSERT OF AN EXECUTION BINDING under the guards of the provider registry.

  A binding pins its evidence and its trust source. The guards compare both pins, and the columns of
  the receipt, with the tables as they are at the insert; the same statement leaves three markers
  behind: the evidence, the trust source and the epoch of the registration. The guard of reserved
  candidates is not among them (Policy/Reserve.lean).
-/
import Aios.Providers.Store

namespace Aios.Providers

open Lib Registry Tasks Provenance

/-! ## 1. The receipt of a binding -/

section Receipt

variable (env : ProviderEnv)

/-- At most 64 references, none twice. -/
def validRefs (refs : List String) : Bool := refs.length ≤ 64 && refs.Nodup

def refsJson (refs : List String) : Json := .arr (refs.map .str)

/-- `as_i64` of a positive number. -/
def isAttempt (value : Json) (attempt : Nat) : Bool :=
  (value.get? "attempt").bind asU64 = some attempt && attempt ≤ Registry.maxI64

/-- `BindingReceiptProjection::matches_columns`. -/
def matchesColumns (value : Json) (b : BindingRow) : Bool :=
  match env.parseStrictValue b.columns.placementJson with
  | none => false
  | some placement =>
      1 ≤ b.columns.attempt && (env.instant b.columns.createdAt).isSome &&
        validRefs b.columns.policyDecisionRefs && validRefs b.row.grantRefs && placement.asObj.isSome &&
        textAt value ["schema_version"] = some "0.1" &&
        textAt value ["binding_id"] = some b.row.bindingId &&
        textAt value ["attempt_id"] = some b.row.attemptId &&
        textAt value ["task_id"] = some b.row.taskId &&
        textAt value ["semantic_program_hash"] = some b.row.semanticProgramHash &&
        textAt value ["registry_snapshot_id"] = some b.row.registrySnapshotId &&
        textAt value ["ir_version"] = some b.columns.irVersion &&
        textAt value ["node_id"] = some b.row.nodeId &&
        textAt value ["capability"] = some b.columns.capability &&
        textAt value ["capability_contract_hash"] = b.columns.capabilityContractHash &&
        textAt value ["provider", "id"] = some b.row.providerId &&
        textAt value ["provider", "version"] = some b.row.providerVersion &&
        textAt value ["provider", "manifest_hash"] = b.columns.providerManifestHash &&
        textAt value ["provider", "package_or_build_hash"] = b.columns.providerBuildHash &&
        isAttempt value b.columns.attempt &&
        value.get? "policy_decision_refs" = some (refsJson b.columns.policyDecisionRefs) &&
        pointer value ["authority", "grant_refs"] = some (refsJson b.row.grantRefs) &&
        textAt value ["execution_profile", "profile_ref"] = some b.columns.executionProfileRef &&
        value.get? "placement" = some placement && ((value.get? "inputs").bind Json.asObj).isSome &&
        ((value.get? "outputs").bind Json.asObj).isSome &&
        textAt value ["created_at"] = some b.columns.createdAt

/-- A pin has 1 to 256 characters. -/
def boundedPin (value : Json) (name : String) : Option String :=
  (textAt value [name]).filter fun pin => 1 ≤ pin.length && pin.length ≤ 256

/-- `aios_binding_evidence_pin_v1`. -/
def evidencePin (bindingJson : String) : Option String :=
  (env.parseStrictValue bindingJson).bind fun value => boundedPin value "conformance_evidence_id"

/-- `aios_binding_trust_pin_v1`. -/
def trustPin (bindingJson : String) : Option String :=
  (env.parseStrictValue bindingJson).bind fun value => boundedPin value "provider_trust_source_id"

/-- `aios_binding_receipt_matches_v1`. -/
def bindingReceiptMatches (b : BindingRow) : Bool :=
  (env.parseStrictValue b.columns.bindingJson).any fun value =>
    b.columns.capabilityContractHash.isSome && b.columns.providerManifestHash.isSome &&
      b.columns.providerBuildHash.isSome && env.bindingSchema value && matchesColumns env value b &&
      (boundedPin value "conformance_evidence_id").isSome &&
      (boundedPin value "provider_trust_source_id").isSome

end Receipt

/-! ## 2. The guards -/

section Guards

variable (env : ProviderEnv) (db : ProviderDb) (b : BindingRow)

/-- The registration the binding names. -/
def boundRegistration : Option RegistrationRow := b.columns.providerRegistrationId.bind db.registration?

/-- The evidence the binding pins. -/
def pinnedEvidence : Option ConformanceRow := (evidencePin env b.columns.bindingJson).bind db.evidence?

/-- `execution_binding_no_duplicate_insert`. -/
def bindingKnown : Bool :=
  db.bindings.any fun p => p.row.bindingId = b.row.bindingId || p.row.attemptId = b.row.attemptId ||
    (p.row.taskId = b.row.taskId && p.row.semanticProgramHash = b.row.semanticProgramHash &&
      p.row.nodeId = b.row.nodeId && p.columns.attempt = b.columns.attempt)

/-- `execution_binding_provider_identity_at_insert`. -/
def identityMatches : Bool :=
  (boundRegistration db b).any fun r =>
    b.columns.providerManifestHash = some r.registration.manifestHash &&
      b.columns.providerBuildHash = some r.registration.buildHash &&
      r.registration.providerId = b.row.providerId &&
      r.registration.providerVersion = b.row.providerVersion && bindingReceiptMatches env b

/-- `CAST(substr(capability, instr(capability, '@') + 1) AS INTEGER)`. -/
def capabilityMajor (capability : String) : Nat :=
  match capability.toList.dropWhile fun c => c ≠ '@' with
  | _ :: rest => digitsValue (rest.takeWhile isAsciiDigit)
  | [] => digitsValue (capability.toList.takeWhile isAsciiDigit)

/-- The snapshot of the binding lists the contract under the capability of the binding. -/
def snapshotLists (c : ContractRow) : Bool :=
  db.semantic.entries.any fun s => s.snapshotId = b.row.registrySnapshotId &&
    s.contractClass = .capability && s.semanticId = c.semanticId && s.fullVersion = c.fullVersion &&
    s.contentHash = c.contentHash && s.major = capabilityMajor b.columns.capability &&
    b.columns.capability = c.semanticId ++ "@" ++ toString s.major

/-- What the evidence of a binding has to repeat. -/
def bindingMatch (r : ProviderRegistration) (e : ConformanceRow) (capability contractVersion contractHash
    suiteId suiteHash suiteVersion : String) (evaluatedAt : Option Int) : EvidenceMatch where
  evidenceId := e.evidenceId
  providerId := r.providerId
  providerVersion := r.providerVersion
  buildHash := r.buildHash
  capability := capability
  contractVersion := contractVersion
  contractHash := contractHash
  suiteId := suiteId
  suiteHash := suiteHash
  suiteVersion := suiteVersion
  status := e.status
  testedAt := e.testedAt.getD ""
  evaluatedAt := evaluatedAt

/-- The claim and the evidence agree with the contract and with the binding. -/
def evidenceAdmitted (r : ProviderRegistration) (manifestJson : String) (c : ContractRow)
    (e : ConformanceRow) : Bool :=
  match e.contractHash, e.suiteId, e.suiteHash,
      env.jsonExtract c.contractJson ["conformance", "suite_version"] with
  | some contractHash, some suiteId, some suiteHash, some suiteVersion =>
      snapshotLists db b c && (env.parseStrictValue c.contractJson).isSome &&
        manifestClaimMatchesRegistration env manifestJson r e.capability c.fullVersion contractHash suiteId
          suiteHash && e.testedAt.isSome &&
        evidenceMatchesBinding env e.evidenceJson (bindingMatch r e b.columns.capability c.fullVersion
          c.contentHash suiteId suiteHash suiteVersion (env.instant b.columns.createdAt))
  | _, _, _, _ => false

/-- `execution_binding_evidence_present_at_insert`. -/
def evidencePresent : Bool :=
  (pinnedEvidence env db b).any fun e =>
    b.columns.providerRegistrationId = some e.registrationId && e.capability = b.columns.capability &&
      e.contractHash.isSome && e.contractHash = b.columns.capabilityContractHash && e.status = "pass" &&
      (boundRegistration db b).any fun r => (db.manifest? r.registrationId).any fun manifestJson =>
        (b.columns.capabilityContractHash.bind (db.semantic.contract? .capability)).any fun c =>
          evidenceAdmitted env db b r.registration manifestJson c e

/-- `aios_rfc3339_compare_v1(a, b) <= 0`. -/
def notAfter (a b : Option String) : Bool :=
  match a.bind env.instant, b.bind env.instant with
  | some s, some t => s ≤ t
  | _, _ => false

/-- `execution_binding_evidence_not_future`. -/
def evidenceNotFuture : Bool :=
  (pinnedEvidence env db b).any fun e => notAfter env e.testedAt (some b.columns.createdAt)

/-- `aios_evidence_unexpired_at_v1`. -/
def evidenceUnexpiredAt (evidenceJson createdAt : String) : Bool :=
  match env.parseStrictValue evidenceJson, env.instant createdAt with
  | some evidence, some created =>
      match evidence.get? "expires_at" with
      | none | some .null => true
      | some (.str text) => (env.instant text).any fun expires => created < expires
      | some _ => false
  | _, _ => false

/-- `execution_binding_evidence_unexpired_at_insert`. -/
def evidenceUnexpired : Bool :=
  (pinnedEvidence env db b).any fun e => evidenceUnexpiredAt env e.evidenceJson b.columns.createdAt

/-- The results of the suite of the pinned one. -/
def rivals (e : ConformanceRow) : List ConformanceRow :=
  db.evidence.filter fun o => o.registrationId = e.registrationId && o.capability = e.capability &&
    e.contractHash.isSome && o.contractHash = e.contractHash && o.suiteId = e.suiteId &&
    o.suiteHash = e.suiteHash

/-- `execution_binding_evidence_latest_at_insert`. -/
def evidenceLatest : Bool :=
  (pinnedEvidence env db b).any fun e => e.suiteId.isSome && e.suiteHash.isSome &&
    e.contractHash.isSome && e.status = "pass" && notAfter env e.testedAt (some b.columns.createdAt) &&
    ((rivals db e).all fun o => (o.testedAt.bind env.instant).isSome &&
      (env.instant b.columns.createdAt).isSome) &&
    (rivals db e).all fun o => o.evidenceId = e.evidenceId ||
      !(notAfter env o.testedAt (some b.columns.createdAt) && notAfter env e.testedAt o.testedAt)

/-- The trust source the insert finds in force: the last decision effective by the creation of the
    binding, or the registration of a build that was trusted from the start. -/
def trustSourceAtInsert (r : RegistrationRow) : Option String :=
  match ((db.admissionsOf r.registrationId).filter fun a =>
      sqlNotAfter env.time a.admittedAt.toList b.columns.createdAt.toList).getLast? with
  | some a => some a.admissionId
  | none => if r.trustStatus.permitsExecution then some r.registrationId else none

/-- `execution_binding_trust_marker_insert`. -/
def trustCurrent : Bool :=
  (boundRegistration db b).any fun r => r.state = .registered && !r.trustStatus.isTerminal &&
    (r.trustStatus.permitsExecution || !(db.admissionsOf r.registrationId).isEmpty) &&
    (trustPin env b.columns.bindingJson).isSome &&
    trustPin env b.columns.bindingJson = trustSourceAtInsert env db b r

/-- The time of the pinned trust source. -/
def trustSourceTime (r : RegistrationRow) (pin : String) : Option String :=
  match (db.admissionsOf r.registrationId).find? fun a => a.admissionId = pin with
  | some a => some a.admittedAt
  | none => if r.registrationId = pin then some r.registeredAt else none

/-- `execution_binding_trust_not_future`. -/
def trustNotFuture : Bool :=
  (boundRegistration db b).any fun r => (trustPin env b.columns.bindingJson).any fun pin =>
    (trustSourceTime db r pin).any fun time =>
      sqlNotAfter env.time time.toList b.columns.createdAt.toList

/-- `execution_binding_enablement_marker_insert`. -/
def enabledNow : Bool :=
  (boundRegistration db b).any fun r => r.state = .registered &&
    (db.epochsOf r.registrationId).any fun e => e.state = .registered &&
      r.updatedAt = some e.transitionedAt && db.lastEpoch? r.registrationId = some e.revision

/-- `execution_binding_provider_enablement_not_future`. -/
def enablementNotFuture : Bool :=
  (boundRegistration db b).any fun r => r.state = .registered &&
    r.updatedAt.any fun time => sqlNotAfter env.time time.toList b.columns.createdAt.toList

/-- `semantic_repair_binding_insert`. -/
def attestationCurrent : Bool :=
  db.semantic.usable? b.row.registrySnapshotId = some .admitted &&
    (!db.repaired || (boundRegistration db b).any fun r => db.usable r.registration.snapshotId)

end Guards

/-! ## 3. The statement -/

section Insert

variable (env : ProviderEnv) (db : ProviderDb)

/-- The markers the insert leaves behind. -/
def withMarkers (b : BindingRow) : ProviderDb :=
  { db with
    bindings := db.bindings ++ [b]
    admissionMarkers := db.admissionMarkers ++
      ((evidencePin env b.columns.bindingJson).map fun pin => (b.row.bindingId, pin)).toList
    trustMarkers := db.trustMarkers ++
      ((trustPin env b.columns.bindingJson).map fun pin => (b.row.bindingId, pin)).toList
    enablementMarkers := db.enablementMarkers ++
      (b.columns.providerRegistrationId.bind fun id => (db.lastEpoch? id).map fun revision =>
        ⟨b.row.bindingId, id, revision⟩).toList }

/-- The binding has left markers already. -/
def markersKnown (bindingId : String) : Bool :=
  (db.admissionMarkers.any fun m => m.1 = bindingId) || (db.trustMarkers.any fun m => m.1 = bindingId) ||
    db.enablementMarkers.any fun m => m.bindingId = bindingId

def insertBinding (b : BindingRow) : ProviderResult ProviderDb := do
  abortIf (bindingKnown db b) "execution binding cannot be replaced"
  abortIf (!identityMatches env db b) "binding provider identity does not match registration"
  abortIf (evidencePin env b.columns.bindingJson).isNone
    "binding requires a valid conformance evidence pin"
  abortIf (!evidencePresent env db b) "binding conformance evidence was not admitted"
  abortIf (!evidenceNotFuture env db b) "binding predates pinned conformance evidence"
  abortIf (!evidenceUnexpired env db b) "binding conformance evidence expired at creation"
  abortIf (!evidenceLatest env db b) "binding conformance evidence is not latest"
  abortIf (!trustCurrent env db b) "binding requires current trusted provider admission"
  abortIf (!trustNotFuture env db b) "binding predates provider trust admission"
  abortIf (!enabledNow db b) "binding requires current provider enablement interval"
  abortIf (!enablementNotFuture env db b) "binding predates provider enablement"
  abortIf (!attestationCurrent db b) "binding requires current semantic re-attestation"
  abortIf (markersKnown db b.row.bindingId)
    "execution binding admission marker cannot be backfilled or replaced"
  abortIf (db.semantic.snapshot? b.row.registrySnapshotId).isNone "FOREIGN KEY constraint failed"
  return withMarkers env db b

/-- Every guard of the insert holds. -/
structure Admissible (b : BindingRow) : Prop where
  fresh : bindingKnown db b = false
  identity : identityMatches env db b = true
  pin : (evidencePin env b.columns.bindingJson).isNone = false
  present : evidencePresent env db b = true
  notFuture : evidenceNotFuture env db b = true
  unexpired : evidenceUnexpired env db b = true
  latest : evidenceLatest env db b = true
  trust : trustCurrent env db b = true
  trustTime : trustNotFuture env db b = true
  enabled : enabledNow db b = true
  enablementTime : enablementNotFuture env db b = true
  attested : attestationCurrent db b = true
  unmarked : markersKnown db b.row.bindingId = false
  snapshot : (db.semantic.snapshot? b.row.registrySnapshotId).isNone = false

/-- **The insert goes through exactly when every guard holds, and leaves the binding and its
    markers.** -/
theorem insertBinding_ok {b : BindingRow} {db' : ProviderDb} :
    insertBinding env db b = .ok db' ↔ Admissible env db b ∧ db' = withMarkers env db b := by
  unfold insertBinding
  simp only [bind_eq_ok', exists_unit, abortIf_ok, Bool.not_eq_false']
  constructor
  · rintro ⟨h1, h2, h3, h4, h5, h6, h7, h8, h9, h10, h11, h12, h13, h14, h⟩
    exact ⟨⟨h1, h2, h3, h4, h5, h6, h7, h8, h9, h10, h11, h12, h13, h14⟩, (Except.ok.inj h).symm⟩
  · rintro ⟨⟨h1, h2, h3, h4, h5, h6, h7, h8, h9, h10, h11, h12, h13, h14⟩, rfl⟩
    exact ⟨h1, h2, h3, h4, h5, h6, h7, h8, h9, h10, h11, h12, h13, h14, rfl⟩

end Insert

end Aios.Providers
