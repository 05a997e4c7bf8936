/-
  File:      Aios/Providers/Launch.lean
  Subject:   WHAT A LAUNCH READS of the provider store before it uses a binding.

  The launch gate trusts no marker by itself. It searches the newest result of the suite again
  (`latestConformanceEvidenceId`), rebuilds the identity and the receipt of the registration, walks its
  trust decisions and compares both snapshots (`verifiedProviderAdmission`), and judges the evidence at
  the creation of the binding and at the time of the check (`conformanceValid`). `launchChecks` puts
  these into the gate of Tasks/Authority.lean, `launchStore` puts the provider tables under it.
-/
import Aios.Providers.Binding

namespace Aios.Providers

open Lib Registry Tasks

/-- What the launch gate calls beside the provider store. -/
structure LaunchEnv extends ProviderEnv where
  /-- `parse_strict_json` under the default limits. -/
  parseSnapshot : String → Option RegistrySnapshot
  parseType : String → Option TypeContract
  parseCapability : String → Option CapabilityContract
  /-- `serde_json::from_str`. -/
  parseJson : String → Option Json

section Gate

variable (env : LaunchEnv) (db : ProviderDb)

/-! ## 1. The newest result -/

/-- The suite of a recorded claim, where the claim is for this capability and contract. -/
def claimSuite (capability : String) (contractHash : Option String) (claim : Json) :
    Option (String × String) := do
  let id ← textAt claim ["capability"]
  let version ← textAt claim ["version"]
  let version ← (FullVersion.parse version).toOption
  let hash ← claim.get? "contract_hash"
  if capability ≠ id ++ "@" ++ toString version.major || hash.asStr ≠ contractHash then none
  let suite ← textAt claim ["conformance_suite"]
  let suiteHash ← textAt claim ["conformance_suite_hash"]
  return (suite, suiteHash)

/-- The suite of the one claim of the receipt for this capability and contract. -/
def claimedSuite (receipt : Json) (capability : String) (contractHash : Option String) :
    Option (String × String) := do
  let claims ← (receipt.get? "capabilities").bind Json.asArr
  match claims.filterMap (claimSuite capability contractHash) with
  | [suite] => some suite
  | _ => none

/-- The row of the binding that is checked. -/
def checkedBinding (check : BindingGrantCheck) : Option BindingRow :=
  db.bindings.find? fun b => b.row.bindingId = check.bindingId && b.row.attemptId = check.attemptId &&
    b.row.taskId = check.taskId && b.row.semanticProgramHash = check.semanticHash &&
    b.row.nodeId = check.nodeId

/-- The results of the claimed suite; a result without a suite takes no part. -/
def claimedRows (registrationId capability : String) (contractHash : Option String)
    (suite : String × String) : List ConformanceRow :=
  db.evidence.filter fun e => e.registrationId = registrationId && e.capability = capability &&
    e.contractHash.isSome && e.contractHash = contractHash && e.suiteId = some suite.1 &&
    e.suiteHash = some suite.2

/-- `latest_conformance_evidence_id`; its search is that of `valid_passes`. -/
def latestConformanceEvidenceId (check : BindingGrantCheck) : Option String := do
  let b ← checkedBinding db check
  let r ← boundRegistration db b
  let checked ← env.instant check.checkedAt
  let receipt ← env.parseStrictValue r.registrationJson
  let suite ← claimedSuite receipt b.columns.capability b.columns.capabilityContractHash
  let found ← uniqueNewest env.toProviderEnv checked
    (claimedRows db r.registrationId b.columns.capability b.columns.capabilityContractHash suite)
  return found.evidenceId

/-! ## 2. The receipt of the binding -/

/-- `evidence_pin_matches` of a receipt that has to carry its pin. -/
def evidencePinMatches (value : Json) (latestId : String) : Bool :=
  boundedPin value "conformance_evidence_id" = some latestId

/-- `binding_receipt_projection`. -/
def launchReceiptMatches (e : BindingEvidence) : Bool :=
  (env.parseStrictValue e.columns.bindingJson).any fun value => env.bindingSchema value &&
    matchesColumns env.toProviderEnv value ⟨e.binding, e.columns⟩ &&
    evidencePinMatches value e.conformance.evidenceId &&
    (boundedPin value "provider_trust_source_id").isSome

/-! ## 3. The registration, rebuilt -/

def canonicalJson (value : Json) : TaskResult String := (env.canonicalText value).mapError .canonicalization

/-- The registration is the one the binding names. -/
def registrationBound (e : BindingEvidence) (r : RegistrationRow) : Bool :=
  r.registration.providerId = e.binding.providerId &&
    r.registration.providerVersion = e.binding.providerVersion &&
    e.columns.providerManifestHash = some r.registration.manifestHash &&
    e.columns.providerBuildHash = some r.registration.buildHash && (env.instant r.registeredAt).isSome

/-- The manifest has the identity of the registration. -/
def identityRebuilt (p : ProviderRegistration) (m : CapabilityManifest) (manifestJson : String) : Bool :=
  m.id = p.providerId && m.version = p.providerVersion &&
    digest env.toProviderEnv manifestDomain manifestJson = p.manifestHash &&
    registrationIdentity env.toProviderEnv p.providerId p.providerVersion p.manifestHash p.buildHash =
      p.registrationId

/-- The stored manifest: canonical, of its schema, and of the identity of the registration. -/
def launchManifest (p : ProviderRegistration) (manifestJson : String) :
    TaskResult (Option CapabilityManifest) :=
  match env.parseDocument .manifest manifestJson with
  | .error _ => .ok none
  | .ok value => do
      let canonical ← canonicalJson env value
      if canonical ≠ manifestJson || (env.schemaError .manifest value).isSome then return none
      match env.decodeManifest value with
      | .error _ => return none
      | .ok m => return if identityRebuilt env p m manifestJson then some m else none

/-- The receipt repeats the columns of the registration. -/
def receiptRepeats (r : RegistrationRow) (receipt : Json) : Bool :=
  textAt receipt ["registration_id"] = some r.registrationId &&
    textAt receipt ["provider", "id"] = some r.registration.providerId &&
    textAt receipt ["provider", "version"] = some r.registration.providerVersion &&
    textAt receipt ["provider", "manifest_hash"] = some r.registration.manifestHash &&
    textAt receipt ["package", "content_hash"] = some r.registration.buildHash &&
    textAt receipt ["registry_snapshot_id"] = some r.registration.snapshotId &&
    textAt receipt ["registered_at"] = some r.registeredAt &&
    textAt receipt ["trust", "status"] = some r.trustStatus.asStr

/-- The stored receipt: canonical, of its schema, with the columns of the registration. -/
def launchReceipt (r : RegistrationRow) : TaskResult (Option Json) :=
  match env.parseDocument .registration r.registrationJson with
  | .error _ => .ok none
  | .ok receipt => do
      let canonical ← canonicalJson env receipt
      return if canonical ≠ r.registrationJson || (env.schemaError .registration receipt).isSome ||
          !receiptRepeats r receipt then none
        else some receipt

/-- The receipt has recorded the claim. -/
def claimRecorded (claim : ProviderCapability) (recorded : Json) : Bool :=
  textAt recorded ["capability"] = some claim.capability &&
    textAt recorded ["version"] = some claim.version &&
    textAt recorded ["contract_hash"] = claim.contractHash &&
    textAt recorded ["conformance_suite"] = some claim.suite &&
    textAt recorded ["conformance_suite_hash"] = claim.suiteHash &&
    textAt recorded ["conformance_status"] = some "declared" &&
    recorded.get? "eligible" = some (.bool false)

/-- The claim is for the capability and contract of the binding and for the suite of its evidence. -/
def claimBound (e : BindingEvidence) (claim : ProviderCapability) : Bool :=
  match FullVersion.parse claim.version with
  | .error _ => false
  | .ok version =>
      e.columns.capability = claim.capability ++ "@" ++ toString version.major &&
        claim.contractHash = e.columns.capabilityContractHash &&
        some claim.suite = e.conformance.suiteId && claim.suiteHash = e.conformance.suiteHash

/-- Every claim is recorded, and one of them is the claim of the binding. -/
def claimsRecorded (e : BindingEvidence) (m : CapabilityManifest) (receipt : Json) : Bool :=
  match (receipt.get? "capabilities").bind Json.asArr with
  | none => false
  | some recorded =>
      recorded.length = m.provides.length &&
        ((m.provides.zip recorded).all fun p => claimRecorded p.1 p.2 &&
          (FullVersion.parse p.1.version).isOk) &&
        (m.provides.filter (claimBound e)).length = 1

/-! ## 4. The snapshots -/

/-- The contracts of one kind of a stored snapshot. -/
def loadContracts {α : Type} (kind : ContractKind) (parse : String → Option α) (snapshotId : String) :
    Option (List α) :=
  ((db.semantic.entriesOf snapshotId).filter fun e => e.contractClass = kind).mapM fun e =>
    (db.semantic.contract? kind e.contentHash).bind fun c => parse c.contractJson

/-- `load_admitted_semantic_registry`. -/
def loadAdmittedSemanticRegistry (snapshotId : String) : Option SemanticRegistry := do
  let row ← db.semantic.snapshot? snapshotId
  let snapshot ← env.parseSnapshot row.manifestJson
  let types ← loadContracts db .type env.parseType snapshotId
  let capabilities ← loadContracts db .capability env.parseCapability snapshotId
  let registry ← (buildRegistry env.store.build snapshot types capabilities strictOptions).toOption
  if registry.snapshotId = snapshotId then some registry else none

/-- The manifest fits the registry it was registered under, and its claim for the binding fits the one
    the binding selected. -/
def compatible (e : BindingEvidence) (p : ProviderRegistration) (m : CapabilityManifest) : Bool :=
  db.usable p.snapshotId &&
    match loadAdmittedSemanticRegistry env db p.snapshotId,
        loadAdmittedSemanticRegistry env db e.binding.registrySnapshotId with
    | some origin, some selected =>
        (env.validateProviderManifest origin m).accepted &&
          (env.validateProviderManifest selected
            { m with provides := m.provides.filter (claimBound e) }).accepted
    | _, _ => false

/-- `verified_provider_receipt_and_compatibility`. -/
def verifiedProviderReceiptAndCompatibility (e : BindingEvidence) (checkedAt : String) : TaskResult Bool :=
  match e.columns.providerRegistrationId.bind fun id => (db.registration? id).bind fun r =>
      (db.manifest? id).map fun manifestJson => (r, manifestJson) with
  | none => .ok false
  | some (r, manifestJson) => do
      let p := r.registration
      if !registrationBound env e r then return false
      match ← launchManifest env p manifestJson with
      | none => return false
      | some m => do
          if !(verifyProviderRegistrationReceipt env.toProviderEnv p m r.trustStatus r.registeredAt
              r.registrationJson).isOk then return false
          match verifiedProviderTrustSourceAt env.toProviderEnv db p m checkedAt with
          | .error _ => return false
          | .ok (trust, _) => do
              if !trust.permitsExecution then return false
              match ← launchReceipt env r with
              | none => return false
              | some receipt => return claimsRecorded e m receipt && compatible env db e p m

/-! ## 5. The trust source -/

/-- The source in force at `checked`, of decisions that are read from the last one on. -/
def expectedSource (registrationId : String) (checked : Int) : List TrustAdmissionRow → Option String
  | [] => some registrationId
  | a :: earlier => do
      let admitted ← env.instant a.admittedAt
      if admitted ≤ checked then some a.admissionId
      else expectedSource registrationId checked earlier

/-- `verified_provider_admission`. -/
def verifiedProviderAdmission (e : BindingEvidence) (checkedAt : String) : TaskResult Bool := do
  if db.quarantined.contains e.binding.bindingId then return false
  let compatible ← verifiedProviderReceiptAndCompatibility env db e checkedAt
  if !compatible then return false
  match e.columns.providerRegistrationId, env.instant checkedAt with
  | some id, some checked =>
      match expectedSource env id checked (db.admissionsOf id).reverse with
      | none => return false
      | some expected =>
          return (db.trustMarkers.find? fun m => m.1 = e.binding.bindingId).map Prod.snd = some expected &&
            trustPin env.toProviderEnv e.columns.bindingJson = some expected
  | _, _ => return false

end Gate

/-! ## 6. The evidence -/

/-- Digits without a leading zero. -/
def canonicalVersionComponent (value : List Char) : Bool :=
  !value.isEmpty && value.all isAsciiDigit && (value = ['0'] || value.head? ≠ some '0')

/-- The identifier and the major of a capability reference. -/
def capabilitySelector (value : String) : Option (String × String) := do
  let (id, major) ← rsplitOnce '@' value.toList
  if 5 ≤ value.utf8ByteSize && value.utf8ByteSize ≤ 160 && 3 ≤ (String.ofList id).utf8ByteSize &&
      (String.ofList id).utf8ByteSize ≤ 160 &&
      headTail isAsciiLowercase (fun c => isAsciiLowercase c || isAsciiDigit c || c = '_' || c = '.' ||
        c = '-') id && canonicalVersionComponent major then
    some (String.ofList id, String.ofList major)
  else none

/-- The major of a version of two or three parts. -/
def fullVersionMajor (value : String) : Option String :=
  let components := splitChar '.' value.toList
  if value.utf8ByteSize ≤ 64 && 2 ≤ components.length && components.length ≤ 3 &&
      components.all canonicalVersionComponent then
    components.head?.map String.ofList
  else none

/-- An algorithm, a colon and hexadecimal digits. -/
def contractContentHash (value : String) : Bool :=
  let algorithm := value.toList.takeWhile fun c => c ≠ ':'
  let digits := (value.toList.dropWhile fun c => c ≠ ':').drop 1
  value.toList.contains ':' && !algorithm.isEmpty &&
    (algorithm.all fun c => isAsciiLowercase c || isAsciiDigit c || c = '_' || c = '-') &&
    !digits.isEmpty && digits.all fun c => isAsciiDigit c || ('a' ≤ c && c ≤ 'f') || ('A' ≤ c && c ≤ 'F')

/-- The loop of `snapshot_contract`: every entry is well formed, at most one is the one asked for. -/
def snapshotContracts (id major : String) (matched : Option (String × String)) :
    List Json → Option (Option (String × String))
  | [] => some matched
  | contract :: rest => do
      let _ ← contract.asObj
      let found ← textAt contract ["id"]
      let version ← textAt contract ["version"]
      let contentHash ← textAt contract ["content_hash"]
      if found.utf8ByteSize < 3 || 160 < found.utf8ByteSize || !contractContentHash contentHash then none
      else if found ≠ id then snapshotContracts id major matched rest
      else do
        let foundMajor ← fullVersionMajor version
        if foundMajor ≠ major then snapshotContracts id major matched rest
        else if matched.isSome then none
        else snapshotContracts id major (some (version, contentHash)) rest

/-- `snapshot_contract`: the version and the hash of the contract of a capability. -/
def snapshotContract (value : Json) (capability : String) : Option (String × String) := do
  let (id, major) ← capabilitySelector capability
  let contracts ← (value.get? "capability_contracts").bind Json.asArr
  (snapshotContracts id major none contracts).bind fun matched => matched

section Gate

variable (env : LaunchEnv) (db : ProviderDb)

/-- `admitted_suite_version`. -/
def admittedSuiteVersion (e : BindingEvidence) : Option String := do
  let registry ← loadAdmittedSemanticRegistry env db e.binding.registrySnapshotId
  let (capability, major) ← rsplitOnce '@' e.columns.capability.toList
  let major ← parseU64 major
  let contract ← registry.capabilityContract (String.ofList capability) major
  contract.conformance.suiteVersion

/-- What the evidence of the binding has to repeat. -/
def launchMatch (e : BindingEvidence) (buildHash contractVersion contractHash suiteId suiteHash
    suiteVersion testedAt : String) (evaluatedAt : Option Int) : EvidenceMatch where
  evidenceId := e.conformance.evidenceId
  providerId := e.binding.providerId
  providerVersion := e.binding.providerVersion
  buildHash := buildHash
  capability := e.columns.capability
  contractVersion := contractVersion
  contractHash := contractHash
  suiteId := suiteId
  suiteHash := suiteHash
  suiteVersion := suiteVersion
  status := e.conformance.status
  testedAt := testedAt
  evaluatedAt := evaluatedAt

/-- `conformance_evidence_valid` under an admitted suite version. -/
def conformanceEvidenceValid (e : BindingEvidence) (contractVersion contractHash checkedAt suiteVersion : String) :
    Bool :=
  match e.columns.providerBuildHash, e.conformance.suiteId, e.conformance.suiteHash,
      e.conformance.testedAt with
  | some buildHash, some suiteId, some suiteHash, some testedAt =>
      let expected := launchMatch e buildHash contractVersion contractHash suiteId suiteHash suiteVersion testedAt
      notAfter env.toProviderEnv (some e.columns.createdAt) (some checkedAt) &&
        evidenceMatchesBinding env.toProviderEnv e.conformance.evidenceJson
          (expected (env.instant e.columns.createdAt)) &&
        evidenceMatchesBinding env.toProviderEnv e.conformance.evidenceJson
          (expected (env.instant checkedAt))
  | _, _, _, _ => false

/-- The contract of the selected snapshot and the evidence agree with the binding. -/
def conformanceValid (e : BindingEvidence) (checkedAt : String) : TaskResult Bool := do
  let snapshot ← expect (env.parseJson e.snapshot.manifestJson) (.serialization "manifest_json")
  match snapshotContract snapshot e.columns.capability with
  | none => return false
  | some (version, contentHash) =>
      match admittedSuiteVersion env db e with
      | none => return false
      | some suiteVersion =>
          return e.columns.capabilityContractHash = some contentHash &&
            conformanceEvidenceValid env e version contentHash checkedAt suiteVersion

/-! ## 7. The gate over the provider tables -/

end Gate

/-- The columns of a registration the launch query reads. -/
def RegistrationRow.shown (r : RegistrationRow) : Tasks.RegistrationRow where
  registrationId := r.registrationId
  providerId := r.registration.providerId
  providerVersion := r.registration.providerVersion
  manifestHash := some r.registration.manifestHash
  packageContentHash := r.registration.buildHash
  registrySnapshotId := some r.registration.snapshotId
  state := r.state.asStr
  trustStatus := r.trustStatus.asStr
  updatedAt := r.updatedAt

def EpochRow.shown (e : EpochRow) : Tasks.EpochRow :=
  ⟨e.registrationId, e.revision, e.state.asStr, e.transitionedAt⟩

/-- The rest of the row, under the identity of the row. -/
def BindingRow.shown (b : BindingRow) : Tasks.BindingColumns := { b.columns with bindingId := b.row.bindingId }

/-- The provider tables under the Task tables of a store that has both migrations. -/
def launchStore (db : ProviderDb) (store : Store (Tables ProviderDb)) : Store (Tables ProviderDb) :=
  { store with core := { store.core with
      bindings := db.bindings.map BindingRow.row
      other := { store.core.other with
        migrations := "0012_semantic_registry_store" :: "0013_provider_registry" ::
          store.core.other.migrations
        bindingColumns := db.bindings.map BindingRow.shown
        registrations := db.registrations.map RegistrationRow.shown
        conformance := db.evidence
        snapshots := db.semantic.snapshots.map fun s => ⟨s.snapshotId, s.manifestJson⟩
        admittedSnapshots := (db.semantic.admissions.map Registry.AdmissionRow.snapshotId).filter fun id =>
          db.semantic.usable? id = some .admitted
        admissionMarkers := db.admissionMarkers
        enablementMarkers := db.enablementMarkers
        epochs := db.epochs.map EpochRow.shown
        rest := db } } }

end Aios.Providers
