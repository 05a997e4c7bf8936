/-
  File:      Aios/Providers/Documents.lean
  Subject:   THE DOCUMENTS OF A PROVIDER: its manifest, the receipt of its registration, the receipts
             of trust decisions and the evidence of a suite run.

  A receipt is never trusted as it stands: it is rebuilt from the columns it has to repeat and the two
  texts are compared (`verifyProviderRegistrationReceipt`, `trustAdmissionMatchesInsert`). Strict JSON
  in its limits and the embedded schema make one reader for each kind of document
  (`ProviderEnv.readDocument`); the static comparison of a manifest with a registry is called too.
-/
import Aios.Providers.Clock
import Aios.Registry.Store
import Aios.Tasks.Authority

namespace Aios.Providers

open Lib Registry Provenance Tasks

/-! ## 1. Errors and trust -/

structure ProviderConformanceReport where
  valid : Bool
  diagnostics : List String
  diagnosticsTruncated : Bool
  bootstrapContractHashBypassUsed : Bool
  deriving DecidableEq

/-- The declarations fit, and no fixture-only hash was let through. -/
def ProviderConformanceReport.accepted (r : ProviderConformanceReport) : Bool :=
  r.valid && !r.bootstrapContractHashBypassUsed

inductive ProviderStoreError where
  | database (message : String)
  | json (message : String)
  | invalid (message : String)
  | staticCompatibility (report : ProviderConformanceReport)
  | notFound
  | conflict (message : String)

abbrev ProviderResult (α : Type) := Except ProviderStoreError α

def jsonError {α : Type} (r : Except String α) : ProviderResult α := r.mapError .json

@[simp] theorem jsonError_ok {α : Type} {r : Except String α} {a : α} :
    jsonError r = .ok a ↔ r = .ok a := by
  cases r <;> simp [jsonError, Except.mapError]

def invalidIf (bad : Bool) (message : String) : ProviderResult Unit := rejectIf bad (.invalid message)

@[simp] theorem invalidIf_ok {bad : Bool} {message : String} {u : Unit} :
    invalidIf bad message = .ok u ↔ bad = false := rejectIf_ok

def conflictIf (bad : Bool) (message : String) : ProviderResult Unit := rejectIf bad (.conflict message)

@[simp] theorem conflictIf_ok {bad : Bool} {message : String} {u : Unit} :
    conflictIf bad message = .ok u ↔ bad = false := rejectIf_ok

/-- `RAISE(ABORT, message)` where the condition holds. -/
def abortIf (bad : Bool) (message : String) : ProviderResult Unit := rejectIf bad (.database message)

@[simp] theorem abortIf_ok {bad : Bool} {message : String} {u : Unit} :
    abortIf bad message = .ok u ↔ bad = false := rejectIf_ok

inductive ProviderTrustStatus where
  | unverified
  | locallyTrusted
  | projectReviewed
  | organizationApproved
  | denied
  | revoked
  deriving DecidableEq, Repr

namespace ProviderTrustStatus

def asStr : ProviderTrustStatus → String
  | .unverified => "unverified"
  | .locallyTrusted => "locally-trusted"
  | .projectReviewed => "project-reviewed"
  | .organizationApproved => "organization-approved"
  | .denied => "denied"
  | .revoked => "revoked"

def ofStr (value : String) : Option ProviderTrustStatus :=
  [unverified, locallyTrusted, projectReviewed, organizationApproved, denied, revoked].find? fun t =>
    t.asStr = value

def permitsExecution : ProviderTrustStatus → Bool
  | .locallyTrusted | .projectReviewed | .organizationApproved => true
  | _ => false

/-- No later decision can admit the build. -/
def isTerminal : ProviderTrustStatus → Bool
  | .denied | .revoked => true
  | _ => false

@[simp] theorem ofStr_asStr (t : ProviderTrustStatus) : ofStr t.asStr = some t := by
  cases t <;> decide

end ProviderTrustStatus

/-- The state of a registration. -/
inductive LifecycleState where
  | registered
  | disabled
  | revoked
  | superseded
  | invalid
  deriving DecidableEq, Repr

def LifecycleState.asStr : LifecycleState → String
  | .registered => "registered"
  | .disabled => "disabled"
  | .revoked => "revoked"
  | .superseded => "superseded"
  | .invalid => "invalid"

/-! ## 2. The documents -/

inductive IsolationProfile where
  | p0
  | p1
  | p2
  | p3
  | p4
  | p5
  deriving DecidableEq, Repr

namespace IsolationProfile

def asStr : IsolationProfile → String
  | .p0 => "P0"
  | .p1 => "P1"
  | .p2 => "P2"
  | .p3 => "P3"
  | .p4 => "P4"
  | .p5 => "P5"

def level : IsolationProfile → Nat
  | .p0 => 0
  | .p1 => 1
  | .p2 => 2
  | .p3 => 3
  | .p4 => 4
  | .p5 => 5

/-- The strictest profile of the list. -/
def strictest : List IsolationProfile → Option IsolationProfile
  | [] => none
  | p :: rest =>
      match strictest rest with
      | none => some p
      | some q => some (if p.level ≤ q.level then q else p)

end IsolationProfile

/-- One claim of a manifest; what only the static comparison reads is inside `declared`. -/
structure ProviderCapability where
  capability : String
  version : String
  contractHash : Option String
  suite : String
  suiteHash : Option String
  minimumIsolation : IsolationProfile
  representations : Json
  declared : Json

structure CapabilityManifest where
  id : String
  version : String
  runtimeKind : String
  provides : List ProviderCapability
  declared : Json

structure ProviderRegistration where
  registrationId : String
  providerId : String
  providerVersion : String
  manifestHash : String
  buildHash : String
  snapshotId : String
  deriving DecidableEq, Repr

/-- The kinds of documents, each with its limits and its embedded schema. -/
inductive DocumentKind where
  | manifest
  | registration
  | evidence
  deriving DecidableEq, Repr

section Receipts

def optionalText : Option String → Json
  | some s => .str s
  | none => .null

def capabilityRecord (claim : ProviderCapability) : Json := .ofFields [
  ("capability", some (.str claim.capability)),
  ("version", some (.str claim.version)),
  ("contract_hash", some (optionalText claim.contractHash)),
  ("conformance_suite", some (.str claim.suite)),
  ("conformance_suite_hash", some (optionalText claim.suiteHash)),
  ("conformance_status", some (.str "declared")),
  ("eligible", some (.bool false)),
  ("representations", some claim.representations)]

/-- What the receipt of a registration takes from its manifest. -/
def CapabilityManifest.recorded (m : CapabilityManifest) : String × Option IsolationProfile × List Json :=
  (m.runtimeKind, IsolationProfile.strictest (m.provides.map ProviderCapability.minimumIsolation),
    m.provides.map capabilityRecord)

/-- `registration_record`. -/
def registrationRecord (r : ProviderRegistration) (m : CapabilityManifest) (trust : ProviderTrustStatus)
    (registeredAt : String) : Json :=
  let (kind, isolation, capabilities) := m.recorded
  .ofFields [
    ("schema_version", some (.str "0.1")),
    ("registration_id", some (.str r.registrationId)),
    ("provider", some (.ofFields [
      ("id", some (.str r.providerId)),
      ("version", some (.str r.providerVersion)),
      ("manifest_hash", some (.str r.manifestHash))])),
    ("package", some (.ofFields [
      ("source_kind", some (.str "local")),
      ("content_hash", some (.str r.buildHash))])),
    ("runtime", some (.ofFields [
      ("kind", some (.str kind)),
      ("minimum_isolation", some (optionalText (isolation.map IsolationProfile.asStr)))])),
    ("registry_snapshot_id", some (.str r.snapshotId)),
    ("capabilities", some (.arr capabilities)),
    ("trust", some (.ofFields [("status", some (.str trust.asStr))])),
    ("state", some (.str "disabled")),
    ("registered_at", some (.str registeredAt))]

/-- The value of `trust_admission_receipt`. -/
def trustAdmissionRecord (registrationId decisionId : String) (revision : Nat)
    (trust : ProviderTrustStatus) (authorityRef admittedAt : String) : Json := .ofFields [
  ("schema_version", some (.str "0.1")),
  ("registration_id", some (.str registrationId)),
  ("decision_id", some (.str decisionId)),
  ("revision", some (.num (.posInt revision))),
  ("trust_status", some (.str trust.asStr)),
  ("authority_ref", some (.str authorityRef)),
  ("admitted_at", some (.str admittedAt))]

end Receipts

/-- What the provider store calls. -/
structure ProviderEnv where
  store : StoreEnv
  time : TimeEnv
  /-- `canonical_text`. -/
  canonicalText : Json → Except String String
  /-- `parse_strict_value` in the limits of the kind. -/
  parseDocument : DocumentKind → String → Except String Json
  /-- The first error under the embedded schema of the kind. -/
  schemaError : DocumentKind → Json → Option String
  /-- `serde_json::from_value`. -/
  decodeManifest : Json → Except String CapabilityManifest
  /-- `parse_strict_value` under the default limits. -/
  parseStrictValue : String → Option Json
  /-- The embedded schema of an execution binding. -/
  bindingSchema : Json → Bool
  /-- `json_extract` of a text under a path, where the document is valid JSON. -/
  jsonExtract : String → List String → Option String
  /-- `validate_provider_manifest` under the default options. -/
  validateProviderManifest : SemanticRegistry → CapabilityManifest → ProviderConformanceReport
  /-- A manifest read back from its canonical text declares what it declared: canonical JSON respells
      numbers only, and what the receipt records holds none. -/
  reread : ∀ raw value m text value' m', parseDocument .manifest raw = .ok value →
    decodeManifest value = .ok m → canonicalText value = .ok text →
    parseDocument .manifest text = .ok value' → decodeManifest value' = .ok m' →
    m'.recorded = m.recorded

/-! ## 3. Reading -/

section Reading

variable (env : ProviderEnv)

/-- `parse_document`. -/
def ProviderEnv.readDocument (kind : DocumentKind) (raw : String) : Except String Json := do
  let value ← env.parseDocument kind raw
  match env.schemaError kind value with
  | some e => .error e
  | none => return value

def ProviderEnv.instant (text : String) : Option Int := env.time.instant text.toList

def parseTime (value : String) : ProviderResult Int :=
  expect (env.instant value) (.invalid "timestamp must be RFC 3339")

def digest (domain content : String) : String :=
  env.store.build.digest.tagged domain.toUTF8.toList content.toUTF8.toList

def manifestDomain : String := "AIOS-PROVIDER-MANIFEST\x00v0.1\x00"

def registrationDomain : String := "AIOS-PROVIDER-REGISTRATION\x00v0.1\x00"

def trustAdmissionDomain : String := "AIOS-PROVIDER-TRUST-ADMISSION\x00v0.1\x00"

def parseManifest (raw : String) : ProviderResult (Json × CapabilityManifest) := do
  let value ← jsonError (env.readDocument .manifest raw)
  let manifest ← jsonError (env.decodeManifest value)
  return (value, manifest)

/-- The identity of an exact build: the provider, its version, the manifest and the build. -/
def registrationIdentity (id version manifestHash buildHash : String) : String :=
  digest env registrationDomain
    (id ++ "\x00" ++ version ++ "\x00" ++ manifestHash ++ "\x00" ++ buildHash)

def verifiedManifestPayload (manifestJson : String) (r : ProviderRegistration) :
    ProviderResult CapabilityManifest := do
  let (value, manifest) ← parseManifest env manifestJson
  let canonical ← jsonError (env.canonicalText value)
  let hash := digest env manifestDomain canonical
  let id := registrationIdentity env manifest.id manifest.version hash r.buildHash
  conflictIf (canonical ≠ manifestJson || hash ≠ r.manifestHash || id ≠ r.registrationId ||
      manifest.id ≠ r.providerId || manifest.version ≠ r.providerVersion)
    "stored provider manifest does not match registration identity"
  return manifest

def verifyProviderRegistrationReceipt (r : ProviderRegistration) (m : CapabilityManifest)
    (projectedTrust : ProviderTrustStatus) (registeredAt receiptJson : String) : ProviderResult Unit := do
  let _ ← parseTime env registeredAt
  let receipt ← jsonError (env.readDocument .registration receiptJson)
  let trust ← expect ((textAt receipt ["trust", "status"]).bind ProviderTrustStatus.ofStr)
    (.conflict "stored registration trust is invalid")
  conflictIf (projectedTrust ≠ trust)
    "provider trust differs from immutable admission receipt"
  let expected ← jsonError (env.canonicalText (registrationRecord r m trust registeredAt))
  conflictIf (receiptJson ≠ expected)
    "stored registration receipt differs from its admitted manifest and identity"

def trustAdmissionReceipt (registrationId decisionId : String) (revision : Nat)
    (trust : ProviderTrustStatus) (authorityRef admittedAt : String) : ProviderResult String :=
  jsonError (env.canonicalText
    (trustAdmissionRecord registrationId decisionId revision trust authorityRef admittedAt))

/-- A decision or authority identity: not empty and at most 256 bytes. -/
def boundedRef (value : String) : Bool := !value.isEmpty && value.utf8ByteSize ≤ 256

/-- A row of `provider_trust_admissions`. -/
structure TrustAdmissionRow where
  admissionId : String
  registrationId : String
  decisionId : String
  revision : Nat
  trustStatus : ProviderTrustStatus
  authorityRef : String
  admittedAt : String
  receiptJson : String
  deriving DecidableEq, Repr

/-- The receipt of the row is the one its columns spell, and its identity is the digest of it. -/
def receiptMatches (row : TrustAdmissionRow) : Bool :=
  match trustAdmissionReceipt env row.registrationId row.decisionId row.revision row.trustStatus
      row.authorityRef row.admittedAt with
  | .ok expected =>
      row.receiptJson = expected && row.admissionId = digest env trustAdmissionDomain expected
  | .error _ => false

/-- The two states in which a registration takes decisions. -/
def acceptsTrust : LifecycleState → Bool
  | .disabled | .registered => true
  | _ => false

/-- `trust_admission_matches_insert`. -/
def trustAdmissionMatchesInsert (row : TrustAdmissionRow) (previousAt : String)
    (initial : ProviderTrustStatus) (state : LifecycleState) : Bool :=
  1 ≤ row.revision && row.revision < Registry.maxI64 && boundedRef row.decisionId &&
    boundedRef row.authorityRef && acceptsTrust state &&
    match env.instant previousAt, env.instant row.admittedAt with
    | some previous, some admitted =>
        !initial.isTerminal && row.trustStatus.permitsExecution && previous ≤ admitted &&
          receiptMatches env row
    | _, _ => false

/-! ## 4. Evidence -/

/-- What the evidence has to repeat; the time of the judgement is an instant. -/
structure EvidenceMatch where
  evidenceId : String
  providerId : String
  providerVersion : String
  buildHash : String
  capability : String
  contractVersion : String
  contractHash : String
  suiteId : String
  suiteHash : String
  suiteVersion : String
  status : String
  testedAt : String
  evaluatedAt : Option Int

/-- No expiry, or one after the run and after the judgement. -/
def expiryHolds (evidence : Json) (tested evaluated : Int) : Bool :=
  match evidence.get? "expires_at" with
  | none | some .null => true
  | some (.str text) => (env.instant text).any fun expires => tested < expires && evaluated < expires
  | some _ => false

/-- The capability reference names the major of the contract version. -/
def majorMatches (capability contractVersion : String) : Bool :=
  match FullVersion.parse contractVersion, rsplitOnce '@' capability.toList with
  | .ok version, some (base, major) => String.ofList major = toString version.major && !base.isEmpty
  | _, _ => false

/-- Every test ran and passed, and there was one. -/
def countsComplete (evidence : Json) : Bool :=
  match (evidence.get? "tests_total").bind asU64 with
  | none => false
  | some total => 0 < total && (evidence.get? "tests_passed").bind asU64 = some total &&
      (evidence.get? "tests_failed").bind asU64 = some 0

/-- The identities of the evidence are the expected ones. -/
def evidenceProjects (evidence : Json) (e : EvidenceMatch) : Bool :=
  textAt evidence ["result_id"] = some e.evidenceId &&
    textAt evidence ["provider_id"] = some e.providerId &&
    textAt evidence ["provider_version"] = some e.providerVersion &&
    textAt evidence ["provider_build_identity", "value"] = some e.buildHash &&
    textAt evidence ["semantic_capability_ref"] = some e.capability &&
    textAt evidence ["semantic_contract_version"] = some e.contractVersion &&
    textAt evidence ["semantic_contract_hash"] = some e.contractHash &&
    textAt evidence ["conformance_suite", "id"] = some e.suiteId &&
    textAt evidence ["conformance_suite", "hash"] = some e.suiteHash &&
    textAt evidence ["conformance_suite", "version"] = some e.suiteVersion &&
    textAt evidence ["result"] = some e.status

/-- `evidence_matches_binding`. -/
def evidenceMatchesBinding (raw : String) (e : EvidenceMatch) : Bool :=
  match env.readDocument .evidence raw, env.instant e.testedAt, e.evaluatedAt with
  | .ok evidence, some tested, some evaluated =>
      tested ≤ evaluated && textAt evidence ["executed_at"] = some e.testedAt &&
        expiryHolds env evidence tested evaluated && majorMatches e.capability e.contractVersion &&
        e.status = "pass" && countsComplete evidence && evidenceProjects evidence e
  | _, _, _ => false

/-! ## 5. Claims -/

/-- `version.split('.').next()`. -/
def claimMajor (version : String) : String := String.ofList (((splitChar '.' version.toList).head?).getD [])

/-- The capability reference of a claim. -/
def ProviderCapability.semanticRef (claim : ProviderCapability) : String :=
  claim.capability ++ "@" ++ claimMajor claim.version

/-- `manifest_claim_matches_registration`. -/
def manifestClaimMatchesRegistration (manifestJson : String) (r : ProviderRegistration)
    (semanticRef contractVersion contractHash suiteId suiteHash : String) : Bool :=
  match verifiedManifestPayload env manifestJson r, FullVersion.parse contractVersion,
      rsplitOnce '@' semanticRef.toList with
  | .ok manifest, .ok version, some (base, major) =>
      String.ofList major = toString version.major && isSha256Id contractHash && isSha256Id suiteHash &&
        (manifest.provides.map fun c => (c.capability, c.version)).Nodup &&
        (manifest.provides.filter fun c => c.capability = String.ofList base &&
          c.version = contractVersion && c.contractHash = some contractHash && c.suite = suiteId &&
          c.suiteHash = some suiteHash).length = 1
  | _, _, _ => false

end Reading

end Aios.Providers
