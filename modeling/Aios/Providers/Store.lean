/-
  File:      Aios/Providers/Store.lean
  Subject:   THE PROVIDER STORE: register, record evidence, admit trust, enable, disable, revoke.

  An operation reads some rows before it opens its transaction. `seen` is the store as it was then and
  `db` the store the transaction starts from; with nothing in between the two are one. A transaction
  that fails leaves the store as it was (`committed`).
-/
import Aios.Providers.Tables

namespace Aios.Providers

open Lib Registry Tasks

/-! ## 1. The fence of a write -/

def noAuthority : ProviderStoreError :=
  .conflict "provider mutation requires Task Manager write authority"

def verifyFence (holds : Bool) : ProviderResult Unit :=
  conflictIf (!holds) "provider write rejected by stale ownership fence"

/-- A transaction under the write fence, which is checked before its statements and after them. -/
def fenced {α : Type} (fence : Option WriteFence) (body : ProviderResult α) : ProviderResult α := do
  let fence ← expect fence noAuthority
  verifyFence fence.before
  let result ← body
  verifyFence fence.after
  return result

theorem fenced_ok {α : Type} {fence : Option WriteFence} {body : ProviderResult α} {a : α}
    (h : fenced fence body = .ok a) : body = .ok a ∧ ∃ f, fence = some f ∧ f.before = true ∧ f.after = true := by
  unfold fenced verifyFence at h
  simp only [bind_eq_ok', exists_unit, expect_ok, conflictIf_ok, Bool.not_eq_false'] at h
  obtain ⟨f, hf, hbefore, b, hb, hafter, h⟩ := h
  have e : b = a := Except.ok.inj h
  exact ⟨by rw [hb, e], f, hf, hbefore, hafter⟩

section Reads

variable (env : ProviderEnv) (db : ProviderDb)

def loadRegistration (id : String) : ProviderResult RegistrationRow :=
  expect (db.registration? id) .notFound

def verifiedManifest (r : ProviderRegistration) : ProviderResult CapabilityManifest := do
  let manifestJson ← expect (db.manifest? r.registrationId) .notFound
  verifiedManifestPayload env manifestJson r

def noRows : ProviderStoreError := .database "Query returned no rows"

def verifyStoredRegistrationReceipt (r : ProviderRegistration) (m : CapabilityManifest) :
    ProviderResult Unit := do
  let row ← expect (db.registration? r.registrationId) noRows
  verifyProviderRegistrationReceipt env r m row.trustStatus row.registeredAt row.registrationJson

/-- What the walk over the trust admissions has reached. -/
structure TrustWalk where
  effective : ProviderTrustStatus
  sourceId : String
  expectedRevision : Nat
  latest : Int

/-- One trust admission of the history. -/
def trustStep (initial : ProviderTrustStatus) (checked : Option Int) (walk : TrustWalk)
    (a : TrustAdmissionRow) : ProviderResult TrustWalk := do
  conflictIf (initial.isTerminal || a.revision ≠ walk.expectedRevision || !boundedRef a.decisionId ||
      !boundedRef a.authorityRef)
    "invalid provider trust admission history"
  let decided ← parseTime env a.admittedAt
  conflictIf (decided < walk.latest) "provider trust admission history moves backward in time"
  conflictIf (!a.trustStatus.permitsExecution) "trust admission does not permit execution"
  let expected ← trustAdmissionReceipt env a.registrationId a.decisionId a.revision a.trustStatus
    a.authorityRef a.admittedAt
  conflictIf (a.receiptJson ≠ expected || a.admissionId ≠ digest env trustAdmissionDomain a.receiptJson)
    "provider trust admission receipt mismatch"
  conflictIf (Registry.maxI64 ≤ walk.expectedRevision) "provider trust admission revision overflow"
  return if checked.all fun cutoff => decided ≤ cutoff then
      ⟨a.trustStatus, a.admissionId, walk.expectedRevision + 1, decided⟩
    else { walk with expectedRevision := walk.expectedRevision + 1, latest := decided }

def trustSteps (initial : ProviderTrustStatus) (checked : Option Int) :
    TrustWalk → List TrustAdmissionRow → ProviderResult TrustWalk
  | walk, [] => .ok walk
  | walk, a :: rest => do
      let walk ← trustStep env initial checked walk a
      trustSteps initial checked walk rest

def verifiedProviderTrustSourceChecked (r : ProviderRegistration) (m : CapabilityManifest)
    (checked : Option Int) : ProviderResult (ProviderTrustStatus × String) := do
  verifyStoredRegistrationReceipt env db r m
  let row ← expect (db.registration? r.registrationId) noRows
  let registered ← parseTime env row.registeredAt
  conflictIf (checked.any fun cutoff => cutoff < registered) "provider registration is in the future"
  let walk ← trustSteps env row.trustStatus checked ⟨row.trustStatus, r.registrationId, 1, registered⟩
    (db.admissionsOf r.registrationId)
  return (walk.effective, walk.sourceId)

def verifiedProviderTrustSource (r : ProviderRegistration) (m : CapabilityManifest) :
    ProviderResult (ProviderTrustStatus × String) :=
  verifiedProviderTrustSourceChecked env db r m none

def verifiedProviderTrustSourceAt (r : ProviderRegistration) (m : CapabilityManifest) (at_ : String) :
    ProviderResult (ProviderTrustStatus × String) := do
  let checked ← parseTime env at_
  verifiedProviderTrustSourceChecked env db r m (some checked)

/-! ## 3. Passes -/

/-- The suite version of the stored contract under this hash. -/
def contractSuiteVersion (contractHash : String) : ProviderResult (Option String) :=
  match db.semantic.contract? .capability contractHash with
  | none => .ok none
  | some stored => do
      let contract ← (env.store.readCapability stored.contractJson).mapError fun e => .json e.message
      let computed ← ((capabilityStore env.store).family.hash contract).mapError fun e => .json e.message
      conflictIf (computed ≠ contractHash) "stored semantic contract hash mismatch"
      return contract.conformance.suiteVersion

/-- The newest result so far, and whether another one is of the same time. -/
structure Newest where
  latest : Option (Int × ConformanceRow)
  ambiguous : Bool

/-- One row of the search for the newest result effective at `at_`; none where a row has no readable
    time. -/
def newestStep (at_ : Int) (acc : Newest) (row : ConformanceRow) : Option Newest := do
  let executed ← row.testedAt.bind env.instant
  return if at_ < executed then acc
    else match acc.latest with
      | none => ⟨some (executed, row), false⟩
      | some (prior, _) =>
          if executed < prior then acc
          else if executed = prior then { acc with ambiguous := true }
          else ⟨some (executed, row), false⟩

def newest (at_ : Int) : Newest → List ConformanceRow → Option Newest
  | acc, [] => some acc
  | acc, row :: rest => (newestStep env at_ acc row).bind fun acc => newest at_ acc rest

/-- The one newest result effective at `at_`. -/
def uniqueNewest (at_ : Int) (rows : List ConformanceRow) : Option ConformanceRow := do
  let found ← newest env at_ ⟨none, false⟩ rows
  if found.ambiguous then none else found.latest.map Prod.snd

/-- The results of exactly this suite. -/
def suiteRows (registrationId capability contractHash suiteId suiteHash : String) : List ConformanceRow :=
  db.evidence.filter fun e => e.registrationId = registrationId && e.capability = capability &&
    e.contractHash = some contractHash && e.suiteId = some suiteId && e.suiteHash = some suiteHash

/-- A pass as candidate lookup returns it: the evidence, the suite and its hash. -/
abbrev Pass := String × String × String

def passMatch (r : ProviderRegistration) (claim : ProviderCapability) (semanticRef contractHash suiteHash
    suiteVersion : String) (at_ : Int) (e : ConformanceRow) : EvidenceMatch where
  evidenceId := e.evidenceId
  providerId := r.providerId
  providerVersion := r.providerVersion
  buildHash := r.buildHash
  capability := semanticRef
  contractVersion := claim.version
  contractHash := contractHash
  suiteId := claim.suite
  suiteHash := suiteHash
  suiteVersion := suiteVersion
  status := e.status
  testedAt := e.testedAt.getD ""
  evaluatedAt := some at_

/-- `valid_passes`. -/
def validPasses (r : ProviderRegistration) (claim : ProviderCapability) (semanticRef contractHash : String)
    (at_ : Int) : ProviderResult (List Pass) := do
  if !(semanticRef = claim.semanticRef && claim.contractHash = some contractHash) then return []
  match claim.suiteHash with
  | none => return []
  | some suiteHash => do
      match ← contractSuiteVersion env db contractHash with
      | none => return []
      | some suiteVersion =>
          match uniqueNewest env at_ (suiteRows db r.registrationId semanticRef contractHash claim.suite
              suiteHash) with
          | none => return []
          | some e =>
              return if e.status = "pass" && evidenceMatchesBinding env e.evidenceJson
                  (passMatch r claim semanticRef contractHash suiteHash suiteVersion at_ e) then
                [(e.evidenceId, claim.suite, suiteHash)]
              else []

/-- One claim at least has a valid newest pass. -/
def hasLiveEvidence (r : ProviderRegistration) (at_ : Int) : List ProviderCapability → ProviderResult Bool
  | [] => .ok false
  | claim :: rest =>
      match claim.contractHash with
      | none => hasLiveEvidence r at_ rest
      | some hash => do
          let passes ← validPasses env db r claim claim.semanticRef hash at_
          if passes.length = 1 then return true
          hasLiveEvidence r at_ rest

end Reads

/-! ## 4. Registration -/

section Operations

variable (env : ProviderEnv) (fence : Option WriteFence)

/-- The claim names a contract of the registry with a complete suite, and the same suite. -/
def claimComplete (registry : SemanticRegistry) (claim : ProviderCapability) : ProviderResult Unit := do
  let version ← (FullVersion.parse claim.version).mapError
    fun _ => ProviderStoreError.invalid "provider contract version is invalid"
  let contract ← expect (registry.capabilityContract claim.capability version.major)
    (.invalid "provider contract is absent")
  invalidIf (contract.conformance.suiteVersion.all String.isEmpty ||
      !contract.conformance.suiteHash.any isSha256Id ||
      claim.suiteHash ≠ contract.conformance.suiteHash)
    "complete suite version and hash are required for registration"

/-- A registration with the manifest and the receipt it is admitted with. -/
structure Candidate where
  registration : ProviderRegistration
  manifest : CapabilityManifest
  manifestJson : String
  receiptJson : String

/-- The checks of `register` before its transaction. -/
def prepareRegistration (registry : SemanticRegistry) (rawManifest buildHash : String)
    (trust : ProviderTrustStatus) (registeredAt : String) : ProviderResult Candidate := do
  invalidIf (!registry.isStrictlyVerified) "semantic snapshot is not strictly verified"
  invalidIf (!isSha256Id buildHash) "build identity must be a sha256 digest"
  let _ ← parseTime env registeredAt
  let (value, manifest) ← parseManifest env rawManifest
  let report := env.validateProviderManifest registry manifest
  rejectIf (!report.accepted) (.staticCompatibility report)
  forEach manifest.provides (claimComplete registry)
  let manifestJson ← jsonError (env.canonicalText value)
  let manifestHash := digest env manifestDomain manifestJson
  let id := registrationIdentity env manifest.id manifest.version manifestHash buildHash
  let registration : ProviderRegistration :=
    ⟨id, manifest.id, manifest.version, manifestHash, buildHash, registry.snapshotId⟩
  let receiptJson ← jsonError
    (env.canonicalText (registrationRecord registration manifest trust registeredAt))
  return ⟨registration, manifest, manifestJson, receiptJson⟩

/-- The registration of this build, written where there is none. -/
def storeRegistration (db : ProviderDb) (c : Candidate) (trust : ProviderTrustStatus)
    (registeredAt : String) : ProviderResult (ProviderDb × ProviderRegistration × Bool) :=
  match db.build? c.registration.providerId c.registration.providerVersion c.registration.buildHash with
  | some row => .ok (db, row.registration, true)
  | none => do
      let db ← insertRegistration env db
        ⟨c.registration, .disabled, trust, c.receiptJson, registeredAt, none⟩
      return (db, c.registration, false)

/-- The manifest of the registration: the stored one has to be the same, or this one is written. -/
def storeManifestPayload (db : ProviderDb) (id manifestJson : String) : ProviderResult ProviderDb :=
  match db.manifest? id with
  | some payload => do
      conflictIf (payload ≠ manifestJson) "registration manifest payload differs"
      return db
  | none => insertManifest db id manifestJson

/-- A build that was registered before keeps its trust. -/
def sameBuildTrust (db : ProviderDb) (stored : ProviderRegistration) (trust : ProviderTrustStatus) :
    ProviderResult Unit := do
  let row ← expect (db.registration? stored.registrationId) noRows
  conflictIf (row.trustStatus ≠ trust && trust ≠ .unverified)
    "same-build trust change requires an explicit admission decision"

/-- The transaction of `register`. -/
def registerIn (db : ProviderDb) (c : Candidate) (trust : ProviderTrustStatus) (registeredAt : String) :
    ProviderResult (ProviderDb × ProviderRegistration) := do
  invalidIf (db.semantic.usable? c.registration.snapshotId ≠ some .admitted)
    "semantic snapshot has not been admitted"
  let (db, stored, existing) ← storeRegistration env db c trust registeredAt
  conflictIf (stored.registrationId ≠ c.registration.registrationId ||
      stored.manifestHash ≠ c.registration.manifestHash)
    "provider version and build already map to a different manifest"
  let db ← storeManifestPayload db stored.registrationId c.manifestJson
  verifyStoredRegistrationReceipt env db stored c.manifest
  (if existing then sameBuildTrust db stored trust else .ok ())
  return (db, stored)

def register (db : ProviderDb) (registry : SemanticRegistry) (rawManifest buildHash : String)
    (trust : ProviderTrustStatus) (registeredAt : String) :
    ProviderResult (ProviderDb × ProviderRegistration) := do
  let c ← prepareRegistration env registry rawManifest buildHash trust registeredAt
  fenced fence (registerIn env db c trust registeredAt)

/-! ## 5. Evidence -/

def stringAt (value : Json) (path : List String) : ProviderResult String :=
  expect (textAt value path) (.invalid "evidence is missing a required string")

/-- The required string is the expected one. -/
def stringIs (value : Json) (path : List String) (expected message : String) : ProviderResult Unit := do
  let found ← stringAt value path
  invalidIf (found ≠ expected) message

def otherBuild : String := "evidence does not identify this exact provider build"

def otherContract : String := "evidence contract or suite differs from the manifest"

/-- The row `record_evidence` is to write, from the document and the rows it reads. -/
def prepareEvidence (seen : ProviderDb) (registrationId rawEvidence : String) :
    ProviderResult ConformanceRow := do
  let evidence ← jsonError (env.readDocument .evidence rawEvidence)
  let id ← stringAt evidence ["result_id"]
  let row ← loadRegistration seen registrationId
  let registration := row.registration
  stringIs evidence ["provider_id"] registration.providerId otherBuild
  stringIs evidence ["provider_version"] registration.providerVersion otherBuild
  stringIs evidence ["provider_build_identity", "value"] registration.buildHash otherBuild
  let semanticRef ← stringAt evidence ["semantic_capability_ref"]
  let contractHash ← stringAt evidence ["semantic_contract_hash"]
  let suiteId ← stringAt evidence ["conformance_suite", "id"]
  let suiteHash ← stringAt evidence ["conformance_suite", "hash"]
  let suiteVersion ← stringAt evidence ["conformance_suite", "version"]
  let testedAt ← stringAt evidence ["executed_at"]
  let tested ← parseTime env testedAt
  (match textAt evidence ["expires_at"] with
    | none => .ok ()
    | some text => do
        let expires ← parseTime env text
        invalidIf (expires ≤ tested) "evidence expiry must follow execution")
  let manifest ← verifiedManifest env seen registration
  let claim ← expect (manifest.provides.find? fun c => semanticRef = c.semanticRef)
    (.invalid "evidence capability is not claimed by the manifest")
  stringIs evidence ["semantic_contract_version"] claim.version otherContract
  invalidIf (claim.contractHash ≠ some contractHash || claim.suite ≠ suiteId ||
      claim.suiteHash ≠ some suiteHash) otherContract
  let admittedVersion ← contractSuiteVersion env seen contractHash
  invalidIf (admittedVersion ≠ some suiteVersion) otherContract
  let result ← stringAt evidence ["result"]
  invalidIf (result = "pass" && !countsComplete evidence)
    "passing evidence needs nonzero, complete test counts"
  invalidIf (result = "pass" && !evidenceMatchesBinding env rawEvidence
      ⟨id, registration.providerId, registration.providerVersion, registration.buildHash, semanticRef,
        claim.version, contractHash, suiteId, suiteHash, suiteVersion, result, testedAt, some tested⟩)
    "passing evidence projection is inconsistent"
  let canonical ← jsonError (env.canonicalText evidence)
  return ⟨id, registrationId, semanticRef, some contractHash, some suiteId, some suiteHash, result,
    canonical, some testedAt⟩

/-- `existing_evidence_matches`, or the insert. -/
def storeEvidence (db : ProviderDb) (row : ConformanceRow) : ProviderResult ProviderDb :=
  match db.evidence? row.evidenceId with
  | some stored => do
      conflictIf (stored ≠ row) "evidence ID already maps to different evidence or projections"
      return db
  | none => insertEvidence db row

def recordEvidence (seen db : ProviderDb) (registrationId rawEvidence : String) :
    ProviderResult (ProviderDb × String) := do
  let row ← prepareEvidence env seen registrationId rawEvidence
  let db ← fenced fence (storeEvidence db row)
  return (db, row.evidenceId)

/-! ## 6. Trust decisions -/

/-- The transaction of `admit_trust`. -/
def admitTrustIn (db : ProviderDb) (registration : ProviderRegistration) (manifest : CapabilityManifest)
    (decisionId : String) (trust : ProviderTrustStatus) (authorityRef admittedAt : String) (decided : Int) :
    ProviderResult (ProviderDb × String) := do
  let id := registration.registrationId
  let row ← expect (db.registration? id) noRows
  conflictIf (row.state = .revoked || row.trustStatus.isTerminal) "provider admission is terminal"
  let _ ← verifiedProviderTrustSource env db registration manifest
  let prior := db.admissions.find? fun a => a.registrationId = id && a.decisionId = decisionId
  (if prior.isNone then do
      let previousAt ← expect (db.previousAt? id) noRows
      let previous ← parseTime env previousAt
      conflictIf (decided < previous) "provider trust admission time cannot move backward"
    else .ok ())
  let revision := ((db.lastAdmission? id).map (· + 1)).getD 1
  let expected := (prior.map TrustAdmissionRow.revision).getD revision
  let receipt ← trustAdmissionReceipt env id decisionId expected trust authorityRef admittedAt
  let admissionId := digest env trustAdmissionDomain receipt
  match prior with
  | some prior => do
      conflictIf (prior.admissionId ≠ admissionId || prior.receiptJson ≠ receipt)
        "trust decision identity already maps to another receipt"
      return (db, admissionId)
  | none => do
      let db ← insertTrustAdmission env db
        ⟨admissionId, id, decisionId, revision, trust, authorityRef, admittedAt, receipt⟩
      return (db, admissionId)

def admitTrust (seen db : ProviderDb) (registrationId decisionId : String) (trust : ProviderTrustStatus)
    (authorityRef admittedAt : String) : ProviderResult (ProviderDb × String) := do
  invalidIf (!trust.permitsExecution || !boundedRef decisionId || !boundedRef authorityRef)
    "invalid provider trust decision"
  let decided ← parseTime env admittedAt
  let row ← loadRegistration seen registrationId
  let manifest ← verifiedManifest env seen row.registration
  fenced fence (admitTrustIn env db row.registration manifest decisionId trust authorityRef admittedAt decided)

/-! ## 7. State -/

/-- What an enablement asks for: trust in force that permits execution, and a live pass. -/
def enablementChecks (seen : ProviderDb) (registration : ProviderRegistration) (now : String) (at_ : Int) :
    ProviderResult Unit := do
  let manifest ← verifiedManifest env seen registration
  let (trust, _) ← verifiedProviderTrustSourceAt env seen registration manifest now
  invalidIf (!trust.permitsExecution) "trust status does not permit enablement"
  let live ← hasLiveEvidence env seen registration at_ manifest.provides
  invalidIf (!live) "no exact, current passing evidence for every claim"

/-- The transaction of `set_state`. -/
def setStateIn (db : ProviderDb) (registrationId : String) (old state : LifecycleState) (now : String) :
    ProviderResult ProviderDb := do
  let row ← expect (db.registration? registrationId) noRows
  conflictIf (row.state ≠ old) "provider lifecycle changed concurrently"
  if row.state = state then return db
  updateState env db registrationId state now

def setState (seen db : ProviderDb) (registrationId : String) (state : LifecycleState) (now : String) :
    ProviderResult ProviderDb := do
  let at_ ← parseTime env now
  let row ← loadRegistration seen registrationId
  conflictIf (row.state = .revoked && state ≠ .revoked) "revocation is terminal"
  (if state = .registered then enablementChecks env seen row.registration now at_ else .ok ())
  fenced fence (setStateIn env db registrationId row.state state now)

def enable (seen db : ProviderDb) (registrationId now : String) : ProviderResult ProviderDb :=
  setState env fence seen db registrationId .registered now

def disable (seen db : ProviderDb) (registrationId now : String) : ProviderResult ProviderDb :=
  setState env fence seen db registrationId .disabled now

def revoke (seen db : ProviderDb) (registrationId now : String) : ProviderResult ProviderDb :=
  setState env fence seen db registrationId .revoked now

end Operations

end Aios.Providers
