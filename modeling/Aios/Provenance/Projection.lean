/-
  File:      Aios/Provenance/Projection.lean
  Subject:   THE REDACTED PROJECTION of a stream and its offline verifier.

  A projected event keeps numbers, truth values and the texts of a closed vocabulary; every other
  text becomes an alias that is local to the bundle. The verifier sees only the bundle: it puts a
  placeholder for each alias and asks the contract of the source event, then checks the chain, the
  identities and the manifest. The JSON reader and the JSON-schema engine are the surroundings
  (`ProjectionEnv`).
-/
import Aios.Provenance.Journal

namespace Aios.Provenance

open Lib

/-! ## 1. What is kept -/

def eventTypes : List String := [
  "task.created", "task.transitioned", "task.paused", "task.resumed", "task.cancelled",
  "task.completed", "task.failed", "intent.normalized", "plan.created", "plan.revised",
  "ir.validation.started", "ir.validation.completed", "ir.validation.failed",
  "registry.snapshot.selected", "capability.resolved", "authorization.requested",
  "authorization.granted", "authorization.denied", "approval.requested", "approval.granted",
  "approval.denied", "provider.selected", "placement.selected", "execution.bound",
  "execution.started", "execution.completed", "execution.failed", "model.invoked",
  "model.completed", "egress.started", "egress.completed", "artifact.imported", "artifact.created",
  "artifact.exported", "artifact.verified", "artifact.integrity-failed", "verification.started",
  "verification.completed", "verification.failed", "rollback.started", "rollback.completed",
  "skill.proposed", "skill.created", "skill.validated", "skill.compiled", "skill.executed",
  "skill.invalidated"]

def taskStates : List String := [
  "CREATED", "PLANNING", "WAITING_FOR_INPUT", "WAITING_FOR_AUTH", "RUNNABLE", "RUNNING",
  "VERIFYING", "PAUSED", "RECOVERING", "ROLLING_BACK", "COMPLETED", "FAILED", "CANCELLED",
  "ROLLED_BACK"]

def actorKinds : List String := [
  "user", "agent", "provider", "model-provider", "system-service", "legacy-app", "policy-engine",
  "validator", "peer-node"]

def safeActions : List String := [
  "CREATE_NEW_ATTEMPT", "RECONCILE_STATE", "MARK_ATTEMPT_FAILED", "REQUIRE_EXTERNAL_RECONCILIATION",
  "FAIL_TASK", "NO_ACTION", "CLEAN_STAGING"]

/-- The path stands below one of the keys. -/
def below (path keys : List String) : Bool := path.any fun part => keys.contains part

/-- The texts that are kept at a path, whose innermost key comes first. -/
def retainedProjectionString (rfc3339 : String → Option Int) (path : List String) (value : String) :
    Bool :=
  match path.headD "" with
  | "schema_version" => value = schemaVersion
  | "timestamp" | "created_at" | "validated_at" | "observed_at" | "resulted_at" =>
      (rfc3339 value).isSome
  | "event_type" => eventTypes.contains value
  | "kind" =>
      if below path ["waiting_on"] then
        ["input", "approval", "resource", "provider", "validation"].contains value
      else below path ["actor", "principal"] && actorKinds.contains value
  | "status" => ["success", "failure", "denied", "partial", "pending", "cancelled"].contains value
  | "previous_state" | "new_state" => taskStates.contains value
  | "locality" => ["local", "remote", "peer", "cloud"].contains value
  | "isolation_class" => ["P0", "P1", "P2", "P3"].contains value
  | "phase" =>
      ["admitted", "delivered", "pre-destination-admission", "effect-boundary-armed"].contains value
  | "outcome_certainty" | "certainty" => certainties.contains value
  | "effect_boundary" => value = "destination-not-invoked"
  | "safe_action" => safeActions.contains value
  | "source" => value = "user-selected"
  | "previous_durability_state" | "durability_state" => durabilityStates.contains value
  | _ => false

def aliasNamespace (path : List String) : String :=
  match path.headD "" with
  | "task_id" => "task"
  | "event_id" | "admission_event_id" | "provenance_event_ids" => "event"
  | "workspace_id" => "workspace"
  | "plan_id" => "plan"
  | "step_id" | "node_id" | "active_step_ids" => "step"
  | "related_ids" => "related"
  | "input_artifacts" | "output_artifacts" | "data_refs" | "source_artifact_id" => "artifact"
  | "id" =>
      if below path ["actor", "principal"] then "principal"
      else if below path ["waiting_on"] then "waiting"
      else if below path ["skill"] then "skill"
      else "identifier"
  | "transition_id" => "transition"
  | "provider_id" | "validator_id" => "provider"
  | "execution_binding_id" | "binding_id" => "binding"
  | "operation_id" | "unknown_operation_ids" => "operation"
  | "allocation_id" => "allocation"
  | "publication_id" => "publication"
  | "import_id" => "import"
  | "registry_snapshot_id" => "registry-snapshot"
  | "validation_result_id" => "validation-result"
  | "authority_token_id" => "authority-token"
  | "policy_decision_id" => "policy-decision"
  | "approval_id" => "approval"
  | _ => "opaque-value"

def aliasNamespaces : List String := [
  "task", "event", "workspace", "plan", "step", "related", "artifact", "principal", "waiting",
  "skill", "identifier", "transition", "provider", "binding", "operation", "allocation",
  "publication", "import", "registry-snapshot", "validation-result", "authority-token",
  "policy-decision", "approval", "opaque-value"]

def textOf (members : List (String × Json)) (key : String) : Option String :=
  (members.lookup key).bind Json.asStr

/-- The commitment to a private text: it stays as it is. -/
def isPrivateCommitment (members : List (String × Json)) : Bool :=
  members.length = 5 && textOf members "kind" = some "task-field-commitment" &&
    textOf members "version" = some "v1" &&
    textOf members "algorithm" = some "sha256-keyed-prefix" &&
    ((textOf members "field").any fun field => ["original_intent", "normalized_intent",
      "reason_message", "waiting_message", "failure_summary"].contains field) &&
    (textOf members "commitment").any validHash

def isAlias (members : List (String × Json)) : Bool :=
  textOf members "kind" = some "bundle-local-alias"

/-! ## 2. Projecting -/

def projectionAliasDomain : List UInt8 := "AIOS-PROVENANCE-PROJECTION-ALIAS\x00v1\x00".toUTF8.toList

def aliasText (digest : Digest) (aliasKey : List UInt8) (namespace' value : String) : String :=
  digest.tagged projectionAliasDomain
    (aliasKey ++ namespace'.toUTF8.toList ++ [0] ++ value.toUTF8.toList)

def aliasValue (digest : Digest) (aliasKey : List UInt8) (namespace' value : String) : Json :=
  Json.ofFields [
    ("kind", some (.str "bundle-local-alias")),
    ("version", some (.str "v1")),
    ("namespace", some (.str namespace')),
    ("alias", some (.str (aliasText digest aliasKey namespace' value)))]

section Project

variable (env : JournalEnv) (aliasKey : List UInt8)

mutual

/-- The value with an alias for every text that is not kept. -/
def projectValue (path : List String) : Json → Json
  | .str text =>
      if retainedProjectionString env.rfc3339 path text then .str text
      else aliasValue env.digest aliasKey (aliasNamespace path) text
  | .arr values => .arr (projectElements path values)
  | .obj members =>
      if isPrivateCommitment members then .obj members else .obj (projectMembers path members)
  | value => value

@[inherit_doc projectValue]
def projectElements (path : List String) : List Json → List Json
  | [] => []
  | value :: rest => projectValue path value :: projectElements path rest

@[inherit_doc projectValue]
def projectMembers (path : List String) : List (String × Json) → List (String × Json)
  | [] => []
  | (key, value) :: rest => (key, projectValue (key :: path) value) :: projectMembers path rest

end

def projectEvent (event : Json) : Result Json := do
  validateStoredEvent env event
  return projectValue env aliasKey [] event

end Project

/-! ## 3. The shape of the source -/

def validateAlias (members : List (String × Json)) : Result Unit :=
  rejectIf (members.length ≠ 4 || textOf members "version" ≠ some "v1" ||
      !(textOf members "alias").any validHash ||
      !(textOf members "namespace").any fun name => aliasNamespaces.contains name)
    (.invalidRecord "projected alias is invalid")

def hashKeys : List String := [
  "semantic_program_hash", "capability_contract_hash", "manifest_hash", "content_hash", "intent_hash",
  "admission_event_hash", "request_digest", "proof_hash", "subject_hash", "semantic_hash",
  "program_content_digest"]

/-- The text that stands for an alias, of the form its key asks for. -/
def projectedPlaceholder (path : List String) (members : List (String × Json)) : String :=
  let key := path.headD ""
  let digest := (textOf members "alias").getD ""
  let digits := String.ofList (digest.toList.drop 7)
  if below path ["export_authority"] && key = "service_id" then "service://" ++ digest
  else if below path ["export_authority"] && key = "sensitivity" then "private"
  else if hashKeys.contains key then digest
  else if key = "reason_code" || (key = "code" && below path ["failure"]) then
    "PROJECTED_" ++ String.ofList (digits.toList.map Char.toUpper)
  else if key = "ir_version" && below path ["active_program"] then digits
  else digest

def journalKeys : List String := ["stream_id", "event_hash", "previous_event_hash", "head_event_hash"]

section Shape

variable (env : JournalEnv)

mutual

/-- The value with a placeholder for every alias; any other text must be one that is kept. -/
def projectedSourceShape (path : List String) : Json → Result Json
  | .str text =>
      if retainedProjectionString env.rfc3339 path text then .ok (.str text)
      else .error (.invalidRecord "raw string in projected event")
  | .arr values => do
      rejectIf (maxArrayItems < values.length) (.invalidRecord "projected array exceeds bounds")
      let shapes ← shapeElements path values
      return .arr shapes
  | .obj members =>
      if isPrivateCommitment members then .ok (.obj members)
      else if isAlias members then do
        validateAlias members
        rejectIf (textOf members "namespace" ≠ some (aliasNamespace path))
          (.invalidRecord "projected alias has the wrong path namespace")
        return .str (projectedPlaceholder path members)
      else do
        rejectIf (maxObjectFields < members.length || members.any fun m => journalKeys.contains m.1)
          (.invalidRecord "projected object is invalid")
        let shapes ← shapeMembers path members
        return .obj shapes
  | value => .ok value

@[inherit_doc projectedSourceShape]
def shapeElements (path : List String) : List Json → Result (List Json)
  | [] => .ok []
  | value :: rest => do
      let shape ← projectedSourceShape path value
      let shapes ← shapeElements path rest
      return shape :: shapes

@[inherit_doc projectedSourceShape]
def shapeMembers (path : List String) : List (String × Json) → Result (List (String × Json))
  | [] => .ok []
  | (key, value) :: rest => do
      let shape ← projectedSourceShape (key :: path) value
      let shapes ← shapeMembers path rest
      return (key, shape) :: shapes

end

def maxProjectedEventBytes : Nat := 524288

def validateProjectedEvent (event : Json) : Result Unit := do
  rejectIf (!withinShapeBounds event || maxProjectedEventBytes < env.encodedLength event)
    (.invalidRecord "projected event exceeds bounds")
  let shape ← projectedSourceShape env [] event
  validateEventContract env ((stringField shape "task_id").getD "") shape false
  validateExportAuthorityLinks event

end Shape

/-! ## 4. Hashes -/

def projectionHashProfile : String := "aios-provenance-redacted-projection-v1"
def projectionExportProfile : String := "privacy-redacted-projection-v1"

def projectionRecordDomain : List UInt8 :=
  "AIOS-PROVENANCE-PROJECTION-RECORD\x00v1\x00".toUTF8.toList

def projectionDescriptorDomain : List UInt8 :=
  "AIOS-PROVENANCE-PROJECTION-DESCRIPTOR\x00v1\x00".toUTF8.toList

structure ProjectionManifest where
  schemaVersion : String
  exportProfile : String
  projectionHashProfile : String
  bundleId : String
  recordCount : Nat
  headSequence : Nat
  headProjectionHash : String
  descriptorHash : String
  deriving DecidableEq, Repr

structure ProjectedRecord where
  schemaVersion : String
  projectionHashProfile : String
  bundleId : String
  sequence : Nat
  previousProjectionHash : Option String
  projectedEvent : Json
  projectionHash : String
  deriving DecidableEq

def hashCanonical (digest : Digest) (domain : List UInt8) (value : Json) : Result String := do
  rejectIf (!withinShapeBounds value) (.invalidRecord "provenance JSON exceeds shape bounds")
  let canonical ← (digest.canonical value).mapError .canonicalization
  return digest.tagged domain canonical

/-- The value the hash of a projected record is taken of. -/
def projectedView (bundleId : String) (sequence : Nat) (previous : Option String) (event : Json) : Json :=
  Json.ofFields [
    ("schema_version", some (.str schemaVersion)),
    ("projection_hash_profile", some (.str projectionHashProfile)),
    ("bundle_id", some (.str bundleId)),
    ("sequence", some (.num (.posInt sequence))),
    ("previous_projection_hash", some ((previous.map Json.str).getD .null)),
    ("projected_event", some event)]

def hashProjectedRecord (digest : Digest) (bundleId : String) (sequence : Nat)
    (previous : Option String) (event : Json) : Result String := do
  rejectIf (!withinShapeBounds event) (.invalidRecord "projected event exceeds shape bounds")
  hashCanonical digest projectionRecordDomain (projectedView bundleId sequence previous event)

def hashProjectionDescriptor (digest : Digest) (manifest : ProjectionManifest) : Result String :=
  hashCanonical digest projectionDescriptorDomain (Json.ofFields [
    ("schema_version", some (.str manifest.schemaVersion)),
    ("export_profile", some (.str manifest.exportProfile)),
    ("projection_hash_profile", some (.str manifest.projectionHashProfile)),
    ("bundle_id", some (.str manifest.bundleId)),
    ("record_count", some (.num (.posInt manifest.recordCount))),
    ("head_sequence", some (.num (.posInt manifest.headSequence))),
    ("head_projection_hash", some (.str manifest.headProjectionHash))])

def validBundleId (value : String) : Bool :=
  let chars := value.toList
  chars.length = 74 && chars.take 10 = "bundle:v1:".toList && (chars.drop 10).all isLowerHex

/-! ## 5. Verifying the records -/

/-- What the verifier says of a bundle. -/
structure ProjectionVerificationResult where
  valid : Bool
  bundleId : String
  fromSequence : Nat
  toSequence : Nat
  computedProjectionHeadHash : Option String
  diagnostics : List VerificationDiagnostic
  verifiedAt : String
  deriving DecidableEq, Repr

mutual

/-- The aliases of a value with their namespaces; none where an alias lacks one of both. -/
def aliasesOf : Json → Option (List (String × String))
  | .obj members =>
      if isAlias members then
        (textOf members "alias").bind fun digest =>
          (textOf members "namespace").map fun name => [(digest, name)]
      else aliasesOfMembers members
  | .arr values => aliasesOfElements values
  | _ => some []

@[inherit_doc aliasesOf]
def aliasesOfElements : List Json → Option (List (String × String))
  | [] => some []
  | value :: rest => (aliasesOf value).bind fun l => (aliasesOfElements rest).map (l ++ ·)

@[inherit_doc aliasesOf]
def aliasesOfMembers : List (String × Json) → Option (List (String × String))
  | [] => some []
  | (_, value) :: rest => (aliasesOf value).bind fun l => (aliasesOfMembers rest).map (l ++ ·)

end

/-- Adds aliases to those seen; none where one has another namespace. -/
def seeAliases : List (String × String) → List (String × String) → Option (List (String × String))
  | seen, [] => some seen
  | seen, (digest, name) :: rest =>
      if seen.any fun p => p.1 = digest && p.2 ≠ name then none
      else seeAliases ((digest, name) :: seen) rest

/-- The source takes the values from a stack; the aliases it has seen at the end are the same. -/
def collectAliasNamespaces (event : Json) (seen : List (String × String)) :
    Option (List (String × String)) :=
  (aliasesOf event).bind fun found => seeAliases seen found

/-- What the loop over the records has at hand. -/
structure ProjectionProgress where
  previous : Option String
  index : Nat
  taskAlias : Option String
  eventAliases : List String
  namespaces : List (String × String)
  latest : Option (Nat × String)
  deriving DecidableEq

def ProjectionProgress.start : ProjectionProgress := ⟨none, 0, none, [], [], none⟩

/-- The alias of an identity of the event. -/
def identityAlias (event : Json) (key : String) : Option String :=
  (pointer event [key, "alias"]).bind Json.asStr

section Verify

variable (env : JournalEnv) (manifest : ProjectionManifest) (verifiedAt : String)

def projectionFailure (code message : String) (sequence : Option Nat) (head : Option String) :
    ProjectionVerificationResult where
  valid := false
  bundleId := manifest.bundleId
  fromSequence := 1
  toSequence := sequence.getD 0
  computedProjectionHeadHash := head
  diagnostics := [⟨code, message, sequence, none⟩]
  verifiedAt := verifiedAt

/-- The record is in its place, and its event has the shape of a source event. -/
def recordInPlace (p : ProjectionProgress) (record : ProjectedRecord) : Bool :=
  record.schemaVersion = schemaVersion && record.projectionHashProfile = projectionHashProfile &&
    record.bundleId = manifest.bundleId && record.sequence = p.index + 1 &&
    record.previousProjectionHash = p.previous && passes (validateProjectedEvent env record.projectedEvent)

/-- The event is the first exactly where it is a creation, of the one Task, with a new identity. -/
def identityNew (p : ProjectionProgress) (event : Json) (task id : String) : Bool :=
  (decide (p.index = 0) = decide (stringField event "event_type" = some "task.created")) &&
    (p.taskAlias.all fun first => first = task) && !p.eventAliases.contains id

def verifyProjectedRecord (p : ProjectionProgress) (record : ProjectedRecord) :
    Except ProjectionVerificationResult ProjectionProgress := do
  let invalid := fun message => projectionFailure manifest verifiedAt "PROJECTION_RECORD_INVALID" message
    (some record.sequence) p.previous
  let misplaced := invalid "projected record shape, order, or predecessor is invalid"
  rejectIf (!recordInPlace env manifest p record) misplaced
  let namespaces ← expect (collectAliasNamespaces record.projectedEvent p.namespaces) misplaced
  let unknown := invalid "projected stream genesis or event identity is invalid"
  let task ← expect (identityAlias record.projectedEvent "task_id") unknown
  let id ← expect (identityAlias record.projectedEvent "event_id") unknown
  rejectIf (!identityNew p record.projectedEvent task id) unknown
  let computed ← (hashProjectedRecord env.digest manifest.bundleId record.sequence p.previous
    record.projectedEvent).mapError fun _ => invalid "projected record cannot be canonicalized"
  rejectIf (computed ≠ record.projectionHash) (projectionFailure manifest verifiedAt
    "PROJECTION_HASH_MISMATCH" "projected record hash does not match its contents"
    (some record.sequence) (some computed))
  let latest ← (advanceTaskRevision p.latest record.projectedEvent).mapError fun _ =>
    invalid "projected Task revision is discontinuous"
  return ⟨some computed, p.index + 1, some task, id :: p.eventAliases, namespaces, latest⟩

def verifyProjectedLoop : ProjectionProgress → List ProjectedRecord →
    Except ProjectionVerificationResult ProjectionProgress
  | p, [] => .ok p
  | p, record :: rest => do
      let next ← verifyProjectedRecord env manifest verifiedAt p record
      verifyProjectedLoop next rest

/-- The records against the manifest. -/
def checkProjectedRecords (records : List ProjectedRecord) :
    Except ProjectionVerificationResult ProjectionVerificationResult := do
  let p ← verifyProjectedLoop env manifest verifiedAt .start records
  let last := records.getLast?.map ProjectedRecord.sequence
  rejectIf (records.length ≠ manifest.recordCount || last ≠ some manifest.headSequence ||
      p.previous ≠ some manifest.headProjectionHash)
    (projectionFailure manifest verifiedAt "PROJECTION_MANIFEST_MISMATCH"
      "projection manifest does not match its records" last p.previous)
  return {
    valid := true
    bundleId := manifest.bundleId
    fromSequence := 1
    toSequence := manifest.headSequence
    computedProjectionHeadHash := some manifest.headProjectionHash
    diagnostics := []
    verifiedAt := verifiedAt }

def verifyProjectedRecords (records : List ProjectedRecord) : ProjectionVerificationResult :=
  match checkProjectedRecords env manifest verifiedAt records with
  | .ok result => result
  | .error result => result

end Verify

/-! ## 6. Reading a bundle -/

structure ProjectionEnv extends JournalEnv where
  /-- JSON without duplicate keys in an object, at any depth. -/
  parseUniqueJson : String → Option Json
  manifestSchema : Json → Bool
  recordSchema : Json → Bool
  resultSchema : ProjectionVerificationResult → Bool

def maxProjectedRecordBytes : Nat := maxProjectedEventBytes + 4096
def maxProjectionExportBytes : Nat := 8 * 1024 * 1024

/-- The lines of a text, each up to its newline; a carriage return before it is dropped. -/
def splitLines : List Char → List Char → List (List Char)
  | [], [] => []
  | line, [] => [line.reverse]
  | line, '\n' :: rest =>
      (match line with
        | '\r' :: before => before.reverse
        | _ => line.reverse) :: splitLines [] rest
  | line, c :: rest => splitLines (c :: line) rest

/-- `str::lines`. -/
def linesOf (text : String) : List String := (splitLines [] text.toList).map String.ofList

/-- A member that is an unsigned number. -/
def countMember (value : Json) (key : String) : Option Nat := (value.get? key).bind asU64

/-- A member that is a text, null or absent. -/
def nullableMember (value : Json) (key : String) : Option (Option String) :=
  match value.get? key with
  | none | some .null => some none
  | some (.str text) => some (some text)
  | some _ => none

def onlyKeys (value : Json) (keys : List String) : Bool :=
  value.asObj.any fun members => members.all fun m => keys.contains m.1

def ProjectionManifest.ofJson (value : Json) : Option ProjectionManifest := do
  guard (onlyKeys value ["schema_version", "export_profile", "projection_hash_profile", "bundle_id",
    "record_count", "head_sequence", "head_projection_hash", "descriptor_hash"])
  let schemaVersion ← stringField value "schema_version"
  let exportProfile ← stringField value "export_profile"
  let profile ← stringField value "projection_hash_profile"
  let bundleId ← stringField value "bundle_id"
  let recordCount ← countMember value "record_count"
  let headSequence ← countMember value "head_sequence"
  let headHash ← stringField value "head_projection_hash"
  let descriptorHash ← stringField value "descriptor_hash"
  return ⟨schemaVersion, exportProfile, profile, bundleId, recordCount, headSequence, headHash,
    descriptorHash⟩

def ProjectedRecord.ofJson (value : Json) : Option ProjectedRecord := do
  guard (onlyKeys value ["schema_version", "projection_hash_profile", "bundle_id", "sequence",
    "previous_projection_hash", "projected_event", "projection_hash"])
  let schemaVersion ← stringField value "schema_version"
  let profile ← stringField value "projection_hash_profile"
  let bundleId ← stringField value "bundle_id"
  let sequence ← countMember value "sequence"
  let previous ← nullableMember value "previous_projection_hash"
  let event ← value.get? "projected_event"
  let hash ← stringField value "projection_hash"
  return ⟨schemaVersion, profile, bundleId, sequence, previous, event, hash⟩

section Bundle

variable (env : ProjectionEnv)

def badJson : Error := .serialization "malformed JSON"

def unsupportedManifest : Error := .invalidRecord "unsupported portable provenance export manifest"

def readManifest (manifestJson : String) : Result ProjectionManifest := do
  let value ← expect (env.parseUniqueJson manifestJson) badJson
  rejectIf (!withinShapeBounds value)
    (.invalidRecord "portable provenance manifest exceeds shape bounds")
  rejectIf (!env.manifestSchema value) unsupportedManifest
  let manifest ← expect (ProjectionManifest.ofJson value) badJson
  rejectIf (manifest.schemaVersion ≠ schemaVersion ||
      manifest.projectionHashProfile ≠ projectionHashProfile ||
      manifest.exportProfile ≠ projectionExportProfile || !validBundleId manifest.bundleId)
    unsupportedManifest
  let descriptor ← hashProjectionDescriptor env.digest manifest
  rejectIf (descriptor ≠ manifest.descriptorHash) unsupportedManifest
  return manifest

def readRecord (line : String) : Result ProjectedRecord := do
  rejectIf (line.isEmpty || maxProjectedRecordBytes < line.utf8ByteSize)
    (.invalidRecord "malformed portable provenance JSONL")
  let value ← expect (env.parseUniqueJson line) badJson
  rejectIf (!withinShapeBounds value)
    (.invalidRecord "projected provenance record exceeds shape bounds")
  rejectIf (!env.recordSchema value) (.invalidRecord "malformed projected provenance record")
  expect (ProjectedRecord.ofJson value) badJson

def readRecords (recordsJsonl : String) : Result (List ProjectedRecord) :=
  (linesOf recordsJsonl).mapM (readRecord env)

def verifyJsonlExport (manifestJson recordsJsonl verifiedAt : String) :
    Result ProjectionVerificationResult := do
  rejectIf (maxEventBytes < manifestJson.utf8ByteSize ||
      maxProjectionExportBytes < recordsJsonl.utf8ByteSize)
    (.invalidRecord "portable provenance export exceeds bounds")
  validateTimestamp env.rfc3339 verifiedAt
  let manifest ← readManifest env manifestJson
  let records ← readRecords env recordsJsonl
  let result := verifyProjectedRecords env.toJournalEnv manifest verifiedAt records
  rejectIf (!env.resultSchema result) (.invalidRecord "projection verifier produced an invalid result")
  return result

end Bundle

end Aios.Provenance
