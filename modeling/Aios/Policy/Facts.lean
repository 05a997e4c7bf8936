/-
  File:      Aios/Policy/Facts.lean
  Subject:   THE FACTS OF A CANDIDATE: everything a decision may depend on, loaded from the store in one
             fail-closed pass, and the fingerprint over them.

  `CandidateFacts.load` reads the candidate, its Task, the active program and the resources that were
  reserved for it. The labels of the outputs are inherited from those of the inputs. What it reads of
  the ledger is in `LoadView`, so two stores with the same view load the same facts.
-/
import Aios.Policy.Tables
import Aios.Tasks.Authority
import Mathlib.Data.Prod.Lex

namespace Aios.Policy

open Lib Provenance Artifacts

/-! ## 1. What is judged elsewhere -/

/-- The texts, the digests and the checks of other parts of the system. -/
structure PolicyEnv where
  time : Tasks.TimeEnv
  digest : Digest
  /-- `canonical_json`. -/
  canonicalJson : Json → PolicyResult String
  /-- `aios_registry::parse_strict_value`. -/
  parseStrict : String → Option Json
  /-- The JSON functions of SQLite. -/
  sqlJson : String → Option Json
  /-- `serde_json::from_str`, and its pointers. -/
  parseJson : String → Option Json
  jsonPointer : Json → String → Option Json
  /-- `aios_ir::recompute_semantic_hash`. -/
  recomputeSemanticHash : String → Option String

section Texts

variable (env : PolicyEnv)

/-- A digest of the domain and the text, as a tagged text. -/
def PolicyEnv.hash (domain data : String) : String :=
  env.digest.tagged domain.toUTF8.toList data.toUTF8.toList

def checkedTime (raw : String) : PolicyResult Int := expect (env.time.rfc3339 raw) reject

end Texts

/-- An object of the given members. -/
def object (members : List (String × Json)) : Json := Json.ofFields (members.map fun m => (m.1, some m.2))

/-- The text, or null. -/
def textOrNull (text : Option String) : Json := (text.map Json.str).getD .null

/-- A whole number. -/
def number (n : Nat) : Json := .num (.posInt n)

/-! ## 2. Facts -/

structure ResourceFacts where
  action : String
  selector : String
  kind : String
  id : String
  outputPort : Option String
  semanticType : String
  sensitivity : String
  retention : Option String
  expiresAt : Option String
  exportPin : Option ExportPin
  deriving DecidableEq

structure CandidateFacts where
  candidate : ReservationRow
  taskRevision : Nat
  taskState : Tasks.TaskState
  taskPrincipalKind : String
  taskPrincipalId : String
  constraints : Option String
  resources : List ResourceFacts
  deriving DecidableEq

/-! ## 3. The Task and its constraints -/

section Load

variable (env : PolicyEnv)

/-- What `load` reads of the ledger. -/
structure LoadView where
  world : World
  reservations : List ReservationRow
  resources : List ResourceRow
  exportPins : List (String × ExportPin)
  statuses : List StatusRow
  /-- The identities of the allocations. -/
  allocated : List String

def PolicyStore.loadView (store : PolicyStore) : LoadView where
  world := store.world
  reservations := store.reservations
  resources := store.resources
  exportPins := store.exportPins
  statuses := store.statuses
  allocated := store.allocations.map AllocationRow.allocationId

/-- A state in which the Task may still be evaluated. -/
def evaluable (state : Tasks.TaskState) : Bool :=
  state = .planning || state = .waitingForAuth || state = .runnable || state = .running

def LoadView.reservation? (view : LoadView) (candidateId : String) : Option ReservationRow :=
  view.reservations.find? fun c => c.candidateId = candidateId

def LoadView.state? (view : LoadView) (candidateId : String) : Option Tasks.CandidateState :=
  (view.statuses.find? fun s => s.candidateId = candidateId).map StatusRow.state

def World.task? (world : World) (taskId : String) : Option TaskRow :=
  world.tasks.find? fun t => t.taskId = taskId

def World.artifact? (world : World) (artifactId : String) : Option ArtifactRow :=
  world.artifacts.find? fun a => a.artifactId = artifactId

/-- The pending candidate of a Task that may still be evaluated. -/
def loadCandidate (view : LoadView) (candidateId : String) : PolicyResult (ReservationRow × TaskRow) := do
  let c ← expect (view.reservation? candidateId) reject
  rejectIf (view.state? candidateId ≠ some .pending) reject
  let t ← expect (view.world.task? c.taskId) reject
  rejectIf (c.placementLocality ≠ "local" || !evaluable t.state) reject
  rejectIf (t.revision < 1 || t.principalKind ≠ "user" || t.principalId.isEmpty ||
    c.executionProfileRef ≠ "profile:stage1-local:" ++ c.isolationClass) reject
  return (c, t)

/-- A constraint of the Task that is known, well typed and, for a deadline, still ahead. -/
def constraintAdmissible (now : Int) (key : String) (value : Json) : Bool :=
  match key with
  | "privacy" => value.asStr.any fun p => p = "local-only" || p = "local-first" || p = "remote-allowed"
  | "max_cost_microunits" => value = .null || (asU64 value).isSome
  | "preserve_inputs" => value = .bool true || value = .bool false
  | "deadline" => value = .null || (value.asStr.bind env.time.rfc3339).any fun deadline => now < deadline
  | _ => false

/-- The constraints of the Task; none are an empty object. -/
def loadConstraints (raw : Option String) (now : Int) : PolicyResult (List (String × Json)) := do
  let value ← expect (env.parseStrict (raw.getD "\x7b\x7d")) reject
  let members ← expect value.asObj reject
  rejectIf (!members.all fun m => constraintAdmissible env now m.1 m.2) reject
  return members

/-- The active revision of the candidate's program. -/
def activeProgram (world : World) (t : TaskRow) (c : ReservationRow) : Option ProgramRow :=
  world.programs.find? fun p => p.taskId = c.taskId && t.activeProgramRevision = some p.programRevision &&
    p.status = "active" && p.semanticHash = some c.semanticProgramHash &&
    p.registrySnapshotId = some c.registrySnapshotId

/-! ## 4. The reserved resources -/

def isSensitivity (text : String) : Bool :=
  text = "public" || text = "local" || text = "private" || text = "confidential" || text = "secret"

def isRetention (text : String) : Bool :=
  text = "ephemeral" || text = "task" || text = "persistent" || text = "user-managed"

/-- The rows of the candidate, by action and selector. -/
def LoadView.resourcesOf (view : LoadView) (candidateId : String) : List ResourceRow :=
  sortOn (fun r => toLex (r.action, r.semanticSelector))
    (view.resources.filter fun r => r.candidateId = candidateId)

/-- The input artifacts of the Task with this type. -/
def inputsOfType (world : World) (taskId semanticType : String) : List ArtifactRow :=
  world.taskArtifacts.filterMap fun ta =>
    if ta.taskId = taskId && ta.role = "input" then
      (world.artifact? ta.artifactId).filter fun a => a.semanticType = some semanticType
    else none

/-- The least identity among the verified ones. -/
def leastVerified (artifacts : List ArtifactRow) : Option String :=
  ((artifacts.filter fun a => a.integrityState = "verified").map ArtifactRow.artifactId).min?

/-- An artifact the node reads: the one verified input of its type. -/
def inputAdmissible (world : World) (taskId : String) (row : ResourceRow) (a : ArtifactRow) : Bool :=
  let exact := inputsOfType world taskId row.expectedSemanticType
  row.action = "artifact.read" && a.integrityState = "verified" &&
    a.semanticType = some row.expectedSemanticType && exact.length = 1 &&
    leastVerified exact = some row.resourceId && a.retentionClass.any isRetention

/-- The row is still in time. -/
def unexpired (now : Int) (expiresAt : Option String) : Bool :=
  expiresAt.all fun raw => (env.time.rfc3339 raw).any fun expiry => now < expiry

/-- One reserved resource; an output has no labels yet. -/
def loadResource (view : LoadView) (taskId : String) (now : Int) (row : ResourceRow) :
    PolicyResult ResourceFacts := do
  let facts := fun sensitivity retention expiresAt =>
    (⟨row.action, row.semanticSelector, row.resourceKind, row.resourceId, row.outputPort,
      row.expectedSemanticType, sensitivity, retention, expiresAt, none⟩ : ResourceFacts)
  if row.resourceKind = "artifact" then
    let a ← expect (view.world.artifact? row.resourceId) reject
    rejectIf (!inputAdmissible view.world taskId row a || !isSensitivity a.sensitivity ||
      !unexpired env now a.expiresAt) reject
    return facts a.sensitivity a.retentionClass a.expiresAt
  else do
    rejectIf (row.resourceKind ≠ "output-allocation" || row.action ≠ "artifact.write" ||
      view.allocated.contains row.resourceId) reject
    return facts "" none none

def loadResources (view : LoadView) (taskId : String) (now : Int) (candidateId : String) :
    PolicyResult (List ResourceFacts) :=
  (view.resourcesOf candidateId).mapM (loadResource env view taskId now)

/-! ## 5. The export -/

def validId (value : String) : Bool := !value.isEmpty && value.utf8ByteSize ≤ 256

/-- No blank and no control character. -/
def printable (value : String) : Bool := value.toList.all fun c => !isWhitespace c && !isControl c

def validExportIdentifier (value : String) : Bool := validId value && printable value

def validServiceId (value : String) : Bool :=
  Tasks.startsWith value "service://" && value.length ≤ 512 && printable value

def exportServiceHash (serviceId destinationClass adapterId : String) : String :=
  env.hash "AIOS-TRUSTED-EXPORT-SERVICE\x00v1\x00"
    (serviceId ++ "\x00" ++ destinationClass ++ "\x00" ++ adapterId ++ "\x00")

def LoadView.exportPin? (view : LoadView) (candidateId : String) : Option ExportPin :=
  view.exportPins.lookup candidateId

/-- The Task lets data leave the machine. -/
def egressAllowed (privacy : Option String) : Bool :=
  privacy = some "local-first" || privacy = some "remote-allowed"

/-- The service of the pin is ready and its source is what it was. -/
def pinCurrent (world : World) (t : TaskRow) (pin : ExportPin) : Bool :=
  (world.exportServices.any fun s => s.serviceId = pin.serviceId &&
    s.destinationClass = pin.destinationClass && s.descriptorHash = pin.descriptorHash &&
    s.adapterId = pin.adapterId && s.state = "READY") &&
  egressAllowed ((t.constraintsJson.bind env.sqlJson).bind fun v => stringField v "privacy") &&
  (world.artifact? pin.sourceArtifactId).any fun a => a.contentHash = some pin.sourceContentHash &&
    a.sensitivity = pin.sensitivity && a.integrityState = "verified" &&
    a.sizeBytes.any fun size => size ≤ pin.maxSizeBytes

def loadCurrentExportPin (view : LoadView) (t : TaskRow) (candidateId : String) :
    PolicyResult (Option ExportPin) :=
  match view.exportPin? candidateId with
  | none => .ok none
  | some pin => do
      rejectIf (!pinCurrent env view.world t pin || !validServiceId pin.serviceId ||
        !validExportIdentifier pin.adapterId || !validExportIdentifier pin.operationId ||
        exportServiceHash env pin.serviceId pin.destinationClass pin.adapterId ≠ pin.descriptorHash)
        rejectCandidate
      return some pin

def exportFacts (pin : ExportPin) : ResourceFacts :=
  ⟨"data.egress", pin.selector, "external-destination", pin.serviceId, none, "external.export@1",
    pin.sensitivity, none, none, some pin⟩

/-- The resources with the export of the pin behind them. -/
def withExport (constraints : List (String × Json)) (resources : List ResourceFacts) :
    Option ExportPin → PolicyResult (List ResourceFacts)
  | none => .ok resources
  | some pin => do
      rejectIf (!egressAllowed ((constraints.lookup "privacy").bind Json.asStr) ||
        !resources.any fun r => r.action = "artifact.read" && r.kind = "artifact" &&
          r.id = pin.sourceArtifactId && r.sensitivity = pin.sensitivity) reject
      return resources ++ [exportFacts pin]

/-! ## 6. Inherited labels -/

def sensitivityRank : String → Option Nat
  | "public" => some 0
  | "local" => some 1
  | "private" => some 2
  | "confidential" => some 3
  | "secret" => some 4
  | _ => none

def sensitivityNames : List String := ["public", "local", "private", "confidential", "secret"]

def retentionRank : String → Option Nat
  | "ephemeral" => some 0
  | "task" => some 1
  | "persistent" => some 2
  | "user-managed" => some 3
  | _ => none

def retentionNames : List String := ["ephemeral", "task", "persistent", "user-managed"]

/-- The greatest rank, from the least one on. -/
def maxRank (least : Nat) (ranks : List Nat) : Nat := max (ranks.foldl max 0) least

def artifactsOf (resources : List ResourceFacts) : List ResourceFacts :=
  resources.filter fun r => r.kind = "artifact"

def inheritedSensitivity (resources : List ResourceFacts) : PolicyResult String := do
  let ranks ← (artifactsOf resources).mapM fun r => expect (sensitivityRank r.sensitivity) reject
  expect sensitivityNames[maxRank 2 ranks]? reject

def inheritedRetention (resources : List ResourceFacts) : PolicyResult String := do
  let ranks ← (artifactsOf resources).mapM fun r => expect (r.retention.bind retentionRank) reject
  expect retentionNames[maxRank 1 ranks]? reject

/-- Every output takes the inherited labels. -/
def labelOutputs (sensitivity retention : String) (resources : List ResourceFacts) : List ResourceFacts :=
  resources.map fun r =>
    if r.kind = "output-allocation" then { r with sensitivity := sensitivity, retention := some retention }
    else r

/-! ## 7. The program -/

/-- The declared requests of the node are the resources, each of them once. -/
def declaredMatch (declared : List Json) (resources : List ResourceFacts) : Bool :=
  declared.length = resources.length && declared.all fun semantic =>
    (resources.filter fun r => some r.action = Tasks.textAt semantic ["action"] &&
      some r.selector = Tasks.textAt semantic ["resource"]).length = 1

/-- An export stands under the egress policy of the node, and in one of its classes. -/
def egressMatches (node : Json) (resources : List ResourceFacts) : Bool :=
  let exported := resources.findSome? ResourceFacts.exportPin
  (decide (Tasks.textAt node ["egress", "mode"] = some "policy") = exported.isSome) &&
    exported.all fun pin => ((pointer node ["egress", "destination_classes"]).bind Json.asArr).any fun classes =>
      classes.any fun c => c.asStr = some pin.destinationClass

/-- The inputs of the node come from inputs of the program, each with its resource. -/
def inputsMatch (inputs : List (String × Json)) (resources : List ResourceFacts) : Bool :=
  (inputs.all fun wiring => Tasks.textAt wiring.2 ["source"] = some "input" &&
    (Tasks.textAt wiring.2 ["name"]).any fun name =>
      (resources.filter fun r => r.action = "artifact.read" && r.selector = "input:" ++ name &&
        r.kind = "artifact").length = 1) &&
  (artifactsOf resources).length = inputs.length

/-- The node of the candidate, read from a program whose hash is recomputed. -/
def loadNode (c : ReservationRow) (p : ProgramRow) : PolicyResult Json := do
  rejectIf (env.recomputeSemanticHash p.programJson ≠ some c.semanticProgramHash) reject
  let program ← expect (env.parseStrict p.programJson) reject
  expect (Tasks.programNode program c.nodeId) reject

def checkNode (node : Json) (resources : List ResourceFacts) : PolicyResult Unit := do
  let declared ← expect ((node.get? "authority_requests").bind Json.asArr) reject
  rejectIf (!declaredMatch declared resources) reject
  rejectIf (!egressMatches node resources) reject
  let inputs ← expect ((node.get? "inputs").bind Json.asObj) reject
  rejectIf (!inputsMatch inputs resources) reject

/-! ## 8. The facts -/

def loadFacts (view : LoadView) (candidateId : String) (now : Int) : PolicyResult CandidateFacts := do
  let (c, t) ← loadCandidate view candidateId
  let constraints ← loadConstraints env t.constraintsJson now
  let p ← expect (activeProgram view.world t c) reject
  let reserved ← loadResources env view c.taskId now candidateId
  let pin ← loadCurrentExportPin env view t candidateId
  let resources ← withExport constraints reserved pin
  let sensitivity ← inheritedSensitivity resources
  let retention ← inheritedRetention resources
  let resources := labelOutputs sensitivity retention resources
  rejectIf (resources.isEmpty || resources.length ≠ c.resourceCount + pin.toList.length) reject
  let node ← loadNode env c p
  checkNode node resources
  return ⟨c, t.revision, t.state, t.principalKind, t.principalId, t.constraintsJson, resources⟩

def CandidateFacts.load (store : PolicyStore) (candidateId : String) (now : Int) :
    PolicyResult CandidateFacts :=
  loadFacts env store.loadView candidateId now

end Load

/-! ## 9. The fingerprint -/

def ExportPin.toJson (pin : ExportPin) : Json := object [
  ("selector", .str pin.selector), ("service_id", .str pin.serviceId),
  ("destination_class", .str pin.destinationClass), ("descriptor_hash", .str pin.descriptorHash),
  ("adapter_id", .str pin.adapterId), ("operation_id", .str pin.operationId),
  ("source_artifact_id", .str pin.sourceArtifactId),
  ("source_content_hash", .str pin.sourceContentHash), ("purpose", .str pin.purpose),
  ("sensitivity", .str pin.sensitivity), ("max_size_bytes", number pin.maxSizeBytes)]

def ResourceFacts.toJson (r : ResourceFacts) : Json := object [
  ("action", .str r.action), ("selector", .str r.selector), ("kind", .str r.kind), ("id", .str r.id),
  ("output_port", textOrNull r.outputPort), ("semantic_type", .str r.semanticType),
  ("sensitivity", .str r.sensitivity), ("retention", textOrNull r.retention),
  ("expires_at", textOrNull r.expiresAt)]

/-- The pin of the export among the resources. -/
def CandidateFacts.pin? (facts : CandidateFacts) : Option ExportPin :=
  facts.resources.findSome? ResourceFacts.exportPin

def CandidateFacts.fingerprintValue (facts : CandidateFacts) (resource : ResourceFacts) (revision : Nat)
    (contentHash : String) : Json :=
  let c := facts.candidate
  Json.ofFields [
    ("schema_version", some (.str "0.1")), ("candidate_id", some (.str c.candidateId)),
    ("binding_id", some (.str c.bindingId)), ("attempt_id", some (.str c.attemptId)),
    ("task_id", some (.str c.taskId)), ("task_principal_kind", some (.str facts.taskPrincipalKind)),
    ("task_principal_id", some (.str facts.taskPrincipalId)),
    ("constraints", some (textOrNull facts.constraints)),
    ("semantic_program_hash", some (.str c.semanticProgramHash)),
    ("registry_snapshot_id", some (.str c.registrySnapshotId)), ("node_id", some (.str c.nodeId)),
    ("capability", some (.str c.capability)), ("contract_hash", some (.str c.capabilityContractHash)),
    ("provider_registration_id", some (.str c.providerRegistrationId)),
    ("provider_id", some (.str c.providerId)), ("provider_version", some (.str c.providerVersion)),
    ("provider_manifest_hash", some (.str c.providerManifestHash)),
    ("provider_build_hash", some (.str c.providerBuildHash)),
    ("conformance_evidence_id", some (.str c.conformanceEvidenceId)),
    ("provider_trust_source_id", some (.str c.providerTrustSourceId)),
    ("execution_profile_ref", some (.str c.executionProfileRef)),
    ("isolation_class", some (.str c.isolationClass)),
    ("attempt_number", some (number c.attemptNumber)), ("placement_locality", some (.str "local")),
    ("egress", some (.str (if facts.pin?.isSome then "policy" else "deny"))),
    ("network", some (.str "none")), ("resource", some resource.toJson),
    ("all_resources", some (.arr (facts.resources.map ResourceFacts.toJson))),
    ("policy_activation_revision", some (number revision)),
    ("policy_content_hash", some (.str contentHash)),
    ("external_export", facts.pin?.map ExportPin.toJson)]

def CandidateFacts.fingerprint (env : PolicyEnv) (facts : CandidateFacts) (resource : ResourceFacts)
    (revision : Nat) (contentHash : String) : PolicyResult String := do
  let text ← env.canonicalJson (facts.fingerprintValue resource revision contentHash)
  return env.hash "AIOS-AUTHORITY-EVALUATION\x00v1\x00" text

end Aios.Policy
