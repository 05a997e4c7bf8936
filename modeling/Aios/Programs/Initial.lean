/-
  File:      Aios/Programs/Initial.lean
  Subject:   THE ADMISSION OF AN INITIAL PROGRAM from raw documents
             (`initial_program_admission.rs`).

  Before the transition: two strict documents, the one node of the program, the plan that repeats it,
  and the digests of the raw bytes (`admitInitialSemanticProgram`). Inside its transaction: the usable
  snapshot, the registry loaded from it, the validator on the stored bytes
  (`validateInitialProgram`). `programEnv` puts both readers of a stored program into the Task Manager.
-/
import Aios.Ir.Issued
import Aios.Providers.Launch
import Aios.Registry.StrictJson
import Aios.Tasks.Execution
import Aios.Tasks.System

namespace Aios.Programs

open Lib Provenance Registry Tasks
open Providers (LaunchEnv ProviderDb loadAdmittedSemanticRegistry)

/-- What an admission calls. -/
structure AdmissionEnv where
  ir : ValidatorEnv
  launch : LaunchEnv
  /-- `specs/task-plan.schema.json` accepts the value. -/
  planSchema : Json → Bool
  /-- The `date-time` format. -/
  dateTime : String → Bool
  /-- `OffsetDateTime::parse`, and the text `format` writes for what it read. -/
  reformat : String → Option String
  /-- `AIOS_VALIDATOR_BUILD_HASH` when the validator was compiled. -/
  buildHash : Option String

/-! ## 1. The documents -/

section Documents

variable (env : AdmissionEnv)

def maxRawDocumentBytes : Nat := 1048576

def strictDocument (raw : List UInt8) : TaskResult Json := do
  rejectIf (raw.isEmpty || maxRawDocumentBytes < raw.length) admissionRejected
  expect (parseStrictValue env.ir.serde raw) admissionRejected

/-- The elements of an array under a key. -/
def listField (value : Json) (key : String) : Option (List Json) := (value.get? key).bind Json.asArr

def singleNodeId (program : Json) : TaskResult String := do
  let nodes ← expect (listField program "nodes") admissionRejected
  match nodes with
  | [node] =>
      expect ((stringField node "id").filter fun id => !id.isEmpty && id.length ≤ 128) admissionRejected
  | _ => .error admissionRejected

/-- The parts before and after the first occurrence of `c`. -/
def splitOnce (c : Char) : List Char → Option (List Char × List Char)
  | [] => none
  | d :: l => if d = c then some ([], l) else (splitOnce c l).map fun p => (d :: p.1, p.2)

/-- The capability of a node. -/
def nodeCapability (node : Json) : Option String :=
  (node.get? "operation").bind fun operation => stringField operation "capability"

/-- The capability of the first node, cut at the version. -/
def firstCapability (program : Json) : Option (List Char × List Char) := do
  let nodes ← listField program "nodes"
  let capability ← nodes.head?.bind nodeCapability
  splitOnce '@' capability.toList

/-- The node of a plan is this node with this capability. -/
def planNodeFits (node : Json) (nodeId : String) (capability : List Char × List Char) : Bool :=
  stringField node "id" = some nodeId &&
    stringField node "capability" = some (String.ofList capability.1) &&
    (stringField node "capability_version").all fun version => version.toList = capability.2

def validateInitialPlan (plan : Json) (taskId planId : String) (program : Json) (nodeId : String) :
    TaskResult Unit := do
  rejectIf (!env.planSchema plan || stringField plan "plan_id" ≠ some planId ||
    stringField plan "task_id" ≠ some taskId || (plan.get? "revision").bind asU64 ≠ some 1)
    admissionRejected
  let nodes ← expect (listField plan "nodes") admissionRejected
  match nodes with
  | [node] => do
      let capability ← expect (firstCapability program) admissionRejected
      rejectIf (!planNodeFits node nodeId capability) admissionRejected
  | _ => .error admissionRejected

end Documents

/-! ## 2. The request -/

/-- Raw documents, as the trusted host offers them. -/
structure InitialProgramAdmissionRequest where
  transitionId : String
  taskId : String
  expectedRevision : Nat
  planId : String
  planJson : List UInt8
  registrySnapshotId : String
  programJson : List UInt8
  deriving DecidableEq, Repr

def programDomain : List UInt8 := "AIOS-INITIAL-PROGRAM-RAW\x00v1\x00".toUTF8.data.toList

def planDomain : List UInt8 := "AIOS-INITIAL-PLAN-RAW\x00v1\x00".toUTF8.data.toList

/-- `std::str::from_utf8`. -/
def fromUtf8 (raw : List UInt8) : Option String := String.fromUTF8? ⟨raw.toArray⟩

/-- `admit_initial_semantic_program`, up to the transition it makes. -/
def admitInitialSemanticProgram (env : AdmissionEnv) (digest : Digest)
    (input : InitialProgramAdmissionRequest) : TaskResult Entry := do
  let plan ← strictDocument env input.planJson
  let program ← strictDocument env input.programJson
  let nodeId ← singleNodeId program
  validateInitialPlan env plan input.taskId input.planId program nodeId
  let planJson ← expect (fromUtf8 input.planJson) admissionRejected
  let programJson ← expect (fromUtf8 input.programJson) admissionRejected
  return .admitInitialSemanticProgram input.transitionId input.taskId input.expectedRevision
    input.planId nodeId
    { planJson, programJson
      registrySnapshotId := input.registrySnapshotId
      programDigest := digest.tagged programDomain input.programJson
      planDigest := digest.tagged planDomain input.planJson }

/-! ## 3. The validation inside the transaction -/

/-- The bytes of a text. -/
def bytesOf (text : String) : List UInt8 := text.toUTF8.data.toList

/-- The report of the validator on a stored program. -/
def validationReport (env : AdmissionEnv) (registry : SemanticRegistry) (programJson validatedAt : String) :
    TaskResult ValidationReport :=
  ((Validator.new registry .default).validateBytesAt env.ir (bytesOf programJson) validatedAt).mapError
    fun _ => admissionRejected

def validateInitialProgram (env : AdmissionEnv) (tasks : Env (Tables ProviderDb))
    (store : Store (Tables ProviderDb)) (admission : InitialProgramAdmission) (committedAt : String) :
    TaskResult ValidatedProgram := do
  let db := store.core.other.rest
  rejectIf (db.semantic.usable? admission.registrySnapshotId ≠ some .admitted) admissionRejected
  let registry ← expect (loadAdmittedSemanticRegistry env.launch db admission.registrySnapshotId)
    admissionRejected
  let validatedAt ← expect (env.reformat committedAt) admissionRejected
  let report ← validationReport env registry admission.programJson validatedAt
  let validation := report.validation
  let semanticHash ← expect (validation.semanticHash.filter fun _ => validation.valid) admissionRejected
  let document ← strictDocument env (bytesOf admission.programJson)
  let nodeId ← singleNodeId document
  let programId ← expect validation.programId admissionRejected
  let result ← canonicalJson tasks (validation.toValue env.buildHash)
  return {
    programId, semanticHash, nodeId, validatorId, validatorVersion, result
    registrySnapshotId := validation.registrySnapshotId
    irVersion := validation.irVersion
    validatorBuildHash := env.buildHash
    validatedAt := validation.validatedAt }

end Aios.Programs
