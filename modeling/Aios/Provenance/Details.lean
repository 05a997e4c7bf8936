/-
  File:      Aios/Provenance/Details.lean
  Subject:   THE VOCABULARY OF EVENT DETAILS: which fields the `details` of an event may hold, and
             what each of them may say.

  The source keeps two tables, one of the allowed fields of each event type and one of the check on
  each field's value. A field has a check exactly when it is allowed, so the model keeps one table,
  `detailContract`, from which both are read.
-/
import Aios.Lib.Digest
import Aios.Lib.Except

namespace Aios.Provenance

open Lib

/-! ## 1. Errors and bounds -/

inductive Error where
  | storage (error : String)
  | serialization (error : String)
  | canonicalization (error : String)
  | invalidRecord (message : String)
  deriving DecidableEq, Repr

abbrev Result (α : Type) := Except Error α

def maxSafeJsonInteger : Nat := 9007199254740991

def invalidDetails (message : String) : Error :=
  .invalidRecord ("invalid privacy-safe provenance details: " ++ message)

/-- The text of a member of an event. -/
def stringField (event : Json) (key : String) : Option String := (event.get? key).bind Json.asStr

/-- An unsigned 64-bit integer value. -/
def asU64 : Json → Option Nat
  | .num (.posInt n) => some n
  | _ => none

/-- `sha256:` and 64 lowercase hexadecimal digits. The source counts bytes; every character it
    accepts is one byte. -/
def validHash (value : String) : Bool :=
  let chars := value.toList
  chars.length = 71 && chars.take 7 = "sha256:".toList && (chars.drop 7).all isLowerHex

/-- **A tagged digest is a valid hash.** -/
theorem validHash_tagged (d : Digest) (domain payload : List UInt8) :
    validHash (d.tagged domain payload) = true := by
  obtain ⟨digits, hlist, hlen, hhex⟩ := d.tagged_toList domain payload
  have hseven : "sha256:".toList.length = 7 := rfl
  simp only [validHash, hlist, List.length_append, hlen, hseven, List.take_left' hseven,
    List.drop_left' hseven, List.all_eq_true.mpr hhex]
  decide

/-- `char::is_whitespace`: the Unicode property White_Space. -/
def isWhitespace (c : Char) : Bool :=
  (9 ≤ c.toNat && c.toNat ≤ 13) || (0x2000 ≤ c.toNat && c.toNat ≤ 0x200a) ||
    [0x20, 0x85, 0xa0, 0x1680, 0x2028, 0x2029, 0x202f, 0x205f, 0x3000].contains c.toNat

/-- `char::is_control`: the general category Cc. -/
def isControl (c : Char) : Bool := c.toNat < 0x20 || (0x7f ≤ c.toNat && c.toNat < 0xa0)

/-! ## 2. Checks on single values -/

section Values

variable (value : Json)

def expectObjectKeys (keys : List String) : Result (List (String × Json)) := do
  let object ← expect value.asObj (invalidDetails "typed detail value must be an object")
  rejectIf (object.any fun p => !keys.contains p.1)
    (invalidDetails "typed detail object has an unknown field")
  return object

def expectExactObject (keys : List String) : Result (List (String × Json)) := do
  let object ← expectObjectKeys value keys
  rejectIf (object.length ≠ keys.length || keys.any fun key => (object.lookup key).isNone)
    (invalidDetails "typed detail object has missing fields")
  return object

def expectInteger (minimum : Nat) (maximum : Option Nat) : Result Unit :=
  rejectIf (!(asU64 value).any fun n =>
      minimum ≤ n && n ≤ maxSafeJsonInteger && maximum.all fun m => n ≤ m)
    (invalidDetails "detail value must be a bounded unsigned integer")

def expectBool : Result Unit :=
  match value with
  | .bool _ => .ok ()
  | _ => .error (invalidDetails "detail value must be a boolean")

def expectNull : Result Unit :=
  rejectIf (value ≠ .null) (invalidDetails "detail value must be null")

/-- Accepts `null`, and else what the check accepts. -/
def orNullable (check : Result Unit) : Result Unit := if value = .null then .ok () else check

def expectIdentifier (maximum : Nat) : Result Unit := do
  let text ← expect value.asStr (invalidDetails "identifier detail must be a string")
  rejectIf (text.length = 0 || maximum < text.length || text.toList.any isWhitespace)
    (invalidDetails "identifier detail has invalid syntax")

def expectTaskString (maximum : Nat) (nonempty : Bool) : Result Unit := do
  let text ← expect value.asStr (invalidDetails "Task-origin detail must be a string")
  rejectIf (maximum < text.length || (nonempty && text.length = 0))
    (invalidDetails "Task-origin detail exceeds its Unicode-scalar bounds")

def expectArtifactIdentifier : Result Unit := do
  expectTaskString value 256 true
  rejectIf (value.asStr.any fun text => text.toList.any isControl)
    (invalidDetails "Artifact-origin identifier contains a control character")

/-- Checks the texts from left to right; `seen` are those so far. -/
def expectDistinctTexts (maximumChars : Nat) (nonempty : Bool) :
    List String → List Json → Result Unit
  | _, [] => .ok ()
  | seen, value :: rest => do
      expectTaskString value maximumChars nonempty
      let text := (value.asStr).getD ""
      rejectIf (seen.contains text)
        (invalidDetails "Task-origin collection contains duplicate values")
      expectDistinctTexts maximumChars nonempty (text :: seen) rest

def expectTaskStringArray (maximumItems maximumChars : Nat) (nonempty : Bool) : Result Unit := do
  let values ← expect value.asArr (invalidDetails "Task-origin collection must be an array")
  rejectIf (maximumItems < values.length)
    (invalidDetails "Task-origin collection exceeds its item bound")
  expectDistinctTexts maximumChars nonempty [] values

def expectSafeIdentifierArray (maximumItems : Nat) : Result Unit := do
  let values ← expect value.asArr (invalidDetails "action collection must be an array")
  rejectIf (maximumItems < values.length)
    (invalidDetails "action collection exceeds its item bound")
  forEach values (expectIdentifier · 256)

def expectOneOf (allowed : List String) : Result Unit :=
  rejectIf (!value.asStr.any allowed.contains)
    (invalidDetails "detail value is not an allowed enum member")

def isReasonCode (text : String) : Bool :=
  !text.isEmpty && text.utf8ByteSize ≤ 128 &&
    (text.toList.take 1).all Char.isUpper &&
    text.toList.all fun c => c.isUpper || c.isDigit || c = '_'

def expectReasonCode : Result Unit := do
  let text ← expect value.asStr (invalidDetails "reason code must be a string")
  rejectIf (!isReasonCode text) (invalidDetails "reason code has invalid syntax")

def expectDigest : Result Unit :=
  rejectIf (!value.asStr.any validHash) (invalidDetails "digest detail must be lowercase sha256")

def certainties : List String :=
  ["NOT_STARTED", "STARTED_NO_EFFECT", "COMPLETED", "FAILED_NO_EFFECT", "FAILED_PARTIAL_EFFECT",
    "OUTCOME_UNKNOWN"]

def durabilityStates : List String := ["STAGED", "DURABLE", "ORPHANED", "CORRUPT", "MISSING"]

/-- The commitment to a private text: its profile and the committed field. -/
def validateCommitment (expectedField : String) (nullable : Bool) : Result Unit :=
  if value = .null then
    if nullable then .ok () else .error (invalidDetails "required commitment is null")
  else do
    let object ← expectExactObject value ["kind", "version", "algorithm", "field", "commitment"]
    rejectIf ((object.lookup "kind").bind Json.asStr ≠ some "task-field-commitment" ||
        (object.lookup "version").bind Json.asStr ≠ some "v1" ||
        (object.lookup "algorithm").bind Json.asStr ≠ some "sha256-keyed-prefix" ||
        (object.lookup "field").bind Json.asStr ≠ some expectedField)
      (invalidDetails "commitment profile or field is invalid")
    expectDigest ((object.lookup "commitment").getD .null)

/-- One entry of a waiting list. -/
def validateWaitingEntry (withCommitments : Bool) : Result Unit := do
  let object ← expectExactObject value
    (if withCommitments then ["kind", "id", "message_ref"] else ["kind", "id"])
  expectOneOf ((object.lookup "kind").getD .null)
    ["input", "approval", "resource", "provider", "validation"]
  expectTaskString ((object.lookup "id").getD .null) 256 true
  if withCommitments then
    validateCommitment ((object.lookup "message_ref").getD .null) "waiting_message" true
  else .ok ()

def validateWaitingOn (withCommitments : Bool) : Result Unit :=
  if value = .null && withCommitments then .ok ()
  else do
    let values ← expect value.asArr (invalidDetails "waiting_on must be an array")
    rejectIf (64 < values.length) (invalidDetails "waiting_on exceeds its item bound")
    forEach values (validateWaitingEntry · withCommitments)

def validateMutationCommitments : Result Unit := do
  let object ← expectExactObject value ["waiting_on", "failure_summary"]
  validateWaitingOn ((object.lookup "waiting_on").getD .null) true
  validateCommitment ((object.lookup "failure_summary").getD .null) "failure_summary" true

def validatePrincipal : Result Unit := do
  let object ← expectExactObject value ["kind", "id"]
  expectOneOf ((object.lookup "kind").getD .null) ["user", "system-service"]
  expectTaskString ((object.lookup "id").getD .null) 256 true

end Values

/-! ## 3. Records inside the details -/

section Records

variable (rfc3339 : String → Option Int) (value : Json)

def validateTimestamp (text : String) : Result Unit :=
  rejectIf (rfc3339 text).isNone (.invalidRecord "provenance timestamp is not RFC 3339")

def expectTimestamp : Result Unit := do
  let text ← expect value.asStr (invalidDetails "timestamp detail must be a string")
  validateTimestamp rfc3339 text

/-- One field of the constraints of a Task. -/
def validateConstraintField (field : String × Json) : Result Unit :=
  match field.1 with
  | "privacy" => expectOneOf field.2 ["local-only", "local-first", "remote-allowed"]
  | "max_cost_microunits" => orNullable field.2 (expectInteger field.2 0 none)
  | "deadline" => orNullable field.2 (expectTimestamp rfc3339 field.2)
  | _ => expectBool field.2

def validateTaskCreationConstraints : Result Unit :=
  if value = .null then .ok ()
  else do
    let fields ← expectObjectKeys value
      ["privacy", "max_cost_microunits", "deadline", "preserve_inputs"]
    forEach fields (validateConstraintField rfc3339)

/-- One field of the creation record. -/
def validateCreationField (field : String × Json) : Result Unit :=
  match field.1 with
  | "principal" => validatePrincipal field.2
  | "workspace_id" => orNullable field.2 (expectTaskString field.2 256 true)
  | "original_intent_ref" => validateCommitment field.2 "original_intent" false
  | "normalized_intent_ref" => validateCommitment field.2 "normalized_intent" true
  | "constraints" => validateTaskCreationConstraints rfc3339 field.2
  | _ => expectTimestamp rfc3339 field.2

def validateCreationDetails : Result Unit := do
  let object ← expectExactObject value ["principal", "workspace_id", "original_intent_ref",
    "normalized_intent_ref", "constraints", "created_at"]
  forEach object (validateCreationField rfc3339)

def validateActiveProgram : Result Unit :=
  if value = .null then .ok ()
  else do
    let object ← expectExactObject value ["program_id", "ir_version", "semantic_hash",
      "registry_snapshot_id", "validation_result_id", "validated_at", "validator_id",
      "validator_version", "program_content_digest"]
    let field := fun key => (object.lookup key).getD .null
    expectIdentifier (field "program_id") 256
    expectIdentifier (field "ir_version") 256
    expectDigest (field "semantic_hash")
    expectIdentifier (field "registry_snapshot_id") 256
    orNullable (field "validation_result_id") (expectIdentifier (field "validation_result_id") 256)
    orNullable (field "validated_at") (expectTimestamp rfc3339 (field "validated_at"))
    orNullable (field "validator_id") (expectIdentifier (field "validator_id") 256)
    orNullable (field "validator_version") (expectIdentifier (field "validator_version") 256)
    expectDigest (field "program_content_digest")

def validateExportReconciliation : Result Unit := do
  let object ← expectExactObject value ["verifier_id", "evidence_ref", "proof_hash", "challenge",
    "observed_at", "subject_hash", "recovery_ref"]
  let field := fun key => (object.lookup key).getD .null
  expectArtifactIdentifier (field "verifier_id")
  expectArtifactIdentifier (field "evidence_ref")
  expectDigest (field "proof_hash")
  expectIdentifier (field "challenge") 256
  expectTimestamp rfc3339 (field "observed_at")
  expectDigest (field "subject_hash")
  expectIdentifier (field "recovery_ref") 256

def validateExactExportAuthority : Result Unit := do
  let object ← expectExactObject value ["selector", "service_id", "destination_class",
    "descriptor_hash", "adapter_id", "operation_id", "source_artifact_id", "source_content_hash",
    "purpose", "sensitivity", "max_size_bytes"]
  let field := fun key => (object.lookup key).getD .null
  expectIdentifier (field "selector") 512
  expectIdentifier (field "service_id") 512
  rejectIf (!(field "service_id").asStr.any ("service://").isPrefixOf)
    (invalidDetails "export service identity is invalid")
  expectIdentifier (field "destination_class") 128
  expectDigest (field "descriptor_hash")
  expectIdentifier (field "adapter_id") 256
  expectArtifactIdentifier (field "operation_id")
  expectArtifactIdentifier (field "source_artifact_id")
  expectDigest (field "source_content_hash")
  expectTaskString (field "purpose") 256 true
  expectOneOf (field "sensitivity") ["public", "local", "private", "confidential", "secret"]
  expectInteger (field "max_size_bytes") 1 (some (8 * 1024 * 1024))

end Records

/-! ## 4. The table -/

section Table

variable (rfc3339 : String → Option Int)

/-- Fields that several execution events share. -/
def executionFields : List (String × (Json → Result Unit)) := [
  ("operation_id", expectArtifactIdentifier),
  ("phase", (expectOneOf ·
    ["admitted", "delivered", "pre-destination-admission", "effect-boundary-armed"])),
  ("admission_event_id", fun value => orNullable value (expectIdentifier value 256)),
  ("admission_event_hash", fun value => orNullable value (expectDigest value))]

def executionOutcomeFields : List (String × (Json → Result Unit)) := executionFields ++ [
  ("outcome_certainty", (expectOneOf · certainties)),
  ("effect_boundary", (expectOneOf · ["destination-not-invoked"])),
  ("certainty", (expectOneOf · certainties)),
  ("export_reconciliation", validateExportReconciliation rfc3339),
  ("recovery_ref", (expectIdentifier · 256)),
  ("inventory_id", (expectTaskString · 276 true)),
  ("safe_action", (expectOneOf · ["CREATE_NEW_ATTEMPT", "RECONCILE_STATE", "MARK_ATTEMPT_FAILED",
    "REQUIRE_EXTERNAL_RECONCILIATION", "FAIL_TASK", "NO_ACTION", "CLEAN_STAGING"])),
  ("reason_code", expectReasonCode),
  ("attempt", (expectInteger · 1 none)),
  ("duration_ms", (expectInteger · 0 none))]

def planFields : List (String × (Json → Result Unit)) := [
  ("plan_id", (expectTaskString · 256 true)),
  ("revision", (expectInteger · 1 none))]

def selectionFields : List (String × (Json → Result Unit)) := [
  ("locality", (expectOneOf · ["local", "remote", "peer", "cloud"])),
  ("isolation_class", (expectOneOf · ["P0", "P1", "P2", "P3"]))]

def verificationFields : List (String × (Json → Result Unit)) := [
  ("index", (expectInteger · 1 none)),
  ("verified_claims", (expectInteger · 0 none)),
  ("failed_claims", (expectInteger · 0 none))]

/-- The fields the details of an event type may hold, each with its check. -/
def detailContract (eventType : String) : List (String × (Json → Result Unit)) :=
  match eventType with
  | "task.created" => [
      ("revision", (expectInteger · 1 (some 1))),
      ("creation", validateCreationDetails rfc3339),
      ("active_plan", expectNull),
      ("active_step_ids", (expectTaskStringArray · 512 128 true)),
      ("waiting_on", (validateWaitingOn · false)),
      ("failure", expectNull),
      ("recovery", expectNull),
      ("fixture", expectBool)]
  | "task.transitioned" => [
      ("related_ids", (expectTaskStringArray · 32 512 false)),
      ("reason_message_ref", (validateCommitment · "reason_message" true)),
      ("active_program", validateActiveProgram rfc3339),
      ("mutation_text_commitments", validateMutationCommitments)]
  | "authorization.granted" => [
      ("actions", (expectSafeIdentifierArray · 64)),
      ("resource", (expectIdentifier · 256)),
      ("resources", (expectSafeIdentifierArray · 64))]
  | "plan.created" | "plan.revised" => planFields
  | "provider.selected" | "placement.selected" => selectionFields
  | "execution.started" => executionFields ++ [
      ("attempt_id", (expectTaskString · 256 true)),
      ("binding_id", (expectTaskString · 256 true)),
      ("node_id", (expectTaskString · 128 true)),
      ("intent_hash", expectDigest),
      ("execution_profile", (expectIdentifier · 256))]
  | "execution.completed" | "execution.failed" => executionOutcomeFields rfc3339
  | "artifact.imported" => [
      ("content_hash", expectDigest),
      ("size_bytes", (expectInteger · 0 none)),
      ("blob_reused", expectBool),
      ("import_id", fun value => orNullable value (expectArtifactIdentifier value)),
      ("request_digest", expectDigest),
      ("source", (expectOneOf · ["user-selected"]))]
  | "artifact.created" => [
      ("allocation_id", expectArtifactIdentifier),
      ("publication_id", expectArtifactIdentifier),
      ("content_hash", expectDigest),
      ("size_bytes", (expectInteger · 0 none)),
      ("blob_reused", expectBool),
      ("type", (expectIdentifier · 256))]
  | "artifact.exported" => [
      ("operation_id", expectArtifactIdentifier),
      ("size_bytes", (expectInteger · 0 none)),
      ("export_authority", validateExactExportAuthority)]
  | "artifact.integrity-failed" => [
      ("content_hash", expectDigest),
      ("observation_ordinal", (expectInteger · 1 none)),
      ("previous_durability_state",
        fun value => orNullable value (expectOneOf value durabilityStates)),
      ("durability_state", (expectOneOf · durabilityStates)),
      ("publication_id", expectArtifactIdentifier),
      ("allocation_id", expectArtifactIdentifier),
      ("request_digest", expectDigest),
      ("reason_code", expectReasonCode),
      ("resulted_at", expectTimestamp rfc3339)]
  | "verification.started" | "verification.completed" | "verification.failed" => verificationFields
  | "task.completed" => [
      ("revision", (expectInteger · 1 none)),
      ("external_egress", expectBool),
      ("verified", expectBool)]
  | _ => []

def validateDetail (eventType : String) (field : String × Json) : Result Unit := do
  let check ← expect ((detailContract rfc3339 eventType).lookup field.1) (.invalidRecord
    s!"provenance details field `{field.1}` is not in the privacy-safe vocabulary")
  check field.2

/-- The fields a creation event must have. -/
def creationKeys : List String :=
  ["revision", "creation", "active_plan", "active_step_ids", "waiting_on", "failure", "recovery"]

/-- Checks the members of the details object of an event. -/
def validateDetailsObject (eventType : String) (details : Json) : Result Unit := do
  let fields ← expect details.asObj (.invalidRecord "provenance details must be an object")
  forEach fields (validateDetail rfc3339 eventType)
  rejectIf (eventType = "task.created" && creationKeys.any fun key => (fields.lookup key).isNone)
    (invalidDetails "task.created is missing its typed creation projection")

def validateDetailsVocabulary (event : Json) : Result Unit :=
  match event.get? "details" with
  | none => .ok ()
  | some details =>
      validateDetailsObject rfc3339 ((stringField event "event_type").getD "") details

end Table

end Aios.Provenance
