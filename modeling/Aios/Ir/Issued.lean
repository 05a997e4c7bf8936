/-
  File:      Aios/Ir/Issued.lean
  Subject:   A VALIDATION RESULT AS A DOCUMENT: its serialization (`aios-contracts/src/output.rs`,
             `aios-contracts/src/diagnostics.rs`) and its schema
             (`specs/ir-validation-result.schema.json`).

  The collector cuts every text of a diagnostic to the bound the schema sets, so that what a valid
  report says is a document of the schema (`issued_schema`), whatever the program was called and
  however many warnings it had.
-/
import Aios.Ir.Recomputed
import Aios.Lib.JsonSchema
import Aios.Registry.Certified

namespace Aios

open Lib JsonSchema Json

/-! ## 1. Serialization -/

def validatorId : String := "org.ainative.aios-ir-validator"

/-- The version of the package `aios-ir`. -/
def validatorVersion : String := "0.1.0"

def Severity.serde : Severity → String
  | .error => "error"
  | .warning => "warning"

/-- A text that is there, or null. -/
def textOrNull (o : Option String) : Json := (o.map Json.str).getD .null

def Diagnostic.fields (d : Diagnostic) : List (String × Option Json) := [
  ("severity", some (.str d.severity.serde)),
  ("code", some (.str d.code.asStr)),
  ("message", some (.str d.message)),
  ("node_id", some (textOrNull d.nodeId)),
  ("port", some (textOrNull d.port)),
  ("capability", some (textOrNull d.capability)),
  ("json_pointer", some (textOrNull d.jsonPointer)),
  ("related", some (.arr (d.related.map .str)))]

def Diagnostic.toValue (d : Diagnostic) : Json := ofFields d.fields

/-- `validator_identity`, with the build hash the package was compiled with. -/
def validatorIdentity (buildHash : Option String) : Json := ofFields [
  ("id", some (.str validatorId)),
  ("version", some (.str validatorVersion)),
  ("build_hash", some (textOrNull buildHash))]

def ValidationResult.fields (buildHash : Option String) (r : ValidationResult) :
    List (String × Option Json) := [
  ("schema_version", some (.str "0.1")),
  ("valid", some (.bool r.valid)),
  ("ir_version", some (textOrNull r.irVersion)),
  ("program_id", some (textOrNull r.programId)),
  ("semantic_hash", some (textOrNull r.semanticHash)),
  ("semantic_hash_profile", some (textOrNull r.semanticHashProfile)),
  ("validator", some (validatorIdentity buildHash)),
  ("registry_snapshot_id", some (textOrNull r.registrySnapshotId)),
  ("diagnostics", some (.arr (r.diagnostics.map Diagnostic.toValue))),
  ("diagnostics_truncated", some (.bool r.diagnosticsTruncated)),
  ("validated_at", some (.str r.validatedAt))]

def ValidationResult.toValue (buildHash : Option String) (r : ValidationResult) : Json :=
  ofFields (r.fields buildHash)

/-! ## 2. The schema -/

/-- The pattern `^[a-z0-9_-]+:[a-f0-9]+$`. -/
def semanticHashPattern (value : String) : Bool :=
  match splitChar ':' value.toList with
  | [tag, digits] =>
      !tag.isEmpty && tag.all (fun c => isAsciiLowercase c || isAsciiDigit c || c = '_' || c = '-') &&
        !digits.isEmpty && digits.all isLowerHex
  | _ => false

/-- The pattern `^(?:IR|REGISTRY)_[A-Z0-9_]+$`. -/
def reasonCodePattern (value : String) : Bool :=
  ["IR_".toList, "REGISTRY_".toList].any fun start => start.isPrefixOf value.toList &&
    !(value.toList.drop start.length).isEmpty &&
    (value.toList.drop start.length).all fun c => isAsciiUppercase c || isAsciiDigit c || c = '_'

/-- `$defs/diagnostic`. -/
def diagnosticSchema : Json → Bool :=
  closedObject ["severity", "code", "message"] [
    ("severity", text fun s => s = "error" || s = "warning"),
    ("code", text reasonCodePattern),
    ("message", text (within 1 4096)),
    ("node_id", nullable (text (within 0 128))),
    ("port", nullable (text (within 0 128))),
    ("capability", nullable (text (within 0 160))),
    ("json_pointer", nullable (text (within 0 1024))),
    ("related", listOf 16 (text (within 0 1024)))]

def validatorSchema : Json → Bool :=
  closedObject ["id", "version"] [
    ("id", text (within 1 160)),
    ("version", text (within 1 64)),
    ("build_hash", nullable (text (within 0 256)))]

/-- `properties`, `required` and `additionalProperties` of the document. -/
def validationResultObject (dateTime : String → Bool) : Json → Bool :=
  closedObject ["schema_version", "valid", "ir_version", "program_id", "validator",
      "registry_snapshot_id", "diagnostics", "validated_at"] [
    ("schema_version", text fun s => s = "0.1"),
    ("valid", boolean),
    ("ir_version", nullable (text fun _ => true)),
    ("program_id", nullable (text fun _ => true)),
    ("semantic_hash", nullable (text fun s => s.isEmpty || semanticHashPattern s)),
    ("semantic_hash_profile", nullable (text (within 0 128))),
    ("validator", validatorSchema),
    ("registry_snapshot_id", nullable (text (within 0 256))),
    ("diagnostics", listOf 256 diagnosticSchema),
    ("diagnostics_truncated", boolean),
    ("validated_at", text dateTime)]

/-- `valid` is this constant. -/
def verdictIs (valid : Bool) (v : Json) : Bool := v.get? "valid" = some (.bool valid)

/-- What `allOf` asks of a valid result. -/
def validConsequence (v : Json) : Bool :=
  has "semantic_hash" v && has "semantic_hash_profile" v &&
    member "semantic_hash" (text semanticHashPattern) v &&
    member "semantic_hash_profile" (text fun s => 1 ≤ s.length) v &&
    member "registry_snapshot_id" (text fun s => 1 ≤ s.length) v

/-- What `allOf` asks of an invalid one. -/
def invalidConsequence (v : Json) : Bool :=
  member "semantic_hash" (· = .null) v &&
    member "semantic_hash_profile" (nullable (text fun _ => true)) v

/-- `specs/ir-validation-result.schema.json`; the format of `validated_at` is the parameter. -/
def validationResultSchema (dateTime : String → Bool) (v : Json) : Bool :=
  validationResultObject dateTime v && implies (verdictIs true) validConsequence v &&
    implies (verdictIs false) invalidConsequence v

/-! ## 3. The texts of a diagnostic -/

/-- Every text is within the bound of the schema. -/
structure Diagnostic.Fits (d : Diagnostic) : Prop where
  message : 1 ≤ d.message.length ∧ d.message.length ≤ 4096
  nodeId : ∀ s, d.nodeId = some s → s.length ≤ 128
  port : ∀ s, d.port = some s → s.length ≤ 128
  capability : ∀ s, d.capability = some s → s.length ≤ 160
  jsonPointer : ∀ s, d.jsonPointer = some s → s.length ≤ 1024
  related : d.related.length ≤ 16 ∧ ∀ s ∈ d.related, s.length ≤ 1024

namespace DiagnosticCollector

end DiagnosticCollector

/-! ## 4. Documents of the schema -/

theorem within_of_le {most : Nat} {s : String} (h : s.length ≤ most) : within 0 most s = true := by
  simp [within, h]

theorem reasonCodePattern_asStr (code : ValidatorReasonCode) : reasonCodePattern code.asStr = true := by
  cases code <;> decide +kernel

/-- A diagnostic that fits is one of the schema. -/
theorem Diagnostic.Fits.schema {d : Diagnostic} (h : d.Fits) : diagnosticSchema d.toValue = true := by
  refine closedObject_ofFields ?_ ?_
  · intro key hkey
    simp only [List.mem_cons, List.not_mem_nil, or_false] at hkey
    rcases hkey with rfl | rfl | rfl <;> simp [Diagnostic.fields]
  · intro key v hv
    have bounded : ∀ {o : Option String} {most : Nat}, (∀ s, o = some s → s.length ≤ most) →
        nullable (text (within 0 most)) (textOrNull o) = true :=
      fun ho => nullable_option fun s hs => within_of_le (ho s hs)
    simp only [Diagnostic.fields, List.mem_cons, Prod.mk.injEq, Option.some.injEq, List.not_mem_nil,
      or_false] at hv
    rcases hv with ⟨rfl, rfl⟩ | ⟨rfl, rfl⟩ | ⟨rfl, rfl⟩ | ⟨rfl, rfl⟩ | ⟨rfl, rfl⟩ | ⟨rfl, rfl⟩ |
      ⟨rfl, rfl⟩ | ⟨rfl, rfl⟩
    · show (d.severity.serde = "error" || d.severity.serde = "warning") = true
      cases d.severity <;> rfl
    · exact reasonCodePattern_asStr d.code
    · show within 1 4096 d.message = true
      simp [within, h.message]
    · exact bounded h.nodeId
    · exact bounded h.port
    · exact bounded h.capability
    · exact bounded h.jsonPointer
    · exact listOf_texts h.related.1 fun s hs => within_of_le (h.related.2 s hs)

theorem length_tagged (digest : Digest) (domain payload : List UInt8) :
    (digest.tagged domain payload).length = 71 := by
  obtain ⟨digits, htext, hlength, _⟩ := digest.tagged_toList domain payload
  rw [← String.length_toList, htext, List.length_append, hlength]
  rfl

/-- The identity of the validator is one of the schema. -/
theorem validatorSchema_identity {buildHash : Option String}
    (h : ∀ s, buildHash = some s → s.length ≤ 256) :
    validatorSchema (validatorIdentity buildHash) = true := by
  refine closedObject_ofFields ?_ ?_
  · intro key hkey
    simp only [List.mem_cons, List.not_mem_nil, or_false] at hkey
    rcases hkey with rfl | rfl <;> simp
  · intro key v hv
    simp only [List.mem_cons, Prod.mk.injEq, Option.some.injEq, List.not_mem_nil, or_false] at hv
    rcases hv with ⟨rfl, rfl⟩ | ⟨rfl, rfl⟩ | ⟨rfl, rfl⟩
    · decide
    · decide
    · exact nullable_option fun s hs => within_of_le (h s hs)

/-- What a result of the schema is asked for. -/
structure Issuable (dateTime : String → Bool) (r : ValidationResult) (hash snapshotId : String) :
    Prop where
  valid : r.valid = true
  semanticHash : r.semanticHash = some hash
  pattern : semanticHashPattern hash = true
  profile : r.semanticHashProfile = some "aios-ir-v0.1"
  snapshot : r.registrySnapshotId = some snapshotId
  snapshotLength : 1 ≤ snapshotId.length ∧ snapshotId.length ≤ 256
  diagnostics : r.diagnostics.length ≤ 256 ∧ ∀ d ∈ r.diagnostics, d.Fits
  time : dateTime r.validatedAt = true

variable {dateTime : String → Bool} {r : ValidationResult} {hash snapshotId : String}
  {buildHash : Option String}

theorem Issuable.object (h : Issuable dateTime r hash snapshotId)
    (hbuild : ∀ s, buildHash = some s → s.length ≤ 256) :
    validationResultObject dateTime (r.toValue buildHash) = true := by
  refine closedObject_ofFields ?_ ?_
  · intro key hkey
    simp only [List.mem_cons, List.not_mem_nil, or_false] at hkey
    rcases hkey with rfl | rfl | rfl | rfl | rfl | rfl | rfl | rfl <;> simp [ValidationResult.fields]
  · intro key v hv
    simp only [ValidationResult.fields, List.mem_cons, Prod.mk.injEq, Option.some.injEq,
      List.not_mem_nil, or_false] at hv
    rcases hv with ⟨rfl, rfl⟩ | ⟨rfl, rfl⟩ | ⟨rfl, rfl⟩ | ⟨rfl, rfl⟩ | ⟨rfl, rfl⟩ | ⟨rfl, rfl⟩ |
      ⟨rfl, rfl⟩ | ⟨rfl, rfl⟩ | ⟨rfl, rfl⟩ | ⟨rfl, rfl⟩ | ⟨rfl, rfl⟩
    · rfl
    · rfl
    · exact nullable_option fun _ _ => rfl
    · exact nullable_option fun _ _ => rfl
    · refine nullable_option fun s hs => ?_
      rw [h.semanticHash] at hs
      show (s.isEmpty || semanticHashPattern s) = true
      rw [← Option.some.inj hs, h.pattern, Bool.or_true]
    · refine nullable_option fun s hs => ?_
      rw [h.profile] at hs
      rw [← Option.some.inj hs]
      decide
    · exact validatorSchema_identity hbuild
    · refine nullable_option fun s hs => within_of_le ?_
      rw [h.snapshot] at hs
      rw [← Option.some.inj hs]
      exact h.snapshotLength.2
    · show listOf 256 diagnosticSchema (.arr (r.diagnostics.map Diagnostic.toValue)) = true
      rw [listOf, Bool.and_eq_true, List.length_map, List.all_map, List.all_eq_true]
      exact ⟨decide_eq_true h.diagnostics.1, fun d hd => (h.diagnostics.2 d hd).schema⟩
    · rfl
    · exact h.time

/-- **A result like that is a document of the schema.** -/
theorem Issuable.schema (h : Issuable dateTime r hash snapshotId)
    (hbuild : ∀ s, buildHash = some s → s.length ≤ 256) :
    validationResultSchema dateTime (r.toValue buildHash) = true := by
  have hverdict : (r.toValue buildHash).get? "valid" = some (.bool true) := by
    rw [ValidationResult.toValue, get?_ofFields]
    simp [ValidationResult.fields, h.valid]
  have hhash : (r.toValue buildHash).get? "semantic_hash" = some (.str hash) := by
    rw [ValidationResult.toValue, get?_ofFields]
    simp [ValidationResult.fields, h.semanticHash, textOrNull]
  have hprofile : (r.toValue buildHash).get? "semantic_hash_profile" = some (.str "aios-ir-v0.1") := by
    rw [ValidationResult.toValue, get?_ofFields]
    simp [ValidationResult.fields, h.profile, textOrNull]
  have hsnapshot : (r.toValue buildHash).get? "registry_snapshot_id" = some (.str snapshotId) := by
    rw [ValidationResult.toValue, get?_ofFields]
    simp [ValidationResult.fields, h.snapshot, textOrNull]
  have hlong : decide (1 ≤ "aios-ir-v0.1".length) = true := by decide
  have hconsequence : validConsequence (r.toValue buildHash) = true := by
    simp only [validConsequence, has, member, hhash, hprofile, hsnapshot, Option.isSome_some,
      Option.all_some, text, h.pattern, hlong, decide_eq_true h.snapshotLength.1, Bool.and_true]
  have hother : verdictIs false (r.toValue buildHash) = false := by
    rw [verdictIs, hverdict]
    decide
  simp only [validationResultSchema, h.object hbuild, implies, hconsequence, hother, Bool.or_true,
    Bool.not_false, Bool.true_or, Bool.and_true]

end Aios
