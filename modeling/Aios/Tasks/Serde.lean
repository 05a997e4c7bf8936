/-
  File:      Aios/Tasks/Serde.lean
  Subject:   REQUESTS AND RESULTS AS JSON, and their decoding with defaults and absent fields.

  Every record is written field by field; the decoder of a record refuses unknown fields where the
  source denies them, reads an absent optional field as none and an absent defaulted field as its
  default. Decoding undoes encoding (`TransitionRequest.ofJson_toJson`, `TransitionResult.ofJson_toJson`).
-/
import Aios.Lib.Json
import Aios.Tasks.State

namespace Aios.Tasks

open Lib Json Provenance

/-! ## 1. Field readers -/

/-- `null` for none. -/
def encodeOption {α : Type} (encode : α → Json) (o : Option α) : Json := (o.map encode).getD .null

def encodeTexts (texts : List String) : Json := .arr (texts.map .str)

/-- Left out where empty. -/
def nonemptyTexts (texts : List String) : Option Json :=
  if texts.isEmpty then none else some (encodeTexts texts)

def asBool : Json → Option Bool
  | .bool b => some b
  | _ => none

def decodeList {α : Type} (decode : Json → Option α) (value : Json) : Option (List α) :=
  value.asArr.bind fun elems => elems.mapM decode

/-- The members of an object without unknown fields. -/
def strictObject (keys : List String) (value : Json) : Option (List (String × Json)) :=
  value.asObj.filter fun members => members.all fun p => keys.contains p.1

section Fields

variable {α : Type} (members : List (String × Json)) (key : String) (decode : Json → Option α)

def required : Option α := (members.lookup key).bind decode

/-- The value of an optional field: absent and `null` both mean none. -/
def decodeNullable : Option Json → Option (Option α)
  | none => some none
  | some .null => some none
  | some value => (decode value).map some

def nullable : Option (Option α) := decodeNullable decode (members.lookup key)

/-- A field with a default. -/
def defaulted (default : α) : Option α := (members.lookup key).elim (some default) decode

end Fields

theorem keys_members {fs : List (String × Option Json)} {a : String}
    (h : a ∈ (members fs).map Prod.fst) : a ∈ fs.map Prod.fst := by
  induction fs with
  | nil => cases h
  | cons f fs ih =>
      obtain ⟨k, o⟩ := f
      cases o with
      | none => exact List.mem_cons_of_mem k (ih h)
      | some v =>
          rcases mem_keys_insertMember h with e | hr
          · rw [e]
            exact List.mem_cons_self
          · exact List.mem_cons_of_mem k (ih hr)

/-- An object written from these fields has no others. -/
@[simp] theorem strictObject_ofFields {keys : List String} {fs : List (String × Option Json)}
    (h : fs.map Prod.fst = keys) : strictObject keys (ofFields fs) = some (members fs) := by
  have hall : ((members fs).all fun p => keys.contains p.1) = true := by
    refine List.all_eq_true.mpr fun p hp => ?_
    rw [List.contains_iff_mem, ← h]
    exact keys_members (List.mem_map_of_mem hp)
  unfold strictObject ofFields
  rw [asObj, Option.filter_some, if_pos hall]

theorem mapM_decode {α : Type} {encode : α → Json} {decode : Json → Option α} (l : List α)
    (h : ∀ a ∈ l, decode (encode a) = some a) : (l.map encode).mapM decode = some l := by
  induction l with
  | nil => rfl
  | cons a l ih =>
      rw [List.map_cons, List.mapM_cons, h a List.mem_cons_self,
        ih fun b hb => h b (List.mem_cons_of_mem a hb)]
      rfl

@[simp] theorem decodeList_map {α : Type} {encode : α → Json} {decode : Json → Option α} (l : List α)
    (h : ∀ a, decode (encode a) = some a) : decodeList decode (.arr (l.map encode)) = some l :=
  mapM_decode l fun a _ => h a

@[simp] theorem decodeList_texts (l : List String) : decodeList asStr (encodeTexts l) = some l :=
  decodeList_map l fun _ => rfl

/-! ## 2. Encoding -/

def WaitingKind.serde : WaitingKind → String
  | .input => "input"
  | .approval => "approval"
  | .resource => "resource"
  | .provider => "provider"
  | .validation => "validation"

def WaitingKind.parse : String → Option WaitingKind
  | "input" => some .input
  | "approval" => some .approval
  | "resource" => some .resource
  | "provider" => some .provider
  | "validation" => some .validation
  | _ => none

def encodeState (state : TaskState) : Json := .str state.asStr

def encodeNat (n : Nat) : Json := .num (.posInt n)

def Actor.toJson (a : Actor) : Json := ofFields [("kind", some (.str a.kind)), ("id", some (.str a.id))]

def TransitionReason.toJson (r : TransitionReason) : Json := ofFields [
  ("code", some (.str r.code)),
  ("message", some (encodeOption .str r.message)),
  ("related_ids", some (encodeTexts r.relatedIds))]

def WaitingOn.toJson (w : WaitingOn) : Json := ofFields [
  ("kind", some (.str w.kind.serde)),
  ("id", some (.str w.id)),
  ("message", some (encodeOption .str w.message))]

def ActivePlan.toJson (p : ActivePlan) : Json :=
  ofFields [("plan_id", some (.str p.planId)), ("revision", some (encodeNat p.revision))]

def RecoveryMutation.toJson (r : RecoveryMutation) : Json := ofFields [
  ("unknown_operation_ids", nonemptyTexts r.unknownOperationIds),
  ("unknown_operations_ref", r.unknownOperationsRef.map .str),
  ("last_known_daemon_instance", some (encodeOption .str r.lastKnownDaemonInstance))]

def FailureRecord.toJson (f : FailureRecord) : Json := ofFields [
  ("code", some (.str f.code)),
  ("summary", some (.str f.summary)),
  ("step_id", f.stepId.map .str),
  ("provider_id", f.providerId.map .str),
  ("execution_binding_id", f.executionBindingId.map .str),
  ("retryable", some (.bool f.retryable)),
  ("safe_to_replan", some (.bool f.safeToReplan)),
  ("unknown_side_effects", some (.bool f.unknownSideEffects)),
  ("rollback_available", some (.bool f.rollbackAvailable)),
  ("provenance_event_ids", nonemptyTexts f.provenanceEventIds)]

def TaskMutation.toJson (m : TaskMutation) : Json := ofFields [
  ("active_plan", m.activePlan.map ActivePlan.toJson),
  ("active_step_ids", m.activeStepIds.map encodeTexts),
  ("waiting_on", m.waitingOn.map fun items => .arr (items.map WaitingOn.toJson)),
  ("failure", m.failure.map FailureRecord.toJson),
  ("recovery", m.recovery.map RecoveryMutation.toJson)]

def TransitionRequest.toJson (r : TransitionRequest) : Json := ofFields [
  ("schema_version", some (.str r.schemaVersion)),
  ("transition_id", some (.str r.transitionId)),
  ("task_id", some (.str r.taskId)),
  ("expected_revision", some (encodeNat r.expectedRevision)),
  ("expected_state", some (encodeState r.expectedState)),
  ("to_state", some (encodeState r.toState)),
  ("requested_by", some r.requestedBy.toJson),
  ("reason", some r.reason.toJson),
  ("mutation", some r.mutation.toJson)]

def TransitionResult.toJson (r : TransitionResult) : Json := ofFields [
  ("schema_version", some (.str r.schemaVersion)),
  ("transition_id", some (.str r.transitionId)),
  ("task_id", some (.str r.taskId)),
  ("applied", some (.bool r.applied)),
  ("reason_code", some (.str r.reasonCode)),
  ("message", some (encodeOption .str r.message)),
  ("previous_state", some (encodeOption encodeState r.previousState)),
  ("current_state", some (encodeOption encodeState r.currentState)),
  ("previous_revision", some (encodeOption encodeNat r.previousRevision)),
  ("current_revision", some (encodeOption encodeNat r.currentRevision)),
  ("observed_state", some (encodeOption encodeState r.observedState)),
  ("observed_revision", some (encodeOption encodeNat r.observedRevision)),
  ("provenance_event_id", some (encodeOption .str r.provenanceEventId)),
  ("provenance_event_hash", some (encodeOption .str r.provenanceEventHash)),
  ("resulted_at", some (.str r.resultedAt))]

/-! ## 3. Decoding -/

def decodeState (value : Json) : Option TaskState := value.asStr.bind TaskState.parse

def Actor.ofJson (value : Json) : Option Actor := do
  let o ← strictObject ["kind", "id"] value
  return ⟨← required o "kind" asStr, ← required o "id" asStr⟩

def TransitionReason.ofJson (value : Json) : Option TransitionReason := do
  let o ← strictObject ["code", "message", "related_ids"] value
  return ⟨← required o "code" asStr, ← nullable o "message" asStr,
    ← defaulted o "related_ids" (decodeList asStr) []⟩

def WaitingOn.ofJson (value : Json) : Option WaitingOn := do
  let o ← strictObject ["kind", "id", "message"] value
  return ⟨← required o "kind" fun v => v.asStr.bind WaitingKind.parse, ← required o "id" asStr,
    ← nullable o "message" asStr⟩

def ActivePlan.ofJson (value : Json) : Option ActivePlan := do
  let o ← strictObject ["plan_id", "revision"] value
  return ⟨← required o "plan_id" asStr, ← required o "revision" asU64⟩

def RecoveryMutation.ofJson (value : Json) : Option RecoveryMutation := do
  let o ← strictObject
    ["unknown_operation_ids", "unknown_operations_ref", "last_known_daemon_instance"] value
  return ⟨← defaulted o "unknown_operation_ids" (decodeList asStr) [],
    ← nullable o "unknown_operations_ref" asStr, ← nullable o "last_known_daemon_instance" asStr⟩

def FailureRecord.ofJson (value : Json) : Option FailureRecord := do
  let o ← strictObject ["code", "summary", "step_id", "provider_id", "execution_binding_id",
    "retryable", "safe_to_replan", "unknown_side_effects", "rollback_available",
    "provenance_event_ids"] value
  return ⟨← required o "code" asStr, ← required o "summary" asStr, ← nullable o "step_id" asStr,
    ← nullable o "provider_id" asStr, ← nullable o "execution_binding_id" asStr,
    ← required o "retryable" asBool, ← required o "safe_to_replan" asBool,
    ← required o "unknown_side_effects" asBool, ← required o "rollback_available" asBool,
    ← defaulted o "provenance_event_ids" (decodeList asStr) []⟩

def TaskMutation.ofJson (value : Json) : Option TaskMutation := do
  let o ← strictObject ["active_plan", "active_step_ids", "waiting_on", "failure", "recovery"] value
  return ⟨← nullable o "active_plan" ActivePlan.ofJson,
    ← nullable o "active_step_ids" (decodeList asStr),
    ← nullable o "waiting_on" (decodeList WaitingOn.ofJson),
    ← nullable o "failure" FailureRecord.ofJson, ← nullable o "recovery" RecoveryMutation.ofJson⟩

def TransitionRequest.ofJson (value : Json) : Option TransitionRequest := do
  let o ← strictObject ["schema_version", "transition_id", "task_id", "expected_revision",
    "expected_state", "to_state", "requested_by", "reason", "mutation"] value
  return ⟨← required o "schema_version" asStr, ← required o "transition_id" asStr,
    ← required o "task_id" asStr, ← required o "expected_revision" asU64,
    ← required o "expected_state" decodeState, ← required o "to_state" decodeState,
    ← required o "requested_by" Actor.ofJson, ← required o "reason" TransitionReason.ofJson,
    ← defaulted o "mutation" TaskMutation.ofJson TaskMutation.default⟩

/-- Unknown fields of a result are ignored. -/
def TransitionResult.ofJson (value : Json) : Option TransitionResult := do
  let o ← value.asObj
  return ⟨← required o "schema_version" asStr, ← required o "transition_id" asStr,
    ← required o "task_id" asStr, ← required o "applied" asBool, ← required o "reason_code" asStr,
    ← nullable o "message" asStr, ← nullable o "previous_state" decodeState,
    ← nullable o "current_state" decodeState, ← nullable o "previous_revision" asU64,
    ← nullable o "current_revision" asU64, ← nullable o "observed_state" decodeState,
    ← nullable o "observed_revision" asU64, ← nullable o "provenance_event_id" asStr,
    ← nullable o "provenance_event_hash" asStr, ← required o "resulted_at" asStr⟩

/-! ## 4. Decoding undoes encoding -/

section Nullable

variable {α : Type} {decode : Json → Option α} {encode : α → Json}

theorem decodeNullable_value {v : Json} (hv : v ≠ .null) :
    decodeNullable decode (some v) = (decode v).map some := by
  cases v with
  | null => exact absurd rfl hv
  | _ => rfl

/-- A field that is left out for none. -/
theorem decodeNullable_omitted (x : Option α) (hd : ∀ a, decode (encode a) = some a)
    (hn : ∀ a, encode a ≠ .null) : decodeNullable decode (x.map encode) = some x := by
  cases x with
  | none => rfl
  | some a =>
      rw [Option.map_some, decodeNullable_value (hn a), hd a]
      rfl

/-- A field that is `null` for none. -/
theorem decodeNullable_null (x : Option α) (hd : ∀ a, decode (encode a) = some a)
    (hn : ∀ a, encode a ≠ .null) : decodeNullable decode (some (encodeOption encode x)) = some x := by
  cases x with
  | none => rfl
  | some a => exact decodeNullable_omitted (some a) hd hn

end Nullable

@[simp] theorem WaitingKind.parse_serde (k : WaitingKind) : WaitingKind.parse k.serde = some k := by
  cases k <;> rfl

@[simp] theorem decodeState_encodeState (s : TaskState) : decodeState (encodeState s) = some s := by
  simp [decodeState, encodeState, asStr]

@[simp] theorem asU64_encodeNat (n : Nat) : asU64 (encodeNat n) = some n := rfl

@[simp] theorem asStr_str (s : String) : asStr (.str s) = some s := rfl

@[simp] theorem asBool_bool (b : Bool) : asBool (.bool b) = some b := rfl

@[simp] theorem decodeNullable_text (x : Option String) :
    decodeNullable asStr (some (encodeOption .str x)) = some x :=
  decodeNullable_null x (fun _ => rfl) fun _ h => by cases h

@[simp] theorem decodeNullable_omittedText (x : Option String) :
    decodeNullable asStr (x.map .str) = some x :=
  decodeNullable_omitted x (fun _ => rfl) fun _ h => by cases h

@[simp] theorem decodeNullable_state (x : Option TaskState) :
    decodeNullable decodeState (some (encodeOption encodeState x)) = some x :=
  decodeNullable_null x decodeState_encodeState fun _ h => by cases h

@[simp] theorem decodeNullable_nat (x : Option Nat) :
    decodeNullable asU64 (some (encodeOption encodeNat x)) = some x :=
  decodeNullable_null x asU64_encodeNat fun _ h => by cases h

/-- A list that is left out where empty. -/
@[simp] theorem elim_nonemptyTexts (texts : List String) :
    (nonemptyTexts texts).elim (some []) (decodeList asStr) = some texts := by
  cases texts with
  | nil => rfl
  | cons t ts => exact decodeList_texts (t :: ts)

@[simp] theorem Actor.ofJson_toJson (a : Actor) : Actor.ofJson a.toJson = some a := by
  simp [Actor.ofJson, Actor.toJson, required]

@[simp] theorem TransitionReason.ofJson_toJson (r : TransitionReason) :
    TransitionReason.ofJson r.toJson = some r := by
  simp [TransitionReason.ofJson, TransitionReason.toJson, required, nullable, defaulted]

@[simp] theorem WaitingOn.ofJson_toJson (w : WaitingOn) : WaitingOn.ofJson w.toJson = some w := by
  simp [WaitingOn.ofJson, WaitingOn.toJson, required, nullable]

@[simp] theorem ActivePlan.ofJson_toJson (p : ActivePlan) : ActivePlan.ofJson p.toJson = some p := by
  simp [ActivePlan.ofJson, ActivePlan.toJson, required]

@[simp] theorem RecoveryMutation.ofJson_toJson (r : RecoveryMutation) :
    RecoveryMutation.ofJson r.toJson = some r := by
  simp [RecoveryMutation.ofJson, RecoveryMutation.toJson, nullable, defaulted]

@[simp] theorem FailureRecord.ofJson_toJson (f : FailureRecord) :
    FailureRecord.ofJson f.toJson = some f := by
  simp [FailureRecord.ofJson, FailureRecord.toJson, required, nullable, defaulted]

@[simp] theorem TaskMutation.ofJson_toJson (m : TaskMutation) :
    TaskMutation.ofJson m.toJson = some m := by
  have hplan := decodeNullable_omitted m.activePlan ActivePlan.ofJson_toJson
    fun _ h => by cases h
  have hsteps := decodeNullable_omitted m.activeStepIds decodeList_texts fun _ h => by cases h
  have hwaiting := decodeNullable_omitted m.waitingOn (fun items => decodeList_map items WaitingOn.ofJson_toJson) fun _ h => by cases h
  have hfailure := decodeNullable_omitted m.failure FailureRecord.ofJson_toJson
    fun _ h => by cases h
  have hrecovery := decodeNullable_omitted m.recovery RecoveryMutation.ofJson_toJson
    fun _ h => by cases h
  simp [TaskMutation.ofJson, TaskMutation.toJson, nullable, hplan, hsteps, hwaiting, hfailure,
    hrecovery]

/-- **A stored request reads back.** -/
@[simp] theorem TransitionRequest.ofJson_toJson (r : TransitionRequest) :
    TransitionRequest.ofJson r.toJson = some r := by
  simp [TransitionRequest.ofJson, TransitionRequest.toJson, required, defaulted]

/-- A field that reads as `a`, and the rest of its decoder. -/
theorem bind_read {α β : Type} {o : Option α} {f : α → Option β} (a : α) {b : β} (ho : o = some a)
    (hf : f a = some b) : (o >>= f) = some b := by
  rw [ho]
  exact hf

/-- **A stored result reads back.** -/
@[simp] theorem TransitionResult.ofJson_toJson (r : TransitionResult) :
    TransitionResult.ofJson r.toJson = some r := by
  refine bind_read _ rfl ?_
  refine bind_read r.schemaVersion (by simp [required]) ?_
  refine bind_read r.transitionId (by simp [required]) ?_
  refine bind_read r.taskId (by simp [required]) ?_
  refine bind_read r.applied (by simp [required]) ?_
  refine bind_read r.reasonCode (by simp [required]) ?_
  refine bind_read r.message (by simp [nullable]) ?_
  refine bind_read r.previousState (by simp [nullable]) ?_
  refine bind_read r.currentState (by simp [nullable]) ?_
  refine bind_read r.previousRevision (by simp [nullable]) ?_
  refine bind_read r.currentRevision (by simp [nullable]) ?_
  refine bind_read r.observedState (by simp [nullable]) ?_
  refine bind_read r.observedRevision (by simp [nullable]) ?_
  refine bind_read r.provenanceEventId (by simp [nullable]) ?_
  refine bind_read r.provenanceEventHash (by simp [nullable]) ?_
  exact bind_read r.resultedAt (by simp [required]) rfl

end Aios.Tasks
