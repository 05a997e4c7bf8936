/-
  File:      Aios/Tasks/Event.lean
  Subject:   THE EVENTS OF A TASK in its journal: private texts as commitments, the projections of a
             mutation, the event of a creation and the event of a transition.

  What the event of a transition says and what the receipt authentication expects of it are built
  from the same projections, here.
-/
import Aios.Tasks.Serde
import Aios.Tasks.Steps

namespace Aios.Tasks

open Lib Json Provenance

/-! ## 1. Commitments -/

/-- The eight bytes of a 64-bit number, the highest first. -/
def u64Bytes (n : Nat) : List UInt8 :=
  (List.range 8).map fun i => UInt8.ofNat (n / 256 ^ (7 - i))

/-- A length and the bytes. -/
def framed (bytes : List UInt8) : List UInt8 := u64Bytes bytes.length ++ bytes

def commitmentDomain : List UInt8 := "AIOS-TASK-CREATION-FIELD-COMMITMENT\x00v1\x00".toUTF8.toList

/-- A private text, bound to the Task's nonce. -/
def taskFieldCommitment (digest : Digest) (nonce : List UInt8) (field text : String) : Json :=
  ofFields [
    ("kind", some (.str "task-field-commitment")),
    ("version", some (.str "v1")),
    ("algorithm", some (.str "sha256-keyed-prefix")),
    ("field", some (.str field)),
    ("commitment", some (.str (digest.tagged commitmentDomain
      (framed nonce ++ framed field.toUTF8.toList ++ framed text.toUTF8.toList))))]

/-! ## 2. Projections of a mutation -/

def provenanceWaitingOn (values : List WaitingOn) : Json :=
  .arr (values.map fun value =>
    ofFields [("kind", some (.str value.kind.serde)), ("id", some (.str value.id))])

def provenanceWaitingCommitments (digest : Digest) (nonce : List UInt8) (values : List WaitingOn) :
    Json :=
  .arr (values.map fun value => ofFields [
    ("kind", some (.str value.kind.serde)),
    ("id", some (.str value.id)),
    ("message_ref", some (encodeOption (taskFieldCommitment digest nonce "waiting_message")
      value.message))])

def provenanceFailure (failure : FailureRecord) : Json := ofFields [
  ("code", some (.str failure.code)),
  ("step_id", some (encodeOption .str failure.stepId)),
  ("provider_id", some (encodeOption .str failure.providerId)),
  ("execution_binding_id", some (encodeOption .str failure.executionBindingId)),
  ("provenance_event_ids", some (encodeTexts failure.provenanceEventIds)),
  ("retryable", some (.bool failure.retryable)),
  ("safe_to_replan", some (.bool failure.safeToReplan)),
  ("unknown_side_effects", some (.bool failure.unknownSideEffects)),
  ("rollback_available", some (.bool failure.rollbackAvailable))]

def provenanceFailureCommitment (digest : Digest) (nonce : List UInt8) (failure : FailureRecord) :
    Json :=
  taskFieldCommitment digest nonce "failure_summary" failure.summary

/-- The mutation as it enters the journal. -/
def committedMutation (mutation : TaskMutation) : Json := ofFields [
  ("active_plan", some (encodeOption ActivePlan.toJson mutation.activePlan)),
  ("active_step_ids", some (encodeOption encodeTexts mutation.activeStepIds)),
  ("waiting_on", some (encodeOption provenanceWaitingOn mutation.waitingOn)),
  ("failure", some (encodeOption provenanceFailure mutation.failure)),
  ("recovery", some (encodeOption RecoveryMutation.toJson mutation.recovery))]

/-- The commitments to the private texts of a mutation. -/
def mutationTextCommitments (digest : Digest) (nonce : List UInt8) (mutation : TaskMutation) : Json :=
  ofFields [
    ("waiting_on", some (encodeOption (provenanceWaitingCommitments digest nonce) mutation.waitingOn)),
    ("failure_summary", some (encodeOption (provenanceFailureCommitment digest nonce)
      mutation.failure))]

def reasonMessageRef (digest : Digest) (nonce : List UInt8) (reason : TransitionReason) : Json :=
  encodeOption (taskFieldCommitment digest nonce "reason_message") reason.message

/-! ## 3. The event of a transition -/

def transitionEventId (digest : Digest) (transitionId : String) : String :=
  hashedEventId digest "event:transition:v1:sha256:" "AIOS-TASK-TRANSITION-EVENT-ID\x00v1\x00"
    transitionId

/-- A member of the active program's entry, `null` where there is none. -/
def programMember (program : Option Json) (key : String) : Json :=
  (program.bind fun value => value.get? key).getD .null

/-- The moved state and revision. -/
def taskTransition (request : TransitionRequest) (revision : Nat) (state : TaskState) : Json :=
  ofFields [
    ("transition_id", some (.str request.transitionId)),
    ("previous_state", some (encodeState state)),
    ("new_state", some (encodeState request.toState)),
    ("previous_revision", some (encodeNat revision)),
    ("new_revision", some (encodeNat (revision + 1))),
    ("reason_code", some (.str request.reason.code))]

def transitionDetails (digest : Digest) (nonce : List UInt8) (request : TransitionRequest)
    (program : Option Json) : Json := ofFields [
  ("related_ids", some (encodeTexts request.reason.relatedIds)),
  ("reason_message_ref", some (reasonMessageRef digest nonce request.reason)),
  ("active_program", some (program.getD .null)),
  ("mutation_text_commitments", some (mutationTextCommitments digest nonce request.mutation))]

def transitionEvent (digest : Digest) (nonce : List UInt8) (request : TransitionRequest)
    (revision : Nat) (state : TaskState) (program : Option Json) (resultedAt : String) : Json :=
  ofFields [
    ("schema_version", some (.str schemaVersion)),
    ("event_id", some (.str (transitionEventId digest request.transitionId))),
    ("task_id", some (.str request.taskId)),
    ("event_type", some (.str "task.transitioned")),
    ("timestamp", some (.str resultedAt)),
    ("actor", some request.requestedBy.toJson),
    ("status", some (.str "success")),
    ("semantic_program_hash", some (programMember program "semantic_hash")),
    ("ir_version", some (programMember program "ir_version")),
    ("registry_snapshot_id", some (programMember program "registry_snapshot_id")),
    ("validation_result_id", some (programMember program "validation_result_id")),
    ("task_transition", some (taskTransition request revision state)),
    ("committed_mutation", some (committedMutation request.mutation)),
    ("details", some (transitionDetails digest nonce request program))]

variable {σ : Type} (env : Env σ)

/-- The canonical text of a value. -/
def canonicalJson (value : Json) : TaskResult String := do
  let bytes ← (env.digest.canonical value).mapError .canonicalization
  expect (String.fromUTF8? ⟨bytes.toArray⟩) (.invalidRecord "canonical JSON is not UTF-8")

theorem canonicalJson_ok {env : Env σ} {value : Json} {text : String}
    (h : env.digest.canonical value = .ok text.toUTF8.data.toList) :
    canonicalJson env value = .ok text := by
  have htext : String.fromUTF8? text.toUTF8 = some text := dif_pos text.isValidUTF8
  unfold canonicalJson
  rw [h]
  show expect (String.fromUTF8? ⟨text.toUTF8.data.toList.toArray⟩) _ = _
  rw [Array.toArray_toList, htext]
  rfl

def programContentDomain : List UInt8 := "AIOS-TASK-ACTIVE-PROGRAM-CONTENT\x00v1\x00".toUTF8.toList

def programContentDigest (programJson : String) : TaskResult String := do
  let value ← expect (env.parseJson programJson) (.serialization "program is not JSON")
  let bytes ← (env.digest.canonical value).mapError .canonicalization
  return env.digest.tagged programContentDomain bytes

/-- The active program of a Task as its events name it. -/
def activeProgramEvent (core : Core σ) (taskId : String) (activeProgram : Option Nat) :
    TaskResult (Option Json) :=
  match activeProgram with
  | none => .ok none
  | some revision => do
      let p ← expect (core.programs.find? fun p => p.taskId = taskId &&
          p.programRevision = revision && p.status = "active") (.storage "Query returned no rows")
      let v := p.validationResultId.bind fun id =>
        core.validations.find? fun v => v.validationResultId = id
      let content ← programContentDigest env p.programJson
      return some (ofFields [
        ("program_id", some (.str p.programId)),
        ("ir_version", some (.str p.irVersion)),
        ("semantic_hash", some (encodeOption .str p.semanticHash)),
        ("registry_snapshot_id", some (encodeOption .str p.registrySnapshotId)),
        ("validation_result_id", some (encodeOption .str p.validationResultId)),
        ("validated_at", some (encodeOption .str (v.map ValidationRow.validatedAt))),
        ("validator_id", some (encodeOption .str (v.map ValidationRow.validatorId))),
        ("validator_version", some (encodeOption .str (v.map ValidationRow.validatorVersion))),
        ("program_content_digest", some (.str content))])

/-! ## 4. Creation -/

/-- A request to create a Task. -/
structure CreateTask where
  taskId : String
  principal : Actor
  workspaceId : Option String
  originalIntent : String
  normalizedIntent : Option Json
  activeStepIds : List String
  deriving DecidableEq

def taskCreatedEventId (digest : Digest) (taskId : String) : String :=
  hashedEventId digest "event:task-created:v1:sha256:" "AIOS-TASK-CREATED-EVENT-ID\x00v1\x00" taskId

/-- What the creation event says of the request. -/
def creationDetails (digest : Digest) (nonce : List UInt8) (request : CreateTask)
    (normalized : Option Json) (constraints : Option Json) (createdAt : String) : Json := ofFields [
  ("principal", some request.principal.toJson),
  ("workspace_id", some (encodeOption .str request.workspaceId)),
  ("original_intent_ref",
    some (taskFieldCommitment digest nonce "original_intent" request.originalIntent)),
  ("normalized_intent_ref", some (normalized.getD .null)),
  ("constraints", some (constraints.getD .null)),
  ("created_at", some (.str createdAt))]

def taskCreatedEvent (digest : Digest) (nonce : List UInt8) (request : CreateTask)
    (normalized : Option Json) (constraints : Option Json) (createdAt : String) : Json := ofFields [
  ("schema_version", some (.str schemaVersion)),
  ("event_id", some (.str (taskCreatedEventId digest request.taskId))),
  ("task_id", some (.str request.taskId)),
  ("event_type", some (.str "task.created")),
  ("timestamp", some (.str createdAt)),
  ("actor", some request.principal.toJson),
  ("status", some (.str "success")),
  ("details", some (ofFields [
    ("revision", some (encodeNat 1)),
    ("creation", some (creationDetails digest nonce request normalized constraints createdAt)),
    ("active_plan", some .null),
    ("active_step_ids", some (encodeTexts request.activeStepIds)),
    ("waiting_on", some (.arr [])),
    ("failure", some .null),
    ("recovery", some .null)]))]

/-! ## 5. Reading an event back -/

@[simp] theorem get?_ofFields (fs : List (String × Option Json)) (key : String) :
    (ofFields fs).get? key = (members fs).lookup key := rfl

section FloatFree

@[simp] theorem floatFree_str (s : String) : floatFree (.str s) = true := rfl

@[simp] theorem floatFree_bool (b : Bool) : floatFree (.bool b) = true := rfl

@[simp] theorem floatFree_encodeNat (n : Nat) : floatFree (encodeNat n) = true := rfl

@[simp] theorem floatFree_null : floatFree .null = true := rfl

@[simp] theorem floatFree_encodeState (state : TaskState) : floatFree (encodeState state) = true := rfl

theorem floatFree_encodeOption {α : Type} {f : α → Json} {o : Option α}
    (h : ∀ a, floatFree (f a) = true) : floatFree (encodeOption f o) = true := by
  cases o with
  | none => rfl
  | some a => exact h a

theorem floatFree_map {α : Type} {encode : α → Json} {l : List α}
    (h : ∀ a, floatFree (encode a) = true) : floatFree (.arr (l.map encode)) = true := by
  rw [floatFree, elementsFloatFree_iff]
  intro v hv
  obtain ⟨a, _, rfl⟩ := List.mem_map.mp hv
  exact h a

@[simp] theorem floatFree_encodeText (o : Option String) : floatFree (encodeOption .str o) = true :=
  floatFree_encodeOption floatFree_str

@[simp] theorem floatFree_encodeTexts (l : List String) : floatFree (encodeTexts l) = true :=
  floatFree_map floatFree_str

@[simp] theorem floatFree_actor (a : Actor) : floatFree a.toJson = true :=
  floatFree_ofFields (by simp)

@[simp] theorem floatFree_commitment (digest : Digest) (nonce : List UInt8) (field text : String) :
    floatFree (taskFieldCommitment digest nonce field text) = true :=
  floatFree_ofFields (by simp)

theorem floatFree_activePlan (plan : ActivePlan) : floatFree plan.toJson = true :=
  floatFree_ofFields (by simp)

theorem floatFree_failure (failure : FailureRecord) : floatFree (provenanceFailure failure) = true :=
  floatFree_ofFields (by simp)

theorem floatFree_recovery (recovery : RecoveryMutation) : floatFree recovery.toJson = true := by
  have hids : (nonemptyTexts recovery.unknownOperationIds).all floatFree = true := by
    unfold nonemptyTexts
    split <;> simp
  have href : (recovery.unknownOperationsRef.map Json.str).all floatFree = true := by
    cases recovery.unknownOperationsRef <;> simp
  exact floatFree_ofFields (by simp [hids, href])

theorem floatFree_waitingOn (values : List WaitingOn) :
    floatFree (provenanceWaitingOn values) = true :=
  floatFree_map fun _ => floatFree_ofFields (by simp)

theorem floatFree_waitingCommitments (digest : Digest) (nonce : List UInt8) (values : List WaitingOn) :
    floatFree (provenanceWaitingCommitments digest nonce values) = true := by
  have hmessage : ∀ message : Option String,
      floatFree (encodeOption (taskFieldCommitment digest nonce "waiting_message") message) = true :=
    fun _ => floatFree_encodeOption (floatFree_commitment digest nonce _)
  exact floatFree_map fun _ => floatFree_ofFields (by simp [hmessage])

@[simp] theorem floatFree_committedMutation (mutation : TaskMutation) :
    floatFree (committedMutation mutation) = true := by
  have hplan := floatFree_encodeOption (o := mutation.activePlan) floatFree_activePlan
  have hsteps := floatFree_encodeOption (o := mutation.activeStepIds) floatFree_encodeTexts
  have hwaiting := floatFree_encodeOption (o := mutation.waitingOn) floatFree_waitingOn
  have hfailure := floatFree_encodeOption (o := mutation.failure) floatFree_failure
  have hrecovery := floatFree_encodeOption (o := mutation.recovery) floatFree_recovery
  exact floatFree_ofFields (by simp [hplan, hsteps, hwaiting, hfailure, hrecovery])

@[simp] theorem floatFree_textCommitments (digest : Digest) (nonce : List UInt8)
    (mutation : TaskMutation) : floatFree (mutationTextCommitments digest nonce mutation) = true := by
  have hwaiting := floatFree_encodeOption (o := mutation.waitingOn)
    (floatFree_waitingCommitments digest nonce)
  have hfailure := floatFree_encodeOption (f := provenanceFailureCommitment digest nonce)
    (o := mutation.failure) fun failure => floatFree_commitment digest nonce _ failure.summary
  exact floatFree_ofFields (by simp [hwaiting, hfailure])

/-- **The event of a transition holds no binary64** beyond what the program's entry holds. -/
theorem floatFree_transitionEvent {digest : Digest} {nonce : List UInt8} {request : TransitionRequest}
    {revision : Nat} {state : TaskState} {program : Option Json} {resultedAt : String}
    (h : floatFree (program.getD .null) = true) :
    floatFree (transitionEvent digest nonce request revision state program resultedAt) = true := by
  have hmember : ∀ key, floatFree (programMember program key) = true := by
    intro key
    unfold programMember
    cases program with
    | none => rfl
    | some value =>
        rw [Option.bind_some]
        cases hv : value.get? key with
        | none => rfl
        | some v => exact floatFree_get? h hv
  have hmessage : floatFree (reasonMessageRef digest nonce request.reason) = true :=
    floatFree_encodeOption (floatFree_commitment digest nonce _)
  have hmove : floatFree (taskTransition request revision state) = true :=
    floatFree_ofFields (by simp)
  have hdetails : floatFree (transitionDetails digest nonce request program) = true :=
    floatFree_ofFields (by simp [hmessage, h])
  exact floatFree_ofFields (by simp [hmember, hmove, hdetails])

/-- The program's entry is made of texts. -/
theorem floatFree_activeProgram {σ : Type} {env : Env σ} {core : Core σ} {taskId : String}
    {activeProgram : Option Nat} {program : Option Json}
    (h : activeProgramEvent env core taskId activeProgram = .ok program) :
    floatFree (program.getD .null) = true := by
  unfold activeProgramEvent at h
  cases activeProgram with
  | none =>
      rw [← Except.ok.inj h]
      rfl
  | some revision =>
      simp only [bind_eq_ok', expect_ok] at h
      obtain ⟨p, _, content, _, h⟩ := h
      rw [← Except.ok.inj h]
      exact floatFree_ofFields (by simp)

/-- The event of a creation holds no binary64 beyond what its constraints hold. -/
theorem floatFree_taskCreatedEvent {digest : Digest} {nonce : List UInt8} {request : CreateTask}
    {normalized : Option String} {field : String} {constraints : Option Json} {createdAt : String}
    (h : floatFree (constraints.getD .null) = true) :
    floatFree (taskCreatedEvent digest nonce request
      (normalized.map (taskFieldCommitment digest nonce field)) constraints createdAt) = true := by
  have hnormalized : floatFree ((normalized.map (taskFieldCommitment digest nonce field)).getD .null) =
      true := floatFree_encodeOption (floatFree_commitment digest nonce field)
  have hcreation : floatFree (creationDetails digest nonce request
      (normalized.map (taskFieldCommitment digest nonce field)) constraints createdAt) = true :=
    floatFree_ofFields (by simp [hnormalized, h])
  have hnone : floatFree (.arr []) = true := rfl
  have hdetails := floatFree_ofFields (l := [
    ("revision", some (encodeNat 1)),
    ("creation", some (creationDetails digest nonce request
      (normalized.map (taskFieldCommitment digest nonce field)) constraints createdAt)),
    ("active_plan", some .null),
    ("active_step_ids", some (encodeTexts request.activeStepIds)),
    ("waiting_on", some (.arr [])),
    ("failure", some .null),
    ("recovery", some .null)]) (by simp [hcreation, hnone])
  exact floatFree_ofFields (by simp [hdetails])

end FloatFree

section Fields

variable {digest : Digest} {nonce : List UInt8} {request : TransitionRequest} {revision : Nat} {state : TaskState}
  {program : Option Json} {resultedAt : String}

/-- The texts of a transition event. -/
theorem transitionEvent_texts {e : Json}
    (h : e = transitionEvent digest nonce request revision state program resultedAt) :
    stringField e "event_id" = some (transitionEventId digest request.transitionId) ∧
      stringField e "task_id" = some request.taskId ∧ stringField e "timestamp" = some resultedAt ∧
      stringField e "event_type" = some "task.transitioned" := by
  subst h
  simp [stringField, transitionEvent, Json.asStr]

/-- The place a transition event leads to. -/
theorem transitionEvent_target {e : Json}
    (h : e = transitionEvent digest nonce request revision state program resultedAt) :
    (pointer e ["task_transition", "new_revision"]).bind asU64 = some (revision + 1) ∧
      (pointer e ["task_transition", "new_state"]).bind Json.asStr = some request.toState.asStr := by
  subst h
  simp [pointer, transitionEvent, taskTransition, encodeNat, encodeState, asU64, Json.asStr]

theorem taskCreatedEvent_texts {request : CreateTask} {normalized constraints : Option Json} {createdAt : String}
    {e : Json} (h : e = taskCreatedEvent digest nonce request normalized constraints createdAt) :
    stringField e "event_id" = some (taskCreatedEventId digest request.taskId) ∧
      stringField e "task_id" = some request.taskId ∧ stringField e "timestamp" = some createdAt ∧
      stringField e "event_type" = some "task.created" := by
  subst h
  simp [stringField, taskCreatedEvent, Json.asStr]

end Fields

/-- An accepted transition event carries only numbers every reader keeps. -/
theorem transitionEvent_safe {digest : Digest} {nonce : List UInt8} {request : TransitionRequest}
    {revision : Nat} {state : TaskState} {program : Option Json} {resultedAt : String}
    (h : withinShapeBounds (transitionEvent digest nonce request revision state program resultedAt) =
      true) :
    revision + 1 ≤ maxSafeJsonInteger ∧
      ∀ plan, request.mutation.activePlan = some plan → plan.revision ≤ maxSafeJsonInteger := by
  refine ⟨?_, fun plan hplan => ?_⟩
  · refine pointer_safe (p := ["task_transition", "new_revision"]) h ?_
    simp [pointer, transitionEvent, taskTransition, encodeNat]
  · refine pointer_safe (p := ["committed_mutation", "active_plan", "revision"]) h ?_
    simp [pointer, transitionEvent, committedMutation, hplan, encodeOption, ActivePlan.toJson,
      encodeNat]

end Aios.Tasks
