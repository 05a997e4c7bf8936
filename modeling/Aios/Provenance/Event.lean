/-
  File:      Aios/Provenance/Event.lean
  Subject:   WHAT AN EVENT MUST BE to enter a journal, and the hash of its journal record.

  The JSON-schema engine, the RFC 3339 reader, `serde_json`'s writer and reader, RFC 8785 and
  SHA-256 are the surroundings (`JournalEnv`). Every other check of the event contract is modelled.
-/
import Aios.Lib.Digest
import Aios.Provenance.Details

namespace Aios.Provenance

open Lib

structure JournalEnv where
  digest : Digest
  /-- The embedded event schema accepts the value. -/
  eventSchema : Json → Bool
  /-- An RFC 3339 text as nanoseconds since the epoch. -/
  rfc3339 : String → Option Int
  /-- The number of bytes `serde_json::to_vec` writes. -/
  encodedLength : Json → Nat
  /-- What `serde_json` reads back from the text it writes. -/
  reread : Json → Json
  /-- Only a binary64 may come back as another one. -/
  reread_exact : ∀ value, value.floatFree = true → reread value = value

/-! ## 1. Shape bounds -/

def maxEventBytes : Nat := 524288
def maxDetailsBytes : Nat := 458752
def maxJsonDepth : Nat := 32
def maxStringChars : Nat := 4096
def maxArrayItems : Nat := 512
def maxObjectFields : Nat := 256

/-- A number every JSON reader keeps. A binary64 is refused when it is a whole number beyond the
    safe range, and from `2 ^ 53` on every binary64 is whole: the biased exponent decides. -/
def safeJsonNumber : Number → Bool
  | .posInt n => n ≤ maxSafeJsonInteger
  | .negInt n => -(maxSafeJsonInteger : Int) ≤ n
  | .float bits => (bits >>> 52).toNat % 2048 < 1023 + 53

mutual

/-- The value, standing at this depth, and everything below it keep the bounds. -/
def withinShapeBoundsAt (depth : Nat) : Json → Bool
  | .null | .bool _ => depth ≤ maxJsonDepth
  | .str s => depth ≤ maxJsonDepth && s.length ≤ maxStringChars
  | .num n => depth ≤ maxJsonDepth && safeJsonNumber n
  | .arr elems => depth ≤ maxJsonDepth && elems.length ≤ maxArrayItems &&
      elementsWithinBounds (depth + 1) elems
  | .obj members => depth ≤ maxJsonDepth && members.length ≤ maxObjectFields &&
      membersWithinBounds (depth + 1) members

def elementsWithinBounds (depth : Nat) : List Json → Bool
  | [] => true
  | v :: rest => withinShapeBoundsAt depth v && elementsWithinBounds depth rest

def membersWithinBounds (depth : Nat) : List (String × Json) → Bool
  | [] => true
  | (k, v) :: rest => k.length ≤ 256 && withinShapeBoundsAt depth v && membersWithinBounds depth rest

end

def withinShapeBounds (value : Json) : Bool := withinShapeBoundsAt 1 value

/-- A member of a bounded object keeps the bounds. -/
theorem membersWithinBounds_lookup {depth : Nat} {members : List (String × Json)} {k : String}
    {v : Json} (h : membersWithinBounds depth members = true) (hk : members.lookup k = some v) :
    withinShapeBoundsAt depth v = true := by
  induction members with
  | nil => cases hk
  | cons p rest ih =>
      obtain ⟨l, w⟩ := p
      simp only [membersWithinBounds, Bool.and_eq_true] at h
      rw [Json.lookup_cons_ite] at hk
      by_cases e : k = l
      · rw [if_pos e, Option.some.injEq] at hk
        rw [← hk]
        exact h.1.2
      · rw [if_neg e] at hk
        exact ih h.2 hk

theorem withinShapeBoundsAt_get {depth : Nat} {value v : Json} {key : String}
    (h : withinShapeBoundsAt depth value = true) (hv : value.get? key = some v) :
    withinShapeBoundsAt (depth + 1) v = true := by
  cases value with
  | obj members =>
      simp only [withinShapeBoundsAt, Bool.and_eq_true] at h
      exact membersWithinBounds_lookup h.2 hv
  | _ => cases hv

theorem stringField_length {event : Json} {key s : String} (h : withinShapeBounds event = true)
    (hs : stringField event key = some s) : s.length ≤ maxStringChars := by
  obtain ⟨v, hv, hstr⟩ := Option.bind_eq_some_iff.mp hs
  have hbound := withinShapeBoundsAt_get h hv
  cases v with
  | str t =>
      have e : t = s := Option.some.inj hstr
      simp only [withinShapeBoundsAt, Bool.and_eq_true, decide_eq_true_eq] at hbound
      rw [← e]
      exact hbound.2
  | _ => cases hstr

/-! ## 2. The event contract -/

/-- The member at a path of keys, as `Value::pointer` finds it. -/
def pointer (value : Json) : List String → Option Json
  | [] => some value
  | key :: rest => (value.get? key).bind fun v => pointer v rest

/-- A number inside a bounded value is safe. -/
theorem pointer_safe {depth : Nat} {value : Json} {p : List String} {n : Nat}
    (h : withinShapeBoundsAt depth value = true)
    (hp : pointer value p = some (.num (.posInt n))) : n ≤ maxSafeJsonInteger := by
  induction p generalizing depth value with
  | nil =>
      have e : value = .num (.posInt n) := Option.some.inj hp
      rw [e] at h
      simp only [withinShapeBoundsAt, safeJsonNumber, Bool.and_eq_true, decide_eq_true_eq] at h
      exact h.2
  | cons key rest ih =>
      obtain ⟨v, hv, hrest⟩ := Option.bind_eq_some_iff.mp hp
      exact ih (withinShapeBoundsAt_get h hv) hrest

def validateTaskId (taskId : String) : Result Unit := do
  rejectIf (taskId.length = 0) (.invalidRecord "Task ID is empty")
  rejectIf (256 < taskId.length) (.invalidRecord "Task ID exceeds 256 Unicode scalars")

section Contract

variable (env : JournalEnv)

/-- A transition event moves the revision by one. -/
def validateRevisionStep (event : Json) : Result Unit :=
  let transition := (event.get? "task_transition").getD .null
  let previous := (transition.get? "previous_revision").bind asU64
  let next := (transition.get? "new_revision").bind asU64
  rejectIf (stringField event "event_type" = some "task.transitioned" &&
      (previous.bind fun n => if n + 1 < 2 ^ 64 then some (n + 1) else none) ≠ next)
    (.invalidRecord "invalid typed Task transition provenance")

def validateEventContract (taskId : String) (event : Json) (sourceSizeBounds : Bool) :
    Result Unit := do
  validateTaskId taskId
  rejectIf (!withinShapeBounds event)
    (.invalidRecord "provenance event exceeds size or depth bounds")
  rejectIf (sourceSizeBounds && maxEventBytes < env.encodedLength event)
    (.invalidRecord "provenance event exceeds size or depth bounds")
  rejectIf (sourceSizeBounds && (event.get? "details").any fun value =>
      maxDetailsBytes < env.encodedLength value)
    (.invalidRecord "provenance details exceed size bounds")
  rejectIf ((event.get? "event_hash").isSome || (event.get? "previous_event_hash").isSome)
    (.invalidRecord "event payload must not supply journal hash fields")
  rejectIf (!env.eventSchema event)
    (.invalidRecord "provenance event does not match the typed event contract")
  rejectIf (stringField event "task_id" ≠ some taskId)
    (.invalidRecord "provenance event Task identity mismatch")
  forEach ["event_id", "task_id"] fun key =>
    rejectIf (256 < ((stringField event key).getD "").length)
      (.invalidRecord s!"provenance {key} exceeds bounds")
  rejectIf (256 < (((pointer event ["actor", "id"]).bind Json.asStr).getD "").length)
    (.invalidRecord "provenance actor ID exceeds bounds")
  validateTimestamp env.rfc3339 ((stringField event "timestamp").getD "")
  validateRevisionStep event
  validateDetailsVocabulary env.rfc3339 event

/-- The one source a singleton array names. -/
def soleItem (value : Option Json) : Option Json :=
  match value.bind Json.asArr with
  | some [item] => some item
  | _ => none

/-- The exact authority of an export against the event around it. -/
def validateExportAuthority (event authority : Json) : Result Unit :=
  let size := (pointer event ["details", "size_bytes"]).bind asU64
  let ceiling := (authority.get? "max_size_bytes").bind asU64
  let source := authority.get? "source_artifact_id"
  let transfer := (event.get? "external_transfer").getD .null
  let withinCeiling := (size.bind fun n => ceiling.map fun m => decide (n ≤ m)).getD false
  rejectIf (!withinCeiling ||
      authority.get? "operation_id" ≠ pointer event ["details", "operation_id"] ||
      (soleItem (event.get? "input_artifacts")).isNone ||
      soleItem (event.get? "input_artifacts") ≠ source ||
      (soleItem (transfer.get? "data_refs")).isNone ||
      soleItem (transfer.get? "data_refs") ≠ source ||
      authority.get? "service_id" ≠ transfer.get? "destination" ||
      authority.get? "purpose" ≠ transfer.get? "purpose")
    (.invalidRecord "exact export authority conflicts with export event")

def validateExportAuthorityLinks (event : Json) : Result Unit :=
  if stringField event "event_type" ≠ some "artifact.exported" then .ok ()
  else match pointer event ["details", "export_authority"] with
    | none => .ok ()
    | some authority => validateExportAuthority event authority

def validateEvent (taskId : String) (event : Json) : Result Unit := do
  validateEventContract env taskId event true
  validateExportAuthorityLinks event

/-- What later proofs use of an accepted event. -/
theorem validateEvent_ok {taskId : String} {event : Json}
    (h : validateEvent env taskId event = .ok ()) :
    (0 < taskId.length ∧ taskId.length ≤ 256) ∧ withinShapeBounds event = true ∧
      env.encodedLength event ≤ maxEventBytes ∧ stringField event "task_id" = some taskId ∧
      ((stringField event "event_id").getD "").length ≤ 256 ∧
      (env.rfc3339 ((stringField event "timestamp").getD "")).isSome := by
  unfold validateEvent validateEventContract at h
  rw [unit_bind_eq_ok, unit_bind_eq_ok] at h
  obtain ⟨⟨hid, h⟩, _⟩ := h
  rw [unit_bind_eq_ok, rejectIf_ok, Bool.not_eq_false'] at h
  obtain ⟨hshape, h⟩ := h
  rw [unit_bind_eq_ok, rejectIf_ok, Bool.true_and, decide_eq_false_iff_not, Nat.not_lt] at h
  obtain ⟨hlength, h⟩ := h
  rw [unit_bind_eq_ok] at h
  obtain ⟨_, h⟩ := h
  rw [unit_bind_eq_ok] at h
  obtain ⟨_, h⟩ := h
  rw [unit_bind_eq_ok] at h
  obtain ⟨_, h⟩ := h
  rw [unit_bind_eq_ok, rejectIf_ok, decide_eq_false_iff_not, not_not] at h
  obtain ⟨htask, h⟩ := h
  rw [unit_bind_eq_ok, forEach_ok] at h
  obtain ⟨hids, h⟩ := h
  rw [unit_bind_eq_ok] at h
  obtain ⟨_, h⟩ := h
  rw [unit_bind_eq_ok] at h
  obtain ⟨htime, _⟩ := h
  unfold validateTaskId at hid
  rw [unit_bind_eq_ok, rejectIf_ok, rejectIf_ok, decide_eq_false_iff_not,
    decide_eq_false_iff_not] at hid
  have hevent := hids "event_id" List.mem_cons_self
  rw [rejectIf_ok, decide_eq_false_iff_not] at hevent
  unfold validateTimestamp at htime
  rw [rejectIf_ok, Option.isNone_eq_false_iff] at htime
  exact ⟨⟨by omega, by omega⟩, hshape, hlength, htask, by omega, htime⟩

/-- An accepted event brings no hash fields of its own. -/
theorem validateEvent_unhashed {taskId : String} {event : Json}
    (h : validateEvent env taskId event = .ok ()) :
    event.get? "event_hash" = none ∧ event.get? "previous_event_hash" = none := by
  unfold validateEvent validateEventContract at h
  simp only [bind_eq_ok', exists_unit, rejectIf_ok] at h
  obtain ⟨⟨_, _, _, _, hfields, _⟩, _⟩ := h
  rw [Bool.or_eq_false_iff] at hfields
  exact ⟨Option.isNone_iff_eq_none.mp (Option.isSome_eq_false_iff.mp hfields.1),
    Option.isNone_iff_eq_none.mp (Option.isSome_eq_false_iff.mp hfields.2)⟩

end Contract

/-! ## 3. The hash of a record -/

def schemaVersion : String := "0.1"
def hashProfile : String := "aios-provenance-event-v0.1"
def hashDomain : List UInt8 := "AIOS-PROVENANCE-EVENT\x00v0.1\x00".toUTF8.toList

/-- The event without the journal's own hash fields. -/
def hashedEvent (event : Json) : Option Json :=
  event.asObj.map fun members =>
    .obj (Json.removeMember "previous_event_hash" (Json.removeMember "event_hash" members))

def hashRecord (env : JournalEnv) (streamId : String) (sequence : Nat) (previous : Option String)
    (event : Json) : Result String := do
  rejectIf (sequence = 0 || maxSafeJsonInteger < sequence || !withinShapeBounds event)
    (.invalidRecord "provenance event exceeds shape bounds")
  let event ← expect (hashedEvent event) (.invalidRecord "provenance event must be an object")
  let view := Json.ofFields [
    ("schema_version", some (.str schemaVersion)),
    ("hash_profile", some (.str hashProfile)),
    ("stream_id", some (.str streamId)),
    ("sequence", some (.num (.posInt sequence))),
    ("previous_event_hash", some ((previous.map Json.str).getD .null)),
    ("event", some event)]
  let canonical ← (env.digest.canonical view).mapError .canonicalization
  return env.digest.tagged hashDomain canonical

/-- The value the hash of a record is taken of. -/
def recordView (streamId : String) (sequence : Nat) (previous : Option String) (event : Json) : Json :=
  Json.ofFields [
    ("schema_version", some (.str schemaVersion)),
    ("hash_profile", some (.str hashProfile)),
    ("stream_id", some (.str streamId)),
    ("sequence", some (.num (.posInt sequence))),
    ("previous_event_hash", some ((previous.map Json.str).getD .null)),
    ("event", some event)]

/-- The hash is the digest of the canonical bytes of the view. -/
theorem hashRecord_view {env : JournalEnv} {streamId : String} {sequence : Nat}
    {previous : Option String} {event : Json} {hash : String}
    (h : hashRecord env streamId sequence previous event = .ok hash) :
    ∃ hashed bytes, hashedEvent event = some hashed ∧
      env.digest.canonical (recordView streamId sequence previous hashed) = .ok bytes ∧
      hash = env.digest.tagged hashDomain bytes := by
  unfold hashRecord at h
  simp only [bind_eq_ok', exists_unit, expect_ok] at h
  obtain ⟨_, hashed, hhashed, bytes, hbytes, h⟩ := h
  refine ⟨hashed, bytes, hhashed, ?_, (Except.ok.inj h).symm⟩
  cases hc : env.digest.canonical (recordView streamId sequence previous hashed) with
  | error e =>
      unfold recordView at hc
      rw [hc] at hbytes
      cases hbytes
  | ok b =>
      unfold recordView at hc
      rw [hc] at hbytes
      rw [Except.ok.inj hbytes]

/-- An event without hash fields is hashed as it is. -/
theorem hashedEvent_eq {event hashed : Json} (h : hashedEvent event = some hashed)
    (hhash : event.get? "event_hash" = none) (hprevious : event.get? "previous_event_hash" = none) :
    hashed = event := by
  cases event with
  | obj l =>
      have hkeep : ∀ {key : String}, l.lookup key = none → Json.removeMember key l = l := by
        intro key hnone
        refine List.filter_eq_self.mpr fun p hp => decide_eq_true fun e => ?_
        rw [List.lookup_eq_none_iff] at hnone
        have hne := hnone p hp
        rw [e] at hne
        simp at hne
      have e : Json.obj (Json.removeMember "previous_event_hash" (Json.removeMember "event_hash" l)) =
          hashed := Option.some.inj h
      rw [hkeep hhash, hkeep hprevious] at e
      exact e.symm
  | _ => cases h

/-- A record hash is a tagged digest, of a sequence number in the safe range. -/
theorem hashRecord_ok {env : JournalEnv} {streamId : String} {sequence : Nat}
    {previous : Option String} {event : Json} {hash : String}
    (h : hashRecord env streamId sequence previous event = .ok hash) :
    0 < sequence ∧ sequence ≤ maxSafeJsonInteger ∧ ∃ payload, hash = env.digest.tagged hashDomain payload := by
  unfold hashRecord at h
  rw [unit_bind_eq_ok, rejectIf_ok, Bool.or_eq_false_iff, Bool.or_eq_false_iff,
    decide_eq_false_iff_not, decide_eq_false_iff_not] at h
  obtain ⟨⟨⟨hzero, hmax⟩, _⟩, h⟩ := h
  rw [bind_eq_ok'] at h
  obtain ⟨_, _, h⟩ := h
  rw [bind_eq_ok'] at h
  obtain ⟨payload, _, h⟩ := h
  exact ⟨by omega, by omega, payload, (Except.ok.inj h).symm⟩

end Aios.Provenance
