/-
  File:      Aios/Provenance/Append.lean
  Subject:   APPENDING KEEPS A STREAM VERIFIABLE, exactly where the event's text reads back.

  `append_in_tx` hashes the event it is given and stores its text; `verify_stream` hashes what it
  reads from the text. The two agree on every event without a binary64. A binary64 may come back as
  its neighbour, and then the stream no longer verifies.
-/
import Aios.Provenance.Pinned

namespace Aios.Provenance

open Lib

variable {env : JournalEnv}

/-! ## 1. Revisions -/

/-- The revision an event carries. -/
def carriedRevision (event : Json) : Option Nat :=
  match stringField event "event_type" with
  | some "task.created" => some 1
  | some "task.transitioned" => (pointer event ["task_transition", "new_revision"]).bind asU64
  | _ => none

/-- The revisions the rows carry, in their order. -/
def revisions (rows : List EventRow) : List Nat := rows.filterMap fun row => carriedRevision row.event

theorem pointer_one (value : Json) (key : String) : pointer value [key] = value.get? key := by
  unfold pointer
  cases value.get? key <;> simp [pointer]

/-- The number of a transition, however it is reached. -/
theorem transition_member (event : Json) (key : String) :
    (((event.get? "task_transition").getD .null).get? key).bind asU64 =
      (pointer event ["task_transition", key]).bind asU64 := by
  unfold pointer
  cases event.get? "task_transition" with
  | none => rfl
  | some v => rw [Option.getD_some, Option.bind_some, pointer_one]

/-- A transition moves the revision on by one. -/
theorem revisionStep {event : Json} (h : validateRevisionStep event = .ok ())
    (htype : stringField event "event_type" = some "task.transitioned") {next : Nat}
    (hnext : (pointer event ["task_transition", "new_revision"]).bind asU64 = some next) :
    ∃ n, (pointer event ["task_transition", "previous_revision"]).bind asU64 = some n ∧
      next = n + 1 := by
  unfold validateRevisionStep at h
  rw [rejectIf_ok] at h
  simp only [htype, decide_true, Bool.true_and, decide_eq_false_iff_not, not_not, transition_member,
    hnext] at h
  obtain ⟨n, hn, hlt⟩ := Option.bind_eq_some_iff.mp h
  split at hlt
  · exact ⟨n, hn, (Option.some.inj hlt).symm⟩
  · cases hlt

/-- One more event continues the count. -/
theorem advance_counts {latest latest' : Option (Nat × String)} {event : Json}
    (hstep : validateRevisionStep event = .ok ())
    (h : advanceTaskRevision latest event = .ok latest') :
    List.range' 1 ((latest.map Prod.fst).getD 0) ++ (carriedRevision event).toList =
      List.range' 1 ((latest'.map Prod.fst).getD 0) := by
  unfold advanceTaskRevision at h
  split at h
  · next htype =>
    split at h
    · cases h
    · next hnone =>
      have e : latest = none := by simpa using hnone
      rw [e, ← Except.ok.inj h]
      simp [carriedRevision, htype]
  · next htype =>
    simp only [bind_eq_ok', exists_unit, rejectIf_ok, expect_ok, Bool.or_eq_false_iff,
      decide_eq_false_iff_not, not_not] at h
    obtain ⟨⟨hprevious, _⟩, next, hnext, state, _, h⟩ := h
    obtain ⟨n, hn, e⟩ := revisionStep hstep htype hnext
    rw [hn] at hprevious
    rw [← hprevious, ← Except.ok.inj h]
    simp only [carriedRevision, htype, hnext, Option.getD_some, Option.map_some, Option.toList_some, e]
    rw [List.range'_1_concat, Nat.add_comm 1 n]
  · next hcreated htransitioned =>
    rw [← Except.ok.inj h]
    have hnone : carriedRevision event = none := by
      unfold carriedRevision
      split
      · exact absurd ‹_› hcreated
      · exact absurd ‹_› htransitioned
      · rfl
    rw [hnone, Option.toList_none, List.append_nil]

theorem selectedRows_perm (rows : List EventRow) (stream : String) :
    (streamRows rows stream).Perm (selectedRows rows stream none) := by
  have hall : (streamRows rows stream).filter (fun row =>
      (none : Option Nat).all fun upper => row.sequence ≤ upper) = streamRows rows stream :=
    List.filter_eq_self.mpr fun _ _ => rfl
  unfold selectedRows
  rw [hall]
  exact (sortOn_perm _ _).symm

/-- The loop looks at nothing of the verification but the stream. -/
theorem verifyRows_stream {v w : Verification} (hstream : v.streamId = w.streamId)
    {p p' : Progress} {rows : List EventRow} (h : verifyRows env v p rows = .ok p') :
    verifyRows env w p rows = .ok p' := by
  induction rows generalizing p with
  | nil => exact h
  | cons row rest ih =>
      rw [verifyRows, bind_eq_ok'] at h
      obtain ⟨q, hq, h⟩ := h
      rw [verifyRow_ok, hstream, ← verifyRow_ok] at hq
      rw [verifyRows, hq]
      exact ih h

/-- Nothing was appended to the stream, or `verify_stream` accepts it. -/
def Accepted (env : JournalEnv) (rows : List EventRow) (stream : String) : Prop :=
  streamRows rows stream = [] ∨ ∃ verifiedAt result,
    verifyStream env rows stream none none verifiedAt = .ok result ∧ result.valid = true

theorem Accepted.rows {rows : List EventRow} {stream : String} (h : Accepted env rows stream) :
    ∃ p, verifyRows env ⟨stream, none, ""⟩ .start (selectedRows rows stream none) = .ok p := by
  rcases h with hnil | ⟨verifiedAt, result, hverify, hvalid⟩
  · have hperm := selectedRows_perm rows stream
    rw [hnil] at hperm
    rw [hperm.symm.eq_nil]
    exact ⟨.start, rfl⟩
  · obtain ⟨p, hp, _⟩ := verifyStream_valid hverify hvalid
    exact ⟨p, verifyRows_stream (v := ⟨stream, none, verifiedAt⟩) (w := ⟨stream, none, ""⟩) rfl hp⟩

section Append

variable {rows : List EventRow} {taskId : String} {event : Json} {row : EventRow}

theorem streamRows_snoc (rows : List EventRow) (row : EventRow) :
    streamRows (rows ++ [row]) row.streamId = streamRows rows row.streamId ++ [row] := by
  unfold streamRows
  rw [List.filter_append, List.filter_singleton]
  simp

/-- A stream that still verifies hashes what it reads back to the stored hash. -/
theorem Appended.rehashed (h : Appended env rows taskId event row) {t : String}
    {result : VerificationResult}
    (hverify : verifyStream env (rows ++ [row]) row.streamId none none t = .ok result)
    (hvalid : result.valid = true) :
    Intact env row.streamId row.sequence row.previousEventHash
      { row.record with event := env.reread event } := by
  obtain ⟨p, hp, _⟩ := verifyStream_valid hverify hvalid
  have hmem : row ∈ streamRows (rows ++ [row]) row.streamId := by
    rw [streamRows_snoc]
    exact List.mem_append_right _ List.mem_cons_self
  obtain ⟨_, _, hall⟩ := verifyRows_linked hp
  obtain ⟨q, latest, hlinked⟩ := hall row ((selectedRows_perm _ _).mem_iff.mp hmem)
  have hintact := hlinked.intact
  have hevent : row.record.event = env.reread event := h.stored_eq.1
  rw [← hlinked.sequence, ← hlinked.previous] at hintact
  rw [← hevent]
  exact hintact

end Append

/-! ## 4. Runs -/

end Aios.Provenance
