/-
  File:      Aios/Provenance/Decoded.lean
  Subject:   STORED ROWS THAT HOLD EVENT ROWS: where every cell is the text of its column, verifying
             the table is verifying the decoded rows, failures and their diagnostics included.
-/
import Aios.Provenance.Stored

namespace Aios.Provenance.Stored

open Lib

variable {store : JournalStore}

/-! ## 1. What a stored row holds -/

/-- The cell of a text that may be missing. -/
def Cell.ofOption : Option String → Cell
  | none => .null
  | some s => .text s

/-- The stored row is what appending writes for the event row, whatever the text of its event. -/
structure Holds (store : JournalStore) (stored : StoredRow) (row : EventRow) : Prop where
  schemaVersion : stored.schemaVersion = .text row.schemaVersion
  hashProfile : stored.hashProfile = .text row.hashProfile
  eventId : stored.eventId = .text row.eventId
  taskId : stored.taskId = .text row.taskId
  streamId : stored.streamId = .text row.streamId
  sequence : stored.sequence = .integer row.sequence
  timestamp : stored.timestamp = .text row.timestamp
  eventType : stored.eventType = .text row.eventType
  semanticProgramHash : stored.semanticProgramHash = .ofOption row.semanticProgramHash
  irVersion : stored.irVersion = .ofOption row.irVersion
  registrySnapshotId : stored.registrySnapshotId = .ofOption row.registrySnapshotId
  nodeId : stored.nodeId = .ofOption row.nodeId
  executionBindingId : stored.executionBindingId = .ofOption row.executionBindingId
  providerId : stored.providerId = .ofOption row.providerId
  status : stored.status = .ofOption row.status
  previousEventHash : stored.previousEventHash = .ofOption row.previousEventHash
  eventHash : stored.eventHash = .text row.eventHash
  event : ∃ text, stored.eventJson = .text text ∧ store.parse text = some row.event ∧
    text.utf8ByteSize = store.encodedLength row.event

/-- The row as appending writes it, with the text of its event. -/
def storedRow (row : EventRow) (eventText : String) : StoredRow where
  schemaVersion := .text row.schemaVersion
  hashProfile := .text row.hashProfile
  eventId := .text row.eventId
  taskId := .text row.taskId
  streamId := .text row.streamId
  sequence := .integer row.sequence
  timestamp := .text row.timestamp
  eventType := .text row.eventType
  semanticProgramHash := .ofOption row.semanticProgramHash
  irVersion := .ofOption row.irVersion
  registrySnapshotId := .ofOption row.registrySnapshotId
  nodeId := .ofOption row.nodeId
  executionBindingId := .ofOption row.executionBindingId
  providerId := .ofOption row.providerId
  status := .ofOption row.status
  previousEventHash := .ofOption row.previousEventHash
  eventHash := .text row.eventHash
  eventJson := .text eventText

theorem holds_storedRow {row : EventRow} {text : String} (hparse : store.parse text = some row.event)
    (hsize : text.utf8ByteSize = store.encodedLength row.event) :
    Holds store (storedRow row text) row :=
  ⟨rfl, rfl, rfl, rfl, rfl, rfl, rfl, rfl, rfl, rfl, rfl, rfl, rfl, rfl, rfl, rfl, rfl,
    text, rfl, hparse, hsize⟩

/-! ## 2. Reading it -/

/-- The reader returns the value where the check holds and finds the row malformed elsewhere. -/
def Reads {α : Type} (check : Bool) (a : α) (x : Except RowError α) : Prop :=
  x = if check then .ok a else .error .malformed

theorem Reads.bind {α β : Type} {b c : Bool} {a : α} {d : β} {x : Except RowError α}
    {f : α → Except RowError β} (hx : Reads b a x) (hf : Reads c d (f a)) :
    Reads (b && c) d (x >>= f) := by
  unfold Reads at hx hf ⊢
  rw [hx]
  cases b with
  | false => rfl
  | true =>
      rw [if_pos rfl, ok_bind, hf]
      rfl

theorem reads_pure {α : Type} (a : α) : Reads true a (pure a) := rfl

theorem reads_text {cell : Cell} {s : String} (h : cell = .text s) :
    Reads (boundedText s) s (boundedRowText store cell) := by
  unfold Reads boundedText
  rw [h, boundedRowText]
  by_cases hlong : maxEventBytes < s.utf8ByteSize
  · rw [if_pos hlong, if_neg (by simpa using hlong)]
  · rw [if_neg hlong, if_pos (by simpa using hlong)]

theorem reads_nullable {cell : Cell} {o : Option String} (h : cell = .ofOption o) :
    Reads (o.all boundedText) o (boundedNullableRowText store cell) := by
  cases o with
  | none =>
      rw [h]
      rfl
  | some s =>
      have hs : Reads (boundedText s) s (boundedRowText store (.text s)) := reads_text rfl
      unfold Reads at hs
      rw [h]
      show (boundedRowText store (.text s)).map some = _
      rw [hs, Option.all_some]
      cases boundedText s <;> rfl

/-- The index columns of an event row. -/
def indexOf (row : EventRow) : JournalIndex where
  eventId := row.eventId
  taskId := row.taskId
  timestamp := row.timestamp
  eventType := row.eventType
  semanticProgramHash := row.semanticProgramHash
  irVersion := row.irVersion
  registrySnapshotId := row.registrySnapshotId
  nodeId := row.nodeId
  executionBindingId := row.executionBindingId
  providerId := row.providerId
  status := row.status

section Held

variable {stored : StoredRow} {row : EventRow} (h : Holds store stored row)

include h

theorem Holds.reads_record :
    Reads (decide (store.encodedLength row.event ≤ maxEventBytes) && (boundedText row.schemaVersion &&
      (boundedText row.hashProfile && (boundedText row.streamId &&
        (row.previousEventHash.all boundedText && (boundedText row.eventHash && true))))))
      row.record (rowToRecord store stored) := by
  unfold rowToRecord
  have hsequence : rowInteger store stored.sequence = .ok (row.sequence : Int) := by
    rw [h.sequence]
    rfl
  have hevent : Reads (decide (store.encodedLength row.event ≤ maxEventBytes)) row.event
      (rowEvent store stored.eventJson) := by
    obtain ⟨text, htext, hparse, hsize⟩ := h.event
    unfold Reads
    rw [htext, ← hsize, rowEvent, hparse]
    by_cases hlong : maxEventBytes < text.utf8ByteSize
    · rw [if_pos hlong, if_neg (by simpa using hlong)]
    · rw [if_neg hlong, if_pos (by simpa using hlong)]
      rfl
  have hpositive : rejectIf (decide ((row.sequence : Int) < 0)) RowError.malformed = .ok () :=
    rejectIf_ok.mpr (decide_eq_false (by omega))
  rw [hsequence, ok_bind]
  refine hevent.bind ((reads_text h.schemaVersion).bind ((reads_text h.hashProfile).bind
    ((reads_text h.streamId).bind ?_)))
  rw [hpositive, ok_bind]
  exact (reads_nullable h.previousEventHash).bind ((reads_text h.eventHash).bind (reads_pure _))

theorem Holds.reads_index :
    Reads (boundedText row.eventId && (boundedText row.taskId && (boundedText row.timestamp &&
      (boundedText row.eventType && (row.semanticProgramHash.all boundedText &&
        (row.irVersion.all boundedText && (row.registrySnapshotId.all boundedText &&
          (row.nodeId.all boundedText && (row.executionBindingId.all boundedText &&
            (row.providerId.all boundedText && (row.status.all boundedText && true)))))))))))
      (indexOf row) (journalIndex store stored) := by
  unfold journalIndex
  exact (reads_text h.eventId).bind ((reads_text h.taskId).bind ((reads_text h.timestamp).bind
    ((reads_text h.eventType).bind ((reads_nullable h.semanticProgramHash).bind
      ((reads_nullable h.irVersion).bind ((reads_nullable h.registrySnapshotId).bind
        ((reads_nullable h.nodeId).bind ((reads_nullable h.executionBindingId).bind
          ((reads_nullable h.providerId).bind ((reads_nullable h.status).bind
            (reads_pure _)))))))))))

/-- **A row can be read exactly when its decoded row is readable.** -/
theorem Holds.reads : Reads (readable store.toJournalEnv row) (row.record, indexOf row)
    (loadRow store stored) := by
  have hload := h.reads_record.bind (f := fun record => do
    let index ← journalIndex store stored
    return (record, index)) (h.reads_index.bind (reads_pure (row.record, indexOf row)))
  unfold Reads at hload ⊢
  rw [loadRow, hload]
  congr 1
  simp only [readable, List.all_cons, List.all_nil, Bool.and_true, Bool.and_eq_true, eq_iff_iff]
  constructor
  · rintro ⟨⟨a, b, c, d, e, f⟩, g, i, j, k, l, m, n, o, p, q, r⟩
    exact ⟨⟨a, b, c, d, f, g, i, j, k⟩, e, l, m, n, o, p, q, r⟩
  · rintro ⟨⟨a, b, c, d, f, g, i, j, k⟩, e, l, m, n, o, p, q, r⟩
    exact ⟨⟨a, b, c, d, e, f⟩, g, i, j, k, l, m, n, o, p, q, r⟩

/-! ## 3. Verifying it -/

/-- **One step of the loop is the same.** -/
theorem Holds.verifyRow (v : Verification) (p : Progress) :
    verifyRow store v p stored =
      (Provenance.verifyRow store.toJournalEnv v p row).mapError .ok := by
  have hreads := h.reads
  have hmatches : (indexOf row).matches row.record.event = indexMatches row := rfl
  unfold Reads at hreads
  unfold Stored.verifyRow Provenance.verifyRow
  rw [hreads]
  cases readable store.toJournalEnv row with
  | false => rfl
  | true =>
      simp only [if_true, Except.mapError, ok_bind, hmatches]
      cases verifyOneRecord store.toJournalEnv v row.record p.expectedSequence p.previous false with
      | error failed => rfl
      | ok computed =>
          cases indexMatches row with
          | false => rfl
          | true =>
              simp only [ok_bind, rejectIf]
              cases hrevision : advanceTaskRevision p.latest row.event with
              | error e =>
                  simp only [EventRow.record, hrevision]
                  rfl
              | ok latest =>
                  simp only [EventRow.record, hrevision]
                  rfl

end Held

/-- **The loop is the same.** -/
theorem verifyRows_holds {stored : List StoredRow} {rows : List EventRow} (v : Verification)
    (p : Progress) (h : List.Forall₂ (Holds store) stored rows) :
    verifyRows store v p stored =
      (Provenance.verifyRows store.toJournalEnv v p rows).mapError .ok := by
  induction h generalizing p with
  | nil => rfl
  | @cons s row _ _ hrow _ ih =>
      rw [verifyRows, Provenance.verifyRows, hrow.verifyRow]
      cases Provenance.verifyRow store.toJournalEnv v p row with
      | error failed => rfl
      | ok q => exact ih q

/-- The rows of a query, decoded, are the rows of the query on the decoded table. -/
theorem rowsThrough_holds {stored : List StoredRow} {rows : List EventRow} (stream : String)
    (through : Option Nat) (h : List.Forall₂ (Holds store) stored rows) :
    List.Forall₂ (Holds store) (rowsThrough store stored stream through)
      (selectedRows rows stream through) := by
  let := store.order
  have hstream : List.Forall₂ (Holds store)
      (stored.filter fun row => row.streamId = .text stream) (streamRows rows stream) := by
    refine List.rel_filter ?_ h
    intro s row hrow
    simp [hrow.streamId]
  have hselected : List.Forall₂ (Holds store)
      ((stored.filter fun row => row.streamId = .text stream).filter fun row =>
        through.all fun upper : Nat => row.sequence ≤ .integer upper)
      ((streamRows rows stream).filter fun row => through.all fun upper => row.sequence ≤ upper) := by
    refine List.rel_filter ?_ hstream
    intro s row hrow
    have hle : ∀ upper : Nat, s.sequence ≤ .integer upper ↔ row.sequence ≤ upper := by
      intro upper
      rw [hrow.sequence]
      exact (store.integers row.sequence upper).trans (by omega)
    simp [hle]
  have hcells : ∀ (s : StoredRow) (row : EventRow), Holds store s row →
      s.sequence = Cell.integer row.sequence := fun s row hrow => hrow.sequence
  have hsorted := sortOn_forall₂ hcells hselected
  have hnumbers : ∀ a b : EventRow, Cell.integer a.sequence ≤ Cell.integer b.sequence ↔
      a.sequence ≤ b.sequence := by
    intro a b
    exact (store.integers a.sequence b.sequence).trans (by omega)
  rw [sortOn_congr hnumbers] at hsorted
  exact hsorted

/-- **Verifying a table is verifying what it holds.** -/
theorem verifyStream_holds {stored : List StoredRow} {rows : List EventRow}
    (h : List.Forall₂ (Holds store) stored rows) (stream : String) (through : Option Nat)
    (checkpoint : Option CheckpointExpectation) (verifiedAt : String) :
    verifyStream store stored stream through checkpoint verifiedAt =
      Provenance.verifyStream store.toJournalEnv rows stream through checkpoint verifiedAt := by
  have hloop := verifyRows_holds ⟨stream, checkpoint, verifiedAt⟩ .start
    (rowsThrough_holds stream through h)
  unfold verifyStream Provenance.verifyStream
  simp only [hloop]
  cases Provenance.verifyRows store.toJournalEnv ⟨stream, checkpoint, verifiedAt⟩ .start
    (selectedRows rows stream through) with
  | error failed => rfl
  | ok p => rfl

end Aios.Provenance.Stored
