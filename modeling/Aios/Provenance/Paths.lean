/-
  File:      Aios/Provenance/Paths.lean
  Subject:   THE PATHS THROUGH A JOURNAL AGREE: the verification of the stored rows, the one of the
             loaded records, the one of a prefix, and the pages.

  Both loops do the same to a record (`Follows`); they differ in what they check beside it. The
  table is verified with its index columns, the list of records against repeated event identities,
  which the key of the table excludes where the columns repeat the events.
-/
import Aios.Lib.Keyed
import Aios.Provenance.Decoded
import Aios.Provenance.Pinned
import Mathlib.Data.List.Lex

namespace Aios.Provenance.Stored

open Lib

variable {store : JournalStore}

/-! ## 1. The loop over records -/

/-- The records continue the stream from one point of the loop to another. -/
def Follows (env : JournalEnv) (stream : String) : Progress → List JournalRecord → Progress → Prop
  | p, [], q => p = q
  | p, record :: rest, q => ∃ latest,
      Intact env stream p.expectedSequence p.previous record ∧
      advanceTaskRevision p.latest record.event = .ok latest ∧
      Follows env stream ⟨some record.eventHash, p.expectedSequence + 1, latest⟩ rest q

variable {env : JournalEnv} {stream : String} {p q : Progress} {records : List JournalRecord}
  {v : Verification} {row : StoredRow} {record : JournalRecord} {rows : List StoredRow}

theorem follows_append {l r : List JournalRecord} : Follows env stream p (l ++ r) q ↔
      ∃ m, Follows env stream p l m ∧ Follows env stream m r q := by
  induction l generalizing p with
  | nil => simp [Follows]
  | cons record l ih =>
      simp only [List.cons_append, Follows, ih]
      constructor
      · rintro ⟨latest, h1, h2, m, h3, h4⟩
        exact ⟨m, ⟨latest, h1, h2, h3⟩, h4⟩
      · rintro ⟨m, ⟨latest, h1, h2, h3⟩, h4⟩
        exact ⟨latest, h1, h2, m, h3, h4⟩

theorem Follows.next (h : Follows env stream p records q) :
    q.expectedSequence = p.expectedSequence + records.length := by
  induction records generalizing p with
  | nil => rw [← show p = q from h]; rfl
  | cons record rest ih =>
      obtain ⟨latest, _, _, h⟩ := h
      have e := ih h
      simp only [List.length_cons] at e ⊢
      omega

/-- The identities of the events. -/
def eventIds (records : List JournalRecord) : List String :=
  records.filterMap fun record => stringField record.event "event_id"

theorem eventIds_cons (record : JournalRecord) (rest : List JournalRecord) :
    eventIds (record :: rest) = (stringField record.event "event_id").toList ++ eventIds rest := by
  unfold eventIds
  cases h : stringField record.event "event_id" <;> simp [h]

/-- **The loop over loaded records** also wants every event identity to be new. -/
theorem verifyLoadedRecords_ok {seen : List String} : verifyLoadedRecords env v p seen records = .ok q ↔
      Follows env v.streamId p records q ∧ (eventIds records).Nodup ∧
        ∀ id ∈ eventIds records, id ∉ seen := by
  induction records generalizing p seen with
  | nil => simp [verifyLoadedRecords, Follows, eventIds]
  | cons record rest ih =>
      have hstep : ∀ p', verifyLoadedRecord env v p seen record rest = .ok p' ↔
          ((stringField record.event "event_id").any seen.contains = false) ∧
          Intact env v.streamId p.expectedSequence p.previous record ∧
          ∃ latest, advanceTaskRevision p.latest record.event = .ok latest ∧
            p' = ⟨some record.eventHash, p.expectedSequence + 1, latest⟩ := by
        intro p'
        unfold verifyLoadedRecord
        simp only [bind_eq_ok', exists_unit, rejectIf_ok, verifyOneRecord_ok, mapError_eq_ok]
        constructor
        · rintro ⟨hnew, _, ⟨rfl, _, hintact⟩, latest, hlatest, e⟩
          exact ⟨hnew, hintact, latest, hlatest, (Except.ok.inj e).symm⟩
        · rintro ⟨hnew, hintact, latest, hlatest, rfl⟩
          refine ⟨hnew, record.eventHash, ⟨rfl, ?_, hintact⟩, latest, hlatest, rfl⟩
          simp [hintact.sequence]
      rw [verifyLoadedRecords, bind_eq_ok']
      simp only [hstep, ih, Follows]
      rw [eventIds_cons]
      cases hid : stringField record.event "event_id" with
      | none =>
          simp only [Option.any_none, Option.toList_none, List.nil_append, true_and]
          constructor
          · rintro ⟨p', ⟨hintact, latest, hlatest, rfl⟩, hfollows, hnodup, hnew⟩
            exact ⟨⟨latest, hintact, hlatest, hfollows⟩, hnodup, hnew⟩
          · rintro ⟨⟨latest, hintact, hlatest, hfollows⟩, hnodup, hnew⟩
            exact ⟨_, ⟨hintact, latest, hlatest, rfl⟩, hfollows, hnodup, hnew⟩
      | some id =>
          simp only [Option.any_some, List.contains_eq_mem, decide_eq_false_iff_not,
            Option.toList_some, List.singleton_append, List.nodup_cons, List.mem_cons, not_or,
            forall_eq_or_imp]
          constructor
          · rintro ⟨p', ⟨hseen, hintact, latest, hlatest, rfl⟩, hfollows, hnodup, hnew⟩
            exact ⟨⟨latest, hintact, hlatest, hfollows⟩, ⟨fun hmem => (hnew id hmem).1 rfl, hnodup⟩,
              hseen, fun other hmem => (hnew other hmem).2⟩
          · rintro ⟨⟨latest, hintact, hlatest, hfollows⟩, ⟨hfresh, hnodup⟩, hseen, hnew⟩
            refine ⟨_, ⟨hseen, hintact, latest, hlatest, rfl⟩, hfollows, hnodup, fun other hmem =>
              ⟨fun e => hfresh (e ▸ hmem), hnew other hmem⟩⟩

/-! ## 2. The end of a verification -/

/-- The loop ends with a head, the one the checkpoint names if there is one. -/
def EndsWell (checkpoint : Option CheckpointExpectation) (p : Progress) : Prop :=
  ∃ head, p.previous = some head ∧ ∀ c, checkpoint = some c → c.eventHash = head

theorem finishVerification_valid_iff :
    (finishVerification v p).valid = true ↔ EndsWell v.checkpoint p := by
  unfold finishVerification EndsWell
  cases hp : p.previous with
  | none => simp [failure]
  | some head =>
      cases hc : v.checkpoint with
      | none => simp
      | some c =>
          by_cases e : c.eventHash = head
          · simp [e]
          · simp [e, failure]

theorem requireThrough_valid_iff {through : Option Nat} :
    (requireThrough v through (finishVerification v p)).valid = true ↔
      EndsWell v.checkpoint p ∧ ∀ k, through = some k → p.expectedSequence - 1 = k := by
  rw [← finishVerification_valid_iff]
  cases through with
  | none => simp [requireThrough]
  | some k =>
      have hto : (finishVerification v p).valid = true →
          (finishVerification v p).toSequence = p.expectedSequence - 1 := by
        intro h
        obtain ⟨head, hhead, hcheck⟩ := finishVerification_valid_iff.mp h
        unfold finishVerification at h ⊢
        rw [hhead] at h ⊢
        simp only at h ⊢
        split at h
        · cases h
        · next hmatch => rw [if_neg hmatch]
      unfold requireThrough
      cases hv : (finishVerification v p).valid with
      | false => simp [hv]
      | true =>
          by_cases e : p.expectedSequence - 1 = k
          · simp [hto hv, e, hv]
          · simp [hto hv, e, failure]

/-- The request of a verification is well formed. -/
structure Requested (env : JournalEnv) (stream : String)
    (checkpoint : Option CheckpointExpectation) (verifiedAt : String) : Prop where
  stream : validateStreamId stream = .ok ()
  time : validateTimestamp env.rfc3339 verifiedAt = .ok ()
  checkpoint : validateCheckpoint checkpoint = .ok ()

theorem accepts_error {error : Error} : accepts (.error error) = false := rfl

/-- Nothing is accepted when one of the checks before the loop fails. -/
theorem accepts_bind_unit {check : Result Unit} {f : Unit → Result VerificationResult} :
    accepts (check >>= f) = true ↔ check = .ok () ∧ accepts (f ()) = true := by
  cases check with
  | error e =>
      simp only [reduceCtorEq, false_and, iff_false]
      show ¬accepts (.error e) = true
      rw [accepts_error]
      exact Bool.false_ne_true
  | ok u => exact ⟨fun h => ⟨rfl, h⟩, fun h => h.2⟩

/-- **Accepting a list of records.** -/
theorem accepts_verifyRecords {checkpoint : Option CheckpointExpectation} {verifiedAt : String} :
    accepts (verifyRecords env records stream checkpoint verifiedAt) = true ↔
      Requested env stream checkpoint verifiedAt ∧
        ∃ q, Follows env stream .start records q ∧ (eventIds records).Nodup ∧ EndsWell checkpoint q := by
  unfold verifyRecords
  rw [accepts_bind_unit, accepts_bind_unit, accepts_bind_unit]
  dsimp only
  generalize hverdict : accepts _ = verdict
  have hloop : verdict = true ↔
      ∃ q, Follows env stream .start records q ∧ (eventIds records).Nodup ∧
        EndsWell checkpoint q := by
    rw [← hverdict]
    cases h : verifyLoadedRecords env ⟨stream, checkpoint, verifiedAt⟩ .start [] records with
    | error result =>
        have hinvalid := reports_verifyLoadedRecords result h
        simp only
        constructor
        · intro ha
          rw [show accepts (pure result) = result.valid from rfl, hinvalid] at ha
          cases ha
        · rintro ⟨q, hfollows, hnodup, _⟩
          have hok : verifyLoadedRecords env ⟨stream, checkpoint, verifiedAt⟩ .start [] records =
              .ok q := verifyLoadedRecords_ok.mpr ⟨hfollows, hnodup, fun _ _ => List.not_mem_nil⟩
          rw [h] at hok
          cases hok
    | ok q =>
        obtain ⟨hfollows, hnodup, _⟩ := verifyLoadedRecords_ok.mp h
        simp only
        constructor
        · intro ha
          exact ⟨q, hfollows, hnodup, finishVerification_valid_iff.mp ha⟩
        · rintro ⟨q', hfollows', _, hend⟩
          have hok : verifyLoadedRecords env ⟨stream, checkpoint, verifiedAt⟩ .start [] records =
              .ok q' := verifyLoadedRecords_ok.mpr ⟨hfollows', hnodup, fun _ _ => List.not_mem_nil⟩
          rw [h] at hok
          obtain rfl : q = q' := Except.ok.inj hok
          exact finishVerification_valid_iff.mpr hend
  constructor
  · rintro ⟨h1, h2, h3, h4⟩
    exact ⟨⟨h1, h2, h3⟩, hloop.mp h4⟩
  · rintro ⟨⟨h1, h2, h3⟩, h4⟩
    exact ⟨h1, h2, h3, hloop.mpr h4⟩

/-! ## 3. Columns -/

/-- Every index column of the row holds what its event says; a missing identity, Task, time or type
    is the empty text. -/
def Indexed (row : StoredRow) (event : Json) : Prop :=
  row.eventId = .text ((stringField event "event_id").getD "") ∧
    row.taskId = .text ((stringField event "task_id").getD "") ∧
    row.timestamp = .text ((stringField event "timestamp").getD "") ∧
    row.eventType = .text ((stringField event "event_type").getD "") ∧
    row.semanticProgramHash = .ofOption (stringField event "semantic_program_hash") ∧
    row.irVersion = .ofOption (stringField event "ir_version") ∧
    row.registrySnapshotId = .ofOption (stringField event "registry_snapshot_id") ∧
    row.nodeId = .ofOption (stringField event "step_id") ∧
    row.executionBindingId = .ofOption (stringField event "execution_binding_id") ∧
    row.providerId = .ofOption (stringField event "provider_id") ∧
    row.status = .ofOption (stringField event "status")

theorem boundedRowText_ok {cell : Cell} {s : String} :
    boundedRowText store cell = .ok s ↔ cell = .text s ∧ boundedText s = true := by
  cases cell with
  | text t =>
      by_cases h : maxEventBytes < t.utf8ByteSize
      · simp only [boundedRowText, if_pos h, reduceCtorEq, Cell.text.injEq, false_iff]
        rintro ⟨rfl, hb⟩
        have := of_decide_eq_true hb
        omega
      · simp only [boundedRowText, if_neg h, Except.ok.injEq, Cell.text.injEq]
        constructor
        · rintro rfl
          exact ⟨rfl, decide_eq_true (Nat.le_of_not_lt h)⟩
        · exact fun h => h.1
  | _ => simp [boundedRowText]

theorem boundedNullableRowText_ok {cell : Cell} {o : Option String} :
    boundedNullableRowText store cell = .ok o ↔
      cell = .ofOption o ∧ o.all boundedText = true := by
  cases cell with
  | null => cases o <;> simp [boundedNullableRowText, Cell.ofOption]
  | text t =>
      simp only [boundedNullableRowText, map_eq_ok, boundedRowText_ok]
      cases o with
      | none => simp [Cell.ofOption]
      | some s =>
          simp only [Cell.text.injEq, Option.some.injEq, Cell.ofOption, Option.all_some]
          constructor
          · rintro ⟨_, ⟨rfl, hb⟩, rfl⟩
            exact ⟨rfl, hb⟩
          · rintro ⟨rfl, hb⟩
            exact ⟨t, ⟨rfl, hb⟩, rfl⟩
  | integer n => cases o <;> simp [boundedNullableRowText, Cell.ofOption]
  | other b => cases o <;> simp [boundedNullableRowText, Cell.ofOption]

theorem boundedText_getD {event : Json} {key : String} (h : withinShapeBounds event = true) :
    boundedText ((stringField event key).getD "") = true := by
  have hall : (stringField event key).all boundedText = true := boundedText_field h
  cases hs : stringField event key with
  | none => rfl
  | some s =>
      rw [hs] at hall
      exact hall

/-- **Reading the index columns and comparing them is comparing the cells**, for an event within its
    bounds. -/
theorem journalIndex_matches {event : Json} (h : withinShapeBounds event = true) :
    (∃ index, journalIndex store row = .ok index ∧ index.matches event = true) ↔ Indexed row event := by
  unfold journalIndex Indexed
  simp only [bind_eq_ok', boundedRowText_ok, boundedNullableRowText_ok]
  constructor
  · rintro ⟨index, ⟨_, h1, _, h2, _, h3, _, h4, _, h5, _, h6, _, h7, _, h8, _, h9, _, h10, _, h11, e⟩,
      hmatches⟩
    obtain rfl := (Except.ok.inj e).symm
    simp only [JournalIndex.matches, Bool.and_eq_true, decide_eq_true_eq] at hmatches
    obtain ⟨⟨⟨⟨⟨⟨⟨⟨⟨⟨rfl, rfl⟩, rfl⟩, rfl⟩, rfl⟩, rfl⟩, rfl⟩, rfl⟩, rfl⟩, rfl⟩, rfl⟩ := hmatches
    exact ⟨h1.1, h2.1, h3.1, h4.1, h5.1, h6.1, h7.1, h8.1, h9.1, h10.1, h11.1⟩
  · rintro ⟨h1, h2, h3, h4, h5, h6, h7, h8, h9, h10, h11⟩
    exact ⟨_, ⟨_, ⟨h1, boundedText_getD h⟩, _, ⟨h2, boundedText_getD h⟩, _,
      ⟨h3, boundedText_getD h⟩, _, ⟨h4, boundedText_getD h⟩, _, ⟨h5, boundedText_field h⟩, _,
      ⟨h6, boundedText_field h⟩, _, ⟨h7, boundedText_field h⟩, _, ⟨h8, boundedText_field h⟩, _,
      ⟨h9, boundedText_field h⟩, _, ⟨h10, boundedText_field h⟩, _, ⟨h11, boundedText_field h⟩, rfl⟩,
      by simp [JournalIndex.matches]⟩

/-! ## 4. The loop over rows -/

theorem intact_shape {sequence : Nat} {previous : Option String}
    (h : Intact env stream sequence previous record) : withinShapeBounds record.event = true :=
  (validateEvent_ok env h.valid).2.1

/-- **One row of the table.** -/
theorem verifyRow_ok : verifyRow store v p row = .ok q ↔ ∃ record, rowToRecord store row = .ok record ∧
      Indexed row record.event ∧ Follows store.toJournalEnv v.streamId p [record] q := by
  unfold verifyRow loadRow
  simp only [bind_eq_ok', exists_unit, rejectIf_ok, mapError_eq_ok, verifyOneRecord_ok,
    Bool.not_eq_false', Follows]
  constructor
  · rintro ⟨⟨record, index⟩, ⟨_, hrecord, _, hindex, e⟩, _, ⟨rfl, _, hintact⟩, hmatches, latest,
      hlatest, hq⟩
    obtain ⟨rfl, rfl⟩ := Prod.mk.inj (Except.ok.inj e)
    exact ⟨_, hrecord, (journalIndex_matches (intact_shape hintact)).mp ⟨_, hindex, hmatches⟩, latest,
      hintact, hlatest, Except.ok.inj hq⟩
  · rintro ⟨record, hrecord, hindexed, latest, hintact, hlatest, rfl⟩
    obtain ⟨index, hindex, hmatches⟩ := (journalIndex_matches (intact_shape hintact)).mpr hindexed
    exact ⟨(record, index), ⟨record, hrecord, index, hindex, rfl⟩, record.eventHash,
      ⟨rfl, trivial, hintact⟩, hmatches, latest, hlatest, rfl⟩

/-- **The loop over rows** also wants every row to be read and its index columns to repeat its
    event. -/
theorem verifyRows_ok :
    verifyRows store v p rows = .ok q ↔ ∃ records, rows.mapM (rowToRecord store) = .ok records ∧
      List.Forall₂ (fun row record => Indexed row record.event) rows records ∧
      Follows store.toJournalEnv v.streamId p records q := by
  induction rows generalizing p with
  | nil =>
      simp only [verifyRows, List.forall₂_nil_left_iff]
      constructor
      · intro h
        exact ⟨[], rfl, rfl, Except.ok.inj h⟩
      · rintro ⟨_, _, rfl, h⟩
        exact congrArg Except.ok h
  | cons row rest ih =>
      rw [verifyRows, bind_eq_ok']
      simp only [verifyRow_ok, ih, mapM_ok]
      constructor
      · rintro ⟨m, ⟨record, hrecord, hindexed, hfirst⟩, records, hall, hcolumns, hrest⟩
        exact ⟨record :: records, .cons hrecord hall, .cons hindexed hcolumns,
          follows_append.mpr ⟨m, hfirst, hrest⟩⟩
      · rintro ⟨_, hall, hcolumns, hfollows⟩
        obtain ⟨record, records, hrecord, hrest, rfl⟩ := List.forall₂_cons_left_iff.mp hall
        obtain ⟨hindexed, hcolumns⟩ := List.forall₂_cons.mp hcolumns
        obtain ⟨m, hfirst, hfollows⟩ := follows_append (l := [record]).mp hfollows
        exact ⟨m, ⟨record, hrecord, hindexed, hfirst⟩, records, hrest, hcolumns, hfollows⟩

/-- Whatever the loop over rows ends with is no acceptance. -/
theorem verifyRows_refuses :
    FailsWith (fun result => accepts result = false) (verifyRows store v p rows) := by
  have hreport : ∀ (p : Progress) (e : RowError), accepts (rowReport v p e) = false := by
    intro p e
    cases e <;> rfl
  induction rows generalizing p with
  | nil => exact failsWith_ok
  | cons row rest ih =>
      rw [verifyRows]
      refine failsWith_bind ?_ fun _ => ih
      refine failsWith_bind (failsWith_mapError (hreport p)) fun loaded => ?_
      refine failsWith_bind ?_ fun _ => ?_
      · intro result h
        cases hone : verifyOneRecord store.toJournalEnv v loaded.1 p.expectedSequence p.previous
            false with
        | error failed =>
            rw [hone] at h
            rw [← Except.error.inj h]
            exact reports_verifyOneRecord failed hone
        | ok computed =>
            rw [hone] at h
            cases h
      · refine failsWith_bind (failsWith_rejectIf rfl) fun _ => ?_
        exact failsWith_bind (failsWith_mapError fun _ => rfl) fun _ => failsWith_ok

/-- **Accepting the rows of a table.** -/
theorem accepts_verifyStream {through : Option Nat}
    {checkpoint : Option CheckpointExpectation} {verifiedAt : String} :
    accepts (verifyStream store rows stream through checkpoint verifiedAt) = true ↔
      Requested store.toJournalEnv stream checkpoint verifiedAt ∧ (∀ k, through = some k → k < 2 ^ 63) ∧
      ∃ records q, (rowsThrough store rows stream through).mapM (rowToRecord store) = .ok records ∧
        List.Forall₂ (fun row record => Indexed row record.event)
          (rowsThrough store rows stream through) records ∧
        Follows store.toJournalEnv stream .start records q ∧ EndsWell checkpoint q ∧
        ∀ k, through = some k → q.expectedSequence - 1 = k := by
  unfold verifyStream
  rw [accepts_bind_unit, accepts_bind_unit, accepts_bind_unit, accepts_bind_unit, rejectIf_ok]
  have hrange : (through.any fun upper => decide (2 ^ 63 ≤ upper)) = false ↔
      ∀ k, through = some k → k < 2 ^ 63 := by
    cases through <;> simp
  dsimp only
  generalize hverdict : accepts _ = verdict
  have hloop : verdict = true ↔
      ∃ q, verifyRows store ⟨stream, checkpoint, verifiedAt⟩ .start
        (rowsThrough store rows stream through) = .ok q ∧ EndsWell checkpoint q ∧
        ∀ k, through = some k → q.expectedSequence - 1 = k := by
    rw [← hverdict]
    cases h : verifyRows store ⟨stream, checkpoint, verifiedAt⟩ .start
        (rowsThrough store rows stream through) with
    | error result => simp [verifyRows_refuses result h]
    | ok q =>
        simp only [Except.ok.injEq, exists_eq_left']
        exact requireThrough_valid_iff
  rw [hrange]
  constructor
  · rintro ⟨h1, h2, h3, h4, h5⟩
    obtain ⟨q, hq, hend, hto⟩ := hloop.mp h5
    obtain ⟨records, hload, hcolumns, hfollows⟩ := verifyRows_ok.mp hq
    exact ⟨⟨h1, h2, h3⟩, h4, records, q, hload, hcolumns, hfollows, hend, hto⟩
  · rintro ⟨⟨h1, h2, h3⟩, h4, records, q, hload, hcolumns, hfollows, hend, hto⟩
    exact ⟨h1, h2, h3, h4, hloop.mpr
      ⟨q, verifyRows_ok.mpr ⟨records, hload, hcolumns, hfollows⟩, hend, hto⟩⟩

/-! ## 5. The order of a table -/

section Table

variable (table : EventTable store) (stream : String)

/-- The sequence numbers of a stream rise. -/
theorem EventTable.rising :
    letI := store.order
    (orderedRows store table.rows stream).Pairwise fun a b => a.sequence < b.sequence := by
  let := store.order
  have hle := sortOn_pairwise StoredRow.sequence
    (table.rows.filter fun row => row.streamId = .text stream)
  have hne : (sortOn StoredRow.sequence
      (table.rows.filter fun row => row.streamId = .text stream)).Pairwise
      fun a b => a.sequence ≠ b.sequence := by
    refine (List.Perm.pairwise_iff (fun h => Ne.symm h) (sortOn_perm _ _)).mpr ?_
    refine (table.streamKey.sublist List.filter_sublist).imp_of_mem fun {a b} ha hb h e => h ⟨?_, e⟩
    have ha := (List.mem_filter.mp ha).2
    have hb := (List.mem_filter.mp hb).2
    exact (of_decide_eq_true ha).trans (of_decide_eq_true hb).symm
  exact List.Pairwise.imp (fun h => lt_of_le_of_ne h.1 h.2) (hle.and hne)

/-- A row of the ordered stream is a row of the table. -/
theorem mem_orderedRows {rows : List StoredRow} {row : StoredRow}
    (h : row ∈ orderedRows store rows stream) : row ∈ rows := by
  let := store.order
  exact (List.mem_filter.mp ((sortOn_perm _ _).mem_iff.mp h)).1

theorem rowsThrough_none (rows : List StoredRow) :
    rowsThrough store rows stream none = orderedRows store rows stream := by
  unfold rowsThrough orderedRows
  simp

theorem EventTable.rowsThrough_some (k : Nat) :
    letI := store.order
    rowsThrough store table.rows stream (some k) =
      (orderedRows store table.rows stream).filter fun row => row.sequence ≤ .integer k := by
  let := store.order
  exact sortOn_filter _ (table.rising stream)

theorem EventTable.rowsAfter_eq (k : Nat) :
    letI := store.order
    rowsAfter store table.rows stream k =
      (orderedRows store table.rows stream).filter fun row => .integer k < row.sequence := by
  let := store.order
  exact sortOn_filter _ (table.rising stream)

/-- No row stands before the first cursor. -/
theorem EventTable.rowsAfter_zero :
    rowsAfter store table.rows stream 0 = orderedRows store table.rows stream := by
  let := store.order
  rw [table.rowsAfter_eq stream 0]
  refine List.filter_eq_self.mpr fun row hrow => decide_eq_true ?_
  have hone := table.positive row (mem_orderedRows stream hrow)
  have hle : (Cell.integer 0) ≤ .integer 1 := (store.integers 0 1).mpr (by omega)
  have hnot : ¬(Cell.integer 1) ≤ .integer 0 := fun h => by
    have := (store.integers 1 0).mp h
    omega
  exact lt_of_lt_of_le (lt_of_le_not_ge hle hnot) hone

end Table

/-- A row that is read has the sequence number of its record. -/
theorem rowToRecord_sequence
    (h : rowToRecord store row = .ok record) : row.sequence = .integer record.sequence := by
  unfold rowToRecord at h
  simp only [bind_eq_ok', exists_unit, rejectIf_ok, decide_eq_false_iff_not] at h
  obtain ⟨n, hn, _, _, _, _, _, _, _, _, hpos, _, _, _, _, e⟩ := h
  have hcell : row.sequence = .integer n := by
    cases hc : row.sequence with
    | integer m =>
        rw [hc] at hn
        rw [Except.ok.inj hn]
    | _ => rw [hc] at hn; cases hn
  rw [hcell, ← Except.ok.inj e]
  simp only [Cell.integer.injEq]
  omega

/-! ## 6. Prefixes -/

theorem Follows.previous_concat (h : Follows env stream p (records ++ [record]) q) :
    record.sequence = p.expectedSequence + records.length ∧ q.previous = some record.eventHash := by
  obtain ⟨m, hm, latest, hintact, _, rfl⟩ := follows_append.mp h
  exact ⟨hintact.sequence.trans hm.next, rfl⟩

/-- A record that follows has a sequence number in the safe range. -/
theorem Follows.safe
    (h : Follows env stream p (records ++ [record]) q) : record.sequence ≤ maxSafeJsonInteger := by
  obtain ⟨_, _, _, hintact, _, _⟩ := follows_append.mp h
  exact (hashRecord_ok hintact.hash).2.1

/-- The `k`-th element of a list, with those before it and behind it. -/
theorem split_at {α : Type} {l : List α} {k : Nat} (h : 1 ≤ k) (hk : k ≤ l.length) :
    ∃ front a back, l = front ++ a :: back ∧ front.length + 1 = k := by
  have hlt : k - 1 < l.length := by omega
  refine ⟨l.take (k - 1), l[k - 1], l.drop k, ?_, ?_⟩
  · have hdrop := List.drop_eq_getElem_cons hlt
    rw [show k - 1 + 1 = k by omega] at hdrop
    rw [← hdrop, List.take_append_drop]
  · rw [List.length_take]
    omega

/-- The checkpoint, if there is one, names the hash of the `k`-th record of the stream. -/
def NamesRecord (store : JournalStore) (rows : List StoredRow) (stream : String) (k : Nat)
    (checkpoint : Option CheckpointExpectation) : Prop :=
  ∀ c, checkpoint = some c → ∃ records record, loadedRecords store rows stream = .ok records ∧
    records[k - 1]? = some record ∧ c.eventHash = record.eventHash

/-- **Every prefix of a verified table verifies**, against no checkpoint or one of its own head. -/
theorem EventTable.prefix_accepted (table : EventTable store)
    {checkpoint : Option CheckpointExpectation} {verifiedAt : String}
    (h : accepts (verifyStream store table.rows stream none checkpoint verifiedAt) = true) {k : Nat}
    (hk : 1 ≤ k) (hn : k ≤ (orderedRows store table.rows stream).length)
    {other : Option CheckpointExpectation} (hother : validateCheckpoint other = .ok ())
    (hnames : NamesRecord store table.rows stream k other) {later : String}
    (hlater : validateTimestamp store.rfc3339 later = .ok ()) :
    accepts (verifyStream store table.rows stream (some k) other later) = true := by
  let := store.order
  obtain ⟨hrequest, _, records, q, hload, hcolumns, hfollows, _, _⟩ := accepts_verifyStream.mp h
  rw [rowsThrough_none] at hload hcolumns
  obtain ⟨front, row, back, hrows, hfront⟩ := split_at hk hn
  have hloaded := hload
  rw [hrows, ← List.singleton_append, ← List.append_assoc, mapM_append_ok] at hload
  obtain ⟨before, after, hbefore, _, rfl⟩ := hload
  obtain ⟨first, last, hfirst, hlast, rfl⟩ := mapM_append_ok.mp hbefore
  obtain ⟨record, _, hrecord, hnil, rfl⟩ := List.forall₂_cons_left_iff.mp (mapM_ok.mp hlast)
  obtain rfl := List.forall₂_nil_left_iff.mp hnil
  have hlength := (mapM_ok.mp hfirst).length_eq
  obtain ⟨m, hstart, _⟩ := follows_append.mp hfollows
  obtain ⟨hsequence, hprevious⟩ := hstart.previous_concat
  have hsequence : record.sequence = k := by
    rw [hsequence, show Progress.start.expectedSequence = 1 from rfl]
    omega
  have hsafe := hstart.safe
  unfold maxSafeJsonInteger at hsafe
  -- the rows of the prefix are those up to the row of the `k`-th record
  have hcell := rowToRecord_sequence hrecord
  rw [hsequence] at hcell
  have hthrough : rowsThrough store table.rows stream (some k) = front ++ [row] := by
    have hrising := table.rising stream
    rw [table.rowsThrough_some stream k, hrows, ← hcell]
    rw [hrows] at hrising
    exact filter_upTo hrising
  have hcolumns : List.Forall₂ (fun row record => Indexed row record.event) (front ++ [row])
      (first ++ [record]) := by
    have htake := List.forall₂_take k hcolumns
    rwa [hrows, ← List.singleton_append, ← List.append_assoc, List.take_left' (by simp [hfront]),
      List.take_left' (by simp [← hlength, hfront])] at htake
  refine accepts_verifyStream.mpr ⟨⟨hrequest.stream, hlater, hother⟩, ?_, first ++ [record], m,
    by rw [hthrough]; exact hbefore, by rw [hthrough]; exact hcolumns, hstart,
    ⟨record.eventHash, hprevious, ?_⟩, ?_⟩
  · rintro _ ⟨⟩
    omega
  · intro c hc
    obtain ⟨all, found, hall, hfound, e⟩ := hnames c hc
    rw [loadedRecords, hloaded] at hall
    obtain rfl := (Except.ok.inj hall).symm
    have hat : k - 1 = first.length := by omega
    rw [hat, List.append_assoc, List.getElem?_append_right (Nat.le_refl _), Nat.sub_self,
      List.singleton_append, List.getElem?_cons_zero, Option.some.injEq] at hfound
    rw [e, hfound]
  · rintro _ ⟨⟩
    have hnext := hstart.next
    rw [show Progress.start.expectedSequence = 1 from rfl, List.length_append,
      List.length_singleton] at hnext
    omega

/-! ## 7. Pages -/

/-- One page is one page of the rows after the cursor. -/
theorem fetchPage_ok {limit : Nat} {after : Option Nat} {page : List JournalRecord × Option Nat} :
    fetchPage store rows stream limit after = .ok page ↔
      validateStreamId stream = .ok () ∧ (1 ≤ limit ∧ limit ≤ maxPageSize) ∧ after.getD 0 < 2 ^ 63 ∧
        readPage (rowToRecord store) JournalRecord.sequence limit
          (rowsAfter store rows stream (after.getD 0)) = .ok page := by
  unfold fetchPage listEvents readPage
  simp only [map_eq_ok, bind_eq_ok', exists_unit, rejectIf_ok, mapError_eq_ok,
    Bool.or_eq_false_iff, decide_eq_false_iff_not]
  constructor
  · rintro ⟨found, ⟨hid, hlimit, hafter, records, hrecords, hpage⟩, rfl⟩
    refine ⟨hid, by omega, by omega, records, hrecords, ?_⟩
    split at hpage
    · next hmore =>
      rw [if_pos hmore, ← Except.ok.inj hpage]
      rfl
    · next hmore =>
      rw [if_neg hmore, ← Except.ok.inj hpage]
      rfl
  · rintro ⟨hid, hlimit, hafter, records, hrecords, hpage⟩
    refine ⟨⟨page.1, page.2⟩, ⟨hid, by omega, by omega, records, hrecords, ?_⟩, rfl⟩
    split at hpage
    · next hmore =>
      rw [if_pos hmore, ← Except.ok.inj hpage]
      rfl
    · next hmore =>
      rw [if_neg hmore, ← Except.ok.inj hpage]
      rfl

/-- The rows after the sequence number of a row of the stream are those behind the row. -/
theorem EventTable.rowsAfter_behind (table : EventTable store) {after : Nat} {front back : List StoredRow}
    (h : rowsAfter store table.rows stream after = front ++ row :: back)
    (hrecord : rowToRecord store row = .ok record) :
    rowsAfter store table.rows stream record.sequence = back := by
  let := store.order
  have hrising := table.rising stream
  have hcell := rowToRecord_sequence hrecord
  rw [table.rowsAfter_eq stream after] at h
  have habove : Cell.integer after < row.sequence := by
    have hmem : row ∈ (orderedRows store table.rows stream).filter fun row =>
        Cell.integer after < row.sequence := by
      rw [h]
      simp
    exact of_decide_eq_true (List.mem_filter.mp hmem).2
  -- what stands above the row stands above the cursor as well
  have hboth : (orderedRows store table.rows stream).filter (fun other =>
      row.sequence < other.sequence) = ((orderedRows store table.rows stream).filter fun other =>
        Cell.integer after < other.sequence).filter fun other => row.sequence < other.sequence := by
    rw [List.filter_filter]
    refine List.filter_congr fun other _ => ?_
    by_cases hlt : row.sequence < other.sequence
    · simp [hlt, lt_trans habove hlt]
    · simp [hlt]
  rw [table.rowsAfter_eq stream record.sequence, ← hcell, hboth, h]
  refine filter_above ?_
  rw [← h]
  exact hrising.sublist List.filter_sublist

/-- **The pages of a stream are the whole stream**, for every limit that is not refused. -/
theorem EventTable.pages_iff (table : EventTable store) {limit : Nat} :
    Pages (fetchPage store table.rows stream limit) none records ↔
      (validateStreamId stream = .ok () ∧ 1 ≤ limit ∧ limit ≤ maxPageSize) ∧
        loadedRecords store table.rows stream = .ok records := by
  by_cases hguard : validateStreamId stream = .ok () ∧ 1 ≤ limit ∧ limit ≤ maxPageSize
  · let good := fun after : Option Nat => after.getD 0 < 2 ^ 63
    have hfetch : ∀ after, good after → ∀ page,
        fetchPage store table.rows stream limit after = .ok page ↔
          readPage (rowToRecord store) JournalRecord.sequence limit
            (rowsAfter store table.rows stream (after.getD 0)) = .ok page := by
      intro after hafter page
      rw [fetchPage_ok]
      exact ⟨fun h => h.2.2.2, fun h => ⟨hguard.1, hguard.2, hafter, h⟩⟩
    have hrest : ∀ after, good after → ∀ front row back record,
        rowsAfter store table.rows stream (after.getD 0) = front ++ row :: back →
        rowToRecord store row = .ok record →
        good (some record.sequence) ∧
          rowsAfter store table.rows stream ((some record.sequence).getD 0) = back := by
      intro after _ front row back record hrows hrecord
      refine ⟨?_, table.rowsAfter_behind hrows hrecord⟩
      have hmem : row ∈ rowsAfter store table.rows stream (after.getD 0) := by
        rw [hrows]
        simp
      let := store.order
      rw [table.rowsAfter_eq stream (after.getD 0)] at hmem
      have htable := mem_orderedRows stream (List.mem_filter.mp hmem).1
      have hnarrow := table.narrow row htable _ (rowToRecord_sequence hrecord)
      show record.sequence < 2 ^ 63
      omega
    have hwalk : Pages (fetchPage store table.rows stream limit) none records ↔ _ :=
      Lib.pages_iff hguard.2.1 hfetch hrest (by decide : good none)
    rw [hwalk]
    simp only [Option.getD_none, table.rowsAfter_zero]
    exact ⟨fun h => ⟨hguard, h⟩, fun h => h.2⟩
  · constructor
    · intro h
      have hpage : ∃ page, fetchPage store table.rows stream limit none = .ok page := by
        cases h with
        | last hpage => exact ⟨_, hpage⟩
        | more hpage _ => exact ⟨_, hpage⟩
      obtain ⟨page, hpage⟩ := hpage
      obtain ⟨hid, hlimit, _⟩ := fetchPage_ok.mp hpage
      exact absurd ⟨hid, hlimit⟩ hguard
    · exact fun h => absurd h.1 hguard

/-! ## 8. The paths agree -/

/-- The key of the table keeps the event identities apart. -/
theorem eventIds_nodup (hkey : rows.Pairwise fun a b => a.eventId = b.eventId → a.eventId = .null)
    (h : List.Forall₂ (fun row record => Indexed row record.event) rows records) :
    (eventIds records).Nodup := by
  induction h with
  | nil => exact List.nodup_nil
  | @cons row record rows rest hrow hrest ih =>
      obtain ⟨hfirst, hothers⟩ := List.pairwise_cons.mp hkey
      rw [eventIds_cons]
      cases hid : stringField record.event "event_id" with
      | none => exact ih hothers
      | some id =>
          rw [Option.toList_some, List.singleton_append, List.nodup_cons]
          refine ⟨fun hmem => ?_, ih hothers⟩
          obtain ⟨other, hother, hsame⟩ := List.mem_filterMap.mp hmem
          obtain ⟨row', hrow', hindexed⟩ := exists_left_of_forall₂ hrest hother
          have hcell := hrow.1
          have hcell' := hindexed.1
          rw [hid, Option.getD_some] at hcell
          rw [hsame, Option.getD_some] at hcell'
          have hnull := hfirst row' hrow' (hcell.trans hcell'.symm)
          rw [hcell] at hnull
          cases hnull

/-- **The verification paths agree.** A stored stream is accepted exactly when its records load, the
    loaded list is accepted and every index column matches its event. With a stream its prefixes are
    accepted, against no checkpoint or one of their own head. And the pages are the stream, for
    every limit from 1 to 256; other limits are refused. -/
theorem verification_paths_agree (store : JournalStore) (table : EventTable store) (stream : String)
    (checkpoint : Option CheckpointExpectation) (verifiedAt : String) :
    (accepts (verifyStream store table.rows stream none checkpoint verifiedAt) = true ↔
      ∃ records, loadedRecords store table.rows stream = .ok records ∧
        accepts (verifyRecords store.toJournalEnv records stream checkpoint verifiedAt) = true ∧
        List.Forall₂ (fun row record => Indexed row record.event)
          (orderedRows store table.rows stream) records) ∧
    (accepts (verifyStream store table.rows stream none checkpoint verifiedAt) = true →
      ∀ k, 1 ≤ k → k ≤ (orderedRows store table.rows stream).length →
      ∀ other later, validateCheckpoint other = .ok () →
        NamesRecord store table.rows stream k other →
        validateTimestamp store.rfc3339 later = .ok () →
        accepts (verifyStream store table.rows stream (some k) other later) = true) ∧
    ∀ limit records, Pages (fetchPage store table.rows stream limit) none records ↔
      (validateStreamId stream = .ok () ∧ 1 ≤ limit ∧ limit ≤ maxPageSize) ∧
        loadedRecords store table.rows stream = .ok records := by
  let := store.order
  refine ⟨?_, fun h k hk hn other later hother hnames hlater =>
    table.prefix_accepted h hk hn hother hnames hlater, fun limit records => table.pages_iff⟩
  rw [accepts_verifyStream, rowsThrough_none]
  simp only [accepts_verifyRecords, loadedRecords]
  constructor
  · rintro ⟨hrequest, _, records, q, hload, hcolumns, hfollows, hend, _⟩
    have hkey : (orderedRows store table.rows stream).Pairwise fun a b =>
        a.eventId = b.eventId → a.eventId = .null := by
      refine (List.Perm.pairwise_iff (fun h e => ?_) (sortOn_perm _ _)).mpr
        (table.eventKey.sublist List.filter_sublist)
      exact e.trans (h e.symm)
    exact ⟨records, hload, ⟨hrequest, q, hfollows, eventIds_nodup hkey hcolumns, hend⟩, hcolumns⟩
  · rintro ⟨records, hload, ⟨hrequest, q, hfollows, _, hend⟩, hcolumns⟩
    refine ⟨hrequest, ?_, records, q, hload, hcolumns, hfollows, hend, ?_⟩
    · rintro _ ⟨⟩
    · rintro _ ⟨⟩

/-! ## 9. A table with one stream -/

/-- SQLite's classes of values, and the order inside each. -/
def Cell.place : Cell → List Int
  | .null => [0]
  | .integer n => [1, n]
  | .text s => 2 :: s.toList.map fun c => (c.toNat : Int)
  | .other bytes => 3 :: bytes.map fun b => (b.toNat : Int)

theorem Cell.place_injective : Function.Injective Cell.place := by
  have hchar : Function.Injective fun c : Char => (c.toNat : Int) := fun a b h =>
    Char.ext (UInt32.toNat_inj.mp (Int.ofNat.inj h))
  have hbyte : Function.Injective fun b : UInt8 => (b.toNat : Int) := fun a b h =>
    UInt8.toNat_inj.mp (Int.ofNat.inj h)
  intro a b h
  cases a <;> cases b <;> simp [Cell.place] at h ⊢
  · exact h
  · exact String.toList_inj.mp (List.map_injective_iff.mpr hchar h)
  · exact List.map_injective_iff.mpr hbyte h

/-- A reader of one text. -/
def sampleParse (text : String) : Option Json :=
  if text = plainText genesisEvent then some genesisEvent else none

theorem sampleParse_genesis : sampleParse (plainText genesisEvent) = some genesisEvent := by
  rw [sampleParse, if_pos rfl]

def sampleStore : JournalStore where
  toJournalEnv := sampleJournal
  parse := sampleParse
  refusal := fun _ => .malformed
  order := LinearOrder.lift' Cell.place Cell.place_injective
  integers := by
    intro m n
    show [1, m] ≤ [1, n] ↔ m ≤ n
    rw [← not_lt, ← not_lt, List.cons_lt_cons_iff, List.cons_lt_cons_iff]
    simp

def genesisStored : StoredRow := storedRow genesisRow (plainText genesisEvent)

theorem genesis_holds : Holds sampleStore genesisStored genesisRow := by
  have hreader : sampleStore.parse = sampleParse := rfl
  have hparse : sampleStore.parse (plainText genesisEvent) = some genesisEvent := by
    rw [hreader, sampleParse_genesis]
  have hsize : (plainText genesisEvent).utf8ByteSize = sampleStore.encodedLength genesisEvent := by
    decide +kernel
  have hevent : genesisRow.event = genesisEvent := rfl
  rw [← hevent] at hparse hsize
  exact holds_storedRow hparse hsize

def sampleTable : EventTable sampleStore where
  rows := [genesisStored]
  eventKey := List.pairwise_singleton _ _
  streamKey := List.pairwise_singleton _ _
  positive := by
    intro row hrow
    rw [List.mem_singleton.mp hrow]
    exact sampleStore.order.le_refl _
  narrow := by
    rintro row hrow n hn
    rw [List.mem_singleton.mp hrow] at hn
    obtain rfl : (1 : Int) = n := Cell.integer.inj hn
    decide

theorem sampleTable_accepted :
    accepts (verifyStream sampleStore sampleTable.rows genesisRow.streamId none none noon) = true := by
  obtain ⟨result, hresult, hvalid⟩ := genesis_chained.verifyWhole
    (List.mem_singleton.mpr (rfl : genesisRow = genesisRow)) (by decide +kernel) (t := noon)
    (by decide +kernel)
  have hstored := verifyStream_holds (.cons genesis_holds .nil) genesisRow.streamId none none noon
  have hverify := hstored.trans hresult
  rw [show sampleTable.rows = [genesisStored] from rfl, hverify]
  exact hvalid

theorem sampleTable_length :
    (orderedRows sampleStore sampleTable.rows genesisRow.streamId).length = 1 := by
  let := sampleStore.order
  rw [orderedRows, (sortOn_perm _ _).length_eq]
  decide

/-- The creation of a Task is accepted by every path. -/
theorem genesis_paths_agree :
    accepts (verifyStream sampleStore sampleTable.rows genesisRow.streamId (some 1) none noon) = true ∧
      ∃ records, Pages (fetchPage sampleStore sampleTable.rows genesisRow.streamId 1) none records ∧
        accepts (verifyRecords sampleJournal records genesisRow.streamId none noon) = true := by
  obtain ⟨haccepts, hstart, hpages⟩ :=
    verification_paths_agree sampleStore sampleTable genesisRow.streamId none noon
  obtain ⟨records, hload, hrecords, _⟩ := haccepts.mp sampleTable_accepted
  refine ⟨hstart sampleTable_accepted 1 (by decide) (by rw [sampleTable_length]) none noon rfl
    (fun c hc => nomatch hc) (by decide +kernel), records, (hpages 1 records).mpr
      ⟨⟨by decide +kernel, by decide, by decide⟩, hload⟩, hrecords⟩

/-- A page of 257 records is refused, so no pages of that size are the stream. -/
theorem large_page_refused :
    0 < 257 ∧ (∃ records, loadedRecords sampleStore sampleTable.rows genesisRow.streamId = .ok records) ∧
      ∀ records, ¬Pages (fetchPage sampleStore sampleTable.rows genesisRow.streamId 257) none records := by
  refine ⟨by decide, ?_, fun records h => ?_⟩
  · obtain ⟨_, _, records, _, hload, _⟩ := accepts_verifyStream.mp sampleTable_accepted
    rw [rowsThrough_none] at hload
    exact ⟨records, hload⟩
  · have hlimit := (sampleTable.pages_iff.mp h).1.2.2
    unfold maxPageSize at hlimit
    omega

end Aios.Provenance.Stored
