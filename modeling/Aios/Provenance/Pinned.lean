/-
  File:      Aios/Provenance/Pinned.lean
  Subject:   THE HASH CHAIN PINS THE WHOLE HISTORY.

  The hash of a record covers the stream, the sequence number, the previous hash (or its absence)
  and the event. Where RFC 8785 and SHA-256 tell the hashed values apart (`Faithful`), two verified
  lists of records with one head are the same list, and a table that verifies against a recorded
  checkpoint holds the rows that were there when it was recorded.
-/
import Aios.Lib.HashChain
import Aios.Lib.Sha256
import Aios.Lib.Spelling
import Aios.Provenance.Chain

namespace Aios.Provenance

open Lib

variable {env : JournalEnv}

/-! ## 1. One record -/

/-- The canonical bytes and their digests tell the given values apart, up to the spelling of
    numbers. No function into 32 bytes does so for all values. -/
structure Faithful (digest : Digest) (views : Set Json) : Prop where
  canonical : ∀ a ∈ views, ∀ b ∈ views, ∀ bytes, digest.canonical a = .ok bytes →
    digest.canonical b = .ok bytes → a.Same b
  sha256 : ∀ a ∈ views, ∀ b ∈ views, ∀ p q, digest.canonical a = .ok p → digest.canonical b = .ok q →
    digest.sha256 (hashDomain ++ p) = digest.sha256 (hashDomain ++ q) → p = q

/-- The value hashed for a record. -/
def JournalRecord.view (record : JournalRecord) : Json :=
  recordView record.streamId record.sequence record.previousEventHash record.event

/-- Views that agree are views of one stream, place and previous hash, and of events that agree. -/
theorem recordView_same {stream stream' : String} {sequence sequence' : Nat}
    {previous previous' : Option String} {event event' : Json}
    (h : (recordView stream sequence previous event).Same
      (recordView stream' sequence' previous' event')) :
    stream = stream' ∧ sequence = sequence' ∧ previous = previous' ∧ event.Same event' := by
  have hmember : ∀ key v w, (recordView stream sequence previous event).get? key = some v →
      (recordView stream' sequence' previous' event').get? key = some w → v.Same w := by
    intro key v w hv hw
    obtain ⟨w', hw', hsame⟩ := h.get? hv
    rw [hw] at hw'
    rw [Option.some.inj hw']
    exact hsame
  have hstream := hmember "stream_id" (.str stream) (.str stream') (by simp [recordView, Json.get?,
    Json.asObj, Json.ofFields]) (by simp [recordView, Json.get?, Json.asObj, Json.ofFields])
  have hsequence := hmember "sequence" (.num (.posInt sequence)) (.num (.posInt sequence'))
    (by simp [recordView, Json.get?, Json.asObj, Json.ofFields])
    (by simp [recordView, Json.get?, Json.asObj, Json.ofFields])
  have hprevious := hmember "previous_event_hash" ((previous.map Json.str).getD .null)
    ((previous'.map Json.str).getD .null)
    (by simp [recordView, Json.get?, Json.asObj, Json.ofFields])
    (by simp [recordView, Json.get?, Json.asObj, Json.ofFields])
  have hevent := hmember "event" event event'
    (by simp [recordView, Json.get?, Json.asObj, Json.ofFields])
    (by simp [recordView, Json.get?, Json.asObj, Json.ofFields])
  refine ⟨?_, ?_, ?_, hevent⟩
  · simpa [Json.Same, Json.plainNumbers] using hstream
  · simpa [Json.Same, Json.plainNumbers, Number.plain] using hsequence
  · -- the absence of a hash is not the text of one
    cases previous with
    | none => cases previous' with
      | none => rfl
      | some hash => simp [Json.Same, Json.plainNumbers] at hprevious
    | some hash => cases previous' with
      | none => simp [Json.Same, Json.plainNumbers] at hprevious
      | some hash' => simpa [Json.Same, Json.plainNumbers] using hprevious

variable {stream : String} {v : Verification} {p : Progress}

/-- An intact record is hashed through its view. -/
theorem Intact.hashed {sequence : Nat} {previous : Option String}
    {record : JournalRecord} (h : Intact env stream sequence previous record) :
    ∃ bytes, env.digest.canonical record.view = .ok bytes ∧
      record.eventHash = env.digest.tagged hashDomain bytes := by
  obtain ⟨hashed, bytes, hhashed, hbytes, hhash⟩ := hashRecord_view h.hash
  obtain ⟨hnone, hnone'⟩ := validateEvent_unhashed env h.valid
  rw [hashedEvent_eq hhashed hnone hnone', ← h.inStream] at hbytes
  exact ⟨bytes, hbytes, hhash⟩

/-- The same record, up to the spelling of numbers in its event. -/
def JournalRecord.Same (a b : JournalRecord) : Prop :=
  a = { b with event := a.event } ∧ a.event.Same b.event

theorem JournalRecord.Same.previous {a b : JournalRecord} (h : a.Same b) :
    a.previousEventHash = b.previousEventHash := by
  rw [h.1]

/-- **Equal hashes, same record.** -/
theorem Intact.same {sequence sequence' : Nat} {previous previous' : Option String}
    {a b : JournalRecord} {views : Set Json} (ha : Intact env stream sequence previous a)
    (hb : Intact env stream sequence' previous' b) (hfaithful : Faithful env.digest views)
    (hav : a.view ∈ views) (hbv : b.view ∈ views) (hhash : a.eventHash = b.eventHash) : a.Same b := by
  obtain ⟨p, hp, hpa⟩ := ha.hashed
  obtain ⟨q, hq, hqb⟩ := hb.hashed
  have hdigest := Digest.tagged_injective (hpa.symm.trans (hhash.trans hqb))
  have hbytes := hfaithful.sha256 _ hav _ hbv p q hp hq hdigest
  rw [← hbytes] at hq
  obtain ⟨hstream, hsequence, hprevious, hevent⟩ :=
    recordView_same (hfaithful.canonical _ hav _ hbv p hp hq)
  refine ⟨?_, hevent⟩
  have hschema := ha.schemaVersion.trans hb.schemaVersion.symm
  have hprofile := ha.hashProfile.trans hb.hashProfile.symm
  cases a
  cases b
  simp only at hstream hsequence hprevious hhash hschema hprofile
  subst hstream hsequence hprevious hhash hschema hprofile
  rfl

/-! ## 2. Lists of records -/

/-- What the loop over loaded records leaves behind. -/
theorem verifyLoadedRecords_linked {p p' : Progress} {seen : List String}
    {records : List JournalRecord} (h : verifyLoadedRecords env v p seen records = .ok p') :
    HashChain.Linked JournalRecord.eventHash JournalRecord.previousEventHash p.previous records ∧
      HashChain.head JournalRecord.eventHash p.previous records = p'.previous ∧
      ∀ record ∈ records, ∃ sequence previous, Intact env v.streamId sequence previous record := by
  induction records generalizing p seen with
  | nil =>
      have e : p = p' := Except.ok.inj h
      rw [← e]
      exact ⟨trivial, rfl, fun _ hr => absurd hr List.not_mem_nil⟩
  | cons record rest ih =>
      rw [verifyLoadedRecords, bind_eq_ok'] at h
      obtain ⟨q, hq, h⟩ := h
      unfold verifyLoadedRecord at hq
      simp only [bind_eq_ok', exists_unit] at hq
      obtain ⟨_, computed, hone, latest, _, hq⟩ := hq
      obtain ⟨hcomputed, _, hintact⟩ := verifyOneRecord_ok.mp hone
      have e := (Except.ok.inj hq).symm
      subst e
      obtain ⟨hlinked, hhead, hall⟩ := ih h
      simp only [hcomputed] at hlinked hhead
      refine ⟨⟨hintact.previous, hlinked⟩, hhead, fun r hr => ?_⟩
      rcases List.mem_cons.mp hr with rfl | hr
      · exact ⟨_, _, hintact⟩
      · exact hall r hr

/-- Every failure reports an invalid result. -/
abbrev Reports {α : Type} (check : Except VerificationResult α) : Prop :=
  FailsWith (fun result => result.valid = false) check

theorem reports_verifyOneRecord {record : JournalRecord} {sequence : Nat}
    {previous : Option String} {later : Bool} :
    Reports (verifyOneRecord env v record sequence previous later) := by
  unfold verifyOneRecord
  iterate 7 refine failsWith_bind (failsWith_rejectIf rfl) fun _ => ?_
  refine failsWith_bind (failsWith_mapError fun _ => rfl) fun _ => ?_
  exact failsWith_bind (failsWith_rejectIf rfl) fun _ => failsWith_ok

theorem reports_verifyLoadedRecords {seen : List String}
    {records : List JournalRecord} : Reports (verifyLoadedRecords env v p seen records) := by
  induction records generalizing p seen with
  | nil => exact failsWith_ok
  | cons record rest ih =>
      rw [verifyLoadedRecords]
      refine failsWith_bind ?_ fun _ => ih
      refine failsWith_bind (failsWith_rejectIf rfl) fun _ => ?_
      refine failsWith_bind reports_verifyOneRecord fun _ => ?_
      exact failsWith_bind (failsWith_mapError fun _ => rfl) fun _ => failsWith_ok

theorem reports_verifyRows {rows : List EventRow} : Reports (verifyRows env v p rows) := by
  induction rows generalizing p with
  | nil => exact failsWith_ok
  | cons row rest ih =>
      rw [verifyRows]
      refine failsWith_bind ?_ fun _ => ih
      refine failsWith_bind (failsWith_rejectIf rfl) fun _ => ?_
      refine failsWith_bind reports_verifyOneRecord fun _ => ?_
      refine failsWith_bind (failsWith_rejectIf rfl) fun _ => ?_
      exact failsWith_bind (failsWith_mapError fun _ => rfl) fun _ => failsWith_ok

theorem finishVerification_valid (h : (finishVerification v p).valid = true) :
    (finishVerification v p).computedHeadHash = p.previous ∧
      (finishVerification v p).toSequence = p.expectedSequence - 1 ∧ p.previous.isSome ∧
      ∀ checkpoint, v.checkpoint = some checkpoint → p.previous = some checkpoint.eventHash := by
  unfold finishVerification at h ⊢
  split at h
  · cases h
  · next head hhead =>
    split at h
    · cases h
    · next hcheck =>
      rw [hhead, if_neg hcheck]
      refine ⟨rfl, rfl, rfl, fun checkpoint e => ?_⟩
      rw [e] at hcheck
      simp at hcheck
      rw [hcheck]

theorem verifyRecords_linked {records : List JournalRecord}
    {checkpoint : Option CheckpointExpectation} {verifiedAt : String} {result : VerificationResult}
    (h : verifyRecords env records stream checkpoint verifiedAt = .ok result)
    (hvalid : result.valid = true) :
    HashChain.Linked JournalRecord.eventHash JournalRecord.previousEventHash none records ∧
      HashChain.head JournalRecord.eventHash none records = result.computedHeadHash ∧
      ∀ record ∈ records, ∃ sequence previous, Intact env stream sequence previous record := by
  unfold verifyRecords at h
  simp only [bind_eq_ok', exists_unit] at h
  obtain ⟨_, _, _, h⟩ := h
  split at h
  · next failed hloop =>
    have e : failed = result := Except.ok.inj h
    have hinvalid := reports_verifyLoadedRecords failed hloop
    rw [e, hvalid] at hinvalid
    cases hinvalid
  · next p hloop =>
    have e : finishVerification _ p = result := Except.ok.inj h
    obtain ⟨hlinked, hhead, hall⟩ := verifyLoadedRecords_linked hloop
    rw [← e] at hvalid
    have hcomputed := (finishVerification_valid hvalid).1
    rw [e] at hcomputed
    exact ⟨hlinked, hhead.trans hcomputed.symm, hall⟩

/-! ## 3. Tables -/

theorem stringField_same {a b : Json} (h : a.Same b) (key : String) :
    stringField a key = stringField b key := by
  have e := congrArg (fun v => (v.get? key).bind Json.asStr) h
  simp only [Json.get?_plainNumbers, Option.bind_map] at e
  have hstr : (Json.asStr ∘ Json.plainNumbers) = Json.asStr := by
    funext v
    exact Json.asStr_plainNumbers v
  rw [hstr] at e
  exact e

/-- The same row, up to the spelling of numbers in its event. -/
def EventRow.Same (a b : EventRow) : Prop := a = { b with event := a.event } ∧ a.event.Same b.event

theorem EventRow.Same.previous {a b : EventRow} (h : a.Same b) :
    a.previousEventHash = b.previousEventHash := by
  rw [h.1]

theorem Linked.intact {row : EventRow}
    {latest : Option (Nat × String)} (h : Linked env stream p row latest) :
    Intact env stream p.expectedSequence p.previous row.record :=
  ⟨h.sequence, h.schemaVersion, h.hashProfile, h.inStream, h.own, h.previous, h.valid, h.genesis,
    h.hashes, h.hash⟩

/-- The index columns are determined by the event. -/
theorem EventRow.same_of_record {a b : EventRow} (h : a.record.Same b.record)
    (ha : indexMatches a = true) (hb : indexMatches b = true) : a.Same b := by
  obtain ⟨hrecord, hevent⟩ := h
  have hfield := stringField_same hevent
  simp only [indexMatches, Bool.and_eq_true, decide_eq_true_eq] at ha hb
  refine ⟨?_, hevent⟩
  cases a
  cases b
  simp only [EventRow.record, JournalRecord.mk.injEq] at hrecord hfield ha hb
  obtain ⟨rfl, rfl, rfl, rfl, rfl, _, rfl⟩ := hrecord
  simp only [ha, hb, hfield]

theorem verifyRows_linked {p p' : Progress} {rows : List EventRow}
    (h : verifyRows env v p rows = .ok p') :
    HashChain.Linked EventRow.eventHash EventRow.previousEventHash p.previous rows ∧
      HashChain.head EventRow.eventHash p.previous rows = p'.previous ∧
      ∀ row ∈ rows, ∃ q latest, Linked env v.streamId q row latest := by
  induction rows generalizing p with
  | nil =>
      have e : p = p' := Except.ok.inj h
      rw [← e]
      exact ⟨trivial, rfl, fun _ hr => absurd hr List.not_mem_nil⟩
  | cons row rest ih =>
      rw [verifyRows, bind_eq_ok'] at h
      obtain ⟨q, hq, h⟩ := h
      obtain ⟨latest, hrow, rfl⟩ := verifyRow_ok.mp hq
      obtain ⟨hlinked, hhead, hall⟩ := ih h
      refine ⟨⟨hrow.previous, hlinked⟩, hhead, fun r hr => ?_⟩
      rcases List.mem_cons.mp hr with rfl | hr
      · exact ⟨p, latest, hrow⟩
      · exact hall r hr

/-- What an accepted stream went through. -/
theorem verifyStream_valid {rows : List EventRow} {through : Option Nat}
    {checkpoint : Option CheckpointExpectation} {verifiedAt : String} {result : VerificationResult}
    (h : verifyStream env rows stream through checkpoint verifiedAt = .ok result)
    (hvalid : result.valid = true) :
    ∃ p, verifyRows env ⟨stream, checkpoint, verifiedAt⟩ .start (selectedRows rows stream through) =
        .ok p ∧ result.computedHeadHash = p.previous ∧ p.previous.isSome ∧
      result.toSequence = p.expectedSequence - 1 ∧
      (∀ c, checkpoint = some c → p.previous = some c.eventHash) := by
  unfold verifyStream at h
  simp only [bind_eq_ok', exists_unit] at h
  obtain ⟨_, _, _, _, h⟩ := h
  split at h
  · next failed hloop =>
    have e : failed = result := Except.ok.inj h
    have hinvalid := reports_verifyRows failed hloop
    rw [e, hvalid] at hinvalid
    cases hinvalid
  · next p hloop =>
    have e : requireThrough _ through (finishVerification _ p) = result := Except.ok.inj h
    have hfinish : finishVerification ⟨stream, checkpoint, verifiedAt⟩ p = result := by
      unfold requireThrough at e
      split at e
      · exact e
      · split at e
        · rw [← e] at hvalid
          cases hvalid
        · exact e
    rw [← hfinish] at hvalid
    obtain ⟨hhead, hto, hsome, hcheck⟩ := finishVerification_valid hvalid
    rw [hfinish] at hhead hto
    exact ⟨p, hloop, hhead, hsome, hto, hcheck⟩

/-- The values hashed for the rows. -/
def rowViews (rows : List EventRow) : Set Json := { v | ∃ row ∈ rows, row.record.view = v }

def recordViews (records : List JournalRecord) : Set Json := { v | ∃ r ∈ records, r.view = v }

/-- **Verified tables with one head hold the same rows of the stream.** -/
theorem verifyRows_pinned {v w : Verification} {p p' : Progress} {rows rows' : List EventRow}
    (hstream : v.streamId = w.streamId) (h : verifyRows env v .start rows = .ok p)
    (h' : verifyRows env w .start rows' = .ok p') (hhead : p.previous = p'.previous)
    (hfaithful : Faithful env.digest (rowViews (rows ++ rows'))) :
    List.Forall₂ EventRow.Same rows rows' := by
  obtain ⟨hlinked, hend, hall⟩ := verifyRows_linked h
  obtain ⟨hlinked', hend', hall'⟩ := verifyRows_linked h'
  refine HashChain.pinned (fun a b hsame => hsame.previous)
    (fun a ha b hb hhash => ?_) hlinked hlinked' ((hend.trans hhead).trans hend'.symm)
  obtain ⟨q, latest, ha'⟩ := hall a ha
  obtain ⟨q', latest', hb'⟩ := hall' b hb
  rw [← hstream] at hb'
  have hrecord := ha'.intact.same hb'.intact hfaithful ⟨a, List.mem_append_left _ ha, rfl⟩
    ⟨b, List.mem_append_right _ hb, rfl⟩ hhash
  exact EventRow.same_of_record hrecord ha'.index hb'.index

/-- **The hash chain pins the whole history.** Two verified lists of records of one stream with one
    head are the same, record by record; and whatever was done to the table, the stream no longer
    verifies against a recorded checkpoint unless its rows up to the checkpoint are those that were
    recorded. -/
theorem history_pinned :
    (∀ (records records' : List JournalRecord) (stream : String)
        (checkpoint checkpoint' : Option CheckpointExpectation) (verifiedAt verifiedAt' : String)
        (result result' : VerificationResult),
      verifyRecords env records stream checkpoint verifiedAt = .ok result → result.valid = true →
      verifyRecords env records' stream checkpoint' verifiedAt' = .ok result' → result'.valid = true →
      result.computedHeadHash = result'.computedHeadHash →
      Faithful env.digest (recordViews (records ++ records')) →
      List.Forall₂ JournalRecord.Same records records') ∧
    (∀ (rows rows' : List EventRow) (stream : String) (through : Option Nat)
        (checkpoint : Option CheckpointExpectation) (verifiedAt verifiedAt' id head : String)
        (result result' : VerificationResult),
      verifyStream env rows stream through checkpoint verifiedAt = .ok result → result.valid = true →
      result.computedHeadHash = some head →
      verifyStream env rows' stream (some result.toSequence) (some ⟨id, head⟩) verifiedAt' =
        .ok result' →
      Faithful env.digest (rowViews (selectedRows rows stream through ++
        selectedRows rows' stream (some result.toSequence))) →
      ¬ List.Forall₂ EventRow.Same (selectedRows rows stream through)
        (selectedRows rows' stream (some result.toSequence)) →
      result'.valid = false) := by
  refine ⟨?_, ?_⟩
  · intro records records' stream checkpoint checkpoint' verifiedAt verifiedAt' result result' h hvalid
      h' hvalid' hhead hfaithful
    obtain ⟨hlinked, hend, hall⟩ := verifyRecords_linked h hvalid
    obtain ⟨hlinked', hend', hall'⟩ := verifyRecords_linked h' hvalid'
    refine HashChain.pinned (fun a b hsame => hsame.previous)
      (fun a ha b hb hhash => ?_) hlinked hlinked' ((hend.trans hhead).trans hend'.symm)
    obtain ⟨_, _, ha'⟩ := hall a ha
    obtain ⟨_, _, hb'⟩ := hall' b hb
    exact ha'.same hb' hfaithful ⟨a, List.mem_append_left _ ha, rfl⟩
      ⟨b, List.mem_append_right _ hb, rfl⟩ hhash
  · intro rows rows' stream through checkpoint verifiedAt verifiedAt' id head result result' h hvalid
      hhead h' hfaithful hedited
    by_contra hnot
    have hvalid' : result'.valid = true := by simpa using hnot
    obtain ⟨p, hp, hcomputed, _, _, _⟩ := verifyStream_valid h hvalid
    obtain ⟨p', hp', _, _, _, hcheck⟩ := verifyStream_valid h' hvalid'
    have hsame : p.previous = p'.previous :=
      (hcomputed.symm.trans hhead).trans (hcheck ⟨id, head⟩ rfl).symm
    exact hedited (verifyRows_pinned (v := ⟨stream, checkpoint, verifiedAt⟩)
      (w := ⟨stream, some ⟨id, head⟩, verifiedAt'⟩) rfl hp hp' hsame hfaithful)

/-! ## 4. A stream of one record -/

/-- RFC 8785 for texts without escapes and natural numbers, however spelt, and SHA-256. -/
def plainDigest : Digest where
  canonical := fun v => .ok (plainBytes v.plainNumbers)
  sha256 := Sha256.sha256
  size := Sha256.length_sha256

/-- `serde_json` reads `9007199254740991.0` as `9007199254740990.0`: it rounds the digits
    90071992547409910 to a binary64 before it divides by ten. -/
def misread (bits : BitVec 64) : BitVec 64 :=
  if bits = 0x433fffffffffffff then 0x433ffffffffffffe else bits

def noon : String := "2026-09-19T12:00:00Z"

def sampleJournal : JournalEnv where
  digest := plainDigest
  eventSchema := fun _ => true
  rfc3339 := fun text => if text = noon then some 1789819200000000000 else none
  encodedLength := fun v => (plainBytes v).length
  reread := Json.mapFloats misread
  reread_exact := Json.mapFloats_floatFree misread

/-- The creation of a Task. -/
def genesisEvent : Json := .obj [
  ("actor", .obj [("id", .str "u"), ("kind", .str "user")]),
  ("details", .obj [
    ("active_plan", .null),
    ("active_step_ids", .arr []),
    ("creation", .obj [
      ("constraints", .null),
      ("created_at", .str noon),
      ("normalized_intent_ref", .null),
      ("original_intent_ref", .obj [
        ("algorithm", .str "sha256-keyed-prefix"),
        ("commitment",
          .str "sha256:0f343b0931126a20f133d67c2b018a3b1d1d0b5f0e1c6f2a7b8c9d0e1f2a3b4c"),
        ("field", .str "original_intent"),
        ("kind", .str "task-field-commitment"),
        ("version", .str "v1")]),
      ("principal", .obj [("id", .str "u"), ("kind", .str "user")]),
      ("workspace_id", .null)]),
    ("failure", .null),
    ("recovery", .null),
    ("revision", .num (.posInt 1)),
    ("waiting_on", .arr [])]),
  ("event_id", .str "e1"),
  ("event_type", .str "task.created"),
  ("schema_version", .str "0.1"),
  ("task_id", .str "t"),
  ("timestamp", .str noon)]

def genesisRow : EventRow :=
  eventRow "task:v1:sha256:bb0b2a42dca158c483b46984cb1c18ac081449fb78e3666bb67e014e6ec9136d" "t" "e1" noon
    "task.created" 1 none "sha256:71a908de5b6e1edc2746da18094b539729948779b87c5f285692e31184c61c8f"
    genesisEvent genesisEvent

theorem genesis_reread : sampleJournal.reread genesisEvent = genesisEvent :=
  sampleJournal.reread_exact _ (by decide +kernel)

theorem genesis_appended : appendInTx sampleJournal [] "t" genesisEvent .any = .ok genesisRow := by
  obtain ⟨row, hrow⟩ := passes_iff.mp
    (show passes (appendInTx sampleJournal [] "t" genesisEvent .any) = true by decide +kernel)
  have hstream : streamId plainDigest "t" = .ok genesisRow.streamId := by decide +kernel
  have hhash : hashRecord sampleJournal genesisRow.streamId 1 none genesisEvent =
      .ok genesisRow.eventHash := by decide +kernel
  have hhead : getHead [] genesisRow.streamId = .ok none := by decide +kernel
  have e := (appendInTx_ok hrow).row_eq hstream hhead hhash (i := "e1") (t := noon)
    (k := "task.created") (by decide +kernel) (by decide +kernel) (by decide +kernel)
  rw [genesis_reread] at e
  exact hrow.trans (congrArg Except.ok e)

theorem genesis_chained : Chained sampleJournal [genesisRow] :=
  chained_nil.append (appendInTx_ok genesis_appended) genesis_reread

/-- One value is told apart from itself. -/
theorem faithful_subsingleton {digest : Digest} {views : Set Json} (h : views.Subsingleton) :
    Faithful digest views where
  canonical a ha b hb _ _ _ := by
    rw [h ha hb]
    rfl
  sha256 a ha b hb p q hp hq _ := by
    rw [h ha hb, hq] at hp
    exact (Except.ok.inj hp).symm

/-- A truncated table does not verify against the checkpoint of its record. -/
theorem truncation_detected : ∃ result head, verifyStream sampleJournal [genesisRow]
      genesisRow.streamId (some 1) none noon = .ok result ∧ result.valid = true ∧
      result.computedHeadHash = some head ∧
      ∀ result', verifyStream sampleJournal [] genesisRow.streamId (some result.toSequence)
        (some ⟨"checkpoint", head⟩) noon = .ok result' → result'.valid = false := by
  have hid : validateStreamId genesisRow.streamId = .ok () := by decide +kernel
  have hone : selectedRows [genesisRow] genesisRow.streamId (some 1) = [genesisRow] := by
    decide +kernel
  obtain ⟨result, hresult, hvalid⟩ := genesis_chained.verifyStream
    (List.mem_singleton.mpr (rfl : genesisRow = genesisRow)) hid (t := noon) (by decide +kernel) (by decide)
  obtain ⟨p, _, hcomputed, hsome, _, _⟩ := verifyStream_valid hresult hvalid
  obtain ⟨head, hhead⟩ := Option.isSome_iff_exists.mp hsome
  refine ⟨result, head, hresult, hvalid, hcomputed.trans hhead, fun result' hresult' => ?_⟩
  refine history_pinned.2 [genesisRow] [] genesisRow.streamId (some 1) none noon noon "checkpoint" head
    result result' hresult hvalid (hcomputed.trans hhead) hresult' ?_ ?_
  · refine faithful_subsingleton ?_
    rintro a ⟨r, hr, rfl⟩ b ⟨r', hr', rfl⟩
    have hnone : selectedRows [] genesisRow.streamId (some result.toSequence) = [] := rfl
    rw [hone, hnone, List.append_nil, List.mem_singleton] at hr hr'
    rw [hr, hr']
  · rw [hone]
    intro h
    cases h

end Aios.Provenance
