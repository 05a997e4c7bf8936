/-
  File:      Aios/Provenance/Chain.lean
  Subject:   WHAT APPENDING WRITES, VERIFYING READS: a journal that only grows by `appendInTx`
             verifies, stream by stream and prefix by prefix.

  The invariant is the verification loop itself (`Chained`): it succeeds on the rows of every
  stream. From its success follow the sequence numbers 1, 2, ..., the head and the latest revision
  (`Verified`), which is all that appending looks at.
-/
import Aios.Provenance.Journal

namespace Aios.Provenance

open Lib

variable {env : JournalEnv}

/-! ## 1. One row -/

/-- The row continues the stream at this point of the loop. -/
structure Linked (env : JournalEnv) (stream : String) (p : Progress) (row : EventRow)
    (latest : Option (Nat × String)) : Prop where
  readable : readable env row = true
  sequence : row.sequence = p.expectedSequence
  schemaVersion : row.schemaVersion = schemaVersion
  hashProfile : row.hashProfile = hashProfile
  inStream : row.streamId = stream
  own : ownStream env row.event = some stream
  previous : row.previousEventHash = p.previous
  valid : validateEvent env ((stringField row.event "task_id").getD "") row.event = .ok ()
  genesis : validateSequenceEventInvariant row.sequence row.event = .ok ()
  hashes : validHash row.eventHash = true ∧ row.previousEventHash.all validHash = true
  hash : hashRecord env stream row.sequence row.previousEventHash row.event = .ok row.eventHash
  index : indexMatches row = true
  revision : advanceTaskRevision p.latest row.event = .ok latest

theorem passes_iff {α : Type} {check : Result α} : passes check = true ↔ ∃ a, check = .ok a := by
  cases check with
  | error e => simp [passes, Except.toOption]
  | ok a => simp [passes, Except.toOption]

/-- What a record that passes is. -/
structure Intact (env : JournalEnv) (stream : String) (sequence : Nat) (previous : Option String)
    (record : JournalRecord) : Prop where
  sequence : record.sequence = sequence
  schemaVersion : record.schemaVersion = schemaVersion
  hashProfile : record.hashProfile = hashProfile
  inStream : record.streamId = stream
  own : ownStream env record.event = some stream
  previous : record.previousEventHash = previous
  valid : validateEvent env ((stringField record.event "task_id").getD "") record.event = .ok ()
  genesis : validateSequenceEventInvariant record.sequence record.event = .ok ()
  hashes : validHash record.eventHash = true ∧ record.previousEventHash.all validHash = true
  hash : hashRecord env stream record.sequence record.previousEventHash record.event =
    .ok record.eventHash

variable {v : Verification} {p : Progress} {row : EventRow} {l rows : List EventRow}

theorem verifyOneRecord_ok {sequence : Nat} {previous : Option String}
    {record : JournalRecord} {later : Bool} {computed : String} :
    verifyOneRecord env v record sequence previous later = .ok computed ↔
      computed = record.eventHash ∧ later = false ∧ Intact env v.streamId sequence previous record := by
  have hunit : ∀ {check : Result Unit}, passes check = true ↔ check = .ok () := by
    intro check
    rw [passes_iff, exists_unit]
  have hall : (record.previousEventHash.any fun hash => !validHash hash) = false ↔
      record.previousEventHash.all validHash = true := by
    cases record.previousEventHash <;> simp
  unfold verifyOneRecord
  simp only [bind_eq_ok', exists_unit, rejectIf_ok, mapError_eq_ok, Bool.or_eq_false_iff,
    decide_eq_false_iff_not, not_not, Bool.not_eq_false', hunit, hall]
  constructor
  · intro h
    obtain ⟨⟨h1, hlater⟩, h2, h3, h4, h5, h6, ⟨⟨⟨h7, h8⟩, h9⟩, h10⟩, c, h11, h12, h13⟩ := h
    have e : c = computed := Except.ok.inj h13
    rw [h12] at e h11
    exact ⟨e.symm, hlater, ⟨by omega, h3, h4, h5.1, h5.2, h6, h7, h8, ⟨h9, h10⟩, h11⟩⟩
  · intro hintact
    obtain ⟨e, hlater, h⟩ := hintact
    have hseq := h.sequence
    exact ⟨⟨by omega, hlater⟩, by omega, h.schemaVersion, h.hashProfile, ⟨h.inStream, h.own⟩,
      h.previous, ⟨⟨⟨h.valid, h.genesis⟩, h.hashes.1⟩, h.hashes.2⟩, record.eventHash, h.hash, rfl,
      by rw [e]; rfl⟩

/-- **One step of the loop.** -/
theorem verifyRow_ok {p p' : Progress} : verifyRow env v p row = .ok p' ↔
      ∃ latest, Linked env v.streamId p row latest ∧
        p' = ⟨some row.eventHash, p.expectedSequence + 1, latest⟩ := by
  unfold verifyRow
  simp only [bind_eq_ok', exists_unit, rejectIf_ok, mapError_eq_ok, Bool.not_eq_false']
  constructor
  · intro h
    obtain ⟨h1, c, h2, h3, latest, h4, h5⟩ := h
    obtain ⟨rfl, _, h2⟩ := verifyOneRecord_ok.mp h2
    exact ⟨latest, ⟨h1, h2.sequence, h2.schemaVersion, h2.hashProfile, h2.inStream, h2.own,
      h2.previous, h2.valid, h2.genesis, h2.hashes, h2.hash, h3, h4⟩, (Except.ok.inj h5).symm⟩
  · intro hlinked
    obtain ⟨latest, h, e⟩ := hlinked
    exact ⟨h.readable, row.eventHash, verifyOneRecord_ok.mpr ⟨rfl, rfl, h.sequence, h.schemaVersion,
      h.hashProfile, h.inStream, h.own, h.previous, h.valid, h.genesis, h.hashes, h.hash⟩, h.index,
      latest, h.revision, by rw [e]; rfl⟩

theorem verifyRows_append {l r : List EventRow} :
    verifyRows env v p (l ++ r) = (do let p ← verifyRows env v p l; verifyRows env v p r) := by
  induction l generalizing p with
  | nil => rfl
  | cons row l ih =>
      rw [List.cons_append, verifyRows, verifyRows]
      cases verifyRow env v p row with
      | error e => rfl
      | ok p' => exact ih

/-! ## 2. A verified stream -/

/-- What the loop knows after these rows. -/
structure Verified (env : JournalEnv) (l : List EventRow) (p : Progress) : Prop where
  next : p.expectedSequence = l.length + 1
  sequences : l.map EventRow.sequence = List.range' 1 l.length
  head : p.previous = l.getLast?.map EventRow.eventHash
  hashes : ∀ row ∈ l, validHash row.eventHash = true
  latest : match (l.filter carriesRevision).getLast? with
    | none => p.latest = none
    | some row => storedRevision env row = .ok p.latest

theorem carriesRevision_of_index (h : indexMatches row = true) :
    row.eventType = (stringField row.event "event_type").getD "" ∧
      row.taskId = (stringField row.event "task_id").getD "" := by
  simp only [indexMatches, Bool.and_eq_true, decide_eq_true_eq] at h
  exact ⟨h.1.1.1.1.1.1.1.2, h.1.1.1.1.1.1.1.1.1.2⟩

/-- The revision after an event that carries none. -/
theorem advance_other {latest latest' : Option (Nat × String)} {event : Json}
    (hcreated : stringField event "event_type" ≠ some "task.created")
    (htransitioned : stringField event "event_type" ≠ some "task.transitioned")
    (h : advanceTaskRevision latest event = .ok latest') : latest' = latest := by
  unfold advanceTaskRevision at h
  split at h
  · exact absurd ‹_› hcreated
  · exact absurd ‹_› htransitioned
  · exact (Except.ok.inj h).symm

/-- What a revision-carrying row leaves is what the loop holds after it. -/
theorem storedRevision_of_linked {stream : String}
    {latest : Option (Nat × String)} (h : Linked env stream p row latest)
    (hc : carriesRevision row = true) : storedRevision env row = .ok latest := by
  have htype := (carriesRevision_of_index h.index).1
  have hfield : stringField row.event "event_type" = some row.eventType := by
    cases hf : stringField row.event "event_type" with
    | some t => rw [htype, hf]; rfl
    | none =>
        have e : row.eventType = "" := by rw [htype, hf]; rfl
        simp [carriesRevision, e] at hc
  obtain ⟨task, htask⟩ : ∃ task, stringField row.event "task_id" = some task := by
    cases ht : stringField row.event "task_id" with
    | some task => exact ⟨task, rfl⟩
    | none =>
        have hown := h.own
        simp [ownStream, ht] at hown
  have hvalid : validateStoredEvent env row.event = .ok () := by
    have hv := h.valid
    rw [htask] at hv
    unfold validateStoredEvent
    rw [htask]
    exact hv
  have hrev := h.revision
  unfold storedRevision
  rw [rejectIf, if_neg (by simp [hfield]), ok_bind, hvalid, ok_bind]
  unfold advanceTaskRevision at hrev
  rw [hfield] at hrev
  by_cases hcreated : row.eventType = "task.created"
  · rw [hcreated] at hrev
    simp only at hrev
    split at hrev
    · cases hrev
    · rw [if_pos hcreated, ← hrev]
      rfl
  · have htransitioned : row.eventType = "task.transitioned" := by
      simpa [carriesRevision, hcreated] using hc
    rw [htransitioned] at hrev
    simp only at hrev
    rw [unit_bind_eq_ok, bind_eq_ok'] at hrev
    obtain ⟨_, next, hnext, hrev⟩ := hrev
    rw [bind_eq_ok'] at hrev
    obtain ⟨state, hstate, hrev⟩ := hrev
    rw [if_neg hcreated]
    show (do
      let revision ← expect ((pointer row.event ["task_transition", "new_revision"]).bind asU64) _
      let state ← expect ((pointer row.event ["task_transition", "new_state"]).bind Json.asStr) _
      return some (revision, state)) = Except.ok latest
    rw [expect_ok.mpr (expect_ok.mp hnext), ok_bind, expect_ok.mpr (expect_ok.mp hstate), ok_bind]
    exact hrev

/-- One more row. -/
theorem Verified.snoc {stream : String}
    {latest : Option (Nat × String)} (h : Verified env l p) (hrow : Linked env stream p row latest) :
    Verified env (l ++ [row]) ⟨some row.eventHash, p.expectedSequence + 1, latest⟩ where
  next := by
    have := h.next
    simp only [List.length_append, List.length_singleton]
    omega
  sequences := by
    have hs := hrow.sequence
    have hn := h.next
    rw [List.map_append, h.sequences, List.length_append, List.length_singleton,
      List.range'_1_concat, List.map_singleton, hs, hn, Nat.add_comm]
  head := by simp
  hashes := by
    intro r hr
    rcases List.mem_append.mp hr with hr | hr
    · exact h.hashes r hr
    · rw [List.mem_singleton.mp hr]
      exact hrow.hashes.1
  latest := by
    cases hc : carriesRevision row with
    | true =>
        rw [List.filter_append, List.filter_singleton, hc]
        simpa using storedRevision_of_linked hrow hc
    | false =>
        have htype := (carriesRevision_of_index hrow.index).1
        have hne : ∀ t, t ≠ "" → carriesRevision { row with eventType := t } = true →
            stringField row.event "event_type" ≠ some t := by
          intro t _ ht e
          rw [e] at htype
          have : row = { row with eventType := t } := by
            rw [← show row.eventType = t from htype]
          rw [← this, hc] at ht
          cases ht
        have e := advance_other (hne _ (by decide) (by simp [carriesRevision]))
          (hne _ (by decide) (by simp [carriesRevision])) hrow.revision
        rw [List.filter_append, List.filter_singleton, hc]
        simpa [e] using h.latest

/-- What the loop knows carries over further rows. -/
theorem Verified.append {l r : List EventRow} {p p' : Progress}
    (hl : Verified env l p) (h : verifyRows env v p r = .ok p') : Verified env (l ++ r) p' := by
  induction r generalizing l p with
  | nil =>
      have e : p = p' := Except.ok.inj h
      rw [← e, List.append_nil]
      exact hl
  | cons row r ih =>
      rw [verifyRows, bind_eq_ok'] at h
      obtain ⟨q, hq, h⟩ := h
      obtain ⟨latest, hlinked, rfl⟩ := verifyRow_ok.mp hq
      have hstep := ih (hl.snoc hlinked) h
      rwa [List.append_assoc, List.singleton_append] at hstep

/-- **The loop's own knowledge.** -/
theorem verified_of_verifyRows (h : verifyRows env v .start l = .ok p) : Verified env l p := by
  have hnil : Verified env [] .start :=
    ⟨rfl, rfl, rfl, fun _ hr => absurd hr List.not_mem_nil, rfl⟩
  exact hnil.append h

/-! ## 3. Queries on a verified stream -/

/-- The last row is one of the rows, and none has a greater sequence number. -/
theorem lastRow_spec (h : lastRow l = some row) : row ∈ l ∧ ∀ r ∈ l, r.sequence ≤ row.sequence := by
  induction l generalizing row with
  | nil => cases h
  | cons r l ih =>
      rw [lastRow] at h
      cases hl : lastRow l with
      | none =>
          rw [hl] at h
          have e : r = row := Option.some.inj h
          have hnil : l = [] := by
            cases l with
            | nil => rfl
            | cons r' l' =>
                rw [lastRow] at hl
                cases hl' : lastRow l' <;> simp [hl'] at hl
          subst e hnil
          simp
      | some last =>
          rw [hl] at h
          simp only [Option.some.injEq] at h
          obtain ⟨hmem, hmax⟩ := ih hl
          by_cases hlt : last.sequence < r.sequence
          · rw [if_pos hlt] at h
            subst h
            refine ⟨List.mem_cons_self, fun r' hr' => ?_⟩
            rcases List.mem_cons.mp hr' with e | hr'
            · rw [e]
            · have := hmax r' hr'
              omega
          · rw [if_neg hlt] at h
            subst h
            refine ⟨List.mem_cons_of_mem r hmem, fun r' hr' => ?_⟩
            rcases List.mem_cons.mp hr' with e | hr'
            · rw [e]
              omega
            · exact hmax r' hr'

theorem lastRow_eq_none : lastRow l = none ↔ l = [] := by
  cases l with
  | nil => simp [lastRow]
  | cons r l => cases hl : lastRow l <;> simp [lastRow, hl]

/-- **The greatest row is the last of the rows in rising sequence**, in whatever order they are
    stored. -/
theorem lastRow_perm {l sorted : List EventRow} (hperm : l.Perm sorted)
    (h : sorted.Pairwise fun a b => a.sequence < b.sequence) : lastRow l = sorted.getLast? := by
  cases hs : sorted.getLast? with
  | none =>
      rw [List.getLast?_eq_none_iff.mp hs] at hperm
      exact lastRow_eq_none.mpr hperm.eq_nil
  | some row =>
      obtain ⟨init, e⟩ := List.getLast?_eq_some_iff.mp hs
      rw [e] at h hperm
      rw [List.pairwise_append] at h
      have hmem : row ∈ l := hperm.mem_iff.mpr (by simp)
      cases hl : lastRow l with
      | none =>
          rw [lastRow_eq_none.mp hl] at hmem
          cases hmem
      | some last =>
          obtain ⟨hlast, hmax⟩ := lastRow_spec hl
          rcases List.mem_append.mp (hperm.mem_iff.mp hlast) with hinit | hone
          · have hlt := h.2.2 last hinit row List.mem_cons_self
            have hle := hmax row hmem
            omega
          · rw [List.mem_singleton.mp hone]

section Sequences

variable {l : List EventRow} {p : Progress} (h : Verified env l p)

include h

theorem Verified.rising : l.Pairwise fun a b => a.sequence < b.sequence := by
  have hrange : (List.range' 1 l.length).Pairwise (· < ·) := List.pairwise_lt_range'
  rw [← h.sequences] at hrange
  exact List.pairwise_map.mp hrange

theorem Verified.sequence_mem {row : EventRow} (hr : row ∈ l) :
    1 ≤ row.sequence ∧ row.sequence ≤ l.length := by
  have hm : row.sequence ∈ List.range' 1 l.length := by
    rw [← h.sequences]
    exact List.mem_map_of_mem hr
  have := List.mem_range'_1.mp hm
  omega

/-- The rows up to a sequence number are a prefix. -/
theorem Verified.upTo (n : Nat) : (l.filter fun row => row.sequence ≤ n) = l.take n := by
  have hget : ∀ (i : Nat) (hi : i < l.length), l[i].sequence = i + 1 := by
    intro i hi
    have e : (l.map EventRow.sequence)[i]? = (List.range' 1 l.length)[i]? := by rw [h.sequences]
    rw [List.getElem?_map, List.getElem?_eq_getElem hi, List.getElem?_range' hi] at e
    have := Option.some.inj e
    omega
  conv_lhs => rw [← List.take_append_drop n l]
  rw [List.filter_append]
  have hfirst : (l.take n).filter (fun row => row.sequence ≤ n) = l.take n := by
    refine List.filter_eq_self.mpr fun row hr => ?_
    obtain ⟨i, hi, rfl⟩ := List.mem_iff_getElem.mp hr
    rw [List.length_take] at hi
    rw [List.getElem_take, hget i (by omega)]
    exact decide_eq_true (by omega)
  have hrest : (l.drop n).filter (fun row => row.sequence ≤ n) = [] := by
    refine List.filter_eq_nil_iff.mpr fun row hr => ?_
    obtain ⟨i, hi, rfl⟩ := List.mem_iff_getElem.mp hr
    rw [List.length_drop] at hi
    rw [List.getElem_drop, hget (n + i) (by omega)]
    simp only [decide_eq_true_eq]
    omega
  rw [hfirst, hrest, List.append_nil]

end Sequences

/-! ## 4. The invariant -/

/-- Every stream of the journal verifies. -/
def Chained (env : JournalEnv) (rows : List EventRow) : Prop :=
  ∀ v : Verification, ∃ p, verifyRows env v .start (streamRows rows v.streamId) = .ok p

theorem chained_nil : Chained env [] := fun _ => ⟨.start, rfl⟩

theorem streamId_ok {digest : Digest} {taskId stream : String}
    (h : streamId digest taskId = .ok stream) :
    validateTaskId taskId = .ok () ∧ stream = streamIdText digest taskId := by
  unfold streamId at h
  rw [unit_bind_eq_ok] at h
  exact ⟨h.1, (Except.ok.inj h.2).symm⟩

/-- A stream identity is a valid one. -/
theorem validateStreamId_text (digest : Digest) (taskId : String) :
    validateStreamId (streamIdText digest taskId) = .ok () := by
  obtain ⟨digits, hlist, hlen, hhex⟩ :=
    digest.tagged_toList streamIdDomain taskId.toUTF8.toList
  have hchars : (streamIdText digest taskId).toList =
      "task:v1:".toList ++ ("sha256:".toList ++ digits) := by
    unfold streamIdText
    rw [String.toList_append, hlist]
  have hascii : ∀ c ∈ (streamIdText digest taskId).toList, c.toNat < 128 := by
    rw [hchars]
    intro c hc
    have htask : ∀ c ∈ "task:v1:".toList, c.toNat < 128 := by simp
    have hsha : ∀ c ∈ "sha256:".toList, c.toNat < 128 := by simp
    rcases List.mem_append.mp hc with hc | hc
    · exact htask c hc
    · rcases List.mem_append.mp hc with hc | hc
      · exact hsha c hc
      · exact (lowerHex_ascii (hhex c hc)).1
  have hsize : (streamIdText digest taskId).utf8ByteSize = 79 := by
    rw [utf8ByteSize_ascii hascii, ← String.length_toList, hchars, List.length_append,
      List.length_append, hlen]
    rfl
  have hrest : (("1:sha256:".toList) ++ digits).all streamIdChar = true := by
    rw [List.all_append, Bool.and_eq_true, List.all_eq_true, List.all_eq_true]
    refine ⟨by simp [streamIdChar], fun c hc => ?_⟩
    simp [streamIdChar, (lowerHex_ascii (hhex c hc)).2]
  have hsplit : (streamIdText digest taskId).toList =
      't' :: 'a' :: 's' :: 'k' :: ':' :: 'v' :: ("1:sha256:".toList ++ digits) := hchars
  unfold validateStreamId
  simp only [hsplit, hsize, hrest]
  decide

/-! ## 5. Appending -/

/-- What an accepted append computed. -/
structure Appended (env : JournalEnv) (rows : List EventRow) (taskId : String) (event : Json)
    (row : EventRow) : Prop where
  valid : validateEvent env taskId event = .ok ()
  eventId : stringField event "event_id" = some row.eventId
  timestamp : stringField event "timestamp" = some row.timestamp
  eventType : stringField event "event_type" = some row.eventType
  stream : streamId env.digest taskId = .ok row.streamId
  head : ∃ head, getHead rows row.streamId = .ok head ∧
    row.sequence = head.elim 1 (fun h => h.sequence + 1) ∧
    row.previousEventHash = head.map StreamHead.eventHash
  genesis : validateSequenceEventInvariant row.sequence event = .ok ()
  revision : continuesRevision env rows row.streamId event = .ok ()
  hash : hashRecord env row.streamId row.sequence row.previousEventHash event = .ok row.eventHash
  isRow : row = eventRow row.streamId taskId row.eventId row.timestamp row.eventType row.sequence
    row.previousEventHash row.eventHash event (env.reread event)
  fresh : keyConflict rows row = false

theorem appendInTx_ok {taskId : String} {event : Json} {expected : ExpectedHead}
    (h : appendInTx env rows taskId event expected = .ok row) : Appended env rows taskId event row := by
  unfold appendInTx at h
  simp only [bind_eq_ok', exists_unit, expect_ok, rejectIf_ok] at h
  obtain ⟨hvalid, _, stream, hstream, head, hhead, _, _, hgen, hrev, eventHash, hhash, eventId, hid,
    timestamp, htime, eventType, htype, hbound, hconflict, e⟩ := h
  have e : row = _ := (Except.ok.inj e).symm
  have hsafe := (hashRecord_ok hhash).2.1
  have hmin : (head.elim 1 fun h => min (h.sequence + 1) (2 ^ 64 - 1)) =
      head.elim 1 fun h => h.sequence + 1 := by
    cases head with
    | none => rfl
    | some h =>
        have hle : min (h.sequence + 1) (2 ^ 64 - 1) ≤ maxSafeJsonInteger := hsafe
        unfold maxSafeJsonInteger at hle
        show min (h.sequence + 1) (2 ^ 64 - 1) = h.sequence + 1
        omega
  rw [hmin] at hgen hhash hconflict e
  subst e
  exact ⟨hvalid, hid, htime, htype, hstream, ⟨head, hhead, rfl, rfl⟩, hgen, hrev, hhash, rfl,
    hconflict⟩

section Continue

variable {rows : List EventRow} {taskId stream : String} {event : Json} {row : EventRow}

theorem getHead_of (hid : validateStreamId stream = .ok ()) (hlast : lastRow (streamRows rows stream) = some row)
    (hsequence : row.sequence ≠ 0) (hhash : validHash row.eventHash = true) :
    getHead rows stream = .ok (some ⟨stream, row.sequence, row.eventHash⟩) := by
  have hsound : rejectIf (decide (row.sequence = 0) || !validHash row.eventHash)
      (Error.invalidRecord "stored provenance head is invalid") = .ok () := by
    rw [rejectIf_ok, hhash, decide_eq_false hsequence]
    rfl
  unfold getHead
  rw [hid, ok_bind, hlast]
  show (rejectIf _ _ >>= fun _ => _) = _
  rw [hsound, ok_bind]
  rfl

/-- The revision of a stored event that is valid. -/
theorem storedRevision_of (hkind : stringField row.event "event_type" = some row.eventType)
    (htask : stringField row.event "task_id" = some taskId) (hvalid : validateEvent env taskId row.event = .ok ())
    {revision : Nat} {state : String}
    (hleft : row.eventType = "task.created" ∧ revision = 1 ∧ state = "CREATED" ∨
      row.eventType ≠ "task.created" ∧
        (pointer row.event ["task_transition", "new_revision"]).bind asU64 = some revision ∧
        (pointer row.event ["task_transition", "new_state"]).bind Json.asStr = some state) :
    storedRevision env row = .ok (some (revision, state)) := by
  have hstored : validateStoredEvent env row.event = .ok () := by
    unfold validateStoredEvent
    rw [htask]
    exact hvalid
  have hindexed : rejectIf (decide (stringField row.event "event_type" ≠ some row.eventType))
      (Error.invalidRecord "stored Task revision event conflicts with its index") = .ok () :=
    rejectIf_ok.mpr (decide_eq_false (not_not.mpr hkind))
  unfold storedRevision
  rw [hindexed, ok_bind, hstored, ok_bind]
  rcases hleft with ⟨hcreated, rfl, rfl⟩ | ⟨hother, hrevision, hstate⟩
  · rw [if_pos hcreated]
    rfl
  · rw [if_neg hother]
    show (expect _ _ >>= fun _ => _) = _
    rw [hrevision]
    show (expect _ _ >>= fun _ => _) = _
    rw [hstate]
    rfl

theorem continuesRevision_of {latest latest' : Option (Nat × String)}
    (hlast : lastRow ((streamRows rows stream).filter carriesRevision) = some row)
    (hstored : storedRevision env row = .ok latest) (hadvance : advanceTaskRevision latest event = .ok latest') :
    continuesRevision env rows stream event = .ok () := by
  unfold continuesRevision latestTaskRevisionInTx
  rw [hlast]
  split
  · show (storedRevision env row >>= fun _ => _) = _
    rw [hstored, ok_bind, hadvance]
    rfl
  · rfl

/-- **A valid event that continues its stream is appended.** -/
theorem appendInTx_of {i t k hash : String} {head : Option StreamHead}
    (hvalid : validateEvent env taskId event = .ok ()) (hservice : serviceExportUnauthorized event = false)
    (hstream : streamId env.digest taskId = .ok stream) (hhead : getHead rows stream = .ok head)
    (hroom : head.elim 1 (fun h => h.sequence + 1) < 2 ^ 63)
    (hgenesis : validateSequenceEventInvariant (head.elim 1 fun h => h.sequence + 1) event = .ok ())
    (hrevision : continuesRevision env rows stream event = .ok ())
    (hhash : hashRecord env stream (head.elim 1 fun h => h.sequence + 1) (head.map StreamHead.eventHash) event =
      .ok hash)
    (hid : stringField event "event_id" = some i) (htime : stringField event "timestamp" = some t)
    (hkind : stringField event "event_type" = some k)
    (hfresh : keyConflict rows (eventRow stream taskId i t k (head.elim 1 fun h => h.sequence + 1)
      (head.map StreamHead.eventHash) hash event (env.reread event)) = false) :
    appendInTx env rows taskId event .any = .ok (eventRow stream taskId i t k
      (head.elim 1 fun h => h.sequence + 1) (head.map StreamHead.eventHash) hash event (env.reread event)) := by
  have hmin : (head.elim 1 fun h => min (h.sequence + 1) (2 ^ 64 - 1)) = head.elim 1 fun h => h.sequence + 1 := by
    cases head with
    | none => rfl
    | some h =>
        have hroom : h.sequence + 1 < 2 ^ 63 := hroom
        show min (h.sequence + 1) (2 ^ 64 - 1) = h.sequence + 1
        omega
  have hlast : decide ((head.elim 1 fun h => h.sequence + 1) = 2 ^ 64 - 1) = false :=
    decide_eq_false (by omega)
  have hrange : decide (2 ^ 63 ≤ head.elim 1 fun h => h.sequence + 1) = false :=
    decide_eq_false (by omega)
  have hany : headMatches .any head = true := rfl
  simp only [appendInTx, hvalid, ok_bind, hservice, hstream, hhead, hany, hmin, hlast, hrange, hgenesis, hrevision,
    hhash, hid, htime, hkind, expect, hfresh, rejectIf, Bool.not_true, Bool.false_eq_true, if_false]
  rfl

theorem lastRow_pair {a b : EventRow} (h : a.sequence < b.sequence) : lastRow [a, b] = some b := by
  show some (if b.sequence < a.sequence then a else b) = some b
  rw [if_neg (by omega)]

end Continue

section Append

variable {rows : List EventRow} {taskId : String} {event : Json} {row : EventRow}

theorem Appended.stored_eq (h : Appended env rows taskId event row) :
    row.event = env.reread event ∧ row.taskId = taskId := by
  have e := h.isRow
  exact ⟨congrArg EventRow.event e, congrArg EventRow.taskId e⟩

/-- The row of an append, from the head it found and the hash it computed. -/
theorem Appended.row_eq (h : Appended env rows taskId event row) {stream i t k hash : String}
    {head : Option StreamHead} (hstream : streamId env.digest taskId = .ok stream)
    (hhead : getHead rows stream = .ok head)
    (hhash : hashRecord env stream (head.elim 1 fun h => h.sequence + 1)
      (head.map StreamHead.eventHash) event = .ok hash)
    (hid : stringField event "event_id" = some i) (htime : stringField event "timestamp" = some t)
    (hkind : stringField event "event_type" = some k) :
    row = eventRow stream taskId i t k (head.elim 1 fun h => h.sequence + 1)
      (head.map StreamHead.eventHash) hash event (env.reread event) := by
  have estream : row.streamId = stream := Except.ok.inj (h.stream.symm.trans hstream)
  obtain ⟨found, hfound, hsequence, hprevious⟩ := h.head
  rw [estream, hhead] at hfound
  have efound : head = found := Except.ok.inj hfound
  subst efound
  have hrecord := h.hash
  rw [estream, hsequence, hprevious, hhash] at hrecord
  have ehash : hash = row.eventHash := Except.ok.inj hrecord
  have eid : i = row.eventId := Option.some.inj (hid.symm.trans h.eventId)
  have etime : t = row.timestamp := Option.some.inj (htime.symm.trans h.timestamp)
  have ekind : k = row.eventType := Option.some.inj (hkind.symm.trans h.eventType)
  rw [← estream, ← hsequence, ← hprevious, ehash, eid, etime, ekind]
  exact h.isRow

/-- The head that appending looks at is the last row of the verified stream. -/
theorem getHead_verified {stream : String} {l : List EventRow} {p : Progress}
    {head : Option StreamHead} (hperm : (streamRows rows stream).Perm l) (hv : Verified env l p)
    (h : getHead rows stream = .ok head) :
    head.elim 1 (fun h => h.sequence + 1) = p.expectedSequence ∧
      head.map StreamHead.eventHash = p.previous := by
  unfold getHead at h
  rw [unit_bind_eq_ok, lastRow_perm hperm hv.rising] at h
  have hnext := hv.next
  have hprevious := hv.head
  cases hl : l.getLast? with
  | none =>
      have hnil := List.getLast?_eq_none_iff.mp hl
      rw [hl] at h hprevious
      rw [hnil] at hnext
      have e : none = head := Except.ok.inj h.2
      rw [← e, hnext, hprevious]
      exact ⟨rfl, rfl⟩
  | some last =>
      rw [hl] at h hprevious
      simp only at h
      rw [unit_bind_eq_ok] at h
      have e : some (StreamHead.mk stream last.sequence last.eventHash) = head :=
        Except.ok.inj h.2.2
      obtain ⟨init, hinit⟩ := List.getLast?_eq_some_iff.mp hl
      have hseq : last.sequence = l.length := by
        have hs := hv.sequences
        rw [hinit, List.length_append, List.length_singleton, List.map_append, List.map_singleton,
          List.range'_1_concat] at hs
        have := (List.append_inj' hs rfl).2
        rw [hinit, List.length_append, List.length_singleton]
        have := List.singleton_inj.mp this
        omega
      rw [← e, hprevious]
      refine ⟨?_, rfl⟩
      show last.sequence + 1 = p.expectedSequence
      omega

theorem boundedText_of_length {text : String} (h : text.length ≤ maxStringChars) :
    boundedText text = true := by
  have hsize := utf8ByteSize_le text
  unfold maxStringChars at h
  unfold boundedText maxEventBytes
  exact decide_eq_true (by omega)

theorem boundedText_field {key : String} (h : withinShapeBounds event = true) :
    ((stringField event key).all boundedText) = true := by
  cases hs : stringField event key with
  | none => rfl
  | some text => exact boundedText_of_length (stringField_length h hs)

theorem boundedText_of_validHash {text : String} (h : validHash text = true) :
    boundedText text = true := by
  refine boundedText_of_length ?_
  simp only [validHash, Bool.and_eq_true, decide_eq_true_eq, String.length_toList] at h
  rw [h.1.1]
  decide

/-- Every column of the new row can be read again. -/
theorem Appended.readable (h : Appended env rows taskId event row)
    (hread : env.reread event = event)
    (hprevious : row.previousEventHash.all validHash = true) : readable env row = true := by
  obtain ⟨⟨_, htaskLength⟩, hshape, hlength, htask, hidLength, _⟩ := validateEvent_ok env h.valid
  have hfield : ∀ {key text : String}, stringField event key = some text → boundedText text = true :=
    fun hs => boundedText_of_length (stringField_length hshape hs)
  have hstream : boundedText row.streamId = true := by
    have hs := (streamId_ok h.stream).2
    obtain ⟨digits, hlist, hlen, _⟩ :=
      env.digest.tagged_toList streamIdDomain taskId.toUTF8.toList
    refine boundedText_of_length ?_
    rw [hs, streamIdText, ← String.length_toList, String.toList_append, hlist, List.length_append,
      List.length_append, hlen]
    decide
  obtain ⟨_, _, payload, hpayload⟩ := hashRecord_ok h.hash
  have hhash : boundedText row.eventHash = true :=
    boundedText_of_validHash (by rw [hpayload]; exact validHash_tagged _ _ _)
  have hprev : row.previousEventHash.all boundedText = true := by
    cases hp : row.previousEventHash with
    | none => rfl
    | some hash =>
        rw [hp] at hprevious
        exact boundedText_of_validHash hprevious
  have hschema : boundedText Provenance.schemaVersion = true := by decide
  have hprofile : boundedText Provenance.hashProfile = true := by decide
  unfold Provenance.readable
  rw [h.isRow, hread]
  simp only [eventRow, hlength, decide_true, List.all_cons, List.all_nil, hschema, hprofile, hstream,
    hhash, hfield h.eventId, hfield htask, hfield h.timestamp, hfield h.eventType, hprev,
    boundedText_field hshape, Bool.and_true]

theorem Appended.index (h : Appended env rows taskId event row)
    (hread : env.reread event = event) : indexMatches row = true := by
  obtain ⟨_, _, _, htask, _, _⟩ := validateEvent_ok env h.valid
  unfold indexMatches
  rw [h.isRow, hread]
  simp [eventRow, h.eventId, h.timestamp, h.eventType, htask]

/-- The revision goes on where the loop stands. -/
theorem Appended.revision_ok {l : List EventRow} {p : Progress}
    (h : Appended env rows taskId event row) (hperm : (streamRows rows row.streamId).Perm l)
    (hv : Verified env l p) (hseq : row.sequence = p.expectedSequence) :
    ∃ latest, advanceTaskRevision p.latest event = .ok latest := by
  have hlatest := hv.latest
  have hrising : (l.filter carriesRevision).Pairwise
      fun a b => a.sequence < b.sequence := hv.rising.sublist List.filter_sublist
  unfold advanceTaskRevision
  split
  · -- a creation stands first, before any revision
    have hgen := h.genesis
    unfold validateSequenceEventInvariant at hgen
    rw [rejectIf_ok, decide_eq_false_iff_not, not_not, decide_eq_decide] at hgen
    have hone : row.sequence = 1 := hgen.mpr ‹_›
    have hnext := hv.next
    have hnil : l = [] := List.length_eq_zero_iff.mp (by omega)
    rw [hnil] at hlatest
    have hnone : p.latest = none := hlatest
    rw [hnone]
    exact ⟨_, rfl⟩
  · have htype : stringField event "event_type" = some "task.transitioned" := ‹_›
    have hcontinues := h.revision
    unfold continuesRevision latestTaskRevisionInTx at hcontinues
    rw [if_pos htype, bind_eq_ok'] at hcontinues
    obtain ⟨latest, hl, hadvance⟩ := hcontinues
    rw [bind_eq_ok'] at hadvance
    obtain ⟨after, hadvance, _⟩ := hadvance
    rw [lastRow_perm (hperm.filter carriesRevision) hrising] at hl
    have hsame : latest = p.latest := by
      cases hc : (l.filter carriesRevision).getLast? with
      | none =>
          rw [hc] at hl hlatest
          exact (Except.ok.inj hl).symm.trans hlatest.symm
      | some r =>
          rw [hc] at hl hlatest
          exact Except.ok.inj (hl.symm.trans hlatest)
    rw [hsame] at hadvance
    unfold advanceTaskRevision at hadvance
    rw [htype] at hadvance
    exact ⟨after, hadvance⟩
  · exact ⟨_, rfl⟩

/-- **An appended row continues its stream.** -/
theorem Appended.linked {l : List EventRow} {p : Progress} (h : Appended env rows taskId event row)
    (hread : env.reread event = event) (hperm : (streamRows rows row.streamId).Perm l)
    (hv : Verified env l p) : ∃ latest, Linked env row.streamId p row latest := by
  obtain ⟨head, hhead, hseq, hprev⟩ := h.head
  obtain ⟨hnext, hlast⟩ := getHead_verified hperm hv hhead
  have hsequence : row.sequence = p.expectedSequence := hseq.trans hnext
  obtain ⟨latest, hlatest⟩ := h.revision_ok hperm hv hsequence
  have hevent : row.event = event := h.stored_eq.1.trans hread
  obtain ⟨_, _, _, htask, _, _⟩ := validateEvent_ok env h.valid
  obtain ⟨_, _, payload, hpayload⟩ := hashRecord_ok h.hash
  have hprevious : row.previousEventHash.all validHash = true := by
    rw [hprev, hlast, hv.head]
    cases hl : l.getLast? with
    | none => rfl
    | some last => exact hv.hashes last (List.mem_of_getLast? hl)
  refine ⟨latest, ⟨h.readable hread hprevious, hsequence, ?_, ?_, rfl, ?_, hprev.trans hlast, ?_, ?_,
    ⟨by rw [hpayload]; exact validHash_tagged _ _ _, hprevious⟩, ?_, h.index hread, ?_⟩⟩
  · rw [h.isRow]; rfl
  · rw [h.isRow]; rfl
  · unfold ownStream
    rw [hevent, htask, Option.bind_some, h.stream]
    rfl
  · rw [hevent, htask]
    exact h.valid
  · rw [hevent]; exact h.genesis
  · rw [hevent]; exact h.hash
  · rw [hevent]; exact hlatest

/-- **Appending keeps every stream verifiable.** -/
theorem Chained.append (hc : Chained env rows) (h : Appended env rows taskId event row)
    (hread : env.reread event = event) : Chained env (rows ++ [row]) := by
  intro v
  obtain ⟨p, hp⟩ := hc v
  have hsplit : streamRows (rows ++ [row]) v.streamId =
      streamRows rows v.streamId ++ if row.streamId = v.streamId then [row] else [] := by
    unfold streamRows
    rw [List.filter_append, List.filter_singleton]
    simp
  by_cases e : row.streamId = v.streamId
  · rw [hsplit, if_pos e, verifyRows_append, hp, ok_bind]
    have hv := verified_of_verifyRows hp
    rw [← e] at hv
    obtain ⟨latest, hlinked⟩ := h.linked hread (List.Perm.refl _) hv
    rw [e] at hlinked
    have hrow := verifyRow_ok.mpr ⟨latest, hlinked, rfl⟩
    rw [verifyRows, hrow]
    exact ⟨_, rfl⟩
  · rw [hsplit, if_neg e, List.append_nil]
    exact ⟨p, hp⟩

end Append

/-! ## 6. Growth -/

/-- The journal grew by appending events whose text reads back as it was written. -/
inductive Grown (env : JournalEnv) : List EventRow → List EventRow → Prop where
  | refl (rows : List EventRow) : Grown env rows rows
  | append {rows middle : List EventRow} {taskId : String} {event : Json} {row : EventRow} :
      Grown env rows middle → Appended env middle taskId event row → env.reread event = event →
      Grown env rows (middle ++ [row])

theorem Grown.trans {a b c : List EventRow} (h : Grown env a b) (k : Grown env b c) :
    Grown env a c := by
  induction k with
  | refl => exact h
  | append _ happ hread ih => exact .append ih happ hread

/-- No row is lost or changed. -/
theorem Grown.keeps {a b : List EventRow} (h : Grown env a b) : a <+: b := by
  induction h with
  | refl => exact List.prefix_refl _
  | append _ _ _ ih => exact ih.trans (List.prefix_append _ _)

/-- What holds of a journal that only grew by appending. -/
structure Sound (env : JournalEnv) (rows : List EventRow) : Prop where
  chained : Chained env rows
  distinct : (rows.map EventRow.eventId).Nodup

theorem sound_nil : Sound env [] := ⟨chained_nil, List.nodup_nil⟩

theorem Sound.append {taskId : String} {event : Json}
    (h : Sound env rows) (happ : Appended env rows taskId event row)
    (hread : env.reread event = event) : Sound env (rows ++ [row]) := by
  refine ⟨h.chained.append happ hread, ?_⟩
  have hfresh : ∀ other ∈ rows, other.eventId ≠ row.eventId := by
    intro other hmem e
    have hconflict := List.any_eq_false.mp happ.fresh other hmem
    simp [e] at hconflict
  rw [List.map_append, List.nodup_append']
  refine ⟨h.distinct, List.nodup_singleton _, ?_⟩
  intro id hid hrow
  obtain ⟨other, hmem, rfl⟩ := List.mem_map.mp hid
  exact hfresh other hmem (List.mem_singleton.mp hrow)

/-- **Growth keeps a journal sound.** -/
theorem Grown.sound {a b : List EventRow} (h : Grown env a b) (hs : Sound env a) : Sound env b := by
  induction h with
  | refl => exact hs
  | append _ happ hread ih => exact ih.append happ hread

/-- An event identity finds its row. -/
theorem Sound.find (h : Sound env rows) (hr : row ∈ rows)
    {p : EventRow → Bool} (hp : p row = true) (hid : ∀ r, p r = true → r.eventId = row.eventId) :
    rows.find? p = some row := by
  cases hf : rows.find? p with
  | none => exact absurd hp (List.find?_eq_none.mp hf row hr)
  | some found =>
      have hmem := List.mem_of_find?_eq_some hf
      have he := hid found (List.find?_some hf)
      exact congrArg some (List.inj_on_of_nodup_map h.distinct hmem hr he)

/-- Every row of a chained journal continued its stream when it was appended. -/
theorem Chained.linked (h : Chained env rows)
    (hr : row ∈ rows) : ∃ p latest, Linked env row.streamId p row latest := by
  obtain ⟨q, hq⟩ := h ⟨row.streamId, none, ""⟩
  have hmem : row ∈ streamRows rows row.streamId := List.mem_filter.mpr ⟨hr, by simp⟩
  obtain ⟨before, after, hsplit⟩ := List.append_of_mem hmem
  rw [hsplit, verifyRows_append, bind_eq_ok'] at hq
  obtain ⟨p, _, hq⟩ := hq
  rw [verifyRows, bind_eq_ok'] at hq
  obtain ⟨p', hp', _⟩ := hq
  obtain ⟨latest, hlinked, _⟩ := verifyRow_ok.mp hp'
  exact ⟨p, latest, hlinked⟩

/-- A row stands in the stream of its Task. -/
theorem Chained.streamId_eq (h : Chained env rows)
    (hr : row ∈ rows) : row.streamId = streamIdText env.digest row.taskId := by
  obtain ⟨p, latest, hlinked⟩ := h.linked hr
  obtain ⟨task, htask, hstream⟩ := Option.bind_eq_some_iff.mp hlinked.own
  have hid := (carriesRevision_of_index hlinked.index).2
  rw [htask, Option.getD_some] at hid
  cases hs : streamId env.digest task with
  | error e =>
      rw [hs] at hstream
      cases hstream
  | ok stream =>
      rw [hs] at hstream
      have e : stream = row.streamId := Option.some.inj hstream
      rw [← e, hid]
      exact (streamId_ok hs).2

/-! ## 7. Prefixes -/

/-- **Every prefix of a chained stream verifies**, up to any of its rows. -/
theorem Chained.verifyStream {t : String}
    (hc : Chained env rows) (hrow : row ∈ rows) (hstream : validateStreamId row.streamId = .ok ())
    (htime : (env.rfc3339 t).isSome) (hbound : row.sequence < 2 ^ 63) :
    ∃ result, verifyStream env rows row.streamId (some row.sequence) none t = .ok result ∧
      result.valid = true := by
  let v : Verification := ⟨row.streamId, none, t⟩
  obtain ⟨p, hp⟩ := hc v
  have hv := verified_of_verifyRows hp
  have hmem : row ∈ streamRows rows row.streamId := List.mem_filter.mpr ⟨hrow, by simp⟩
  obtain ⟨hpos, hle⟩ := hv.sequence_mem hmem
  have hselected : selectedRows rows row.streamId (some row.sequence) =
      (streamRows rows row.streamId).take row.sequence := by
    unfold selectedRows
    have hupTo := hv.upTo row.sequence
    simp only [Option.all_some]
    rw [hupTo]
    have hrising : ((streamRows rows row.streamId).take row.sequence).Pairwise
        fun a b => a.sequence ≤ b.sequence :=
      (hv.rising.sublist (List.take_sublist _ _)).imp fun hlt => Nat.le_of_lt hlt
    exact hrising.insertionSort_eq
  obtain ⟨q, hq⟩ : ∃ q, verifyRows env v .start
      ((streamRows rows row.streamId).take row.sequence) = .ok q := by
    rw [← List.take_append_drop row.sequence (streamRows rows row.streamId), verifyRows_append,
      bind_eq_ok'] at hp
    obtain ⟨q, hq, _⟩ := hp
    exact ⟨q, hq⟩
  have hvq := verified_of_verifyRows hq
  have hlength : ((streamRows rows row.streamId).take row.sequence).length = row.sequence := by
    rw [List.length_take]
    exact Nat.min_eq_left hle
  obtain ⟨head, hhead⟩ : ∃ head, q.previous = some head := by
    cases hl : ((streamRows rows row.streamId).take row.sequence).getLast? with
    | none =>
        have hnil := List.getLast?_eq_none_iff.mp hl
        rw [hnil] at hlength
        have : (0 : Nat) = row.sequence := hlength
        omega
    | some last => exact ⟨last.eventHash, by rw [hvq.head, hl]; rfl⟩
  have hto : q.expectedSequence - 1 = row.sequence := by
    have := hvq.next
    omega
  refine ⟨requireThrough v (some row.sequence) (finishVerification v q), ?_, ?_⟩
  · have hupper : rejectIf ((some row.sequence).any fun upper => decide (2 ^ 63 ≤ upper))
        (Error.invalidRecord "verification sequence exceeds SQLite range") = .ok () :=
      rejectIf_ok.mpr (decide_eq_false (by omega))
    have htimestamp : validateTimestamp env.rfc3339 t = .ok () :=
      rejectIf_ok.mpr (by rw [Option.isNone_eq_false_iff]; exact htime)
    have hcheckpoint : validateCheckpoint none = .ok () := rfl
    unfold Provenance.verifyStream
    rw [hstream, ok_bind, htimestamp, ok_bind, hcheckpoint, ok_bind, hupper, ok_bind, hselected]
    dsimp only
    rw [show verifyRows env ⟨row.streamId, none, t⟩ .start
      ((streamRows rows row.streamId).take row.sequence) = .ok q from hq]
    rfl
  · unfold requireThrough finishVerification
    rw [hhead]
    simp [v, hto]

/-- **A chained stream verifies as a whole.** -/
theorem Chained.verifyWhole {t : String}
    (hc : Chained env rows) (hrow : row ∈ rows) (hstream : validateStreamId row.streamId = .ok ())
    (htime : (env.rfc3339 t).isSome) :
    ∃ result, Provenance.verifyStream env rows row.streamId none none t = .ok result ∧
      result.valid = true := by
  let v : Verification := ⟨row.streamId, none, t⟩
  obtain ⟨p, hp⟩ := hc v
  have hv := verified_of_verifyRows hp
  have hmem : row ∈ streamRows rows row.streamId := List.mem_filter.mpr ⟨hrow, by simp⟩
  have hselected : selectedRows rows row.streamId none = streamRows rows row.streamId := by
    unfold selectedRows
    have hall : ((streamRows rows row.streamId).filter fun other =>
        (none : Option Nat).all fun upper => decide (other.sequence ≤ upper)) =
        streamRows rows row.streamId := List.filter_eq_self.mpr fun _ _ => rfl
    rw [hall]
    have hrising := hv.rising.imp fun {a b : EventRow} (hlt : a.sequence < b.sequence) =>
      Nat.le_of_lt hlt
    exact hrising.insertionSort_eq
  obtain ⟨head, hhead⟩ : ∃ head, p.previous = some head := by
    cases hl : (streamRows rows row.streamId).getLast? with
    | none =>
        rw [List.getLast?_eq_none_iff.mp hl] at hmem
        cases hmem
    | some last => exact ⟨last.eventHash, by rw [hv.head, hl]; rfl⟩
  refine ⟨finishVerification v p, ?_, ?_⟩
  · have htimestamp : validateTimestamp env.rfc3339 t = .ok () :=
      rejectIf_ok.mpr (by rw [Option.isNone_eq_false_iff]; exact htime)
    have hcheckpoint : validateCheckpoint none = .ok () := rfl
    have hupper : rejectIf ((none : Option Nat).any fun upper => decide (2 ^ 63 ≤ upper))
        (Error.invalidRecord "verification sequence exceeds SQLite range") = .ok () := rfl
    unfold Provenance.verifyStream
    rw [hstream, ok_bind, htimestamp, ok_bind, hcheckpoint, ok_bind, hupper, ok_bind, hselected]
    dsimp only
    rw [show verifyRows env ⟨row.streamId, none, t⟩ .start (streamRows rows row.streamId) = .ok p from hp]
    rfl
  · unfold finishVerification
    rw [hhead]
    simp [v]

/-- The rows of one Task stand in the order of their sequence numbers. -/
theorem Chained.task_rising (hc : Chained env rows) (taskId : String)
    (q : EventRow → Bool) : (rows.filter fun row => row.taskId = taskId && q row).Pairwise fun a b =>
      a.sequence < b.sequence := by
  obtain ⟨p, hp⟩ := hc ⟨streamIdText env.digest taskId, none, ""⟩
  have hrising := (verified_of_verifyRows hp).rising
  have hstream : (rows.filter fun row => row.taskId = taskId && q row) =
      (streamRows rows (streamIdText env.digest taskId)).filter fun row => row.taskId = taskId && q row := by
    unfold streamRows
    rw [List.filter_filter]
    refine List.filter_congr fun row hrow => ?_
    by_cases e : row.taskId = taskId
    · have hs := hc.streamId_eq hrow
      rw [e] at hs
      simp [e, hs]
    · simp [e]
  rw [hstream]
  exact hrising.sublist List.filter_sublist

end Aios.Provenance
