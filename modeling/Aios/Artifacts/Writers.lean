/-
  File:      Aios/Artifacts/Writers.lean
  Subject:   WHAT ONE OPERATION OF A STAGING WRITER LEAVES BEHIND, whatever it runs into.

  * `Holds` -- the lease, the session and the generation of the row are the ones of the writer;
  * `Attested` -- a seal, and what there is of a pending one, is the seal of the bytes;
  * `WriterInv` -- the counter, the position and the progress of a writer agree with the files;
  * `Moved`, `Answered` -- the files and the writer behind an operation, and what its answer says;
  * `apply_outcome` -- every operation keeps the invariant and moves so.

  `WriterInv` speaks of the files only for the writer last admitted: the fence refuses every primitive
  of the others, so nothing they believe of the files matters.
-/
import Aios.Artifacts.Staging
import Aios.Lib.Except

namespace Aios.Artifacts

open Lib Tasks

variable {env : StagingEnv} {s s' : Staging} {w w' : StagingWriter} {answer : Option Answer}

/-! ## 1. The fence -/

/-- The writer is the one the row was last admitted to, under the lease that is held now. -/
structure Holds (s : Staging) (f : WriterFence) : Prop where
  lease : s.lease = f.lease
  state : s.row.state = .writing
  session : s.row.writerSessionId = some f.session
  generation : s.row.writerGeneration = f.generation

variable {step : FinishStep} {e : LockedEntry} {text : Bytes} {offset : Nat}

theorem validateWriterAuthority_ok {now : String} {lease : Lease} {grantAdmission : Option GrantAdmission}
    (h : validateWriterAuthority env s e now lease grantAdmission = .ok ()) :
    s.lease = lease ∧ s.row.state = .writing := by
  unfold validateWriterAuthority at h
  simp only [bind_eq_ok', exists_unit, rejectIf_ok, decide_eq_false_iff_not, not_not] at h
  obtain ⟨hlease, _, hstate, _⟩ := h
  exact ⟨hlease, hstate⟩

theorem ensureWriterUnsealed_ok (h : ensureWriterUnsealed s e = .ok ()) : s.closed = false := by
  unfold ensureWriterUnsealed at h
  simp only [bind_eq_ok', exists_unit, rejectIf_ok] at h
  exact h.2

theorem validateWriterFence_ok {now : String} {f : WriterFence}
    (h : validateWriterFence env s e now f = .ok ()) : Holds s f := by
  unfold validateWriterFence at h
  simp only [bind_eq_ok', exists_unit, rejectIf_ok, Bool.or_eq_false_iff, decide_eq_false_iff_not, not_not] at h
  obtain ⟨hauthority, hsession, hgeneration⟩ := h
  obtain ⟨hlease, hstate⟩ := validateWriterAuthority_ok hauthority
  exact ⟨hlease, hstate, hsession, hgeneration⟩

/-- **A primitive is called for the holder alone.** -/
theorem permits_ok {f : WriterFence} {unsealed : Bool}
    (h : e.permits env s f unsealed = .ok ()) : Holds s f ∧ (unsealed = true → s.closed = false) := by
  unfold LockedEntry.permits at h
  simp only [bind_eq_ok', exists_unit, rejectIf_ok] at h
  obtain ⟨_, now, _, _, _, _, hfence, _, hsealed⟩ := h
  refine ⟨validateWriterFence_ok hfence, ?_⟩
  intro hunsealed
  rw [if_pos hunsealed] at hsealed
  exact ensureWriterUnsealed_ok hsealed

/-! ## 2. The files -/

theorem writeAt_end (content chunk : Bytes) : writeAt content content.length chunk = content ++ chunk := by
  simp [writeAt]

/-- The bytes of the file; an allocation without one has none. -/
def Staging.content (s : Staging) : Bytes := s.bytes.getD []

/-- The text of the seal of the bytes that are there. -/
def Staging.attestation (env : StagingEnv) (s : Staging) : Bytes := env.toVec (env.sealOf s.content)

/-- **What is sealed is the seal of the bytes**, and what is pending the first part of it. -/
structure Attested (env : StagingEnv) (s : Staging) : Prop where
  sealed : ∀ text, s.sealed = some text → text = s.attestation env
  pending : ∀ text, s.pending = some text → text <+: s.attestation env

/-- The three files are what they were. -/
structure SameFiles (s s' : Staging) : Prop where
  bytes : s'.bytes = s.bytes
  pending : s'.pending = s.pending
  sealed : s'.sealed = s.sealed

theorem SameFiles.refl (s : Staging) : SameFiles s s := ⟨rfl, rfl, rfl⟩

theorem SameFiles.content (h : SameFiles s s') : s'.content = s.content := by
  unfold Staging.content
  rw [h.bytes]

theorem SameFiles.attestation (h : SameFiles s s') : s'.attestation env = s.attestation env := by
  unfold Staging.attestation
  rw [h.content]

theorem SameFiles.closed (h : SameFiles s s') : s'.closed = s.closed := by
  unfold Staging.closed
  rw [h.pending, h.sealed]

theorem SameFiles.attested (h : SameFiles s s') (ha : Attested env s) : Attested env s' := by
  constructor
  · intro text htext
    rw [h.attestation]
    exact ha.sealed text (h.sealed ▸ htext)
  · intro text htext
    rw [h.attestation]
    exact ha.pending text (h.pending ▸ htext)

/-- Where neither a seal nor a pending one is there, nothing is attested. -/
theorem Attested.of_open (h : s.closed = false) : Attested env s := by
  unfold Staging.closed at h
  rw [Bool.or_eq_false_iff, Option.isSome_eq_false_iff, Option.isSome_eq_false_iff, Option.isNone_iff_eq_none,
    Option.isNone_iff_eq_none] at h
  constructor
  · intro text htext
    rw [h.1] at htext
    cases htext
  · intro text htext
    rw [h.2] at htext
    cases htext

/-! ## 3. One writer -/

/-- How far `finish` has come, told by the files. -/
def FinishStep.Told (env : StagingEnv) (s : Staging) (text : Bytes) (offset : Nat) : FinishStep → Prop
  | .flush | .sync => text = [] ∧ offset = 0
  | .hash => text <+: s.content
  | .createPending => text = s.attestation env ∧ offset = 0
  | .permissions => text = s.attestation env ∧ offset = 0 ∧ s.pending = some []
  | .writeSeal => text = s.attestation env ∧ offset ≤ text.length ∧ s.pending = some (text.take offset)
  | .sealFlush | .sealSync | .syncDirectory | .rename => text = s.attestation env ∧ s.pending = some text
  | .syncFinal => text = s.attestation env ∧ s.sealed = some text

theorem FinishStep.Told.same (hfiles : SameFiles s s')
    (h : step.Told env s text offset) : step.Told env s' text offset := by
  cases step <;> simp only [FinishStep.Told, hfiles.content, hfiles.attestation, hfiles.pending, hfiles.sealed] at h ⊢ <;>
    exact h

/-- What a writer and the files agree on. -/
structure WriterInv (env : StagingEnv) (s : Staging) (w : StagingWriter) : Prop where
  admitted : w.fence.generation ≤ s.row.writerGeneration
  maximum : w.maximum = s.row.maximum
  limit : w.written ≤ w.maximum
  /-- The write that is under way stays within the limit. -/
  buffer : ∀ buffer, w.phase = .writing buffer → w.written + buffer.length ≤ w.maximum
  cursor : w.poisoned = false → w.cursor = w.written
  /-- The counter of the writer last admitted is the length of the file. -/
  counted : w.fence.generation = s.row.writerGeneration → w.poisoned = false →
    ∃ content, s.bytes = some content ∧ content.length = w.written
  /-- A poisoned writer is in no call. -/
  rests : w.poisoned = true → w.phase = .idle ∨ w.phase = .finished
  told : w.fence.generation = s.row.writerGeneration → ∀ step prepared text offset,
    w.phase = .finishing step prepared text offset → step.Told env s text offset

/-- **A writer loses nothing by what others do**, as long as the files stay where it is the one last
    admitted. -/
theorem WriterInv.frame (h : WriterInv env s w) (hgeneration : s.row.writerGeneration ≤ s'.row.writerGeneration)
    (hmaximum : s'.row.maximum = s.row.maximum)
    (hfiles : s'.row.writerGeneration = s.row.writerGeneration → w.fence.generation = s.row.writerGeneration →
      SameFiles s s') : WriterInv env s' w where
  admitted := Nat.le_trans h.admitted hgeneration
  maximum := by rw [hmaximum]; exact h.maximum
  limit := h.limit
  buffer := h.buffer
  cursor := h.cursor
  rests := h.rests
  counted := by
    intro hlatest hpoisoned
    have hadmitted := h.admitted
    have hsame : s'.row.writerGeneration = s.row.writerGeneration := by omega
    rw [(hfiles hsame (hlatest.trans hsame)).bytes]
    exact h.counted (hlatest.trans hsame) hpoisoned
  told := by
    intro hlatest step prepared text offset hphase
    have hadmitted := h.admitted
    have hsame : s'.row.writerGeneration = s.row.writerGeneration := by omega
    exact (h.told (hlatest.trans hsame) step prepared text offset hphase).same
      (hfiles hsame (hlatest.trans hsame))

/-- A writer that goes on in another phase. -/
theorem WriterInv.rephase (h : WriterInv env s w) {phase : WriterPhase}
    (hbuffer : ∀ buffer, phase = .writing buffer → w.written + buffer.length ≤ w.maximum)
    (hrests : w.poisoned = true → phase = .idle ∨ phase = .finished)
    (htold : w.fence.generation = s.row.writerGeneration → ∀ step prepared text offset,
      phase = .finishing step prepared text offset → step.Told env s text offset) :
    WriterInv env s { w with phase := phase } where
  admitted := h.admitted
  maximum := h.maximum
  limit := h.limit
  buffer := hbuffer
  cursor := h.cursor
  counted := h.counted
  rests := hrests
  told := htold

theorem WriterInv.finished (h : WriterInv env s w) : WriterInv env s { w with phase := .finished } := by
  refine h.rephase ?_ ?_ ?_
  · intro buffer hphase
    cases hphase
  · exact fun _ => .inr rfl
  · intro _ step prepared text offset hphase
    cases hphase

theorem WriterInv.poison (h : WriterInv env s w) : WriterInv env s w.poison where
  admitted := h.admitted
  maximum := h.maximum
  limit := h.limit
  buffer := by
    intro buffer hphase
    cases hphase
  cursor := by
    intro hpoisoned
    cases hpoisoned
  counted := by
    intro _ hpoisoned
    cases hpoisoned
  rests := fun _ => .inl rfl
  told := by
    intro _ step prepared text offset hphase
    cases hphase

/-- `finish` goes on, where the files tell of it, or is over. -/
theorem WriterInv.finishing (h : WriterInv env s w) (hclean : w.poisoned = false) (hrow : s'.row = s.row)
    (hbytes : s'.bytes = s.bytes) {phase : WriterPhase}
    (hphase : phase = .finished ∨ ∃ step prepared text offset, phase = .finishing step prepared text offset ∧
      (w.fence.generation = s.row.writerGeneration → step.Told env s' text offset)) :
    WriterInv env s' { w with phase := phase } where
  admitted := by rw [hrow]; exact h.admitted
  maximum := by rw [hrow]; exact h.maximum
  limit := h.limit
  buffer := by
    intro buffer hwriting
    rcases hphase with hphase | ⟨_, _, _, _, hphase, _⟩ <;> rw [hphase] at hwriting <;> cases hwriting
  cursor := h.cursor
  counted := by
    intro hlatest hpoisoned
    rw [hrow] at hlatest
    rw [hbytes]
    exact h.counted hlatest hpoisoned
  rests := by
    intro hpoisoned
    rw [hclean] at hpoisoned
    cases hpoisoned
  told := by
    intro hlatest step prepared text offset hfinishing
    rw [hrow] at hlatest
    rcases hphase with hphase | ⟨_, _, _, _, hphase, htold⟩
    · rw [hphase] at hfinishing
      cases hfinishing
    · rw [hphase] at hfinishing
      cases hfinishing
      exact htold hlatest

/-- A call that is under way is one of a writer that is not poisoned. -/
theorem WriterInv.clean (h : WriterInv env s w) (hidle : w.phase ≠ .idle) (hfinished : w.phase ≠ .finished) :
    w.poisoned = false := by
  cases hpoisoned : w.poisoned with
  | false => rfl
  | true =>
      rcases h.rests hpoisoned with hphase | hphase
      · exact absurd hphase hidle
      · exact absurd hphase hfinished

/-! ## 4. What each operation can do -/

theorem beginWrite_cases (buffer : Bytes) (reentry : Bool) (assessed prepared : TaskResult Unit) :
    (w.poisoned = false ∧ w.written + buffer.length ≤ w.maximum ∧
      w.beginWrite s buffer reentry assessed prepared = ({ w with phase := .writing buffer }, none)) ∨
    ∃ e, w.beginWrite s buffer reentry assessed prepared = (w, some (.wrote (.error e))) := by
  unfold StagingWriter.beginWrite
  dsimp only
  split
  · next hadmitted =>
    simp only [bind_eq_ok', exists_unit, rejectIf_ok, decide_eq_false_iff_not, Nat.not_lt] at hadmitted
    exact .inl ⟨hadmitted.2.1, hadmitted.2.2.2.1, rfl⟩
  · next e _ => exact .inr ⟨e, rfl⟩

theorem beginFlush_cases (reentry : Bool) (prepared : TaskResult Unit) :
    (w.poisoned = false ∧ w.beginFlush s reentry prepared = ({ w with phase := .flushing }, none)) ∨
    (∃ e, w.beginFlush s reentry prepared = (w, some (.flushed (.error e)))) ∨
    ∃ e, w.beginFlush s reentry prepared = (w.poison, some (.flushed (.error e))) := by
  unfold StagingWriter.beginFlush
  dsimp only
  split
  · next e _ => exact .inr (.inl ⟨e, rfl⟩)
  · next hadmitted =>
    simp only [bind_eq_ok', exists_unit, rejectIf_ok] at hadmitted
    split
    · exact .inl ⟨hadmitted.2, rfl⟩
    · next e _ => exact .inr (.inr ⟨e, rfl⟩)

theorem beginFinish_cases (reentry : Bool) :
    (w.poisoned = false ∧ w.beginFinish reentry = ({ w with phase := .finishing .flush false [] 0 }, none)) ∨
    ∃ e, w.beginFinish reentry = w.finishWith (.error e) := by
  unfold StagingWriter.beginFinish
  dsimp only
  split
  · next hadmitted =>
    simp only [bind_eq_ok', exists_unit, rejectIf_ok] at hadmitted
    exact .inl ⟨hadmitted.2, rfl⟩
  · next e _ => exact .inr ⟨e, rfl⟩

/-- Bytes are written by the holder, while nothing is sealed; an error leaves the writer poisoned. -/
theorem enterWrite_cases (buffer : Bytes) (e : LockedEntry) (io : WriteIo) :
    (∃ error, w.enterWrite env s buffer e io = (s, w.poison, .wrote (.error error))) ∨
    (Holds s w.fence ∧ s.closed = false ∧
      ((∃ chunk poisoned, chunk <+: buffer ∧ w.enterWrite env s buffer e io =
          ({ s with bytes := s.bytes.map fun content => writeAt content w.cursor chunk },
            { w with written := w.written + chunk.length, cursor := w.cursor + chunk.length, poisoned := poisoned, phase := .idle },
            .wrote (.ok chunk.length))) ∨
        (∃ chunk error, w.enterWrite env s buffer e io =
          ({ s with bytes := s.bytes.map fun content => writeAt content w.cursor chunk },
            { w with cursor := w.cursor + chunk.length, poisoned := true, phase := .idle },
            .wrote (.error error))))) := by
  unfold StagingWriter.enterWrite
  split
  · next error _ => exact .inl ⟨error, rfl⟩
  · next hpermits =>
    obtain ⟨hholds, hopen⟩ := permits_ok hpermits
    refine .inr ⟨hholds, hopen rfl, ?_⟩
    unfold WriteIo.result
    cases herror : io.error with
    | none => exact .inl ⟨io.chunk buffer, e.resolved.toOption.isNone, List.take_prefix _ _, by simp⟩
    | some error => exact .inr ⟨io.chunk buffer, error, by simp⟩

theorem enterFlush_cases (e : LockedEntry) (io : PrimitiveIo) :
    w.enterFlush env s e io = ({ w with phase := .idle }, .flushed (.ok ())) ∨
    ∃ error, w.enterFlush env s e io = (w.poison, .flushed (.error error)) := by
  unfold StagingWriter.enterFlush
  dsimp only
  split
  · exact .inl rfl
  · next error _ => exact .inr ⟨error, rfl⟩

theorem prepareFinish_cases (step : FinishStep) (text : Bytes) (offset : Nat) (prepared : TaskResult Unit) :
    w.prepareFinish s step text offset prepared = ({ w with phase := .finishing step true text offset }, none) ∨
    ∃ error, w.prepareFinish s step text offset prepared = w.finishWith (.error error) := by
  unfold StagingWriter.prepareFinish
  split
  · exact .inl rfl
  · next error _ => exact .inr ⟨error, rfl⟩

/-- A read goes on behind what was read; at the end of the file its size is compared. -/
theorem hashStep_cases (text : Bytes) (read : TaskResult Nat) :
    (∃ error, w.hashStep env s text read = w.finishWith (.error error)) ∨
    (∃ chunk, chunk <+: s.content.drop text.length ∧
      w.hashStep env s text read = w.proceed .hash (text ++ chunk) 0) ∨
    (s.content.drop text.length = [] ∧
      w.hashStep env s text read = w.proceed .createPending (env.toVec (env.sealOf text)) 0) := by
  unfold StagingWriter.hashStep
  split
  · next error => exact .inl ⟨error, rfl⟩
  · next count =>
    split
    · next hchunk =>
      have hend : s.content.drop text.length = [] := by
        have hlength := congrArg List.length hchunk
        rw [List.length_take, List.length_nil] at hlength
        exact List.eq_nil_of_length_eq_zero (by unfold Staging.content; omega)
      dsimp only
      split
      · exact .inl ⟨_, rfl⟩
      · exact .inr (.inr ⟨hend, rfl⟩)
    · exact .inr (.inl ⟨_, List.take_prefix _ _, rfl⟩)

/-- A step of `finish` is the step of the holder; where it fails its effect may be there. -/
theorem enterFinish_cases (step : FinishStep) (text : Bytes) (offset : Nat) (e : LockedEntry) (io : PrimitiveIo) :
    (∃ error, w.enterFinish env s step text offset e io = (s, w.finishWith (.error error))) ∨
    (Holds s w.fence ∧ (step.unsealed = true → s.closed = false) ∧
      ((∃ error, w.enterFinish env s step text offset e io = (step.effect s, w.finishWith (.error error))) ∨
        w.enterFinish env s step text offset e io = (step.effect s, w.after step text offset))) := by
  unfold StagingWriter.enterFinish
  split
  · next error _ => exact .inl ⟨error, rfl⟩
  · next hpermits =>
    obtain ⟨hholds, hopen⟩ := permits_ok hpermits
    dsimp only
    split
    · next error _ =>
      unfold PrimitiveIo.run
      split
      · exact .inr ⟨hholds, hopen, .inl ⟨error, rfl⟩⟩
      · exact .inl ⟨error, rfl⟩
    · next houtcome =>
      simp only [bind_eq_ok', exists_unit] at houtcome
      have hio : io.error = none := by
        have hresult := houtcome.2
        unfold PrimitiveIo.result at hresult
        cases herror : io.error with
        | none => rfl
        | some error =>
            rw [herror] at hresult
            cases hresult
      unfold PrimitiveIo.run
      rw [hio]
      exact .inr ⟨hholds, hopen, .inr rfl⟩

/-- So many bytes of the seal reach the pending file, whatever the call returns. -/
theorem enterWriteSeal_cases (text : Bytes) (offset : Nat) (e : LockedEntry) (io : WriteIo) :
    (∃ error, w.enterWriteSeal env s text offset e io = (s, w.finishWith (.error error))) ∨
    (Holds s w.fence ∧ ∃ chunk, chunk <+: text.drop offset ∧
      ((∃ error, w.enterWriteSeal env s text offset e io =
          ({ s with pending := s.pending.map fun content => content ++ chunk }, w.finishWith (.error error))) ∨
        w.enterWriteSeal env s text offset e io =
          ({ s with pending := s.pending.map fun content => content ++ chunk },
            if offset + chunk.length < text.length then w.proceed .writeSeal text (offset + chunk.length)
            else w.proceed .sealFlush text (offset + chunk.length)))) := by
  unfold StagingWriter.enterWriteSeal
  split
  · next error _ => exact .inl ⟨error, rfl⟩
  · next hpermits =>
    refine .inr ⟨(permits_ok hpermits).1, io.chunk (text.drop offset), List.take_prefix _ _, ?_⟩
    dsimp only
    split
    · next error _ => exact .inl ⟨error, rfl⟩
    · next n houtcome =>
      simp only [bind_eq_ok', exists_unit, rejectIf_ok] at houtcome
      obtain ⟨_, m, hresult, _, hm⟩ := houtcome
      have hn : (io.chunk (text.drop offset)).length = n := by
        unfold WriteIo.result at hresult
        cases herror : io.error with
        | none =>
            rw [herror] at hresult
            exact (Except.ok.inj hresult).trans (Except.ok.inj hm)
        | some error =>
            rw [herror] at hresult
            cases hresult
      rw [hn]
      refine .inr ?_
      split
      · rfl
      · rfl

/-! ## 5. One operation -/

/-- **What one operation of a writer leaves behind.** -/
structure Moved (env : StagingEnv) (s : Staging) (w : StagingWriter) (s' : Staging) (w' : StagingWriter) : Prop where
  row : s'.row = s.row
  lease : s'.lease = s.lease
  fence : w'.fence = w.fence
  /-- Whatever it changes, it changes as the holder. -/
  files : SameFiles s s' ∨ Holds s w.fence
  /-- Bytes are written by a call of `write` while nothing is sealed. -/
  bytes : s'.bytes = s.bytes ∨ s.closed = false ∧ Holds s w.fence ∧ ∃ buffer, w.phase = .writing buffer
  created : s.bytes.isSome = true → s'.bytes.isSome = true
  closed : s.closed = true → s'.closed = true
  kept : WriterInv env s' w'
  attested : Attested env s'

def Answer.failed : Answer → Prop
  | .opened result => result.toOption = none
  | .wrote result => result.toOption = none
  | .flushed result => result.toOption = none
  | .finished result => result.toOption = none

/-- **What the caller can conclude from the answer.** -/
structure Answered (env : StagingEnv) (s : Staging) (w : StagingWriter) (s' : Staging) (w' : StagingWriter)
    (answer : Option Answer) : Prop where
  wrote : ∀ n, answer = some (.wrote (.ok n)) → s.closed = false
  /-- A write that failed was refused before its marker, or has poisoned the writer. -/
  failedWrite : ∀ e, answer = some (.wrote (.error e)) →
    w'.poisoned = true ∨ w.phase = .idle ∧ s' = s ∧ w' = w
  failedFlush : ∀ e, answer = some (.flushed (.error e)) →
    w'.poisoned = true ∨ w.phase = .idle ∧ s' = s ∧ w' = w
  finished : ∀ result, answer = some (.finished result) → w'.phase = .finished
  /-- A `finish` that returns a size leaves the seal of the bytes behind. -/
  sealed : ∀ size, answer = some (.finished (.ok size)) →
    size = s'.content.length ∧ s'.sealed = some (s'.attestation env)
  /-- A poisoned writer does nothing any more, and says so. -/
  inert : w.poisoned = true → s' = s ∧ w'.poisoned = true ∧ ∀ a, answer = some a → a.failed

/-- An operation that leaves the files alone. -/
theorem Moved.still (hfence : w'.fence = w.fence) (hkept : WriterInv env s w') (hattested : Attested env s) :
    Moved env s w s w' where
  row := rfl
  lease := rfl
  fence := hfence
  files := .inl (SameFiles.refl s)
  bytes := .inl rfl
  created := id
  closed := id
  kept := hkept
  attested := hattested

theorem Answered.none (hclean : w.poisoned = true → s' = s ∧ w'.poisoned = true) :
    Answered env s w s' w' none where
  wrote := nofun
  failedWrite := nofun
  failedFlush := nofun
  finished := nofun
  sealed := nofun
  inert := fun h => ⟨(hclean h).1, (hclean h).2, by intro _ ha; cases ha⟩

/-- A call ends with an error and leaves the writer poisoned, or as it was. -/
theorem Answered.refused {e : TaskManagerError} (hanswer : answer = some (.wrote (.error e)) ∨ answer = some (.flushed (.error e)))
    (h : w'.poisoned = true ∨ w.phase = .idle ∧ s' = s ∧ w' = w) (hstill : s' = s)
    (hpoisoned : w.poisoned = true → w'.poisoned = true) : Answered env s w s' w' answer where
  wrote := by
    intro n hn
    rcases hanswer with hanswer | hanswer <;> rw [hanswer] at hn <;> cases hn
  failedWrite := fun _ _ => h
  failedFlush := fun _ _ => h
  finished := by
    intro n hn
    rcases hanswer with hanswer | hanswer <;> rw [hanswer] at hn <;> cases hn
  sealed := by
    intro n hn
    rcases hanswer with hanswer | hanswer <;> rw [hanswer] at hn <;> cases hn
  inert := by
    intro hp
    refine ⟨hstill, hpoisoned hp, ?_⟩
    intro a ha
    rcases hanswer with hanswer | hanswer <;> rw [hanswer] at ha <;> cases ha <;> rfl

/-- `finish` ends with an error. -/
theorem Answered.finishError (e : TaskManagerError) (hstill : w.poisoned = true → s' = s) :
    Answered env s w s' (w.finishWith (.error e)).1 (w.finishWith (.error e)).2 where
  wrote := nofun
  failedWrite := nofun
  failedFlush := nofun
  finished := fun _ _ => rfl
  sealed := nofun
  inert := by
    intro hpoisoned
    refine ⟨hstill hpoisoned, hpoisoned, ?_⟩
    intro a ha
    cases ha
    rfl

/-- What an operation leaves behind, and its answer. -/
def Outcome (env : StagingEnv) (s : Staging) (w : StagingWriter) (r : Staging × StagingWriter × Option Answer) :
    Prop :=
  Moved env s w r.1 r.2.1 ∧ Answered env s w r.1 r.2.1 r.2.2

section Operations

variable (hinv : WriterInv env s w) (hattested : Attested env s)
include hinv hattested

/-- Nothing is done. -/
theorem outcome_none : Outcome env s w (s, w, none) :=
  ⟨.still rfl hinv hattested, .none fun h => ⟨rfl, h⟩⟩

omit hinv in
/-- A writer that is not poisoned goes on in another phase, and nothing is answered yet. -/
theorem outcome_goes (hclean : w.poisoned = false) (hfence : w'.fence = w.fence) (hkept : WriterInv env s w') :
    Outcome env s w (s, w', none) := by
  refine ⟨.still hfence hkept hattested, .none ?_⟩
  intro hpoisoned
  rw [hclean] at hpoisoned
  cases hpoisoned

theorem outcome_finishError (e : TaskManagerError) : Outcome env s w (s, w.finishWith (.error e)) :=
  ⟨.still rfl hinv.finished hattested, .finishError e fun _ => rfl⟩

theorem beginWrite_outcome (hidle : w.phase = .idle) (buffer : Bytes) (reentry : Bool)
    (assessed prepared : TaskResult Unit) : Outcome env s w (s, w.beginWrite s buffer reentry assessed prepared) := by
  obtain ⟨hclean, hlimit, heq⟩ | ⟨e, heq⟩ := beginWrite_cases (s := s) (w := w) buffer reentry assessed prepared
  · rw [heq]
    refine outcome_goes hattested hclean rfl (hinv.rephase ?_ ?_ ?_)
    · intro buffer' hphase
      cases hphase
      exact hlimit
    · intro hpoisoned
      rw [hclean] at hpoisoned
      cases hpoisoned
    · intro _ step prepared' text offset hphase
      cases hphase
  · rw [heq]
    exact ⟨.still rfl hinv hattested, .refused (.inl rfl) (.inr ⟨hidle, rfl, rfl⟩) rfl id⟩

theorem beginFlush_outcome (hidle : w.phase = .idle) (reentry : Bool) (prepared : TaskResult Unit) :
    Outcome env s w (s, w.beginFlush s reentry prepared) := by
  obtain ⟨hclean, heq⟩ | ⟨e, heq⟩ | ⟨e, heq⟩ := beginFlush_cases (s := s) (w := w) reentry prepared
  · rw [heq]
    refine outcome_goes hattested hclean rfl (hinv.rephase ?_ ?_ ?_)
    · intro buffer hphase
      cases hphase
    · intro hpoisoned
      rw [hclean] at hpoisoned
      cases hpoisoned
    · intro _ step prepared' text offset hphase
      cases hphase
  · rw [heq]
    exact ⟨.still rfl hinv hattested, .refused (.inr rfl) (.inr ⟨hidle, rfl, rfl⟩) rfl id⟩
  · rw [heq]
    exact ⟨.still rfl hinv.poison hattested, .refused (.inr rfl) (.inl rfl) rfl fun _ => rfl⟩

theorem beginFinish_outcome (reentry : Bool) : Outcome env s w (s, w.beginFinish reentry) := by
  obtain ⟨hclean, heq⟩ | ⟨e, heq⟩ := beginFinish_cases (w := w) reentry
  · rw [heq]
    exact outcome_goes hattested hclean rfl 
      (hinv.finishing hclean rfl rfl (.inr ⟨_, _, _, _, rfl, fun _ => ⟨rfl, rfl⟩⟩))
  · rw [heq]
    exact outcome_finishError hinv hattested e

/-- The bytes go behind the ones that are there, and the counter with them. -/
theorem enterWrite_outcome {buffer : Bytes} (hphase : w.phase = .writing buffer) (e : LockedEntry) (io : WriteIo) :
    Outcome env s w ((w.enterWrite env s buffer e io).1, (w.enterWrite env s buffer e io).2.1,
      some (w.enterWrite env s buffer e io).2.2) := by
  have hclean : w.poisoned = false := hinv.clean (by rw [hphase]; nofun) (by rw [hphase]; nofun)
  have hnot : ¬ w.poisoned = true := by rw [hclean]; decide
  obtain ⟨error, heq⟩ | ⟨hholds, hopen, hwritten⟩ := @enterWrite_cases env s w buffer e io
  · rw [heq]
    exact ⟨.still rfl hinv.poison hattested, .refused (.inl rfl) (.inl rfl) rfl fun h => absurd h hnot⟩
  · have hopened : ∀ bytes, ({ s with bytes := bytes } : Staging).closed = false := fun _ => hopen
    obtain ⟨content, hcontent, hlength⟩ := hinv.counted hholds.generation.symm hclean
    have hcursor := hinv.cursor hclean
    have happend : ∀ chunk, s.bytes.map (fun content => writeAt content w.cursor chunk) = some (content ++ chunk) := by
      intro chunk
      rw [hcontent, Option.map_some, hcursor, ← hlength, writeAt_end]
    obtain ⟨chunk, poisoned, hchunk, heq⟩ | ⟨chunk, error, heq⟩ := hwritten
    · rw [heq]
      have hfits : w.written + chunk.length ≤ w.maximum := by
        have hbuffer := hinv.buffer buffer hphase
        have hle := hchunk.length_le
        omega
      refine ⟨⟨rfl, rfl, rfl, .inr hholds, .inr ⟨hopen, hholds, buffer, hphase⟩,
        fun _ => congrArg Option.isSome (happend chunk), ?_, ?_, .of_open (hopened _)⟩, ?_⟩
      · intro hclosed
        rw [hopen] at hclosed
        cases hclosed
      · refine ⟨hinv.admitted, hinv.maximum, hfits, nofun, ?_, ?_, fun _ => .inl rfl,
          nofun⟩
        · intro _
          exact congrArg (· + chunk.length) hcursor
        · intro _ _
          refine ⟨content ++ chunk, happend chunk, ?_⟩
          rw [List.length_append, hlength]
      · exact ⟨fun _ _ => hopen, nofun, nofun, nofun,
          nofun, fun h => absurd h hnot⟩
    · rw [heq]
      refine ⟨⟨rfl, rfl, rfl, .inr hholds, .inr ⟨hopen, hholds, buffer, hphase⟩,
        fun _ => congrArg Option.isSome (happend chunk), ?_, ?_, .of_open (hopened _)⟩, ?_⟩
      · intro hclosed
        rw [hopen] at hclosed
        cases hclosed
      · exact ⟨hinv.admitted, hinv.maximum, hinv.limit, nofun, nofun,
          nofun, fun _ => .inl rfl, nofun⟩
      · exact ⟨nofun, fun _ _ => .inl rfl, nofun, nofun,
          nofun, fun h => absurd h hnot⟩

theorem enterFlush_outcome (hphase : w.phase = .flushing) (e : LockedEntry) (io : PrimitiveIo) :
    Outcome env s w (s, (w.enterFlush env s e io).1, some (w.enterFlush env s e io).2) := by
  have hclean : w.poisoned = false := hinv.clean (by rw [hphase]; nofun) (by rw [hphase]; nofun)
  have hnot : ¬ w.poisoned = true := by rw [hclean]; decide
  obtain heq | ⟨error, heq⟩ := @enterFlush_cases env s w e io
  · rw [heq]
    refine ⟨.still rfl (hinv.rephase ?_ (fun _ => .inl rfl) ?_) hattested, ?_⟩
    · intro buffer hphase
      cases hphase
    · intro _ step prepared text offset hphase
      cases hphase
    · exact ⟨nofun, nofun, nofun, nofun,
        nofun, fun h => absurd h hnot⟩
  · rw [heq]
    exact ⟨.still rfl hinv.poison hattested, .refused (.inr rfl) (.inl rfl) rfl fun h => absurd h hnot⟩

theorem prepareFinish_outcome {step : FinishStep} {text : Bytes} {offset : Nat}
    (hphase : w.phase = .finishing step false text offset) (prepared : TaskResult Unit) :
    Outcome env s w (s, w.prepareFinish s step text offset prepared) := by
  have hclean : w.poisoned = false := hinv.clean (by rw [hphase]; nofun) (by rw [hphase]; nofun)
  obtain heq | ⟨e, heq⟩ := prepareFinish_cases (s := s) (w := w) step text offset prepared
  · rw [heq]
    exact outcome_goes hattested hclean rfl (hinv.finishing hclean rfl rfl
      (.inr ⟨_, _, _, _, rfl, fun hlatest => hinv.told hlatest _ _ _ _ hphase⟩))
  · rw [heq]
    exact outcome_finishError hinv hattested e

/-- **What `finish` seals is what it has read**, and it has read the whole file. -/
theorem hashStep_outcome {prepared : Bool} {text : Bytes} {offset : Nat}
    (hphase : w.phase = .finishing .hash prepared text offset) (read : TaskResult Nat) :
    Outcome env s w (s, w.hashStep env s text read) := by
  have hclean : w.poisoned = false := hinv.clean (by rw [hphase]; nofun) (by rw [hphase]; nofun)
  obtain ⟨e, heq⟩ | ⟨chunk, hchunk, heq⟩ | ⟨hend, heq⟩ := @hashStep_cases env s w text read
  · rw [heq]
    exact outcome_finishError hinv hattested e
  · rw [heq]
    refine outcome_goes hattested hclean rfl (hinv.finishing hclean rfl rfl (.inr ⟨_, _, _, _, rfl, ?_⟩))
    intro hlatest
    obtain ⟨rest, hrest⟩ : text <+: s.content := hinv.told hlatest _ _ _ _ hphase
    have hdrop : s.content.drop text.length = rest := by rw [← hrest, List.drop_left]
    rw [hdrop] at hchunk
    show text ++ chunk <+: s.content
    rw [← hrest]
    exact (List.prefix_append_right_inj text).mpr hchunk
  · rw [heq]
    refine outcome_goes hattested hclean rfl (hinv.finishing hclean rfl rfl (.inr ⟨_, _, _, _, rfl, ?_⟩))
    intro hlatest
    obtain ⟨rest, hrest⟩ : text <+: s.content := hinv.told hlatest _ _ _ _ hphase
    have hall : text = s.content := by
      rw [← hrest, List.drop_left] at hend
      rw [← hrest, hend, List.append_nil]
    exact ⟨by rw [hall]; rfl, rfl⟩

end Operations

/-! ### The steps of `finish` on the seal -/

@[simp] theorem FinishStep.effect_row (step : FinishStep) : (step.effect s).row = s.row := by cases step <;> rfl

@[simp] theorem FinishStep.effect_lease (step : FinishStep) : (step.effect s).lease = s.lease := by cases step <;> rfl

@[simp] theorem FinishStep.effect_bytes (step : FinishStep) : (step.effect s).bytes = s.bytes := by cases step <;> rfl

@[simp] theorem FinishStep.effect_attestation (step : FinishStep) :
    (step.effect s).attestation env = s.attestation env := by
  cases step <;> rfl

theorem FinishStep.effect_closed (htold : step.Told env s text offset)
    (hclosed : s.closed = true) : (step.effect s).closed = true := by
  cases step with
  | createPending => exact Bool.or_true _
  | rename =>
      have hpending : s.pending = some text := htold.2
      show (s.pending.isSome || false) = true
      rw [hpending]
      rfl
  | flush | sync | hash | permissions | writeSeal | sealFlush | sealSync | syncDirectory | syncFinal => exact hclosed

theorem FinishStep.effect_attested
    (htold : step.Told env s text offset) (hattested : Attested env s) : Attested env (step.effect s) := by
  cases step with
  | createPending =>
      refine ⟨hattested.sealed, ?_⟩
      intro text' htext
      rw [← Option.some.inj htext]
      exact List.nil_prefix
  | rename =>
      refine ⟨?_, nofun⟩
      intro text' htext
      have hpending : s.pending = some text := htold.2
      rw [← Option.some.inj (hpending.symm.trans htext)]
      exact htold.1
  | flush | sync | hash | permissions | writeSeal | sealFlush | sealSync | syncDirectory | syncFinal => exact hattested

/-- **The files tell of the step that follows**, once the effect of a step is there. -/
theorem after_cases (htold : step.Told env s text offset)
    (hhash : step ≠ .hash) (hseal : step ≠ .writeSeal) :
    (step = .syncFinal ∧ w.after step text offset = w.finishWith (.ok w.written)) ∨
    ∃ next, next.Told env (step.effect s) text offset ∧ w.after step text offset = w.proceed next text offset := by
  cases step with
  | flush => exact .inr ⟨.sync, htold, rfl⟩
  | sync =>
      refine .inr ⟨.hash, ?_, rfl⟩
      show text <+: s.content
      rw [htold.1]
      exact List.nil_prefix
  | createPending => exact .inr ⟨.permissions, ⟨htold.1, htold.2, rfl⟩, rfl⟩
  | permissions =>
      obtain ⟨htext, hoffset, hpending⟩ := htold
      by_cases hrest : offset < text.length
      · refine .inr ⟨.writeSeal, ⟨htext, Nat.le_of_lt hrest, ?_⟩, congrArg (w.proceed · text offset) (if_pos hrest)⟩
        rw [hoffset]
        exact hpending
      · refine .inr ⟨.sealFlush, ⟨htext, ?_⟩, congrArg (w.proceed · text offset) (if_neg hrest)⟩
        have hempty : text = [] := List.eq_nil_of_length_eq_zero (by omega)
        rw [hempty]
        exact hpending
  | sealFlush => exact .inr ⟨.sealSync, htold, rfl⟩
  | sealSync => exact .inr ⟨.syncDirectory, htold, rfl⟩
  | syncDirectory => exact .inr ⟨.rename, htold, rfl⟩
  | rename => exact .inr ⟨.syncFinal, htold, rfl⟩
  | syncFinal => exact .inl ⟨rfl, rfl⟩
  | hash => exact absurd rfl hhash
  | writeSeal => exact absurd rfl hseal

/-- The holder goes on with its seal, or ends its `finish`; the bytes stay. -/
theorem Moved.sealing (hinv : WriterInv env s w) (hclean : w.poisoned = false) (hholds : Holds s w.fence)
    (hrow : s'.row = s.row) (hlease : s'.lease = s.lease) (hbytes : s'.bytes = s.bytes)
    (hclosed : s.closed = true → s'.closed = true) (hattested : Attested env s') (phase : WriterPhase)
    (hphase : phase = .finished ∨ ∃ step prepared text offset, phase = .finishing step prepared text offset ∧
      (w.fence.generation = s.row.writerGeneration → step.Told env s' text offset)) :
    Moved env s w s' { w with phase := phase } where
  row := hrow
  lease := hlease
  fence := rfl
  files := .inr hholds
  bytes := .inl hbytes
  created := fun h => by rw [hbytes]; exact h
  closed := hclosed
  kept := hinv.finishing hclean hrow hbytes hphase
  attested := hattested

section Sealing

variable (hinv : WriterInv env s w) (hattested : Attested env s)
include hinv hattested

theorem enterFinish_outcome {step : FinishStep} {text : Bytes} {offset : Nat}
    (hphase : w.phase = .finishing step true text offset) (hhash : step ≠ .hash) (hseal : step ≠ .writeSeal)
    (e : LockedEntry) (io : PrimitiveIo) : Outcome env s w (w.enterFinish env s step text offset e io) := by
  have hclean : w.poisoned = false := hinv.clean (by rw [hphase]; nofun) (by rw [hphase]; nofun)
  have hnot : ¬ w.poisoned = true := by rw [hclean]; decide
  obtain ⟨error, heq⟩ | ⟨hholds, _, hdone⟩ := @enterFinish_cases env s w step text offset e io
  · rw [heq]
    exact outcome_finishError hinv hattested error
  · have htold := hinv.told hholds.generation.symm _ _ _ _ hphase
    have hmoved := Moved.sealing hinv hclean hholds (step.effect_row (s := s)) step.effect_lease step.effect_bytes
      (FinishStep.effect_closed htold) (FinishStep.effect_attested htold hattested)
    obtain ⟨error, heq⟩ | heq := hdone
    · rw [heq]
      exact ⟨hmoved _ (.inl rfl), .finishError error fun h => absurd h hnot⟩
    · rw [heq]
      obtain ⟨hlast, hafter⟩ | ⟨next, hnext, hafter⟩ := after_cases (w := w) htold hhash hseal
      · rw [hafter]
        refine ⟨hmoved _ (.inl rfl), nofun, nofun, nofun, fun _ _ => rfl, ?_, fun h => absurd h hnot⟩
        intro size hsize
        cases hsize
        subst hlast
        obtain ⟨content, hcontent, hlength⟩ := hinv.counted hholds.generation.symm hclean
        refine ⟨?_, htold.2.trans (congrArg some htold.1)⟩
        show w.written = (s.bytes.getD []).length
        rw [hcontent]
        exact hlength.symm
      · rw [hafter]
        exact ⟨hmoved _ (.inr ⟨_, _, _, _, rfl, fun _ => hnext⟩), .none fun h => absurd h hnot⟩

/-- The pending seal grows by what was written, up to the whole seal. -/
theorem enterWriteSeal_outcome {text : Bytes} {offset : Nat}
    (hphase : w.phase = .finishing .writeSeal true text offset) (e : LockedEntry) (io : WriteIo) :
    Outcome env s w (w.enterWriteSeal env s text offset e io) := by
  have hclean : w.poisoned = false := hinv.clean (by rw [hphase]; nofun) (by rw [hphase]; nofun)
  have hnot : ¬ w.poisoned = true := by rw [hclean]; decide
  obtain ⟨error, heq⟩ | ⟨hholds, chunk, hchunk, hdone⟩ :=
    @enterWriteSeal_cases env s w text offset e io
  · rw [heq]
    exact outcome_finishError hinv hattested error
  · obtain ⟨htext, hoffset, hpending⟩ : FinishStep.Told env s text offset .writeSeal :=
      hinv.told hholds.generation.symm _ _ _ _ hphase
    have hpart : text.take offset ++ chunk = text.take (offset + chunk.length) := by
      rw [List.take_add, ← List.prefix_iff_eq_take.mp hchunk]
    have hgrown : s.pending.map (fun content => content ++ chunk) = some (text.take (offset + chunk.length)) := by
      rw [hpending, Option.map_some, hpart]
    have hend : offset + chunk.length ≤ text.length := by
      have hle := hchunk.length_le
      rw [List.length_drop] at hle
      omega
    let grown : Staging := { s with pending := s.pending.map fun content => content ++ chunk }
    have hclosed : grown.closed = true := by
      show (s.sealed.isSome || (s.pending.map fun content => content ++ chunk).isSome) = true
      rw [hgrown]
      exact Bool.or_true _
    have hstill : Attested env grown := by
      refine ⟨hattested.sealed, ?_⟩
      intro text' htext'
      rw [← Option.some.inj (hgrown.symm.trans htext'), htext]
      exact List.take_prefix _ _
    have hmoved : ∀ phase, _ → Moved env s w grown { w with phase := phase } :=
      Moved.sealing hinv hclean hholds rfl rfl rfl (fun _ => hclosed) hstill
    obtain ⟨error, heq⟩ | heq := hdone
    · rw [heq]
      exact ⟨hmoved _ (.inl rfl), .finishError error fun h => absurd h hnot⟩
    · rw [heq]
      by_cases hrest : offset + chunk.length < text.length
      · rw [if_pos hrest]
        exact ⟨hmoved _ (.inr ⟨_, _, _, _, rfl, fun _ => ⟨htext, hend, hgrown⟩⟩), .none fun h => absurd h hnot⟩
      · rw [if_neg hrest]
        refine ⟨hmoved _ (.inr ⟨_, _, _, _, rfl, fun _ => ⟨htext, ?_⟩⟩), .none fun h => absurd h hnot⟩
        have hall : offset + chunk.length = text.length := by omega
        exact hgrown.trans (by rw [hall, List.take_length])

/-- **Whatever a writer does, in whatever state it stands for it.** -/
theorem apply_outcome (op : WriterOp) : Outcome env s w (op.apply env s w) := by
  unfold WriterOp.apply
  split
  · next hphase => exact beginWrite_outcome hinv hattested hphase _ _ _ _
  · next hphase => exact beginFlush_outcome hinv hattested hphase _ _
  · exact beginFinish_outcome hinv hattested _
  · next hphase => exact enterWrite_outcome hinv hattested hphase _ _
  · next hphase => exact enterFlush_outcome hinv hattested hphase _ _
  · next hphase => exact hashStep_outcome hinv hattested hphase _
  · next hphase => exact enterWriteSeal_outcome hinv hattested hphase _ _
  · next hphase =>
    split
    · exact outcome_none hinv hattested
    · exact prepareFinish_outcome hinv hattested hphase _
  · next hphase =>
    split
    · exact outcome_none hinv hattested
    · next hstep =>
      exact enterFinish_outcome hinv hattested hphase (fun h => hstep (.inl h)) (fun h => hstep (.inr h)) _ _
  · exact outcome_none hinv hattested

end Sealing

end Aios.Artifacts
