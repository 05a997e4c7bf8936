/-
  File:      Aios/Artifacts/Fencing.lean
  Subject:   ONE LIVE WRITER, AND A SEAL THAT IS FINAL: runs of the staging file of an allocation.

  No two writers are admitted with the same generation, so all but one of them are behind the row, and
  the fence refuses them. `StagingInv` says so, and carries `WriterInv` for every writer and `Attested`
  for the files; every step keeps it (`StagingInv.step`), and so does every run (`StagingInv.run`).
-/
import Aios.Artifacts.Writers

namespace Aios.Artifacts

open Lib Tasks

variable {env : StagingEnv} {s s' : Staging} {sys : StagingSystem}

/-! ## 1. Openings -/

section Openings

variable {lease : Lease} {session : String} {e : OpenEntry}

/-- The row, once its next writer is admitted. -/
def Staging.readmitted (s : Staging) (session : String) : Staging :=
  { s with row := { s.row with writerSessionId := some session, writerGeneration := s.row.writerGeneration + 1 } }

/-- The row, once its first writer is admitted. -/
def Staging.admitted (s : Staging) (o : StagingOpen) : Staging :=
  { s with row := { s.row with
      state := .writing, writerGrantAdmission := o.grant, writerSessionId := some o.session,
      writerGeneration := s.row.writerGeneration + 1 } }

theorem reopenChecks_ok {now : String} {written : Nat} (h : reopenChecks env s lease e now = .ok written) :
    s.closed = false ∧ ∃ content, s.bytes = some content ∧ content.length = written ∧
      written ≤ s.row.maximum := by
  unfold reopenChecks at h
  simp only [bind_eq_ok', exists_unit, rejectIf_ok, decide_eq_false_iff_not, Nat.not_lt, expect_ok] at h
  obtain ⟨_, hopen, _, content, hcontent, hlimit, _, hlength⟩ := h
  have heq : content.length = written := Except.ok.inj hlength
  exact ⟨ensureWriterUnsealed_ok hopen, content, hcontent, heq, heq ▸ hlimit⟩

/-- A re-opening admits a writer behind the bytes, where nothing is sealed. -/
theorem reopen_cases (now : String) :
    (∃ error, reopen env s lease session e now = (s, .error error)) ∨
    (s.closed = false ∧ ∃ content, s.bytes = some content ∧ content.length ≤ s.row.maximum ∧
      (reopen env s lease session e now = (s.readmitted session,
          .ok (.writer (newWriter s lease session s.row.writerGrantAdmission (s.row.writerGeneration + 1) content.length))) ∨
        ∃ error, reopen env s lease session e now = (s.readmitted session, .error error))) := by
  unfold reopen
  split
  · next error _ => exact .inl ⟨error, rfl⟩
  · next written hchecks =>
    obtain ⟨hopen, content, hcontent, hlength, hlimit⟩ := reopenChecks_ok hchecks
    subst hlength
    dsimp only
    split
    · exact .inr ⟨hopen, content, hcontent, hlimit, .inl rfl⟩
    · next error _ => exact .inl ⟨error, rfl⟩
    · next error _ => exact .inr ⟨hopen, content, hcontent, hlimit, .inr ⟨error, rfl⟩⟩

/-- A fresh allocation is pinned, or leaves its state for good. -/
theorem pinAllocation_cases (now : String) :
    (∃ error, pinAllocation env s lease session e now = (s, .error error)) ∨
    (∃ error, pinAllocation env s lease session e now =
      ({ s with row := { s.row with state := .expired } }, .error error)) ∨
    ∃ grant, pinAllocation env s lease session e now =
      (s, .ok (.pinned ⟨s.row, grant, lease, session, [.createNew, .permissions, .fileSync, .dirSync]⟩)) := by
  unfold pinAllocation
  split
  · next error _ => exact .inl ⟨error, rfl⟩
  · exact .inr (.inl ⟨_, rfl⟩)
  · dsimp only
    cases hpinned : (do
        e.scope
        rejectIf (decide (generationLimit ≤ s.row.writerGeneration))
          (.invalidRecord "Artifact writer generation exhausted")
        pinnedGrant s.row e.grant : TaskResult (Option GrantAdmission)) with
    | error error => exact .inl ⟨error, rfl⟩
    | ok grant => exact .inr (.inr ⟨grant, rfl⟩)

/-- What the first transaction of an opening can lead to. -/
theorem openArtifactOutput_cases :
    (∃ error, openArtifactOutput env s lease session e = (s, .error error)) ∨
    (∃ error, openArtifactOutput env s lease session e =
      ({ s with row := { s.row with state := .expired } }, .error error)) ∨
    (∃ grant, openArtifactOutput env s lease session e =
      (s, .ok (.pinned ⟨s.row, grant, lease, session, [.createNew, .permissions, .fileSync, .dirSync]⟩))) ∨
    (s.row.state = .writing ∧ s.closed = false ∧ ∃ content, s.bytes = some content ∧
      content.length ≤ s.row.maximum ∧
      (openArtifactOutput env s lease session e = (s.readmitted session,
          .ok (.writer (newWriter s lease session s.row.writerGrantAdmission (s.row.writerGeneration + 1) content.length))) ∨
        ∃ error, openArtifactOutput env s lease session e = (s.readmitted session, .error error))) := by
  unfold openArtifactOutput
  dsimp only
  split
  · next error _ => exact .inl ⟨error, rfl⟩
  · next now _ =>
    split
    · next hwriting =>
      obtain hfailed | ⟨hopen, hopened⟩ := @reopen_cases env s lease session e now
      · exact .inl hfailed
      · exact .inr (.inr (.inr ⟨hwriting, hopen, hopened⟩))
    · split
      · obtain hfailed | hexpired | hpinned :=
          @pinAllocation_cases env s lease session e now
        · exact .inl hfailed
        · exact .inr (.inl hexpired)
        · exact .inr (.inr (.inl hpinned))
      · exact .inl ⟨_, rfl⟩

/-- A primitive of an opening runs on an allocation that no one has been admitted to. -/
theorem openPermitted_ok {o : StagingOpen} (h : openPermitted env s o e = .ok ()) :
    s.row.state = .allocated := by
  unfold openPermitted validateStagingOpenPin at h
  simp only [bind_eq_ok', exists_unit, rejectIf_ok, Bool.or_eq_false_iff, decide_eq_false_iff_not, not_not] at h
  obtain ⟨_, _, _, _, _, _, _, ⟨_, hstate⟩, _⟩ := h
  exact hstate

@[simp] theorem OpenPrimitive.effect_row (p : OpenPrimitive) : (p.effect s).row = s.row := by cases p <;> rfl

@[simp] theorem OpenPrimitive.effect_content (p : OpenPrimitive) : (p.effect s).content = s.content := by
  cases p <;> rfl

@[simp] theorem OpenPrimitive.effect_closed (p : OpenPrimitive) : (p.effect s).closed = s.closed := by cases p <;> rfl

theorem OpenPrimitive.effect_created (p : OpenPrimitive) (h : s.bytes.isSome = true) :
    (p.effect s).bytes.isSome = true := by
  cases p <;> first | rfl | exact h

theorem enterOpen_cases (o : StagingOpen) (p : OpenPrimitive) (rest : List OpenPrimitive) (prepared : TaskResult Unit)
    (io : PrimitiveIo) :
    (∃ error, enterOpen env s o p rest prepared e io = (s, .error error)) ∨
    (s.row.state = .allocated ∧
      ((∃ error, enterOpen env s o p rest prepared e io = (p.effect s, .error error)) ∨
        enterOpen env s o p rest prepared e io = (p.effect s, .ok { o with remaining := rest }))) := by
  unfold enterOpen
  dsimp only
  split
  · next error _ => exact .inl ⟨error, rfl⟩
  · next hpermitted =>
    rw [unit_bind_eq_ok] at hpermitted
    have hstate := openPermitted_ok hpermitted.2
    cases houtcome : (do e.locked.resolved; p.result s io : TaskResult Unit) with
    | error error =>
        unfold PrimitiveIo.run
        split
        · exact .inr ⟨hstate, .inl ⟨error, rfl⟩⟩
        · exact .inl ⟨error, rfl⟩
    | ok _ =>
        unfold OpenPrimitive.result PrimitiveIo.result at houtcome
        simp only [bind_eq_ok', exists_unit] at houtcome
        have hio : io.error = none := by
          cases herror : io.error with
          | none => rfl
          | some error =>
              rw [herror] at houtcome
              cases houtcome.2.2
        unfold PrimitiveIo.run
        rw [hio]
        exact .inr ⟨hstate, .inr rfl⟩

/-- The first writer starts on an allocation that no one has been admitted to. -/
theorem admitOpen_cases (o : StagingOpen) :
    (∃ error, admitOpen env s o e = (s, .error error)) ∨
    (s.row.state = .allocated ∧ admitOpen env s o e =
      (s.admitted o, .ok (newWriter s o.lease o.session o.grant (s.row.writerGeneration + 1) 0))) := by
  unfold admitOpen
  split
  · next error _ => exact .inl ⟨error, rfl⟩
  · next hpermitted =>
    dsimp only
    split
    · next error _ => exact .inl ⟨error, rfl⟩
    · exact .inr ⟨openPermitted_ok hpermitted, rfl⟩

end Openings

/-! ## 2. The invariant -/

/-- **What every reachable state of a staging file is like.** -/
structure StagingInv (env : StagingEnv) (sys : StagingSystem) : Prop where
  attested : Attested env sys.staging
  writers : ∀ w ∈ sys.writers, WriterInv env sys.staging w
  /-- No two writers were admitted with the same generation. -/
  distinct : sys.writers.Pairwise fun a b => a.fence.generation ≠ b.fence.generation
  unopened : sys.staging.row.state = .allocated →
    sys.writers = [] ∧ sys.staging.content = [] ∧ sys.staging.closed = false
  /-- An opening that is past `create_new` has created the file. -/
  created : ∀ o ∈ sys.opens, .createNew ∉ o.remaining → sys.staging.bytes.isSome = true

theorem StagingInv.fresh (lease : Lease) (row : AllocationRow) : StagingInv env (.fresh lease row) := by
  refine ⟨.of_open ?_, ?_, ?_, ?_, ?_⟩
  · rfl
  · intro w hw
    cases hw
  · exact List.Pairwise.nil
  · exact fun _ => ⟨rfl, rfl, rfl⟩
  · intro o ho
    cases ho

/-- The files stay, and so does what the writers were admitted with. -/
theorem StagingInv.outside (h : StagingInv env sys) (hfiles : SameFiles sys.staging s')
    (hgeneration : s'.row.writerGeneration = sys.staging.row.writerGeneration)
    (hmaximum : s'.row.maximum = sys.staging.row.maximum)
    (hstate : s'.row.state = .allocated → sys.staging.row.state = .allocated) :
    StagingInv env { sys with staging := s' } where
  attested := hfiles.attested h.attested
  writers := fun w hw => (h.writers w hw).frame (Nat.le_of_eq hgeneration.symm) hmaximum fun _ _ => hfiles
  distinct := h.distinct
  unopened := by
    intro hallocated
    obtain ⟨hwriters, hcontent, hopen⟩ := h.unopened (hstate hallocated)
    exact ⟨hwriters, hfiles.content.trans hcontent, hfiles.closed.trans hopen⟩
  created := by
    intro o ho hpast
    show s'.bytes.isSome = true
    rw [hfiles.bytes]
    exact h.created o ho hpast

/-- Openings come and go. -/
theorem StagingInv.opening (h : StagingInv env sys) {opens : List StagingOpen}
    (hopens : ∀ o ∈ opens, .createNew ∉ o.remaining → sys.staging.bytes.isSome = true) :
    StagingInv env { sys with opens := opens } where
  attested := h.attested
  writers := h.writers
  distinct := h.distinct
  unopened := h.unopened
  created := hopens

/-- One primitive of an opening, before anyone is admitted. -/
theorem StagingInv.primitive (h : StagingInv env sys) (hstate : sys.staging.row.state = .allocated)
    (p : OpenPrimitive) : StagingInv env { sys with staging := p.effect sys.staging } := by
  obtain ⟨hwriters, hcontent, hopen⟩ := h.unopened hstate
  refine ⟨.of_open (p.effect_closed.trans hopen), ?_, h.distinct, ?_, ?_⟩
  · intro w hw
    have hw' : w ∈ sys.writers := hw
    rw [hwriters] at hw'
    cases hw'
  · exact fun _ => ⟨hwriters, p.effect_content.trans hcontent, p.effect_closed.trans hopen⟩
  · exact fun o ho hpast => p.effect_created (h.created o ho hpast)

variable {w : StagingWriter} {i : Nat}

/-- **The next writer is admitted**: it starts behind the bytes that are there, and leaves the writers
    before it behind. -/
theorem StagingInv.admit (h : StagingInv env sys) (hfiles : SameFiles sys.staging s')
    (hstate : s'.row.state = .writing)
    (hgeneration : s'.row.writerGeneration = sys.staging.row.writerGeneration + 1)
    (hmaximum : s'.row.maximum = sys.staging.row.maximum) (hfence : w.fence.generation = s'.row.writerGeneration)
    (hlimit : w.maximum = sys.staging.row.maximum) (hwithin : w.written ≤ w.maximum) (hcursor : w.cursor = w.written)
    (hcounted : ∃ content, sys.staging.bytes = some content ∧ content.length = w.written)
    (hphase : w.phase = .idle) : StagingInv env { sys with staging := s', writers := sys.writers ++ [w] } where
  attested := hfiles.attested h.attested
  writers := by
    intro w' hw'
    rcases List.mem_append.mp hw' with hw' | hw'
    · refine (h.writers w' hw').frame (Nat.le_of_lt ?_) hmaximum ?_
      · exact hgeneration ▸ Nat.lt_succ_self _
      · intro hsame
        exact absurd (hgeneration.symm.trans hsame) (Nat.succ_ne_self _)
    · rw [List.mem_singleton.mp hw']
      refine ⟨Nat.le_of_eq hfence, hlimit.trans hmaximum.symm, hwithin, ?_, fun _ => hcursor, ?_, fun _ => .inl hphase, ?_⟩
      · intro buffer hwriting
        rw [hphase] at hwriting
        cases hwriting
      · intro _ _
        show ∃ content, s'.bytes = some content ∧ content.length = w.written
        rw [hfiles.bytes]
        exact hcounted
      · intro _ step prepared text offset hfinishing
        rw [hphase] at hfinishing
        cases hfinishing
  distinct := by
    rw [List.pairwise_append]
    refine ⟨h.distinct, List.pairwise_singleton _ _, ?_⟩
    intro a ha b hb
    rw [List.mem_singleton.mp hb]
    have hadmitted := (h.writers a ha).admitted
    omega
  unopened := by
    intro hallocated
    have hwriting : (AllocationState.writing : AllocationState) = .allocated := hstate.symm.trans hallocated
    cases hwriting
  created := by
    intro o ho hpast
    show s'.bytes.isSome = true
    rw [hfiles.bytes]
    exact h.created o ho hpast

/-- One operation of one writer; the others keep what they know of the files. -/
theorem StagingInv.writer (h : StagingInv env sys) (hw : sys.writers[i]? = some w)
    {w' : StagingWriter} (hmoved : Moved env sys.staging w s' w') :
    StagingInv env { sys with staging := s', writers := sys.writers.set i w' } := by
  obtain ⟨hi, hget⟩ := List.getElem?_eq_some_iff.mp hw
  refine ⟨hmoved.attested, ?_, ?_, ?_, ?_⟩
  · intro v hv
    obtain ⟨j, hj, hv⟩ := List.getElem_of_mem (show v ∈ sys.writers.set i w' from hv)
    rw [List.getElem_set] at hv
    split at hv
    · rw [← hv]
      exact hmoved.kept
    · next hne =>
      rw [List.length_set] at hj
      have hmem : v ∈ sys.writers := hv ▸ List.getElem_mem hj
      refine (h.writers v hmem).frame (Nat.le_of_eq (congrArg _ hmoved.row.symm)) (congrArg _ hmoved.row) ?_
      intro _ hlatest
      rcases hmoved.files with hfiles | hholds
      · exact hfiles
      · -- two writers of one generation
        have hdistinct : w.fence.generation ≠ v.fence.generation := by
          rw [← hget, ← hv]
          rcases Nat.lt_or_gt_of_ne hne with hlt | hlt
          · exact List.pairwise_iff_getElem.mp h.distinct i j hi hj hlt
          · exact (List.pairwise_iff_getElem.mp h.distinct j i hj hi hlt).symm
        exact absurd (hholds.generation.symm.trans hlatest.symm) hdistinct
  · have hset : (sys.writers.set i w').map (·.fence.generation) = sys.writers.map (·.fence.generation) := by
      rw [List.map_set, hmoved.fence]
      refine List.ext_getElem (by simp) ?_
      intro j hj hj'
      rw [List.getElem_set]
      split
      · next heq =>
        subst heq
        rw [List.getElem_map, hget]
      · rfl
    have hpairwise := List.pairwise_map.mpr h.distinct
    rw [← hset] at hpairwise
    exact List.pairwise_map.mp hpairwise
  · intro hallocated
    have hnone := (h.unopened (hmoved.row ▸ hallocated)).1
    rw [hnone] at hw
    cases hw
  · intro o ho hpast
    exact hmoved.created (h.created o ho hpast)

/-- **Every step keeps the invariant.** -/
theorem StagingInv.step (h : StagingInv env sys) (op : StagingOp) : StagingInv env (sys.step env op).1 := by
  cases op with
  | takeover lease => exact h.outside ⟨rfl, rfl, rfl⟩ rfl rfl id
  | leave state =>
      unfold StagingSystem.step
      dsimp only
      split
      · exact h
      · next hleaves =>
        refine h.outside ⟨rfl, rfl, rfl⟩ rfl rfl ?_
        intro hallocated
        exact absurd (.inl hallocated) hleaves
  | openOutput lease session e =>
      unfold StagingSystem.step
      dsimp only
      obtain ⟨error, heq⟩ | ⟨error, heq⟩ | ⟨grant, heq⟩ | ⟨hwriting, hopen, content, hcontent, hlimit, heq | ⟨error, heq⟩⟩ :=
        @openArtifactOutput_cases env sys.staging lease session e
      · rw [heq]
        exact h
      · rw [heq]
        exact h.outside ⟨rfl, rfl, rfl⟩ rfl rfl nofun
      · rw [heq]
        refine h.opening ?_
        intro o ho hpast
        rcases List.mem_append.mp ho with ho | ho
        · exact h.created o ho hpast
        · rw [List.mem_singleton.mp ho] at hpast
          exact absurd List.mem_cons_self hpast
      · rw [heq]
        exact h.admit ⟨rfl, rfl, rfl⟩ hwriting rfl rfl rfl rfl hlimit rfl ⟨content, hcontent, rfl⟩ rfl
      · rw [heq]
        show StagingInv env { sys with staging := sys.staging.readmitted session }
        have hfiles : SameFiles sys.staging (sys.staging.readmitted session) := ⟨rfl, rfl, rfl⟩
        refine ⟨hfiles.attested h.attested, ?_, h.distinct, ?_, h.created⟩
        · intro w hw
          refine (h.writers w hw).frame (Nat.le_succ _) rfl ?_
          intro hsame
          exact absurd hsame (Nat.succ_ne_self _)
        · intro hallocated
          have hallocated' : sys.staging.row.state = .allocated := hallocated
          rw [hwriting] at hallocated'
          cases hallocated'
  | openPrimitive i prepared e io =>
      unfold StagingSystem.step
      dsimp only
      split
      · next o ho =>
        split
        · next p rest hremaining =>
          have herased : ∀ o' ∈ sys.opens.eraseIdx i, .createNew ∉ o'.remaining → sys.staging.bytes.isSome = true :=
            fun o' ho' => h.created o' (List.mem_of_mem_eraseIdx ho')
          obtain ⟨error, heq⟩ | ⟨hallocated, ⟨error, heq⟩ | heq⟩ :=
            @enterOpen_cases env sys.staging e o p rest prepared io
          · rw [heq]
            exact h.opening herased
          · rw [heq]
            exact (h.primitive hallocated p).opening fun o' ho' hpast => p.effect_created (herased o' ho' hpast)
          · rw [heq]
            refine (h.primitive hallocated p).opening ?_
            intro o' ho' hpast
            rcases List.mem_or_eq_of_mem_set ho' with ho' | ho'
            · exact p.effect_created (h.created o' ho' hpast)
            · rw [ho'] at hpast
              by_cases hp : p = .createNew
              · rw [hp]
                rfl
              · refine p.effect_created (h.created o (List.mem_of_getElem? ho) ?_)
                rw [hremaining, List.mem_cons, not_or]
                exact ⟨Ne.symm hp, hpast⟩
        · exact h
      · exact h
  | admitWriter i e =>
      unfold StagingSystem.step
      dsimp only
      split
      · next o ho =>
        split
        · next hremaining =>
          have herased : ∀ o' ∈ sys.opens.eraseIdx i, .createNew ∉ o'.remaining → sys.staging.bytes.isSome = true :=
            fun o' ho' => h.created o' (List.mem_of_mem_eraseIdx ho')
          obtain ⟨error, heq⟩ | ⟨hallocated, heq⟩ := @admitOpen_cases env sys.staging e o
          · rw [heq]
            exact h.opening herased
          · rw [heq]
            have hcreated : sys.staging.bytes.isSome = true :=
              h.created o (List.mem_of_getElem? ho) (by rw [hremaining]; exact List.not_mem_nil)
            obtain ⟨content, hcontent⟩ := Option.isSome_iff_exists.mp hcreated
            have hempty : content = [] := by
              have hnone := (h.unopened hallocated).2.1
              unfold Staging.content at hnone
              rw [hcontent] at hnone
              exact hnone
            have hadmitted : StagingInv env { sys with
                staging := sys.staging.admitted o
                writers := sys.writers ++
                  [newWriter sys.staging o.lease o.session o.grant (sys.staging.row.writerGeneration + 1) 0] } :=
              h.admit ⟨rfl, rfl, rfl⟩ rfl rfl rfl rfl rfl (Nat.zero_le _) rfl
                ⟨content, hcontent, by rw [hempty]; rfl⟩ rfl
            exact hadmitted.opening herased
        · exact h
      · exact h
  | writer i op =>
      unfold StagingSystem.step
      dsimp only
      split
      · next w hw =>
        exact h.writer hw (apply_outcome (h.writers w (List.mem_of_getElem? hw)) h.attested op).1
      · exact h

/-- **Every run keeps the invariant.** -/
theorem StagingInv.run (h : StagingInv env sys) (ops : List StagingOp) : StagingInv env (sys.run env ops) := by
  induction ops generalizing sys with
  | nil => exact h
  | cons op ops ih => exact ih (h.step op)

/-! ## 4. What a step can do -/

/-- **A step is an operation of one writer, or leaves the bytes, the seals and the writers alone.** -/
theorem StagingSystem.step_cases (sys : StagingSystem) (op : StagingOp) :
    (∃ i wop w, op = .writer i wop ∧ sys.writers[i]? = some w ∧
      sys.step env op = ({ sys with
        staging := (wop.apply env sys.staging w).1
        writers := sys.writers.set i (wop.apply env sys.staging w).2.1 }, (wop.apply env sys.staging w).2.2)) ∨
    ((sys.step env op).1.staging.content = sys.staging.content ∧
      (sys.step env op).1.staging.closed = sys.staging.closed ∧
      (∀ (i : Nat) (w : StagingWriter), sys.writers[i]? = some w → (sys.step env op).1.writers[i]? = some w) ∧
      ∀ a, (sys.step env op).2 = some a → ∃ result, a = .opened result) := by
  have hadded : ∀ (w : StagingWriter) (i : Nat) (v : StagingWriter), sys.writers[i]? = some v →
      (sys.writers ++ [w])[i]? = some v := by
    intro w i v hv
    rw [List.getElem?_append_left (List.getElem?_eq_some_iff.mp hv).1]
    exact hv
  cases op with
  | takeover lease => exact .inr ⟨rfl, rfl, fun _ _ h => h, nofun⟩
  | leave state =>
      refine .inr ?_
      unfold StagingSystem.step
      dsimp only
      split <;> exact ⟨rfl, rfl, fun _ _ h => h, nofun⟩
  | openOutput lease session e =>
      refine .inr ?_
      unfold StagingSystem.step
      dsimp only
      obtain ⟨error, heq⟩ | ⟨error, heq⟩ | ⟨grant, heq⟩ | ⟨_, _, content, _, _, heq | ⟨error, heq⟩⟩ :=
        @openArtifactOutput_cases env sys.staging lease session e
      · rw [heq]
        exact ⟨rfl, rfl, fun _ _ h => h, fun a ha => ⟨_, (Option.some.inj ha).symm⟩⟩
      · rw [heq]
        exact ⟨rfl, rfl, fun _ _ h => h, fun a ha => ⟨_, (Option.some.inj ha).symm⟩⟩
      · rw [heq]
        exact ⟨rfl, rfl, fun _ _ h => h, nofun⟩
      · rw [heq]
        exact ⟨rfl, rfl, hadded _, fun a ha => ⟨_, (Option.some.inj ha).symm⟩⟩
      · rw [heq]
        exact ⟨rfl, rfl, fun _ _ h => h, fun a ha => ⟨_, (Option.some.inj ha).symm⟩⟩
  | openPrimitive i prepared e io =>
      refine .inr ?_
      unfold StagingSystem.step
      dsimp only
      split
      · next o _ =>
        split
        · next p rest _ =>
          obtain ⟨error, heq⟩ | ⟨_, ⟨error, heq⟩ | heq⟩ :=
            @enterOpen_cases env sys.staging e o p rest prepared io
          · rw [heq]
            exact ⟨rfl, rfl, fun _ _ h => h, fun a ha => ⟨_, (Option.some.inj ha).symm⟩⟩
          · rw [heq]
            exact ⟨p.effect_content, p.effect_closed, fun _ _ h => h, fun a ha => ⟨_, (Option.some.inj ha).symm⟩⟩
          · rw [heq]
            exact ⟨p.effect_content, p.effect_closed, fun _ _ h => h, nofun⟩
        · exact ⟨rfl, rfl, fun _ _ h => h, nofun⟩
      · exact ⟨rfl, rfl, fun _ _ h => h, nofun⟩
  | admitWriter i e =>
      refine .inr ?_
      unfold StagingSystem.step
      dsimp only
      split
      · next o _ =>
        split
        · obtain ⟨error, heq⟩ | ⟨_, heq⟩ := @admitOpen_cases env sys.staging e o
          · rw [heq]
            exact ⟨rfl, rfl, fun _ _ h => h, fun a ha => ⟨_, (Option.some.inj ha).symm⟩⟩
          · rw [heq]
            exact ⟨rfl, rfl, hadded _, fun a ha => ⟨_, (Option.some.inj ha).symm⟩⟩
        · exact ⟨rfl, rfl, fun _ _ h => h, nofun⟩
      · exact ⟨rfl, rfl, fun _ _ h => h, nofun⟩
  | writer i wop =>
      cases hw : sys.writers[i]? with
      | none =>
          refine .inr ?_
          unfold StagingSystem.step
          dsimp only
          rw [hw]
          exact ⟨rfl, rfl, fun _ _ h => h, nofun⟩
      | some w =>
          refine .inl ⟨i, wop, w, rfl, hw, ?_⟩
          unfold StagingSystem.step
          dsimp only
          rw [hw]

theorem StagingInv.outcome (h : StagingInv env sys) (hw : sys.writers[i]? = some w)
    (op : WriterOp) : Outcome env sys.staging w (op.apply env sys.staging w) :=
  apply_outcome (h.writers w (List.mem_of_getElem? hw)) h.attested op

/-- Once a seal is there, a step leaves it there and the bytes alone, and no write succeeds. -/
theorem StagingInv.step_closed (h : StagingInv env sys) (hclosed : sys.staging.closed = true) (op : StagingOp) :
    (sys.step env op).1.staging.closed = true ∧ (sys.step env op).1.staging.content = sys.staging.content ∧
      ∀ n, (sys.step env op).2 ≠ some (.wrote (.ok n)) := by
  obtain ⟨i, wop, w, _, hw, heq⟩ | ⟨hcontent, hstill, _, hanswer⟩ := @StagingSystem.step_cases env sys op
  · rw [heq]
    obtain ⟨hmoved, hanswered⟩ := h.outcome hw wop
    refine ⟨hmoved.closed hclosed, ?_, ?_⟩
    · rcases hmoved.bytes with hbytes | ⟨hopen, _⟩
      · exact congrArg (·.getD []) hbytes
      · rw [hclosed] at hopen
        cases hopen
    · intro n hn
      have hopen := hanswered.wrote n hn
      rw [hclosed] at hopen
      cases hopen
  · refine ⟨hstill.trans hclosed, hcontent, ?_⟩
    intro n hn
    obtain ⟨result, hresult⟩ := hanswer _ hn
    cases hresult

/-- The writer is poisoned, or its `finish` has returned. -/
def StagingWriter.over (w : StagingWriter) : Prop := w.poisoned = true ∨ w.phase = .finished

/-- A writer that is over does nothing any more, and every answer of it is a failure. -/
theorem StagingInv.writer_over (h : StagingInv env sys) (hw : sys.writers[i]? = some w)
    (hover : w.over) (op : WriterOp) :
    (op.apply env sys.staging w).1 = sys.staging ∧ (op.apply env sys.staging w).2.1.over ∧
      ∀ a, (op.apply env sys.staging w).2.2 = some a → a.failed := by
  rcases hover with hpoisoned | hfinished
  · obtain ⟨hsame, hstays, hfailed⟩ := (h.outcome hw op).2.inert hpoisoned
    exact ⟨hsame, .inl hstays, hfailed⟩
  · have hnothing : op.apply env sys.staging w = (sys.staging, w, none) := by
      simp only [WriterOp.apply, hfinished]
    rw [hnothing]
    exact ⟨rfl, .inr hfinished, nofun⟩

/-- Steps keep the writers in their places, and those that are over remain so. -/
theorem StagingInv.step_over (h : StagingInv env sys) (hw : sys.writers[i]? = some w)
    (hover : w.over) (op : StagingOp) : ∃ w', (sys.step env op).1.writers[i]? = some w' ∧ w'.over := by
  obtain ⟨j, wop, v, _, hv, heq⟩ | ⟨_, _, hkept, _⟩ := @StagingSystem.step_cases env sys op
  · rw [heq]
    have hi := (List.getElem?_eq_some_iff.mp hw).1
    by_cases hij : j = i
    · subst hij
      have hsame : v = w := Option.some.inj (hv.symm.trans hw)
      subst hsame
      exact ⟨_, List.getElem?_set_self hi, (h.writer_over hw hover wop).2.1⟩
    · exact ⟨w, (List.getElem?_set_ne hij).trans hw, hover⟩
  · exact ⟨w, hkept i w hw, hover⟩

theorem step_writer (hw : sys.writers[i]? = some w) (op : WriterOp) :
    sys.step env (.writer i op) = ({ sys with
      staging := (op.apply env sys.staging w).1
      writers := sys.writers.set i (op.apply env sys.staging w).2.1 }, (op.apply env sys.staging w).2.2) := by
  simp only [StagingSystem.step, hw]

/-- The writer a step of it leaves in its place. -/
theorem step_writer_self {w w' : StagingWriter} (hw : sys.writers[i]? = some w) {op : WriterOp}
    (hw' : (sys.step env (.writer i op)).1.writers[i]? = some w') : w' = (op.apply env sys.staging w).2.1 := by
  rw [step_writer hw, List.getElem?_set_self (List.getElem?_eq_some_iff.mp hw).1] at hw'
  exact (Option.some.inj hw').symm

/-- A write that does not poison its writer went through. -/
theorem enterWrite_certain {s : Staging} {buffer : Bytes} {e : LockedEntry} {io : WriteIo}
    (h : (w.enterWrite env s buffer e io).2.1.poisoned = false) :
    e.permits env s w.fence true = .ok () ∧ io.error = none ∧ e.resolved = .ok () := by
  unfold StagingWriter.enterWrite at h
  split at h
  · cases h
  · next hpermits =>
    obtain ⟨hio, hresolved⟩ := Bool.or_eq_false_iff.mp h
    refine ⟨hpermits, Option.isSome_eq_false_iff.mp hio |> Option.isNone_iff_eq_none.mp, ?_⟩
    cases hr : e.resolved with
    | ok u => rfl
    | error error =>
        rw [hr] at hresolved
        cases hresolved

theorem StagingInv.run_closed (h : StagingInv env sys) (hclosed : sys.staging.closed = true) (ops : List StagingOp) :
    (sys.run env ops).staging.closed = true ∧ (sys.run env ops).staging.content = sys.staging.content := by
  induction ops generalizing sys with
  | nil => exact ⟨hclosed, rfl⟩
  | cons op ops ih =>
      obtain ⟨hstill, hcontent, _⟩ := h.step_closed hclosed op
      obtain ⟨hlast, hsame⟩ := ih (h.step op) hstill
      exact ⟨hlast, hsame.trans hcontent⟩

theorem StagingInv.run_over (h : StagingInv env sys) (hw : sys.writers[i]? = some w)
    (hover : w.over) (ops : List StagingOp) : ∃ w', (sys.run env ops).writers[i]? = some w' ∧ w'.over := by
  induction ops generalizing sys w with
  | nil => exact ⟨w, hw, hover⟩
  | cons op ops ih =>
      obtain ⟨w', hw', hover'⟩ := h.step_over hw hover op
      exact ih (h.step op) hw' hover'

/-! ## 5. The laws of a staging file -/

/-- **What holds of a staging file, its writers and its seal**, in a state and in every run from it. -/
structure StagingLaws (env : StagingEnv) (sys : StagingSystem) : Prop where
  /-- The bytes change in a call of `write` alone, and only for the writer that holds the session, the
      generation and the lease, while nothing is sealed. -/
  changed : ∀ op, (sys.step env op).1.staging.content ≠ sys.staging.content →
    ∃ i wop w buffer, op = .writer i wop ∧ sys.writers[i]? = some w ∧ w.phase = .writing buffer ∧
      Holds sys.staging w.fence ∧ sys.staging.closed = false
  /-- Two writers do not share a generation. -/
  single : ∀ (i j : Nat) (v w : StagingWriter), sys.writers[i]? = some v → sys.writers[j]? = some w →
    v.fence.generation = w.fence.generation → i = j
  /-- A seal, pending or not, is final. -/
  final : sys.staging.closed = true → ∀ ops, (sys.run env ops).staging.closed = true ∧
    (sys.run env ops).staging.content = sys.staging.content ∧
    ∀ op n, ((sys.run env ops).step env op).2 ≠ some (.wrote (.ok n))
  /-- The counter of the writer last admitted is the length of the file, within its limit. -/
  counted : ∀ w ∈ sys.writers, w.fence.generation = sys.staging.row.writerGeneration → w.poisoned = false →
    ∃ content, sys.staging.bytes = some content ∧ content.length = w.written ∧
      w.written ≤ sys.staging.row.maximum
  /-- A call that fails poisons its writer, unless it is refused before its marker and does nothing; a
      `finish` ends its writer. -/
  failed : ∀ i op w, sys.writers[i]? = some w → ∀ w', (sys.step env (.writer i op)).1.writers[i]? = some w' →
    (∀ e, (sys.step env (.writer i op)).2 = some (.wrote (.error e)) ∨
        (sys.step env (.writer i op)).2 = some (.flushed (.error e)) →
      w'.poisoned = true ∨ w.phase = .idle ∧ (sys.step env (.writer i op)).1.staging = sys.staging ∧ w' = w) ∧
    ∀ result, (sys.step env (.writer i op)).2 = some (.finished result) → w'.phase = .finished
  /-- A write that leaves its writer in service has passed the fence, reached the file and resolved its
      marker. -/
  certain : ∀ i e io w buffer, sys.writers[i]? = some w → w.phase = .writing buffer →
    ∀ w', (sys.step env (.writer i (.enterWrite e io))).1.writers[i]? = some w' → w'.poisoned = false →
    e.permits env sys.staging w.fence true = .ok () ∧ io.error = none ∧ e.resolved = .ok ()
  /-- A writer that is poisoned, or whose `finish` has returned, changes nothing in any later state: it
      seals nothing. -/
  inert : ∀ (i : Nat) (w : StagingWriter), sys.writers[i]? = some w → w.over → ∀ ops,
    ∃ w', (sys.run env ops).writers[i]? = some w' ∧ w'.over ∧
      ∀ op, ((sys.run env ops).step env (.writer i op)).1.staging = (sys.run env ops).staging ∧
        ∀ a, ((sys.run env ops).step env (.writer i op)).2 = some a → a.failed
  /-- Whatever is sealed attests the bytes that are there. -/
  attested : Attested env sys.staging
  /-- A `finish` that returns a size has sealed so many bytes. -/
  sealed : ∀ i op size, (sys.step env (.writer i op)).2 = some (.finished (.ok size)) →
    size = (sys.step env (.writer i op)).1.staging.content.length ∧
      (sys.step env (.writer i op)).1.staging.sealed =
        some ((sys.step env (.writer i op)).1.staging.attestation env)

theorem StagingInv.laws (h : StagingInv env sys) : StagingLaws env sys where
  changed := by
    intro op hchanged
    obtain ⟨i, wop, w, hop, hw, heq⟩ | ⟨hcontent, _⟩ := @StagingSystem.step_cases env sys op
    · rw [heq] at hchanged
      rcases (h.outcome hw wop).1.bytes with hbytes | ⟨hopen, hholds, buffer, hphase⟩
      · exact absurd (congrArg (·.getD []) hbytes) hchanged
      · exact ⟨i, wop, w, buffer, hop, hw, hphase, hholds, hopen⟩
    · exact absurd hcontent hchanged
  single := by
    intro i j v w hv hw hsame
    obtain ⟨hi, hgetv⟩ := List.getElem?_eq_some_iff.mp hv
    obtain ⟨hj, hgetw⟩ := List.getElem?_eq_some_iff.mp hw
    have hdistinct := List.pairwise_iff_getElem.mp h.distinct
    rcases Nat.lt_trichotomy i j with hlt | heq | hlt
    · exact absurd hsame (by rw [← hgetv, ← hgetw]; exact hdistinct i j hi hj hlt)
    · exact heq
    · exact absurd hsame.symm (by rw [← hgetv, ← hgetw]; exact hdistinct j i hj hi hlt)
  final := by
    intro hclosed ops
    obtain ⟨hstill, hcontent⟩ := h.run_closed hclosed ops
    exact ⟨hstill, hcontent, fun op => ((h.run ops).step_closed hstill op).2.2⟩
  counted := by
    intro w hw hlatest hclean
    have hinv := h.writers w hw
    obtain ⟨content, hcontent, hlength⟩ := hinv.counted hlatest hclean
    exact ⟨content, hcontent, hlength, hinv.maximum ▸ hinv.limit⟩
  failed := by
    intro i op w hw w' hw'
    have hself := step_writer_self hw hw'
    obtain ⟨_, hanswered⟩ := h.outcome hw op
    rw [step_writer hw, hself]
    refine ⟨?_, fun result hresult => hanswered.finished result hresult⟩
    intro e hfailed
    rcases hfailed with hfailed | hfailed
    · exact hanswered.failedWrite e hfailed
    · exact hanswered.failedFlush e hfailed
  certain := by
    intro i e io w buffer hw hphase w' hw' hclean
    have hself := step_writer_self hw hw'
    have happly : ((WriterOp.enterWrite e io).apply env sys.staging w).2.1 =
        (w.enterWrite env sys.staging buffer e io).2.1 := by
      simp only [WriterOp.apply, hphase]
    rw [hself, happly] at hclean
    exact enterWrite_certain hclean
  inert := by
    intro i w hw hover ops
    obtain ⟨w', hw', hover'⟩ := h.run_over hw hover ops
    refine ⟨w', hw', hover', ?_⟩
    intro op
    rw [step_writer hw']
    obtain ⟨hsame, _, hfailed⟩ := (h.run ops).writer_over hw' hover' op
    exact ⟨hsame, hfailed⟩
  attested := h.attested
  sealed := by
    intro i op size hsize
    cases hw : sys.writers[i]? with
    | none =>
        simp only [StagingSystem.step, hw] at hsize
        cases hsize
    | some w =>
        rw [step_writer hw] at hsize ⊢
        exact (h.outcome hw op).2.sealed size hsize

def passingEntry : LockedEntry where
  entered := .ok ()
  time := .ok "2030-01-01T00:00:00Z"
  coordinatorGrants := .ok true
  taskClear := .ok ()
  authorized := .ok true
  metadata := .ok ()
  resolved := .ok ()

def passingOpen : OpenEntry where
  locked := passingEntry
  notRecovering := .ok ()
  scope := .ok ()
  grant := .ok none
  file := .ok ()
  commit := .committed

def sampleRow : AllocationRow where
  taskId := "task:1"
  semanticProgramHash := "sha256:00"
  nodeId := "draft"
  bindingId := none
  attemptId := none
  expectedSemanticType := none
  allowedMediaTypes := []
  maxSizeBytes := some 1
  sensitivity := "private"
  retention := "task"
  state := .allocated
  writerGrantAdmission := none
  writerSessionId := none
  writerGeneration := 0
  stagingRef := some "staging/1"
  expiresAt := "2031-01-01T00:00:00Z"

def sampleEnv : StagingEnv where
  allocationId := "allocation:1"
  rfc3339 := fun text => if text = "2031-01-01T00:00:00Z" then some 1 else some 0
  digest := knownDigest []
  toVec := fun record => (plainText (.obj [
    ("version", .num (.posInt record.version)), ("allocation_id", .str record.allocationId),
    ("size_bytes", .num (.posInt record.sizeBytes)), ("content_hash", .str record.contentHash)])).toUTF8.toList

def sampleLease : Lease := ⟨"manager:1", 1⟩

/-- The file is opened and opened again; the second writer writes a byte, and is refused another. -/
def supersededOps : List StagingOp :=
  [.openOutput sampleLease "session:1" passingOpen] ++
    List.replicate 4 (.openPrimitive 0 (.ok ()) passingOpen ⟨none, true⟩) ++
    [.admitWriter 0 passingOpen, .openOutput sampleLease "session:2" passingOpen,
      .writer 1 (.beginWrite [65] false (.ok ()) (.ok ())), .writer 1 (.enterWrite passingEntry ⟨none, 1⟩)]

end Aios.Artifacts
