/-
  File:      Aios/Policy/Exclusive.lean
  Subject:   RESERVED IDENTITIES ARE EXCLUSIVE AND SINGLE-USE, in every run over the tables of the
             candidates.

  `ReservationLaws` says it of all stores a run reaches: the identities and the rows that carry them, when
  such a row may come, how often a status moves, which attempt a reservation takes, and what its
  repetition returns. The triggers guard what comes to the tables, not what is in them: a binding that
  came while its candidate was pending stays when the candidate becomes stale (section 6).
-/
import Aios.Policy.Consumed

namespace Aios.Policy

open Lib Provenance

/-! ## 1. Runs -/

/-- A run leads from the one store to the other. -/
def Later (env : PolicyEnv) (s s' : PolicyStore) : Prop := ∃ ops, s' = tableRun env s ops

section Runs

variable {env : PolicyEnv} {s s' : PolicyStore}

theorem next_cases (env : PolicyEnv) (s : PolicyStore) (op : TableOp) :
    Evolves s (s.next env op) ∧ Written env s (s.next env op) := by
  unfold PolicyStore.next
  split
  · next h => exact outcome_written h
  · exact ⟨.refl s, .quiet (.refl s)⟩

/-- An invariant of every operation is one of every run. -/
theorem Later.invariant {P : PolicyStore → Prop} (hstep : ∀ {a b}, Evolves a b → Written env a b → P a → P b)
    (hrun : Later env s s') (h : P s) : P s' := by
  obtain ⟨ops, rfl⟩ := hrun
  induction ops generalizing s with
  | nil => exact h
  | cons op rest ih =>
      obtain ⟨hev, hw⟩ := next_cases env s op
      exact ih (hstep hev hw h)

theorem Later.evolves (h : Later env s s') : Evolves s s' :=
  h.invariant (P := fun b => Evolves s b) (fun hev _ hs => hs.trans hev) (.refl s)

theorem Later.trans {s'' : PolicyStore} (h : Later env s s') (h' : Later env s' s'') : Later env s s'' := by
  obtain ⟨ops, rfl⟩ := h
  obtain ⟨ops', rfl⟩ := h'
  exact ⟨ops ++ ops', List.foldl_append.symm⟩

theorem Later.identified (h : Later env s s') (hs : Identified s) : Identified s' :=
  h.invariant (fun _ hw hid => hid.written hw) hs

theorem Later.consumed (h : Later env s s') (hid : Identified s) (hs : Consumed s) : Consumed s' :=
  (h.invariant (P := fun b => Identified b ∧ Consumed b)
    (fun _ hw hb => ⟨hb.1.written hw, hb.2.written hb.1 hw⟩) ⟨hid, hs⟩).2

end Runs

/-! ## 2. A row comes while its candidate is pending -/

/-- The candidate was there, and was pending. -/
def PendingIn (s : PolicyStore) (c : ReservationRow) : Prop :=
  c ∈ s.reservations ∧ s.loadView.state? c.candidateId = some .pending

/-- The rows of the second store that carry a reserved identity were in the first, or came for a
    candidate that was pending there. -/
structure CameWhilePending (a b : PolicyStore) : Prop where
  bindings : ∀ x ∈ b.bindings, x ∈ a.bindings ∨
    ∀ c ∈ b.reservations, bindingCollides c x = true → PendingIn a c
  steps : ∀ x ∈ b.steps, (∃ y ∈ a.steps, y.asCreated = x.asCreated) ∨
    ∀ c ∈ b.reservations, stepCollides c x = true → PendingIn a c
  allocations : ∀ x ∈ b.allocations, (∃ y ∈ a.allocations, y.asAllocated = x.asAllocated) ∨
    ∀ r ∈ outputRows b.resources, r.resourceId = x.allocationId →
      ∃ c, c.candidateId = r.candidateId ∧ PendingIn a c

section Pending

variable {env : PolicyEnv} {a b : PolicyStore}

theorem FinalWrites.Checked.pendingIn {backend : LocalPolicyBackend} {id createdAt : String} {w : FinalWrites}
    (h : w.Checked env backend a id createdAt) : PendingIn a w.facts.candidate := by
  refine ⟨List.mem_of_find?_eq_some h.reserved, ?_⟩
  rw [h.candidateId_eq]
  exact (load_ok h.evaluated.loaded).pending

theorem Written.came (hid : Identified a) (hw : Written env a b) : CameWhilePending a b := by
  cases hw with
  | quiet hq =>
      refine ⟨fun x hx => .inl (hq.bindings ▸ hx), fun x hx => ?_, fun x hx => ?_⟩
      · rw [hq.reservations]
        exact (hq.steps x hx).imp_right fun hguard c hc hcollides =>
          ⟨hc, (stepGuard_ok hguard hc hcollides).1⟩
      · rw [hq.resources]
        refine (hq.allocations x hx).imp_right fun hguard r hr he => ?_
        obtain ⟨c, hc, hcr, hp, -⟩ := allocationGuard_ok hid hguard hr he
        exact ⟨c, hcr, hc, hp⟩
  | reserved w hw hins =>
      rw [hins.stored]
      exact ⟨fun x hx => .inl hx, fun x hx => .inl ⟨x, hx, rfl⟩, fun x hx => .inl ⟨x, hx, rfl⟩⟩
  | @finalised backend id createdAt w hw hb =>
      have hsame := hw.evaluated_same
      have hafter : Identified (w.store id createdAt) := hid.written (.finalised w hw rfl)
      have hres : (w.store id createdAt).reservations = a.reservations := by
        show w.evaluated.reservations = _
        rw [hsame]
      have hrows : (w.store id createdAt).resources = a.resources := by
        show w.evaluated.resources = _
        rw [hsame]
      have hcandidate := hw.pendingIn
      rw [hb]
      refine ⟨fun x hx => ?_, fun x hx => ?_, fun x hx => ?_⟩
      · rcases List.mem_append.mp hx with hx | hx
        · exact .inl (by rw [hsame] at hx; exact hx)
        · refine .inr fun c hc hcollides => ?_
          rw [hres] at hc
          rw [List.mem_singleton.mp hx] at hcollides
          rwa [hid.of_binding hc hcandidate.1 hcollides]
      · rcases List.mem_append.mp hx with hx | hx
        · exact .inl ⟨x, by rw [hsame] at hx; exact hx, rfl⟩
        · refine .inr fun c hc hcollides => ?_
          rw [hres] at hc
          rw [List.mem_singleton.mp hx] at hcollides
          rwa [hid.of_step hc hcandidate.1 hcollides]
      · rcases List.mem_append.mp hx with hx | hx
        · exact .inl ⟨x, by rw [hsame] at hx; exact hx, rfl⟩
        · refine .inr fun r hr he => ?_
          rw [hrows] at hr
          obtain ⟨f, row, hrow, hcand, hkind, hwired, hfor⟩ := hw.output_row hx
          have hrowId : row.resourceId = f.id := (congrArg BindingResource.id hwired :)
          obtain rfl : r = row := eq_of_key_eq (List.pairwise_map.mp hid.outputIds) hr
            (List.mem_filter.mpr ⟨hrow, by simpa using hkind⟩) (he.trans (hfor.id.trans hrowId.symm))
          exact ⟨_, hw.candidateId_eq.trans hcand.symm, hcandidate⟩
  | bound row hguard hb =>
      rw [hb]
      refine ⟨fun x hx => ?_, fun x hx => .inl ⟨x, hx, rfl⟩, fun x hx => .inl ⟨x, hx, rfl⟩⟩
      rcases List.mem_append.mp hx with hx | hx
      · exact .inl hx
      · rw [List.mem_singleton.mp hx]
        exact .inr fun c hc hcollides => ⟨hc, (bindingGuard_ok hguard hc hcollides).1⟩
  | moved s revision state hs hguard hb =>
      rw [hb]
      exact ⟨fun x hx => .inl hx, fun x hx => .inl ⟨x, hx, rfl⟩, fun x hx => .inl ⟨x, hx, rfl⟩⟩

end Pending

/-! ## 3. A status moves once -/

def PolicyStore.status? (s : PolicyStore) (candidateId : String) : Option StatusRow :=
  s.statuses.find? fun st => st.candidateId = candidateId

/-- From the one store to the other the status of the candidate stays what it is, or leaves pending. -/
def MovedOnce (s s' : PolicyStore) (candidateId : String) : Prop :=
  ∃ st st', s.status? candidateId = some st ∧ s'.status? candidateId = some st' ∧
    (st' = st ∨ (st.state = .pending ∧ st.revision = 1 ∧ st'.state ≠ .pending ∧ st'.revision = 2))

theorem Identified.status {s : PolicyStore} (h : Identified s) {c : ReservationRow} (hc : c ∈ s.reservations) :
    ∃ st ∈ s.statuses, s.status? c.candidateId = some st ∧ st.candidateId = c.candidateId := by
  obtain ⟨st, hst, hid⟩ := h.statuses c hc
  exact ⟨st, hst, hid ▸ h.find_status hst, hid⟩

theorem movedOnce {s s' : PolicyStore} (h : Identified s) (h' : Identified s') (hev : Evolves s s')
    {c : ReservationRow} (hc : c ∈ s.reservations) : MovedOnce s s' c.candidateId := by
  obtain ⟨st, hst, hfound, hid⟩ := h.status hc
  obtain ⟨st', hst', hfound', hid'⟩ := h'.status (hev.reservations.subset hc)
  refine ⟨st, st', hfound, hfound', ?_⟩
  have hrev := h.revisions st hst
  have hrev' := h'.revisions st' hst'
  by_cases hp : st.state = .pending
  · rw [if_pos hp] at hrev
    by_cases hp' : st'.state = .pending
    · rw [if_pos hp'] at hrev'
      obtain ⟨_, _, _⟩ := st
      obtain ⟨_, _, _⟩ := st'
      simp only at hid hid' hrev hrev' hp hp'
      subst hid hid' hrev hrev' hp hp'
      exact .inl rfl
    · rw [if_neg hp'] at hrev'
      exact .inr ⟨hp, hrev, hp', hrev'⟩
  · have hsame := hev.statuses _ st hfound hp
    exact .inl (Option.some.inj (hfound'.symm.trans hsame))

/-! ## 4. A repeated reservation -/

section Repeated

variable {env : PolicyEnv} {s s' : PolicyStore} {c : ReservationRow} {q q' : ReserveAuthorityCandidate}
  {outside : ReserveOutside} {lease : Tasks.Lease} {selected checkedAt : String}
  {result : PendingAuthorityCandidate}

/-- What is recorded stays recorded. -/
theorem Recorded.evolves (h : Recorded s c q result) (hev : Evolves s s') : Recorded s' c q result := by
  have hid : (s.loadView.reservation? q.candidateId).isSome := by rw [h.found]; rfl
  have hchoices : s'.choices q.candidateId = s.choices q.candidateId :=
    congrArg (List.map ResourceRow.choice) (hev.resources _ hid)
  have hpin : s'.loadView.exportPin? q.candidateId = s.loadView.exportPin? q.candidateId :=
    hev.exportPins _ hid
  exact ⟨hev.reservation h.found, h.same, h.readable, hchoices ▸ h.stored, hpin ▸ h.pinned,
    hchoices ▸ h.counted, h.profile, h.placed, hchoices ▸ h.returned⟩

/-- **A reservation that succeeds is recorded.** -/
theorem Identified.recorded (hid : Identified s)
    (h : reserveAuthorityCandidate env outside s q lease selected checkedAt = .ok (s', result)) :
    ∃ c, Recorded s' c q result := by
  rcases reserveAuthorityCandidate_ok h with ⟨hreplay, rfl⟩ | ⟨-, w, hw, hins, rfl⟩
  · exact recorded_of_replay hreplay
  · exact ⟨_, recorded_of_new hw hid.pins (insertReservation_ok hins)⟩

theorem shapeValid_of_ok
    (h : reserveAuthorityCandidate env outside s q lease selected checkedAt = .ok (s', result)) :
    q.shapeValid = true := by
  simp only [reserveAuthorityCandidate, bind_eq_ok', exists_unit, rejectIf_ok] at h
  simpa using h.1

theorem shapeValid_reordered {resources : List CandidateResourceChoice} (hperm : resources.Perm q.resources) :
    (q.reordered resources).shapeValid = q.shapeValid := by
  have hempty : resources.isEmpty = q.resources.isEmpty := by
    rw [Bool.eq_iff_iff, List.isEmpty_iff, List.isEmpty_iff, ← List.length_eq_zero_iff,
      ← List.length_eq_zero_iff, hperm.length_eq]
  unfold ReserveAuthorityCandidate.shapeValid
  simp only [ReserveAuthorityCandidate.reordered, hempty, hperm.length_eq]
  rfl

/-- A recorded request returns its result again, to a manager that holds the lease. -/
theorem Recorded.repeated (h : Recorded s c q result) (hshape : q.shapeValid = true)
    (hlease : s.lease = some lease) (hpending : s.loadView.state? q.candidateId = some .pending)
    {pin : Option ExportPin} (hpin : currentExportPin env s.loadView c = .ok pin) :
    reserveAuthorityCandidate env outside s q lease selected checkedAt = .ok (s, result) := by
  have hreplay : replayExisting env s q = .ok (some result) := h.replay hpending hpin
  simp only [reserveAuthorityCandidate, bind_eq_ok', exists_unit, rejectIf_ok]
  exact ⟨by simp [hshape], by simp [assertManagerLease, hlease], some result, hreplay, rfl⟩

/-- Another request under the identity of a recorded one is refused. -/
theorem Recorded.refused (h : Recorded s c q result) (hid : q'.candidateId = q.candidateId)
    (hother : ¬ ∃ resources, resources.Perm q.resources ∧ q' = q.reordered resources) :
    ∃ e, reserveAuthorityCandidate env outside s q' lease selected checkedAt = .error e := by
  cases hr : reserveAuthorityCandidate env outside s q' lease selected checkedAt with
  | error e => exact ⟨e, rfl⟩
  | ok r =>
      obtain ⟨b, result'⟩ := r
      rcases reserveAuthorityCandidate_ok hr with ⟨hreplay, -⟩ | ⟨-, w, hw, hins, -⟩
      · obtain ⟨c', hrec⟩ := recorded_of_replay hreplay
        exact absurd (h.unique hrec hid).1 hother
      · have hfresh := (insertReservation_ok hins).fresh c (List.mem_of_find?_eq_some h.found)
        exact absurd ((candidateId_of_found h.found).trans hid.symm) hfresh

end Repeated

/-! ## 5. The laws -/

/-- The candidate is pending, and its export, if it has one, is current: the service is ready under its
    descriptor, the source is what it was, and the Task lets data leave. -/
def Repeatable (env : PolicyEnv) (s : PolicyStore) (candidateId : String) : Prop :=
  s.loadView.state? candidateId = some .pending ∧
    ∃ c pin, s.loadView.reservation? candidateId = some c ∧ currentExportPin env s.loadView c = .ok pin

structure ReservationLaws (env : PolicyEnv) (start : PolicyStore) : Prop where
  /-- Every identity is of one candidate. -/
  identified : ∀ s, Later env start s → Identified s
  /-- A row that carries a reserved identity has the pins of its candidate. -/
  consumed : ∀ s, Later env start s → Consumed s
  /-- It came while the candidate was pending. -/
  came : ∀ s, Later env start s → ∀ op, CameWhilePending s (s.next env op)
  /-- The status of a candidate moves once, away from pending. -/
  moved : ∀ s, Later env start s → ∀ s', Later env s s' → ∀ c ∈ s.reservations, MovedOnce s s' c.candidateId
  /-- A new reservation takes the attempt after the largest its node has had. -/
  attempt : ∀ s, Later env start s → ∀ op, ∀ c ∈ (s.next env op).reservations, c ∉ s.reservations →
    ∃ latest, c.attemptNumber = latest + 1 ∧
      (latest = 0 ∨ UsedAttempt s c.taskId c.semanticProgramHash c.nodeId latest) ∧
      ∀ earlier, Later env start earlier → Later env earlier s → ∀ n,
        UsedAttempt earlier c.taskId c.semanticProgramHash c.nodeId n → n ≤ latest
  /-- The repetition of a reservation, in any order of its resources, returns what it returned and
      writes nothing. -/
  repeated : ∀ s, Later env start s → ∀ outside q lease selected checkedAt s' result,
    reserveAuthorityCandidate env outside s q lease selected checkedAt = .ok (s', result) →
    ∀ t, Later env s' t → Repeatable env t q.candidateId →
    ∀ resources, resources.Perm q.resources → ∀ outside lease selected checkedAt, t.lease = some lease →
      reserveAuthorityCandidate env outside t (q.reordered resources) lease selected checkedAt = .ok (t, result)
  /-- Any other request under the identity of the candidate is refused, and the store stays as it is. -/
  refused : ∀ s, Later env start s → ∀ outside q lease selected checkedAt s' result,
    reserveAuthorityCandidate env outside s q lease selected checkedAt = .ok (s', result) →
    ∀ t, Later env s' t → ∀ q', q'.candidateId = q.candidateId →
    (¬ ∃ resources, resources.Perm q.resources ∧ q' = q.reordered resources) →
    ∀ outside lease selected checkedAt,
      (∃ e, reserveAuthorityCandidate env outside t q' lease selected checkedAt = .error e) ∧
        t.next env (.ledger (.reserve outside lease q' selected checkedAt)) = t

/-- What is new among the reservations of one operation is what it reserved. -/
theorem Written.new_reservation {env : PolicyEnv} {a b : PolicyStore} (hw : Written env a b)
    {c : ReservationRow} (hc : c ∈ b.reservations) (hnew : c ∉ a.reservations) :
    ∃ q checkedAt, ∃ w : NewCandidate, w.Checked env a q ∧ c = w.row q checkedAt := by
  cases hw with
  | quiet hq => exact absurd (hq.reservations ▸ hc) hnew
  | @reserved q checkedAt w hw hins =>
      rw [hins.stored] at hc
      rcases List.mem_append.mp hc with hc | hc
      · exact absurd hc hnew
      · exact ⟨q, checkedAt, w, hw, List.mem_singleton.mp hc⟩
  | @finalised backend id createdAt w hw hb =>
      have hres : b.reservations = a.reservations := by
        rw [hb]
        show w.evaluated.reservations = _
        rw [hw.evaluated_same]
      exact absurd (hres ▸ hc) hnew
  | bound row hguard hb =>
      rw [hb] at hc
      exact absurd hc hnew
  | moved s revision state hs hguard hb =>
      rw [hb] at hc
      exact absurd hc hnew

/-- **Reserved identities are exclusive and single-use**, in every run from a store without candidates,
    whatever its other tables hold. -/
theorem reservation_laws (env : PolicyEnv) (start : PolicyStore) : ReservationLaws env start.unreserved := by
  have hidentified : ∀ s, Later env start.unreserved s → Identified s := fun s hs =>
    hs.identified (identified_unreserved start)
  -- what was reserved in the run is recorded from there on
  have hrecorded : ∀ {s}, Later env start.unreserved s → ∀ {outside q lease selected checkedAt s' result},
      reserveAuthorityCandidate env outside s q lease selected checkedAt = .ok (s', result) →
      ∀ {t}, Later env s' t → ∃ c, Recorded t c q result := by
    intro s hs outside q lease selected checkedAt s' result hr t ht
    obtain ⟨c, hc⟩ := (hidentified s hs).recorded hr
    exact ⟨c, hc.evolves ht.evolves⟩
  refine ⟨hidentified, fun s hs => hs.consumed (identified_unreserved start) (consumed_unreserved start),
    fun s hs op => (next_cases env s op).2.came (hidentified s hs),
    fun s hs s' hs' c hc => movedOnce (hidentified s hs) (hidentified s' (hs.trans hs')) hs'.evolves hc,
    fun s hs op c hc hnew => ?_, ?_, ?_⟩
  · obtain ⟨q, checkedAt, w, hw, rfl⟩ := (next_cases env s op).2.new_reservation hc hnew
    obtain ⟨hupper, hused⟩ := latestAttempt_spec (a := s) (q := q)
    exact ⟨latestAttempt s q, hw.attempt, hused, fun earlier _ hlater n hn =>
      hupper n (hn.evolves hlater.evolves)⟩
  · intro s hs outside q lease selected checkedAt s' result hr t ht hrepeat resources hperm outside' lease'
      selected' checkedAt' hlease
    obtain ⟨c, hc⟩ := hrecorded hs hr ht
    obtain ⟨hpending, c', pin, hfound, hpin⟩ := hrepeat
    obtain rfl : c' = c := Option.some.inj (hfound.symm.trans hc.found)
    exact (hc.reordered hperm).repeated (by rw [shapeValid_reordered hperm]; exact shapeValid_of_ok hr) hlease
      hpending hpin
  · intro s hs outside q lease selected checkedAt s' result hr t ht q' hid hother outside' lease' selected'
      checkedAt'
    obtain ⟨c, hc⟩ := hrecorded hs hr ht
    have hrefused : ∃ e, reserveAuthorityCandidate env outside' t q' lease' selected' checkedAt' = .error e :=
      hc.refused hid hother
    refine ⟨hrefused, ?_⟩
    obtain ⟨e, he⟩ := hrefused
    simp only [PolicyStore.next, TableOp.outcome, perform, he]
    rfl

/-! ## 6. A sample: the copy of an input leaves for a partner -/

/-- A program of one node. -/
def copyProgram : Json :=
  .obj [
    ("inputs", .obj [("doc", .obj [("type", .str "artifact.file@1")])]),
    ("nodes", .arr [.obj [
      ("authority_requests", .arr [
        .obj [("action", .str "artifact.read"), ("resource", .str "input:doc")],
        .obj [("action", .str "artifact.write"), ("resource", .str "task.output")],
        .obj [("action", .str "data.egress"), ("resource", .str "destination:partner")]]),
      ("egress", .obj [("destination_classes", .arr [.str "partner"]), ("mode", .str "policy")]),
      ("id", .str "copy"),
      ("inputs", .obj [("doc", .obj [("name", .str "doc"), ("source", .str "input")])]),
      ("operation", .obj [("capability", .str "artifact.copy@1")]),
      ("outputs", .obj [("copy", .str "artifact.file@1")])]])]

def copyConstraints : Json := .obj [("privacy", .str "remote-allowed")]

/-- A reader of the two texts of the sample. -/
def copyParse (text : String) : Option Json :=
  [copyProgram, copyConstraints].find? fun v => plainText v = text

/-- SHA-256 at the one input the sample hashes. -/
def copyDigest : Digest :=
  knownDigest [("AIOS-TRUSTED-EXPORT-SERVICE\x00v1\x00".toUTF8.toList ++
      "service://partner\x00partner\x00adapter:1\x00".toUTF8.toList,
    ⟨[132, 68, 244, 51, 26, 213, 202, 51, 169, 100, 231, 228, 185, 234, 180, 223, 224, 214, 61, 107, 0,
      102, 29, 211, 44, 39, 56, 209, 42, 111, 95, 35], rfl⟩)]

/-- A hash that stands for every content of the sample. -/
def copyHash : String := "sha256:5b1e0c4bb1d14a3ab2a1ba0b0ba2c8a3fd1aa9d5c4f3c6f7c3f8e1a0b6c7d8e9"

def copyNow : String := "2026-09-19T00:00:00Z"

def copyEnv : PolicyEnv where
  time := ⟨fun text => if text = copyNow then some 1789776000000000000 else none, fun _ => none⟩
  digest := copyDigest
  canonicalJson := fun v => .ok (plainText v)
  parseStrict := copyParse
  sqlJson := copyParse
  parseJson := copyParse
  jsonPointer := fun _ _ => none
  recomputeSemanticHash := fun text => if text = plainText copyProgram then some copyHash else none

/-- The Task, its program, its input in this state, and the service. -/
def copyWorld (integrityState : String) : World where
  tasks := [⟨"task:1", 1, .planning, "user", "user:1", some (plainText copyConstraints), some 1⟩]
  programs := [⟨"task:1", 1, "active", "0.1", some copyHash, some "registry:1", plainText copyProgram⟩]
  artifacts := [⟨"artifact:1", some "artifact.file@1", some 10, some copyHash, "local", some "task", none,
    integrityState⟩]
  taskArtifacts := [⟨"task:1", "artifact:1", "input"⟩]
  exportServices := [⟨"service://partner", "partner", "adapter:1",
    "sha256:8444f4331ad5ca33a964e7e4b9eab4dfe0d63d6b00661dd32c2738d12a6f5f23", "READY"⟩]

def copyLease : Tasks.Lease := ⟨"manager:1", 1⟩

def copyOutside : ReserveOutside where
  receiptValid := true
  provider := .ok ⟨"registration:1", "provider:1", "1.0", copyHash, copyHash, "evidence:1", "trust:1", "P2"⟩

def copyRequest : ReserveAuthorityCandidate where
  candidateId := "candidate:1"
  bindingId := "binding:1"
  attemptId := "attempt:1"
  taskId := "task:1"
  semanticProgramHash := copyHash
  registrySnapshotId := "registry:1"
  nodeId := "copy"
  capabilityContractHash := copyHash
  providerRegistrationId := "registration:1"
  attemptNumber := 1
  resources := [
    ⟨"artifact.read", "input:doc", .inputArtifact "artifact:1"⟩,
    ⟨"artifact.write", "task.output", .outputAllocation "allocation:1" "copy"⟩,
    ⟨"data.egress", "destination:partner",
      .externalExport "service://partner" "artifact:1" "operation:1" "delivery" 10⟩]

/-- The sample after its reservation and these operations. -/
def copyAfter (ops : List TableOp) : PolicyStore :=
  tableRun copyEnv (PolicyStore.initial (copyWorld "verified")).unreserved
    (.ledger (.elsewhere (copyWorld "verified") (some copyLease) ⟨none, [], [], []⟩) ::
      .ledger (.reserve copyOutside copyLease copyRequest copyNow copyNow) :: ops)

/-- The binding of the candidate. -/
def copyBinding : Option BindingRow :=
  (copyAfter []).reservations.head?.map fun c => bindingRow c [] [] ["artifact:1"] copyNow

/-- An allocation of another node, for the reserved binding. -/
def copyAllocation : AllocationRow where
  allocationId := "allocation:2"
  taskId := "task:1"
  semanticProgramHash := copyHash
  nodeId := "scan"
  bindingId := some "binding:1"
  attemptId := none
  outputPort := some "copy"
  expectedSemanticType := some "artifact.file@1"
  maxSizeBytes := some 10
  sensitivity := "local"
  retention := "task"
  state := .allocated
  createdAt := copyNow
  expiresAt := copyNow

/-- A stale candidate with its binding; a pending one with its service as it was, and no repetition; an
    allocation of another node with a reserved binding. -/
theorem stale_with_binding :
    (∃ row ∈ copyBinding, ∃ s, s = copyAfter [.insertBinding true row, .updateStatus "candidate:1" 2 .stale] ∧
      s.loadView.state? "candidate:1" = some .stale ∧ s.bindings = [row] ∧
      s.reservations.any (fun c => bindingCollides c row) = true) ∧
    (∃ s, s = copyAfter [.ledger (.elsewhere (copyWorld "failed") (some copyLease) ⟨none, [], [], []⟩)] ∧
      s.loadView.state? "candidate:1" = some .pending ∧
      s.world.exportServices = (copyWorld "verified").exportServices ∧
      (reserveAuthorityCandidate copyEnv copyOutside s copyRequest copyLease copyNow copyNow).isOk = false) ∧
    ∃ s, s = copyAfter [.ledger (.allocate copyAllocation)] ∧
      s.allocations = [copyAllocation] ∧ s.reservations.any (fun c =>
        copyAllocation.bindingId = some c.bindingId && copyAllocation.nodeId ≠ c.nodeId) = true := by
  refine ⟨⟨copyBinding.get (by decide +kernel), ?_, _, rfl, ?_⟩, ⟨_, rfl, ?_⟩, _, rfl, ?_⟩ <;> decide +kernel

end Aios.Policy
