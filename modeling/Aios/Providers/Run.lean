/-
  File:      Aios/Providers/Run.lean
  Subject:   RUNS OF THE PROVIDER STORE, and what one operation can write.

  * `History` -- the stores a run went through, the newest first. Every operation reads from one of
    them and writes to the newest.
  * `Written`, `outcome_written` -- an operation writes one of six things, or nothing. What holds of
    every run is read off these cases, never off the operations.
  * `Grown`, `History.grown` -- nothing is taken back.
-/
import Aios.Providers.Binding
import Aios.Registry.Evolved

namespace Aios.Providers

open Lib Registry

/-! ## 1. Operations and runs -/

inductive ProviderOp (env : ProviderEnv) where
  | register (fence : Option WriteFence) (loaded : LoadedRegistry env.store) (rawManifest buildHash : String)
      (trust : ProviderTrustStatus) (registeredAt : String)
  | recordEvidence (fence : Option WriteFence) (registrationId rawEvidence : String)
  | admitTrust (fence : Option WriteFence) (registrationId decisionId : String)
      (trust : ProviderTrustStatus) (authorityRef admittedAt : String)
  | enable (fence : Option WriteFence) (registrationId now : String)
  | disable (fence : Option WriteFence) (registrationId now : String)
  | revoke (fence : Option WriteFence) (registrationId now : String)
  | bind (b : BindingRow)
  /-- An operation of the semantic registry on the same store. -/
  | semantic (op : StoreOp env.store)

/-- The result of an operation that read from `seen` and writes to `db`. -/
def outcome {env : ProviderEnv} (seen db : ProviderDb) : ProviderOp env → ProviderResult ProviderDb
  | .register fence loaded rawManifest buildHash trust registeredAt =>
      (register env fence db loaded.registry rawManifest buildHash trust registeredAt).map Prod.fst
  | .recordEvidence fence id rawEvidence => (recordEvidence env fence seen db id rawEvidence).map Prod.fst
  | .admitTrust fence id decisionId trust authorityRef admittedAt =>
      (admitTrust env fence seen db id decisionId trust authorityRef admittedAt).map Prod.fst
  | .enable fence id now => enable env fence seen db id now
  | .disable fence id now => disable env fence seen db id now
  | .revoke fence id now => revoke env fence seen db id now
  | .bind b => insertBinding env db b
  | .semantic op => .ok { db with semantic := Registry.perform db.semantic op }

/-- A transaction that fails is rolled back. -/
def committed (db : ProviderDb) (r : ProviderResult ProviderDb) : ProviderDb :=
  match r with
  | .ok db' => db'
  | .error _ => db

def perform {env : ProviderEnv} (seen db : ProviderDb) (op : ProviderOp env) : ProviderDb :=
  committed db (outcome seen db op)

/-- The store once the migrations are applied: a semantic registry and no provider. -/
def opened (l : Legacy) : ProviderDb where
  semantic := upgraded l
  registrations := []
  manifests := []
  epochs := []
  admissions := []
  evidence := []
  bindings := []
  admissionMarkers := []
  trustMarkers := []
  enablementMarkers := []
  quarantined := []

/-- The stores of a run, the newest first. -/
inductive History (env : ProviderEnv) : List ProviderDb → Prop
  | opened (l : Legacy) : History env [opened l]
  | step {db seen : ProviderDb} {past : List ProviderDb} (h : History env (db :: past))
      (hseen : seen ∈ db :: past) (op : ProviderOp env) : History env (perform seen db op :: db :: past)

/-- A run of the store. -/
structure Run (env : ProviderEnv) where
  newest : ProviderDb
  past : List ProviderDb
  history : History env (newest :: past)

def Run.stores {env : ProviderEnv} (run : Run env) : List ProviderDb := run.newest :: run.past

/-! ## 2. What an operation writes -/

/-- The registration carries the receipt of this manifest, which is stored under this text. -/
structure ReceiptOf (env : ProviderEnv) (r : RegistrationRow) (text : String) (m : CapabilityManifest) :
    Prop where
  read : ∃ raw value, env.readDocument .manifest raw = .ok value ∧ env.decodeManifest value = .ok m ∧
    env.canonicalText value = .ok text
  verified : verifyProviderRegistrationReceipt env r.registration m r.trustStatus r.registeredAt
    r.registrationJson = .ok ()

/-- An enablement that was checked on this store. -/
structure EnabledBy (env : ProviderEnv) (seen : ProviderDb) (r : ProviderRegistration) (now : String)
    (at_ : Int) : Prop where
  time : env.instant now = some at_
  checks : enablementChecks env seen r now at_ = .ok ()

inductive Written (env : ProviderEnv) (seen db : ProviderDb) : ProviderDb → Prop
  | nothing : Written env seen db db
  | registration (r : RegistrationRow) (text : String) (m : CapabilityManifest)
      (hfresh : ∀ p ∈ db.registrations, p.registrationId ≠ r.registrationId)
      (hdisabled : r.state = .disabled) (htime : r.updatedAt = none) (hreceipt : ReceiptOf env r text m)
      (hnext : nextEpoch db r.registrationId = some 0) :
      Written env seen db { db with
        registrations := db.registrations ++ [r]
        epochs := db.epochs ++ [⟨r.registrationId, 0, .disabled, r.registeredAt⟩]
        manifests := db.manifests ++ [(r.registrationId, text)] }
  | evidence (e : Tasks.ConformanceRow) (hnew : db.evidence? e.evidenceId = none)
      (htested : (e.testedAt.bind env.instant).isSome) :
      Written env seen db { db with evidence := db.evidence ++ [e] }
  | admission (a : TrustAdmissionRow) (hnew : ∀ p ∈ db.admissions, p.admissionId ≠ a.admissionId)
      (hrevision : a.revision = ((db.lastAdmission? a.registrationId).map (· + 1)).getD 1)
      (hmatch : admissionMatches env db a = true) :
      Written env seen db { db with admissions := db.admissions ++ [a] }
  | state (r : RegistrationRow) (state : LifecycleState) (now : String)
      (hr : db.registration? r.registrationId = some r) (hmove : state ≠ r.state)
      (hlive : r.state ≠ .revoked) (htime : (env.instant now).isSome)
      (hclock : sqlNotAfter env.time r.effectiveAt.toList now.toList = true)
      (henable : state = .registered → ∃ s at_, seen.registration? r.registrationId = some s ∧
        EnabledBy env seen s.registration now at_)
      (hopen : state = .registered ∨ state = .disabled ∨ state = .revoked) :
      Written env seen db { db with
        registrations := db.registrations.map (RegistrationRow.moved r.registrationId state now)
        epochs := db.epochs ++
          [⟨r.registrationId, ((db.lastEpoch? r.registrationId).map (· + 1)).getD 0, state, now⟩] }
  | binding (b : BindingRow) (hb : Admissible env db b) : Written env seen db (withMarkers env db b)
  | semantic (s : RegistryDb) (hs : Registry.Step db.semantic s) :
      Written env seen db { db with semantic := s }

/-- A manifest for every registration and for nothing else. -/
def Paired (db : ProviderDb) : Prop :=
  ∀ id, (db.manifest? id).isSome = (db.registration? id).isSome

section Specs

variable {env : ProviderEnv} {seen db db' : ProviderDb}

theorem registration?_key {id : String} {r : RegistrationRow} (h : db.registration? id = some r) :
    r.registrationId = id := by simpa [ProviderDb.registration?] using List.find?_some h

theorem registration?_mem {id : String} {r : RegistrationRow} (h : db.registration? id = some r) :
    r ∈ db.registrations := List.mem_of_find?_eq_some h

theorem registration?_none {id : String} :
    db.registration? id = none ↔ ∀ r ∈ db.registrations, r.registrationId ≠ id := by
  simp [ProviderDb.registration?, List.find?_eq_none]

theorem parseTime_ok {value : String} {t : Int} : parseTime env value = .ok t ↔ env.instant value = some t := by
  simp [parseTime]

/-- What `prepareRegistration` has made of its document. -/
theorem prepareRegistration_spec {registry : SemanticRegistry} {raw buildHash registeredAt : String}
    {trust : ProviderTrustStatus} {c : Candidate}
    (h : prepareRegistration env registry raw buildHash trust registeredAt = .ok c) :
    ∃ value, env.readDocument .manifest raw = .ok value ∧ env.decodeManifest value = .ok c.manifest ∧
      env.canonicalText value = .ok c.manifestJson ∧ (env.instant registeredAt).isSome = true ∧
      c.registration.buildHash = buildHash := by
  unfold prepareRegistration parseManifest at h
  simp only [bind_eq_ok', exists_unit, invalidIf_ok, jsonError_ok, rejectIf_ok] at h
  obtain ⟨_, _, t, ht, ⟨value, manifest⟩, ⟨v, hread, m, hdecode, hpair⟩, _, _, text, htext, receipt, _, h⟩ := h
  have hpair : (v, m) = (value, manifest) := Except.ok.inj hpair
  obtain ⟨rfl, rfl⟩ := Prod.mk.inj hpair
  have hc := (Except.ok.inj h).symm
  subst hc
  exact ⟨v, hread, hdecode, htext, by rw [parseTime_ok.mp ht]; rfl, rfl⟩

theorem register_written (hpaired : Paired db) {fence : Option WriteFence} {registry : SemanticRegistry}
    {raw buildHash registeredAt : String} {trust : ProviderTrustStatus} {stored : ProviderRegistration}
    (h : register env fence db registry raw buildHash trust registeredAt = .ok (db', stored)) :
    Written env seen db db' := by
  unfold register at h
  rw [bind_eq_ok'] at h
  obtain ⟨c, hc, h⟩ := h
  obtain ⟨value, hread, hdecode, htext, -, -⟩ := prepareRegistration_spec hc
  obtain ⟨h, -⟩ := fenced_ok h
  unfold registerIn at h
  rw [unit_bind_eq_ok, invalidIf_ok] at h
  obtain ⟨-, h⟩ := h
  rw [bind_eq_ok'] at h
  obtain ⟨⟨db₁, stored₁, existing⟩, hstore, h⟩ := h
  simp only [bind_eq_ok', exists_unit, conflictIf_ok] at h
  obtain ⟨-, db₂, hmanifest, hverify, -, h⟩ := h
  obtain ⟨rfl, rfl⟩ := Prod.mk.inj (Except.ok.inj h)
  unfold storeRegistration at hstore
  unfold storeManifestPayload at hmanifest
  split at hstore
  · -- The build is there; so is its manifest, and nothing is written.
    next row hrow =>
    obtain ⟨rfl, hrest⟩ := Prod.mk.inj (Except.ok.inj hstore)
    obtain ⟨rfl, -⟩ := Prod.mk.inj hrest
    have hmem : row ∈ db.registrations := List.mem_of_find?_eq_some hrow
    split at hmanifest
    · next payload _ =>
      rw [unit_bind_eq_ok] at hmanifest
      rw [← Except.ok.inj hmanifest.2]
      exact .nothing
    · next hnone =>
      have hsome := hpaired row.registrationId
      rw [show db.manifest? row.registrationId = none from hnone] at hsome
      have hreg := registration?_none.mp (Option.isNone_iff_eq_none.mp (by
        rw [← Option.not_isSome, ← hsome]
        rfl)) row hmem
      exact absurd rfl hreg
  · rw [bind_eq_ok'] at hstore
    obtain ⟨db₃, hinsert, hstore⟩ := hstore
    obtain ⟨rfl, hrest⟩ := Prod.mk.inj (Except.ok.inj hstore)
    obtain ⟨rfl, -⟩ := Prod.mk.inj hrest
    obtain ⟨hfresh, -, hnext, rfl⟩ := insertRegistration_spec hinsert
    have hreg : db.registration? c.registration.registrationId = none :=
      registration?_none.mpr fun p hp => (hfresh p hp).1
    have hnone : db.manifest? c.registration.registrationId = none := by
      have hpair := hpaired c.registration.registrationId
      rw [hreg] at hpair
      simpa using hpair
    split at hmanifest
    · next payload hpayload =>
      have e : db.manifest? c.registration.registrationId = some payload := hpayload
      rw [hnone] at e
      cases e
    · obtain ⟨-, rfl⟩ := insertManifest_spec hmanifest
      refine .registration ⟨c.registration, .disabled, trust, c.receiptJson, registeredAt, none⟩
        c.manifestJson c.manifest (fun p hp => (hfresh p hp).1) rfl rfl ⟨⟨raw, value, hread, hdecode, htext⟩, ?_⟩
        hnext
      unfold verifyStoredRegistrationReceipt at hverify
      rw [bind_eq_ok'] at hverify
      obtain ⟨row, hrow, hverify⟩ := hverify
      rw [expect_ok] at hrow
      have hkey := registration?_key hrow
      rcases List.mem_append.mp (registration?_mem hrow) with hold | hnew
      · exact absurd hkey (hfresh row hold).1
      · rw [List.mem_singleton.mp hnew] at hverify
        exact hverify

theorem prepareEvidence_spec {registrationId raw : String} {row : Tasks.ConformanceRow}
    (h : prepareEvidence env seen registrationId raw = .ok row) :
    row.registrationId = registrationId ∧ (row.testedAt.bind env.instant).isSome = true := by
  unfold prepareEvidence stringIs stringAt at h
  simp only [bind_eq_ok', exists_unit, invalidIf_ok, jsonError_ok, expect_ok, parseTime_ok] at h
  obtain ⟨evidence, -, id, -, stored, -, -, -, -, capability, -, contractHash, -, suiteId, -, suiteHash, -, h⟩ := h
  obtain ⟨suiteVersion, -, testedAt, -, tested, htested, -, manifest, -, claim, -, -, -, version, -, -, h⟩ := h
  obtain ⟨result, -, -, -, canonical, -, h⟩ := h
  rw [← Except.ok.inj h]
  refine ⟨rfl, ?_⟩
  show (env.instant testedAt).isSome = true
  rw [htested]
  rfl

theorem recordEvidence_written {fence : Option WriteFence} {registrationId raw id : String}
    (h : recordEvidence env fence seen db registrationId raw = .ok (db', id)) :
    Written env seen db db' := by
  unfold recordEvidence at h
  simp only [bind_eq_ok'] at h
  obtain ⟨row, hrow, db₁, hstore, h⟩ := h
  obtain ⟨rfl, -⟩ := Prod.mk.inj (Except.ok.inj h)
  obtain ⟨hstore, -⟩ := fenced_ok hstore
  unfold storeEvidence at hstore
  split at hstore
  · rw [unit_bind_eq_ok] at hstore
    rw [← Except.ok.inj hstore.2]
    exact .nothing
  · obtain ⟨hnew, -, rfl⟩ := insertEvidence_spec hstore
    exact .evidence row hnew (prepareEvidence_spec hrow).2

theorem admitTrust_written {fence : Option WriteFence} {registrationId decisionId authorityRef admittedAt id : String}
    {trust : ProviderTrustStatus}
    (h : admitTrust env fence seen db registrationId decisionId trust authorityRef admittedAt = .ok (db', id)) :
    Written env seen db db' := by
  unfold admitTrust at h
  simp only [bind_eq_ok', exists_unit] at h
  obtain ⟨-, decided, -, row, -, manifest, -, h⟩ := h
  obtain ⟨h, -⟩ := fenced_ok h
  unfold admitTrustIn at h
  simp only [bind_eq_ok', exists_unit] at h
  obtain ⟨_, _, _, _, _, _, receipt, _, h⟩ := h
  split at h
  · rw [unit_bind_eq_ok] at h
    obtain ⟨rfl, -⟩ := Prod.mk.inj (Except.ok.inj h.2)
    exact .nothing
  · rw [bind_eq_ok'] at h
    obtain ⟨db₁, hinsert, h⟩ := h
    obtain ⟨rfl, -⟩ := Prod.mk.inj (Except.ok.inj h)
    obtain ⟨hnew, hrevision, hmatch, rfl⟩ := insertTrustAdmission_spec hinsert
    exact .admission _ (fun p hp => (hnew p hp).1) hrevision hmatch

theorem setState_written {fence : Option WriteFence} {registrationId now : String} {state : LifecycleState}
    (hopen : state = .registered ∨ state = .disabled ∨ state = .revoked)
    (h : setState env fence seen db registrationId state now = .ok db') : Written env seen db db' := by
  unfold setState loadRegistration at h
  simp only [bind_eq_ok', exists_unit, parseTime_ok, expect_ok, conflictIf_ok] at h
  obtain ⟨at_, htime, s, hs, -, hchecks, h⟩ := h
  obtain ⟨h, -⟩ := fenced_ok h
  unfold setStateIn at h
  simp only [bind_eq_ok', exists_unit, expect_ok, conflictIf_ok] at h
  obtain ⟨r, hr, -, h⟩ := h
  have hkey := registration?_key hr
  by_cases hsame : r.state = state
  · rw [if_pos hsame] at h
    rw [← Except.ok.inj h]
    exact .nothing
  · rw [if_neg hsame] at h
    subst hkey
    rcases updateState_spec hr h with ⟨hstay, -⟩ | ⟨hmove, hlive, hclock, rfl⟩
    · exact absurd hstay.symm hsame
    · refine .state r state now hr hmove hlive (by rw [htime]; rfl) hclock (fun henable => ?_) hopen
      rw [if_pos henable] at hchecks
      exact ⟨s, at_, hs, htime, hchecks⟩

/-- **An operation that succeeds has written one of these things.** -/
theorem outcome_written (hpaired : Paired db) {op : ProviderOp env} (h : outcome seen db op = .ok db') :
    Written env seen db db' := by
  cases op with
  | register fence loaded raw buildHash trust registeredAt =>
      obtain ⟨⟨db₁, stored⟩, hop, rfl⟩ := map_eq_ok.mp h
      exact register_written hpaired hop
  | recordEvidence fence id raw =>
      obtain ⟨⟨db₁, evidenceId⟩, hop, rfl⟩ := map_eq_ok.mp h
      exact recordEvidence_written hop
  | admitTrust fence id decisionId trust authorityRef admittedAt =>
      obtain ⟨⟨db₁, admissionId⟩, hop, rfl⟩ := map_eq_ok.mp h
      exact admitTrust_written hop
  | enable fence id now => exact setState_written (.inl rfl) h
  | disable fence id now => exact setState_written (.inr (.inl rfl)) h
  | revoke fence id now => exact setState_written (.inr (.inr rfl)) h
  | bind b =>
      obtain ⟨hb, rfl⟩ := (insertBinding_ok env db).mp h
      exact .binding b hb
  | semantic op =>
      rw [← Except.ok.inj h]
      exact .semantic _ (Registry.run_step db.semantic [op])

theorem perform_written (hpaired : Paired db) (op : ProviderOp env) :
    Written env seen db (perform seen db op) := by
  unfold perform committed
  split
  · next h => exact outcome_written hpaired h
  · exact .nothing

end Specs

end Aios.Providers
