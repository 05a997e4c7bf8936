/-
  File:      Aios/Providers/Tables.lean
  Subject:   THE PROVIDER TABLES and the statements that write them, with the triggers that guard them.

  No statement takes a row back. A state change is the one update, and it leaves an epoch behind: the
  epoch takes the next number or the statement fails (`insertEpoch`, `updateState`).
-/
import Aios.Providers.Documents

namespace Aios.Providers

open Lib Registry

/-! ## 1. Rows -/

/-- A row of `provider_registrations`. -/
structure RegistrationRow where
  registration : ProviderRegistration
  state : LifecycleState
  trustStatus : ProviderTrustStatus
  registrationJson : String
  registeredAt : String
  updatedAt : Option String
  deriving DecidableEq, Repr

namespace RegistrationRow

def registrationId (r : RegistrationRow) : String := r.registration.registrationId

/-- `COALESCE(updated_at, registered_at)`. -/
def effectiveAt (r : RegistrationRow) : String := r.updatedAt.getD r.registeredAt

end RegistrationRow

/-- A row of `provider_state_epochs`. -/
structure EpochRow where
  registrationId : String
  revision : Nat
  state : LifecycleState
  transitionedAt : String
  deriving DecidableEq, Repr

/-- A row of `execution_bindings`. -/
structure BindingRow where
  row : Tasks.BindingRow
  columns : Tasks.BindingColumns
  deriving DecidableEq

structure ProviderDb where
  /-- The tables of the semantic registry, in the same store. -/
  semantic : RegistryDb
  registrations : List RegistrationRow
  /-- `provider_manifest_payloads`: a registration and its manifest. -/
  manifests : List (String × String)
  epochs : List EpochRow
  admissions : List TrustAdmissionRow
  evidence : List Tasks.ConformanceRow
  bindings : List BindingRow
  /-- `execution_binding_admission_markers`: a binding and its evidence. -/
  admissionMarkers : List (String × String)
  /-- `execution_binding_trust_markers`: a binding and its trust source. -/
  trustMarkers : List (String × String)
  enablementMarkers : List Tasks.EnablementRow
  /-- `execution_binding_legacy_trust_quarantine`. -/
  quarantined : List String

/-! ## 2. What the store reads -/

section Reads

variable (db : ProviderDb)

def ProviderDb.registration? (id : String) : Option RegistrationRow :=
  db.registrations.find? fun r => r.registrationId = id

/-- The registration of an exact build. -/
def ProviderDb.build? (providerId version buildHash : String) : Option RegistrationRow :=
  db.registrations.find? fun r => r.registration.providerId = providerId &&
    r.registration.providerVersion = version && r.registration.buildHash = buildHash

def ProviderDb.manifest? (id : String) : Option String :=
  (db.manifests.find? fun m => m.1 = id).map Prod.snd

/-- The epochs of a registration as they were written. -/
def ProviderDb.epochsOf (id : String) : List EpochRow := db.epochs.filter fun e => e.registrationId = id

/-- `SELECT MAX(revision)`. -/
def ProviderDb.lastEpoch? (id : String) : Option Nat := ((db.epochsOf id).map EpochRow.revision).max?

/-- The trust admissions of a registration, `ORDER BY revision`. -/
def ProviderDb.admissionsOf (id : String) : List TrustAdmissionRow :=
  sortOn TrustAdmissionRow.revision (db.admissions.filter fun a => a.registrationId = id)

def ProviderDb.lastAdmission? (id : String) : Option Nat :=
  ((db.admissionsOf id).map TrustAdmissionRow.revision).max?

def ProviderDb.evidence? (id : String) : Option Tasks.ConformanceRow :=
  db.evidence.find? fun e => e.evidenceId = id

/-- The last trust admission, or the registration itself. -/
def ProviderDb.previousAt? (id : String) : Option String :=
  match (db.admissionsOf id).getLast? with
  | some a => some a.admittedAt
  | none => (db.registration? id).map RegistrationRow.registeredAt

/-- Something was repaired since the store was made. -/
def ProviderDb.repaired : Bool := 0 < db.semantic.generation

def ProviderDb.usable (snapshotId : String) : Bool := (db.semantic.usable? snapshotId).isSome

end Reads

/-! ## 3. Statements -/

section Statements

variable (env : ProviderEnv) (db : ProviderDb)

/-- The epoch before this one is of another state. -/
def followsOther (e : EpochRow) : Bool :=
  db.epochs.all fun p => !(p.registrationId = e.registrationId && p.revision + 1 = e.revision &&
    p.state = e.state)

/-- The number the next epoch has to take. -/
def nextEpoch (id : String) : Option Nat :=
  match db.lastEpoch? id with
  | none => some 0
  | some last => if Registry.maxI64 - 1 ≤ last then none else some (last + 1)

def insertEpoch (e : EpochRow) : ProviderResult ProviderDb := do
  abortIf (db.epochs.any fun p => p.registrationId = e.registrationId && p.revision = e.revision)
    "provider state epoch cannot be replaced"
  abortIf (Registry.maxI64 ≤ e.revision || !(db.registrations.any fun r =>
      r.registrationId = e.registrationId && r.state = e.state && r.effectiveAt = e.transitionedAt &&
        nextEpoch db e.registrationId = some e.revision && followsOther db e))
    "provider state epoch does not match transition"
  return { db with epochs := db.epochs ++ [e] }

/-- A registration that is revoked for good. -/
def revokedEpoch (id : String) : Bool :=
  db.epochs.any fun e => e.registrationId = id && e.state = .revoked

def insertRegistration (r : RegistrationRow) : ProviderResult ProviderDb := do
  abortIf (db.registrations.any fun p => p.registrationId = r.registrationId ||
      (p.registration.providerId = r.registration.providerId &&
        p.registration.providerVersion = r.registration.providerVersion &&
        p.registration.buildHash = r.registration.buildHash))
    "provider registration cannot be replaced"
  abortIf (env.jsonExtract r.registrationJson ["trust", "status"] ≠ some r.trustStatus.asStr)
    "provider trust must match immutable admission receipt"
  abortIf (revokedEpoch db r.registrationId) "provider revocation epoch is terminal"
  abortIf (r.state = .registered) "provider cannot be enabled at registration"
  abortIf (db.repaired && !db.usable r.registration.snapshotId)
    "registration requires current semantic re-attestation"
  abortIf (db.semantic.snapshot? r.registration.snapshotId).isNone "FOREIGN KEY constraint failed"
  insertEpoch { db with registrations := db.registrations ++ [r] }
    ⟨r.registrationId, 0, r.state, r.effectiveAt⟩

def insertManifest (id manifestJson : String) : ProviderResult ProviderDb := do
  abortIf (db.manifest? id).isSome "provider manifest payload cannot be replaced"
  abortIf (db.registration? id).isNone "FOREIGN KEY constraint failed"
  return { db with manifests := db.manifests ++ [(id, manifestJson)] }

def insertEvidence (e : Tasks.ConformanceRow) : ProviderResult ProviderDb := do
  abortIf (db.evidence? e.evidenceId).isSome "provider conformance evidence cannot be replaced"
  abortIf (db.registration? e.registrationId).isNone "FOREIGN KEY constraint failed"
  return { db with evidence := db.evidence ++ [e] }

/-- The admission carries the columns its registration asks for. -/
def admissionMatches (a : TrustAdmissionRow) : Bool :=
  match db.registration? a.registrationId, db.previousAt? a.registrationId with
  | some r, some previousAt =>
      trustAdmissionMatchesInsert env a previousAt r.trustStatus r.state
  | _, _ => false

def insertTrustAdmission (a : TrustAdmissionRow) : ProviderResult ProviderDb := do
  abortIf (db.admissions.any fun p => p.admissionId = a.admissionId ||
      (p.registrationId = a.registrationId && (p.decisionId = a.decisionId || p.revision = a.revision)))
    "provider trust admission cannot be replaced"
  abortIf (a.revision ≠ ((db.lastAdmission? a.registrationId).map (· + 1)).getD 1 ||
      !admissionMatches env db a)
    "provider trust admission receipt mismatch"
  return { db with admissions := db.admissions ++ [a] }

/-- The row after the update of its state. -/
def RegistrationRow.moved (id : String) (state : LifecycleState) (now : String) (r : RegistrationRow) :
    RegistrationRow :=
  if r.registrationId = id then { r with state := state, updatedAt := some now } else r

/-- The epoch numbers leave no room for the change; one is kept for a revocation. -/
def epochsExhausted (id : String) (state : LifecycleState) : Bool :=
  db.epochs.any fun e => e.registrationId = id &&
    (Registry.maxI64 - 1 ≤ e.revision || (state = .registered && Registry.maxI64 - 2 ≤ e.revision))

/-- `UPDATE provider_registrations SET state, updated_at`. -/
def updateState (id : String) (state : LifecycleState) (now : String) : ProviderResult ProviderDb :=
  match db.registration? id with
  | none => .ok db
  | some r => do
      abortIf (r.state = .revoked && state ≠ .revoked) "provider revocation is terminal"
      abortIf (state ≠ .revoked && revokedEpoch db id) "provider revocation epoch is terminal"
      abortIf (state ≠ r.state && !sqlNotAfter env.time r.effectiveAt.toList now.toList)
        "provider state transition requires a later time"
      abortIf (state = r.state && r.updatedAt ≠ some now) "provider state time requires a transition"
      abortIf (db.repaired && state = .registered && !db.usable r.registration.snapshotId)
        "enablement requires current semantic re-attestation"
      let moved := { db with registrations := db.registrations.map (RegistrationRow.moved id state now) }
      if state = r.state then return moved
      abortIf (epochsExhausted db id state) "provider state epoch revision exhausted"
      insertEpoch moved ⟨id, ((db.lastEpoch? id).map (· + 1)).getD 0, state, now⟩

end Statements

/-! ## 4. Executed statements -/

section Specs

variable {env : ProviderEnv} {db db' : ProviderDb}

theorem insertEpoch_spec {e : EpochRow} (h : insertEpoch db e = .ok db') :
    (∃ r ∈ db.registrations, r.registrationId = e.registrationId ∧ r.state = e.state ∧
        r.effectiveAt = e.transitionedAt) ∧
      nextEpoch db e.registrationId = some e.revision ∧ followsOther db e = true ∧
      db' = { db with epochs := db.epochs ++ [e] } := by
  unfold insertEpoch at h
  simp only [bind_eq_ok', exists_unit, abortIf_ok] at h
  obtain ⟨_, hguard, h⟩ := h
  rw [Bool.or_eq_false_iff, Bool.not_eq_false', List.any_eq_true] at hguard
  obtain ⟨_, r, hr, hmatch⟩ := hguard
  simp only [Bool.and_eq_true, decide_eq_true_eq] at hmatch
  exact ⟨⟨r, hr, hmatch.1.1.1.1, hmatch.1.1.1.2, hmatch.1.1.2⟩, hmatch.1.2, hmatch.2,
    (Except.ok.inj h).symm⟩

theorem insertRegistration_spec {r : RegistrationRow} (h : insertRegistration env db r = .ok db') :
    (∀ p ∈ db.registrations, p.registrationId ≠ r.registrationId ∧
        ¬(p.registration.providerId = r.registration.providerId ∧
          p.registration.providerVersion = r.registration.providerVersion ∧
          p.registration.buildHash = r.registration.buildHash)) ∧
      r.state ≠ .registered ∧ nextEpoch db r.registrationId = some 0 ∧
      db' = { db with
        registrations := db.registrations ++ [r]
        epochs := db.epochs ++ [⟨r.registrationId, 0, r.state, r.effectiveAt⟩] } := by
  unfold insertRegistration at h
  simp only [bind_eq_ok', exists_unit, abortIf_ok] at h
  obtain ⟨hnew, _, _, hstate, _, _, h⟩ := h
  obtain ⟨_, hnext, _, hdb⟩ := insertEpoch_spec h
  refine ⟨fun p hp => ?_, of_decide_eq_false hstate, hnext, hdb⟩
  have hfresh := List.any_eq_false.mp hnew p hp
  simp only [Bool.or_eq_true, Bool.and_eq_true, decide_eq_true_eq, not_or] at hfresh
  exact ⟨hfresh.1, fun hsame => hfresh.2 ⟨⟨hsame.1, hsame.2.1⟩, hsame.2.2⟩⟩

theorem insertManifest_spec {id manifestJson : String} (h : insertManifest db id manifestJson = .ok db') :
    db.manifest? id = none ∧ db' = { db with manifests := db.manifests ++ [(id, manifestJson)] } := by
  unfold insertManifest at h
  simp only [bind_eq_ok', exists_unit, abortIf_ok] at h
  obtain ⟨hnew, _, h⟩ := h
  exact ⟨by simpa using hnew, (Except.ok.inj h).symm⟩

theorem insertEvidence_spec {e : Tasks.ConformanceRow} (h : insertEvidence db e = .ok db') :
    db.evidence? e.evidenceId = none ∧ (db.registration? e.registrationId).isSome = true ∧
      db' = { db with evidence := db.evidence ++ [e] } := by
  unfold insertEvidence at h
  simp only [bind_eq_ok', exists_unit, abortIf_ok] at h
  obtain ⟨hnew, hkey, h⟩ := h
  exact ⟨by simpa using hnew, by simpa using hkey, (Except.ok.inj h).symm⟩

theorem insertTrustAdmission_spec {a : TrustAdmissionRow} (h : insertTrustAdmission env db a = .ok db') :
    (∀ p ∈ db.admissions, p.admissionId ≠ a.admissionId ∧
        (p.registrationId = a.registrationId → p.decisionId ≠ a.decisionId ∧ p.revision ≠ a.revision)) ∧
      a.revision = ((db.lastAdmission? a.registrationId).map (· + 1)).getD 1 ∧
      admissionMatches env db a = true ∧ db' = { db with admissions := db.admissions ++ [a] } := by
  unfold insertTrustAdmission at h
  simp only [bind_eq_ok', exists_unit, abortIf_ok] at h
  obtain ⟨hnew, hmatch, h⟩ := h
  rw [Bool.or_eq_false_iff, Bool.not_eq_false', decide_eq_false_iff_not, ne_eq, not_not] at hmatch
  refine ⟨fun p hp => ?_, hmatch.1, hmatch.2, (Except.ok.inj h).symm⟩
  have hfresh := List.any_eq_false.mp hnew p hp
  simp only [Bool.or_eq_true, Bool.and_eq_true, decide_eq_true_eq, not_or, not_and] at hfresh
  exact ⟨hfresh.1, hfresh.2⟩

/-- An update that finds its row: the state stays with its time, or the next epoch is written. -/
theorem updateState_spec {id now : String} {state : LifecycleState} {r : RegistrationRow}
    (hr : db.registration? id = some r) (h : updateState env db id state now = .ok db') :
    (state = r.state ∧ r.updatedAt = some now ∧
        db' = { db with registrations := db.registrations.map (RegistrationRow.moved id state now) }) ∨
      (state ≠ r.state ∧ r.state ≠ .revoked ∧ sqlNotAfter env.time r.effectiveAt.toList now.toList = true ∧
        db' = { db with
          registrations := db.registrations.map (RegistrationRow.moved id state now)
          epochs := db.epochs ++ [⟨id, ((db.lastEpoch? id).map (· + 1)).getD 0, state, now⟩] }) := by
  unfold updateState at h
  rw [hr] at h
  simp only [bind_eq_ok', exists_unit, abortIf_ok] at h
  obtain ⟨hterminal, _, hclock, htime, _, h⟩ := h
  by_cases hsame : state = r.state
  · rw [if_pos hsame] at h
    refine Or.inl ⟨hsame, ?_, (Except.ok.inj h).symm⟩
    simpa [hsame] using htime
  · rw [if_neg hsame, unit_bind_eq_ok] at h
    refine Or.inr ⟨hsame, fun hrevoked => ?_, by simpa [hsame] using hclock, (insertEpoch_spec h.2).2.2.2⟩
    simp only [hrevoked, decide_true, Bool.true_and, decide_eq_false_iff_not, ne_eq, not_not] at hterminal
    exact hsame (by rw [hterminal, hrevoked])

end Specs

end Aios.Providers
