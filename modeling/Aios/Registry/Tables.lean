/-
  File:      Aios/Registry/Tables.lean
  Subject:   THE TABLES OF THE SNAPSHOT STORE and the statements its triggers let through
             (`specs/persistence-v0.1-0012-semantic-registry.sql`,
             `specs/persistence-v0.1-0014-semantic-repair-fence.sql`).

  A table is the list of its rows in the order of insertion; the two contract tables are one family
  of tables over `ContractKind`. A statement of SQL is a function here, and the triggers of its table
  are its guards: an abort is the error of the database, with the trigger's text. No statement takes
  a row of these tables away, so there is none that does.
-/
import Aios.Registry.Build

namespace Aios.Registry

open Lib

/-! ## 1. Rows -/

inductive SnapshotState where
  | admitted
  | deprecated
  | quarantined
  | revoked
  deriving DecidableEq, Repr

namespace SnapshotState

def asStr : SnapshotState → String
  | .admitted => "ADMITTED"
  | .deprecated => "DEPRECATED"
  | .quarantined => "QUARANTINED"
  | .revoked => "REVOKED"

/-- `state IN ('ADMITTED','DEPRECATED')`. -/
def isOpen : SnapshotState → Bool
  | .admitted | .deprecated => true
  | .quarantined | .revoked => false

/-- The one-way guard of the admissions: the restriction stays or gets harder. -/
def allows : SnapshotState → SnapshotState → Bool
  | .admitted, _ => true
  | .deprecated, new => new = .deprecated || new = .quarantined || new = .revoked
  | .quarantined, new => new = .quarantined || new = .revoked
  | .revoked, new => new = .revoked

end SnapshotState

/-- A row of `registry_snapshots`. -/
structure SnapshotRow where
  snapshotId : String
  generation : Option String
  manifestJson : String
  createdAt : String
  publisherId : Option String
  signatureRef : Option String
  deriving DecidableEq

/-- A row of `semantic_type_contracts` or of `semantic_capability_contracts`. -/
structure ContractRow where
  contentHash : String
  semanticId : String
  fullVersion : String
  contractJson : String
  deriving DecidableEq

/-- A row of `registry_snapshot_admissions`. -/
structure AdmissionRow where
  snapshotId : String
  state : SnapshotState
  deriving DecidableEq

/-- A row of `registry_snapshot_entries`. -/
structure EntryRow where
  snapshotId : String
  contractClass : ContractKind
  semanticId : String
  major : Nat
  fullVersion : String
  contentHash : String
  deriving DecidableEq

/-- A row of `registry_activations`. -/
structure Activation where
  scopeKind : String
  scopeId : String
  snapshotId : String
  revision : Nat
  deriving DecidableEq

inductive FenceReason where
  | bootstrap
  | guardRepair
  deriving DecidableEq, Repr

/-- A row of `semantic_repair_fences`. -/
structure FenceRow where
  generation : Nat
  reason : FenceReason
  deriving DecidableEq

/-- A row of `semantic_snapshot_reattestations`. -/
structure ReattestationRow where
  snapshotId : String
  generation : Nat
  decisionId : String
  decisionSource : String
  verificationProfile : String
  deriving DecidableEq

structure RegistryDb where
  snapshots : List SnapshotRow
  contracts : ContractKind → List ContractRow
  admissions : List AdmissionRow
  entries : List EntryRow
  activations : List Activation
  fences : List FenceRow
  /-- `semantic_terminal_admissions`. -/
  terminal : List AdmissionRow
  /-- `semantic_legacy_unprovable_admissions`. -/
  unprovable : List String
  invalidatedScopes : List (String × String)
  scopeHistory : List (String × String)
  /-- `semantic_legacy_activation_quarantine` holds its row. -/
  legacyQuarantine : Bool
  reattestations : List ReattestationRow

/-! ## 2. Errors -/

inductive RegistryStoreError where
  | database (message : String)
  | registry (error : RegistryError)
  | conflict (message : String)
  | notAdmitted
  | notActivatable

abbrev StoreResult (α : Type) := Except RegistryStoreError α

def ofRegistry {α : Type} (r : RegistryResult α) : StoreResult α := r.mapError .registry

@[simp] theorem ofRegistry_ok {α : Type} {r : RegistryResult α} {a : α} :
    ofRegistry r = .ok a ↔ r = .ok a := by
  cases r <;> simp [ofRegistry, Except.mapError]

/-- `RAISE(ABORT, message)` where the condition holds. -/
def abortIf (bad : Bool) (message : String) : StoreResult Unit := rejectIf bad (.database message)

@[simp] theorem abortIf_ok {bad : Bool} {message : String} {u : Unit} :
    abortIf bad message = .ok u ↔ bad = false := rejectIf_ok

def conflictIf (bad : Bool) (message : String) : StoreResult Unit := rejectIf bad (.conflict message)

@[simp] theorem conflictIf_ok {bad : Bool} {message : String} {u : Unit} :
    conflictIf bad message = .ok u ↔ bad = false := rejectIf_ok

/-- An INTEGER column takes 64 signed bits. -/
def maxI64 : Nat := 2 ^ 63 - 1

/-! ## 3. What the store reads -/

section Reads

variable (db : RegistryDb)

def RegistryDb.snapshot? (id : String) : Option SnapshotRow :=
  db.snapshots.find? fun s => s.snapshotId = id

def RegistryDb.contract? (kind : ContractKind) (hash : String) : Option ContractRow :=
  (db.contracts kind).find? fun c => c.contentHash = hash

def RegistryDb.state? (id : String) : Option SnapshotState :=
  (db.admissions.find? fun a => a.snapshotId = id).map AdmissionRow.state

def RegistryDb.isAdmitted (id : String) : Bool := (db.state? id).isSome

/-- The entries of a snapshot, `ORDER BY contract_class,semantic_id,major`. -/
def RegistryDb.entriesOf (id : String) : List EntryRow :=
  sortOn (fun e : EntryRow => toLex (e.contractClass.label, toLex (e.semanticId, e.major)))
    (db.entries.filter fun e => e.snapshotId = id)

def RegistryDb.entry? (id : String) (kind : ContractKind) (semanticId : String) (major : Nat) :
    Option EntryRow :=
  db.entries.find? fun e =>
    e.snapshotId = id && e.contractClass = kind && e.semanticId = semanticId && e.major = major

def RegistryDb.pointer? (scopeKind scopeId : String) : Option Activation :=
  db.activations.find? fun a => a.scopeKind = scopeKind && a.scopeId = scopeId

/-- `SELECT MAX(generation) FROM semantic_repair_fences`. -/
def RegistryDb.generation : Nat := (db.fences.map FenceRow.generation).foldl max 0

def RegistryDb.reattestation? (id : String) (generation : Nat) : Option ReattestationRow :=
  db.reattestations.find? fun r => r.snapshotId = id && r.generation = generation

def strictProfile : String := "strict-semantic-v0.1"

/-- The state under which `semantic_current_usable_snapshots` shows the snapshot, if it does. -/
def RegistryDb.usable? (id : String) : Option SnapshotState :=
  (db.state? id).filter fun state =>
    state.isOpen && !(db.terminal.any fun t => t.snapshotId = id) && !db.unprovable.contains id &&
      (db.generation = 0 || db.reattestations.any fun r =>
        r.snapshotId = id && r.generation = db.generation && r.verificationProfile = strictProfile)

/-- No activation of the scope counts. -/
def RegistryDb.isInvalidated (scopeKind scopeId : String) : Bool :=
  db.legacyQuarantine || db.invalidatedScopes.contains (scopeKind, scopeId)

end Reads

/-! ## 4. The statements -/

section Statements

variable (db : RegistryDb)

/-- `immutable_admitted_registry_snapshots_reinsert` and the key. -/
def insertSnapshot (row : SnapshotRow) : StoreResult RegistryDb := do
  abortIf ((db.snapshot? row.snapshotId).isSome && db.isAdmitted row.snapshotId)
    "admitted registry snapshot cannot be replaced"
  abortIf (db.snapshot? row.snapshotId).isSome "UNIQUE constraint failed: registry_snapshots.snapshot_id"
  abortIf row.snapshotId.isEmpty "CHECK constraint failed: length(snapshot_id) > 0"
  return { db with snapshots := db.snapshots ++ [row] }

/-- `immutable_semantic_type_contracts_reinsert` and its sibling. -/
def insertContractRow (kind : ContractKind) (row : ContractRow) : StoreResult RegistryDb := do
  abortIf (db.contract? kind row.contentHash).isSome
    s!"semantic {kind.label} contract cannot be replaced"
  return { db with contracts := fun k => if k = kind then db.contracts k ++ [row] else db.contracts k }

/-- `immutable_registry_snapshot_entries_reinsert`,
    `immutable_admitted_registry_snapshot_entries_insert`. -/
def insertEntryRow (row : EntryRow) : StoreResult RegistryDb := do
  abortIf (db.entry? row.snapshotId row.contractClass row.semanticId row.major).isSome
    "registry snapshot entry cannot be replaced"
  abortIf (db.isAdmitted row.snapshotId) "admitted registry snapshot entry set is immutable"
  return { db with entries := db.entries ++ [row] }

/-- `semantic_terminal_admission_insert` and `semantic_terminal_admission_transition`: what stands
    beside a new state. -/
def withTerminal (id : String) (state : SnapshotState) : RegistryDb :=
  if state.isOpen || db.terminal.any (fun t => t.snapshotId = id) then db
  else { db with terminal := db.terminal ++ [⟨id, state⟩] }

/-- `immutable_registry_snapshot_admissions_reinsert` and the foreign key. -/
def insertAdmission (row : AdmissionRow) : StoreResult RegistryDb := do
  abortIf (db.isAdmitted row.snapshotId) "registry admission cannot be replaced"
  abortIf (db.snapshot? row.snapshotId).isNone "FOREIGN KEY constraint failed"
  return withTerminal { db with admissions := db.admissions ++ [row] } row.snapshotId row.state

/-- The row of the snapshot, if its state is still the one expected. -/
def AdmissionRow.moved (id : String) (expected new : SnapshotState) (a : AdmissionRow) : AdmissionRow :=
  if a.snapshotId = id ∧ a.state = expected then { a with state := new } else a

/-- `UPDATE .. SET state=new WHERE snapshot_id=id AND state=expected` under
    `one_way_registry_snapshot_admissions_update`; also the number of rows. -/
def updateAdmission (id : String) (expected new : SnapshotState) : StoreResult (RegistryDb × Nat) := do
  let affected := db.admissions.countP fun a => a.snapshotId = id ∧ a.state = expected
  abortIf (affected ≠ 0 && !expected.allows new) "registry admission restriction cannot be reversed"
  let moved := { db with admissions := db.admissions.map (AdmissionRow.moved id expected new) }
  return (if affected = 0 then moved else withTerminal moved id new, affected)

/-- `semantic_repair_fence_sequence`. -/
def insertFence (row : FenceRow) : StoreResult RegistryDb := do
  abortIf ((row.generation = 0 && (row.reason ≠ .bootstrap || !db.fences.isEmpty)) ||
      (0 < row.generation && (row.reason ≠ .guardRepair || row.generation ≠ db.generation + 1)) ||
      maxI64 ≤ row.generation)
    "semantic repair fence generation is not monotonic"
  return { db with fences := db.fences ++ [row] }

/-- `semantic_snapshot_reattestation_no_duplicate_insert`, `.._current_only` and the checks. -/
def insertReattestation (row : ReattestationRow) : StoreResult RegistryDb := do
  abortIf (db.reattestation? row.snapshotId row.generation).isSome
    "semantic re-attestation cannot be replaced"
  abortIf (row.generation ≠ db.generation || !((db.state? row.snapshotId).any SnapshotState.isOpen) ||
      db.terminal.any (fun t => t.snapshotId = row.snapshotId) || db.unprovable.contains row.snapshotId)
    "semantic re-attestation requires current usable admission"
  abortIf (row.decisionId.isEmpty || 512 < row.decisionId.length || row.decisionSource.isEmpty ||
      256 < row.decisionSource.length || row.verificationProfile ≠ strictProfile)
    "CHECK constraint failed: semantic_snapshot_reattestations"
  return { db with reattestations := db.reattestations ++ [row] }

/-- `semantic_repair_activation_insert` and `semantic_repair_activation_update`. -/
def activationFenced (row : Activation) : Bool :=
  db.isInvalidated row.scopeKind row.scopeId ||
    (0 < db.generation && db.usable? row.snapshotId ≠ some .admitted)

def activationFence : String := "activation requires current semantic re-attestation"

/-- `semantic_activation_scope_history_insert`. -/
def withHistory (scope : String × String) : RegistryDb :=
  if db.scopeHistory.contains scope then db else { db with scopeHistory := db.scopeHistory ++ [scope] }

/-- `registry_activation_no_duplicate_insert` and the fence. -/
def insertActivation (row : Activation) : StoreResult RegistryDb := do
  abortIf (db.pointer? row.scopeKind row.scopeId).isSome "registry activation cannot be replaced"
  abortIf (activationFenced db row) activationFence
  abortIf (!db.isAdmitted row.snapshotId) "FOREIGN KEY constraint failed"
  return withHistory { db with activations := db.activations ++ [row] } (row.scopeKind, row.scopeId)

/-- The pointer of the scope at the expected revision, moved. -/
def Activation.moved (row : Activation) (expected : Nat) (a : Activation) : Activation :=
  if a.scopeKind = row.scopeKind ∧ a.scopeId = row.scopeId ∧ a.revision = expected then row else a

/-- `UPDATE registry_activations .. WHERE scope AND revision=expected` under
    `registry_activation_revision_monotonic` and the fence; also the number of rows. -/
def updateActivation (row : Activation) (expected : Nat) : StoreResult (RegistryDb × Nat) := do
  let affected := db.activations.countP fun a =>
    a.scopeKind = row.scopeKind ∧ a.scopeId = row.scopeId ∧ a.revision = expected
  abortIf (affected ≠ 0 && row.revision ≤ expected) "registry activation revision must advance"
  abortIf (affected ≠ 0 && activationFenced db row) activationFence
  abortIf (affected ≠ 0 && !db.isAdmitted row.snapshotId) "FOREIGN KEY constraint failed"
  return ({ db with activations := db.activations.map (Activation.moved row expected) }, affected)

/-- The scopes of the history that are not yet invalidated. -/
def invalidateScopes : RegistryDb :=
  { db with invalidatedScopes := db.invalidatedScopes ++
      db.scopeHistory.filter fun h => !db.invalidatedScopes.contains h }

end Statements

end Aios.Registry
