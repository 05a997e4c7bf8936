/-
  File:      Aios/Registry/Store.lean
  Subject:   THE SNAPSHOT STORE: admission, re-attestation, states and defaults
             (`aios-registry/src/store.rs`), and the advance of the repair fence
             (`aios-task-manager/src/lib.rs`, `upgrade_stamped_registry_guards_fenced`).

  A transaction is a function from the tables to the tables or an error; an error leaves them as they
  were. `admitRegistry` reads its snapshot back after the commit, so it alone can fail with its rows
  in place. The text of a stored record and the reader of such a text are parameters of `StoreEnv`.
-/
import Aios.Registry.Tables

namespace Aios.Registry

open Lib

/-! ## 1. What is called -/

structure StoreEnv where
  build : BuildEnv
  /-- `serde_json::to_string`. -/
  writeSnapshot : RegistrySnapshot → String
  writeType : TypeContract → String
  writeCapability : CapabilityContract → String
  /-- `decode_with_record_limit`: strict JSON, the schema, the typed record. -/
  readSnapshot : String → RegistryResult RegistrySnapshot
  readType : String → RegistryResult TypeContract
  readCapability : String → RegistryResult CapabilityContract

/-- A write fence: what its checks before and after the writes of a transaction answer. -/
structure WriteFence where
  before : Bool
  after : Bool
  deriving DecidableEq

def noAuthority : RegistryStoreError :=
  .conflict "registry mutation requires Task Manager write authority"

def WriteFence.verify (holds : Bool) : StoreResult Unit :=
  conflictIf (!holds) "registry write rejected by stale ownership fence"

/-- One kind of contract: its steps of the build, its text, and where a registry keeps it. -/
structure StoredFamily (α : Type) where
  family : Family α
  write : α → String
  read : String → RegistryResult α
  contracts : SemanticRegistry → FamilyMap α
  hashes : SemanticRegistry → FamilyMap String

def typeStore (env : StoreEnv) : StoredFamily TypeContract where
  family := typeFamily env.build
  write := env.writeType
  read := env.readType
  contracts := SemanticRegistry.types
  hashes := SemanticRegistry.typeHashes

def capabilityStore (env : StoreEnv) : StoredFamily CapabilityContract where
  family := capabilityFamily env.build
  write := env.writeCapability
  read := env.readCapability
  contracts := SemanticRegistry.capabilities
  hashes := SemanticRegistry.capabilityHashes

/-! ## 2. Reading a snapshot back -/

section Open

variable (env : StoreEnv) (db : RegistryDb)

/-- `verify_snapshot_identity`. -/
def verifySnapshotIdentity (snapshot : RegistrySnapshot) (expectedId : String) : StoreResult Unit := do
  let computed ← ofRegistry (registrySnapshotId env.build.digest snapshot.schemaVersion
    (snapshot.typeContracts.map snapshotHashEntry) (snapshot.capabilityContracts.map snapshotHashEntry))
  conflictIf (snapshot.snapshotId ≠ expectedId || computed ≠ expectedId)
    "stored snapshot identity does not match semantic entries"

/-- Class, identifier, full version and identity of an entry. -/
abbrev EntryKey := ContractKind × String × String × String

def refKey (kind : ContractKind) (e : ContractRef) : EntryKey := (kind, e.id, e.version, e.contentHash)

def EntryRow.key (e : EntryRow) : EntryKey := (e.contractClass, e.semanticId, e.fullVersion, e.contentHash)

/-- The set of the entries the manifest names. -/
def expectedEntries (snapshot : RegistrySnapshot) : List EntryKey :=
  (snapshot.typeContracts.map (refKey .type) ++
    snapshot.capabilityContracts.map (refKey .capability)).dedup

/-- The contract of a stored entry, checked against it. -/
def storedContract {α : Type} (store : StoredFamily α) (row : EntryRow) : StoreResult α := do
  let kind := store.family.kind
  let stored ← expect (db.contract? kind row.contentHash)
    (.conflict s!"missing {kind.label} contract bytes")
  let contract ← ofRegistry (store.read stored.contractJson)
  let version ← ofRegistry (FullVersion.parse row.fullVersion)
  let computed ← ofRegistry (store.family.hash contract)
  conflictIf (store.family.id contract ≠ row.semanticId ||
      store.family.version contract ≠ row.fullVersion || version.major ≠ row.major ||
      computed ≠ row.contentHash)
    s!"stored {kind.label} entry does not match contract"
  return contract

/-- What the loop over the rows has read. -/
structure ReadBack where
  expected : List EntryKey
  types : List TypeContract
  capabilities : List CapabilityContract

def readEntries : List EntryRow → ReadBack → StoreResult ReadBack
  | [], acc => .ok acc
  | row :: rest, acc => do
      conflictIf (!acc.expected.contains row.key) "stored snapshot contains an unexpected entry"
      let acc := { acc with expected := acc.expected.erase row.key }
      match row.contractClass with
      | .type => do
          let contract ← storedContract db (typeStore env) row
          readEntries rest { acc with types := acc.types ++ [contract] }
      | .capability => do
          let contract ← storedContract db (capabilityStore env) row
          readEntries rest { acc with capabilities := acc.capabilities ++ [contract] }

/-- `RegistryBuildOptions::default()`. -/
def strictOptions : RegistryBuildOptions := ⟨.strict, 4096⟩

def openSnapshot (id : String) : StoreResult SemanticRegistry := do
  rejectIf (!db.isAdmitted id) .notAdmitted
  let row ← expect (db.snapshot? id) .notAdmitted
  let snapshot ← ofRegistry (env.readSnapshot row.manifestJson)
  verifySnapshotIdentity env snapshot id
  let read ← readEntries env db (db.entriesOf id) ⟨expectedEntries snapshot, [], []⟩
  conflictIf (!read.expected.isEmpty) "stored snapshot is missing entries"
  let registry ← ofRegistry (buildRegistry env.build snapshot read.types read.capabilities strictOptions)
  conflictIf (registry.snapshotId ≠ id) "stored snapshot identity mismatch"
  return registry

end Open

/-! ## 3. Admission -/

/-- A registry as the loader hands it out: there is no other way to one. -/
structure LoadedRegistry (env : StoreEnv) where
  registry : SemanticRegistry
  loaded : ∃ snapshot types capabilities options,
    buildRegistry env.build snapshot types capabilities options = .ok registry

section Admit

variable (env : StoreEnv)

/-- `insert_contract`: a contract of the identity is there already, or is written; either is read. -/
def insertContract {α : Type} (store : StoredFamily α) (db : RegistryDb) (hash : String) (contract : α) :
    StoreResult RegistryDb := do
  let kind := store.family.kind
  let id := store.family.id contract
  let version := store.family.version contract
  let db ← (if (db.contract? kind hash).isSome then .ok db
    else insertContractRow db kind ⟨hash, id, version, store.write contract⟩)
  let stored ← expect (db.contract? kind hash) (.database "Query returned no rows")
  conflictIf (stored.semanticId ≠ id || stored.fullVersion ≠ version)
    "contract hash already maps to different identity"
  let read ← ofRegistry (store.read stored.contractJson)
  let computed ← ofRegistry (store.family.hash read)
  conflictIf (store.family.id read ≠ id || store.family.version read ≠ version || computed ≠ hash)
    s!"stored {kind.label} contract differs semantically"
  return db

/-- `insert_entry`: the same entry is there already, or is written. -/
def insertEntry (db : RegistryDb) (row : EntryRow) : StoreResult RegistryDb := do
  conflictIf (maxI64 < row.major) "semantic major exceeds SQLite integer range"
  let db ← (if (db.entry? row.snapshotId row.contractClass row.semanticId row.major).isSome then .ok db
    else insertEntryRow db row)
  let stored ← expect (db.entry? row.snapshotId row.contractClass row.semanticId row.major)
    (.database "Query returned no rows")
  conflictIf (stored.fullVersion ≠ row.fullVersion || stored.contentHash ≠ row.contentHash)
    "snapshot major entry already maps to different contract"
  return db

/-- The contracts of one kind, each with its entry. -/
def storeContracts {α : Type} (store : StoredFamily α) (hashes : FamilyMap String) (snapshotId : String) :
    List α → RegistryDb → StoreResult RegistryDb
  | [], db => .ok db
  | contract :: rest, db => do
      let id := store.family.id contract
      let version ← ofRegistry (FullVersion.parse (store.family.version contract))
      let hash ← expect hashes[(id, version.major)]?
        (.conflict s!"missing verified {store.family.kind.label} hash")
      let db ← insertContract store db hash contract
      let db ← insertEntry db
        ⟨snapshotId, store.family.kind, id, version.major, store.family.version contract, hash⟩
      storeContracts store hashes snapshotId rest db

/-- The manifest of the snapshot: a stored one has to be of the identity, or this one is written. -/
def storeManifest (db : RegistryDb) (registry : SemanticRegistry) : StoreResult RegistryDb :=
  match db.snapshot? registry.snapshotId with
  | some prior => do
      let stored ← ofRegistry (env.readSnapshot prior.manifestJson)
      verifySnapshotIdentity env stored registry.snapshotId
      return db
  | none =>
      let snapshot := registry.snapshot
      insertSnapshot db ⟨registry.snapshotId, snapshot.generation, env.writeSnapshot snapshot,
        snapshot.createdAt, snapshot.publisher.bind RegistryPublisher.id,
        snapshot.publisher.bind RegistryPublisher.signature⟩

/-- `publish_admission`, and the receipt of the generation in force. -/
def publishAdmission (db : RegistryDb) (snapshotId : String) : StoreResult RegistryDb := do
  let db ← insertAdmission db ⟨snapshotId, .admitted⟩
  let generation := db.generation
  if generation = 0 then return db
  else insertReattestation db ⟨snapshotId, generation, s!"admission:{snapshotId}:{generation}",
    "stage1-local-writer", strictProfile⟩

/-- The transaction of `admit_registry`. -/
def admitRegistryIn (fence : Option WriteFence) (db : RegistryDb) (loaded : LoadedRegistry env) :
    StoreResult RegistryDb := do
  let fence ← expect fence noAuthority
  let registry := loaded.registry
  rejectIf (!registry.isStrictlyVerified) .notAdmitted
  WriteFence.verify fence.before
  let alreadyAdmitted := db.isAdmitted registry.snapshotId
  let db ← storeManifest env db registry
  let db ← storeContracts (typeStore env) registry.typeHashes registry.snapshotId
    (registry.types.toList.map Prod.snd) db
  let db ← storeContracts (capabilityStore env) registry.capabilityHashes registry.snapshotId
    (registry.capabilities.toList.map Prod.snd) db
  conflictIf ((db.entries.filter fun e => e.snapshotId = registry.snapshotId).length ≠
      registry.snapshot.typeContracts.length + registry.snapshot.capabilityContracts.length)
    "snapshot has unexpected persisted entries"
  let db ← (if alreadyAdmitted then .ok db else publishAdmission db registry.snapshotId)
  WriteFence.verify fence.after
  return db

/-- The tables after the call, and its answer. -/
def admitRegistry (fence : Option WriteFence) (db : RegistryDb) (loaded : LoadedRegistry env) :
    RegistryDb × StoreResult String :=
  match admitRegistryIn env fence db loaded with
  | .error e => (db, .error e)
  | .ok db' => (db', (openSnapshot env db' loaded.registry.snapshotId).map fun _ =>
      loaded.registry.snapshotId)

end Admit

/-! ## 4. Re-attestation and states -/

def validRef (value : String) (limit : Nat) : Bool :=
  !value.isEmpty && value.utf8ByteSize ≤ limit && value.toUTF8.toList.all fun b =>
    (48 ≤ b && b ≤ 57) || (65 ≤ b && b ≤ 90) || (97 ≤ b && b ≤ 122) || b = 58 || b = 46 || b = 95 ||
      b = 47 || b = 45

/-- The decision of the generation: the one that is there already, or this one. -/
def recordDecision (db : RegistryDb) (row : ReattestationRow) : StoreResult RegistryDb :=
  match db.reattestation? row.snapshotId row.generation with
  | some prior => do
      conflictIf (prior.decisionId ≠ row.decisionId || prior.decisionSource ≠ row.decisionSource)
        "semantic re-attestation decision changed"
      return db
  | none => insertReattestation db row

def reattestSnapshot (env : StoreEnv) (fence : Option WriteFence) (db : RegistryDb)
    (snapshotId decisionId decisionSource : String) : StoreResult RegistryDb := do
  let fence ← expect fence noAuthority
  conflictIf (!validRef decisionId 512 || !validRef decisionSource 256)
    "invalid re-attestation decision reference"
  WriteFence.verify fence.before
  let _ ← openSnapshot env db snapshotId
  let state ← expect (db.state? snapshotId) (.database "Query returned no rows")
  rejectIf (!state.isOpen) .notAdmitted
  conflictIf (db.generation = 0) "semantic repair fence has not advanced"
  let db ← recordDecision db ⟨snapshotId, db.generation, decisionId, decisionSource, strictProfile⟩
  WriteFence.verify fence.after
  return db

def setSnapshotState (env : StoreEnv) (fence : Option WriteFence) (db : RegistryDb) (snapshotId : String)
    (state : SnapshotState) : StoreResult RegistryDb := do
  let fence ← expect fence noAuthority
  (if state.isOpen then (openSnapshot env db snapshotId).map fun _ => () else .ok ())
  WriteFence.verify fence.before
  rejectIf (db.snapshot? snapshotId).isNone .notAdmitted
  let current ← expect (db.state? snapshotId) .notAdmitted
  conflictIf (!current.allows state) "snapshot state transition would reverse restriction"
  let (db, affected) ← updateAdmission db snapshotId current state
  conflictIf (affected ≠ 1) "snapshot state changed"
  WriteFence.verify fence.after
  return db

/-! ## 5. Defaults -/

def validScope (scopeKind scopeId : String) : Bool :=
  (scopeKind = "device" || scopeKind = "user" || scopeKind = "organization") && !scopeId.isEmpty

/-- The pointer of the scope, from the current revision if there is one. -/
def movePointer (db : RegistryDb) (activation : Activation) : Option Nat → StoreResult RegistryDb
  | some current => do
      let (db, updated) ← updateActivation db activation current
      conflictIf (updated ≠ 1) "activation revision changed"
      return db
  | none => insertActivation db activation

def activateDefault (env : StoreEnv) (fence : Option WriteFence) (db : RegistryDb)
    (scopeKind scopeId : String) (expectedRevision : Option Nat) (snapshotId : String) :
    StoreResult (RegistryDb × Activation) := do
  let fence ← expect fence noAuthority
  conflictIf (!validScope scopeKind scopeId) "invalid activation scope"
  let _ ← openSnapshot env db snapshotId
  WriteFence.verify fence.before
  rejectIf (db.usable? snapshotId ≠ some .admitted) .notActivatable
  let current := (db.pointer? scopeKind scopeId).map Activation.revision
  conflictIf (current ≠ expectedRevision) "activation revision changed"
  conflictIf (maxI64 ≤ current.getD 0) "activation revision overflow"
  let activation : Activation := ⟨scopeKind, scopeId, snapshotId, current.getD 0 + 1⟩
  let db ← movePointer db activation current
  WriteFence.verify fence.after
  return (db, activation)

/-- Only an admitted, verified default. -/
def defaultSnapshot (env : StoreEnv) (db : RegistryDb) (scopeKind scopeId : String) :
    StoreResult (Option Activation) :=
  match db.pointer? scopeKind scopeId with
  | none => .ok none
  | some activation =>
      if db.isInvalidated scopeKind scopeId then .ok none
      else if db.usable? activation.snapshotId ≠ some .admitted then .ok none
      else do
        let _ ← openSnapshot env db activation.snapshotId
        return some activation

/-! ## 6. The repair fence -/

/-- A guard was missing at startup: the next generation, and no scope of the history counts. -/
def advanceRepairFence (leaseHeld : Bool) (db : RegistryDb) : StoreResult RegistryDb := do
  conflictIf (!leaseHeld) "Task Manager lease is not current"
  let current := db.generation
  conflictIf (maxI64 - 1 ≤ current) "semantic repair fence generation requires operator quarantine"
  let db ← insertFence db ⟨current + 1, .guardRepair⟩
  return invalidateScopes db

/-! ## 7. Runs -/

inductive StoreOp (env : StoreEnv) where
  | admitRegistry (fence : Option WriteFence) (loaded : LoadedRegistry env)
  | setState (fence : Option WriteFence) (snapshotId : String) (state : SnapshotState)
  | reattest (fence : Option WriteFence) (snapshotId decisionId decisionSource : String)
  | activate (fence : Option WriteFence) (scopeKind scopeId : String) (expectedRevision : Option Nat)
      (snapshotId : String)
  | advanceFence (leaseHeld : Bool)

/-- A transaction that fails is rolled back. -/
def committed (db : RegistryDb) (r : StoreResult RegistryDb) : RegistryDb :=
  match r with
  | .ok db' => db'
  | .error _ => db

def perform {env : StoreEnv} (db : RegistryDb) : StoreOp env → RegistryDb
  | .admitRegistry fence loaded => (admitRegistry env fence db loaded).1
  | .setState fence id state => committed db (setSnapshotState env fence db id state)
  | .reattest fence id decisionId decisionSource =>
      committed db (reattestSnapshot env fence db id decisionId decisionSource)
  | .activate fence kind id expected snapshotId =>
      committed db ((activateDefault env fence db kind id expected snapshotId).map Prod.fst)
  | .advanceFence leaseHeld => committed db (advanceRepairFence leaseHeld db)

def run {env : StoreEnv} (db : RegistryDb) (ops : List (StoreOp env)) : RegistryDb := ops.foldl perform db

/-- What the tables of 0012 hold before 0014 is applied; other code may have left manifests that
    nobody admitted. -/
structure Legacy where
  snapshots : List SnapshotRow
  contracts : ContractKind → List ContractRow
  admissions : List AdmissionRow
  entries : List EntryRow
  activations : List Activation
  /-- The guards that make terminal states and activations final were missing. -/
  statesUnprovable : Bool
  activationsUnprovable : Bool

/-- The store once 0014 is applied. -/
def upgraded (l : Legacy) : RegistryDb where
  snapshots := l.snapshots
  contracts := l.contracts
  admissions := l.admissions
  entries := l.entries
  activations := l.activations
  fences := [⟨0, .bootstrap⟩]
  terminal := l.admissions.filter fun a => !a.state.isOpen
  unprovable := if l.statesUnprovable then l.admissions.map AdmissionRow.snapshotId else []
  invalidatedScopes := []
  scopeHistory := (l.activations.map fun a => (a.scopeKind, a.scopeId)).dedup
  legacyQuarantine := l.activationsUnprovable
  reattestations := []

end Aios.Registry
