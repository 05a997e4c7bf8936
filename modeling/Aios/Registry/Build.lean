/-
  File:      Aios/Registry/Build.lean
  Subject:   Construction of a registry from decoded records (`aios-registry/src/loader.rs`,
             `build_registry` and what it calls; `specs/registry-snapshot.schema.json`).

  Type and capability contracts go through the same steps with their own checks and texts, so the
  steps are written once, over a `Family`, and named for both kinds. The JSON-schema engine, the
  RFC 3339 parser, canonical serialisation and SHA-256 are parameters (`BuildEnv`); what the engine
  answers on a snapshot is the snapshot schema, read off its file (`snapshotSchema`).
-/
import Aios.Lib.Index
import Aios.Registry.Hash
import Aios.Registry.SemanticRegistry

namespace Aios

open Lib

/-! ## 1. The snapshot schema -/

/-- The pattern `^[a-z0-9_-]+:[A-Fa-f0-9]+$`. -/
def contentHashPattern (value : String) : Bool :=
  match splitChar ':' value.toList with
  | [tag, digits] =>
      !tag.isEmpty && tag.all (fun c => isAsciiLowercase c || isAsciiDigit c || c = '_' || c = '-') &&
        !digits.isEmpty && digits.all isAsciiHexdigit
  | _ => false

def contractRefSchema (e : ContractRef) : Bool :=
  decide (3 ≤ e.id.length) && decide (e.id.length ≤ 160) && decide (1 ≤ e.version.length) &&
    decide (e.version.length ≤ 64) && contentHashPattern e.contentHash &&
    e.source.all fun source => decide (source.length ≤ 1024)

def contractRefsSchema (l : List ContractRef) : Bool := decide l.Nodup && l.all contractRefSchema

/-- What the schema of a snapshot asks of the projection of a typed snapshot. -/
def snapshotSchema (dateTime : String → Bool) (s : RegistrySnapshot) : Bool :=
  decide (s.schemaVersion = "0.1") && decide (1 ≤ s.snapshotId.length) &&
    decide (s.snapshotId.length ≤ 256) && (s.generation.all fun g => decide (g.length ≤ 128)) &&
    contractRefsSchema s.typeContracts && contractRefsSchema s.capabilityContracts &&
    dateTime s.createdAt &&
    (s.publisher.all fun p => p.id.all fun id => decide (1 ≤ id.length) && decide (id.length ≤ 256)) &&
    s.notes.all fun note => decide (note.length ≤ 2048)

/-- The place of a schema violation: the path in the value and the path in the schema. -/
structure SchemaViolation where
  instancePath : String
  schemaPath : String

/-- The schema engine: the first violation of a record's serde projection, if any. -/
structure SchemaEngine where
  snapshot : RegistrySnapshot → Option SchemaViolation
  type : TypeContract → Option SchemaViolation
  capability : CapabilityContract → Option SchemaViolation
  /-- The `date-time` format. -/
  dateTime : String → Bool
  snapshot_spec : ∀ s, snapshot s = none ↔ snapshotSchema dateTime s = true

/-- The code outside the repository that a build calls. -/
structure BuildEnv where
  digest : Digest
  schema : SchemaEngine
  /-- `OffsetDateTime::parse(value, &Rfc3339).is_ok()`. -/
  rfc3339 : String → Bool

def schemaValidate (violation : Option SchemaViolation) : RegistryResult Unit :=
  match violation with
  | none => .ok ()
  | some v => .error (.schema ("registry structural schema violation at " ++ v.instancePath ++
      " (schema " ++ v.schemaPath ++ ")"))

@[simp] theorem schemaValidate_ok {violation : Option SchemaViolation} {u : Unit} :
    schemaValidate violation = .ok u ↔ violation = none := by
  cases violation <;> simp [schemaValidate]

/-! ## 2. Header, entries and counts -/

def isRfc3339Datetime (env : BuildEnv) (value : String) : Bool :=
  (value.toUTF8.toList[10]?).any (fun b => b = 84 || b = 116) && env.rfc3339 value

def validateSnapshotHeader (env : BuildEnv) (snapshot : RegistrySnapshot) : RegistryResult Unit := do
  rejectIf (snapshot.schemaVersion ≠ "0.1")
    (.validation .registryUnsupportedVersion
      s!"registry schema version {debugStr snapshot.schemaVersion} is unsupported")
  rejectIf (!isRfc3339Datetime env snapshot.createdAt)
    (.schema "snapshot created_at must be an RFC 3339 date-time")
  rejectIf (snapshot.generation.any (exceedsMaxLength · 128) ||
      snapshot.notes.any (exceedsMaxLength · 2048) ||
      snapshot.publisher.any fun publisher =>
        publisher.id.any fun id => id.isEmpty || exceedsMaxLength id 256)
    (.schema "snapshot metadata violates schema length constraints")
  rejectIf (!isSha256Id snapshot.snapshotId && !isObviousPlaceholderHash snapshot.snapshotId)
    (.schema "snapshot_id must be lowercase sha256:<64 hex>")

def validateContractRef (entry : ContractRef) : RegistryResult Unit := do
  validateSemanticId entry.id
  rejectIf (exceedsMaxLength entry.version 64 || entry.source.any (exceedsMaxLength · 1024))
    (.schema s!"contract {entry.id} reference violates schema length constraints")
  let _ ← FullVersion.parse entry.version
  rejectIf (!isSha256Id entry.contentHash && !isObviousPlaceholderHash entry.contentHash)
    (.schema s!"contract {entry.id} {entry.version} content_hash is not lowercase SHA-256")

/-- The family of an entry: its identifier and major version. -/
def familyOf (entry : ContractRef) : RegistryResult (String × Nat) := do
  let version ← FullVersion.parse entry.version
  return (entry.id, version.major)

def entryKey (entry : ContractRef) : RegistryResult (String × Nat) := do
  validateContractRef entry
  familyOf entry

/-- The two counts added up in a 64-bit `usize`. -/
def checkedContractCount (left right : Nat) : RegistryResult Nat :=
  if left + right < 2 ^ 64 then .ok (left + right)
  else .error (.schema "registry contract count exceeds platform capacity")

def enforceContractCount (actual maximum : Nat) : RegistryResult Unit :=
  rejectIf (maximum < actual)
    (.schema s!"registry contains {actual} contracts; configured maximum is {maximum}")

def contractCount (left right maximum : Nat) : RegistryResult Unit := do
  let count ← checkedContractCount left right
  enforceContractCount count maximum

theorem contractCount_ok {left right maximum : Nat} {u : Unit} :
    contractCount left right maximum = .ok u ↔ left + right < 2 ^ 64 ∧ left + right ≤ maximum := by
  unfold contractCount checkedContractCount enforceContractCount
  by_cases h : left + right < 2 ^ 64
  · rw [if_pos h, ok_bind, rejectIf_ok, decide_eq_false_iff_not]
    omega
  · rw [if_neg h]
    refine iff_of_false ?_ fun h' => h h'.1
    simp [bind, Except.bind]

/-! ## 3. Families of contracts -/

inductive ContractKind where
  | type
  | capability
  deriving DecidableEq, Repr

def ContractKind.label : ContractKind → String
  | .type => "type"
  | .capability => "capability"

def ContractKind.duplicateMajor : ContractKind → ValidatorReasonCode
  | .type => .registryDuplicateTypeMajor
  | .capability => .registryDuplicateCapabilityMajor

/-- What the steps of a build ask of a kind of contract. -/
structure Family (α : Type) where
  kind : ContractKind
  id : α → String
  version : α → String
  validate : α → RegistryResult Unit
  hash : α → RegistryResult String
  schema : α → Option SchemaViolation

def typeFamily (env : BuildEnv) : Family TypeContract where
  kind := .type
  id := TypeContract.typeId
  version := TypeContract.version
  validate := validateTypeContract
  hash := typeContractHash env.digest
  schema := env.schema.type

def capabilityFamily (env : BuildEnv) : Family CapabilityContract where
  kind := .capability
  id := CapabilityContract.capability
  version := CapabilityContract.version
  validate := validateCapabilityContract
  hash := capabilityContractHash env.digest
  schema := env.schema.capability

/-- The supplied contracts by identifier and full version. -/
abbrev SuppliedMap (α : Type) := Std.ExtTreeMap (String × String) α lexCmp

def indexSnapshotEntries (kind : ContractKind) (entries : List ContractRef) :
    RegistryResult (FamilyMap ContractRef) :=
  indexBy entryKey (fun key => .validation kind.duplicateMajor
    s!"snapshot contains multiple active contracts for {key.1}@{key.2}") entries ∅

section Families

variable {α : Type} (fam : Family α)

/-- The exact key of a supplied contract. -/
def Family.key (c : α) : String × String := (fam.id c, fam.version c)

/-- `index_supplied_types` and `index_supplied_capabilities`. -/
def indexSupplied (contracts : List α) : RegistryResult (SuppliedMap α) :=
  indexBy (fun c => .ok (fam.key c)) (fun key => .schema
    s!"loaded {fam.kind.label} contract {key.1} {key.2} appears more than once") contracts ∅

def findContract (supplied : SuppliedMap α) (entry : ContractRef) : RegistryResult α :=
  expect supplied[(entry.id, entry.version)]? (.validation
    (if supplied.keys.any (fun key => key.1 = entry.id) then .registryContractVersionMismatch
      else .registryEntryNotFound)
    (s!"snapshot {fam.kind.label} entry {entry.id} {entry.version} has no matching loaded contract " ++
      "version"))

/-- The declared identity is the generated one, or a sentinel that may be regenerated. -/
def hashAccepted (mode : HashVerificationMode) (declared computed : String) : Bool :=
  decide (declared = computed) ||
    (decide (mode = .bootstrapGenerate) && isObviousPlaceholderHash declared)

def verifyDeclaredHash (declared computed : String) (mode : HashVerificationMode) (label : String) :
    RegistryResult Unit :=
  rejectIf (!hashAccepted mode declared computed)
    (.validation .registryContractHashMismatch s!"{label} declares {declared}, generated {computed}")

def verifySnapshotHash (declared computed : String) (mode : HashVerificationMode) :
    RegistryResult Unit :=
  rejectIf (!hashAccepted mode declared computed)
    (.validation .registrySnapshotHashMismatch s!"snapshot declares {declared}, generated {computed}")

/-- The contract and the generated identity of one entry. -/
def activateEntry (supplied : SuppliedMap α) (mode : HashVerificationMode) (major : Nat)
    (entry : ContractRef) : RegistryResult (α × String) := do
  let contract ← findContract fam supplied entry
  fam.validate contract
  let version ← FullVersion.parse (fam.version contract)
  rejectIf (fam.id contract ≠ entry.id || fam.version contract ≠ entry.version ||
      version.major ≠ major)
    (.validation .registryContractVersionMismatch
      (s!"{fam.kind.label} snapshot entry {entry.id} {entry.version} disagrees with loaded contract " ++
        s!"{fam.id contract} {fam.version contract}"))
  let computed ← fam.hash contract
  verifyDeclaredHash entry.contentHash computed mode
    s!"{fam.kind.label} contract {entry.id} {entry.version}"
  return (contract, computed)

/-- What the loop over the entries has built. -/
structure Active (α : Type) where
  contracts : FamilyMap α
  hashes : FamilyMap String
  refs : List ContractRef

def activate (supplied : SuppliedMap α) (mode : HashVerificationMode) :
    List ((String × Nat) × ContractRef) → Active α → RegistryResult (Active α)
  | [], active => .ok active
  | (key, entry) :: rest, active => do
      let (contract, computed) ← activateEntry fam supplied mode key.2 entry
      activate supplied mode rest
        { contracts := active.contracts.insert key contract
          hashes := active.hashes.insert key computed
          refs := active.refs ++ [{ entry with contentHash := computed }] }

end Families

/-! ## 4. Cross references -/

/-- The type references of the ports: inputs, then outputs. -/
def portRefs (c : CapabilityContract) : List String :=
  (c.inputs.toList ++ c.outputs.toList).map fun p => p.2.typeRef

def parseRefs : List String → RegistryResult (List SemanticRef)
  | [] => .ok []
  | reference :: rest => do
      let ref ← SemanticRef.parse reference
      let refs ← parseRefs rest
      return ref :: refs

/-- A conversion capability is there and has a port of the declaring family. -/
def validateConversion (capabilities : FamilyMap CapabilityContract) (contract : TypeContract)
    (major : Nat) (reference : String) : RegistryResult Unit := do
  let ref ← SemanticRef.parse reference
  let capability ← expect capabilities[(ref.id, ref.major)]? (.validation .registryEntryNotFound
    (s!"type {contract.typeId} references missing conversion capability " ++
      s!"{ref.id}@{ref.major}"))
  let refs ← parseRefs (portRefs capability)
  rejectIf (!refs.any fun port => decide (port.id = contract.typeId ∧ port.major = major))
    (.schema (s!"type {contract.typeId} conversion capability {ref.id}@{ref.major} has no port " ++
      "in the declaring type family"))

def validateTypeReferences (capabilities : FamilyMap CapabilityContract) (contract : TypeContract) :
    RegistryResult Unit := do
  let version ← FullVersion.parse contract.version
  forEach contract.conversionCapabilities (validateConversion capabilities contract version.major)

def validatePortReference (types : FamilyMap TypeContract) (capability reference : String) :
    RegistryResult Unit := do
  let ref ← SemanticRef.parse reference
  rejectIf (!types.contains (ref.id, ref.major)) (.validation .registryEntryNotFound
    s!"capability {capability} references missing type {ref.id}@{ref.major}")

def validateCrossReferences (types : FamilyMap TypeContract)
    (capabilities : FamilyMap CapabilityContract) : RegistryResult Unit := do
  forEach (types.toList.map Prod.snd) (validateTypeReferences capabilities)
  forEach (capabilities.toList.map Prod.snd) fun contract =>
    forEach (portRefs contract) (validatePortReference types contract.capability)

/-! ## 5. The build -/

structure RegistryBuildOptions where
  hashVerification : HashVerificationMode
  maxContracts : Nat
  deriving DecidableEq, Repr

def snapshotHashEntry (entry : ContractRef) : SnapshotHashEntry :=
  ⟨entry.id, entry.version, entry.contentHash⟩

/-- The checks on the records one by one. -/
def admitRecords (env : BuildEnv) (snapshot : RegistrySnapshot) (typeContracts : List TypeContract)
    (capabilityContracts : List CapabilityContract) (maxContracts : Nat) : RegistryResult Unit := do
  validateSnapshotHeader env snapshot
  contractCount snapshot.typeContracts.length snapshot.capabilityContracts.length maxContracts
  contractCount typeContracts.length capabilityContracts.length maxContracts
  schemaValidate (env.schema.snapshot snapshot)
  forEach typeContracts fun contract => schemaValidate (env.schema.type contract)
  forEach capabilityContracts fun contract => schemaValidate (env.schema.capability contract)

/-- The registry of the active contracts; the snapshot is rewritten with the generated identities. -/
def registryOf (snapshot : RegistrySnapshot) (mode : HashVerificationMode)
    (types : Active TypeContract) (capabilities : Active CapabilityContract) (snapshotId : String) :
    SemanticRegistry where
  snapshot := { snapshot with
    typeContracts := types.refs
    capabilityContracts := capabilities.refs
    snapshotId := snapshotId }
  snapshotId := snapshotId
  hashVerification := mode
  types := types.contracts
  capabilities := capabilities.contracts
  typeHashes := types.hashes
  capabilityHashes := capabilities.hashes

/-- The registry of the indexed records. -/
def assemble (env : BuildEnv) (snapshot : RegistrySnapshot) (mode : HashVerificationMode)
    (typeEntries capabilityEntries : FamilyMap ContractRef) (suppliedTypes : SuppliedMap TypeContract)
    (suppliedCapabilities : SuppliedMap CapabilityContract) : RegistryResult SemanticRegistry := do
  let types ← activate (typeFamily env) suppliedTypes mode typeEntries.toList ⟨∅, ∅, []⟩
  let capabilities ← activate (capabilityFamily env) suppliedCapabilities mode
    capabilityEntries.toList ⟨∅, ∅, []⟩
  validateCrossReferences types.contracts capabilities.contracts
  let computed ← registrySnapshotId env.digest snapshot.schemaVersion
    (types.refs.map snapshotHashEntry) (capabilities.refs.map snapshotHashEntry)
  verifySnapshotHash snapshot.snapshotId computed mode
  return registryOf snapshot mode types capabilities computed

def buildRegistry (env : BuildEnv) (snapshot : RegistrySnapshot) (typeContracts : List TypeContract)
    (capabilityContracts : List CapabilityContract) (options : RegistryBuildOptions) :
    RegistryResult SemanticRegistry := do
  admitRecords env snapshot typeContracts capabilityContracts options.maxContracts
  let typeEntries ← indexSnapshotEntries .type snapshot.typeContracts
  let capabilityEntries ← indexSnapshotEntries .capability snapshot.capabilityContracts
  let suppliedTypes ← indexSupplied (typeFamily env) typeContracts
  let suppliedCapabilities ← indexSupplied (capabilityFamily env) capabilityContracts
  assemble env snapshot options.hashVerification typeEntries capabilityEntries suppliedTypes
    suppliedCapabilities

end Aios
