/-
  File:      Aios/Registry/Hash.lean
  Subject:   Domain-separated identities of contracts and snapshots (`aios-registry/src/hash.rs`).

  The source serialises a contract and picks the members of the semantic view by name; the members
  it asks for are those of the typed record, so the views are written from the records. Canonical
  serialisation and SHA-256 are the parameters of `Digest`. A generated identity passes
  `isSha256Id` (`isSha256Id_tagged`), whatever the bytes.
-/
import Aios.Lib.Digest
import Aios.Lib.Order
import Aios.Registry.Contract
import Mathlib.Data.Prod.Lex

namespace Aios

open Lib Json

/-! ## 1. Texts of identities -/

/-- `sha256:` and 64 lowercase hexadecimal digits. -/
def isSha256Id (value : String) : Bool :=
  match stripPrefix "sha256:" value with
  | none => false
  | some digest => digest.length = 64 && digest.toList.all isLowerHex

def isAsciiHexdigit (c : Char) : Bool := isLowerHex c || ('A' ≤ c && c ≤ 'F')

/-- The sentinel of a bootstrap fixture: 64 hexadecimal digits, 56 zeros first. -/
def isObviousPlaceholderHash (value : String) : Bool :=
  match stripPrefix "sha256:" value with
  | none => false
  | some digest => digest.length = 64 && digest.toList.all isAsciiHexdigit &&
      (digest.toList.take 56).all (· = '0')

theorem stripPrefix_of_toList {start value : String} {rest : List Char}
    (h : value.toList = start.toList ++ rest) :
    stripPrefix start value = some (String.ofList rest) := by
  unfold stripPrefix
  rw [h, if_pos (List.isPrefixOf_iff_prefix.mpr (List.prefix_append _ rest)), List.drop_left]

/-- **A generated identity has the form of one.** -/
theorem isSha256Id_tagged (d : Digest) (domain payload : List UInt8) :
    isSha256Id (d.tagged domain payload) = true := by
  obtain ⟨digits, hlist, hlen, hhex⟩ := d.tagged_toList domain payload
  unfold isSha256Id
  rw [stripPrefix_of_toList hlist]
  simp [String.length_ofList, hlen, List.all_eq_true.mpr hhex]

/-! ## 2. The semantic views -/

/-- `null` for an absent member. -/
def orNull (v : Option Json) : Json := v.getD .null

/-- A tolerance; serde_json writes a value that is not finite as `null`. -/
def F64.toValue (x : F64) : Json := if x.isFinite then .num (.float x.bits) else .null

/-- A set of texts, in UTF-16 order. -/
def sortedStringSet (values : List String) : Json := .arr ((sortOn utf16 values).map .str)

def normalizePorts (ports : Std.ExtTreeMap String PortContract) : Json :=
  ofTree (fun port => ofFields [("type", some (.str port.typeRef)),
    ("required", some (.bool port.required))]) ports

def normalizeDeterminism (value : Option Determinism) : Json :=
  orNull (value.map fun d => ofFields [
    ("equivalence", some (orNull (d.equivalence.map fun e => .str e.serde))),
    ("numeric_absolute_tolerance", some (orNull (d.numericAbsoluteTolerance.map F64.toValue))),
    ("numeric_relative_tolerance", some (orNull (d.numericRelativeTolerance.map F64.toValue)))])

def normalizeConformance (c : Conformance) : Json :=
  ofFields [("suite_id", some (.str c.suiteId)),
    ("suite_version", some (orNull (c.suiteVersion.map .str))),
    ("suite_hash", some (orNull (c.suiteHash.map .str)))]

def normalizeEquality (e : TypeEquality) : Json :=
  ofFields [("mode", some (.str e.mode.serde)),
    ("canonicalizer", some (orNull (e.canonicalizer.map .str))),
    ("numeric_absolute_tolerance", some (orNull (e.numericAbsoluteTolerance.map F64.toValue))),
    ("numeric_relative_tolerance", some (orNull (e.numericRelativeTolerance.map F64.toValue)))]

def normalizeUnitSemantics (value : Option UnitSemantics) : Json :=
  orNull (value.map fun u => ofFields [
    ("unit_required", some (orNull (u.unitRequired.map .bool))),
    ("canonical_unit", some (orNull (u.canonicalUnit.map .str)))])

def normalizeRepresentation (r : Representation) : Json :=
  ofFields [("id", some (.str r.id)), ("media_type", some (orNull (r.mediaType.map .str))),
    ("schema_ref", some (orNull (r.schemaRef.map .str))),
    ("zero_copy_candidate", some (.bool r.zeroCopyCandidate))]

def capabilityContractSemanticView (c : CapabilityContract) : Json :=
  ofFields [("capability", some (.str c.capability)), ("version", some (.str c.version)),
    ("role", some (.str c.role.serde)), ("inputs", some (normalizePorts c.inputs)),
    ("outputs", some (normalizePorts c.outputs)),
    ("allowed_execution_classes",
      some (sortedStringSet (c.allowedExecutionClasses.map ExecutionClass.serde))),
    ("required_effect_classes",
      some (sortedStringSet (c.requiredEffectClasses.map EffectClass.serde))),
    ("allowed_effect_classes",
      some (sortedStringSet (c.allowedEffectClasses.map EffectClass.serde))),
    ("required_authority_classes", some (sortedStringSet c.requiredAuthorityClasses)),
    ("allowed_authority_classes", some (sortedStringSet c.allowedAuthorityClasses)),
    ("allowed_egress_modes", some (sortedStringSet (c.allowedEgressModes.map EgressMode.serde))),
    ("determinism", some (normalizeDeterminism c.determinism)),
    ("error_classes", some (sortedStringSet c.errorClasses)),
    ("conformance", some (normalizeConformance c.conformance))]

def typeContractSemanticView (t : TypeContract) : Json :=
  ofFields [("type_id", some (.str t.typeId)), ("version", some (.str t.version)),
    ("kind", some (.str t.kind.serde)),
    ("logical_schema_ref", some (orNull (t.logicalSchemaRef.map .str))),
    ("nullable", some (.bool t.nullable)),
    ("representations",
      some (.arr ((sortOn (fun r => utf16 r.id) t.representations).map normalizeRepresentation))),
    ("equality", some (normalizeEquality t.equality)),
    ("unit_semantics", some (normalizeUnitSemantics t.unitSemantics)),
    ("conversion_capabilities", some (sortedStringSet t.conversionCapabilities)),
    ("conformance", some (normalizeConformance t.conformance))]

/-! ## 3. Identities -/

def capabilityContractHashDomain : List UInt8 :=
  "AIOS-CAPABILITY-CONTRACT\x00v0.1\x00".toUTF8.toList

def typeContractHashDomain : List UInt8 := "AIOS-TYPE-CONTRACT\x00v0.1\x00".toUTF8.toList

def registrySnapshotHashDomain : List UInt8 := "AIOS-SEMANTIC-REGISTRY\x00v0.1\x00".toUTF8.toList

structure SnapshotHashEntry where
  id : String
  version : String
  contentHash : String
  deriving DecidableEq, Repr

section Identities

variable (digest : Digest)

def canonicalize (value : Json) : RegistryResult (List UInt8) :=
  (digest.canonical value).mapError fun error => .schema ("RFC 8785 JCS failed: " ++ error)

def capabilityContractHash (contract : CapabilityContract) : RegistryResult String := do
  validateCapabilityContract contract
  let canonical ← canonicalize digest (capabilityContractSemanticView contract)
  return digest.tagged capabilityContractHashDomain canonical

def typeContractHash (contract : TypeContract) : RegistryResult String := do
  validateTypeContract contract
  let canonical ← canonicalize digest (typeContractSemanticView contract)
  return digest.tagged typeContractHashDomain canonical

def snapshotEntryValue (entry : SnapshotHashEntry) : Json :=
  ofFields [("id", some (.str entry.id)), ("version", some (.str entry.version)),
    ("content_hash", some (.str entry.contentHash))]

/-- The order of full versions: the numbers, an absent patch as zero, then the text. -/
def FullVersion.key (v : FullVersion) : ℕ ×ₗ ℕ ×ₗ ℕ ×ₗ String :=
  toLex (v.major, toLex (v.minor, toLex (v.patch.getD 0, v.source)))

/-- The order of the entries of a snapshot: identifier, version, content hash. -/
def snapshotEntryKey (p : SnapshotHashEntry × FullVersion) :
    String ×ₗ (ℕ ×ₗ ℕ ×ₗ ℕ ×ₗ String) ×ₗ String :=
  toLex (p.1.id, toLex (p.2.key, p.1.contentHash))

/-- Pairs every entry with its version. -/
def withVersions : List SnapshotHashEntry → RegistryResult (List (SnapshotHashEntry × FullVersion))
  | [] => .ok []
  | entry :: rest => do
      let version ← FullVersion.parse entry.version
      let paired ← withVersions rest
      return (entry, version) :: paired

def sortSnapshotEntries (entries : List SnapshotHashEntry) :
    RegistryResult (List SnapshotHashEntry) := do
  let paired ← withVersions entries
  return (sortOn snapshotEntryKey paired).map Prod.fst

/-- Checks the entries from left to right; `majors` are the families so far. -/
def validateSnapshotHashEntries (kind : String) :
    List (String × Nat) → List SnapshotHashEntry → RegistryResult Unit
  | _, [] => .ok ()
  | majors, entry :: rest => do
      validateSemanticId entry.id
      let version ← FullVersion.parse entry.version
      rejectIf (!isSha256Id entry.contentHash)
        (.schema (s!"{kind} contract {entry.id} {entry.version} has an invalid generated content " ++
          "hash"))
      rejectIf (majors.contains (entry.id, version.major))
        (.schema s!"registry hash view repeats active {kind} family {entry.id}@{version.major}")
      validateSnapshotHashEntries kind ((entry.id, version.major) :: majors) rest

def registrySnapshotId (schemaVersion : String)
    (typeContracts capabilityContracts : List SnapshotHashEntry) : RegistryResult String := do
  rejectIf (schemaVersion ≠ "0.1")
    (.schema s!"unsupported registry snapshot hash profile {debugStr schemaVersion}")
  validateSnapshotHashEntries "type" [] typeContracts
  validateSnapshotHashEntries "capability" [] capabilityContracts
  let types ← sortSnapshotEntries typeContracts
  let capabilities ← sortSnapshotEntries capabilityContracts
  let canonical ← canonicalize digest (ofFields [("schema_version", some (.str schemaVersion)),
    ("type_contracts", some (.arr (types.map snapshotEntryValue))),
    ("capability_contracts", some (.arr (capabilities.map snapshotEntryValue)))])
  return digest.tagged registrySnapshotHashDomain canonical

end Identities

end Aios
