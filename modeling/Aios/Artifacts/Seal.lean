/-
  File:      Aios/Artifacts/Seal.lean
  Subject:   THE SEAL OF A STAGING FILE: its text, the evidence its two names give, and the two resolvers
             of what an interrupted `finish` has left.

  A resolver looks at both names once and then carries out file operations in a fixed order. So it is
  given as that list of operations (`resolveStagingSealEvidence`, `resolveStagingSealEvidenceLive`), or
  as its error; `runSeal` carries them out, and `Interrupted` is where a crash can fall.
-/
import Aios.Artifacts.Staging
import Aios.Lib.JsonWrite

namespace Aios.Artifacts

open Lib JsonText Tasks

/-! ## 1. The text of a seal -/

/-- `serde_json::to_vec` of a seal, its members in the order of the fields. -/
def SealedStaging.value (sealed : SealedStaging) : Value :=
  compactObject (quote "version", .number (.ofNat sealed.version)) [
    (quote "allocation_id", .string (quote sealed.allocationId)),
    (quote "size_bytes", .number (.ofNat sealed.sizeBytes)),
    (quote "content_hash", .string (quote sealed.contentHash))]

def SealedStaging.text (sealed : SealedStaging) : Bytes := sealed.value.text

def asUnsigned (limit : Nat) : Json → Option Nat
  | .num (.posInt n) => if n < limit then some n else none
  | _ => none

def sealFieldNames : List String := ["version", "allocation_id", "size_bytes", "content_hash"]

/-- `serde_json::from_value` of a seal: an object of its fields and no others, or the sequence of them. -/
def SealedStaging.ofJson : Json → Option SealedStaging
  | .obj members => do
      if !members.all (fun m => sealFieldNames.contains m.1) then none
      else
        let version ← (members.lookup "version").bind (asUnsigned (2 ^ 8))
        let allocationId ← (members.lookup "allocation_id").bind Json.asStr
        let sizeBytes ← (members.lookup "size_bytes").bind (asUnsigned (2 ^ 64))
        let contentHash ← (members.lookup "content_hash").bind Json.asStr
        return ⟨version, allocationId, sizeBytes, contentHash⟩
  | .arr [version, allocationId, sizeBytes, contentHash] => do
      let version ← asUnsigned (2 ^ 8) version
      let allocationId ← allocationId.asStr
      let sizeBytes ← asUnsigned (2 ^ 64) sizeBytes
      let contentHash ← contentHash.asStr
      return ⟨version, allocationId, sizeBytes, contentHash⟩
  | _ => none

/-! ## 2. Evidence -/

/-- What `serde_json::from_slice::<Value>` returns; `eof` is an error that `is_eof`. -/
inductive SliceReading where
  | value (v : Json)
  | eof
  | malformed

/-- The parser library. -/
structure SliceReader where
  /-- What a string token decodes to, its quotes included. -/
  string : Bytes → Option String
  number : Bytes → Option Number
  fromSlice : Bytes → SliceReading

inductive StagingSealEvidence where
  | absent
  | truncated
  | complete (sealed : SealedStaging)
  deriving DecidableEq

def hashMismatch : TaskManagerError := .invalidRecord "ARTIFACT_HASH_MISMATCH"

def sealLimit : Nat := 16 * 1024

/-- `read_staging_seal_evidence`: the file under one name, if there is one. -/
def readStagingSealEvidence (reader : SliceReader) : Option Bytes → TaskResult StagingSealEvidence
  | none => .ok .absent
  | some file => do
      let text := file.take (sealLimit + 1)
      rejectIf (decide (sealLimit < text.length)) hashMismatch
      match reader.fromSlice text with
      | .eof => return .truncated
      | .malformed => .error hashMismatch
      | .value v =>
          let sealed ← expect (SealedStaging.ofJson v) hashMismatch
          return .complete sealed

def validateStagingSeal (sealed : SealedStaging) (allocationId : String) (sizeBytes : Nat)
    (contentHash : String) : TaskResult Unit :=
  rejectIf (sealed.version ≠ sealedStagingVersion || sealed.allocationId ≠ allocationId ||
    sealed.sizeBytes ≠ sizeBytes || sealed.contentHash ≠ contentHash) hashMismatch

/-- A complete seal is the one of these bytes; what is not complete says nothing. -/
def validateEvidence (allocationId : String) (sizeBytes : Nat) (contentHash : String) :
    StagingSealEvidence → TaskResult Unit
  | .complete sealed => validateStagingSeal sealed allocationId sizeBytes contentHash
  | _ => .ok ()

/-! ## 3. File operations -/

/-- The seal under its two names. -/
structure SealFiles where
  pending : Option Bytes
  sealed : Option Bytes
  deriving DecidableEq

inductive SealPrimitive where
  /-- `create_new` of the pending name; a live writer has both names looked up in the same entry. -/
  | createPending (unsealed : Bool)
  | permissions
  | write (bytes : Bytes)
  | flush
  | syncFile
  | syncDirectory
  | rename
  | removePending
  | removeFinal
  deriving DecidableEq

/-- What the operation makes of the files; `none` where it fails. -/
def SealPrimitive.apply : SealPrimitive → SealFiles → Option SealFiles
  | .createPending unsealed, files =>
      if files.pending.isSome || (unsealed && files.sealed.isSome) then none
      else some { files with pending := some [] }
  | .write bytes, files => files.pending.map fun content => { files with pending := some (content ++ bytes) }
  | .rename, files => files.pending.map fun content => ⟨none, some content⟩
  | .removePending, files => files.pending.map fun _ => { files with pending := none }
  | .removeFinal, files => files.sealed.map fun _ => { files with sealed := none }
  | _, files => some files

def sealIoError : TaskManagerError := .io "staging seal operation failed"

/-- Carries the operations out, up to the first that fails. -/
def runSeal : List SealPrimitive → SealFiles → SealFiles × TaskResult Unit
  | [], files => (files, .ok ())
  | p :: ops, files =>
      match p.apply files with
      | some files' => runSeal ops files'
      | none => (files, .error sealIoError)

/-- Where a run of the operations can be stopped: between two of them, or inside a write, of which some
    bytes have reached the file. -/
inductive Interrupted : List SealPrimitive → SealFiles → SealFiles → Prop where
  | stopped (ops : List SealPrimitive) (files : SealFiles) : Interrupted ops files files
  | torn {bytes part : Bytes} (hpart : part <+: bytes) (ops : List SealPrimitive) (files : SealFiles) :
      Interrupted (.write bytes :: ops) files
        { files with pending := files.pending.map fun content => content ++ part }
  | later {p : SealPrimitive} {ops : List SealPrimitive} {files files' last : SealFiles}
      (happly : p.apply files = some files') (h : Interrupted ops files' last) : Interrupted (p :: ops) files last

/-! ## 4. Writing -/

/-- `write_staging_seal_atomically`. -/
def writeStagingSealAtomically (bytes : Bytes) : List SealPrimitive :=
  [.createPending false, .permissions, .write bytes, .flush, .syncFile, .syncDirectory, .rename, .syncDirectory]

/-- `write_staging_seal_live`; the chunks are what its calls of `write` take, one after the other. -/
def writeStagingSealLive (chunks : List Bytes) : List SealPrimitive :=
  [.createPending true, .permissions] ++ chunks.map .write ++
    [.flush, .syncFile, .syncDirectory, .rename, .syncDirectory]

/-! ## 5. Resolvers -/

/-- The names with incomplete evidence are removed. -/
def removeTruncated (pending final : StagingSealEvidence) : List SealPrimitive :=
  (if pending = .truncated then [.removePending] else []) ++ (if final = .truncated then [.removeFinal] else [])

def StagingSealEvidence.isComplete : StagingSealEvidence → Bool
  | .complete _ => true
  | _ => false

section Resolve

variable (env : StagingEnv) (pending final : StagingSealEvidence) (sizeBytes : Nat) (contentHash : String)

/-- The seal both resolvers write where there is none. -/
def resolvedSeal : SealedStaging := ⟨sealedStagingVersion, env.allocationId, sizeBytes, contentHash⟩

/-- `resolve_staging_seal_evidence`. -/
def resolveStagingSealEvidence (reconstructWhenAbsent : Bool) : TaskResult (List SealPrimitive) := do
  validateEvidence env.allocationId sizeBytes contentHash pending
  validateEvidence env.allocationId sizeBytes contentHash final
  if pending.isComplete then
    if final.isComplete then
      return [.removePending, .syncDirectory]
    return (if final = .truncated then [.removeFinal, .syncDirectory] else []) ++ [.rename, .syncDirectory]
  if final.isComplete then
    return (if pending = .truncated then [.removePending] else []) ++ [.syncDirectory]
  let hasIncompleteEvidence := decide (pending = .truncated) || decide (final = .truncated)
  if !hasIncompleteEvidence && !reconstructWhenAbsent then
    return []
  return removeTruncated pending final ++ (if hasIncompleteEvidence then [.syncDirectory] else []) ++
    writeStagingSealAtomically (resolvedSeal env sizeBytes contentHash).text

/-- `resolve_staging_seal_evidence_live`, each operation under the fence of its writer. -/
def resolveStagingSealEvidenceLive (chunks : List Bytes) : TaskResult (List SealPrimitive) := do
  validateEvidence env.allocationId sizeBytes contentHash pending
  validateEvidence env.allocationId sizeBytes contentHash final
  if pending.isComplete then
    if final.isComplete then
      return [.removePending, .syncDirectory]
    return (if final = .truncated then [.removeFinal, .syncDirectory] else []) ++ [.rename, .syncDirectory]
  if final.isComplete then
    return (if pending = .truncated then [.removePending] else []) ++ [.syncDirectory]
  return removeTruncated pending final ++
    (if pending = .truncated ∨ final = .truncated then [.syncDirectory] else []) ++ writeStagingSealLive chunks

end Resolve

section Reconcile

variable (env : StagingEnv) (reader : SliceReader) (bytes : Bytes)

/-- `reconcile_interrupted_staging_seal`: what startup does for the bytes of the staging file. -/
def reconcileInterruptedStagingSeal (files : SealFiles) : TaskResult (List SealPrimitive) := do
  let pending ← readStagingSealEvidence reader files.pending
  let final ← readStagingSealEvidence reader files.sealed
  if pending = .absent ∧ final = .absent then
    return []
  let (sizeBytes, contentHash) := env.hashReader bytes
  resolveStagingSealEvidence env pending final sizeBytes contentHash false

/-- The end of `retry_bound_artifact_output_finish`: the live resolver on what it finds, after the staging
    file is synced where there is no complete seal. -/
def retryStagingSeal (chunks : List Bytes) (files : SealFiles) : TaskResult (List SealPrimitive) := do
  let pending ← readStagingSealEvidence reader files.pending
  let final ← readStagingSealEvidence reader files.sealed
  let (sizeBytes, contentHash) := env.hashReader bytes
  let synced := if pending.isComplete || final.isComplete then [] else [.syncFile]
  let ops ← resolveStagingSealEvidenceLive env pending final sizeBytes contentHash chunks
  return synced ++ ops

/-- The files behind a resolver that nothing interrupts, and its result. -/
def resolved (plan : TaskResult (List SealPrimitive)) (files : SealFiles) : SealFiles × TaskResult Unit :=
  match plan with
  | .ok ops => runSeal ops files
  | .error e => (files, .error e)

end Reconcile

end Aios.Artifacts
