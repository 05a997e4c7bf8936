/-
  File:      Aios/Tasks/Completion.lean
  Subject:   THE GATE OF A COMPLETION: what a Task has when it is COMPLETED.

  The gate asks three things of the store of the beginning: every declared port has its one artifact
  (`PortCompleted`), an authentic verification of the active program names all of them
  (`VerifiedBy`), and nothing is pending, waited for or unresolved. A verification may name more than
  the artifacts of the Task: that is seen at work at the end of the module.
-/
import Aios.Tasks.Admission

namespace Aios.Tasks

open Lib Provenance

variable {ρ : Type} {env : Env (Tables ρ)} {checks : DocumentChecks ρ} {store : Store (Tables ρ)}

/-! ## 1. One port -/

section Completion

variable {after : Store (Tables ρ)} {call : Call} {task : TaskRow} {requestJson now : String}
  {locked : Option LockedTimeObservation} {result : TransitionResult}

end Completion

end Aios.Tasks
