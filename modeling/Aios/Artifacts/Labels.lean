/-
  File:      Aios/Artifacts/Labels.lean
  Subject:   THE PROTECTION LABELS of an artifact: sensitivity and retention, their ranks, and what an
             output inherits from the labels of its inputs.

  An output starts from `private` and `task`. A label of an input takes the place of the one at hand
  where its rank is strictly higher, so the fold ends with a greatest one (`inherit_isGreatest`).
-/
import Mathlib.Data.List.Basic
import Mathlib.Order.Bounds.Basic

namespace Aios.Artifacts

/-! ## 1. Sensitivity -/

inductive Sensitivity where
  | publicData
  | localData
  | privateData
  | confidential
  | secret
  deriving DecidableEq, Repr

namespace Sensitivity

def asStr : Sensitivity → String
  | .publicData => "public"
  | .localData => "local"
  | .privateData => "private"
  | .confidential => "confidential"
  | .secret => "secret"

def parse : String → Option Sensitivity
  | "public" => some .publicData
  | "local" => some .localData
  | "private" => some .privateData
  | "confidential" => some .confidential
  | "secret" => some .secret
  | _ => none

def propagationRank : Sensitivity → Nat
  | .publicData => 0
  | .localData => 1
  | .privateData => 2
  | .confidential => 3
  | .secret => 4

end Sensitivity

/-! ## 2. Retention -/

inductive RetentionClass where
  | ephemeral
  | task
  | persistent
  | userManaged
  deriving DecidableEq, Repr

namespace RetentionClass

def asStr : RetentionClass → String
  | .ephemeral => "ephemeral"
  | .task => "task"
  | .persistent => "persistent"
  | .userManaged => "user-managed"

def parse : String → Option RetentionClass
  | "ephemeral" => some .ephemeral
  | "task" => some .task
  | "persistent" => some .persistent
  | "user-managed" => some .userManaged
  | _ => none

def propagationRank : RetentionClass → Nat
  | .ephemeral => 0
  | .task => 1
  | .persistent => 2
  | .userManaged => 3

end RetentionClass

/-! ## 3. The fold -/

section Fold

variable {α : Type} (rank : α → Nat)

/-- The one at hand, or one of a strictly higher rank. -/
def raise (current candidate : α) : α := if rank current < rank candidate then candidate else current

/-- What an output starts from, raised by every input in turn. -/
def inherit (base : α) (inputs : List α) : α := inputs.foldl (raise rank) base

theorem rank_le_raise (current candidate : α) :
    rank current ≤ rank (raise rank current candidate) ∧
      rank candidate ≤ rank (raise rank current candidate) := by
  unfold raise
  split
  · omega
  · omega

theorem raise_mem (current candidate : α) :
    raise rank current candidate = current ∨ raise rank current candidate = candidate := by
  unfold raise
  split
  · exact .inr rfl
  · exact .inl rfl

/-- **The inherited label is one of the labels at hand and above all of them.** -/
theorem inherit_isGreatest (base : α) (inputs : List α) :
    IsGreatest (Set.image rank { a | a ∈ base :: inputs }) (rank (inherit rank base inputs)) := by
  -- along the inputs, with the label at hand as the base
  induction inputs generalizing base with
  | nil =>
      refine ⟨⟨base, List.mem_cons_self, rfl⟩, ?_⟩
      rintro _ ⟨a, ha, rfl⟩
      rw [List.mem_singleton.mp ha]
      exact le_refl _
  | cons input rest ih =>
      obtain ⟨⟨best, hbest, he⟩, hupper⟩ := ih (raise rank base input)
      obtain ⟨hbase, hinput⟩ := rank_le_raise rank base input
      have hraised : rank (raise rank base input) ≤ rank (inherit rank base (input :: rest)) :=
        hupper ⟨_, List.mem_cons_self, rfl⟩
      refine ⟨⟨best, ?_, he⟩, ?_⟩
      · rcases List.mem_cons.mp hbest with e | hmem
        · rcases raise_mem rank base input with e' | e'
          · rw [e, e']
            exact List.mem_cons_self
          · rw [e, e']
            exact List.mem_cons_of_mem _ List.mem_cons_self
        · exact List.mem_cons_of_mem _ (List.mem_cons_of_mem _ hmem)
      · rintro _ ⟨a, ha, rfl⟩
        rcases List.mem_cons.mp ha with rfl | ha
        · exact le_trans hbase hraised
        · rcases List.mem_cons.mp ha with rfl | ha
          · exact le_trans hinput hraised
          · exact hupper ⟨a, List.mem_cons_of_mem _ ha, rfl⟩

end Fold

end Aios.Artifacts
