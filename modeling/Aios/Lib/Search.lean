/-
  File:      Aios/Lib/Search.lean
  Subject:   WORKLIST SEARCH over a successor function: it finds a goal exactly when one is
             reachable from the pending vertices.

  The search carries the pending vertices and the visited ones. Each vertex is expanded at most
  once, so the number of rounds is bounded by the pending vertices plus the successors of the
  vertices not yet visited (`cost`): with that much fuel a negative answer is a closed set
  without a goal (`search_false_closed`), and the answer is exact (`search_iff`).
-/
import Mathlib.Logic.Relation
import Mathlib.Algebra.BigOperators.Group.List.Basic
import Mathlib.Algebra.GroupWithZero.Nat
import Mathlib.Data.List.Basic

namespace Lib

variable {α : Type} [DecidableEq α] (succ : α → List α) (goal : α → Bool)

/-- Breadth-first search that tests a vertex against the goal before the visited set. -/
def search : Nat → List α → List α → Bool
  | 0, _, _ => false
  | _ + 1, [], _ => false
  | fuel + 1, c :: pending, visited =>
      if goal c then true
      else if c ∈ visited then search fuel pending visited
      else search fuel (pending ++ succ c) (c :: visited)

/-- Breadth-first search that tests a vertex against the visited set before the goal. -/
def searchUnseen : Nat → List α → List α → Bool
  | 0, _, _ => false
  | _ + 1, [], _ => false
  | fuel + 1, c :: pending, visited =>
      if c ∈ visited then searchUnseen fuel pending visited
      else if goal c then true
      else searchUnseen fuel (pending ++ succ c) (c :: visited)

/-- One step to a successor. -/
def Succ (a b : α) : Prop := b ∈ succ a

/-- The rounds a search can still take: `keys` lists the vertices that have successors. -/
def cost (keys pending visited : List α) : Nat :=
  pending.length + ((keys.filter (· ∉ visited)).map fun k => (succ k).length).sum

variable {succ goal}

theorem search_sound : ∀ (fuel : Nat) (pending visited : List α),
    search succ goal fuel pending visited = true →
      ∃ x ∈ pending, ∃ y, Relation.ReflTransGen (Succ succ) x y ∧ goal y = true
  | 0, _, _, h => by simp [search] at h
  | _ + 1, [], _, h => by simp [search] at h
  | fuel + 1, c :: pending, visited, h => by
      unfold search at h
      split at h
      · rename_i hg
        exact ⟨c, List.mem_cons_self, c, .refl, hg⟩
      · split at h
        · obtain ⟨x, hx, y, hy⟩ := search_sound fuel pending visited h
          exact ⟨x, List.mem_cons_of_mem _ hx, y, hy⟩
        · obtain ⟨x, hx, y, hr, hg⟩ := search_sound fuel _ _ h
          rcases List.mem_append.mp hx with hx | hx
          · exact ⟨x, List.mem_cons_of_mem _ hx, y, hr, hg⟩
          · exact ⟨c, List.mem_cons_self, y, .head hx hr, hg⟩

theorem sum_filter_le (keys visited : List α) (c : α) (hc : c ∈ keys)
    (hv : c ∉ visited) (f : α → Nat) :
    ((keys.filter (· ∉ c :: visited)).map f).sum + f c ≤
      ((keys.filter (· ∉ visited)).map f).sum := by
  induction keys with
  | nil => cases hc
  | cons k keys ih =>
      by_cases hkc : k = c
      · subst hkc
        have h1 : (k :: keys).filter (· ∉ k :: visited) = keys.filter (· ∉ k :: visited) := by
          simp
        have h2 : (k :: keys).filter (· ∉ visited) = k :: keys.filter (· ∉ visited) := by
          simp [hv]
        rw [h1, h2, List.map_cons, List.sum_cons]
        by_cases hin : k ∈ keys
        · have := ih hin
          omega
        · have e : keys.filter (· ∉ k :: visited) = keys.filter (· ∉ visited) := by
            refine List.filter_congr fun a ha => ?_
            have hne : a ≠ k := fun e => hin (e ▸ ha)
            simp [hne]
          rw [e]
          omega
      · have hin : c ∈ keys := by
          rcases List.mem_cons.mp hc with e | h
          · exact absurd e.symm hkc
          · exact h
        have := ih hin
        by_cases hkv : k ∈ visited
        · have h1 : (k :: keys).filter (· ∉ c :: visited) = keys.filter (· ∉ c :: visited) := by
            simp [hkv]
          have h2 : (k :: keys).filter (· ∉ visited) = keys.filter (· ∉ visited) := by
            simp [hkv]
          rw [h1, h2]
          exact this
        · have h1 : (k :: keys).filter (· ∉ c :: visited) =
              k :: keys.filter (· ∉ c :: visited) := by
            simp [hkv, hkc]
          have h2 : (k :: keys).filter (· ∉ visited) = k :: keys.filter (· ∉ visited) := by
            simp [hkv]
          rw [h1, h2, List.map_cons, List.map_cons, List.sum_cons, List.sum_cons]
          omega

/-- Expanding a new vertex costs less than it frees. -/
theorem cost_expand {keys : List α} (hk : ∀ a, a ∉ keys → succ a = []) {c : α}
    (pending : List α) {visited : List α} (hv : c ∉ visited) :
    cost succ keys (pending ++ succ c) (c :: visited) + 1 ≤ cost succ keys (c :: pending) visited := by
  unfold cost
  rw [List.length_append, List.length_cons]
  by_cases hc : c ∈ keys
  · have := sum_filter_le keys visited c hc hv fun k => (succ k).length
    omega
  · have e : keys.filter (· ∉ c :: visited) = keys.filter (· ∉ visited) := by
      refine List.filter_congr fun a ha => ?_
      have hne : a ≠ c := fun e => hc (e ▸ ha)
      simp [hne]
    rw [e, hk c hc, List.length_nil]
    omega

/-- **A negative answer with enough fuel is a closed set without a goal**, holding every pending
    and every visited vertex. -/
theorem search_false_closed {keys : List α} (hk : ∀ a, a ∉ keys → succ a = []) :
    ∀ (fuel : Nat) (pending visited : List α),
      cost succ keys pending visited ≤ fuel →
      (∀ v ∈ visited, goal v = false ∧ ∀ w ∈ succ v, w ∈ visited ∨ w ∈ pending) →
      search succ goal fuel pending visited = false →
      ∃ C : Set α, (∀ x ∈ pending, x ∈ C) ∧ (∀ x ∈ C, ∀ y ∈ succ x, y ∈ C) ∧
        ∀ x ∈ C, goal x = false
  | 0, pending, visited, hf, hi, _ => by
      have hp : pending = [] := by
        unfold cost at hf
        exact List.eq_nil_of_length_eq_zero (by omega)
      subst hp
      refine ⟨{x | x ∈ visited}, by simp, fun x hx y hy => ?_, fun x hx => (hi x hx).1⟩
      rcases (hi x hx).2 y hy with h | h
      · exact h
      · cases h
  | _ + 1, [], visited, _, hi, _ => by
      refine ⟨{x | x ∈ visited}, by simp, fun x hx y hy => ?_, fun x hx => (hi x hx).1⟩
      rcases (hi x hx).2 y hy with h | h
      · exact h
      · cases h
  | fuel + 1, c :: pending, visited, hf, hi, h => by
      unfold search at h
      split at h
      · cases h
      · rename_i hg
        split at h
        · rename_i hc
          have hcost : cost succ keys pending visited ≤ fuel := by
            unfold cost at hf ⊢
            rw [List.length_cons] at hf
            omega
          obtain ⟨C, hC1, hC2, hC3⟩ := search_false_closed hk fuel pending visited hcost
            (fun v hv => ⟨(hi v hv).1, fun w hw => by
              rcases (hi v hv).2 w hw with hw | hw
              · exact Or.inl hw
              · rcases List.mem_cons.mp hw with rfl | hw
                · exact Or.inl hc
                · exact Or.inr hw⟩) h
          -- the dropped vertex was visited; its closure joins the closed set
          refine ⟨C ∪ {x | x ∈ visited}, fun x hx => ?_, fun x hx y hy => ?_, fun x hx => ?_⟩
          · rcases List.mem_cons.mp hx with rfl | hx
            · exact Or.inr hc
            · exact Or.inl (hC1 x hx)
          · rcases hx with hx | hx
            · exact Or.inl (hC2 x hx y hy)
            · rcases (hi x hx).2 y hy with hy | hy
              · exact Or.inr hy
              · rcases List.mem_cons.mp hy with rfl | hy
                · exact Or.inr hc
                · exact Or.inl (hC1 y hy)
          · rcases hx with hx | hx
            · exact hC3 x hx
            · exact (hi x hx).1
        · rename_i hc
          have hcost : cost succ keys (pending ++ succ c) (c :: visited) ≤ fuel := by
            have := cost_expand hk pending hc
            omega
          obtain ⟨C, hC1, hC2, hC3⟩ := search_false_closed hk fuel (pending ++ succ c) (c :: visited)
            hcost (fun v hv => by
              rcases List.mem_cons.mp hv with rfl | hv
              · exact ⟨by simpa using hg, fun w hw => Or.inr (List.mem_append_right _ hw)⟩
              · refine ⟨(hi v hv).1, fun w hw => ?_⟩
                rcases (hi v hv).2 w hw with hw | hw
                · exact Or.inl (List.mem_cons_of_mem _ hw)
                · rcases List.mem_cons.mp hw with rfl | hw
                  · exact Or.inl List.mem_cons_self
                  · exact Or.inr (List.mem_append_left _ hw)) h
          refine ⟨C ∪ {c}, fun x hx => ?_, fun x hx y hy => ?_, fun x hx => ?_⟩
          · rcases List.mem_cons.mp hx with rfl | hx
            · exact Or.inr rfl
            · exact Or.inl (hC1 x (List.mem_append_left _ hx))
          · rcases hx with hx | rfl
            · exact Or.inl (hC2 x hx y hy)
            · exact Or.inl (hC1 y (List.mem_append_right _ hy))
          · rcases hx with hx | rfl
            · exact hC3 x hx
            · simpa using hg

/-- **The search from one vertex is exact.** -/
theorem search_iff {keys : List α} (hk : ∀ a, a ∉ keys → succ a = []) {fuel : Nat} {start : α}
    (hf : cost succ keys [start] [] ≤ fuel) :
    search succ goal fuel [start] [] = true ↔
      ∃ y, Relation.ReflTransGen (Succ succ) start y ∧ goal y = true := by
  constructor
  · intro h
    obtain ⟨x, hx, y, hy⟩ := search_sound _ _ _ h
    rw [List.mem_singleton] at hx
    subst hx
    exact ⟨y, hy⟩
  · rintro ⟨y, hr, hg⟩
    by_contra hn
    obtain ⟨C, hC1, hC2, hC3⟩ := search_false_closed hk fuel [start] [] hf (by simp)
      (by simpa using hn)
    have hall : y ∈ C := by
      clear hg
      induction hr with
      | refl => exact hC1 start (List.mem_singleton_self _)
      | tail _ hs ih => exact hC2 _ ih _ hs
    rw [hC3 y hall] at hg
    cases hg

/-- Where no visited vertex is a goal, the order of the two tests does not matter. -/
theorem searchUnseen_eq : ∀ (fuel : Nat) {pending visited : List α}, (∀ v ∈ visited, goal v = false) →
    searchUnseen succ goal fuel pending visited = search succ goal fuel pending visited
  | 0, _, _, _ => rfl
  | _ + 1, [], _, _ => rfl
  | fuel + 1, c :: pending, visited, h => by
      unfold searchUnseen search
      by_cases hc : c ∈ visited
      · rw [if_pos hc, if_neg (by rw [h c hc]; decide), if_pos hc]
        exact searchUnseen_eq fuel h
      · by_cases hg : goal c = true
        · rw [if_neg hc, if_pos hg, if_pos hg]
        · rw [if_neg hc, if_neg hg, if_neg hg, if_neg hc]
          refine searchUnseen_eq fuel fun v hv => ?_
          rcases List.mem_cons.mp hv with rfl | hv
          · exact Bool.not_eq_true _ ▸ hg
          · exact h v hv

/-- **The search is exact with either order of the tests.** -/
theorem searchUnseen_iff {keys : List α} (hk : ∀ a, a ∉ keys → succ a = []) {fuel : Nat} {start : α}
    (hf : cost succ keys [start] [] ≤ fuel) :
    searchUnseen succ goal fuel [start] [] = true ↔
      ∃ y, Relation.ReflTransGen (Succ succ) start y ∧ goal y = true := by
  rw [searchUnseen_eq fuel fun v hv => absurd hv List.not_mem_nil]
  exact search_iff hk hf

end Lib
