/-
  File:      Aios/Lib/Index.lean
  Subject:   Indexing a list by a key that may fail, one element for each key.

  `indexBy` refuses the first element whose key fails or is taken. A list can be indexed exactly when
  its keys are there and distinct (`Indexable`), and the index then holds the list's elements under
  their keys (`indexBy_getElem?`). Neither depends on the order (`indexBy_perm`).
-/
import Aios.Lib.Except
import Std.Data.ExtTreeMap
import Mathlib.Data.List.Perm.Basic

namespace Lib

section Index

variable {α κ ε : Type} {cmp : κ → κ → Ordering} [Std.TransCmp cmp] [Std.LawfulEqCmp cmp]

/-- Adds the elements to the index, left to right. -/
def indexBy (key : α → Except ε κ) (clash : κ → ε) :
    List α → Std.ExtTreeMap κ α cmp → Except ε (Std.ExtTreeMap κ α cmp)
  | [], m => .ok m
  | a :: l, m => do
      let k ← key a
      rejectIf (m.contains k) (clash k)
      indexBy key clash l (m.insert k a)

/-- Every element has a key, and no two have the same. -/
structure Indexable (key : α → Except ε κ) (l : List α) : Prop where
  keyed : ∀ a ∈ l, ∃ k, key a = .ok k
  distinct : l.Pairwise fun a b => key a ≠ key b

theorem Indexable.perm {key : α → Except ε κ} {l r : List α} (h : Indexable key l) (hp : l.Perm r) :
    Indexable key r :=
  ⟨fun a ha => h.keyed a (hp.mem_iff.mpr ha),
    (hp.pairwise_iff fun {_ _} hne => Ne.symm hne).mp h.distinct⟩

theorem Indexable.tail {key : α → Except ε κ} {a : α} {l : List α} (h : Indexable key (a :: l)) :
    Indexable key l :=
  ⟨fun b hb => h.keyed b (List.mem_cons_of_mem a hb), (List.pairwise_cons.mp h.distinct).2⟩

theorem mem_insert_iff {m : Std.ExtTreeMap κ α cmp} {k j : κ} {a : α} :
    j ∈ m.insert k a ↔ k = j ∨ j ∈ m := by
  rw [Std.ExtTreeMap.mem_insert, Std.LawfulEqCmp.compare_eq_iff_eq]

/-- **A run succeeds exactly for an indexable list that clashes with nothing in the index.** -/
theorem indexBy_ok_iff {key : α → Except ε κ} {clash : κ → ε} :
    ∀ {l : List α} {m : Std.ExtTreeMap κ α cmp}, (∃ r, indexBy key clash l m = .ok r) ↔
      Indexable key l ∧ ∀ a ∈ l, ∀ k, key a = .ok k → k ∉ m
  | [], m => by
      refine iff_of_true ⟨m, rfl⟩ ⟨⟨?_, .nil⟩, ?_⟩
      · intro a ha
        cases ha
      · intro a ha
        cases ha
  | a :: l, m => by
      constructor
      · intro ⟨r, hr⟩
        rw [indexBy, bind_eq_ok'] at hr
        obtain ⟨k, hk, hr⟩ := hr
        rw [unit_bind_eq_ok, rejectIf_ok] at hr
        obtain ⟨hfree, hr⟩ := hr
        have hfree : k ∉ m := by
          intro hm
          rw [← Std.ExtTreeMap.contains_iff_mem, hfree] at hm
          cases hm
        obtain ⟨hl, hclear⟩ := indexBy_ok_iff.mp ⟨r, hr⟩
        have hne : ∀ b ∈ l, key a ≠ key b := by
          intro b hb e
          exact hclear b hb k (e ▸ hk) (mem_insert_iff.mpr (Or.inl rfl))
        refine ⟨⟨fun b hb => ?_, List.pairwise_cons.mpr ⟨hne, hl.distinct⟩⟩, fun b hb j hj => ?_⟩
        · rcases List.mem_cons.mp hb with rfl | hb
          · exact ⟨k, hk⟩
          · exact hl.keyed b hb
        · rcases List.mem_cons.mp hb with rfl | hb
          · rw [hk, Except.ok.injEq] at hj
            exact hj ▸ hfree
          · exact fun hm => hclear b hb j hj (mem_insert_iff.mpr (Or.inr hm))
      · intro ⟨hl, hclear⟩
        obtain ⟨k, hk⟩ := hl.keyed a List.mem_cons_self
        have hfree : k ∉ m := hclear a List.mem_cons_self k hk
        have htail : ∀ b ∈ l, ∀ j, key b = .ok j → j ∉ m.insert k a := by
          intro b hb j hj hm
          rcases mem_insert_iff.mp hm with rfl | hm
          · exact (List.pairwise_cons.mp hl.distinct).1 b hb (hk.trans hj.symm)
          · exact hclear b (List.mem_cons_of_mem a hb) j hj hm
        obtain ⟨r, hr⟩ := indexBy_ok_iff.mpr ⟨hl.tail, htail⟩
        refine ⟨r, ?_⟩
        rw [indexBy, bind_eq_ok']
        refine ⟨k, hk, ?_⟩
        rw [unit_bind_eq_ok, rejectIf_ok]
        refine ⟨?_, hr⟩
        cases hc : m.contains k with
        | false => rfl
        | true => exact absurd (Std.ExtTreeMap.contains_iff_mem.mp hc) hfree

/-- **The index holds what it held and the list's elements under their keys.** -/
theorem indexBy_getElem? {key : α → Except ε κ} {clash : κ → ε} :
    ∀ {l : List α} {m r : Std.ExtTreeMap κ α cmp}, indexBy key clash l m = .ok r →
      ∀ (k : κ) (a : α), r[k]? = some a ↔ m[k]? = some a ∨ (a ∈ l ∧ key a = .ok k)
  | [], m, r, h, k, a => by
      rw [indexBy, Except.ok.injEq] at h
      simp [h]
  | b :: l, m, r, h, k, a => by
      have hok := indexBy_ok_iff.mp ⟨r, h⟩
      rw [indexBy, bind_eq_ok'] at h
      obtain ⟨j, hj, h⟩ := h
      rw [unit_bind_eq_ok] at h
      have hfree : j ∉ m := hok.2 b List.mem_cons_self j hj
      rw [indexBy_getElem? h.2 k a, Std.ExtTreeMap.getElem?_insert, List.mem_cons]
      by_cases hjk : cmp j k = .eq
      · have hjk' : j = k := Std.LawfulEqCmp.compare_eq_iff_eq.mp hjk
        subst hjk'
        have hnone : m[j]? = none := Std.ExtTreeMap.getElem?_eq_none hfree
        rw [if_pos hjk, hnone]
        constructor
        · rintro (e | ⟨ha, hk⟩)
          · rw [Option.some.injEq] at e
            exact Or.inr ⟨Or.inl e.symm, e ▸ hj⟩
          · exact Or.inr ⟨Or.inr ha, hk⟩
        · rintro (e | ⟨rfl | ha, hk⟩)
          · cases e
          · exact Or.inl rfl
          · exact Or.inr ⟨ha, hk⟩
      · rw [if_neg hjk]
        have hne : ∀ a, key a = .ok k → a ≠ b := by
          rintro a hk rfl
          rw [hj, Except.ok.injEq] at hk
          exact hjk (Std.LawfulEqCmp.compare_eq_iff_eq.mpr hk)
        constructor
        · rintro (e | ⟨ha, hk⟩)
          · exact Or.inl e
          · exact Or.inr ⟨Or.inr ha, hk⟩
        · rintro (e | ⟨e | ha, hk⟩)
          · exact Or.inl e
          · exact absurd e (hne a hk)
          · exact Or.inr ⟨ha, hk⟩

/-- The index of a whole list. -/
theorem indexBy_empty {key : α → Except ε κ} {clash : κ → ε} {l : List α}
    {r : Std.ExtTreeMap κ α cmp} (h : indexBy key clash l ∅ = .ok r) (k : κ) (a : α) :
    r[k]? = some a ↔ a ∈ l ∧ key a = .ok k := by
  rw [indexBy_getElem? h k a]
  simp

theorem indexBy_empty_ok {key : α → Except ε κ} (clash : κ → ε) {l : List α}
    (h : Indexable key l) : ∃ r : Std.ExtTreeMap κ α cmp, indexBy key clash l ∅ = .ok r :=
  indexBy_ok_iff.mpr ⟨h, fun _ _ _ _ => by simp⟩

theorem indexable_of_indexBy {key : α → Except ε κ} {clash : κ → ε} {l : List α}
    {r : Std.ExtTreeMap κ α cmp} (h : indexBy key clash l ∅ = .ok r) : Indexable key l :=
  (indexBy_ok_iff.mp ⟨r, h⟩).1

/-- **The index does not depend on the order of the list.** -/
theorem indexBy_perm {key : α → Except ε κ} {clash : κ → ε} {l l' : List α} (hp : l.Perm l')
    {r : Std.ExtTreeMap κ α cmp} (h : indexBy key clash l ∅ = .ok r) :
    indexBy key clash l' ∅ = .ok r := by
  obtain ⟨r', hr'⟩ : ∃ r' : Std.ExtTreeMap κ α cmp, indexBy key clash l' ∅ = .ok r' :=
    indexBy_empty_ok clash ((indexable_of_indexBy h).perm hp)
  have e : r' = r := by
    refine Std.ExtTreeMap.ext_getElem? fun k => Option.ext fun a => ?_
    rw [indexBy_empty hr', indexBy_empty h, hp.mem_iff]
  rw [hr', e]

/-- A map whose values have its keys is the index of its values. -/
theorem indexBy_values {key : α → Except ε κ} (clash : κ → ε) {m : Std.ExtTreeMap κ α cmp}
    (h : ∀ (k : κ) (a : α), m[k]? = some a → key a = .ok k) :
    indexBy key clash (m.toList.map Prod.snd) ∅ = .ok m := by
  have hmem : ∀ a, a ∈ m.toList.map Prod.snd ↔ ∃ k : κ, m[k]? = some a := by
    intro a
    rw [List.mem_map]
    constructor
    · intro ⟨p, hp, e⟩
      exact ⟨p.1, e ▸ Std.ExtTreeMap.mem_toList_iff_getElem?_eq_some.mp hp⟩
    · intro ⟨k, hk⟩
      exact ⟨(k, a), Std.ExtTreeMap.mem_toList_iff_getElem?_eq_some.mpr hk, rfl⟩
  have hkeyed : ∀ p ∈ m.toList, key p.2 = .ok p.1 :=
    fun p hp => h p.1 p.2 (Std.ExtTreeMap.mem_toList_iff_getElem?_eq_some.mp hp)
  have hindexable : Indexable key (m.toList.map Prod.snd) := by
    refine ⟨fun a ha => ?_, ?_⟩
    · obtain ⟨k, hk⟩ := (hmem a).mp ha
      exact ⟨k, h k a hk⟩
    · rw [List.pairwise_map]
      refine List.Pairwise.imp_of_mem (fun {p q} hp hq hne e => hne ?_)
        (Std.ExtTreeMap.distinct_keys_toList (t := m))
      rw [hkeyed p hp, hkeyed q hq, Except.ok.injEq] at e
      exact Std.LawfulEqCmp.compare_eq_iff_eq.mpr e
  obtain ⟨r, hr⟩ : ∃ r : Std.ExtTreeMap κ α cmp,
      indexBy key clash (m.toList.map Prod.snd) ∅ = .ok r := indexBy_empty_ok clash hindexable
  have e : r = m := by
    refine Std.ExtTreeMap.ext_getElem? fun k => Option.ext fun a => ?_
    rw [indexBy_empty hr, hmem]
    constructor
    · intro ⟨⟨j, hj⟩, hk⟩
      rw [h j a hj, Except.ok.injEq] at hk
      exact hk ▸ hj
    · intro hk
      exact ⟨⟨k, hk⟩, h k a hk⟩
  rw [hr, e]

theorem Indexable.nodup {key : α → Except ε κ} {l : List α} (h : Indexable key l) : l.Nodup :=
  h.distinct.imp fun {_ _} hne e => hne (by rw [e])

/-- The values of the index are the list, in the order of the keys. -/
theorem values_perm_of_indexBy {key : α → Except ε κ} {clash : κ → ε} {l : List α}
    {m : Std.ExtTreeMap κ α cmp} (h : indexBy key clash l ∅ = .ok m) :
    (m.toList.map Prod.snd).Perm l := by
  have hkeys : ∀ (k : κ) (a : α), m[k]? = some a → key a = .ok k :=
    fun k a hk => ((indexBy_empty h k a).mp hk).2
  have hvalues := (indexable_of_indexBy (indexBy_values clash hkeys)).nodup
  refine (List.perm_ext_iff_of_nodup hvalues (indexable_of_indexBy h).nodup).mpr fun a => ?_
  rw [List.mem_map]
  constructor
  · intro ⟨p, hp, e⟩
    have hk := Std.ExtTreeMap.mem_toList_iff_getElem?_eq_some.mp hp
    exact e ▸ ((indexBy_empty h _ _).mp hk).1
  · intro ha
    obtain ⟨k, hk⟩ := (indexable_of_indexBy h).keyed a ha
    have hm := (indexBy_empty h k a).mpr ⟨ha, hk⟩
    exact ⟨(k, a), Std.ExtTreeMap.mem_toList_iff_getElem?_eq_some.mpr hm, rfl⟩

end Index

end Lib
