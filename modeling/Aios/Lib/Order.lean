/-
  File:      Aios/Lib/Order.lean
  Subject:   Orders on keys, stable sorting by a key, and the UTF-16 order of texts.

  `sortOn key l` is the stable sort by a key in a linear order. Where equal keys mean equal
  elements, two sorted lists are equal exactly when the lists are permutations of one another
  (`sortOn_eq_iff_perm`); that is what makes sorting a normal form. The UTF-16 units of a text
  determine it (`utf16_injective`), so the order of the units is an order of the texts.
-/
import Std.Data.ExtTreeMap
import Mathlib.Data.List.Sort
import Mathlib.Data.List.Perm.Basic
import Mathlib.Data.String.Basic
import Mathlib.Order.Compare

namespace Lib

/-! ## 1. Pairs -/

/-- First component, then second. -/
def lexCmp {α β : Type} [Ord α] [Ord β] : α × β → α × β → Ordering :=
  compareLex (compareOn Prod.fst) (compareOn Prod.snd)

instance {α β : Type} [Ord α] [Ord β] [Std.TransOrd α] [Std.TransOrd β] :
    Std.TransCmp (lexCmp : α × β → α × β → Ordering) :=
  inferInstanceAs (Std.TransCmp (compareLex (compareOn Prod.fst) (compareOn Prod.snd)))

instance {α β : Type} [Ord α] [Ord β] [Std.LawfulEqOrd α] [Std.LawfulEqOrd β] :
    Std.LawfulEqCmp (lexCmp : α × β → α × β → Ordering) where
  compare_self {a} := by
    have h1 : compare a.1 a.1 = .eq := Std.ReflCmp.compare_self
    have h2 : compare a.2 a.2 = .eq := Std.ReflCmp.compare_self
    show (compare a.1 a.1).then (compare a.2 a.2) = .eq
    rw [h1, h2]
    rfl
  eq_of_compare {a b} h := by
    have h' : (compare a.1 b.1).then (compare a.2 b.2) = .eq := h
    rw [Ordering.then_eq_eq] at h'
    exact Prod.ext (Std.LawfulEqCmp.eq_of_compare h'.1) (Std.LawfulEqCmp.eq_of_compare h'.2)

/-! ## 2. Sorting by a key -/

section Sorting

variable {α β κ : Type} [LinearOrder κ]

/-- The stable sort by a key. -/
def sortOn (key : α → κ) (l : List α) : List α := l.insertionSort fun a b => key a ≤ key b

theorem sortOn_perm (key : α → κ) (l : List α) : (sortOn key l).Perm l :=
  List.perm_insertionSort _ l

theorem sortOn_pairwise (key : α → κ) (l : List α) :
    (sortOn key l).Pairwise fun a b => key a ≤ key b := by
  have htotal : Std.Total fun a b : α => key a ≤ key b := ⟨fun a b => le_total (key a) (key b)⟩
  have htrans : IsTrans α fun a b => key a ≤ key b := ⟨fun _ _ _ => le_trans⟩
  exact List.pairwise_insertionSort _ l

/-- **Sorting is a normal form up to permutation**, where equal keys mean equal elements. -/
theorem sortOn_eq_iff_perm {key : α → κ} {l r : List α}
    (hkey : ∀ a ∈ l, ∀ b ∈ l, key a = key b → a = b) :
    sortOn key l = sortOn key r ↔ l.Perm r := by
  constructor
  · intro h
    have hr := sortOn_perm key r
    rw [← h] at hr
    exact (sortOn_perm key l).symm.trans hr
  · intro h
    have hperm := (sortOn_perm key l).trans (h.trans (sortOn_perm key r).symm)
    refine List.Perm.eq_of_pairwise (fun a b ha hb hab hba => ?_) (sortOn_pairwise key l)
      (sortOn_pairwise key r) hperm
    have ha : a ∈ l := (sortOn_perm key l).mem_iff.mp ha
    have hb : b ∈ l := (sortOn_perm key l).mem_iff.mp (hperm.mem_iff.mpr hb)
    exact hkey a ha b hb (le_antisymm hab hba)

/-- Elements with rising keys are the sorted list of their permutations. -/
theorem sortOn_eq_of_rising {key : α → κ} {l r : List α} (hperm : l.Perm r)
    (h : r.Pairwise fun a b => key a < key b) : sortOn key l = r := by
  have hnodup : (r.map key).Nodup := List.pairwise_map.mpr (h.imp fun hab => ne_of_lt hab)
  have hsorted : r.Pairwise fun a b => key a ≤ key b := h.imp fun hab => le_of_lt hab
  have hall := (sortOn_perm key l).trans hperm
  refine List.Perm.eq_of_pairwise (fun a b ha hb hab hba => ?_) (sortOn_pairwise key l) hsorted hall
  exact List.inj_on_of_nodup_map hnodup (hall.mem_iff.mp ha) hb (le_antisymm hab hba)

/-- A selection of elements with rising keys is sorted by selecting from the sorted list. -/
theorem sortOn_filter {key : α → κ} {l : List α} (p : α → Bool)
    (h : (sortOn key l).Pairwise fun a b => key a < key b) :
    sortOn key (l.filter p) = (sortOn key l).filter p :=
  sortOn_eq_of_rising ((sortOn_perm key l).symm.filter p) (h.sublist List.filter_sublist)

/-- Where keys rise, the elements above one of them are those behind it. -/
theorem filter_above {key : α → κ} {front back : List α} {a : α}
    (h : (front ++ a :: back).Pairwise fun x y => key x < key y) :
    (front ++ a :: back).filter (fun x => key a < key x) = back := by
  obtain ⟨_, hback, hcross⟩ := List.pairwise_append.mp h
  have hfront : front.filter (fun x => key a < key x) = [] := by
    refine List.filter_eq_nil_iff.mpr fun x hx => ?_
    have hlt := hcross x hx a List.mem_cons_self
    simpa using le_of_lt hlt
  have hrest : back.filter (fun x => key a < key x) = back := by
    refine List.filter_eq_self.mpr fun x hx => ?_
    exact decide_eq_true ((List.pairwise_cons.mp hback).1 x hx)
  rw [List.filter_append, hfront, List.filter_cons_of_neg (by simp), hrest, List.nil_append]

/-- Where keys rise, the elements up to one of them are those before it and itself. -/
theorem filter_upTo {key : α → κ} {front back : List α} {a : α}
    (h : (front ++ a :: back).Pairwise fun x y => key x < key y) :
    (front ++ a :: back).filter (fun x => key x ≤ key a) = front ++ [a] := by
  obtain ⟨_, hback, hcross⟩ := List.pairwise_append.mp h
  have hfront : front.filter (fun x => key x ≤ key a) = front := by
    refine List.filter_eq_self.mpr fun x hx => ?_
    exact decide_eq_true (le_of_lt (hcross x hx a List.mem_cons_self))
  have hrest : back.filter (fun x => key x ≤ key a) = [] := by
    refine List.filter_eq_nil_iff.mpr fun x hx => ?_
    have hlt := (List.pairwise_cons.mp hback).1 x hx
    simpa using hlt
  rw [List.filter_append, hfront, List.filter_cons_of_pos (by simp), hrest]

/-- Sorting images by the key of the image. -/
theorem sortOn_map (key : β → κ) (f : α → β) (l : List α) :
    sortOn key (l.map f) = (sortOn (fun a => key (f a)) l).map f := by
  unfold sortOn
  rw [List.map_insertionSort _ (fun a b => key a ≤ key b) f l fun _ _ _ _ => Iff.rfl]

/-- Keys that compare alike sort alike. -/
theorem sortOn_congr {ι : Type} [LinearOrder ι] {key : α → κ} {key' : α → ι}
    (h : ∀ a b, key a ≤ key b ↔ key' a ≤ key' b) (l : List α) : sortOn key l = sortOn key' l := by
  unfold sortOn
  simp only [h]

theorem orderedInsert_forall₂ {R : α → β → Prop} {ka : α → κ} {kb : β → κ}
    (hR : ∀ a b, R a b → ka a = kb b) {x : α} {y : β} (hxy : R x y) {l : List α} {r : List β}
    (h : List.Forall₂ R l r) :
    List.Forall₂ R (l.orderedInsert (fun a b => ka a ≤ ka b) x)
      (r.orderedInsert (fun a b => kb a ≤ kb b) y) := by
  induction h with
  | nil => exact .cons hxy .nil
  | @cons a b l r hab hlr ih =>
      have hiff : ka x ≤ ka a ↔ kb y ≤ kb b := by rw [hR x y hxy, hR a b hab]
      rw [List.orderedInsert_cons, List.orderedInsert_cons]
      by_cases hle : ka x ≤ ka a
      · rw [if_pos hle, if_pos (hiff.mp hle)]
        exact .cons hxy (.cons hab hlr)
      · rw [if_neg hle, if_neg fun h' => hle (hiff.mpr h')]
        exact .cons hab ih

/-- Sorting keeps a pairing of two lists that respects the keys. -/
theorem sortOn_forall₂ {R : α → β → Prop} {ka : α → κ} {kb : β → κ}
    (hR : ∀ a b, R a b → ka a = kb b) {l : List α} {r : List β} (h : List.Forall₂ R l r) :
    List.Forall₂ R (sortOn ka l) (sortOn kb r) := by
  induction h with
  | nil => exact .nil
  | cons hab _ ih =>
      unfold sortOn
      rw [List.insertionSort_cons, List.insertionSort_cons]
      exact orderedInsert_forall₂ hR hab ih

end Sorting

/-! ## 3. The UTF-16 order -/

/-- The UTF-16 units of a character: one, or a surrogate pair. -/
def utf16Units (c : Char) : List Nat :=
  if c.toNat < 0x10000 then [c.toNat]
  else [0xD800 + (c.toNat - 0x10000) / 0x400, 0xDC00 + (c.toNat - 0x10000) % 0x400]

/-- The UTF-16 units of a text. -/
def utf16 (s : String) : List Nat := s.toList.flatMap utf16Units

/-- A character outside the surrogate range stands for itself. -/
theorem toNat_not_surrogate (c : Char) : c.toNat < 0xD800 ∨ 0xE000 ≤ c.toNat := by
  rcases c.valid with h | h
  · exact Or.inl h
  · exact Or.inr (Nat.lt_iff_add_one_le.mp h.1)

/-- The units of a character are no proper beginning of another's, and determine it. -/
theorem utf16Units_append_inj {c d : Char} {l r : List Nat}
    (h : utf16Units c ++ l = utf16Units d ++ r) : c = d ∧ l = r := by
  have hmax : ∀ e : Char, e.toNat < 0x110000 := by
    intro e
    rcases e.valid with he | he
    · exact Nat.lt_trans he (by decide)
    · exact he.2
  have hc := toNat_not_surrogate c
  have hd := toNat_not_surrogate d
  have hcm := hmax c
  have hdm := hmax d
  unfold utf16Units at h
  by_cases h1 : c.toNat < 0x10000
  · by_cases h2 : d.toNat < 0x10000
    · rw [if_pos h1, if_pos h2] at h
      simp only [List.cons_append, List.nil_append, List.cons.injEq] at h
      exact ⟨Char.toNat_inj.mp h.1, h.2⟩
    · -- a unit of its own is no surrogate
      rw [if_pos h1, if_neg h2] at h
      simp only [List.cons_append, List.nil_append, List.cons.injEq] at h
      omega
  · by_cases h2 : d.toNat < 0x10000
    · rw [if_neg h1, if_pos h2] at h
      simp only [List.cons_append, List.nil_append, List.cons.injEq] at h
      omega
    · rw [if_neg h1, if_neg h2] at h
      simp only [List.cons_append, List.nil_append, List.cons.injEq] at h
      exact ⟨Char.toNat_inj.mp (by omega), h.2.2⟩

theorem utf16_flatMap_inj : ∀ {l r : List Char},
    l.flatMap utf16Units = r.flatMap utf16Units → l = r
  | [], [], _ => rfl
  | [], d :: r, h => by
      unfold utf16Units at h
      rw [List.flatMap_cons] at h
      split at h <;> simp at h
  | c :: l, [], h => by
      unfold utf16Units at h
      rw [List.flatMap_cons] at h
      split at h <;> simp at h
  | c :: l, d :: r, h => by
      rw [List.flatMap_cons, List.flatMap_cons] at h
      obtain ⟨hcd, hrest⟩ := utf16Units_append_inj h
      rw [hcd, utf16_flatMap_inj hrest]

/-- **The units determine the text.** -/
theorem utf16_injective {s t : String} (h : utf16 s = utf16 t) : s = t :=
  String.toList_injective (utf16_flatMap_inj h)

end Lib
