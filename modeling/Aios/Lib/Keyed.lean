/-
  File:      Aios/Lib/Keyed.lean
  Subject:   Tables as lists of rows under a key: lookup and selection after an append or an update.

  A row is found under its key with `find?` and a group of rows is selected with `filter`. A table
  whose keys differ pairwise finds every row it holds (`find?_of_mem`); an append under a new key keeps
  the keys apart (`pairwise_snoc`), an update that keeps the key maps what is found (`find?_map_key`),
  and a step of both kinds is an `Updated` table.
-/
import Mathlib.Data.List.Forall2
import Mathlib.Data.List.Pairwise

namespace Lib

variable {α κ : Type} [DecidableEq κ] {key : α → κ} {l : List α}

theorem pairwise_snoc {R : α → α → Prop} {x : α} (h : l.Pairwise R) (hx : ∀ p ∈ l, R p x) :
    (l ++ [x]).Pairwise R :=
  List.pairwise_append.mpr ⟨h, List.pairwise_singleton _ _, fun p hp y hy => by
    rw [List.mem_singleton.mp hy]
    exact hx p hp⟩

theorem find?_key_eq {k : κ} {x : α} (h : l.find? (fun a => key a = k) = some x) : key x = k := by
  simpa using List.find?_some h

theorem find?_key_none {k : κ} : l.find? (fun a => key a = k) = none ↔ ∀ a ∈ l, key a ≠ k := by
  simp [List.find?_eq_none]

omit [DecidableEq κ] in
/-- Where keys differ pairwise, equal keys are equal rows. -/
theorem eq_of_key_eq (h : l.Pairwise fun a b => key a ≠ key b) {a b : α} (ha : a ∈ l) (hb : b ∈ l)
    (hab : key a = key b) : a = b := by
  have hsymm : Std.Symm fun a b : α => key a ≠ key b := ⟨fun _ _ h => h.symm⟩
  by_contra hne
  exact h.forall ha hb hne hab

/-- Where keys differ pairwise, a row is what its key finds. -/
theorem find?_of_mem (h : l.Pairwise fun a b => key a ≠ key b) {a : α} (ha : a ∈ l) :
    l.find? (fun b => key b = key a) = some a := by
  cases hfound : l.find? fun b => key b = key a with
  | none => exact absurd rfl (find?_key_none.mp hfound a ha)
  | some b =>
      have hkey := find?_key_eq hfound
      rw [eq_of_key_eq h (List.mem_of_find?_eq_some hfound) ha hkey]

theorem find?_append_fresh {x : α} {k : κ} (hfresh : ∀ a ∈ l, key a ≠ key x) :
    (l ++ [x]).find? (fun a => key a = k) = if key x = k then some x else l.find? fun a => key a = k := by
  rw [List.find?_append]
  by_cases h : key x = k
  · rw [find?_key_none.mpr fun a ha => by rw [← h]; exact hfresh a ha, if_pos h, Option.none_or]
    simp [h]
  · rw [if_neg h]
    simp [h]

/-- An update of the rows that keeps their keys. -/
theorem find?_map_key {f : α → α} (hf : ∀ a, key (f a) = key a) (k : κ) :
    (l.map f).find? (fun a => key a = k) = (l.find? fun a => key a = k).map f := by
  rw [List.find?_map]
  simp only [Function.comp_def, hf]

omit [DecidableEq κ] in
/-- Rows updated under their keys, and at most one row under a new key. -/
structure Updated (key : α → κ) (l : List α) (f : α → α) (new : Option α) (l' : List α) : Prop where
  rows : l' = l.map f ++ new.toList
  keeps : ∀ a, key (f a) = key a
  fresh : ∀ b ∈ new, ∀ a ∈ l, key a ≠ key b

section Update

variable {f : α → α} {new : Option α} {l' : List α}

omit [DecidableEq κ] in
theorem updated_same : Updated key l id none l := ⟨by simp, fun _ => rfl, fun _ h => by cases h⟩

omit [DecidableEq κ] in
theorem key_if {p : α → Prop} [DecidablePred p] (hf : ∀ a, key (f a) = key a) (a : α) :
    key (if p a then f a else a) = key a := by
  by_cases hp : p a
  · rw [if_pos hp]
    exact hf a
  · rw [if_neg hp]

omit [DecidableEq κ] in
theorem updated_map (hf : ∀ a, key (f a) = key a) : Updated key l f none (l.map f) :=
  ⟨by simp, hf, fun _ h => by cases h⟩

omit [DecidableEq κ] in
theorem updated_snoc {x : α} (hx : ∀ a ∈ l, key a ≠ key x) : Updated key l id (some x) (l ++ [x]) :=
  ⟨by simp, fun _ => rfl, fun b hb => by rw [← Option.mem_some_iff.mp hb]; exact hx⟩

omit [DecidableEq κ] in
theorem Updated.mem (h : Updated key l f new l') {b : α} : b ∈ l' ↔ (∃ a ∈ l, f a = b) ∨ b ∈ new := by
  rw [h.rows, List.mem_append, List.mem_map, Option.mem_toList]
  exact Iff.rfl

omit [DecidableEq κ] in
/-- Keys that differ still differ. -/
theorem Updated.pairwise (h : Updated key l f new l') (hl : l.Pairwise fun a b => key a ≠ key b) :
    l'.Pairwise fun a b => key a ≠ key b := by
  have hmap : (l.map f).Pairwise fun a b => key a ≠ key b := by
    rw [List.pairwise_map]
    exact hl.imp fun hab => by rw [h.keeps, h.keeps]; exact hab
  rw [h.rows]
  cases hnew : new with
  | none => simpa using hmap
  | some x =>
      refine pairwise_snoc hmap fun b hb => ?_
      obtain ⟨a, ha, e⟩ := List.mem_map.mp hb
      rw [← e, h.keeps]
      exact h.fresh x hnew a ha

end Update

theorem filter_append_key {x : α} {k : κ} :
    (l ++ [x]).filter (fun a => key a = k) =
      if key x = k then l.filter (fun a => key a = k) ++ [x] else l.filter fun a => key a = k := by
  rw [List.filter_append]
  by_cases h : key x = k
  · simp [h]
  · simp [h]

section Paired

variable {β : Type} {P : α → β → Prop} {m : List β}

theorem exists_right_of_forall₂ (h : List.Forall₂ P l m) {a : α} (ha : a ∈ l) : ∃ b ∈ m, P a b := by
  induction h with
  | nil => cases ha
  | cons hab _ ih =>
      rcases List.mem_cons.mp ha with rfl | ha
      · exact ⟨_, List.mem_cons_self, hab⟩
      · obtain ⟨b, hb, hp⟩ := ih ha
        exact ⟨b, List.mem_cons_of_mem _ hb, hp⟩

theorem exists_left_of_forall₂ (h : List.Forall₂ P l m) {b : β} (hb : b ∈ m) : ∃ a ∈ l, P a b :=
  exists_right_of_forall₂ h.flip hb

end Paired

end Lib
