/-
  File:      Aios/Lib/HashChain.lean
  Subject:   A HASH CHAIN PINS ITS RECORDS.

  Each record names the hash of the one before it, the first names none. Where equal hashes mean
  the same record, two chains with one head are the same, record by record (`pinned`): the argument
  goes from the head back to the first record.
-/
import Mathlib.Data.List.Forall2
import Mathlib.Data.List.Induction

namespace Lib.HashChain

variable {R H : Type} (hash : R → H) (previous : R → Option H)

/-- The records form a chain from this hash on. -/
def Linked : Option H → List R → Prop
  | _, [] => True
  | start, r :: rest => previous r = start ∧ Linked (some (hash r)) rest

/-- The hash at the end of a chain. -/
def head : Option H → List R → Option H
  | start, [] => start
  | _, r :: rest => head (some (hash r)) rest

variable {hash previous}

theorem head_concat (start : Option H) (l : List R) (r : R) :
    head hash start (l ++ [r]) = some (hash r) := by
  induction l generalizing start with
  | nil => rfl
  | cons x l ih => exact ih (some (hash x))

theorem linked_append {start : Option H} {l r : List R} :
    Linked hash previous start (l ++ r) ↔
      Linked hash previous start l ∧ Linked hash previous (head hash start l) r := by
  induction l generalizing start with
  | nil => simp [Linked, head]
  | cons x l ih =>
      rw [List.cons_append, Linked, Linked, head, ih, and_assoc]

/-- The last record of a chain names the head of what stands before it. -/
theorem linked_concat {start : Option H} {l : List R} {r : R} :
    Linked hash previous start (l ++ [r]) ↔
      Linked hash previous start l ∧ previous r = head hash start l := by
  rw [linked_append, Linked, Linked, and_true]

/-- **Two chains with one head are the same record by record.** -/
theorem pinned {Same : R → R → Prop} {l r : List R}
    (hprevious : ∀ a b, Same a b → previous a = previous b)
    (hhash : ∀ a ∈ l, ∀ b ∈ r, hash a = hash b → Same a b)
    (hl : Linked hash previous none l) (hr : Linked hash previous none r)
    (hhead : head hash none l = head hash none r) : List.Forall₂ Same l r := by
  -- from the head back: the last records are the same, so they name the same hash before them
  induction l using List.reverseRecOn generalizing r with
  | nil =>
      rcases r.eq_nil_or_concat' with e | ⟨r', b, e⟩
      · rw [e]
        exact .nil
      · rw [e, head_concat] at hhead
        cases hhead
  | append_singleton l a ih =>
      rcases r.eq_nil_or_concat' with e | ⟨r', b, e⟩
      · rw [e, head_concat] at hhead
        cases hhead
      · subst e
        rw [head_concat, head_concat] at hhead
        obtain ⟨hl, hla⟩ := linked_concat.mp hl
        obtain ⟨hr, hrb⟩ := linked_concat.mp hr
        have hsame : Same a b := hhash a (by simp) b (by simp) (Option.some.inj hhead)
        have hbefore : head hash none l = head hash none r' := by
          rw [← hla, ← hrb]
          exact hprevious a b hsame
        have hrest := ih (fun x hx y hy => hhash x (List.mem_append_left _ hx) y
          (List.mem_append_left _ hy)) hl hr hbefore
        exact List.rel_append hrest (.cons hsame .nil)

end Lib.HashChain
