/-
  File:      Aios/Lib/Json.lean
  Subject:   JSON VALUES WITH SORTED OBJECTS, and the edits a normaliser makes on them.

  An object is a list of members kept in strictly rising key order (`Sorted`), the reading of a
  map that iterates in key order. Two sorted objects with the same lookups are the same list
  (`ext_lookup`), so an equation between objects is an equation between lookups, key by key:

  * `insertMember`, `members` -- building an object from fields, an absent field (`none`) being
    left out;
  * `removeMember`, `modifyMember`, `mapValues` -- the edits, each with its lookup law and its `Sorted` law;
  * `ofTree` -- a key-ordered map written as an object.
-/
import Std.Data.ExtTreeMap
import Mathlib.Data.String.Basic
import Mathlib.Data.List.Basic
import Mathlib.Order.Compare

namespace Lib

/-- A JSON number in the three forms a decoder keeps apart: an unsigned, a negative, a binary64. -/
inductive Number where
  | posInt (n : Nat)
  | negInt (n : Int)
  | float (bits : BitVec 64)
  deriving DecidableEq, Repr

/-- A JSON value; the members of an object stand in key order (`Json.Sorted`). -/
inductive Json where
  | null
  | bool (b : Bool)
  | num (n : Number)
  | str (s : String)
  | arr (elems : List Json)
  | obj (members : List (String × Json))

namespace Json

/-! ## 1. Decidable equality -/

mutual

/-- Equality of two values, decided along their structure. -/
def decEq : (a b : Json) → Decidable (a = b)
  | .null, .null => isTrue rfl
  | .bool a, .bool b => decidable_of_iff (a = b) (by simp)
  | .num a, .num b => decidable_of_iff (a = b) (by simp)
  | .str a, .str b => decidable_of_iff (a = b) (by simp)
  | .arr a, .arr b => @decidable_of_iff _ (a = b) (by simp) (decEqList a b)
  | .obj a, .obj b => @decidable_of_iff _ (a = b) (by simp) (decEqMembers a b)
  | .null, .bool _ | .null, .num _ | .null, .str _ | .null, .arr _ | .null, .obj _
  | .bool _, .null | .bool _, .num _ | .bool _, .str _ | .bool _, .arr _ | .bool _, .obj _
  | .num _, .null | .num _, .bool _ | .num _, .str _ | .num _, .arr _ | .num _, .obj _
  | .str _, .null | .str _, .bool _ | .str _, .num _ | .str _, .arr _ | .str _, .obj _
  | .arr _, .null | .arr _, .bool _ | .arr _, .num _ | .arr _, .str _ | .arr _, .obj _
  | .obj _, .null | .obj _, .bool _ | .obj _, .num _ | .obj _, .str _ | .obj _, .arr _ =>
      isFalse (by simp)

def decEqList : (a b : List Json) → Decidable (a = b)
  | [], [] => isTrue rfl
  | [], _ :: _ | _ :: _, [] => isFalse (by simp)
  | x :: xs, y :: ys =>
      match decEq x y, decEqList xs ys with
      | isTrue h, isTrue hs => isTrue (by rw [h, hs])
      | isFalse h, _ => isFalse fun e => h (List.cons.inj e).1
      | _, isFalse hs => isFalse fun e => hs (List.cons.inj e).2

def decEqMembers : (a b : List (String × Json)) → Decidable (a = b)
  | [], [] => isTrue rfl
  | [], _ :: _ | _ :: _, [] => isFalse (by simp)
  | (k, x) :: xs, (l, y) :: ys =>
      match decEq x y, decEqMembers xs ys with
      | isTrue h, isTrue hs => decidable_of_iff (k = l) (by rw [h, hs]; simp)
      | isFalse h, _ => isFalse fun e => h (Prod.mk.inj (List.cons.inj e).1).2
      | _, isFalse hs => isFalse fun e => hs (List.cons.inj e).2

end

instance : DecidableEq Json := decEq

/-! ## 2. Reading a value -/

/-- The text of a string value. -/
def asStr : Json → Option String
  | .str s => some s
  | _ => none

/-- The elements of an array value. -/
def asArr : Json → Option (List Json)
  | .arr l => some l
  | _ => none

/-- The members of an object value. -/
def asObj : Json → Option (List (String × Json))
  | .obj l => some l
  | _ => none

/-- The member of an object under a key. -/
def get? (v : Json) (k : String) : Option Json := v.asObj.bind fun l => l.lookup k

mutual

/-- No number of the value is a binary64. -/
def floatFree : Json → Bool
  | .num (.float _) => false
  | .arr elems => elementsFloatFree elems
  | .obj members => membersFloatFree members
  | _ => true

@[inherit_doc floatFree]
def elementsFloatFree : List Json → Bool
  | [] => true
  | v :: rest => floatFree v && elementsFloatFree rest

@[inherit_doc floatFree]
def membersFloatFree : List (String × Json) → Bool
  | [] => true
  | (_, v) :: rest => floatFree v && membersFloatFree rest

end

/-! ## 3. Members in key order -/

/-- The keys rise strictly: each occurs once. -/
def Sorted (l : List (String × Json)) : Prop := (l.map Prod.fst).Pairwise (· < ·)

/-- Inserts a member at its place, replacing one under the same key. -/
def insertMember (k : String) (v : Json) : List (String × Json) → List (String × Json)
  | [] => [(k, v)]
  | (l, w) :: rest =>
      if k < l then (k, v) :: (l, w) :: rest
      else if k = l then (k, v) :: rest
      else (l, w) :: insertMember k v rest

/-- The members of a record: present fields under their keys, absent ones left out. -/
def members : List (String × Option Json) → List (String × Json)
  | [] => []
  | (k, some v) :: fs => insertMember k v (members fs)
  | (_, none) :: fs => members fs

/-- A record written as an object. -/
def ofFields (fs : List (String × Option Json)) : Json := .obj (members fs)

/-- A key-ordered map written as an object. -/
def ofTree {α : Type} (f : α → Json) (t : Std.ExtTreeMap String α) : Json :=
  .obj (t.toList.map fun p => (p.1, f p.2))

/-- Drops the member under a key. -/
def removeMember (k : String) (l : List (String × Json)) : List (String × Json) :=
  l.filter fun p => p.1 ≠ k

/-- Drops the member under a key when it is bad. -/
def removeIf (k : String) (bad : Json → Bool) (l : List (String × Json)) : List (String × Json) :=
  if (l.lookup k).any bad then removeMember k l else l

/-- Edits the member under a key, if there is one. -/
def modifyMember (k : String) (f : Json → Json) (l : List (String × Json)) : List (String × Json) :=
  l.map fun p => if p.1 = k then (p.1, f p.2) else p

/-- Edits every member. -/
def mapValues (f : Json → Json) (l : List (String × Json)) : List (String × Json) :=
  l.map fun p => (p.1, f p.2)

/-! ### Lookup laws -/

theorem lookup_cons_ite {β : Type} (a k : String) (v : β) (l : List (String × β)) :
    ((k, v) :: l).lookup a = if a = k then some v else l.lookup a := by
  by_cases h : a = k
  · subst h; simp
  · have hne : (a == k) = false := by simpa using h
    rw [List.lookup_cons, hne, if_neg h]

theorem lookup_insertMember (a k : String) (v : Json) (l : List (String × Json)) :
    (insertMember k v l).lookup a = if a = k then some v else l.lookup a := by
  induction l with
  | nil => by_cases h : a = k <;> simp [insertMember, lookup_cons_ite, h]
  | cons p l ih =>
      obtain ⟨m, w⟩ := p
      unfold insertMember
      by_cases hk : k < m
      · by_cases h : a = k <;> simp [hk, lookup_cons_ite, h]
      · by_cases he : k = m
        · subst he
          by_cases h : a = k <;> simp [lookup_cons_ite, h]
        · simp only [hk, he, if_false, lookup_cons_ite, ih]
          by_cases hm : a = m
          · subst hm
            simp [Ne.symm he]
          · simp [hm]

/-- A field is found under its key; behind an absent one the search goes on. -/
@[simp] theorem lookup_members_cons (a k : String) (o : Option Json)
    (fs : List (String × Option Json)) :
    (members ((k, o) :: fs)).lookup a =
      if a = k then o.or ((members fs).lookup a) else (members fs).lookup a := by
  cases o with
  | none => simp [members]
  | some v => rw [members, lookup_insertMember]; by_cases h : a = k <;> simp [h]

@[simp] theorem lookup_members_nil (a : String) : (members []).lookup a = none := rfl

@[simp] theorem lookup_removeMember (a k : String) (l : List (String × Json)) :
    (removeMember k l).lookup a = if a = k then none else l.lookup a := by
  induction l with
  | nil => simp [removeMember]
  | cons p l ih =>
      obtain ⟨m, w⟩ := p
      by_cases hm : m = k
      · subst hm
        have e : removeMember m ((m, w) :: l) = removeMember m l := by simp [removeMember]
        rw [e, ih, lookup_cons_ite]
        by_cases h : a = m <;> simp [h]
      · have e : removeMember k ((m, w) :: l) = (m, w) :: removeMember k l := by simp [removeMember, hm]
        rw [e, lookup_cons_ite, lookup_cons_ite, ih]
        by_cases h : a = m
        · subst h; simp [hm]
        · simp [h]

@[simp] theorem lookup_modifyMember (a k : String) (f : Json → Json) (l : List (String × Json)) :
    (modifyMember k f l).lookup a = if a = k then (l.lookup a).map f else l.lookup a := by
  induction l with
  | nil => simp [modifyMember]
  | cons p l ih =>
      obtain ⟨m, w⟩ := p
      have e : modifyMember k f ((m, w) :: l) = (m, if m = k then f w else w) :: modifyMember k f l := by
        by_cases hm : m = k <;> simp [modifyMember, hm]
      rw [e, lookup_cons_ite, lookup_cons_ite, ih]
      by_cases h : a = m
      · subst h
        by_cases hk : a = k <;> simp [hk]
      · simp [h]

@[simp] theorem lookup_mapValues (a : String) (f : Json → Json) (l : List (String × Json)) :
    (mapValues f l).lookup a = (l.lookup a).map f := by
  induction l with
  | nil => rfl
  | cons p l ih =>
      obtain ⟨m, w⟩ := p
      have e : mapValues f ((m, w) :: l) = (m, f w) :: mapValues f l := rfl
      rw [e, lookup_cons_ite, lookup_cons_ite, ih]
      by_cases h : a = m <;> simp [h]

/-! ### Order laws -/

theorem mem_keys_insertMember {k a : String} {v : Json} {l : List (String × Json)}
    (h : a ∈ (insertMember k v l).map Prod.fst) : a = k ∨ a ∈ l.map Prod.fst := by
  induction l with
  | nil => simpa [insertMember] using h
  | cons p l ih =>
      obtain ⟨m, w⟩ := p
      unfold insertMember at h
      split at h
      · simpa using h
      · split at h
        · rename_i he
          subst he
          simp only [List.map_cons, List.mem_cons] at h ⊢
          exact h.imp id Or.inr
        · simp only [List.map_cons, List.mem_cons] at h ⊢
          rcases h with h | h
          · exact Or.inr (Or.inl h)
          · exact (ih h).imp id Or.inr

theorem keys_insertMember {k a : String} {v : Json} {l : List (String × Json)} :
    a ∈ (insertMember k v l).map Prod.fst ↔ a = k ∨ a ∈ l.map Prod.fst := by
  refine ⟨mem_keys_insertMember, fun h => ?_⟩
  induction l with
  | nil => simpa [insertMember] using h
  | cons p l ih =>
      obtain ⟨m, w⟩ := p
      unfold insertMember
      split
      · simpa using h
      · split
        · rename_i he
          subst he
          simpa using h
        · simp only [List.map_cons, List.mem_cons] at h ⊢
          rcases h with h | h | h
          · exact Or.inr (ih (Or.inl h))
          · exact Or.inl h
          · exact Or.inr (ih (Or.inr h))

theorem sorted_insertMember (k : String) (v : Json) {l : List (String × Json)} (h : Sorted l) :
    Sorted (insertMember k v l) := by
  induction l with
  | nil => simp [insertMember, Sorted]
  | cons p l ih =>
      obtain ⟨m, w⟩ := p
      simp only [Sorted, List.map_cons, List.pairwise_cons] at h
      unfold insertMember
      split
      · rename_i hk
        simp only [Sorted, List.map_cons, List.pairwise_cons, List.mem_cons]
        refine ⟨fun a ha => ?_, h⟩
        rcases ha with rfl | ha
        · exact hk
        · exact lt_trans hk (h.1 a ha)
      · rename_i hk
        split
        · rename_i he
          subst he
          simpa [Sorted] using h
        · rename_i he
          simp only [Sorted, List.map_cons, List.pairwise_cons]
          refine ⟨fun a ha => ?_, ih h.2⟩
          rcases mem_keys_insertMember ha with rfl | ha
          · exact lt_of_le_of_ne (not_lt.mp hk) (Ne.symm he)
          · exact h.1 a ha

theorem sorted_members : ∀ fs : List (String × Option Json), Sorted (members fs)
  | [] => List.Pairwise.nil
  | (_, some _) :: fs => sorted_insertMember _ _ (sorted_members fs)
  | (_, none) :: fs => sorted_members fs

theorem sorted_removeMember (k : String) {l : List (String × Json)} (h : Sorted l) :
    Sorted (removeMember k l) :=
  List.Pairwise.sublist (List.filter_sublist.map Prod.fst) h

theorem sorted_modifyMember (k : String) (f : Json → Json) {l : List (String × Json)} (h : Sorted l) :
    Sorted (modifyMember k f l) := by
  have e : (modifyMember k f l).map Prod.fst = l.map Prod.fst := by
    unfold modifyMember
    rw [List.map_map]
    refine List.map_congr_left fun p _ => ?_
    by_cases hp : p.1 = k <;> simp [hp]
  rw [Sorted, e]
  exact h

/-- A key below every key of a sorted list is not found in it. -/
theorem lookup_eq_none_of_lt {k : String} {l : List (String × Json)}
    (h : ∀ a ∈ l.map Prod.fst, k < a) : l.lookup k = none := by
  rw [List.lookup_eq_none_iff]
  intro p hp
  have : k < p.1 := h p.1 (List.mem_map_of_mem hp)
  simpa using (ne_of_lt this)

/-- **Two sorted objects with the same lookups are the same list.** -/
theorem ext_lookup {l r : List (String × Json)} (hl : Sorted l) (hr : Sorted r)
    (h : ∀ k, l.lookup k = r.lookup k) : l = r := by
  induction l generalizing r with
  | nil =>
      cases r with
      | nil => rfl
      | cons q r => have := h q.1; rw [lookup_cons_ite] at this; simp at this
  | cons p l ih =>
      cases r with
      | nil => have := h p.1; rw [lookup_cons_ite] at this; simp at this
      | cons q r =>
          obtain ⟨a, v⟩ := p
          obtain ⟨b, w⟩ := q
          simp only [Sorted, List.map_cons, List.pairwise_cons] at hl hr
          -- the least keys agree: a smaller one would be found on one side only
          have hab : a = b := by
            rcases lt_trichotomy a b with hlt | he | hlt
            · have h1 := h a
              rw [lookup_eq_none_of_lt (l := (b, w) :: r)] at h1
              · rw [lookup_cons_ite] at h1; simp at h1
              · intro c hc
                rcases List.mem_cons.mp hc with rfl | hc
                · exact hlt
                · exact lt_trans hlt (hr.1 c hc)
            · exact he
            · have h1 := h b
              rw [lookup_eq_none_of_lt (l := (a, v) :: l)] at h1
              · rw [lookup_cons_ite] at h1; simp at h1
              · intro c hc
                rcases List.mem_cons.mp hc with rfl | hc
                · exact hlt
                · exact lt_trans hlt (hl.1 c hc)
          subst hab
          have hv : v = w := by
            have h1 := h a
            rw [lookup_cons_ite, lookup_cons_ite, if_pos rfl, if_pos rfl] at h1
            exact Option.some.inj h1
          subst hv
          have hrest : l = r := ih hl.2 hr.2 fun k => by
            by_cases hk : k = a
            · subst hk
              rw [lookup_eq_none_of_lt hl.1, lookup_eq_none_of_lt hr.1]
            · have h1 := h k
              rw [lookup_cons_ite, lookup_cons_ite, if_neg hk, if_neg hk] at h1
              exact h1
          rw [hrest]

/-! ### Edits of records -/

/-- Dropping a member of a record is leaving its field out. -/
theorem removeMember_members (k : String) (fs : List (String × Option Json)) :
    removeMember k (members fs) = members (fs.filter fun p => p.1 ≠ k) := by
  refine ext_lookup (sorted_removeMember k (sorted_members fs)) (sorted_members _) fun a => ?_
  rw [lookup_removeMember]
  induction fs with
  | nil => simp
  | cons p fs ih =>
      obtain ⟨m, o⟩ := p
      by_cases hm : m = k
      · subst hm
        rw [List.filter_cons_of_neg (by simp), ← ih, lookup_members_cons]
        by_cases ha : a = m <;> simp [ha]
      · rw [List.filter_cons_of_pos (by simpa using hm), lookup_members_cons, lookup_members_cons,
          ← ih]
        by_cases ha : a = m
        · subst ha
          simp [hm]
        · simp [ha]

/-- Editing a member of a record is editing its field. -/
theorem modifyMember_members (k : String) (f : Json → Json) (fs : List (String × Option Json)) :
    modifyMember k f (members fs) =
      members (fs.map fun p => if p.1 = k then (p.1, p.2.map f) else p) := by
  refine ext_lookup (sorted_modifyMember k f (sorted_members fs)) (sorted_members _) fun a => ?_
  rw [lookup_modifyMember]
  induction fs with
  | nil => simp
  | cons p fs ih =>
      obtain ⟨m, o⟩ := p
      by_cases hm : m = k
      · subst hm
        rw [List.map_cons, if_pos rfl, lookup_members_cons, lookup_members_cons, ← ih]
        by_cases ha : a = m
        · subst ha
          cases o <;> simp
        · simp [ha]
      · rw [List.map_cons, if_neg hm, lookup_members_cons, lookup_members_cons, ← ih]
        by_cases ha : a = m
        · subst ha
          simp [hm]
        · simp [ha]

/-- A key that names no field is not found. -/
theorem lookup_members_none {a : String} {fs : List (String × Option Json)}
    (h : a ∉ fs.map Prod.fst) : (members fs).lookup a = none := by
  induction fs with
  | nil => rfl
  | cons p fs ih =>
      obtain ⟨m, o⟩ := p
      rw [List.map_cons, List.mem_cons, not_or] at h
      rw [lookup_members_cons, if_neg h.1, ih h.2]

/-- The field of a key that occurs once is the one found. -/
theorem lookup_field {k : String} {fs gs : List (String × Option Json)} (o : Option Json)
    (hfs : k ∉ fs.map Prod.fst) (hgs : k ∉ gs.map Prod.fst) :
    (members (fs ++ (k, o) :: gs)).lookup k = o := by
  induction fs with
  | nil =>
      rw [List.nil_append, lookup_members_cons, if_pos rfl, lookup_members_none hgs]
      simp
  | cons p fs ih =>
      obtain ⟨m, q⟩ := p
      rw [List.map_cons, List.mem_cons, not_or] at hfs
      rw [List.cons_append, lookup_members_cons, if_neg hfs.1, ih hfs.2]

/-- An absent field leaves no trace. -/
theorem members_absent (k : String) (fs gs : List (String × Option Json)) :
    members (fs ++ (k, none) :: gs) = members (fs ++ gs) := by
  induction fs with
  | nil => rfl
  | cons p fs ih =>
      obtain ⟨m, o⟩ := p
      cases o with
      | none => exact ih
      | some v =>
          rw [List.cons_append, List.cons_append, members, members, ih]

/-- Dropping the member of a key that occurs once makes its field absent. -/
theorem removeMember_field {k : String} {fs gs : List (String × Option Json)} (o : Option Json)
    (hfs : k ∉ fs.map Prod.fst) (hgs : k ∉ gs.map Prod.fst) :
    removeMember k (members (fs ++ (k, o) :: gs)) = members (fs ++ (k, none) :: gs) := by
  have hkeep : ∀ l : List (String × Option Json), k ∉ l.map Prod.fst →
      (l.filter fun p => decide (p.1 ≠ k)) = l := by
    intro l hl
    refine List.filter_eq_self.mpr fun p hp => ?_
    have hne : p.1 ≠ k := fun e => hl (e ▸ List.mem_map_of_mem hp)
    simpa using hne
  rw [removeMember_members, List.filter_append, List.filter_cons_of_neg (by simp), hkeep fs hfs,
    hkeep gs hgs, members_absent]

/-- A bad member of a record becomes an absent field. -/
theorem removeIf_field {k : String} (fs gs : List (String × Option Json)) (bad : Json → Bool)
    (o : Option Json) (hfs : k ∉ fs.map Prod.fst) (hgs : k ∉ gs.map Prod.fst) :
    removeIf k bad (members (fs ++ (k, o) :: gs)) =
      members (fs ++ (k, o.filter fun v => !bad v) :: gs) := by
  unfold removeIf
  rw [lookup_field o hfs hgs, removeMember_field o hfs hgs]
  cases o with
  | none => rfl
  | some v =>
      cases hv : bad v with
      | true => simp [hv, Option.filter]
      | false => simp [hv, Option.filter]

/-- **Records over the same distinct keys are equal field by field.** -/
theorem members_inj : ∀ {fs gs : List (String × Option Json)},
    fs.map Prod.fst = gs.map Prod.fst → (fs.map Prod.fst).Nodup →
    (members fs = members gs ↔ fs = gs)
  | [], [], _, _ => by simp
  | [], _ :: _, h, _ => by simp at h
  | _ :: _, [], h, _ => by simp at h
  | (k, o) :: fs, (m, p) :: gs, h, hn => by
      simp only [List.map_cons, List.cons.injEq] at h
      obtain ⟨rfl, hrest⟩ := h
      simp only [List.map_cons, List.nodup_cons] at hn
      have hfs := lookup_members_none hn.1
      have hgs : (members gs).lookup k = none := lookup_members_none (by rw [← hrest]; exact hn.1)
      constructor
      · intro e
        have hhead : o = p := by
          have hk := congrArg (fun l => l.lookup k) e
          simpa [hfs, hgs] using hk
        have htail : members fs = members gs := by
          refine ext_lookup (sorted_members fs) (sorted_members gs) fun a => ?_
          by_cases ha : a = k
          · rw [ha, hfs, hgs]
          · have hk := congrArg (fun l => l.lookup a) e
            simpa [ha] using hk
        rw [hhead, (members_inj hrest hn.2).mp htail]
      · intro e
        rw [e]

/-! ### Values without binary64 -/

theorem elementsFloatFree_iff {l : List Json} :
    elementsFloatFree l = true ↔ ∀ v ∈ l, floatFree v = true := by
  induction l with
  | nil => simp [elementsFloatFree]
  | cons v l ih => simp [elementsFloatFree, ih]

theorem membersFloatFree_iff {l : List (String × Json)} :
    membersFloatFree l = true ↔ ∀ p ∈ l, floatFree p.2 = true := by
  induction l with
  | nil => simp [membersFloatFree]
  | cons p l ih => simp [membersFloatFree, ih]

theorem mem_insertMember {p : String × Json} {k : String} {v : Json} {l : List (String × Json)}
    (h : p ∈ insertMember k v l) : p = (k, v) ∨ p ∈ l := by
  induction l with
  | nil => exact .inl (List.mem_singleton.mp h)
  | cons q l ih =>
      rw [insertMember] at h
      split at h
      · exact List.mem_cons.mp h
      · split at h
        · rcases List.mem_cons.mp h with e | hl
          · exact .inl e
          · exact .inr (List.mem_cons_of_mem q hl)
        · rcases List.mem_cons.mp h with e | hl
          · exact .inr (e ▸ List.mem_cons_self)
          · rcases ih hl with e | hl
            · exact .inl e
            · exact .inr (List.mem_cons_of_mem q hl)

/-- A member of a record is one of its fields. -/
theorem mem_members {k : String} {v : Json} {fs : List (String × Option Json)}
    (h : (k, v) ∈ members fs) : (k, some v) ∈ fs := by
  induction fs with
  | nil => cases h
  | cons f fs ih =>
      obtain ⟨key, o⟩ := f
      cases o with
      | none => exact List.mem_cons_of_mem _ (ih h)
      | some w =>
          rcases mem_insertMember h with e | hl
          · rw [Prod.mk.injEq] at e
            rw [e.1, e.2]
            exact List.mem_cons_self
          · exact List.mem_cons_of_mem _ (ih hl)

/-- A record of such values is one. -/
theorem floatFree_ofFields {l : List (String × Option Json)}
    (h : (l.all fun f => f.2.all floatFree) = true) : floatFree (ofFields l) = true := by
  rw [ofFields, floatFree, membersFloatFree_iff]
  intro p hp
  exact List.all_eq_true.mp h _ (mem_members hp)

theorem floatFree_get? {value v : Json} {key : String} (h : floatFree value = true)
    (hv : value.get? key = some v) : floatFree v = true := by
  cases value with
  | obj l =>
      obtain ⟨before, after, e, _⟩ := List.lookup_eq_some_iff.mp hv
      refine membersFloatFree_iff.mp h (key, v) ?_
      rw [e]
      exact List.mem_append_right before List.mem_cons_self
  | _ => cases hv

/-! ### Maps as objects -/

theorem sorted_ofTree {α : Type} (f : α → Json) (t : Std.ExtTreeMap String α) :
    Sorted (t.toList.map fun p => (p.1, f p.2)) := by
  have h := Std.ExtTreeMap.ordered_keys_toList (t := t)
  unfold Sorted
  rw [List.map_map, List.pairwise_map]
  exact h.imp fun {a b} hab => by simpa [compare_lt_iff_lt] using hab

theorem lookup_map_snd {α : Type} (f : α → Json) (k : String) (l : List (String × α)) :
    (l.map fun p => (p.1, f p.2)).lookup k = (l.lookup k).map f := by
  induction l with
  | nil => rfl
  | cons p l ih =>
      obtain ⟨m, w⟩ := p
      rw [List.map_cons, lookup_cons_ite, lookup_cons_ite, ih]
      by_cases h : k = m <;> simp [h]

/-- In a list with rising keys a pair that occurs is the one found. -/
theorem lookup_of_mem {β : Type} {k : String} {v : β} :
    ∀ {l : List (String × β)}, (l.map Prod.fst).Pairwise (· < ·) → (k, v) ∈ l → l.lookup k = some v
  | [], _, h => absurd h List.not_mem_nil
  | (m, w) :: l, hn, h => by
      simp only [List.map_cons, List.pairwise_cons] at hn
      rw [lookup_cons_ite]
      rcases List.mem_cons.mp h with e | h
      · cases e; simp
      · have hlt : m < k := hn.1 k (List.mem_map_of_mem (f := Prod.fst) h)
        rw [if_neg (ne_of_gt hlt)]
        exact lookup_of_mem hn.2 h

theorem lookup_toList {α : Type} (t : Std.ExtTreeMap String α) (k : String) :
    t.toList.lookup k = t[k]? := by
  have hn : (t.toList.map Prod.fst).Pairwise (· < ·) := by
    rw [List.pairwise_map]
    exact (Std.ExtTreeMap.ordered_keys_toList (t := t)).imp fun {a b} hab => by
      simpa [compare_lt_iff_lt] using hab
  cases hk : t[k]? with
  | none =>
      rw [List.lookup_eq_none_iff]
      intro p hp
      obtain ⟨m, w⟩ := p
      have hm := Std.ExtTreeMap.mem_toList_iff_getElem?_eq_some.mp hp
      have : k ≠ m := by
        rintro rfl
        rw [hm] at hk
        cases hk
      simpa using this
  | some v => exact lookup_of_mem hn (Std.ExtTreeMap.mem_toList_iff_getElem?_eq_some.mpr hk)

/-- The members of a map written as an object are the map's values, written. -/
@[simp] theorem lookup_ofTree {α : Type} (f : α → Json) (t : Std.ExtTreeMap String α) (k : String) :
    (t.toList.map fun p => (p.1, f p.2)).lookup k = t[k]?.map f := by
  rw [lookup_map_snd, lookup_toList]

/-- Editing every member of a map written as an object. -/
theorem mapValues_ofTree {α : Type} (g : Json → Json) (f : α → Json) (t : Std.ExtTreeMap String α) :
    mapValues g (t.toList.map fun p => (p.1, f p.2)) = t.toList.map fun p => (p.1, g (f p.2)) := by
  unfold mapValues
  rw [List.map_map]
  rfl

/-- **Two maps are written the same exactly when their values are, key by key.** -/
theorem ofTree_inj {α β : Type} {f : α → Json} {g : β → Json} {s : Std.ExtTreeMap String α}
    {t : Std.ExtTreeMap String β} :
    ofTree f s = ofTree g t ↔ ∀ k : String, s[k]?.map f = t[k]?.map g := by
  constructor
  · intro h k
    have hk := congrArg (fun l => l.lookup k) (Json.obj.inj h)
    simpa using hk
  · intro h
    refine congrArg Json.obj (ext_lookup (sorted_ofTree f s) (sorted_ofTree g t) fun k => ?_)
    rw [lookup_ofTree, lookup_ofTree, h k]

end Json

end Lib
