/-
  File:      Aios/Ir/Canonical.lean
  Subject:   A program whose budgets are exact has a semantic hash (`aios-ir/src/hash.rs`).

  The hash refuses an integer RFC 8785 does not write exactly. The budgets are the only numbers of
  the semantic view, so a program with safe budgets (`SafeBudgets`) passes (`jcsSafe_semanticView`)
  and is hashed as soon as its view serialises (`semanticHash_ok`).
-/
import Aios.Ir.Validator

namespace Aios

open Lib

/-! ## 1. Budgets -/

/-- Every budget is an integer RFC 8785 writes exactly. -/
def FailurePolicy.SafeBudgets : FailurePolicy → Prop
  | .retry n | .replan n => n ≤ 9007199254740991
  | .stop | .fallback _ => True

@[inherit_doc FailurePolicy.SafeBudgets]
structure Constraints.SafeBudgets (c : Constraints) : Prop where
  latency : ∀ n ∈ c.maxLatencyMs, n ≤ 9007199254740991
  cost : ∀ n ∈ c.maxCostMicrousd, n ≤ 9007199254740991
  memory : ∀ n ∈ c.minMemoryBytes, n ≤ 9007199254740991
  accelerator : ∀ a ∈ c.accelerator, ∀ n ∈ a.minMemoryBytes, n ≤ 9007199254740991

@[inherit_doc FailurePolicy.SafeBudgets]
structure SafeBudgets (program : AiosIr) : Prop where
  failure : ∀ n ∈ program.nodes, n.failure.SafeBudgets
  constraints : ∀ n ∈ program.nodes, ∀ c ∈ n.constraints, c.SafeBudgets

/-! ## 2. Values without an unsafe number -/

section
variable (render : Json → String)

/-- Every number of the value is one RFC 8785 writes exactly. -/
def JcsSafe (value : Json) : Prop := ensureJcsSafeNumbers render value = .ok ()

theorem jcsSafe_arr {values : List Json} (h : ∀ v ∈ values, JcsSafe render v) :
    JcsSafe render (.arr values) := by
  unfold JcsSafe
  rw [ensureJcsSafeNumbers]
  induction values with
  | nil => rfl
  | cons v rest ih =>
    rw [List.forall_mem_cons] at h
    rw [ensureJcsSafeElements, unit_bind_eq_ok]
    exact ⟨h.1, ih h.2⟩

theorem jcsSafe_obj {members : List (String × Json)} (h : ∀ p ∈ members, JcsSafe render p.2) :
    JcsSafe render (.obj members) := by
  unfold JcsSafe
  rw [ensureJcsSafeNumbers]
  induction members with
  | nil => rfl
  | cons p rest ih =>
    rw [List.forall_mem_cons] at h
    rw [ensureJcsSafeMembers, unit_bind_eq_ok]
    exact ⟨h.1, ih h.2⟩

theorem mem_insertMember {k : String} {v : Json} {l : List (String × Json)} {p : String × Json}
    (h : p ∈ Json.insertMember k v l) : p = (k, v) ∨ p ∈ l := by
  induction l with
  | nil => simpa [Json.insertMember] using h
  | cons q rest ih =>
    simp only [Json.insertMember] at h
    split at h
    · simpa using h
    · split at h
      · rcases List.mem_cons.mp h with rfl | h
        · exact Or.inl rfl
        · exact Or.inr (List.mem_cons_of_mem _ h)
      · rcases List.mem_cons.mp h with rfl | h
        · exact Or.inr List.mem_cons_self
        · exact (ih h).imp_right (List.mem_cons_of_mem _)

theorem mem_members {fields : List (String × Option Json)} {p : String × Json}
    (h : p ∈ Json.members fields) : (p.1, some p.2) ∈ fields := by
  induction fields with
  | nil => cases h
  | cons field rest ih =>
    obtain ⟨k, v⟩ := field
    cases v with
    | none => exact List.mem_cons_of_mem _ (ih h)
    | some v =>
      rcases mem_insertMember h with rfl | h
      · exact List.mem_cons_self
      · exact List.mem_cons_of_mem _ (ih h)

theorem jcsSafe_ofFields {fields : List (String × Option Json)}
    (h : ∀ f ∈ fields, ∀ v ∈ f.2, JcsSafe render v) : JcsSafe render (Json.ofFields fields) :=
  jcsSafe_obj render fun p hp => h _ (mem_members hp) p.2 rfl

theorem jcsSafe_ofTree {α : Type} (f : α → Json) (h : ∀ a, JcsSafe render (f a))
    (t : Std.ExtTreeMap String α) : JcsSafe render (Json.ofTree f t) := by
  refine jcsSafe_obj render fun p hp => ?_
  obtain ⟨q, -, rfl⟩ := List.mem_map.mp hp
  exact h q.2

theorem jcsSafe_str (s : String) : JcsSafe render (.str s) := rfl

theorem jcsSafe_bool (b : Bool) : JcsSafe render (.bool b) := rfl

theorem jcsSafe_budget {n : Nat} (h : n ≤ 9007199254740991) : JcsSafe render (budget n) := by
  unfold JcsSafe budget
  rw [ensureJcsSafeNumbers, rejectIf_ok]
  simpa [jcsSafe] using h

theorem jcsSafe_texts (l : List String) : JcsSafe render (.arr (l.map .str)) := by
  refine jcsSafe_arr render fun v hv => ?_
  obtain ⟨s, -, rfl⟩ := List.mem_map.mp hv
  exact jcsSafe_str render s

theorem jcsSafe_arrayField {l : List String} : ∀ v ∈ arrayField (textSet l), JcsSafe render v := by
  intro v hv
  obtain ⟨rfl, -⟩ : Json.arr (textSet l) = v ∧ _ := by
    simpa [arrayField, Option.filter_eq_some_iff] using hv
  exact jcsSafe_texts render _

theorem jcsSafe_valueRef (r : ValueRef) : JcsSafe render r.toValue := by
  cases r <;> exact jcsSafe_ofFields render (by simp [jcsSafe_str])

/-! ## 3. The semantic view -/

theorem jcsSafe_input (i : ProgramInput) : JcsSafe render i.view := by
  refine jcsSafe_ofFields render ?_
  simp only [List.forall_mem_cons, Option.mem_some_iff, forall_eq']
  exact ⟨jcsSafe_str render _, jcsSafe_bool render _, jcsSafe_arrayField render, by simp⟩

theorem jcsSafe_egress (e : Egress) : JcsSafe render e.view := by
  refine jcsSafe_ofFields render ?_
  simp only [List.forall_mem_cons, Option.mem_some_iff, forall_eq']
  exact ⟨jcsSafe_str render _, jcsSafe_arrayField render, by simp⟩

theorem jcsSafe_optional {n : Option Nat} (h : ∀ k ∈ n, k ≤ 9007199254740991) :
    ∀ v ∈ n.map budget, JcsSafe render v := by
  intro v hv
  obtain ⟨k, hk, rfl⟩ := Option.mem_map.mp hv
  exact jcsSafe_budget render (h k hk)

theorem jcsSafe_accelerator {a : AcceleratorConstraint}
    (h : ∀ n ∈ a.minMemoryBytes, n ≤ 9007199254740991) : JcsSafe render a.toValue := by
  refine jcsSafe_ofFields render ?_
  simp only [List.forall_mem_cons, Option.mem_some_iff, forall_eq']
  exact ⟨jcsSafe_str render _, jcsSafe_optional render h, jcsSafe_bool render _, by simp⟩

theorem jcsSafe_constraints {c : Constraints} (h : c.SafeBudgets) : JcsSafe render c.view := by
  refine jcsSafe_ofFields render ?_
  simp only [List.forall_mem_cons]
  refine ⟨jcsSafe_arrayField render, jcsSafe_optional render h.latency,
    jcsSafe_optional render h.cost, jcsSafe_optional render h.memory, ?_, by simp⟩
  intro v hv
  obtain ⟨a, ha, rfl⟩ := Option.mem_map.mp hv
  exact jcsSafe_accelerator render (h.accelerator a ha)

theorem jcsSafe_failure {f : FailurePolicy} (h : f.SafeBudgets) : JcsSafe render f.toValue := by
  cases f with
  | stop => exact jcsSafe_ofFields render (by simp [jcsSafe_str])
  | retry n => exact jcsSafe_ofFields render (by simp [jcsSafe_str, jcsSafe_budget render h])
  | fallback cs => exact jcsSafe_ofFields render (by simp [jcsSafe_str, jcsSafe_texts])
  | replan n => exact jcsSafe_ofFields render (by simp [jcsSafe_str, jcsSafe_budget render h])

theorem jcsSafe_node {n : Node} (hfailure : n.failure.SafeBudgets)
    (hconstraints : ∀ c ∈ n.constraints, c.SafeBudgets) : JcsSafe render n.view := by
  have hoperation : JcsSafe render n.operation.toValue :=
    jcsSafe_ofFields render (by simp [jcsSafe_str])
  have hrequests : JcsSafe render (.arr ((requestPairs n).map requestView)) := by
    refine jcsSafe_arr render fun v hv => ?_
    obtain ⟨r, -, rfl⟩ := List.mem_map.mp hv
    exact jcsSafe_ofFields render (by simp [jcsSafe_str])
  have hfield : ∀ v ∈ constraintsField n.constraints, JcsSafe render v := by
    intro v hv
    obtain ⟨hview, -⟩ := Option.filter_eq_some_iff.mp hv
    obtain ⟨c, hc, rfl⟩ := Option.map_eq_some_iff.mp hview
    exact jcsSafe_constraints render (hconstraints c hc)
  refine jcsSafe_ofFields render ?_
  simp only [Node.head, Node.tail, List.cons_append, List.nil_append, List.forall_mem_cons,
    Option.mem_some_iff, forall_eq']
  exact ⟨jcsSafe_str render _, hoperation, jcsSafe_str render _,
    jcsSafe_ofTree render _ (jcsSafe_valueRef render) _, jcsSafe_ofTree render _ (jcsSafe_str render) _,
    hrequests, jcsSafe_egress render _, hfield, jcsSafe_failure render hfailure,
    jcsSafe_str render _, by simp⟩

/-- **The semantic view of a program with safe budgets holds no unsafe number.** -/
theorem jcsSafe_semanticView {p : AiosIr} (h : SafeBudgets p) : JcsSafe render (semanticView p) := by
  have hnodes : JcsSafe render (.arr ((sortOn (·.id) p.nodes).map Node.view)) := by
    refine jcsSafe_arr render fun v hv => ?_
    obtain ⟨n, hn, rfl⟩ := List.mem_map.mp hv
    have hmem : n ∈ p.nodes := (orderedNodes_perm p).subset hn
    exact jcsSafe_node render (h.failure n hmem) (h.constraints n hmem)
  refine jcsSafe_ofFields render ?_
  simp only [List.forall_mem_cons, Option.mem_some_iff, forall_eq']
  exact ⟨jcsSafe_str render _, jcsSafe_str render _, jcsSafe_ofTree render _ (jcsSafe_input render) _,
    hnodes, jcsSafe_ofTree render _ (jcsSafe_valueRef render) _, by simp⟩

/-- **Such a program is hashed**, as soon as its view serialises. -/
theorem semanticHash_ok (digest : Digest) {p : AiosIr} (h : SafeBudgets p)
    (hcanonical : ∃ bytes, digest.canonical (semanticView p) = .ok bytes) :
    ∃ hash, semanticHash digest render (semanticView p) = .ok hash := by
  obtain ⟨bytes, hbytes⟩ := hcanonical
  have hsafe : ensureJcsSafeNumbers render (semanticView p) = .ok () := jcsSafe_semanticView render h
  exact ⟨_, by rw [semanticHash, hsafe, ok_bind, hbytes]; rfl⟩

end

end Aios
