/-
  File:      Aios/Ir/Identity.lean
  Subject:   WHEN TWO PROGRAMS HAVE THE SAME SEMANTIC VIEW.

  `SameProgram` says what two decoded programs share, field by field: texts and references are equal,
  the set-like lists are permutations, the nodes correspond up to their order, and absent constraints
  count as empty ones. It mentions neither JSON nor sorting. `semanticView_eq_iff` is the main
  result: the views are equal exactly for the same program, where node identifiers are unique.

  Each record of the view is written over fixed distinct keys, so equality of two views is equality
  field by field (`record_inj`); the lemmas below are one for each record.
-/
import Aios.Ir.Normalize
import Aios.Ir.References

namespace Aios

open Lib Json

/-! ## 1. The same program -/

structure SameInput (a b : ProgramInput) : Prop where
  typeRef : a.typeRef = b.typeRef
  required : a.required = b.required
  mediaTypes : a.mediaTypes.Perm b.mediaTypes

structure SameEgress (a b : Egress) : Prop where
  mode : a.mode = b.mode
  destinationClasses : a.destinationClasses.Perm b.destinationClasses

/-- Constraints that say nothing. -/
def Constraints.empty : Constraints := ⟨[], none, none, none, none⟩

structure SameConstraints (a b : Constraints) : Prop where
  locality : a.locality.Perm b.locality
  maxLatencyMs : a.maxLatencyMs = b.maxLatencyMs
  maxCostMicrousd : a.maxCostMicrousd = b.maxCostMicrousd
  minMemoryBytes : a.minMemoryBytes = b.minMemoryBytes
  accelerator : a.accelerator = b.accelerator

/-- What a request asks for; its reason is prose. -/
def AuthorityRequest.pair (q : AuthorityRequest) : String × String := (q.action, q.resource)

structure SameNode (a b : Node) : Prop where
  id : a.id = b.id
  operation : a.operation = b.operation
  executionClass : a.executionClass = b.executionClass
  inputs : a.inputs = b.inputs
  outputs : a.outputs = b.outputs
  authorityRequests :
    (a.authorityRequests.map AuthorityRequest.pair).Perm (b.authorityRequests.map AuthorityRequest.pair)
  egress : SameEgress a.egress b.egress
  constraints : SameConstraints (a.constraints.getD .empty) (b.constraints.getD .empty)
  failure : a.failure = b.failure
  cache : a.cache = b.cache

structure SameProgram (p q : AiosIr) : Prop where
  irVersion : p.irVersion = q.irVersion
  kind : p.kind = q.kind
  inputs : ∀ name : String, Option.Rel SameInput p.inputs[name]? q.inputs[name]?
  nodes : ∃ l, List.Forall₂ SameNode p.nodes l ∧ l.Perm q.nodes
  outputs : p.outputs = q.outputs

/-! ## 2. Texts, sets and maps -/

/-- Two records over the same distinct keys. -/
theorem record_inj {fs gs : List (String × Option Json)} (hk : fs.map Prod.fst = gs.map Prod.fst)
    (hn : (fs.map Prod.fst).Nodup) : ofFields fs = ofFields gs ↔ fs = gs := by
  unfold ofFields
  rw [Json.obj.injEq, members_inj hk hn]

/-- Leaving out one value loses nothing. -/
theorem leftOut_inj (x v w : Json) :
    ((some v).filter fun u => !decide (u = x)) = ((some w).filter fun u => !decide (u = x)) ↔
      v = w := by
  by_cases hv : v = x
  · by_cases hw : w = x
    · simp [hv, hw]
    · simp [Option.filter, hv, hw, Ne.symm hw]
  · by_cases hw : w = x
    · simp [Option.filter, hv, hw]
    · simp [Option.filter, hv, hw]

theorem arrayField_inj {l r : List Json} : arrayField l = arrayField r ↔ l = r := by
  unfold arrayField
  rw [leftOut_inj, Json.arr.injEq]

/-- **Sets of texts are written the same exactly for permutations.** -/
theorem textSet_inj {l r : List String} : textSet l = textSet r ↔ l.Perm r := by
  have hstr : Function.Injective Json.str := fun _ _ => Json.str.inj
  unfold textSet
  rw [hstr.list_map.eq_iff, sortOn_eq_iff_perm fun _ _ _ _ h => utf16_injective h]

theorem budgets_inj {a b : Option Nat} : a.map budget = b.map budget ↔ a = b := by
  have hinj : Function.Injective budget := fun m n h => by simpa [budget] using h
  exact (Option.map_injective hinj).eq_iff

/-- Maps of values that are written injectively. -/
theorem ofTree_eq_iff {α : Type} {f : α → Json} (hf : Function.Injective f)
    {s t : Std.ExtTreeMap String α} : ofTree f s = ofTree f t ↔ s = t := by
  rw [ofTree_inj]
  constructor
  · intro h
    exact Std.ExtTreeMap.ext_getElem? fun k => Option.map_injective hf (h k)
  · intro h k
    rw [h]

/-- Values written alike, where both are there. -/
theorem map_eq_iff_rel {α : Type} {f : α → Json} {R : α → α → Prop}
    (hR : ∀ a b, f a = f b ↔ R a b) {x y : Option α} : x.map f = y.map f ↔ Option.Rel R x y := by
  cases x with
  | none =>
      cases y with
      | none => exact iff_of_true rfl .none
      | some b => exact iff_of_false (by simp) (by intro h; cases h)
  | some a =>
      cases y with
      | none => exact iff_of_false (by simp) (by intro h; cases h)
      | some b => simp [hR]

/-! ## 3. The records of a node -/

theorem Locality.serde_injective : Function.Injective Locality.serde := by
  intro a b h
  cases a <;> cases b <;> first | rfl | exact absurd h (by decide)

theorem ProgramKind.serde_injective : Function.Injective ProgramKind.serde := by
  intro a b h
  cases a <;> cases b <;> first | rfl | exact absurd h (by decide)

theorem OperationKind.serde_injective : Function.Injective OperationKind.serde := by
  intro a b h
  cases a <;> cases b <;> first | rfl | exact absurd h (by decide)

theorem ExecutionClass.serde_injective : Function.Injective ExecutionClass.serde := by
  intro a b h
  cases a <;> cases b <;> first | rfl | exact absurd h (by decide)

theorem EgressMode.serde_injective : Function.Injective EgressMode.serde := by
  intro a b h
  cases a <;> cases b <;> first | rfl | exact absurd h (by decide)

theorem AcceleratorKind.serde_injective : Function.Injective AcceleratorKind.serde := by
  intro a b h
  cases a <;> cases b <;> first | rfl | exact absurd h (by decide)

theorem CachePolicy.serde_injective : Function.Injective CachePolicy.serde := by
  intro a b h
  cases a <;> cases b <;> first | rfl | exact absurd h (by decide)

@[simp] theorem get?_ofFields (fs : List (String × Option Json)) (k : String) :
    (ofFields fs).get? k = (members fs).lookup k := rfl

theorem ValueRef.toValue_injective : Function.Injective ValueRef.toValue := by
  intro a b h
  have hget : ∀ k, a.toValue.get? k = b.toValue.get? k := fun k => by rw [h]
  have hsource := hget "source"
  cases a with
  | input m =>
      cases b with
      | input n =>
          have hname := hget "name"
          simp [ValueRef.toValue] at hname
          rw [hname]
      | node n q => simp [ValueRef.toValue] at hsource
  | node m p =>
      cases b with
      | input n => simp [ValueRef.toValue] at hsource
      | node n q =>
          have hnode := hget "node"
          have hport := hget "port"
          simp [ValueRef.toValue] at hnode hport
          rw [hnode, hport]

theorem Operation.toValue_injective : Function.Injective Operation.toValue := by
  intro a b h
  unfold Operation.toValue at h
  rw [record_inj] at h
  · simp only [List.cons.injEq, Prod.mk.injEq, true_and, Option.some.injEq, Json.str.injEq,
      and_true] at h
    cases a
    cases b
    rw [Operation.mk.injEq]
    exact ⟨OperationKind.serde_injective h.1, h.2⟩
  · rfl
  · simp

theorem AcceleratorConstraint.toValue_injective :
    Function.Injective AcceleratorConstraint.toValue := by
  intro a b h
  unfold AcceleratorConstraint.toValue at h
  rw [record_inj] at h
  · simp only [List.cons.injEq, Prod.mk.injEq, true_and, Option.some.injEq, Json.str.injEq,
      Json.bool.injEq, and_true, budgets_inj] at h
    cases a
    cases b
    rw [AcceleratorConstraint.mk.injEq]
    exact ⟨AcceleratorKind.serde_injective h.1, h.2.1, h.2.2⟩
  · rfl
  · simp

/-- The order of the fallback capabilities is kept. -/
theorem FailurePolicy.toValue_injective : Function.Injective FailurePolicy.toValue := by
  have hstr : Function.Injective Json.str := fun _ _ => Json.str.inj
  intro a b h
  have hget : ∀ k, a.toValue.get? k = b.toValue.get? k := fun k => by rw [h]
  -- the tag tells the policies apart, the one further member its budget or list
  have htag := hget "on_error"
  have hattempts := hget "max_attempts"
  have hreplans := hget "max_replans"
  have hlist := hget "fallback_capabilities"
  cases a <;> cases b <;>
    simp [FailurePolicy.toValue, budget, hstr.list_map.eq_iff] at htag hattempts hreplans hlist ⊢ <;>
    assumption

theorem requestView_injective : Function.Injective requestView := by
  intro a b h
  unfold requestView at h
  rw [record_inj] at h
  · simpa [Prod.ext_iff] using h
  · rfl
  · simp

theorem ProgramInput.view_eq_iff (a b : ProgramInput) : a.view = b.view ↔ SameInput a b := by
  unfold ProgramInput.view
  rw [record_inj (by rfl) (by simp)]
  simp only [List.cons.injEq, Prod.mk.injEq, true_and, Option.some.injEq, Json.str.injEq,
    Json.bool.injEq, and_true, arrayField_inj, textSet_inj]
  exact ⟨fun h => ⟨h.1, h.2.1, h.2.2⟩, fun h => ⟨h.typeRef, h.required, h.mediaTypes⟩⟩

theorem Egress.view_eq_iff (a b : Egress) : a.view = b.view ↔ SameEgress a b := by
  unfold Egress.view
  rw [record_inj (by rfl) (by simp)]
  simp only [List.cons.injEq, Prod.mk.injEq, true_and, Option.some.injEq, Json.str.injEq,
    and_true, arrayField_inj, textSet_inj, EgressMode.serde_injective.eq_iff]
  exact ⟨fun h => ⟨h.1, h.2⟩, fun h => ⟨h.mode, h.destinationClasses⟩⟩

theorem Constraints.view_eq_iff (a b : Constraints) : a.view = b.view ↔ SameConstraints a b := by
  unfold Constraints.view
  rw [record_inj (by rfl) (by simp)]
  simp only [List.cons.injEq, Prod.mk.injEq, true_and, and_true, arrayField_inj, textSet_inj,
    budgets_inj, List.map_perm_map_iff Locality.serde_injective,
    (Option.map_injective AcceleratorConstraint.toValue_injective).eq_iff]
  exact ⟨fun h => ⟨h.1, h.2.1, h.2.2.1, h.2.2.2.1, h.2.2.2.2⟩,
    fun h => ⟨h.locality, h.maxLatencyMs, h.maxCostMicrousd, h.minMemoryBytes, h.accelerator⟩⟩

/-- Absent constraints are written as empty ones: not at all. -/
theorem constraintsField_eq (c : Option Constraints) :
    constraintsField c = (some (c.getD .empty).view).filter fun v => !decide (v = .obj []) := by
  unfold constraintsField
  cases c with
  | none =>
      have hempty : Constraints.empty.view = .obj [] := rfl
      rw [Option.getD_none, hempty]
      rfl
  | some c => rfl

theorem constraintsField_eq_iff (c d : Option Constraints) :
    constraintsField c = constraintsField d ↔
      SameConstraints (c.getD .empty) (d.getD .empty) := by
  rw [constraintsField_eq, constraintsField_eq, leftOut_inj, Constraints.view_eq_iff]

theorem requestPairs_eq_iff (a b : Node) : requestPairs a = requestPairs b ↔
    (a.authorityRequests.map AuthorityRequest.pair).Perm
      (b.authorityRequests.map AuthorityRequest.pair) :=
  sortOn_eq_iff_perm fun _ _ _ _ h => toLex.injective h

/-! ## 4. Nodes and programs -/

/-- **Two nodes have the same view exactly when they are the same node**, prose and order aside. -/
theorem Node.view_eq_iff (a b : Node) : a.view = b.view ↔ SameNode a b := by
  unfold Node.view Node.head Node.tail
  rw [record_inj (by rfl) (by simp)]
  simp only [List.cons_append, List.nil_append, List.cons.injEq, Prod.mk.injEq, true_and,
    Option.some.injEq, Json.str.injEq, Json.arr.injEq, and_true, constraintsField_eq_iff,
    Egress.view_eq_iff, requestView_injective.list_map.eq_iff, requestPairs_eq_iff,
    Operation.toValue_injective.eq_iff, FailurePolicy.toValue_injective.eq_iff,
    ExecutionClass.serde_injective.eq_iff, CachePolicy.serde_injective.eq_iff,
    ofTree_eq_iff ValueRef.toValue_injective, ofTree_eq_iff fun _ _ => Json.str.inj]
  constructor
  · intro ⟨h1, h2, h3, h4, h5, h6, h7, h8, h9, h10⟩
    exact ⟨h1, h2, h3, h4, h5, h6, h7, h8, h9, h10⟩
  · intro h
    exact ⟨h.id, h.operation, h.executionClass, h.inputs, h.outputs, h.authorityRequests, h.egress,
      h.constraints, h.failure, h.cache⟩

theorem Node.views_eq_iff (l r : List Node) :
    l.map Node.view = r.map Node.view ↔ List.Forall₂ SameNode l r := by
  rw [← List.forall₂_eq_eq_eq, List.forall₂_map_left_iff, List.forall₂_map_right_iff]
  simp only [Node.view_eq_iff]

/-- Nodes that correspond up to order are sorted alike; unique identifiers make the order theirs. -/
theorem sorted_views_eq_iff {l r : List Node} (hl : (l.map (·.id)).Nodup) :
    (sortOn (·.id) l).map Node.view = (sortOn (·.id) r).map Node.view ↔
      ∃ m, List.Forall₂ SameNode l m ∧ m.Perm r := by
  rw [Node.views_eq_iff]
  constructor
  · intro h
    obtain ⟨m, hm, hp⟩ := List.perm_comp_forall₂ (sortOn_perm (·.id) l).symm h
    exact ⟨m, hm, hp.trans (sortOn_perm (·.id) r)⟩
  · intro ⟨m, hm, hp⟩
    have hids : l.map (·.id) = m.map (·.id) := by
      rw [← List.forall₂_eq_eq_eq, List.forall₂_map_left_iff, List.forall₂_map_right_iff]
      exact hm.imp fun _ _ h => h.id
    have hinj : ∀ a ∈ m, ∀ b ∈ m, a.id = b.id → a = b := by
      intro a ha b hb e
      exact List.inj_on_of_nodup_map (hids ▸ hl) ha hb e
    have hsort : sortOn (·.id) m = sortOn (·.id) r := (sortOn_eq_iff_perm hinj).mpr hp
    rw [← hsort]
    exact sortOn_forall₂ (fun a b h => h.id) hm

/-- **The semantic view is exact**: two programs with unique node identifiers have the same view
    exactly when they are the same program. -/
theorem semanticView_eq_iff {p q : AiosIr} (hp : UniqueIds p) :
    semanticView p = semanticView q ↔ SameProgram p q := by
  unfold semanticView
  rw [record_inj (by rfl) (by simp)]
  simp only [List.cons.injEq, Prod.mk.injEq, true_and, Option.some.injEq, Json.str.injEq,
    Json.arr.injEq, and_true, ProgramKind.serde_injective.eq_iff, ofTree_inj,
    map_eq_iff_rel ProgramInput.view_eq_iff, sorted_views_eq_iff hp,
    (Option.map_injective ValueRef.toValue_injective).eq_iff]
  constructor
  · intro ⟨h1, h2, h3, h4, h5⟩
    exact ⟨h1, h2, h3, h4, Std.ExtTreeMap.ext_getElem? h5⟩
  · intro h
    exact ⟨h.irVersion, h.kind, h.inputs, h.nodes, fun k => by rw [h.outputs]⟩

end Aios
