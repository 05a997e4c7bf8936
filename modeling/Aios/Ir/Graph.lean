/-
  File:      Aios/Ir/Graph.lean
  Subject:   The data-flow graph of a program and the cycle check (`validate_acyclic`).

  `buildGraph` records an edge once, however many ports carry it, and raises the counter of the
  consumer only for a new edge; so a counter is the number of distinct producers (`GraphInv`,
  `buildGraph_spec`). This is what Lib/Kahn.lean asks for, and the check is exact
  (`validateAcyclic_spec`): it reports a cycle exactly when the graph has one, and an acyclic
  program has an order in which every producer stands before its consumers.
-/
import Aios.Ir.References

namespace Aios

open Lib

/-! ## 1. The relation -/

/-- Node `b` has an input that references node `a`. -/
def FeedsNode (program : AiosIr) (a b : String) : Prop :=
  ∃ n ∈ program.nodes, n.id = b ∧ ∃ port q : String, n.inputs[port]? = some (.node a q)

/-- Some node feeds itself, directly or through others. -/
def Cyclic (program : AiosIr) : Prop := ∃ id, Relation.TransGen (FeedsNode program) id id

theorem mem_producers {node : Node} {a : String} :
    a ∈ producers node ↔ ∃ port q : String, node.inputs[port]? = some (.node a q) := by
  unfold producers
  rw [List.mem_filterMap]
  constructor
  · rintro ⟨⟨port, r⟩, hm, hr⟩
    cases r with
    | input _ => cases hr
    | node id q =>
        obtain rfl : id = a := by simpa using hr
        exact ⟨port, q, Std.ExtTreeMap.mem_toList_iff_getElem?_eq_some.mp hm⟩
  · rintro ⟨port, q, h⟩
    exact ⟨(port, .node a q), Std.ExtTreeMap.mem_toList_iff_getElem?_eq_some.mpr h, rfl⟩

/-! ## 2. The counters -/

abbrev DataFlow := ConsumerMap × Std.ExtTreeMap String Nat

theorem mem_consumersOf {consumers : ConsumerMap} {u v : String} :
    v ∈ consumersOf consumers u ↔ v ∈ consumers.getD u ∅ := by
  unfold consumersOf
  rw [Std.ExtTreeMap.getD_eq_getD_getElem?]
  cases consumers[u]? with
  | none => simp
  | some next => simp

theorem nodup_toList {α : Type} {cmp : α → α → Ordering} [Std.TransCmp cmp] (s : Std.ExtTreeSet α cmp) :
    s.toList.Nodup := by
  refine s.distinct_toList.imp fun {a b} hne heq => hne ?_
  subst heq
  exact Std.ReflCmp.compare_self

theorem nodup_consumersOf (consumers : ConsumerMap) (u : String) : (consumersOf consumers u).Nodup := by
  unfold consumersOf
  split
  · exact nodup_toList _
  · exact List.nodup_nil

/-- The edges after one more: the old ones and the new one. -/
theorem mem_addEdge {c p : String} {g : DataFlow} {u v : String} :
    v ∈ consumersOf (addEdge c g p).1 u ↔ v ∈ consumersOf g.1 u ∨ (v = c ∧ u = p) := by
  rw [mem_consumersOf, mem_consumersOf]
  show v ∈ (g.1.insert p ((g.1.getD p ∅).insert c)).getD u ∅ ↔ _
  rw [Std.ExtTreeMap.getD_insert]
  by_cases e : p = u
  · subst e
    rw [if_pos Std.ReflCmp.compare_self, Std.ExtTreeSet.mem_insert, Std.LawfulEqCmp.compare_eq_iff_eq]
    constructor
    · rintro (h | h)
      · exact Or.inr ⟨h.symm, rfl⟩
      · exact Or.inl h
    · rintro (h | ⟨h, _⟩)
      · exact Or.inr h
      · exact Or.inl h.symm
  · rw [if_neg fun h => e (Std.LawfulEqCmp.eq_of_compare h)]
    exact ⟨Or.inl, fun h => h.resolve_right fun h' => e h'.2.symm⟩

/-- The edges stay inside the vertices, and each counter is the number of recorded producers. -/
structure GraphInv (vertices : List String) (g : DataFlow) : Prop where
  inside : ∀ u v, v ∈ consumersOf g.1 u → u ∈ vertices ∧ v ∈ vertices
  known : ∀ v, v ∈ g.2 ↔ v ∈ vertices
  degree : ∀ v ∈ vertices, g.2[v]? = some (openPreds vertices (consumersOf g.1) [] v)

/-- **One edge keeps the counters exact**, whether it is new or a parallel one. -/
theorem graphInv_addEdge {vertices : List String} (hn : vertices.Nodup) {g : DataFlow}
    (hi : GraphInv vertices g) {c p : String} (hc : c ∈ vertices) (hp : p ∈ vertices) :
    GraphInv vertices (addEdge c g p) := by
  have hcontains : ((g.1.getD p ∅).contains c = true) ↔ c ∈ consumersOf g.1 p := by
    rw [Std.ExtTreeSet.contains_iff_mem, mem_consumersOf]
  refine ⟨fun u v h => ?_, fun v => ?_, fun v hv => ?_⟩
  · rcases mem_addEdge.mp h with h | ⟨rfl, rfl⟩
    · exact hi.inside u v h
    · exact ⟨hp, hc⟩
  · show v ∈ (if (g.1.getD p ∅).contains c then g.2 else g.2.insert c (g.2.getD c 0 + 1)) ↔ _
    split
    · exact hi.known v
    · rw [Std.ExtTreeMap.mem_insert, hi.known v, Std.LawfulEqCmp.compare_eq_iff_eq]
      exact ⟨fun h => h.elim (fun e => e ▸ hc) id, Or.inr⟩
  · show (if (g.1.getD p ∅).contains c then g.2 else g.2.insert c (g.2.getD c 0 + 1))[v]? = _
    by_cases hold : c ∈ consumersOf g.1 p
    · -- a parallel edge: the consumer set has not changed
      rw [if_pos (hcontains.mpr hold), hi.degree v hv]
      have hsame : ∀ u w, w ∈ consumersOf (addEdge c g p).1 u ↔ w ∈ consumersOf g.1 u := by
        intro u w
        rw [mem_addEdge]
        exact ⟨fun h => h.elim id fun h' => h'.1 ▸ h'.2 ▸ hold, Or.inl⟩
      unfold openPreds
      simp only [hsame]
    · rw [if_neg fun h => hold (hcontains.mp h), openPreds_edge hn hp hold (fun u w => mem_addEdge) v,
        Std.ExtTreeMap.getElem?_insert]
      by_cases e : c = v
      · subst e
        rw [if_pos Std.ReflCmp.compare_self, if_pos rfl, Std.ExtTreeMap.getD_eq_getD_getElem?,
          hi.degree c hc]
        rfl
      · rw [if_neg fun h => e (Std.LawfulEqCmp.eq_of_compare h), if_neg (Ne.symm e), hi.degree v hv]
        rfl

/-- The edges of one node. -/
theorem addEdges_spec {vertices : List String} (hn : vertices.Nodup) {c : String}
    (hc : c ∈ vertices) : ∀ (ps : List String) (g : DataFlow), GraphInv vertices g →
    (∀ p ∈ ps, p ∈ vertices) →
    GraphInv vertices (ps.foldl (addEdge c) g) ∧
      ∀ u v, v ∈ consumersOf (ps.foldl (addEdge c) g).1 u ↔
        v ∈ consumersOf g.1 u ∨ (v = c ∧ u ∈ ps)
  | [], g, hi, _ => ⟨hi, by simp⟩
  | p :: ps, g, hi, hps => by
      have hp := hps p List.mem_cons_self
      obtain ⟨h1, h2⟩ := addEdges_spec hn hc ps (addEdge c g p) (graphInv_addEdge hn hi hc hp)
        fun q hq => hps q (List.mem_cons_of_mem _ hq)
      refine ⟨h1, fun u v => ?_⟩
      rw [List.foldl_cons, h2 u v, mem_addEdge, List.mem_cons]
      tauto

/-- The edges of a list of nodes. -/
theorem addNodes_spec {vertices : List String} (hn : vertices.Nodup) :
    ∀ (l : List Node) (g : DataFlow), GraphInv vertices g →
    (∀ n ∈ l, n.id ∈ vertices ∧ ∀ p ∈ producers n, p ∈ vertices) →
    GraphInv vertices (l.foldl (fun g n => (producers n).foldl (addEdge n.id) g) g) ∧
      ∀ u v, v ∈ consumersOf (l.foldl (fun g n => (producers n).foldl (addEdge n.id) g) g).1 u ↔
        v ∈ consumersOf g.1 u ∨ ∃ n ∈ l, n.id = v ∧ u ∈ producers n
  | [], g, hi, _ => ⟨hi, by simp⟩
  | n :: l, g, hi, hl => by
      obtain ⟨hid, hps⟩ := hl n List.mem_cons_self
      obtain ⟨h1, h2⟩ := addEdges_spec hn hid (producers n) g hi hps
      obtain ⟨h3, h4⟩ := addNodes_spec hn l _ h1 fun m hm => hl m (List.mem_cons_of_mem _ hm)
      refine ⟨h3, fun u v => ?_⟩
      rw [List.foldl_cons, h4 u v, h2 u v]
      constructor
      · rintro ((h | ⟨e, h⟩) | ⟨m, hm, h⟩)
        · exact Or.inl h
        · exact Or.inr ⟨n, List.mem_cons_self, e.symm, h⟩
        · exact Or.inr ⟨m, List.mem_cons_of_mem _ hm, h⟩
      · rintro (h | ⟨m, hm, e, h⟩)
        · exact Or.inl (Or.inl h)
        · rcases List.mem_cons.mp hm with rfl | hm
          · exact Or.inl (Or.inr ⟨e.symm, h⟩)
          · exact Or.inr ⟨m, hm, e, h⟩

/-- Every producer a node reads is a node. -/
def ProducersResolve (program : AiosIr) : Prop :=
  ∀ n ∈ program.nodes, ∀ (port id q : String), n.inputs[port]? = some (.node id q) →
    ∃ m ∈ program.nodes, m.id = id

theorem ReferencesOk.producersResolve {program : AiosIr} (h : ReferencesOk program) :
    ProducersResolve program := by
  intro n hn port id q hr
  obtain ⟨m, hm, hid, _⟩ := h.inputs n hn port _ hr
  exact ⟨m, hm, hid⟩

/-- **The graph of the source is the relation**, and its counters are exact. -/
theorem buildGraph_spec {program : AiosIr} {nodes : NodeIndex} (hx : Indexes nodes program)
    (hp : ProducersResolve program) :
    GraphInv nodes.keys (buildGraph program nodes) ∧
      ∀ u v, v ∈ consumersOf (buildGraph program nodes).1 u ↔ FeedsNode program u v := by
  have hn : nodes.keys.Nodup := Std.ExtTreeMap.nodup_keys
  have hlookup : ∀ v, (Std.ExtTreeMap.ofList (nodes.keys.map fun id => (id, 0)) :
      Std.ExtTreeMap String Nat)[v]? = if v ∈ nodes.keys then some 0 else none := by
    intro v
    by_cases hv : v ∈ nodes.keys
    · rw [if_pos hv]
      refine Std.ExtTreeMap.getElem?_ofList_of_mem (k := v) Std.ReflCmp.compare_self ?_
        (List.mem_map.mpr ⟨v, hv, rfl⟩)
      rw [List.pairwise_map]
      exact hn.imp fun h e => h (Std.LawfulEqCmp.eq_of_compare e)
    · rw [if_neg hv]
      refine Std.ExtTreeMap.getElem?_ofList_of_contains_eq_false ?_
      rw [List.map_map]
      simpa using hv
  have hstart : GraphInv nodes.keys (∅, Std.ExtTreeMap.ofList (nodes.keys.map fun id => (id, 0))) := by
    refine ⟨fun u v h => ?_, fun v => ?_, fun v hv => ?_⟩
    · simp [consumersOf] at h
    · rw [Std.ExtTreeMap.mem_iff_isSome_getElem?, hlookup]
      split <;> simp_all
    · rw [hlookup, if_pos hv]
      simp [openPreds, consumersOf]
  obtain ⟨h1, h2⟩ := addNodes_spec hn program.nodes _ hstart fun n hm => by
    refine ⟨Std.ExtTreeMap.mem_keys.mpr (hx.mem.mpr ⟨n, hm, rfl⟩), fun p hpr => ?_⟩
    obtain ⟨port, q, hr⟩ := mem_producers.mp hpr
    exact Std.ExtTreeMap.mem_keys.mpr (hx.mem.mpr (hp n hm port p q hr))
  refine ⟨h1, fun u v => ?_⟩
  unfold buildGraph FeedsNode
  rw [h2 u v]
  simp only [← mem_producers]
  simp [consumersOf]

/-! ## 3. The check -/

/-- Every producer stands before its consumers. -/
def DataFlowOrder (program : AiosIr) (order : List String) : Prop :=
  ∀ l b r, order = l ++ b :: r → ∀ a, FeedsNode program a b → a ∈ l

/-- **The cycle check is exact**: it returns, its only finding is the cycle, it finds it exactly
    when the relation is cyclic, and otherwise the nodes have a data-flow order. -/
theorem validateAcyclic_spec {program : AiosIr} {nodes : NodeIndex} (hx : Indexes nodes program)
    (hp : ProducersResolve program) :
    ∃ ds, validateAcyclic program nodes = .ok ds ∧ (∀ d ∈ ds, d.code = .irGraphCycle) ∧
      AllErrors ds ∧ (ds ≠ [] ↔ Cyclic program) ∧
      (ds = [] → ∃ order, order.Perm nodes.keys ∧ DataFlowOrder program order) := by
  obtain ⟨hinv, hedge⟩ := buildGraph_spec hx hp
  have hn : nodes.keys.Nodup := Std.ExtTreeMap.nodup_keys
  have hg : KahnGraph nodes.keys (consumersOf (buildGraph program nodes).1) :=
    ⟨hn, nodup_consumersOf _, hinv.inside⟩
  have hfeeds : Feeds (consumersOf (buildGraph program nodes).1) = FeedsNode program := by
    funext u v
    exact propext (hedge u v)
  let ready : Std.ExtTreeSet String := Std.ExtTreeSet.ofList
    (((buildGraph program nodes).2.toList.filter fun p => p.2 = 0).map Prod.fst)
  have hready : ∀ v, v ∈ ready ↔ (buildGraph program nodes).2[v]? = some 0 := by
    intro v
    simp only [ready, Std.ExtTreeSet.mem_ofList, List.contains_iff_mem, List.mem_map,
      List.mem_filter, decide_eq_true_eq]
    constructor
    · rintro ⟨⟨k, d⟩, ⟨hm, hd⟩, e⟩
      have hm := Std.ExtTreeMap.mem_toList_iff_getElem?_eq_some.mp hm
      simp only at e hd
      rw [← e, hm, hd]
    · intro h
      exact ⟨(v, 0), ⟨Std.ExtTreeMap.mem_toList_iff_getElem?_eq_some.mpr h, rfl⟩, rfl⟩
  have hi : KahnInv nodes.keys (consumersOf (buildGraph program nodes).1)
      ⟨(buildGraph program nodes).2, ready, 0⟩ [] := by
    refine ⟨List.nodup_nil, by simp, rfl, hinv.degree, fun v => ?_, fun l v r e => by simp at e⟩
    rw [hready]
    constructor
    · intro h
      have hv : v ∈ nodes.keys := (hinv.known v).mp
        (Std.ExtTreeMap.mem_iff_isSome_getElem?.mpr (by rw [h]; rfl))
      rw [hinv.degree v hv] at h
      exact ⟨hv, by simp, Option.some.inj h⟩
    · rintro ⟨hv, _, h0⟩
      rw [hinv.degree v hv, h0]
  obtain ⟨s', order, hrun, hi', hr'⟩ := kahnLoop_spec "consumer originates from indexed program node"
    "attempt to subtract with overflow" hg nodes.size _ [] hi
    (by rw [Std.ExtTreeMap.length_keys]; simp)
  obtain ⟨hall, hperm⟩ := kahn_visits_all_iff hg hi' hr'
  rw [Std.ExtTreeMap.length_keys] at hall hperm
  rw [hfeeds] at hall
  have hval : validateAcyclic program nodes = .ok (if s'.visited ≠ nodes.size then
      [{ Diagnostic.new .irGraphCycle "program data-flow graph contains a cycle" with
        related := (s'.indegree.toList.filter fun p => 0 < p.2).map Prod.fst }] else []) := by
    unfold validateAcyclic
    simp only
    rw [show kahnLoop "consumer originates from indexed program node"
      "attempt to subtract with overflow" (consumersOf (buildGraph program nodes).1) nodes.size
      ⟨(buildGraph program nodes).2, ready, 0⟩ = .ok s' from hrun]
    show (if s'.visited ≠ nodes.size then _ else _) = _
    split <;> rfl
  refine ⟨_, hval, ?_, ?_, ?_, ?_⟩
  · intro d hd
    split at hd
    · rw [List.mem_singleton.mp hd]
      rfl
    · cases hd
  · split
    · simp [Diagnostic.new, ValidatorReasonCode.severity]
    · exact allErrors_nil
  · unfold Cyclic
    by_cases hv : s'.visited = nodes.size
    · rw [if_neg (not_not.mpr hv)]
      simpa using hall.mp hv
    · rw [if_pos hv]
      have : ∃ v, Relation.TransGen (FeedsNode program) v v := by
        by_contra hno
        exact hv (hall.mpr hno)
      simpa using this
  · intro hd
    by_cases hv : s'.visited = nodes.size
    · refine ⟨order, hperm hv, fun l b r e a hab => ?_⟩
      have ht := hi'.topological l b r e a
      rw [hfeeds] at ht
      exact ht hab
    · rw [if_pos hv] at hd
      cases hd

end Aios
