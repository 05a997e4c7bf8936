/-
  File:      Aios/Lib/Kahn.lean
  Subject:   KAHN'S ALGORITHM on indegree counters: it visits every vertex exactly when the graph
             has no cycle, and the visits are a topological order.

  The state holds the counters, the set of vertices whose counter is zero and not yet visited, and
  the number of visits. `KahnInv` ties it to the list of vertices visited so far (a ghost, no part
  of the algorithm): a counter is the number of unvisited predecessors, the ready vertices are the
  unvisited ones with counter zero, and every visited vertex has its predecessors before it.
  One round keeps it (`kahnInv_round`), so a whole run does (`kahnLoop_spec`), and from the final
  state follows the result (`kahn_visits_all_iff`).
-/
import Aios.Lib.Except
import Std.Data.ExtTreeSet
import Mathlib.Order.Compare
import Mathlib.Logic.Relation
import Mathlib.Order.WellFounded
import Mathlib.Data.Fintype.EquivFin
import Mathlib.Data.Set.Finite.Basic
import Mathlib.Data.List.Nodup

namespace Lib

variable {α ε : Type}

section Loop

variable [Ord α] [Std.TransOrd α]

structure KahnState (α : Type) [Ord α] where
  indegree : Std.ExtTreeMap α Nat
  ready : Std.ExtTreeSet α
  visited : Nat

/-- Lowers one counter; a vertex whose counter reaches zero becomes ready. `missing` is the failure
    of an unknown vertex, `underflow` that of a counter already at zero. -/
def releaseConsumer (missing underflow : ε) (s : KahnState α) (consumer : α) :
    Except ε (KahnState α) :=
  match s.indegree[consumer]? with
  | none => .error missing
  | some 0 => .error underflow
  | some (degree + 1) => .ok
      { s with
        indegree := s.indegree.insert consumer degree
        ready := if degree = 0 then s.ready.insert consumer else s.ready }

/-- Lowers the counters of all consumers, in order. -/
def releaseAll (missing underflow : ε) : List α → KahnState α → Except ε (KahnState α)
  | [], s => .ok s
  | c :: cs, s => do
      let s ← releaseConsumer missing underflow s c
      releaseAll missing underflow cs s

/-- Visits the least ready vertex until none is ready. -/
def kahnLoop (missing underflow : ε) (consumers : α → List α) :
    Nat → KahnState α → Except ε (KahnState α)
  | 0, s => .ok s
  | fuel + 1, s =>
      match s.ready.toList.head? with
      | none => .ok s
      | some id => do
          let s ← releaseAll missing underflow (consumers id)
            { s with ready := s.ready.erase id, visited := s.visited + 1 }
          kahnLoop missing underflow consumers fuel s

/-! ## 1. One round -/

variable [Std.LawfulEqOrd α] [DecidableEq α]

/-- **Releasing distinct consumers with positive counters succeeds**, lowers exactly their counters
    and readies exactly those that were at one. -/
theorem releaseAll_spec (missing underflow : ε) : ∀ (cs : List α) (s : KahnState α), cs.Nodup →
    (∀ c ∈ cs, ∃ d, s.indegree[c]? = some (d + 1)) →
    ∃ s', releaseAll missing underflow cs s = .ok s' ∧ s'.visited = s.visited ∧
      (∀ v, s'.indegree[v]? = if v ∈ cs then s.indegree[v]?.map (· - 1) else s.indegree[v]?) ∧
      ∀ v, v ∈ s'.ready ↔ v ∈ s.ready ∨ (v ∈ cs ∧ s.indegree[v]? = some 1)
  | [], s, _, _ => ⟨s, rfl, rfl, by simp, by simp⟩
  | c :: cs, s, hn, hd => by
      obtain ⟨hc, hn⟩ := List.nodup_cons.mp hn
      obtain ⟨d, hdc⟩ := hd c List.mem_cons_self
      let s₁ : KahnState α :=
        { s with
          indegree := s.indegree.insert c d
          ready := if d = 0 then s.ready.insert c else s.ready }
      have e₁ : releaseConsumer missing underflow s c = .ok s₁ := by
        unfold releaseConsumer
        rw [hdc]
      have hdeg : ∀ v, v ≠ c → s₁.indegree[v]? = s.indegree[v]? := by
        intro v hv
        show (s.indegree.insert c d)[v]? = _
        rw [Std.ExtTreeMap.getElem?_insert, if_neg]
        exact fun h => hv (Std.LawfulEqCmp.eq_of_compare h).symm
      have hself : s₁.indegree[c]? = some d := Std.ExtTreeMap.getElem?_insert_self
      obtain ⟨s', e', hv', hdeg', hr'⟩ := releaseAll_spec missing underflow cs s₁ hn fun a ha => by
        have hne : a ≠ c := fun e => hc (e ▸ ha)
        rw [hdeg a hne]
        exact hd a (List.mem_cons_of_mem _ ha)
      refine ⟨s', ?_, hv', fun v => ?_, fun v => ?_⟩
      · rw [releaseAll, bind_eq_ok']
        exact ⟨s₁, e₁, e'⟩
      · rw [hdeg' v]
        by_cases hv : v = c
        · subst hv
          simp [hc, hself, hdc]
        · rw [hdeg v hv]
          simp [hv]
      · rw [hr' v]
        have hready : v ∈ s₁.ready ↔ v ∈ s.ready ∨ (v = c ∧ d = 0) := by
          show v ∈ (if d = 0 then s.ready.insert c else s.ready) ↔ _
          by_cases h0 : d = 0
          · rw [if_pos h0, Std.ExtTreeSet.mem_insert, Std.LawfulEqCmp.compare_eq_iff_eq]
            constructor
            · rintro (h | h)
              · exact Or.inr ⟨h.symm, h0⟩
              · exact Or.inl h
            · rintro (h | ⟨h, _⟩)
              · exact Or.inr h
              · exact Or.inl h.symm
          · rw [if_neg h0]
            exact ⟨Or.inl, fun h => h.resolve_right fun h' => h0 h'.2⟩
        rw [hready]
        by_cases hv : v = c
        · subst hv
          rw [hdc]
          simp [hc]
        · rw [hdeg v hv]
          simp [hv]

end Loop

/-! ## 2. The graph -/

/-- The graph the counters describe: distinct vertices, distinct consumers, no edge leaves it. -/
structure KahnGraph (vertices : List α) (consumers : α → List α) : Prop where
  nodup : vertices.Nodup
  distinct : ∀ u, (consumers u).Nodup
  inside : ∀ u v, v ∈ consumers u → u ∈ vertices ∧ v ∈ vertices

/-- `u` feeds `v`. -/
def Feeds (consumers : α → List α) (u v : α) : Prop := v ∈ consumers u

/-- Every vertex of the list has its predecessors before it. -/
def Topological (consumers : α → List α) (order : List α) : Prop :=
  ∀ l v r, order = l ++ v :: r → ∀ u, Feeds consumers u v → u ∈ l

/-- **A vertex of a topological order lies on no cycle.** -/
theorem Topological.not_cycle {consumers : α → List α} {order : List α}
    (ht : Topological consumers order) (hn : order.Nodup) {v : α} (hv : v ∈ order) :
    ¬ Relation.TransGen (Feeds consumers) v v := by
  -- along a path into the order the position falls strictly
  have hpath : ∀ u w, Relation.TransGen (Feeds consumers) u w → ∀ l r, order = l ++ w :: r → u ∈ l := by
    intro u w h
    induction h using Relation.TransGen.head_induction_on with
    | single hs => exact fun l r e => ht l w r e _ hs
    | @head a c hs _ ih =>
        intro l r e
        obtain ⟨l₁, l₂, el⟩ := List.append_of_mem (ih l r e)
        have e' : order = l₁ ++ c :: (l₂ ++ w :: r) := by
          rw [e, el]
          simp
        rw [el]
        exact List.mem_append_left _ (ht l₁ c _ e' a hs)
  intro hc
  obtain ⟨l, r, e⟩ := List.append_of_mem hv
  have hl := hpath v v hc l r e
  rw [e] at hn
  exact (List.disjoint_of_nodup_append hn) hl List.mem_cons_self

/-- **A finite set in which every vertex has a predecessor holds a cycle.** -/
theorem exists_cycle (consumers : α → List α) (S : List α) (hne : S ≠ [])
    (hp : ∀ v ∈ S, ∃ u ∈ S, Feeds consumers u v) :
    ∃ v ∈ S, Relation.TransGen (Feeds consumers) v v := by
  by_contra hno
  push Not at hno
  let T := {v : α // v ∈ S}
  have : Finite T := Set.Finite.to_subtype (s := {v | v ∈ S}) (List.finite_toSet S)
  let R : T → T → Prop := fun a b => Relation.TransGen (Feeds consumers) a.1 b.1
  have : IsTrans T R := ⟨fun _ _ _ h1 h2 => h1.trans h2⟩
  have : Std.Irrefl R := ⟨fun a h => hno a.1 a.2 h⟩
  have hwf : WellFounded R := Finite.wellFounded_of_trans_of_irrefl R
  obtain ⟨v₀, hv₀⟩ := List.exists_mem_of_ne_nil S hne
  obtain ⟨m, _, hm⟩ := hwf.has_min Set.univ ⟨⟨v₀, hv₀⟩, trivial⟩
  obtain ⟨u, hu, hf⟩ := hp m.1 m.2
  exact hm ⟨u, hu⟩ trivial (.single hf)

/-! ## 3. The invariant -/

section Invariant

variable [DecidableEq α]

/-- The number of predecessors of `v` outside `order`. -/
def openPreds (vertices : List α) (consumers : α → List α) (order : List α) (v : α) : Nat :=
  (vertices.filter fun u => decide (v ∈ consumers u ∧ u ∉ order)).length

/-- A test that passes one element more keeps one element more. -/
theorem length_filter_insert {P Q : α → Bool} {a : α} (hP : P a = false) (hQ : Q a = true)
    (hne : ∀ x, x ≠ a → Q x = P x) : ∀ {l : List α}, l.Nodup → a ∈ l →
    (l.filter Q).length = (l.filter P).length + 1
  | x :: l, hn, ha => by
      obtain ⟨hx, hn⟩ := List.nodup_cons.mp hn
      by_cases e : x = a
      · subst e
        have hrest : l.filter Q = l.filter P :=
          List.filter_congr fun y hy => hne y fun e => hx (e ▸ hy)
        rw [List.filter_cons_of_pos hQ, List.filter_cons_of_neg (by simp [hP]), hrest,
          List.length_cons]
      · have ha : a ∈ l := (List.mem_cons.mp ha).resolve_left (Ne.symm e)
        have ih := length_filter_insert hP hQ hne hn ha
        rw [List.filter_cons, List.filter_cons, hne x e]
        split
        · rw [List.length_cons, List.length_cons, ih]
        · exact ih

/-- Visiting `id` takes one open predecessor from each of its consumers. -/
theorem openPreds_visit {vertices : List α} {consumers : α → List α}
    (hg : KahnGraph vertices consumers) {order : List α} {id : α} (hid : id ∉ order) (v : α) :
    openPreds vertices consumers order v =
      openPreds vertices consumers (order ++ [id]) v + if v ∈ consumers id then 1 else 0 := by
  unfold openPreds
  have hne : ∀ u, u ≠ id → decide (v ∈ consumers u ∧ u ∉ order) =
      decide (v ∈ consumers u ∧ u ∉ order ++ [id]) := by
    intro u hu
    simp [hu]
  by_cases hv : v ∈ consumers id
  · rw [if_pos hv]
    exact length_filter_insert (by simp) (by simp [hv, hid]) hne hg.nodup (hg.inside id v hv).1
  · rw [if_neg hv, Nat.add_zero]
    congr 1
    refine List.filter_congr fun u _ => ?_
    by_cases hu : u = id
    · subst hu
      simp [hv]
    · exact hne u hu

/-- A new edge raises the open predecessors of its target by one. -/
theorem openPreds_edge {vertices : List α} (hn : vertices.Nodup) {consumers consumers' : α → List α}
    {p c : α} (hp : p ∈ vertices) (hnew : c ∉ consumers p)
    (he : ∀ u v, v ∈ consumers' u ↔ v ∈ consumers u ∨ (v = c ∧ u = p)) (v : α) :
    openPreds vertices consumers' [] v =
      openPreds vertices consumers [] v + if v = c then 1 else 0 := by
  unfold openPreds
  by_cases hv : v = c
  · subst hv
    rw [if_pos rfl]
    refine length_filter_insert (a := p) (by simp [hnew]) (by simp [he]) ?_ hn hp
    intro u hu
    simp [he, hu]
  · rw [if_neg hv, Nat.add_zero]
    congr 1
    refine List.filter_congr fun u _ => ?_
    simp [he, hv]

theorem openPreds_eq_zero {vertices : List α} {consumers : α → List α}
    (hg : KahnGraph vertices consumers) {order : List α} {v : α} :
    openPreds vertices consumers order v = 0 ↔ ∀ u, Feeds consumers u v → u ∈ order := by
  unfold openPreds
  rw [List.length_eq_zero_iff, List.filter_eq_nil_iff]
  constructor
  · intro h u hu
    by_contra hn
    exact h u (hg.inside u v hu).1 (by simpa using ⟨hu, hn⟩)
  · intro h u _ hd
    have hd : v ∈ consumers u ∧ u ∉ order := by simpa using hd
    exact hd.2 (h u hd.1)

variable [Ord α] [Std.TransOrd α] [Std.LawfulEqOrd α]

/-- The state, read against the vertices visited so far. -/
structure KahnInv (vertices : List α) (consumers : α → List α) (s : KahnState α) (order : List α) :
    Prop where
  nodup : order.Nodup
  subset : ∀ v ∈ order, v ∈ vertices
  visited : s.visited = order.length
  degree : ∀ v ∈ vertices, s.indegree[v]? = some (openPreds vertices consumers order v)
  ready : ∀ v, v ∈ s.ready ↔
    v ∈ vertices ∧ v ∉ order ∧ openPreds vertices consumers order v = 0
  topological : Topological consumers order

/-- **One round keeps the invariant**: the least ready vertex joins the visited ones. -/
theorem kahnInv_round (missing underflow : ε) {vertices : List α} {consumers : α → List α}
    (hg : KahnGraph vertices consumers) {s : KahnState α} {order : List α}
    (hi : KahnInv vertices consumers s order) {id : α} (hm : s.ready.toList.head? = some id) :
    ∃ s', releaseAll missing underflow (consumers id)
        { s with ready := s.ready.erase id, visited := s.visited + 1 } = .ok s' ∧
      KahnInv vertices consumers s' (order ++ [id]) := by
  have hid := (hi.ready id).mp (Std.ExtTreeSet.mem_toList.mp (List.mem_of_mem_head? hm))
  obtain ⟨hidV, hidO, hid0⟩ := hid
  have hpos : ∀ c ∈ consumers id, ∃ d, s.indegree[c]? = some (d + 1) := by
    intro c hc
    refine ⟨openPreds vertices consumers (order ++ [id]) c, ?_⟩
    rw [hi.degree c (hg.inside id c hc).2, openPreds_visit hg hidO, if_pos hc]
  obtain ⟨s', hs', hvis, hdeg, hready⟩ := releaseAll_spec missing underflow (consumers id)
    { s with ready := s.ready.erase id, visited := s.visited + 1 } (hg.distinct id) hpos
  refine ⟨s', hs', ?_, ?_, ?_, ?_, ?_, ?_⟩
  · exact List.nodup_append.mpr ⟨hi.nodup, List.nodup_singleton id, by
      intro a ha b hb e
      rw [List.mem_singleton] at hb
      exact hidO (hb ▸ e ▸ ha)⟩
  · intro v hv
    rcases List.mem_append.mp hv with hv | hv
    · exact hi.subset v hv
    · rw [List.mem_singleton] at hv
      exact hv ▸ hidV
  · rw [hvis, List.length_append, List.length_singleton, hi.visited]
  · intro v hv
    have e : s'.indegree[v]? = if v ∈ consumers id then s.indegree[v]?.map (· - 1)
        else s.indegree[v]? := hdeg v
    rw [e, hi.degree v hv, openPreds_visit hg hidO v]
    by_cases hc : v ∈ consumers id <;> simp [hc]
  · intro v
    rw [hready v]
    show (v ∈ s.ready.erase id ∨ (v ∈ consumers id ∧ s.indegree[v]? = some 1)) ↔ _
    rw [Std.ExtTreeSet.mem_erase, hi.ready v]
    have hne : compare id v ≠ .eq ↔ v ≠ id := by
      rw [ne_eq, Std.LawfulEqCmp.compare_eq_iff_eq]
      exact ⟨fun h e => h e.symm, fun h e => h e.symm⟩
    have hmem : v ∉ order ++ [id] ↔ v ∉ order ∧ v ≠ id := by simp
    rw [hne, hmem]
    have hvisit := openPreds_visit hg hidO v
    constructor
    · rintro (⟨h1, h2, h3, h4⟩ | ⟨h1, h2⟩)
      · exact ⟨h2, ⟨h3, h1⟩, by omega⟩
      · have hv := (hg.inside id v h1).2
        have h3 : openPreds vertices consumers order v = 1 :=
          Option.some.inj ((hi.degree v hv).symm.trans h2)
        rw [if_pos h1] at hvisit
        -- a visited vertex has no open predecessor, so `v` is neither visited nor `id` itself
        have hnO : v ∉ order := by
          intro hvO
          obtain ⟨l, r, e⟩ := List.append_of_mem hvO
          have hzero : openPreds vertices consumers order v = 0 := by
            rw [openPreds_eq_zero hg]
            intro u hu
            rw [e]
            exact List.mem_append_left _ (hi.topological l v r e u hu)
          omega
        have hnid : v ≠ id := by
          rintro rfl
          omega
        exact ⟨hv, ⟨hnO, hnid⟩, by omega⟩
    · rintro ⟨hv, ⟨h1, h2⟩, h3⟩
      by_cases hc : v ∈ consumers id
      · rw [if_pos hc, h3] at hvisit
        exact Or.inr ⟨hc, by rw [hi.degree v hv, hvisit]⟩
      · rw [if_neg hc] at hvisit
        exact Or.inl ⟨h2, hv, h1, by omega⟩
  · intro l v r e u hu
    rcases List.eq_nil_or_concat r with rfl | ⟨r', x, rfl⟩
    · have e' : order ++ [id] = l ++ [v] := e
      obtain ⟨e1, e2⟩ := List.append_inj' e' rfl
      rw [List.singleton_inj] at e2
      subst e2
      rw [← e1]
      exact openPreds_eq_zero hg |>.mp hid0 u hu
    · have e' : order ++ [id] = (l ++ v :: r') ++ [x] := by
        rw [e]
        simp
      obtain ⟨e1, _⟩ := List.append_inj' e' rfl
      exact hi.topological l v r' e1 u hu

/-! ## 4. A run -/

/-- **A run with a round for every vertex succeeds and ends with nothing ready.** -/
theorem kahnLoop_spec (missing underflow : ε) {vertices : List α} {consumers : α → List α}
    (hg : KahnGraph vertices consumers) : ∀ (fuel : Nat) (s : KahnState α) (order : List α),
    KahnInv vertices consumers s order → vertices.length ≤ order.length + fuel →
    ∃ s' order', kahnLoop missing underflow consumers fuel s = .ok s' ∧
      KahnInv vertices consumers s' order' ∧ ∀ v, v ∉ s'.ready
  | 0, s, order, hi, hf => by
      refine ⟨s, order, rfl, hi, fun v hv => ?_⟩
      -- all vertices are visited already
      obtain ⟨h1, h2, _⟩ := (hi.ready v).mp hv
      have hsub : order.Subperm vertices := hi.nodup.subperm fun a ha => hi.subset a ha
      have hperm := hsub.perm_of_length_le (by omega)
      exact h2 (hperm.mem_iff.mpr h1)
  | fuel + 1, s, order, hi, hf => by
      cases hm : s.ready.toList.head? with
      | none =>
          refine ⟨s, order, by simp only [kahnLoop, hm], hi, fun v hv => ?_⟩
          rw [List.head?_eq_none_iff] at hm
          have hv := Std.ExtTreeSet.mem_toList.mpr hv
          rw [hm] at hv
          cases hv
      | some id =>
          obtain ⟨s₁, e₁, hi₁⟩ := kahnInv_round missing underflow hg hi hm
          obtain ⟨s', order', e', hi', hr'⟩ := kahnLoop_spec missing underflow hg fuel s₁ _ hi₁ (by
            rw [List.length_append, List.length_singleton]
            omega)
          refine ⟨s', order', ?_, hi', hr'⟩
          simp only [kahnLoop, hm]
          rw [bind_eq_ok']
          exact ⟨s₁, e₁, e'⟩

omit [Std.LawfulEqOrd α] in
/-- **Every vertex is visited exactly when there is no cycle**, and then the visits are a
    topological order of all vertices. -/
theorem kahn_visits_all_iff {vertices : List α} {consumers : α → List α}
    (hg : KahnGraph vertices consumers) {s : KahnState α} {order : List α}
    (hi : KahnInv vertices consumers s order) (hr : ∀ v, v ∉ s.ready) :
    (s.visited = vertices.length ↔ ¬ ∃ v, Relation.TransGen (Feeds consumers) v v) ∧
      (s.visited = vertices.length → order.Perm vertices) := by
  have hsub : order.Subperm vertices := hi.nodup.subperm fun a ha => hi.subset a ha
  have hperm : s.visited = vertices.length → order.Perm vertices := fun h =>
    hsub.perm_of_length_le (by rw [← hi.visited, h])
  refine ⟨⟨fun h => ?_, fun h => ?_⟩, hperm⟩
  · rintro ⟨v, hv⟩
    -- the last step of the cycle enters `v`, so `v` is a vertex and stands in the order
    have hvV : v ∈ vertices := by
      obtain ⟨u, _, hu⟩ := Relation.TransGen.tail'_iff.mp hv
      exact (hg.inside u v hu).2
    exact hi.topological.not_cycle hi.nodup ((hperm h).mem_iff.mpr hvV) hv
  · by_contra hne
    have hlt : ∃ v ∈ vertices, v ∉ order := by
      by_contra hall
      push Not at hall
      have := (hg.nodup.subperm hall).length_le
      exact hne (by rw [hi.visited]; exact le_antisymm hsub.length_le this)
    obtain ⟨v₀, hv₀, hn₀⟩ := hlt
    have hmem : ∀ v, v ∈ vertices.filter (· ∉ order) ↔ v ∈ vertices ∧ v ∉ order := by simp
    obtain ⟨v, _, hc⟩ := exists_cycle consumers (vertices.filter (· ∉ order))
      (List.ne_nil_of_mem ((hmem v₀).mpr ⟨hv₀, hn₀⟩)) fun v hv => by
        obtain ⟨hv, hn⟩ := (hmem v).mp hv
        have hz : openPreds vertices consumers order v ≠ 0 := fun hz =>
          hr v ((hi.ready v).mpr ⟨hv, hn, hz⟩)
        rw [ne_eq, openPreds_eq_zero hg] at hz
        push Not at hz
        obtain ⟨u, hu, hun⟩ := hz
        exact ⟨u, (hmem u).mpr ⟨(hg.inside u v hu).1, hun⟩, hu⟩
    exact h ⟨v, hc⟩

end Invariant

end Lib
