/-
  File:      Aios/Artifacts/Lineage.lean
  Subject:   LINEAGE HAS NO CYCLE, AND NO LABEL FALLS ALONG IT, over every run of the store.

  The artifacts stand in the order they came in, and no step changes the labels of one (`fixed`). An
  edge leads from an artifact that is there to the one that comes in (`Leads`), so a path goes forward,
  and labels go up along it where each of its edges is to the output of a binding.
-/
import Aios.Artifacts.Findings
import Mathlib.Data.List.Basic
import Mathlib.Logic.Relation

namespace Aios.Artifacts

open Lib Provenance Tasks

variable {env : JournalEnv}

/-! ## 1. Edges -/

/-- The parent stands before the child, and below it where the child is the output of a binding. -/
def Leads (rows : List (String × String × Sensitivity × RetentionClass × Option String))
    (parent child : String) : Prop :=
  (rows.map Prod.fst).idxOf parent < (rows.map Prod.fst).idxOf child ∧
    ∃ p ∈ rows, ∃ a ∈ rows, p.1 = parent ∧ a.1 = child ∧ (a.2.2.2.2.isSome = true →
      p.2.2.1.propagationRank ≤ a.2.2.1.propagationRank ∧
        p.2.2.2.1.propagationRank ≤ a.2.2.2.1.propagationRank)

section Leads

variable {rows more : List (String × String × Sensitivity × RetentionClass × Option String)}
  {parent child : String}

theorem Leads.append (h : Leads rows parent child) : Leads (rows ++ more) parent child := by
  obtain ⟨hlt, p, hp, a, ha, hparent, hchild, hlow⟩ := h
  refine ⟨?_, p, List.mem_append_left _ hp, a, List.mem_append_left _ ha, hparent, hchild, hlow⟩
  have hmem : parent ∈ rows.map Prod.fst := List.mem_map.mpr ⟨p, hp, hparent⟩
  have hmem' : child ∈ rows.map Prod.fst := List.mem_map.mpr ⟨a, ha, hchild⟩
  rw [List.map_append, List.idxOf_append_of_mem hmem, List.idxOf_append_of_mem hmem']
  exact hlt

/-- An artifact that was there leads to a new last one. -/
theorem leads_new {p a : ArtifactRow} (hp : p.fixed ∈ rows) (hnew : ∀ x ∈ rows, x.1 ≠ a.artifactId)
    (hbelow : a.originBindingId.isSome = true → p.Below a) :
    Leads (rows ++ [a.fixed]) p.artifactId a.artifactId := by
  refine ⟨?_, p.fixed, List.mem_append_left _ hp, a.fixed, List.mem_append_right _ List.mem_cons_self,
    rfl, rfl, hbelow⟩
  have hmem : p.artifactId ∈ rows.map Prod.fst := List.mem_map.mpr ⟨p.fixed, hp, rfl⟩
  have hnot : a.artifactId ∉ rows.map Prod.fst := fun h => by
    obtain ⟨x, hx, e⟩ := List.mem_map.mp h
    exact hnew x hx e
  rw [List.map_append, List.idxOf_append_of_mem hmem, List.idxOf_append_of_notMem hnot]
  exact Nat.lt_of_lt_of_le (List.idxOf_lt_length_of_mem hmem) (Nat.le_add_right _ _)

end Leads

/-- Every edge of the lineage leads forward. -/
def LineageInv (db : ArtifactDb) : Prop := ∀ e ∈ db.lineage,
  Leads (db.artifacts.map ArtifactRow.fixed) e.parentArtifactId e.childArtifactId

theorem lineageInv_transacted {db db' : ArtifactDb} (_ : StoreInv db) (h : LineageInv db)
    (hdone : Transacted env db db') : LineageInv db' := by
  obtain ⟨rows, _, _, hchange⟩ := hdone
  cases hchange with
  | sound f b g a held blobs artifacts fixed state verified holders of lineage plain =>
      have hrows : db'.artifacts.map ArtifactRow.fixed =
          db.artifacts.map ArtifactRow.fixed ++ a.toList.map ArtifactRow.fixed := by
        rw [artifacts.rows, List.map_append, List.map_map]
        exact congrArg (· ++ _) (List.map_congr_left fun x _ => fixed x)
      intro e he
      rw [hrows]
      rcases lineage e he with hold | hnew
      · exact (h e hold).append
      · obtain ⟨a', ha', hchild, p, hp, hparent, hbelow⟩ := hnew
        rw [Option.mem_def.mp ha', ← hparent, hchild]
        refine leads_new (List.mem_map_of_mem hp) (fun x hx => ?_) hbelow
        obtain ⟨old, hold, e'⟩ := List.mem_map.mp hx
        rw [← e']
        exact artifacts.fresh a' ha' old hold
  | marked contentHash detectedAt state damaged changed blobs artifacts holders lineage same found =>
      have hfixed : ∀ a : ArtifactRow, (if a.contentHash = contentHash then a.marked changed detectedAt
          else a).fixed = a.fixed := key_if fun _ => rfl
      have hrows : db'.artifacts.map ArtifactRow.fixed = db.artifacts.map ArtifactRow.fixed := by
        rw [artifacts, ArtifactDb.marked, List.map_map]
        exact List.map_congr_left fun x _ => hfixed x
      intro e he
      rw [hrows]
      exact h e (by rw [← lineage]; exact he)

/-! ## 2. Paths -/

def ArtifactDb.Derives (db : ArtifactDb) (parent child : String) : Prop :=
  ∃ e ∈ db.lineage, e.parentArtifactId = parent ∧ e.childArtifactId = child

/-- An edge to an artifact that came through a bound allocation. -/
def ArtifactDb.Inherits (db : ArtifactDb) (parent child : String) : Prop :=
  db.Derives parent child ∧ ∃ a ∈ db.artifacts, a.artifactId = child ∧ a.originBindingId.isSome = true

/-- A path goes forward. -/
theorem derives_forward {db : ArtifactDb} (h : LineageInv db) {u v : String}
    (hpath : Relation.TransGen db.Derives u v) :
    ((db.artifacts.map ArtifactRow.fixed).map Prod.fst).idxOf u <
      ((db.artifacts.map ArtifactRow.fixed).map Prod.fst).idxOf v := by
  -- on the path, edge by edge
  induction hpath with
  | single hstep =>
      obtain ⟨e, he, rfl, rfl⟩ := hstep
      exact (h e he).1
  | tail _ hstep ih =>
      obtain ⟨e, he, rfl, rfl⟩ := hstep
      exact Nat.lt_trans ih (h e he).1

/-- An artifact stands below an output of a binding that it leads to. -/
theorem inherits_below {db : ArtifactDb} (hinv : StoreInv db) (h : LineageInv db) {parent child : String}
    (hstep : db.Inherits parent child) : ∃ p ∈ db.artifacts, p.artifactId = parent ∧
      ∀ a ∈ db.artifacts, a.artifactId = child → p.Below a := by
  obtain ⟨⟨e, he, rfl, rfl⟩, a, ha, hchild, hbound⟩ := hstep
  obtain ⟨_, x, hx, y, hy, hxid, hyid, hlow⟩ := h e he
  obtain ⟨p, hp, rfl⟩ := List.mem_map.mp hx
  obtain ⟨b, hb, rfl⟩ := List.mem_map.mp hy
  have hsame : ∀ c ∈ db.artifacts, c.artifactId = e.childArtifactId → c = b := fun c hc hid =>
    eq_of_key_eq hinv.artifacts hc hb (hid.trans hyid.symm)
  refine ⟨p, hp, hxid, fun c hc hid => ?_⟩
  rw [hsame c hc hid]
  rw [hsame a ha hchild] at hbound
  exact hlow hbound

/-- Labels go up along a path of bindings. -/
theorem inherits_path {db : ArtifactDb} (hinv : StoreInv db) (h : LineageInv db) {p : ArtifactRow}
    (hp : p ∈ db.artifacts) {child : String} (hpath : Relation.TransGen db.Inherits p.artifactId child) :
    ∀ a ∈ db.artifacts, a.artifactId = child → p.Below a := by
  -- on the path, edge by edge
  induction hpath with
  | single hstep =>
      obtain ⟨q, hq, e, hbelow⟩ := inherits_below hinv h hstep
      obtain rfl : q = p := eq_of_key_eq hinv.artifacts hq hp e
      exact hbelow
  | tail _ hstep ih =>
      obtain ⟨q, hq, e, hbelow⟩ := inherits_below hinv h hstep
      intro a ha hid
      have hlow := ih q hq e
      have hnext := hbelow a ha hid
      exact ⟨hlow.1.trans hnext.1, hlow.2.trans hnext.2⟩

/-- **Lineage has no cycle, and no label falls along it**, in every run: no artifact is derived from
    itself, at any depth, and one that is reached through bound publications is labelled at least as
    high as every artifact it was derived from. -/
theorem labels_never_fall (env : JournalEnv) (lease : Lease) (ops : List ArtifactOp) :
    let db := ((ArtifactSystem.fresh lease).run env ops).db
    (∀ artifactId, ¬Relation.TransGen db.Derives artifactId artifactId) ∧
    ∀ p ∈ db.artifacts, ∀ a ∈ db.artifacts,
      Relation.TransGen db.Inherits p.artifactId a.artifactId → p.Below a := by
  intro db
  obtain ⟨hinv, hlineage⟩ := run_keeps LineageInv (@lineageInv_transacted env) ops (systemInv_fresh lease)
    fun _ h => absurd h List.not_mem_nil
  refine ⟨fun artifactId hcycle => ?_, fun p hp a ha hpath => ?_⟩
  · exact Nat.lt_irrefl _ (derives_forward hlineage hcycle)
  · exact inherits_path hinv.1 hlineage hp hpath a ha rfl

end Aios.Artifacts
