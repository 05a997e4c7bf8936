/-
  File:      Aios/Artifacts/Findings.lean
  Subject:   INTEGRITY FINDINGS ARE STICKY AND RECORDED ONCE, over every run of the store.

  * `StoreInv` -- an artifact is verified over a durable blob, or failed; every artifact has one
    holder; no event identity occurs twice;
  * `FoundOnce` -- a step records each damage it notes once for each artifact and holder;
  * `FlightInv` -- what an export of the current manager has read and not yet written is of an
    intact artifact;
  * `integrity_findings_sticky` -- the three, over runs.
-/
import Aios.Artifacts.Change

namespace Aios.Artifacts

open Lib Json Provenance Tasks

variable {env : JournalEnv}

/-! ## 1. The rows, over runs -/

theorem storeInv_fresh (lease : Lease) : StoreInv (ArtifactSystem.fresh lease).db :=
  ⟨.nil, .nil, .nil, fun _ h => absurd h List.not_mem_nil, fun _ h => absurd h List.not_mem_nil,
    fun _ h => absurd h List.not_mem_nil, fun _ h => absurd h List.not_mem_nil⟩

variable {db db' : ArtifactDb} {sys : ArtifactSystem} {lease : Lease}

/-- The blob found under a content is its only row. -/
theorem StoreInv.blob_eq (h : StoreInv db) {b : BlobRow} (hb : b ∈ db.blobs) :
    db.blob? b.contentHash = some b := find?_of_mem h.blobs hb

/-- What marking does to the rows. -/
theorem marked_blobs (db : ArtifactDb) (contentHash detectedAt : String) (state : Durability) (changed : Bool) :
    Updated BlobRow.contentHash db.blobs
      (fun b => if b.contentHash = contentHash then b.marked state detectedAt else b) none
      (db.marked contentHash state changed detectedAt).blobs := updated_map (key_if fun _ => rfl)

theorem marked_artifacts (db : ArtifactDb) (contentHash detectedAt : String) (state : Durability)
    (changed : Bool) :
    Updated ArtifactRow.artifactId db.artifacts
      (fun a => if a.contentHash = contentHash then a.marked changed detectedAt else a) none
      (db.marked contentHash state changed detectedAt).artifacts := updated_map (key_if fun _ => rfl)

/-- What the rows refer to is kept by updates under the keys. -/
theorem StoreInv.refer (h : StoreInv db) {f : BlobRow → BlobRow} {b : Option BlobRow}
    {g : ArtifactRow → ArtifactRow} {a : Option ArtifactRow}
    (blobs : Updated BlobRow.contentHash db.blobs f b db'.blobs)
    (artifacts : Updated ArtifactRow.artifactId db.artifacts g a db'.artifacts)
    (content : ∀ a, (g a).contentHash = a.contentHash) :
    (∀ ta ∈ db.taskArtifacts, ∃ a ∈ db'.artifacts, a.artifactId = ta.artifactId) ∧
      ∀ old ∈ db.artifacts, ∃ b ∈ db'.blobs, b.contentHash = (g old).contentHash := by
  refine ⟨fun ta hta => ?_, fun old hold => ?_⟩
  · obtain ⟨old, hold, e⟩ := h.holds ta hta
    exact ⟨g old, artifacts.mem.mpr (Or.inl ⟨old, hold, rfl⟩), (artifacts.keeps old).trans e⟩
  · obtain ⟨b, hb, e⟩ := h.blob old hold
    exact ⟨f b, blobs.mem.mpr (Or.inl ⟨b, hb, rfl⟩), (blobs.keeps b).trans (e.trans (content old).symm)⟩

/-- **A transaction keeps the rows in order.** -/
theorem storeInv_transacted (h : StoreInv db) (hdone : Transacted env db db') : StoreInv db' := by
  obtain ⟨rows, _, _, hchange⟩ := hdone
  cases hchange with
  | sound f b g a held blobs artifacts fixed state verified holders of lineage plain =>
      have content : ∀ a, (g a).contentHash = a.contentHash := fun a => (Prod.mk.inj (Prod.mk.inj (fixed a)).2).1
      obtain ⟨hholds, hblob⟩ := h.refer blobs.table artifacts content
      have hpairwise := blobs.table.pairwise h.blobs
      refine ⟨hpairwise, artifacts.pairwise h.artifacts, ?_, ?_, ?_, ?_, ?_⟩
      · rw [holders]
        cases held with
        | none => simpa using h.holders
        | some ta =>
            cases a with
            | none => cases of
            | some new =>
                refine pairwise_snoc h.holders fun other hother e => ?_
                obtain ⟨old, hold, e'⟩ := h.holds other hother
                exact artifacts.fresh new rfl old hold (e'.trans (e.trans (Option.some.inj of)))
      · intro ta hta
        rw [holders] at hta
        rcases List.mem_append.mp hta with hta | hta
        · exact hholds ta hta
        · rw [Option.mem_toList.mp hta] at of
          obtain ⟨new, hnew, e⟩ := Option.map_eq_some_iff.mp of.symm
          exact ⟨new, artifacts.mem.mpr (Or.inr hnew), e⟩
      · intro a' ha'
        rcases artifacts.mem.mp ha' with hold | hnew
        · obtain ⟨old, hold, e⟩ := hold
          rw [← e]
          exact hblob old hold
        · obtain ⟨_, b', hb', e, _⟩ := verified a' hnew
          exact ⟨b', hb', e⟩
      · intro a' ha' hv b' hb' e
        rcases artifacts.mem.mp ha' with hold | hnew
        · obtain ⟨old, hold, e'⟩ := hold
          rw [← e', content] at e
          rw [← e', state old hold] at hv
          rcases blobs.table.mem.mp hb' with hb | hb
          · obtain ⟨b, hb, e''⟩ := hb
            have hkey := blobs.table.keeps b
            rw [e''] at hkey
            have hdurable := h.verified old hold hv b hb (hkey.symm.trans e)
            rcases blobs.kept b with hkept | hkept
            · rw [← e'', hkept, hdurable]
            · rw [← e'', hkept]
          · -- a new blob is of no artifact that was there
            obtain ⟨other, hother, e''⟩ := h.blob old hold
            exact absurd (e''.trans e.symm) (blobs.table.fresh b' hb other hother)
        · obtain ⟨_, b, hb, hcontent, hdurable⟩ := verified a' hnew
          rw [eq_of_key_eq hpairwise hb' hb (e.trans hcontent.symm)]
          exact hdurable
      · intro a' ha'
        rcases artifacts.mem.mp ha' with hold | hnew
        · obtain ⟨old, hold, e⟩ := hold
          rw [← e, state old hold]
          exact h.decided old hold
        · exact Or.inl (verified a' hnew).1
  | marked contentHash detectedAt state damaged changed blobs artifacts holders lineage same found =>
      have hblobs := marked_blobs db contentHash detectedAt state changed
      have hartifacts := marked_artifacts db contentHash detectedAt state changed
      rw [← blobs] at hblobs
      rw [← artifacts] at hartifacts
      have hcontent : ∀ a : ArtifactRow, (if a.contentHash = contentHash then a.marked changed detectedAt
          else a).contentHash = a.contentHash := key_if fun _ => rfl
      obtain ⟨hholds, hblob⟩ := h.refer hblobs hartifacts hcontent
      -- an artifact is failed, or of other content and as it was
      have hcases : ∀ a' ∈ db'.artifacts, a'.integrityState = .failed ∨
          a' ∈ db.artifacts ∧ a'.contentHash ≠ contentHash := by
        intro a' ha'
        obtain ⟨old, hold, e⟩ := (hartifacts.mem.mp ha').resolve_right fun hnew => by cases hnew
        by_cases hsame : old.contentHash = contentHash
        · rw [← e, if_pos hsame]
          exact Or.inl rfl
        · rw [← e, if_neg hsame]
          exact Or.inr ⟨hold, hsame⟩
      refine ⟨hblobs.pairwise h.blobs, hartifacts.pairwise h.artifacts, by rw [holders]; exact h.holders,
        by rw [holders]; exact hholds, fun a' ha' => ?_, fun a' ha' hv b' hb' e => ?_, fun a' ha' => ?_⟩
      · obtain ⟨old, hold, e⟩ := (hartifacts.mem.mp ha').resolve_right fun hnew => by cases hnew
        rw [← e]
        exact hblob old hold
      · rcases hcases a' ha' with hfailed | hold
        · rw [hfailed] at hv
          cases hv
        · obtain ⟨b, hb, e'⟩ := (hblobs.mem.mp hb').resolve_right fun hnew => by cases hnew
          have hother : b.contentHash ≠ contentHash := fun hsame => by
            rw [← e', if_pos hsame] at e
            exact hold.2 (e.symm.trans hsame)
          rw [← e', if_neg hother] at e ⊢
          exact h.verified a' hold.1 hv b hb e
      · rcases hcases a' ha' with hfailed | hold
        · exact Or.inr hfailed
        · exact h.decided a' hold.1

/-- The artifact is there, and failed. -/
def Failed (artifactId : String) (db : ArtifactDb) : Prop :=
  ∃ a, db.artifact? artifactId = some a ∧ a.integrityState = .failed

/-- **A failed artifact stays failed.** -/
theorem failed_transacted {artifactId : String} (h : StoreInv db)
    (hfound : Failed artifactId db) (hdone : Transacted env db db') : Failed artifactId db' := by
  obtain ⟨a, ha, hfailed⟩ := hfound
  have hmem := List.mem_of_find?_eq_some ha
  have hid : a.artifactId = artifactId := find?_key_eq ha
  have hnext := storeInv_transacted h hdone
  obtain ⟨rows, _, _, hchange⟩ := hdone
  have hkept : ∃ a' ∈ db'.artifacts, a'.artifactId = a.artifactId ∧ a'.integrityState = .failed := by
    cases hchange with
    | sound f b g new held blobs artifacts fixed state verified holders of lineage plain =>
        exact ⟨g a, artifacts.mem.mpr (Or.inl ⟨a, hmem, rfl⟩), artifacts.keeps a, (state a hmem).trans hfailed⟩
    | marked contentHash detectedAt state damaged changed blobs artifacts holders lineage same found =>
        have hartifacts := marked_artifacts db contentHash detectedAt state changed
        rw [← artifacts] at hartifacts
        refine ⟨_, hartifacts.mem.mpr (Or.inl ⟨a, hmem, rfl⟩), hartifacts.keeps a, ?_⟩
        by_cases hsame : a.contentHash = contentHash
        · rw [if_pos hsame]
          rfl
        · rw [if_neg hsame]
          exact hfailed
  obtain ⟨a', hmem', hid', hfailed'⟩ := hkept
  refine ⟨a', ?_, hfailed'⟩
  rw [← hid, ← hid']
  exact find?_of_mem hnext.artifacts hmem'

/-! ## 2. The findings of a step -/

/-- The blob of this content changed its durability to MISSING or CORRUPT. -/
def Damaged (db db' : ArtifactDb) (contentHash : String) : Prop :=
  ∃ b, db'.blob? contentHash = some b ∧ b.durability.damaged = true ∧
    (db.blob? contentHash).map BlobRow.durability ≠ some b.durability

/-- The Task holds the artifact, which is of this content. -/
def Held (db : ArtifactDb) (taskId artifactId contentHash : String) : Prop :=
  (∃ a ∈ db.artifacts, a.artifactId = artifactId ∧ a.contentHash = contentHash) ∧
    ∃ ta ∈ db.taskArtifacts, ta.taskId = taskId ∧ ta.artifactId = artifactId

/-- The rows of a step are new, and they tell once of each artifact and holder of content that the
    step damaged, and of nothing else. -/
def FoundOnce (env : JournalEnv) (db db' : ArtifactDb) : Prop :=
  ∃ rows, db'.events = db.events ++ rows ∧ Fresh env db.events rows ∧
    ∀ taskId artifactId contentHash,
      (Damaged db db' contentHash ∧ Held db taskId artifactId contentHash →
        rows.countP (isFinding taskId artifactId contentHash) = 1) ∧
      (¬(Damaged db db' contentHash ∧ Held db taskId artifactId contentHash) →
        rows.countP (isFinding taskId artifactId contentHash) = 0)

/-- Damage was there before. -/
theorem StoreInv.not_damaged (h : StoreInv db) {contentHash : String}
    (hkept : ∀ b' ∈ db'.blobs, b'.contentHash = contentHash → b'.durability.damaged = true →
      ∃ b ∈ db.blobs, b.contentHash = b'.contentHash ∧ b.durability = b'.durability) :
    ¬Damaged db db' contentHash := by
  intro hdamaged
  obtain ⟨b', hb', hbad, hchanged⟩ := hdamaged
  have hcontent : b'.contentHash = contentHash := find?_key_eq hb'
  obtain ⟨b, hb, e, hsame⟩ := hkept b' (List.mem_of_find?_eq_some hb') hcontent hbad
  have hfound := h.blob_eq hb
  rw [e, hcontent] at hfound
  exact hchanged (by rw [hfound, ← hsame]; rfl)

/-- Plain rows tell of no damage. -/
theorem countP_plain {rows : List EventRow} (h : ∀ row ∈ rows, Plain row)
    (taskId artifactId contentHash : String) : rows.countP (isFinding taskId artifactId contentHash) = 0 := by
  rw [List.countP_eq_zero]
  intro row hrow
  rw [h row hrow taskId artifactId contentHash]
  exact Bool.false_ne_true

theorem countP_findings {contentHash detectedAt : String} {previous : Option Durability}
    {state : Durability} {pairs : List (String × String)} {rows : List EventRow}
    (h : List.Forall₂ (FindingRow env contentHash detectedAt previous state) pairs rows)
    (taskId artifactId c : String) :
    rows.countP (isFinding taskId artifactId c) =
      if c = contentHash then pairs.count (artifactId, taskId) else 0 := by
  -- along the findings, each of its own pair
  induction h with
  | nil => simp
  | @cons about row pairs rows hrow hrest ih =>
      rw [List.countP_cons, ih, List.count_cons]
      have hiff : isFinding taskId artifactId c row = true ↔ _ := hrow.isFinding_iff
      by_cases hcontent : c = contentHash
      · rw [if_pos hcontent, if_pos hcontent]
        by_cases hsame : about = (artifactId, taskId)
        · rw [if_pos (hiff.mpr (by rw [hsame]; exact ⟨rfl, rfl, hcontent⟩)), if_pos (beq_iff_eq.mpr hsame)]
        · rw [if_neg fun e => hsame ?_, if_neg fun e => hsame (beq_iff_eq.mp e)]
          obtain ⟨htask, hartifact, _⟩ := hiff.mp e
          exact Prod.ext hartifact.symm htask.symm
      · rw [if_neg hcontent, if_neg hcontent, if_neg fun e => hcontent (hiff.mp e).2.2]

/-- The sorted keys of a selection, where keys differ pairwise. -/
theorem nodup_keys {α : Type} {key : α → String} {l : List α} (h : l.Pairwise fun a b => key a ≠ key b)
    (p : α → Bool) : (((l.filter p).map key).mergeSort).Nodup := by
  rw [(List.mergeSort_perm _ _).nodup_iff, List.Nodup, List.pairwise_map]
  exact h.filter p

/-- At most one Task holds an artifact. -/
theorem StoreInv.nodup_tasksOf (h : StoreInv db) (artifactId : String) :
    (db.tasksOf artifactId).Nodup := by
  unfold ArtifactDb.tasksOf
  rw [(List.mergeSort_perm _ _).nodup_iff, List.Nodup, List.pairwise_map]
  refine (h.holders.filter _).imp_of_mem fun {a b} ha hb hne => ?_
  have hid := of_decide_eq_true (List.mem_filter.mp ha).2
  exact absurd (hid.trans (of_decide_eq_true (List.mem_filter.mp hb).2).symm) hne

theorem mem_keys {α : Type} {key : α → String} {l : List α} {p : α → Bool} {k : String} :
    k ∈ ((l.filter p).map key).mergeSort ↔ ∃ a ∈ l, key a = k ∧ p a = true := by
  rw [List.mem_mergeSort, List.mem_map]
  constructor
  · intro h
    obtain ⟨a, ha, e⟩ := h
    obtain ⟨hmem, hp⟩ := List.mem_filter.mp ha
    exact ⟨a, hmem, e, hp⟩
  · intro h
    obtain ⟨a, hmem, e, hp⟩ := h
    exact ⟨a, List.mem_filter.mpr ⟨hmem, hp⟩, e⟩

theorem mem_holdings {artifactIds : List String} {artifactId taskId : String} :
    (artifactId, taskId) ∈ db.holdings artifactIds ↔
      artifactId ∈ artifactIds ∧ taskId ∈ db.tasksOf artifactId := by
  unfold ArtifactDb.holdings
  rw [List.mem_flatMap]
  constructor
  · intro h
    obtain ⟨id, hid, h⟩ := h
    obtain ⟨t, ht, e⟩ := List.mem_map.mp h
    obtain ⟨rfl, rfl⟩ := Prod.mk.inj e
    exact ⟨hid, ht⟩
  · intro h
    exact ⟨artifactId, h.1, List.mem_map.mpr ⟨taskId, h.2, rfl⟩⟩

/-- What the findings of a content are about: each artifact of it with its holder, once. -/
theorem StoreInv.count_holdings (h : StoreInv db) {taskId artifactId contentHash : String} :
    (Held db taskId artifactId contentHash →
      (db.holdings (db.artifactIdsForHash contentHash)).count (artifactId, taskId) = 1) ∧
    (¬Held db taskId artifactId contentHash →
      (db.holdings (db.artifactIdsForHash contentHash)).count (artifactId, taskId) = 0) := by
  have hiff : (artifactId, taskId) ∈ db.holdings (db.artifactIdsForHash contentHash) ↔
      Held db taskId artifactId contentHash := by
    rw [mem_holdings, ArtifactDb.artifactIdsForHash, ArtifactDb.tasksOf, mem_keys, mem_keys]
    simp only [decide_eq_true_eq]
    exact Iff.rfl
  have hnodup : (db.holdings (db.artifactIdsForHash contentHash)).Nodup := by
    unfold ArtifactDb.holdings
    rw [List.nodup_flatMap]
    refine ⟨fun id _ => (h.nodup_tasksOf id).map fun _ _ e => (Prod.mk.inj e).2,
      (nodup_keys h.artifacts _).imp fun hne p hp hq => ?_⟩
    obtain ⟨_, _, e⟩ := List.mem_map.mp hp
    obtain ⟨_, _, e'⟩ := List.mem_map.mp hq
    exact hne ((Prod.mk.inj (e.trans e'.symm)).1)
  exact ⟨fun hheld => List.count_eq_one_of_mem hnodup (hiff.mpr hheld),
    fun hheld => List.count_eq_zero.mpr fun hmem => hheld (hiff.mp hmem)⟩

/-- What is found of a content after it was marked. -/
theorem blob?_marked (db : ArtifactDb) (contentHash detectedAt : String) (state : Durability) (changed : Bool) :
    (db.marked contentHash state changed detectedAt).blob? contentHash =
      (db.blob? contentHash).map (BlobRow.marked state detectedAt) := by
  have hkey : ∀ b : BlobRow, (if b.contentHash = contentHash then b.marked state detectedAt
      else b).contentHash = b.contentHash := key_if fun _ => rfl
  unfold ArtifactDb.blob? ArtifactDb.marked
  rw [find?_map_key hkey]
  cases hfound : db.blobs.find? fun b => b.contentHash = contentHash with
  | none => rfl
  | some b => rw [Option.map_some, Option.map_some, if_pos (find?_key_eq hfound)]

/-- **Every change to MISSING or CORRUPT is recorded once for each artifact and holder.** -/
theorem foundOnce_transacted (h : StoreInv db) (hdone : Transacted env db db') :
    FoundOnce env db db' := by
  obtain ⟨rows, hevents, hfresh, hchange⟩ := hdone
  refine ⟨rows, hevents, hfresh, fun taskId artifactId c => ?_⟩
  cases hchange with
  | sound f b g a held blobs artifacts fixed state verified holders of lineage plain =>
      refine ⟨fun hboth => absurd hboth.1 (h.not_damaged fun b' hb' _ hbad => ?_), fun _ => countP_plain plain ..⟩
      rcases blobs.table.mem.mp hb' with hold | hnew
      · obtain ⟨old, hold, e⟩ := hold
        refine ⟨old, hold, by rw [← e]; exact (blobs.table.keeps old).symm, ?_⟩
        rcases blobs.kept old with hkept | hkept
        · rw [← e, hkept]
        · rw [← e, hkept] at hbad
          cases hbad
      · rw [blobs.new b' hnew] at hbad
        cases hbad
  | marked contentHash detectedAt state damaged changed blobs artifacts holders lineage same found =>
      have hlookup : db'.blob? contentHash = (db.blob? contentHash).map (BlobRow.marked state detectedAt) := by
        rw [← blob?_marked db contentHash detectedAt state changed, ArtifactDb.blob?, blobs]
        rfl
      by_cases hc : c = contentHash
      · subst hc
        by_cases hsame : (db.blob? c).map BlobRow.durability = some state
        · rw [same hsame]
          refine ⟨fun hboth => absurd hboth.1 fun hdamaged => ?_, fun _ => rfl⟩
          obtain ⟨b, hb, _, hne⟩ := hdamaged
          rw [hlookup] at hb
          obtain ⟨old, _, e⟩ := Option.map_eq_some_iff.mp hb
          rw [hsame, ← e] at hne
          exact hne rfl
        · rw [countP_findings (found hsame), if_pos rfl]
          refine ⟨fun hboth => h.count_holdings.1 hboth.2, fun hnot => h.count_holdings.2 fun hheld => ?_⟩
          -- an artifact has its blob, and that is marked now
          obtain ⟨a, ha, _, hcontent⟩ := hheld.1
          obtain ⟨b, hb, e⟩ := h.blob a ha
          have hfound := h.blob_eq hb
          rw [e, hcontent] at hfound
          exact hnot ⟨⟨b.marked state detectedAt, by rw [hlookup, hfound]; rfl, damaged, hsame⟩, hheld⟩
      · -- no other content is marked
        refine ⟨fun hboth => absurd hboth.1 (h.not_damaged fun b' hb' hcontent _ => ?_), fun _ => ?_⟩
        · have hblobs := marked_blobs db contentHash detectedAt state changed
          rw [← blobs] at hblobs
          obtain ⟨b, hb, e⟩ := (hblobs.mem.mp hb').resolve_right fun hnew => by cases hnew
          have hother : b.contentHash ≠ contentHash := fun hold => by
            rw [← e, if_pos hold] at hcontent
            exact hc (hcontent.symm.trans hold)
          rw [if_neg hother] at e
          rw [← e]
          exact ⟨b, hb, rfl, rfl⟩
        · by_cases hsame : (db.blob? contentHash).map BlobRow.durability = some state
          · rw [same hsame]
            rfl
          · rw [countP_findings (found hsame), if_neg hc]

/-! ## 3. The system, over runs -/

/-- The artifact is verified, and its blob is durable. -/
def Intact (db : ArtifactDb) (artifactId : String) : Prop :=
  ∃ stored, db.stored? artifactId = some stored ∧ stored.1.integrityState = .verified ∧
    stored.2.durability = .durable

theorem ensureArtifactIntegrityDurable_ok {artifactId : String} {u : Unit}
    (h : ensureArtifactIntegrityDurable db artifactId = .ok u) : Intact db artifactId := by
  have hsome := rejectIf_ok.mp h
  rw [Bool.not_eq_false'] at hsome
  cases hstored : db.stored? artifactId with
  | none =>
      rw [hstored] at hsome
      cases hsome
  | some stored =>
      rw [hstored] at hsome
      have hgood := (Bool.and_eq_true _ _).mp hsome
      exact ⟨stored, hstored, of_decide_eq_true hgood.1, of_decide_eq_true hgood.2⟩

theorem Intact.congr {artifactId : String} (h : Intact db artifactId)
    (hartifacts : db'.artifacts = db.artifacts) (hblobs : db'.blobs = db.blobs) : Intact db' artifactId := by
  unfold Intact ArtifactDb.stored? ArtifactDb.artifact? ArtifactDb.blob? at *
  rw [hartifacts, hblobs]
  exact h

/-- What the exports of the managers have at hand. -/
structure FlightInv (sys : ArtifactSystem) : Prop where
  past : ∀ f ∈ sys.exports, f.lease.fenceEpoch ≤ sys.db.lease.fenceEpoch
  once : sys.exports.Pairwise fun f g => f.lease ≠ g.lease
  intact : ∀ f ∈ sys.exports, f.lease = sys.db.lease → 0 < f.buffered → Intact sys.db f.artifactId

/-- Rows that stay for the artifacts and their blobs. -/
theorem FlightInv.quiet (h : FlightInv sys)
    (hlease : db.lease = sys.db.lease) (hartifacts : db.artifacts = sys.db.artifacts)
    (hblobs : db.blobs = sys.db.blobs) : FlightInv (sys.withDb db) := by
  refine ⟨fun f hf => ?_, h.once, fun f hf hown hpos => ?_⟩
  · rw [ArtifactSystem.withDb, hlease]
    exact h.past f hf
  · exact (h.intact f hf (hown.trans hlease) hpos).congr hartifacts hblobs

/-- No export of the current manager is in progress. -/
theorem FlightInv.idle (h : FlightInv sys)
    (hlease : db.lease = sys.db.lease) (hidle : ∀ f ∈ sys.exports, f.lease ≠ sys.db.lease) :
    FlightInv (sys.withDb db) := by
  refine ⟨fun f hf => ?_, h.once, fun f hf hown _ => ?_⟩
  · rw [ArtifactSystem.withDb, hlease]
    exact h.past f hf
  · exact absurd (hown.trans hlease) (hidle f hf)

theorem not_busy (h : sys.busy lease = false) : ∀ f ∈ sys.exports, f.lease ≠ lease := fun f hf => by
  simpa using List.any_eq_false.mp h f hf

theorem FlightInv.by (h : FlightInv sys)
    (hby : By env lease sys.db db) (hidle : ∀ f ∈ sys.exports, f.lease ≠ lease) :
    FlightInv (sys.withDb db) := by
  rcases hby.2 with e | e
  · rw [e]
    exact h
  · exact h.idle hby.1.1 fun f hf => by rw [e]; exact hidle f hf

theorem FlightInv.without (h : FlightInv sys) (lease : Lease) : FlightInv (sys.without lease) :=
  ⟨fun f hf => h.past f (List.mem_filter.mp hf).1, h.once.filter _,
    fun f hf => h.intact f (List.mem_filter.mp hf).1⟩

theorem mem_without {f : ExportFlight}
    (h : f ∈ (sys.without lease).exports) : f.lease ≠ lease := of_decide_eq_true (List.mem_filter.mp h).2

/-- The export of a manager goes on with bytes of an intact artifact. -/
theorem FlightInv.buffering (h : FlightInv sys) {f : ExportFlight}
    (hf : f ∈ sys.exports) (hlease : f.lease = lease) {count : Nat}
    (hintact : lease = sys.db.lease → 0 < count → Intact sys.db f.artifactId) :
    FlightInv (sys.buffering lease count) := by
  have hkey : ∀ g : ExportFlight, (if g.lease = lease then { g with buffered := count } else g).lease =
      g.lease := key_if fun _ => rfl
  have htable : Updated ExportFlight.lease sys.exports _ none (sys.buffering lease count).exports :=
    updated_map hkey
  refine ⟨fun g hg => ?_, htable.pairwise h.once, fun g hg hown hpos => ?_⟩
  · obtain ⟨old, hold, e⟩ := (htable.mem.mp hg).resolve_right fun hnew => by cases hnew
    rw [← e, hkey]
    exact h.past old hold
  · obtain ⟨old, hold, e⟩ := (htable.mem.mp hg).resolve_right fun hnew => by cases hnew
    by_cases hsame : old.lease = lease
    · -- one export of this manager
      obtain rfl : old = f := eq_of_key_eq h.once hold hf (hsame.trans hlease.symm)
      rw [← e, if_pos hsame] at hown hpos ⊢
      exact hintact (hsame.symm.trans hown) hpos
    · rw [← e, if_neg hsame] at hown hpos ⊢
      exact h.intact old hold hown hpos

/-- What a step does to the rows and to the exports, and what it hands out. -/
structure Stepped (env : JournalEnv) (sys : ArtifactSystem) (done : ArtifactSystem × Delivery) : Prop where
  rows : Transacted env sys.db done.1.db
  flights : FlightInv done.1
  delivered : ∀ artifactId count, done.2 = some (artifactId, count) → Intact sys.db artifactId

theorem stepped_same (h : FlightInv sys) : Stepped env sys (sys, none) :=
  ⟨(leased_refl sys.db).2, h, fun _ _ e => by cases e⟩

theorem stepped_call (h : FlightInv sys)
    (hby : By env lease sys.db db) : Stepped env sys (sys.call lease db) := by
  unfold ArtifactSystem.call
  by_cases hbusy : sys.busy lease = true
  · rw [if_pos hbusy]
    exact stepped_same h
  · rw [if_neg hbusy]
    exact ⟨hby.1.2, h.by hby (not_busy (Bool.eq_false_iff.mpr hbusy)), fun _ _ e => by cases e⟩

theorem stepped_without (h : FlightInv sys) (lease : Lease) {delivery : Delivery}
    (hdelivered : ∀ artifactId count, delivery = some (artifactId, count) → Intact sys.db artifactId) :
    Stepped env sys (sys.without lease, delivery) :=
  ⟨(leased_refl sys.db).2, h.without lease, hdelivered⟩

/-- What a reader is handed is of an intact artifact. -/
theorem stepped_read (h : FlightInv sys) (lease : Lease) (artifactId : String)
    (o : ReadOutside) : Stepped env sys (sys.read env lease artifactId o) := by
  unfold ArtifactSystem.read
  cases hread : readArtifact env sys.db lease artifactId o with
  | error e => exact stepped_same h
  | ok done =>
      obtain ⟨db, count⟩ := done
      obtain ⟨hleased, hartifacts, hblobs, _, hintact⟩ := readArtifact_ok hread
      refine ⟨hleased.2, h.quiet hleased.1 hartifacts hblobs, fun id n e => ?_⟩
      rw [← (Prod.mk.inj (Option.some.inj e)).1]
      exact ensureArtifactIntegrityDurable_ok hintact

/-- An export begins with nothing at hand. -/
theorem stepped_beginExport (hinv : StoreInv sys.db) (h : FlightInv sys) (lease : Lease)
    (artifactId : String) (o : ReaderOutside) :
    Stepped env sys (sys.beginExport env lease artifactId o) := by
  unfold ArtifactSystem.beginExport
  by_cases hbusy : sys.busy lease = true
  · rw [if_pos hbusy]
    exact stepped_same h
  · rw [if_neg hbusy]
    have hidle := not_busy (Bool.eq_false_iff.mpr hbusy)
    obtain ⟨hby, hlease⟩ := by_openArtifactReader hinv lease artifactId o
    cases hopen : openArtifactReader env sys.db lease artifactId o with
    | mk db result =>
        rw [hopen] at hby hlease
        have hflights := h.by hby hidle
        cases result with
        | error e => exact ⟨hby.1.2, hflights, fun _ _ e => by cases e⟩
        | ok handle =>
            refine ⟨hby.1.2, ⟨fun f hf => ?_, pairwise_snoc h.once fun f hf => hidle f hf,
              fun f hf hown hpos => ?_⟩, fun _ _ e => by cases e⟩
            · rcases List.mem_append.mp hf with hf | hf
              · exact hflights.past f hf
              · rw [List.mem_singleton.mp hf, ← hlease handle rfl]
                exact Nat.le_of_eq (congrArg Lease.fenceEpoch hby.1.1).symm
            · rcases List.mem_append.mp hf with hf | hf
              · exact hflights.intact f hf hown hpos
              · rw [List.mem_singleton.mp hf] at hpos
                exact absurd hpos (Nat.lt_irrefl 0)

/-- What a manager reads for its export is of an intact artifact. -/
theorem stepped_exportRead (h : FlightInv sys) (lease : Lease) (o : ReadOutside) :
    Stepped env sys (sys.exportRead env lease o) := by
  unfold ArtifactSystem.exportRead
  cases hfound : sys.flight? lease with
  | none => exact stepped_same h
  | some f =>
      dsimp only
      cases hread : readArtifact env sys.db lease f.artifactId o with
      | error e => exact stepped_without h lease fun _ _ e => by cases e
      | ok done =>
          obtain ⟨db, count⟩ := done
          obtain ⟨hleased, hartifacts, hblobs, _, hintact⟩ := readArtifact_ok hread
          refine ⟨hleased.2, ?_, fun _ _ e => by cases e⟩
          refine (h.quiet hleased.1 hartifacts hblobs).buffering (List.mem_of_find?_eq_some hfound)
            (find?_key_eq hfound) fun _ _ => ?_
          exact (ensureArtifactIntegrityDurable_ok hintact).congr hartifacts hblobs

/-- What a destination is handed is of an intact artifact. -/
theorem stepped_exportWrite (h : FlightInv sys) (lease : Lease)
    (fence : TaskResult Unit) (written : TaskResult Nat) :
    Stepped env sys (sys.exportWrite lease fence written) := by
  unfold ArtifactSystem.exportWrite
  cases hfound : sys.flight? lease with
  | none => exact stepped_same h
  | some f =>
      dsimp only
      have hmem := List.mem_of_find?_eq_some hfound
      have hown : f.lease = lease := find?_key_eq hfound
      by_cases hempty : f.buffered = 0
      · rw [if_pos hempty]
        exact stepped_same h
      · rw [if_neg hempty]
        cases hfence : sys.db.assertLease lease >>= fun _ => fence with
        | error e => exact stepped_without h lease fun _ _ e => by cases e
        | ok u =>
            have hlease := assertLease_ok (unit_bind_eq_ok.mp hfence).1
            have hintact := h.intact f hmem (hown.trans hlease.symm) (Nat.pos_of_ne_zero hempty)
            have hdelivered : ∀ artifactId count, some (f.artifactId, f.buffered) = some (artifactId, count) →
                Intact sys.db artifactId := by
              intro artifactId count e
              rw [← (Prod.mk.inj (Option.some.inj e)).1]
              exact hintact
            cases written with
            | error e => exact stepped_without h lease hdelivered
            | ok n =>
                dsimp only
                by_cases hbad : (n = 0 || f.buffered < n) = true
                · rw [if_pos hbad]
                  exact stepped_without h lease hdelivered
                · rw [if_neg hbad]
                  exact ⟨(leased_refl sys.db).2, h.buffering hmem hown fun _ _ => hintact, hdelivered⟩

theorem stepped_endExport (h : FlightInv sys) (lease : Lease) (mismatch : Bool)
    (now : String) : Stepped env sys (sys.endExport env lease mismatch now) := by
  unfold ArtifactSystem.endExport
  cases hfound : sys.flight? lease with
  | none => exact stepped_same h
  | some f =>
      dsimp only
      cases mismatch with
      | false => exact stepped_without h lease fun _ _ e => by cases e
      | true =>
          have hby : By env lease sys.db (settledDb sys.db
              (markContentHashFailed env sys.db lease f.contentHash .corrupt now)) :=
            by_committing fun after hok => markContentHashFailed_ok rfl hok
          exact ⟨hby.1.2, (h.without lease).by hby fun g hg => mem_without hg, fun _ _ e => by cases e⟩

theorem stepped_append (h : FlightInv sys) (taskId : String) (event : Json) :
    Stepped env sys (sys.append env taskId event) := by
  unfold ArtifactSystem.append
  by_cases hkind : stringField event "event_type" = some integrityFailedType
  · rw [if_pos hkind]
    exact stepped_same h
  · rw [if_neg hkind]
    cases happend : appendTo env sys.db.events taskId event with
    | error e => exact stepped_same h
    | ok events =>
        obtain ⟨row, hrow, happ⟩ := appendTo_ok happend
        have hother : row.eventType ≠ integrityFailedType := fun e => hkind (by rw [← e]; exact happ.eventType)
        have hleased : Leased env sys.db { sys.db with events := events } :=
          leased_append happ happ.eventType hother rfl hrow fun hplain => change_quiet rfl ⟨rfl, rfl, rfl⟩ hplain
        exact ⟨hleased.2, h.quiet rfl rfl rfl, fun _ _ e => by cases e⟩

/-- **A step changes the rows by a transaction, keeps the exports on intact artifacts, and hands out
    bytes of intact artifacts only.** -/
theorem stepped (hinv : StoreInv sys.db) (h : FlightInv sys) (op : ArtifactOp) :
    Stepped env sys (sys.step env op) := by
  cases op with
  | claim owner =>
      refine ⟨transacted_quiet rfl ⟨rfl, rfl, rfl⟩ rfl, ⟨fun f hf => Nat.le_succ_of_le (h.past f hf), h.once,
        fun f hf hown _ => ?_⟩, fun _ _ e => by cases e⟩
      -- no export is of a manager that claims later
      have hpast := h.past f hf
      rw [hown] at hpast
      exact absurd hpast (Nat.not_succ_le_self _)
  | importArtifact lease request o => exact stepped_call h (by_importArtifact ..)
  | publish lease request allocation o => exact stepped_call h (by_publishArtifactOutput hinv ..)
  | failPublication lease request requestJson reasonCode now taskClear =>
      exact stepped_call h (by_committing fun after hok => failPendingPublication_ok hok)
  | markIntegrity lease artifactId taskId contentHash now =>
      exact stepped_call h (by_committing fun after hok => markIntegrityFailed_ok hok)
  | recheck lease contentHash stored reconciledAt =>
      exact stepped_call h (by_committing fun after hok => recheckBlob_ok hok)
  | adoptOrphan lease contentHash sizeBytes storageRef reconciledAt =>
      exact stepped_call h (by_committing fun after hok => adoptOrphan_ok hok)
  | openReader lease artifactId o => exact stepped_call h (by_openArtifactReader hinv ..).1
  | read lease artifactId o => exact stepped_read h lease artifactId o
  | beginExport lease artifactId o => exact stepped_beginExport hinv h lease artifactId o
  | exportRead lease o => exact stepped_exportRead h lease o
  | exportWrite lease fence written => exact stepped_exportWrite h lease fence written
  | endExport lease mismatch now => exact stepped_endExport h lease mismatch now
  | append taskId event => exact stepped_append h taskId event

/-- What holds of the store in every run. -/
def SystemInv (sys : ArtifactSystem) : Prop := StoreInv sys.db ∧ FlightInv sys

theorem systemInv_step (h : SystemInv sys) (op : ArtifactOp) : SystemInv (sys.step env op).1 :=
  ⟨storeInv_transacted h.1 (stepped h.1 h.2 op).rows, (stepped h.1 h.2 op).flights⟩

/-- What transactions keep, a run keeps. -/
theorem run_keeps (P : ArtifactDb → Prop)
    (hstep : ∀ {db db'}, StoreInv db → P db → Transacted env db db' → P db') (ops : List ArtifactOp) :
    ∀ {sys : ArtifactSystem}, SystemInv sys → P sys.db →
      SystemInv (sys.run env ops) ∧ P (sys.run env ops).db := by
  -- along the run, step by step
  induction ops with
  | nil => exact fun h hp => ⟨h, hp⟩
  | cons op rest ih =>
      exact fun h hp => ih (systemInv_step h op) (hstep h.1 hp (stepped h.1 h.2 op).rows)

theorem systemInv_fresh (lease : Lease) : SystemInv (ArtifactSystem.fresh lease) :=
  ⟨storeInv_fresh lease, fun _ h => absurd h List.not_mem_nil, .nil, fun _ h => absurd h List.not_mem_nil⟩

/-- **Integrity findings are sticky and recorded once**, in every run: a verified artifact has a
    durable blob, the artifacts of damaged content are failed, a failed artifact stays failed whatever
    follows, no byte of it is handed out, and a step that damages content records it once for each
    artifact and its holder. -/
theorem integrity_findings_sticky (env : JournalEnv) (lease : Lease) (ops : List ArtifactOp) :
    let sys := (ArtifactSystem.fresh lease).run env ops
    (∀ a ∈ sys.db.artifacts, a.integrityState = .verified → ∃ b ∈ sys.db.blobs,
      b.contentHash = a.contentHash ∧ b.durability = .durable) ∧
    (∀ b ∈ sys.db.blobs, b.durability.damaged = true → ∀ a ∈ sys.db.artifacts,
      a.contentHash = b.contentHash → a.integrityState = .failed) ∧
    (∀ artifactId a, sys.db.artifact? artifactId = some a → a.integrityState = .failed →
      ∀ more, ∃ a', (sys.run env more).db.artifact? artifactId = some a' ∧
        a'.integrityState = .failed) ∧
    (∀ op artifactId count, (sys.step env op).2 = some (artifactId, count) →
      ∃ a b, sys.db.stored? artifactId = some (a, b) ∧ a.integrityState = .verified ∧
        b.durability = .durable) ∧
    ∀ op, FoundOnce env sys.db (sys.step env op).1.db := by
  intro sys
  obtain ⟨⟨hstore, hflights⟩, _⟩ : SystemInv sys ∧ _ :=
    run_keeps (fun _ => True) (fun _ _ _ => trivial) ops (systemInv_fresh lease) trivial
  refine ⟨fun a ha hv => ?_, fun b hb hbad a ha hcontent => ?_, fun artifactId a ha hfailed more => ?_,
    fun op artifactId count hdelivery => ?_, fun op => ?_⟩
  · obtain ⟨b, hb, e⟩ := hstore.blob a ha
    exact ⟨b, hb, e, hstore.verified a ha hv b hb e⟩
  · rcases hstore.decided a ha with hv | hfailed
    · rw [hstore.verified a ha hv b hb hcontent.symm] at hbad
      cases hbad
    · exact hfailed
  · exact (run_keeps (Failed artifactId) failed_transacted more ⟨hstore, hflights⟩ ⟨a, ha, hfailed⟩).2
  · obtain ⟨stored, hstored, hv, hdurable⟩ := (stepped hstore hflights op).delivered artifactId count hdelivery
    exact ⟨stored.1, stored.2, hstored, hv, hdurable⟩
  · exact foundOnce_transacted hstore (stepped hstore hflights op).rows

end Aios.Artifacts
