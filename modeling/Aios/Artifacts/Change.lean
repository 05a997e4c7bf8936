/-
  File:      Aios/Artifacts/Change.lean
  Subject:   WHAT A CALL OF THE STORE CAN DO to the blobs, the artifacts and their holders.

  * `Fresh` -- the rows a step appends are of new identities, in the streams of their Tasks;
  * `FindingRow` -- the row of one finding, known by `isFinding`;
  * `Change` -- everything a transaction can do to the rows, with the events it records;
  * one lemma for each function: what it does is a `Change`, under the lease.
-/
import Aios.Artifacts.Store
import Aios.Lib.Keyed
import Aios.Tasks.Event

namespace Aios.Artifacts

open Lib Json Provenance Tasks

variable {env : JournalEnv}

/-! ## 1. Events -/

variable {taskId contentHash now artifactId : String} {event : Json} {row : EventRow}
  {state : Durability} {db db' after : ArtifactDb} {lease : Lease} {placed : Placed}
  {a : ArtifactRow}

theorem appendTo_ok {events after : List EventRow} (h : appendTo env events taskId event = .ok after) :
    ∃ row, after = events ++ [row] ∧ Appended env events taskId event row := by
  unfold appendTo at h
  rw [bind_eq_ok'] at h
  obtain ⟨row, hrow, h⟩ := h
  exact ⟨row, (Except.ok.inj h).symm, appendInTx_ok (mapError_eq_ok.mp hrow)⟩

/-- Rows in the streams of their Tasks, with identities not used before and none twice. -/
structure Fresh (env : JournalEnv) (events rows : List EventRow) : Prop where
  new : ∀ row ∈ rows, row.eventId ∉ events.map EventRow.eventId
  once : (rows.map EventRow.eventId).Nodup
  stream : ∀ row ∈ rows, streamId env.digest row.taskId = .ok row.streamId

theorem fresh_nil (events : List EventRow) : Fresh env events [] :=
  ⟨fun _ h => absurd h List.not_mem_nil, List.nodup_nil, fun _ h => absurd h List.not_mem_nil⟩

/-- An appended row is fresh. -/
theorem fresh_appended {events : List EventRow}
    (h : Appended env events taskId event row) : Fresh env events [row] := by
  refine ⟨fun r hr hold => ?_, List.nodup_singleton _, fun r hr => ?_⟩
  · obtain ⟨other, hmem, e⟩ := List.mem_map.mp hold
    have hconflict := List.any_eq_false.mp h.fresh other hmem
    rw [List.mem_singleton.mp hr] at e
    simp [e] at hconflict
  · rw [List.mem_singleton.mp hr, h.stored_eq.2]
    exact h.stream

theorem Fresh.cons {events rows : List EventRow} (h : Fresh env events [row])
    (hrest : Fresh env (events ++ [row]) rows) : Fresh env events (row :: rows) := by
  refine ⟨fun r hr => ?_, ?_, fun r hr => ?_⟩
  · rcases List.mem_cons.mp hr with e | hr
    · rw [e]
      exact h.new row List.mem_cons_self
    · have hnew := hrest.new r hr
      rw [List.map_append, List.mem_append, not_or] at hnew
      exact hnew.1
  · rw [List.map_cons, List.nodup_cons]
    refine ⟨fun hold => ?_, hrest.once⟩
    obtain ⟨other, hmem, e⟩ := List.mem_map.mp hold
    have hnew := hrest.new other hmem
    rw [List.map_append, List.mem_append, not_or] at hnew
    exact hnew.2 (by rw [e]; exact List.mem_singleton.mpr rfl)
  · rcases List.mem_cons.mp hr with e | hr
    · rw [e]
      exact h.stream row List.mem_cons_self
    · exact hrest.stream r hr

/-- The row tells of no damage to content. -/
def Plain (row : EventRow) : Prop := ∀ taskId artifactId contentHash,
  isFinding taskId artifactId contentHash row = false

/-- A row of another type is no finding. -/
theorem plain_of_type {events : List EventRow} {taskId kind : String}
    (h : Appended env events taskId event row)
    (hkind : stringField event "event_type" = some kind) (hother : kind ≠ integrityFailedType) :
    Plain row := by
  have e : row.eventType = kind := Option.some.inj (h.eventType.symm.trans hkind)
  intro t a c
  simp [isFinding, e, hother]

/-- The row of a finding about an artifact of a Task. -/
structure FindingRow (env : JournalEnv) (contentHash detectedAt : String) (previous : Option Durability)
    (state : Durability) (about : String × String) (row : EventRow) : Prop where
  task : row.taskId = about.2
  kind : row.eventType = integrityFailedType
  event : ∃ ordinal, row.event =
    findingEvent env.digest about.2 about.1 contentHash detectedAt ordinal previous state

theorem findingEvent_floatFree (digest : Digest) (taskId artifactId contentHash detectedAt : String)
    (ordinal : Nat) (previous : Option Durability) (state : Durability) :
    (findingEvent digest taskId artifactId contentHash detectedAt ordinal previous state).floatFree =
      true := by
  have hactor : storeActor.floatFree = true := floatFree_ofFields (by simp [floatFree])
  have hprevious : (encodeOption (fun p : Durability => Json.str p.asStr) previous).floatFree = true := by
    cases previous <;> rfl
  have hdetails := floatFree_ofFields (l := [("content_hash", some (.str contentHash)),
    ("observation_ordinal", some (encodeNat ordinal)),
    ("previous_durability_state", some (encodeOption (fun p : Durability => .str p.asStr) previous)),
    ("durability_state", some (.str state.asStr))]) (by simp [floatFree, encodeNat, hprevious])
  refine floatFree_ofFields ?_
  simp [floatFree, elementsFloatFree, hactor, hdetails]

theorem findingEvent_kind (digest : Digest) (taskId artifactId contentHash detectedAt : String)
    (ordinal : Nat) (previous : Option Durability) (state : Durability) :
    stringField (findingEvent digest taskId artifactId contentHash detectedAt ordinal previous state)
      "event_type" = some integrityFailedType := by
  simp [stringField, findingEvent, Json.asStr]

/-- A finding is found, under its own Task, artifact and content only. -/
theorem FindingRow.isFinding_iff {contentHash detectedAt : String} {previous : Option Durability}
    {about : String × String}
    (h : FindingRow env contentHash detectedAt previous state about row) {t a c : String} :
    isFinding t a c row = true ↔ t = about.2 ∧ a = about.1 ∧ c = contentHash := by
  obtain ⟨ordinal, e⟩ := h.event
  have hhash : (pointer row.event ["details", "content_hash"]).bind asStr = some contentHash := by
    rw [e]
    simp [pointer, findingEvent, Json.asStr]
  have hinput : ((pointer row.event ["input_artifacts"]).bind asArr).bind List.head? =
      some (.str about.1) := by
    rw [e]
    simp [pointer, findingEvent, Json.asArr]
  unfold isFinding
  rw [hhash, hinput, h.task, h.kind]
  simp only [Bool.and_eq_true, decide_eq_true_eq, Option.some.injEq, Json.str.injEq]
  constructor
  · intro hall
    exact ⟨hall.1.1.1.symm, hall.2.symm, hall.1.2.symm⟩
  · intro hall
    exact ⟨⟨⟨hall.1.symm, trivial⟩, hall.2.2.symm⟩, hall.2.1.symm⟩

/-- **One event is recorded for each of the artifacts and Tasks.** -/
theorem recordFindings_ok {contentHash detectedAt : String} {previous : Option Durability}
    {pairs : List (String × String)} {events after : List EventRow}
    (h : recordFindings env contentHash detectedAt previous state pairs events = .ok after) :
    ∃ rows, after = events ++ rows ∧ Fresh env events rows ∧
      List.Forall₂ (FindingRow env contentHash detectedAt previous state) pairs rows := by
  -- along the artifacts and Tasks, with the events recorded so far
  induction pairs generalizing events with
  | nil => exact ⟨[], by rw [List.append_nil]; exact (Except.ok.inj h).symm, fresh_nil _, .nil⟩
  | cons pair rest ih =>
      obtain ⟨artifactId, taskId⟩ := pair
      rw [recordFindings, bind_eq_ok'] at h
      obtain ⟨middle, hfirst, h⟩ := h
      obtain ⟨row, e, happ⟩ := appendTo_ok hfirst
      subst e
      obtain ⟨rows, e, hfresh, hall⟩ := ih h
      refine ⟨row :: rows, by rw [e, List.append_assoc]; rfl, (fresh_appended happ).cons hfresh,
        .cons ?_ hall⟩
      refine ⟨happ.stored_eq.2, Option.some.inj (happ.eventType.symm.trans (findingEvent_kind ..)),
        events.countP (isFinding taskId artifactId contentHash) + 1, ?_⟩
      rw [happ.stored_eq.1]
      exact env.reread_exact _ (findingEvent_floatFree ..)

/-! ## 2. What a step can do to the rows -/

/-- An artifact is verified over a durable blob, or failed; every artifact has one holder. -/
structure StoreInv (db : ArtifactDb) : Prop where
  blobs : db.blobs.Pairwise fun a b => a.contentHash ≠ b.contentHash
  artifacts : db.artifacts.Pairwise fun a b => a.artifactId ≠ b.artifactId
  holders : db.taskArtifacts.Pairwise fun a b => a.artifactId ≠ b.artifactId
  holds : ∀ ta ∈ db.taskArtifacts, ∃ a ∈ db.artifacts, a.artifactId = ta.artifactId
  blob : ∀ a ∈ db.artifacts, ∃ b ∈ db.blobs, b.contentHash = a.contentHash
  verified : ∀ a ∈ db.artifacts, a.integrityState = .verified → ∀ b ∈ db.blobs,
    b.contentHash = a.contentHash → b.durability = .durable
  decided : ∀ a ∈ db.artifacts, a.integrityState = .verified ∨ a.integrityState = .failed

/-- The blobs after a step that damages none of them. -/
structure Healthy (blobs : List BlobRow) (f : BlobRow → BlobRow) (b : Option BlobRow)
    (blobs' : List BlobRow) : Prop where
  table : Updated BlobRow.contentHash blobs f b blobs'
  kept : ∀ b, (f b).durability = b.durability ∨ (f b).durability = .durable
  new : ∀ b' ∈ b, b'.durability.damaged = false

/-- What no step changes of an artifact. -/
def ArtifactRow.fixed (a : ArtifactRow) : String × String × Sensitivity × RetentionClass × Option String :=
  (a.artifactId, a.contentHash, a.sensitivity, a.retentionClass, a.originBindingId)

/-- The labels of one artifact are at most those of the other. -/
def ArtifactRow.Below (p a : ArtifactRow) : Prop :=
  p.sensitivity.propagationRank ≤ a.sensitivity.propagationRank ∧
    p.retentionClass.propagationRank ≤ a.retentionClass.propagationRank

/-- An edge was there, or leads to the new artifact from one that was there, and where the new one is
    of a binding, from one below it. -/
def Edges (db : ArtifactDb) (a : Option ArtifactRow) (lineage : List LineageRow) : Prop :=
  ∀ e ∈ lineage, e ∈ db.lineage ∨ ∃ a' ∈ a, e.childArtifactId = a'.artifactId ∧
    ∃ p ∈ db.artifacts, p.artifactId = e.parentArtifactId ∧ (a'.originBindingId.isSome = true → p.Below a')

/-- Everything a transaction can do to the blobs, the artifacts and their holders, with the events
    it records: nothing fails and a new artifact is verified over a durable blob; or the rows of one
    content are marked. -/
inductive Change (env : JournalEnv) (db db' : ArtifactDb) (rows : List EventRow) : Prop where
  | sound (f : BlobRow → BlobRow) (b : Option BlobRow) (g : ArtifactRow → ArtifactRow)
      (a : Option ArtifactRow) (held : Option TaskArtifactRow)
      (blobs : Healthy db.blobs f b db'.blobs)
      (artifacts : Updated ArtifactRow.artifactId db.artifacts g a db'.artifacts)
      (fixed : ∀ a, (g a).fixed = a.fixed)
      (state : ∀ a ∈ db.artifacts, (g a).integrityState = a.integrityState)
      (verified : ∀ a' ∈ a, a'.integrityState = .verified ∧
        ∃ b ∈ db'.blobs, b.contentHash = a'.contentHash ∧ b.durability = .durable)
      (holders : db'.taskArtifacts = db.taskArtifacts ++ held.toList)
      (of : held.map TaskArtifactRow.artifactId = a.map ArtifactRow.artifactId)
      (lineage : Edges db a db'.lineage) (plain : ∀ row ∈ rows, Plain row)
  | marked (contentHash detectedAt : String) (state : Durability) (damaged : state.damaged = true)
      (changed : Bool)
      (blobs : db'.blobs = (db.marked contentHash state changed detectedAt).blobs)
      (artifacts : db'.artifacts = (db.marked contentHash state changed detectedAt).artifacts)
      (holders : db'.taskArtifacts = db.taskArtifacts) (lineage : db'.lineage = db.lineage)
      (same : (db.blob? contentHash).map BlobRow.durability = some state → rows = [])
      (found : (db.blob? contentHash).map BlobRow.durability ≠ some state →
        List.Forall₂ (FindingRow env contentHash detectedAt
          ((db.blob? contentHash).map BlobRow.durability) state)
          (db.holdings (db.artifactIdsForHash contentHash)) rows)

/-- A change of the rows, with the events it appended. -/
def Transacted (env : JournalEnv) (db db' : ArtifactDb) : Prop :=
  ∃ rows, db'.events = db.events ++ rows ∧ Fresh env db.events rows ∧ Change env db db' rows

/-- A change under the lease. -/
def Leased (env : JournalEnv) (db db' : ArtifactDb) : Prop :=
  db'.lease = db.lease ∧ Transacted env db db'

/-- A call of a manager: it leaves the rows as they are, or has the lease. -/
def By (env : JournalEnv) (lease : Lease) (db db' : ArtifactDb) : Prop :=
  Leased env db db' ∧ (db' = db ∨ db.lease = lease)

theorem healthy_same (blobs : List BlobRow) : Healthy blobs id none blobs :=
  ⟨updated_same, fun _ => Or.inl rfl, fun _ h => by cases h⟩

theorem healthy_snoc {blobs : List BlobRow} {b : BlobRow} (hnew : ∀ other ∈ blobs, other.contentHash ≠ b.contentHash)
    (hb : b.durability.damaged = false) : Healthy blobs id (some b) (blobs ++ [b]) :=
  ⟨updated_snoc hnew, fun _ => Or.inl rfl, fun b' hb' => by rw [← Option.mem_some_iff.mp hb']; exact hb⟩

/-- The blob of one content is durable now. -/
theorem healthy_durableAt (blobs : List BlobRow) (contentHash verifiedAt : String) :
    Healthy blobs (fun b => if b.contentHash = contentHash then b.durableAt verifiedAt else b) none
      (blobs.map fun b => if b.contentHash = contentHash then b.durableAt verifiedAt else b) := by
  refine ⟨updated_map (key_if fun _ => rfl), fun b => ?_, fun _ h => by cases h⟩
  by_cases hb : b.contentHash = contentHash
  · rw [if_pos hb]
    exact Or.inr rfl
  · rw [if_neg hb]
    exact Or.inl rfl

/-- The artifacts, their holders and their lineage stay. -/
structure Apart (db db' : ArtifactDb) : Prop where
  artifacts : db'.artifacts = db.artifacts
  holders : db'.taskArtifacts = db.taskArtifacts
  lineage : db'.lineage = db.lineage

theorem change_of_blobs {rows : List EventRow} {f : BlobRow → BlobRow}
    {b : Option BlobRow} (hblobs : Healthy db.blobs f b db'.blobs) (h : Apart db db')
    (hplain : ∀ row ∈ rows, Plain row) : Change env db db' rows :=
  .sound f b id none none hblobs (by rw [h.artifacts]; exact updated_same) (fun _ => rfl) (fun _ _ => rfl)
    (fun _ h => by cases h) (by rw [h.holders]; exact (List.append_nil _).symm) rfl
    (fun e he => Or.inl (by rw [← h.lineage]; exact he)) hplain

theorem change_quiet {rows : List EventRow} (hblobs : db'.blobs = db.blobs)
    (h : Apart db db') (hplain : ∀ row ∈ rows, Plain row) : Change env db db' rows :=
  change_of_blobs (by rw [hblobs]; exact healthy_same _) h hplain

theorem transacted_quiet (hblobs : db'.blobs = db.blobs) (h : Apart db db')
    (hevents : db'.events = db.events) : Transacted env db db' :=
  ⟨[], by rw [hevents, List.append_nil], fresh_nil _, change_quiet hblobs h fun _ h => absurd h List.not_mem_nil⟩

theorem leased_refl (db : ArtifactDb) : Leased env db db := ⟨rfl, transacted_quiet rfl ⟨rfl, rfl, rfl⟩ rfl⟩

theorem by_refl (lease : Lease) (db : ArtifactDb) : By env lease db db := ⟨leased_refl db, Or.inl rfl⟩

/-- A call that commits one transaction. -/
theorem by_committing {α : Type} {transaction : TaskResult ArtifactDb}
    {result : ArtifactDb → TaskResult α} (h : ∀ after, transaction = .ok after → By env lease db after) :
    By env lease db (committing db transaction result).1 := by
  cases transaction with
  | error e => exact by_refl lease db
  | ok after => exact h after rfl

/-- One appended row of another type, over rows that stay. -/
theorem leased_append {taskId kind : String} (h : Appended env db.events taskId event row)
    (hkind : stringField event "event_type" = some kind) (hother : kind ≠ integrityFailedType)
    (hlease : db'.lease = db.lease) (hevents : db'.events = db.events ++ [row])
    (hchange : (∀ r ∈ [row], Plain r) → Change env db db' [row]) : Leased env db db' :=
  ⟨hlease, [row], hevents, fresh_appended h, hchange fun r hr => by
    rw [List.mem_singleton.mp hr]
    exact plain_of_type h hkind hother⟩

theorem assertLease_ok {u : Unit} (h : db.assertLease lease = .ok u) : db.lease = lease := by
  have hsame := rejectIf_ok.mp h
  simpa using hsame

theorem blob?_none (h : db.blob? contentHash = none) :
    ∀ other ∈ db.blobs, other.contentHash ≠ contentHash := find?_key_none.mp h

/-! ### Damage -/

theorem Hashed.damage_damaged {stored : Hashed} {sizeBytes : Nat}
    (h : stored.damage sizeBytes contentHash = .ok (some state)) : state.damaged = true := by
  cases stored with
  | notFound =>
      rw [← Option.some.inj (Except.ok.inj h)]
      rfl
  | failed e => cases h
  | read size hash =>
      by_cases hsame : (size = sizeBytes && hash = contentHash) = true
      · simp [Hashed.damage, hsame] at h
      · rw [Hashed.damage, if_neg hsame] at h
        rw [← Option.some.inj (Except.ok.inj h)]
        rfl

theorem markContentHashFailed_ok (hstate : state.damaged = true)
    (h : markContentHashFailed env db lease contentHash state now = .ok after) : By env lease db after := by
  unfold markContentHashFailed markBlobFailed at h
  rw [unit_bind_eq_ok] at h
  obtain ⟨hlease, h⟩ := h
  refine ⟨?_, Or.inr (assertLease_ok hlease)⟩
  dsimp only at h
  by_cases hsame : (db.blob? contentHash).map BlobRow.durability = some state
  · rw [if_pos (by simp [hsame])] at h
    rw [← Except.ok.inj h]
    exact ⟨rfl, [], (List.append_nil _).symm, fresh_nil _,
      .marked contentHash now state hstate _ rfl rfl rfl rfl (fun _ => rfl) fun hne => absurd hsame hne⟩
  · rw [if_neg (by simp [hsame]), bind_eq_ok'] at h
    obtain ⟨events, hevents, h⟩ := h
    obtain ⟨rows, e, hfresh, hall⟩ := recordFindings_ok hevents
    rw [← Except.ok.inj h]
    exact ⟨rfl, rows, e, hfresh,
      .marked contentHash now state hstate _ rfl rfl rfl rfl (fun heq => absurd heq hsame) fun _ => hall⟩

theorem markIntegrityFailed_ok
    (h : markIntegrityFailed env db lease artifactId taskId contentHash now = .ok after) :
    By env lease db after := by
  unfold markIntegrityFailed at h
  rw [unit_bind_eq_ok] at h
  exact markContentHashFailed_ok rfl h.2

theorem recheckBlob_ok {stored : Hashed}
    (h : recheckBlob env db lease contentHash stored now = .ok after) : By env lease db after := by
  unfold recheckBlob at h
  rw [bind_eq_ok'] at h
  obtain ⟨b, hb, h⟩ := h
  rw [bind_eq_ok'] at h
  obtain ⟨damage, hdamage, h⟩ := h
  cases damage with
  | none =>
      rw [← Except.ok.inj h]
      exact by_refl lease db
  | some state => exact markContentHashFailed_ok (Hashed.damage_damaged hdamage) h

theorem adoptOrphan_ok {contentHash storageRef now : String}
    {sizeBytes : Nat} (h : adoptOrphan db lease contentHash sizeBytes storageRef now = .ok after) :
    By env lease db after := by
  unfold adoptOrphan at h
  simp only [bind_eq_ok', exists_unit] at h
  obtain ⟨hlease, _, _, h⟩ := h
  refine ⟨?_, Or.inr (assertLease_ok hlease)⟩
  rw [← Except.ok.inj h]
  by_cases hfound : (db.blob? contentHash).isSome = true
  · rw [if_pos hfound]
    exact leased_refl db
  · rw [if_neg hfound]
    have hnew := blob?_none (Option.not_isSome_iff_eq_none.mp hfound)
    exact ⟨rfl, [], (List.append_nil _).symm, fresh_nil _, change_of_blobs (healthy_snoc hnew rfl) ⟨rfl, rfl, rfl⟩
      fun _ h => absurd h List.not_mem_nil⟩

/-! ### New artifacts -/

/-- The blob is durable now, updated or new. -/
theorem upsertDurableBlob_ok {verifiedAt : String}
    (h : upsertDurableBlob db placed verifiedAt = .ok after) :
    ∃ f b blobs, after = { db with blobs := blobs } ∧ Healthy db.blobs f b blobs ∧
      ∃ b ∈ blobs, b.contentHash = placed.contentHash ∧ b.durability = .durable := by
  unfold upsertDurableBlob at h
  cases hfound : db.blob? placed.contentHash with
  | some stored =>
      simp only [hfound, bind_eq_ok', exists_unit] at h
      obtain ⟨_, _, _, h⟩ := h
      have hcontent : stored.contentHash = placed.contentHash := find?_key_eq hfound
      refine ⟨_, none, _, (Except.ok.inj h).symm, healthy_durableAt _ _ verifiedAt, _,
        List.mem_map_of_mem (List.mem_of_find?_eq_some hfound), ?_⟩
      rw [if_pos hcontent]
      exact ⟨hcontent, rfl⟩
  | none =>
      simp only [hfound, bind_eq_ok'] at h
      obtain ⟨_, _, h⟩ := h
      exact ⟨id, _, _, (Except.ok.inj h).symm, healthy_snoc (blob?_none hfound) rfl, _,
        List.mem_append_right _ (List.mem_singleton.mpr rfl), rfl, rfl⟩

theorem insertArtifact_ok {taskId role : String}
    {nodeId : Option String} (h : insertArtifact db a taskId role nodeId = .ok after) :
    after = { db with
      artifacts := db.artifacts ++ [a]
      taskArtifacts := db.taskArtifacts ++ [⟨taskId, a.artifactId, role, nodeId, a.createdAt⟩] } ∧
    ∀ other ∈ db.artifacts, other.artifactId ≠ a.artifactId := by
  unfold insertArtifact at h
  simp only [bind_eq_ok', exists_unit, rejectIf_ok] at h
  obtain ⟨hkeys, _, _, h⟩ := h
  refine ⟨(Except.ok.inj h).symm, fun other hmem e => ?_⟩
  have hother := List.any_eq_false.mp hkeys other hmem
  simp [e] at hother

/-- The two upserts of a new artifact, with its edges and its event. -/
theorem leased_recorded {db blobs inserted : ArtifactDb} {verifiedAt : String}
    {taskId role kind : String} {nodeId : Option String}
    {lineage : List LineageRow} {events : List EventRow}
    (hblob : upsertDurableBlob db placed verifiedAt = .ok blobs)
    (hinsert : insertArtifact blobs a taskId role nodeId = .ok inserted)
    (happend : appendTo env inserted.events taskId event = .ok events)
    (hkind : stringField event "event_type" = some kind) (hother : kind ≠ integrityFailedType)
    (hcontent : a.contentHash = placed.contentHash) (hverified : a.integrityState = .verified)
    (hlineage : Edges db (some a) lineage) :
    Leased env db { inserted with lineage := lineage, events := events } := by
  obtain ⟨f, b, rows, e, hhealthy, hdurable⟩ := upsertDurableBlob_ok hblob
  subst e
  obtain ⟨e, hnew⟩ := insertArtifact_ok hinsert
  subst e
  obtain ⟨row, hrow, happ⟩ := appendTo_ok happend
  refine leased_append happ hkind hother rfl hrow fun hplain => ?_
  refine .sound f b id (some a) (some ⟨taskId, a.artifactId, role, nodeId, a.createdAt⟩) hhealthy
    (updated_snoc hnew) (fun _ => rfl) (fun _ _ => rfl) (fun a' ha' => ?_) rfl rfl hlineage hplain
  rw [← Option.mem_some_iff.mp ha', hcontent]
  exact ⟨hverified, hdurable⟩

/-- An upsert and an insert leave the lineage alone. -/
theorem inserted_lineage {db blobs inserted : ArtifactDb} {verifiedAt : String}
    {taskId role : String} {nodeId : Option String}
    (hblob : upsertDurableBlob db placed verifiedAt = .ok blobs)
    (hinsert : insertArtifact blobs a taskId role nodeId = .ok inserted) : inserted.lineage = db.lineage := by
  obtain ⟨_, _, _, e, _, _⟩ := upsertDurableBlob_ok hblob
  obtain ⟨e', _⟩ := insertArtifact_ok hinsert
  rw [e', e]

theorem importedEvent_kind (request : ImportArtifactRequest) (artifactId createdAt contentHash : String)
    (sizeBytes : Nat) (actor : Actor) (reused : Bool) (requestDigest : String) :
    stringField (importedEvent env request artifactId createdAt contentHash sizeBytes actor reused
      requestDigest) "event_type" = some importedType := by
  simp [stringField, importedEvent, Json.asStr]

theorem commitImport_ok {request : ImportArtifactRequest}
    {o : ImportOutside} (h : commitImport env db lease request placed o = .ok after) :
    By env lease db after := by
  unfold commitImport at h
  simp only [bind_eq_ok', exists_unit] at h
  obtain ⟨hlease, _, actor, _, blobs, hblob, inserted, hinsert, digest, _, events, happend, _, h⟩ := h
  rw [← Except.ok.inj h]
  refine ⟨leased_recorded hblob hinsert happend (importedEvent_kind ..) (by decide) rfl rfl fun e he => ?_,
    Or.inr (assertLease_ok hlease)⟩
  rw [inserted_lineage hblob hinsert] at he
  exact Or.inl he

/-- A blob could not be placed; other content at its place is damage. -/
theorem by_mismatch {α : Type} (db : ArtifactDb) (lease : Lease) (contentHash now : String)
    (e : TaskManagerError) :
    By env lease db (if e = .invalidRecord hashMismatchCode then
      committing db (markContentHashFailed env db lease contentHash .corrupt now) fun _ =>
        (.error e : TaskResult α) else (db, .error e)).1 := by
  by_cases hmismatch : e = .invalidRecord hashMismatchCode
  · rw [if_pos hmismatch]
    exact by_committing fun after h => markContentHashFailed_ok rfl h
  · rw [if_neg hmismatch]
    exact by_refl lease db

/-- A keyed import that was sent before finds damage in the stored blob. -/
theorem replayKeyedImport_damaged {request : ImportArtifactRequest} {o : ImportOutside}
    (h : replayKeyedImport env db request o = .ok (.damaged contentHash state)) :
    state.damaged = true := by
  unfold replayKeyedImport at h
  cases himport : request.importId with
  | none =>
      rw [himport] at h
      cases h
  | some importId =>
      rw [himport] at h
      dsimp only at h
      cases hfound : db.artifact? (keyedArtifactId env request.taskId importId) with
      | none =>
          simp only [hfound, bind_eq_ok'] at h
          obtain ⟨_, _, h⟩ := h
          cases h
      | some artifact =>
          simp only [hfound, bind_eq_ok', exists_unit] at h
          obtain ⟨_, _, _, _, _, _, _, _, _, b, _, damage, hdamage, h⟩ := h
          cases damage with
          | none => cases h
          | some found =>
              obtain ⟨_, e⟩ := KeyedReplay.damaged.inj (Except.ok.inj h)
              rw [← e]
              exact Hashed.damage_damaged hdamage

theorem by_importArtifact (db : ArtifactDb) (lease : Lease) (request : ImportArtifactRequest)
    (o : ImportOutside) : By env lease db (importArtifact env db lease request o).1 := by
  unfold importArtifact
  cases hreplay : o.shape >>= fun _ => replayKeyedImport env db request o with
  | error e => exact by_refl lease db
  | ok replay =>
      cases replay with
      | replayed artifact => exact by_refl lease db
      | damaged contentHash state =>
          have hstate := replayKeyedImport_damaged (unit_bind_eq_ok.mp hreplay).2
          exact by_committing fun after h => markContentHashFailed_ok hstate h
      | absent =>
          cases o.admissible >>= fun _ => o.streamed with
          | error e => exact by_refl lease db
          | ok streamed =>
              obtain ⟨size, contentHash⟩ := streamed
              cases o.placement with
              | ok placement => exact by_committing fun after h => commitImport_ok h
              | error e => exact by_mismatch ..

theorem createdEvent_kind (request : ArtifactPublicationRequest) (allocation : AllocationRow)
    (artifactId : String) (placed : Placed) (provider : Option String) (resultedAt : String) :
    stringField (createdEvent env request allocation artifactId placed provider resultedAt)
      "event_type" = some createdType := by
  simp [stringField, createdEvent, Json.asStr]

theorem mem_lineageRows {request : ArtifactPublicationRequest} {child nodeId createdAt : String}
    {e : LineageRow} (h : e ∈ lineageRows request child nodeId createdAt) : e.childArtifactId = child ∧
      e.parentArtifactId ∈ request.lineage.inputArtifactIds ++ request.lineage.derivedFromArtifactIds := by
  rcases List.mem_append.mp h with h | h
  · obtain ⟨source, hsource, e'⟩ := List.mem_map.mp h
    rw [← e']
    exact ⟨rfl, List.mem_append_left _ hsource⟩
  · obtain ⟨source, hsource, e'⟩ := List.mem_map.mp h
    rw [← e']
    exact ⟨rfl, List.mem_append_right _ hsource⟩

theorem mem_insertEdges {rows : List LineageRow} : ∀ {lineage : List LineageRow} {e : LineageRow},
    e ∈ rows.foldl insertEdge lineage → e ∈ lineage ∨ e ∈ rows := by
  induction rows with
  | nil => exact fun h => Or.inl h
  | cons row rest ih =>
      intro lineage e h
      rcases ih h with h | h
      · by_cases hdrop : (lineage.any (sameEdge row) || row.parentArtifactId = row.childArtifactId) = true
        · rw [insertEdge, if_pos hdrop] at h
          exact Or.inl h
        · rw [insertEdge, if_neg hdrop] at h
          rcases List.mem_append.mp h with h | h
          · exact Or.inl h
          · exact Or.inr (List.mem_cons.mpr (Or.inl (List.mem_singleton.mp h)))
      · exact Or.inr (List.mem_cons_of_mem _ h)

theorem rank_le_inherit {α : Type} (rank : α → Nat) (base : α) {inputs : List α} {x : α} (h : x ∈ inputs) :
    rank x ≤ rank (inherit rank base inputs) :=
  (inherit_isGreatest rank base inputs).2 ⟨x, List.mem_cons_of_mem _ h, rfl⟩

/-- A source of the lineage is an artifact at hand; with a binding the output is at least as high. -/
theorem source_known (hinv : StoreInv db) {step : String → Option StepScope}
    {allocation : AllocationRow} {taskId source : String} {u : Unit}
    (hbinding : a.originBindingId = allocation.bindingId)
    (hpolicy : validateBoundOutputPolicy db step allocation a.sensitivity a.retentionClass = .ok u)
    (hsource : sourceAuthorized db step taskId allocation source = true) :
    ∃ p ∈ db.artifacts, p.artifactId = source ∧ (a.originBindingId.isSome = true → p.Below a) := by
  unfold validateBoundOutputPolicy at hpolicy
  unfold sourceAuthorized at hsource
  rw [hbinding]
  cases hb : allocation.bindingId with
  | none =>
      cases ht : allocation.attemptId with
      | some attemptId =>
          rw [hb, ht] at hsource
          cases hsource
      | none =>
          rw [hb, ht] at hsource
          obtain ⟨ta, hta, hheld⟩ := List.any_eq_true.mp hsource
          simp only [Bool.and_eq_true, decide_eq_true_eq] at hheld
          obtain ⟨p, hp, e⟩ := hinv.holds ta hta
          exact ⟨p, hp, e.trans hheld.1.2, fun hbound => by cases hbound⟩
  | some bindingId =>
      cases ht : allocation.attemptId with
      | none =>
          rw [hb, ht] at hsource
          cases hsource
      | some attemptId =>
          simp only [hb, ht, bind_eq_ok', expect_ok, rejectIf_ok] at hpolicy
          obtain ⟨s, hs, labels, hlabels, hsame⟩ := hpolicy
          obtain ⟨hs, _⟩ := Option.filter_eq_some_iff.mp hs
          simp only [hb, ht, hs, Option.any_some, Bool.and_eq_true, List.contains_iff_mem] at hsource
          obtain ⟨l, hl, hstored⟩ := exists_right_of_forall₂ (mapM_ok.mp hlabels) hsource.1.2
          unfold storedLabels at hstored
          simp only [bind_eq_ok', expect_ok] at hstored
          obtain ⟨p, hp, e⟩ := hstored
          have e := Except.ok.inj e
          have hlabels : (a.sensitivity, a.retentionClass) = inheritedFrom labels := by simpa using hsame
          obtain ⟨hsens, hret⟩ := Prod.mk.inj hlabels
          refine ⟨p, List.mem_of_find?_eq_some hp, find?_key_eq hp, fun _ => ?_⟩
          unfold ArtifactRow.Below
          rw [hsens, hret]
          exact ⟨rank_le_inherit _ _ (List.mem_map.mpr ⟨l, hl, by rw [← e]⟩),
            rank_le_inherit _ _ (List.mem_map.mpr ⟨l, hl, by rw [← e]⟩)⟩

theorem commitPublication_ok (hinv : StoreInv db)
    {request : ArtifactPublicationRequest} {allocation : AllocationRow} {o : PublicationOutside}
    (h : commitPublication env db lease request allocation placed o = .ok after) :
    By env lease db after := by
  unfold commitPublication at h
  simp only [bind_eq_ok', exists_unit, rejectIf_ok] at h
  obtain ⟨resultedAt, _, hlease, _, _, _, _, _, current, _, hsame, sensitivity, _, retention, _, hpolicy, _,
    hauthorized, blobs, hblob, provider, _, inserted, hinsert, events, happend, _, h⟩ := h
  rw [← Except.ok.inj h]
  have hcurrent : current = allocation := by simpa using (Bool.or_eq_false_iff.mp hsame).1
  rw [hcurrent] at hpolicy hauthorized
  have hedges : Edges db (some (publishedRow request allocation (publishedArtifactId env request) placed
      sensitivity retention provider resultedAt)) (insertLineage inserted request
      (publishedArtifactId env request) allocation.nodeId resultedAt).lineage := by
    intro e he
    rcases mem_insertEdges he with he | he
    · rw [inserted_lineage hblob hinsert] at he
      exact Or.inl he
    · obtain ⟨hchild, hsource⟩ := mem_lineageRows he
      rw [Bool.not_eq_false'] at hauthorized
      have hsource := List.all_eq_true.mp hauthorized _ hsource
      exact Or.inr ⟨_, rfl, hchild, source_known hinv rfl hpolicy hsource⟩
  have happend : appendTo env inserted.events request.taskId _ = .ok events := happend
  have hleased := leased_recorded hblob hinsert happend (createdEvent_kind ..) (by decide) rfl rfl hedges
  exact ⟨hleased, Or.inr (assertLease_ok hlease)⟩

theorem by_publishArtifactOutput (hinv : StoreInv db) (lease : Lease) (request : ArtifactPublicationRequest)
    (allocation : AllocationRow) (o : PublicationOutside) :
    By env lease db (publishArtifactOutput env db lease request allocation o).1 := by
  unfold publishArtifactOutput
  cases o.checked with
  | error e => exact by_refl lease db
  | ok u =>
      cases o.placement with
      | ok placement => exact by_committing fun after h => commitPublication_ok hinv h
      | error e => exact by_mismatch ..

/-- The failure of a publication is of the type of a finding, and tells of no content. -/
theorem failPendingPublication_ok
    {request : ArtifactPublicationRequest} {requestJson reasonCode now : String}
    {taskClear : TaskResult Unit}
    (h : failPendingPublication env db lease request requestJson reasonCode now taskClear = .ok after) :
    By env lease db after := by
  unfold failPendingPublication at h
  simp only [bind_eq_ok', exists_unit] at h
  obtain ⟨hlease, _, events, happend, h⟩ := h
  refine ⟨?_, Or.inr (assertLease_ok hlease)⟩
  obtain ⟨row, hrow, happ⟩ := appendTo_ok happend
  have hfree : (publicationFailureEvent env request requestJson reasonCode now).floatFree = true := by
    have hactor : storeActor.floatFree = true := floatFree_ofFields (by simp)
    refine floatFree_ofFields ?_
    simp [hactor, floatFree, elementsFloatFree, floatFree_ofFields]
  have hplain : Plain row := by
    have hevent := happ.stored_eq.1.trans (env.reread_exact _ hfree)
    have hhash : pointer row.event ["details", "content_hash"] = none := by
      rw [hevent]
      simp [pointer, publicationFailureEvent]
    intro t a c
    simp [isFinding, hhash]
  rw [← Except.ok.inj h]
  exact ⟨rfl, [row], hrow, fresh_appended happ, change_quiet rfl ⟨rfl, rfl, rfl⟩ fun r hr => by
    rw [List.mem_singleton.mp hr]
    exact hplain⟩

/-! ### Readers -/

theorem AccessRecord.event_kind (record : AccessRecord) :
    ∃ kind, stringField (record.event env) "event_type" = some kind ∧ kind ≠ integrityFailedType := by
  cases record with
  | reader admission phase timestamp predecessor =>
      cases predecessor with
      | none => exact ⟨"execution.started",
          by simp [AccessRecord.event, readerAdmissionEvent, stringField, Json.asStr], by decide⟩
      | some p => exact ⟨"execution.completed",
          by simp [AccessRecord.event, readerAdmissionEvent, stringField, Json.asStr], by decide⟩
  | «export» intent operationId phase timestamp intentHash predecessor =>
      exact ⟨"execution.started",
        by simp [AccessRecord.event, exportPhaseEvent, stringField, Json.asStr], by decide⟩

theorem appendRecords_ok {records : List AccessRecord} {events after : List EventRow}
    (h : appendRecords env records events = .ok after) :
    ∃ rows, after = events ++ rows ∧ Fresh env events rows ∧ ∀ row ∈ rows, Plain row := by
  -- along the records, with the events recorded so far
  induction records generalizing events with
  | nil => exact ⟨[], by rw [List.append_nil]; exact (Except.ok.inj h).symm, fresh_nil _,
      fun _ h => absurd h List.not_mem_nil⟩
  | cons record rest ih =>
      rw [appendRecords, bind_eq_ok'] at h
      obtain ⟨middle, hfirst, h⟩ := h
      obtain ⟨row, e, happ⟩ := appendTo_ok hfirst
      subst e
      obtain ⟨rows, e, hfresh, hall⟩ := ih h
      obtain ⟨kind, hkind, hother⟩ := record.event_kind
      refine ⟨row :: rows, by rw [e, List.append_assoc]; rfl, (fresh_appended happ).cons hfresh,
        fun r hr => ?_⟩
      rcases List.mem_cons.mp hr with e | hr
      · rw [e]
        exact plain_of_type happ hkind hother
      · exact hall r hr

theorem readArtifact_ok {o : ReadOutside}
    {count : Nat} (h : readArtifact env db lease artifactId o = .ok (after, count)) :
    Leased env db after ∧ after.artifacts = db.artifacts ∧ after.blobs = db.blobs ∧ db.lease = lease ∧
      ensureArtifactIntegrityDurable db artifactId = .ok () := by
  unfold readArtifact validateReaderFence at h
  simp only [bind_eq_ok', exists_unit] at h
  obtain ⟨_, ⟨hlease, _, hintact, _⟩, count', _, events, hevents, h⟩ := h
  obtain ⟨rows, e, hfresh, hplain⟩ := appendRecords_ok hevents
  have hlease := rejectIf_ok.mp hlease
  obtain ⟨rfl, _⟩ := Prod.mk.inj (Except.ok.inj h)
  exact ⟨⟨rfl, rows, e, hfresh, change_quiet rfl ⟨rfl, rfl, rfl⟩ hplain⟩, rfl, rfl, by simpa using hlease, hintact⟩

theorem readerDamage_damaged {o : ReaderOutside}
    (h : readerDamage a o = .ok (some state)) : state.damaged = true := by
  unfold readerDamage at h
  cases hstored : o.stored with
  | notFound =>
      rw [hstored] at h
      exact Hashed.damage_damaged h
  | failed e =>
      rw [hstored] at h
      exact Hashed.damage_damaged h
  | read size hash =>
      simp only [hstored, Except.ok.injEq] at h
      by_cases hsame : (o.lengths.1 = o.lengths.2 && size = o.lengths.2 && size = a.sizeBytes &&
          hash = a.contentHash) = true
      · simp [hsame] at h
      · rw [if_neg hsame] at h
        rw [← Option.some.inj h]
        rfl

theorem stored?_mem {current : ArtifactRow × BlobRow} (hstored : db.stored? artifactId = some current) :
    current.1 ∈ db.artifacts ∧ current.1.artifactId = artifactId := by
  unfold ArtifactDb.stored? at hstored
  simp only [Option.bind_eq_bind, Option.bind_eq_some_iff] at hstored
  obtain ⟨a, ha, b, hb, e⟩ := hstored
  rw [← Option.some.inj e]
  exact ⟨List.mem_of_find?_eq_some ha, find?_key_eq ha⟩

/-- The reader is admitted to what it checked, which was verified already. -/
theorem admitPreparedArtifactReader_ok (hinv : StoreInv db)
    {handle : ArtifactRow} {b : BlobRow} {o : ReaderOutside} (hstored : db.stored? artifactId = some (handle, b))
    (h : admitPreparedArtifactReader env db artifactId handle o = .ok after) : Leased env db after := by
  unfold admitPreparedArtifactReader at h
  simp only [bind_eq_ok', exists_unit, expect_ok, rejectIf_ok] at h
  obtain ⟨current, hcurrent, hintact, _, events, hevents, h⟩ := h
  obtain ⟨rows, e, hfresh, hplain⟩ := appendRecords_ok hevents
  rw [← Except.ok.inj h]
  obtain rfl : (handle, b) = current := Option.some.inj (hstored.symm.trans hcurrent)
  have hhealthy := of_decide_eq_false (Bool.or_eq_false_iff.mp hintact).1
  obtain ⟨hmem, hid⟩ := stored?_mem hstored
  refine ⟨rfl, rows, e, hfresh, .sound _ none _ none none (healthy_durableAt _ _ o.admittedAt)
    (updated_map (key_if fun _ => rfl)) (key_if fun _ => rfl) (fun a ha => ?_) (fun _ h => by cases h)
    (List.append_nil _).symm rfl (fun _ he => Or.inl he) hplain⟩
  by_cases hsame : a.artifactId = artifactId
  · rw [if_pos hsame, eq_of_key_eq hinv.artifacts ha hmem (hsame.trans hid.symm)]
    exact ((hinv.decided handle hmem).resolve_right hhealthy).symm
  · rw [if_neg hsame]

/-- A reader is prepared for an artifact that is stored; what it finds is damage. -/
theorem prepareArtifactReader_ok {o : ReaderOutside} {handle : ArtifactRow} {damage : Option Durability}
    (h : prepareArtifactReader db artifactId o = .ok (handle, damage)) :
    (∃ b, db.stored? artifactId = some (handle, b)) ∧ ∀ state ∈ damage, state.damaged = true := by
  unfold prepareArtifactReader at h
  simp only [bind_eq_ok', exists_unit, expect_ok, Prod.exists] at h
  obtain ⟨_, found, hfound, a, b, hstored, _, shown, hshown, h⟩ := h
  obtain ⟨e, e'⟩ := Prod.mk.inj (Except.ok.inj h)
  subst e e'
  refine ⟨⟨b, ?_⟩, fun state hstate => readerDamage_damaged (by rw [hshown, hstate])⟩
  have hsame : a = found := by
    unfold ArtifactDb.stored? at hstored
    simp only [hfound, Option.bind_eq_bind, Option.bind_some, Option.bind_eq_some_iff] at hstored
    obtain ⟨_, _, e⟩ := hstored
    exact (Prod.mk.inj (Option.some.inj e)).1.symm
  rw [← hsame]
  exact hstored

/-- A reader is opened under the lease. -/
theorem by_openArtifactReader (hinv : StoreInv db) (lease : Lease) (artifactId : String)
    (o : ReaderOutside) : By env lease db (openArtifactReader env db lease artifactId o).1 ∧
      ∀ handle, (openArtifactReader env db lease artifactId o).2 = .ok handle → db.lease = lease := by
  unfold openArtifactReader
  cases hprepared : prepareArtifactReader db artifactId o with
  | error e => exact ⟨by_refl lease db, fun _ e => by cases e⟩
  | ok prepared =>
      obtain ⟨a, damage⟩ := prepared
      obtain ⟨hstored, hdamage⟩ := prepareArtifactReader_ok hprepared
      cases damage with
      | some state =>
          refine ⟨by_committing fun after h => markContentHashFailed_ok (hdamage state rfl) h, fun handle e => ?_⟩
          dsimp only [committing] at e
          cases hmark : markContentHashFailed env db lease a.contentHash state o.markedAt <;>
            rw [hmark] at e <;> cases e
      | none =>
          obtain ⟨b, hstored⟩ := hstored
          have hopened : ∀ after, (o.entered >>= fun _ => db.assertLease lease >>= fun _ =>
              admitPreparedArtifactReader env db artifactId a o) = .ok after →
              Leased env db after ∧ db.lease = lease := by
            intro after h
            obtain ⟨_, h⟩ := unit_bind_eq_ok.mp h
            obtain ⟨hlease, h⟩ := unit_bind_eq_ok.mp h
            exact ⟨admitPreparedArtifactReader_ok hinv hstored h, assertLease_ok hlease⟩
          refine ⟨by_committing fun after h => (hopened after h).imp_right Or.inr, fun handle e => ?_⟩
          dsimp only [committing] at e
          cases hdone : (o.entered >>= fun _ => db.assertLease lease >>= fun _ =>
              admitPreparedArtifactReader env db artifactId a o) with
          | error error =>
              rw [hdone] at e
              cases e
          | ok after => exact (hopened after hdone).2

end Aios.Artifacts
