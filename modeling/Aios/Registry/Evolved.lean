/-
  File:      Aios/Registry/Evolved.lean
  Subject:   WHAT A RUN OF THE SNAPSHOT STORE TAKES BACK: nothing of an admitted snapshot.

  Every statement only adds rows, and an entry only to a snapshot that is not admitted; a state gets
  harder or stays (`Grown`). Beside it two facts hold at all times (`Sound`): a hard state is in the
  terminal table, and no receipt is ahead of the fence. Both are read off the statements once and
  carried through the operations and the runs.
-/
import Aios.Registry.Store

namespace Aios.Registry

open Lib

/-! ## 1. The order of the states -/

namespace SnapshotState

@[simp] theorem allows_refl (s : SnapshotState) : s.allows s = true := by
  cases s <;> rfl

theorem allows_trans {s t u : SnapshotState} (hst : s.allows t = true) (htu : t.allows u = true) :
    s.allows u = true := by
  revert hst htu
  cases s <;> cases t <;> cases u <;> decide

end SnapshotState

/-! ## 2. What is never taken back, and what always holds -/

structure Grown (a b : RegistryDb) : Prop where
  snapshots : a.snapshots <+: b.snapshots
  contracts : ∀ kind, a.contracts kind <+: b.contracts kind
  /-- An entry comes to a snapshot that is not admitted. -/
  entries : ∃ more, b.entries = a.entries ++ more ∧ ∀ e ∈ more, a.isAdmitted e.snapshotId = false
  states : ∀ id s, a.state? id = some s → ∃ s', b.state? id = some s' ∧ s.allows s' = true
  generation : a.generation ≤ b.generation
  terminal : a.terminal <+: b.terminal
  reattestations : a.reattestations <+: b.reattestations

structure Sound (db : RegistryDb) : Prop where
  terminal : ∀ id s, db.state? id = some s → s.isOpen = false →
    db.terminal.any (fun t => t.snapshotId = id) = true
  attested : ∀ r ∈ db.reattestations, r.generation ≤ db.generation

namespace Grown

variable {a b c : RegistryDb}

theorem refl (a : RegistryDb) : Grown a a where
  snapshots := List.prefix_refl _
  contracts := fun _ => List.prefix_refl _
  entries := ⟨[], (List.append_nil _).symm, fun e he => by cases he⟩
  states := fun _ s hs => ⟨s, hs, s.allows_refl⟩
  generation := le_refl _
  terminal := List.prefix_refl _
  reattestations := List.prefix_refl _

theorem isAdmitted (h : Grown a b) {id : String} (ha : a.isAdmitted id = true) :
    b.isAdmitted id = true := by
  obtain ⟨s, hs⟩ := Option.isSome_iff_exists.mp ha
  obtain ⟨s', hs', -⟩ := h.states id s hs
  show (b.state? id).isSome = true
  rw [hs']
  rfl

theorem trans (hab : Grown a b) (hbc : Grown b c) : Grown a c where
  snapshots := hab.snapshots.trans hbc.snapshots
  contracts := fun kind => (hab.contracts kind).trans (hbc.contracts kind)
  entries := by
    obtain ⟨l, hl, hnewl⟩ := hab.entries
    obtain ⟨m, hm, hnewm⟩ := hbc.entries
    refine ⟨l ++ m, by rw [hm, hl, List.append_assoc], fun e he => ?_⟩
    rcases List.mem_append.mp he with he | he
    · exact hnewl e he
    · by_contra hadmitted
      have hb := hab.isAdmitted (Bool.eq_true_of_not_eq_false hadmitted)
      rw [hnewm e he] at hb
      cases hb
  states := fun id s hs => by
    obtain ⟨t, ht, hst⟩ := hab.states id s hs
    obtain ⟨u, hu, htu⟩ := hbc.states id t ht
    exact ⟨u, hu, SnapshotState.allows_trans hst htu⟩
  generation := hab.generation.trans hbc.generation
  terminal := hab.terminal.trans hbc.terminal
  reattestations := hab.reattestations.trans hbc.reattestations

end Grown

/-- A step of the store: it takes nothing back and keeps what always holds. -/
structure Step (a b : RegistryDb) : Prop where
  grown : Grown a b
  sound : Sound a → Sound b

theorem Step.refl (a : RegistryDb) : Step a a := ⟨.refl a, id⟩

theorem Step.trans {a b c : RegistryDb} (hab : Step a b) (hbc : Step b c) : Step a c :=
  ⟨hab.grown.trans hbc.grown, fun h => hbc.sound (hab.sound h)⟩

/-! ## 3. The statements that write contents -/

/-- Manifests, contracts and entries only. -/
def Contents (a b : RegistryDb) : Prop :=
  b = { a with snapshots := b.snapshots, contracts := b.contracts, entries := b.entries }

theorem Contents.trans {a b c : RegistryDb} (hab : Contents a b) (hbc : Contents b c) :
    Contents a c := by
  unfold Contents at hab hbc ⊢
  rw [hbc, hab]

section Statements

variable {db db' : RegistryDb}

theorem insertSnapshot_step {row : SnapshotRow} (h : insertSnapshot db row = .ok db') :
    Step db db' ∧ Contents db db' := by
  simp only [insertSnapshot, bind_eq_ok', exists_unit, abortIf_ok] at h
  obtain ⟨-, -, -, h⟩ := h
  obtain rfl := Except.ok.inj h
  exact ⟨⟨{ Grown.refl db with snapshots := List.prefix_append _ _ }, fun hs => { hs with }⟩, rfl⟩

theorem insertContractRow_step {kind : ContractKind} {row : ContractRow}
    (h : insertContractRow db kind row = .ok db') : Step db db' ∧ Contents db db' := by
  simp only [insertContractRow, bind_eq_ok', exists_unit, abortIf_ok] at h
  obtain ⟨-, h⟩ := h
  obtain rfl := Except.ok.inj h
  refine ⟨⟨{ Grown.refl db with contracts := fun k => ?_ }, fun hs => { hs with }⟩, rfl⟩
  show db.contracts k <+: if k = kind then _ else _
  by_cases hk : k = kind
  · rw [if_pos hk]
    exact List.prefix_append _ _
  · rw [if_neg hk]

theorem insertEntryRow_step {row : EntryRow} (h : insertEntryRow db row = .ok db') :
    Step db db' ∧ Contents db db' := by
  simp only [insertEntryRow, bind_eq_ok', exists_unit, abortIf_ok] at h
  obtain ⟨-, hopen, h⟩ := h
  obtain rfl := Except.ok.inj h
  refine ⟨⟨{ Grown.refl db with entries := ⟨[row], rfl, ?_⟩ }, fun hs => { hs with }⟩, rfl⟩
  intro e he
  rw [List.mem_singleton.mp he]
  exact hopen

/-! ## 4. The statements that write states -/

theorem state?_append_other {id : String} {row : AdmissionRow} (hne : row.snapshotId ≠ id) :
    RegistryDb.state? { db with admissions := db.admissions ++ [row] } id = db.state? id := by
  show ((db.admissions ++ [row]).find? _).map _ = _
  rw [List.find?_append]
  have hlast : [row].find? (fun a => a.snapshotId = id) = none := by simp [hne]
  rw [hlast, Option.or_none]
  rfl

/-- The state moves, and the terminal table follows. -/
theorem withTerminal_step {id : String} {state : SnapshotState} {admissions : List AdmissionRow}
    (hid : RegistryDb.state? { db with admissions := admissions } id = some state)
    (hother : ∀ other, other ≠ id →
      RegistryDb.state? { db with admissions := admissions } other = db.state? other)
    (hallows : ∀ s, db.state? id = some s → s.allows state = true) :
    Step db (withTerminal { db with admissions := admissions } id state) := by
  have hstates : ∀ other s, db.state? other = some s → ∃ s',
      RegistryDb.state? { db with admissions := admissions } other = some s' ∧ s.allows s' = true := by
    intro other s hs
    by_cases e : other = id
    · subst e
      exact ⟨state, hid, hallows s hs⟩
    · exact ⟨s, (hother other e).trans hs, s.allows_refl⟩
  have hadmissions : (withTerminal { db with admissions := admissions } id state).admissions =
      admissions := by
    unfold withTerminal
    split <;> rfl
  unfold withTerminal
  by_cases hquiet : (state.isOpen || db.terminal.any fun t => t.snapshotId = id) = true
  · rw [if_pos hquiet]
    refine ⟨{ Grown.refl db with states := hstates }, fun hs => { hs with terminal := ?_ }⟩
    intro other s hstate hhard
    by_cases e : other = id
    · subst e
      obtain rfl : state = s := Option.some.inj (hid.symm.trans hstate)
      rw [hhard, Bool.false_or] at hquiet
      exact hquiet
    · exact hs.terminal other s ((hother other e).symm.trans hstate) hhard
  · rw [if_neg hquiet]
    refine ⟨{ Grown.refl db with states := hstates, terminal := List.prefix_append _ _ },
      fun hs => { hs with terminal := ?_ }⟩
    intro other s hstate hhard
    show (db.terminal ++ [AdmissionRow.mk id state]).any _ = true
    rw [List.any_append, Bool.or_eq_true]
    by_cases e : other = id
    · right
      simp [e]
    · left
      exact hs.terminal other s ((hother other e).symm.trans hstate) hhard

theorem insertAdmission_step {row : AdmissionRow} (h : insertAdmission db row = .ok db') :
    Step db db' ∧ db.isAdmitted row.snapshotId = false ∧ db'.state? row.snapshotId = some row.state := by
  simp only [insertAdmission, bind_eq_ok', exists_unit, abortIf_ok] at h
  obtain ⟨hnew, -, h⟩ := h
  obtain rfl := Except.ok.inj h
  have hnone : db.state? row.snapshotId = none :=
    Option.not_isSome_iff_eq_none.mp (by simpa [RegistryDb.isAdmitted] using hnew)
  have hfind : db.admissions.find? (fun a => a.snapshotId = row.snapshotId) = none :=
    Option.map_eq_none_iff.mp hnone
  have hid : RegistryDb.state? { db with admissions := db.admissions ++ [row] } row.snapshotId =
      some row.state := by
    show ((db.admissions ++ [row]).find? _).map _ = _
    rw [List.find?_append, hfind]
    simp
  refine ⟨withTerminal_step hid (fun other hne => state?_append_other (Ne.symm hne)) ?_, hnew, ?_⟩
  · intro s hs
    rw [hnone] at hs
    cases hs
  · unfold withTerminal
    split <;> exact hid

theorem moved_id (id : String) (expected new : SnapshotState) (a : AdmissionRow) :
    (a.moved id expected new).snapshotId = a.snapshotId := by
  unfold AdmissionRow.moved
  split <;> rfl

theorem state?_moved (id other : String) (expected new : SnapshotState) :
    RegistryDb.state? { db with admissions := db.admissions.map (AdmissionRow.moved id expected new) }
      other = (db.admissions.find? fun a => a.snapshotId = other).map
        fun a => (a.moved id expected new).state := by
  show ((db.admissions.map _).find? _).map _ = _
  rw [List.find?_map, Option.map_map]
  have hsame : ((fun a : AdmissionRow => decide (a.snapshotId = other)) ∘
      AdmissionRow.moved id expected new) = fun a => decide (a.snapshotId = other) := by
    funext a
    simp only [Function.comp_apply, moved_id]
  rw [hsame]
  rfl

theorem updateAdmission_step {id : String} {expected new : SnapshotState} {affected : Nat}
    (hstate : db.state? id = some expected)
    (h : updateAdmission db id expected new = .ok (db', affected)) : Step db db' := by
  simp only [updateAdmission, bind_eq_ok', exists_unit, abortIf_ok] at h
  obtain ⟨hguard, h⟩ := h
  obtain ⟨rfl, rfl⟩ := Prod.mk.inj (Except.ok.inj h)
  obtain ⟨row, hrow, hexpected⟩ := Option.map_eq_some_iff.mp hstate
  have hrowId : row.snapshotId = id := by simpa using List.find?_some hrow
  have hcount : db.admissions.countP (fun a => a.snapshotId = id ∧ a.state = expected) ≠ 0 := by
    rw [Ne, List.countP_eq_zero]
    intro hall
    exact hall row (List.mem_of_find?_eq_some hrow) (by simp [hrowId, hexpected])
  have hallows : expected.allows new = true := by
    rw [Bool.and_eq_false_iff, decide_eq_false_iff_not, Bool.not_eq_false'] at hguard
    exact hguard.resolve_left fun hzero => hzero hcount
  rw [if_neg hcount]
  refine withTerminal_step ?_ (fun other hne => ?_) ?_
  · rw [state?_moved, hrow]
    simp [AdmissionRow.moved, hrowId, hexpected]
  · rw [state?_moved]
    refine Option.map_congr fun a ha => ?_
    have haId : a.snapshotId = other := by simpa using List.find?_some ha
    simp [AdmissionRow.moved, haId, hne]
  · intro s hs
    obtain rfl : expected = s := Option.some.inj (hstate.symm.trans hs)
    exact hallows

/-! ## 5. The fence, the receipts and the pointers -/

theorem generation_append (fences : List FenceRow) (row : FenceRow) :
    ((fences ++ [row]).map FenceRow.generation).foldl max 0 =
      max ((fences.map FenceRow.generation).foldl max 0) row.generation := by
  rw [List.map_append, List.foldl_append]
  rfl

theorem insertFence_step {row : FenceRow} (hrow : 0 < row.generation)
    (h : insertFence db row = .ok db') :
    Step db db' ∧ row.generation = db.generation + 1 ∧ db'.generation = db.generation + 1 := by
  simp only [insertFence, bind_eq_ok', exists_unit, abortIf_ok] at h
  obtain ⟨hguard, h⟩ := h
  obtain rfl := Except.ok.inj h
  have hnext : row.generation = db.generation + 1 := by
    simp only [Bool.or_eq_false_iff, Bool.and_eq_false_iff, decide_eq_false_iff_not] at hguard
    rcases hguard.1.2 with hzero | hmatch
    · exact absurd hrow hzero
    · exact not_not.mp hmatch.2
  have hgeneration : RegistryDb.generation { db with fences := db.fences ++ [row] } =
      db.generation + 1 := by
    show ((db.fences ++ [row]).map _).foldl max 0 = _
    rw [generation_append, hnext]
    exact max_eq_right (Nat.le_succ _)
  refine ⟨⟨{ Grown.refl db with generation := ?_ }, fun hs => { hs with attested := ?_ }⟩, hnext,
    hgeneration⟩
  · rw [hgeneration]
    exact Nat.le_succ _
  · intro r hr
    rw [hgeneration]
    exact (hs.attested r hr).trans (Nat.le_succ _)

theorem insertReattestation_step {row : ReattestationRow}
    (h : insertReattestation db row = .ok db') :
    Step db db' ∧ row.generation = db.generation ∧
      db' = { db with reattestations := db.reattestations ++ [row] } := by
  simp only [insertReattestation, bind_eq_ok', exists_unit, abortIf_ok] at h
  obtain ⟨-, hcurrent, -, h⟩ := h
  obtain rfl := Except.ok.inj h
  simp only [Bool.or_eq_false_iff, decide_eq_false_iff_not, not_not] at hcurrent
  have hgeneration : row.generation = db.generation := by
    by_contra hne
    simp [hne] at hcurrent
  refine ⟨⟨{ Grown.refl db with reattestations := List.prefix_append _ _ },
    fun hs => { hs with attested := ?_ }⟩, hgeneration, rfl⟩
  intro r hr
  rcases List.mem_append.mp hr with hr | hr
  · exact hs.attested r hr
  · rw [List.mem_singleton.mp hr, hgeneration]
    exact le_refl _

/-- What the pointer of a scope is once this activation is in place. -/
theorem insertActivation_step {row : Activation} (h : insertActivation db row = .ok db') :
    Step db db' ∧ db'.reattestations = db.reattestations ∧ db'.generation = db.generation ∧
      db'.activations = db.activations ++ [row] := by
  simp only [insertActivation, bind_eq_ok', exists_unit, abortIf_ok] at h
  obtain ⟨-, -, -, h⟩ := h
  obtain rfl := Except.ok.inj h
  unfold withHistory
  split <;>
    exact ⟨⟨{ Grown.refl db with }, fun hs => { hs with }⟩, rfl, rfl, rfl⟩

theorem updateActivation_step {row : Activation} {expected affected : Nat}
    (h : updateActivation db row expected = .ok (db', affected)) :
    Step db db' ∧ db'.reattestations = db.reattestations ∧ db'.generation = db.generation ∧
      db'.activations = db.activations.map (Activation.moved row expected) := by
  simp only [updateActivation, bind_eq_ok', exists_unit, abortIf_ok] at h
  obtain ⟨-, -, -, h⟩ := h
  obtain ⟨rfl, -⟩ := Prod.mk.inj (Except.ok.inj h)
  exact ⟨⟨{ Grown.refl db with }, fun hs => { hs with }⟩, rfl, rfl, rfl⟩

end Statements

/-! ## 6. Admission -/

section Admission

variable {env : StoreEnv} {db db' : RegistryDb}

/-- An entry that is found stays found. -/
theorem Grown.entry? (h : Grown db db') {id semanticId : String} {kind : ContractKind} {major : Nat}
    {row : EntryRow} (hrow : db.entry? id kind semanticId major = some row) :
    db'.entry? id kind semanticId major = some row := by
  obtain ⟨more, hmore, -⟩ := h.entries
  show db'.entries.find? _ = some row
  rw [hmore, List.find?_append, show db.entries.find? _ = some row from hrow]
  rfl

theorem storeManifest_step {registry : SemanticRegistry} (h : storeManifest env db registry = .ok db') :
    Step db db' ∧ Contents db db' := by
  unfold storeManifest at h
  split at h
  · simp only [bind_eq_ok', exists_unit] at h
    obtain ⟨_, -, -, h⟩ := h
    obtain rfl := Except.ok.inj h
    exact ⟨.refl _, rfl⟩
  · exact insertSnapshot_step h

theorem insertContract_step {α : Type} {store : StoredFamily α} {hash : String} {contract : α}
    (h : insertContract store db hash contract = .ok db') : Step db db' ∧ Contents db db' := by
  simp only [insertContract, bind_eq_ok', exists_unit] at h
  obtain ⟨written, hwritten, _, -, -, _, -, _, -, -, h⟩ := h
  obtain rfl := Except.ok.inj h
  split at hwritten
  · obtain rfl := Except.ok.inj hwritten
    exact ⟨.refl _, rfl⟩
  · exact insertContractRow_step hwritten

theorem insertEntry_step {row : EntryRow} (h : insertEntry db row = .ok db') :
    Step db db' ∧ Contents db db' ∧
      db'.entry? row.snapshotId row.contractClass row.semanticId row.major = some row := by
  simp only [insertEntry, bind_eq_ok', exists_unit, expect_ok, conflictIf_ok] at h
  obtain ⟨-, written, hwritten, stored, hstored, hsame, h⟩ := h
  obtain rfl := Except.ok.inj h
  have hrow : stored = row := by
    have hkey := List.find?_some hstored
    simp only [Bool.and_eq_true, decide_eq_true_eq] at hkey
    simp only [Bool.or_eq_false_iff, decide_eq_false_iff_not, not_not] at hsame
    obtain ⟨⟨⟨h1, h2⟩, h3⟩, h4⟩ := hkey
    cases stored
    cases row
    simp only at h1 h2 h3 h4 hsame
    rw [h1, h2, h3, h4, hsame.1, hsame.2]
  rw [hrow] at hstored
  split at hwritten
  · obtain rfl := Except.ok.inj hwritten
    exact ⟨.refl _, rfl, hstored⟩
  · obtain ⟨hstep, hcontents⟩ := insertEntryRow_step hwritten
    exact ⟨hstep, hcontents, hstored⟩

/-- The entry of a contract: identifier and major version, full version, and the identity the
    registry has for them. -/
def Entered {α : Type} (store : StoredFamily α) (hashes : FamilyMap String) (snapshotId : String)
    (db : RegistryDb) (contract : α) : Prop :=
  ∃ version hash, FullVersion.parse (store.family.version contract) = .ok version ∧
    hashes[(store.family.id contract, version.major)]? = some hash ∧
    db.entry? snapshotId store.family.kind (store.family.id contract) version.major = some
      ⟨snapshotId, store.family.kind, store.family.id contract, version.major,
        store.family.version contract, hash⟩

theorem Entered.grown {α : Type} {store : StoredFamily α} {hashes : FamilyMap String} {id : String}
    {contract : α} (hg : Grown db db') (h : Entered store hashes id db contract) :
    Entered store hashes id db' contract := by
  obtain ⟨version, hash, hversion, hhash, hentry⟩ := h
  exact ⟨version, hash, hversion, hhash, hg.entry? hentry⟩

theorem storeContracts_step {α : Type} {store : StoredFamily α} {hashes : FamilyMap String}
    {id : String} : ∀ {contracts : List α} {db db' : RegistryDb},
      storeContracts store hashes id contracts db = .ok db' →
      Step db db' ∧ Contents db db' ∧ ∀ c ∈ contracts, Entered store hashes id db' c
  | [], db, db', h => by
      obtain rfl := Except.ok.inj h
      exact ⟨.refl _, rfl, fun c hc => by cases hc⟩
  | contract :: rest, db, db', h => by
      simp only [storeContracts, bind_eq_ok', ofRegistry_ok, expect_ok] at h
      obtain ⟨version, hversion, hash, hhash, d1, h1, d2, h2, h⟩ := h
      obtain ⟨hs1, hc1⟩ := insertContract_step h1
      obtain ⟨hs2, hc2, hentry⟩ := insertEntry_step h2
      obtain ⟨hs3, hc3, hall⟩ := storeContracts_step h
      refine ⟨hs1.trans (hs2.trans hs3), hc1.trans (hc2.trans hc3), fun c hc => ?_⟩
      rcases List.mem_cons.mp hc with e | hc
      · rw [e]
        exact ⟨version, hash, hversion, hhash, hs3.grown.entry? hentry⟩
      · exact hall c hc

/-- What the transaction of an admission leaves. -/
structure AdmittedAs (env : StoreEnv) (registry : SemanticRegistry) (db db' : RegistryDb) : Prop where
  step : Step db db'
  activations : db'.activations = db.activations
  generation : db'.generation = db.generation
  admitted : db'.isAdmitted registry.snapshotId = true
  types : ∀ c ∈ registry.types.toList.map Prod.snd,
    Entered (typeStore env) registry.typeHashes registry.snapshotId db' c
  capabilities : ∀ c ∈ registry.capabilities.toList.map Prod.snd,
    Entered (capabilityStore env) registry.capabilityHashes registry.snapshotId db' c
  count : (db'.entries.filter fun e => e.snapshotId = registry.snapshotId).length =
    registry.snapshot.typeContracts.length + registry.snapshot.capabilityContracts.length
  /-- A receipt comes with a first admission only. -/
  receipts : db'.reattestations = db.reattestations ∨ db.isAdmitted registry.snapshotId = false ∧
    ∃ r, r.snapshotId = registry.snapshotId ∧ r.generation = db.generation ∧
      db'.reattestations = db.reattestations ++ [r]

theorem publishAdmission_step {id : String} (h : publishAdmission db id = .ok db') :
    Step db db' ∧ db'.activations = db.activations ∧ db'.generation = db.generation ∧
      db'.entries = db.entries ∧ db.isAdmitted id = false ∧ db'.isAdmitted id = true ∧
      (db'.reattestations = db.reattestations ∨ ∃ r, r.snapshotId = id ∧ r.generation = db.generation ∧
        db'.reattestations = db.reattestations ++ [r]) := by
  simp only [publishAdmission, bind_eq_ok'] at h
  obtain ⟨d, hd, h⟩ := h
  obtain ⟨hstep, hnew, hstate⟩ := insertAdmission_step hd
  have hframe : d.activations = db.activations ∧ d.generation = db.generation ∧
      d.entries = db.entries ∧ d.reattestations = db.reattestations := by
    simp only [insertAdmission, bind_eq_ok', exists_unit] at hd
    obtain ⟨-, -, hd⟩ := hd
    obtain rfl := Except.ok.inj hd
    unfold withTerminal
    split <;> exact ⟨rfl, rfl, rfl, rfl⟩
  obtain ⟨hact, hgen, hentries, hrec⟩ := hframe
  have hadmitted : d.isAdmitted id = true := by
    show (d.state? id).isSome = true
    rw [hstate]
    rfl
  split at h
  · obtain rfl := Except.ok.inj h
    exact ⟨hstep, hact, hgen, hentries, hnew, hadmitted, Or.inl hrec⟩
  · obtain ⟨hstep', hrow, rfl⟩ := insertReattestation_step h
    refine ⟨hstep.trans hstep', hact, hgen, hentries, hnew, hadmitted,
      Or.inr ⟨_, rfl, hrow.trans hgen, ?_⟩⟩
    show d.reattestations ++ _ = _
    rw [hrec]

theorem admitRegistryIn_ok {fence : Option WriteFence} {loaded : LoadedRegistry env}
    (h : admitRegistryIn env fence db loaded = .ok db') : AdmittedAs env loaded.registry db db' := by
  simp only [admitRegistryIn, bind_eq_ok', exists_unit, conflictIf_ok, decide_eq_false_iff_not,
    not_not] at h
  obtain ⟨_, -, -, -, d1, h1, d2, h2, d3, h3, hcount, d4, h4, -, h⟩ := h
  obtain rfl := Except.ok.inj h
  obtain ⟨hs1, hc1⟩ := storeManifest_step h1
  obtain ⟨hs2, hc2, htypes⟩ := storeContracts_step h2
  obtain ⟨hs3, hc3, hcapabilities⟩ := storeContracts_step h3
  have hs := hs1.trans (hs2.trans hs3)
  have hc : Contents db d3 := hc1.trans (hc2.trans hc3)
  have hfields : d3.activations = db.activations ∧ d3.generation = db.generation ∧
      d3.reattestations = db.reattestations ∧
      d3.isAdmitted loaded.registry.snapshotId = db.isAdmitted loaded.registry.snapshotId := by
    rw [hc]
    exact ⟨rfl, rfl, rfl, rfl⟩
  obtain ⟨hact, hgen, hrec, hadm⟩ := hfields
  split at h4
  · rename_i halready
    obtain rfl := Except.ok.inj h4
    exact ⟨hs, hact, hgen, hadm.trans halready, fun c hmem => (htypes c hmem).grown hs3.grown,
      hcapabilities, hcount, Or.inl hrec⟩
  · obtain ⟨hs4, hact4, hgen4, hentries, hnew, hadmitted, hreceipt⟩ := publishAdmission_step h4
    refine ⟨hs.trans hs4, hact4.trans hact, hgen4.trans hgen, hadmitted,
      fun c hmem => (htypes c hmem).grown (hs3.trans hs4).grown,
      fun c hmem => (hcapabilities c hmem).grown hs4.grown, by rw [hentries]; exact hcount, ?_⟩
    rw [hrec, hgen] at hreceipt
    exact hreceipt.imp id fun hr => ⟨hadm.symm.trans hnew, hr⟩

end Admission

/-! ## 7. The other operations -/

section Operations

variable {env : StoreEnv} {db db' : RegistryDb} {fence : Option WriteFence}

/-- The state moves; pointers, fence and receipts stay. -/
theorem setSnapshotState_ok {id : String} {state : SnapshotState}
    (h : setSnapshotState env fence db id state = .ok db') :
    Step db db' ∧ db'.activations = db.activations ∧ db'.generation = db.generation ∧
      db'.reattestations = db.reattestations := by
  simp only [setSnapshotState, bind_eq_ok', exists_unit, expect_ok] at h
  obtain ⟨_, -, -, -, -, current, hcurrent, -, ⟨d, affected⟩, hd, -, -, h⟩ := h
  obtain rfl := Except.ok.inj h
  refine ⟨updateAdmission_step hcurrent hd, ?_⟩
  simp only [updateAdmission, bind_eq_ok', exists_unit] at hd
  obtain ⟨-, hd⟩ := hd
  obtain ⟨rfl, -⟩ := Prod.mk.inj (Except.ok.inj hd)
  unfold withTerminal
  split
  · exact ⟨rfl, rfl, rfl⟩
  · split <;> exact ⟨rfl, rfl, rfl⟩

/-- At most one receipt is written, of the snapshot and the generation in force. -/
theorem reattestSnapshot_ok {id decisionId decisionSource : String}
    (h : reattestSnapshot env fence db id decisionId decisionSource = .ok db') :
    Step db db' ∧ db'.activations = db.activations ∧ db'.generation = db.generation ∧
      (db'.reattestations = db.reattestations ∨ ∃ r, r.snapshotId = id ∧
        r.generation = db.generation ∧ db'.reattestations = db.reattestations ++ [r]) := by
  simp only [reattestSnapshot, bind_eq_ok', exists_unit] at h
  obtain ⟨_, -, -, -, _, -, _, -, -, -, d, hd, -, h⟩ := h
  obtain rfl := Except.ok.inj h
  unfold recordDecision at hd
  split at hd
  · simp only [bind_eq_ok', exists_unit] at hd
    obtain ⟨-, hd⟩ := hd
    obtain rfl := Except.ok.inj hd
    exact ⟨.refl _, rfl, rfl, Or.inl rfl⟩
  · obtain ⟨hstep, -, rfl⟩ := insertReattestation_step hd
    exact ⟨hstep, rfl, rfl, Or.inr ⟨_, rfl, rfl, rfl⟩⟩

theorem advanceRepairFence_ok {leaseHeld : Bool} (h : advanceRepairFence leaseHeld db = .ok db') :
    Step db db' ∧ db'.activations = db.activations ∧ db'.generation = db.generation + 1 ∧
      db'.reattestations = db.reattestations := by
  simp only [advanceRepairFence, bind_eq_ok', exists_unit] at h
  obtain ⟨-, -, d, hd, h⟩ := h
  obtain rfl := Except.ok.inj h
  obtain ⟨hstep, -, hgeneration⟩ := insertFence_step (Nat.succ_pos _) hd
  simp only [insertFence, bind_eq_ok', exists_unit] at hd
  obtain ⟨-, hd⟩ := hd
  obtain rfl := Except.ok.inj hd
  exact ⟨hstep.trans ⟨{ Grown.refl _ with }, fun hs => { hs with }⟩, rfl, hgeneration, rfl⟩

/-- The revision of the scope's pointer. -/
def revision? (db : RegistryDb) (scopeKind scopeId : String) : Option Nat :=
  (db.pointer? scopeKind scopeId).map Activation.revision

/-- The pointer was at the expected revision and is this activation, one revision on; no other
    scope's pointer moved. -/
structure ActivatedAs (db db' : RegistryDb) (scopeKind scopeId : String) (expected : Option Nat)
    (snapshotId : String) (activation : Activation) : Prop where
  step : Step db db'
  generation : db'.generation = db.generation
  receipts : db'.reattestations = db.reattestations
  usable : db.usable? snapshotId = some .admitted
  before : revision? db scopeKind scopeId = expected
  next : activation = ⟨scopeKind, scopeId, snapshotId, expected.getD 0 + 1⟩
  after : db'.pointer? scopeKind scopeId = some activation
  others : ∀ kind id, ¬ (kind = scopeKind ∧ id = scopeId) → db'.pointer? kind id = db.pointer? kind id

theorem movePointer_ok {row : Activation} (h : movePointer db row
    (revision? db row.scopeKind row.scopeId) = .ok db') :
    Step db db' ∧ db'.generation = db.generation ∧ db'.reattestations = db.reattestations ∧
      db'.pointer? row.scopeKind row.scopeId = some row ∧
      ∀ kind id, ¬ (kind = row.scopeKind ∧ id = row.scopeId) →
        db'.pointer? kind id = db.pointer? kind id := by
  cases hpointer : db.pointer? row.scopeKind row.scopeId with
  | none =>
      rw [revision?, hpointer] at h
      obtain ⟨hstep, hreceipts, hgeneration, hact⟩ := insertActivation_step h
      refine ⟨hstep, hgeneration, hreceipts, ?_, fun kind id hne => ?_⟩
      · show db'.activations.find? _ = some row
        rw [hact, List.find?_append, show db.activations.find? _ = none from hpointer]
        simp
      · show db'.activations.find? _ = db.activations.find? _
        rw [hact, List.find?_append]
        have hlast : [row].find? (fun a => a.scopeKind = kind && a.scopeId = id) = none := by
          rw [List.find?_singleton, if_neg]
          rw [Bool.and_eq_true, decide_eq_true_eq, decide_eq_true_eq]
          exact fun e => hne ⟨e.1.symm, e.2.symm⟩
        rw [hlast, Option.or_none]
  | some current =>
      rw [revision?, hpointer] at h
      simp only [Option.map_some, movePointer, bind_eq_ok', exists_unit] at h
      obtain ⟨⟨d, updated⟩, hd, -, h⟩ := h
      obtain rfl := Except.ok.inj h
      obtain ⟨hstep, hreceipts, hgeneration, hact⟩ := updateActivation_step hd
      have hkey := List.find?_some hpointer
      simp only [Bool.and_eq_true, decide_eq_true_eq] at hkey
      have hscope : ∀ (kind id : String) (a : Activation),
          ((row.moved current.revision a).scopeKind = kind ∧
            (row.moved current.revision a).scopeId = id) ↔ a.scopeKind = kind ∧ a.scopeId = id := by
        intro kind id a
        unfold Activation.moved
        split
        · rename_i hmoved
          rw [hmoved.1, hmoved.2.1]
        · exact Iff.rfl
      have hfind : ∀ kind id, d.pointer? kind id = (db.pointer? kind id).map
          (Activation.moved row current.revision) := by
        intro kind id
        show d.activations.find? _ = (db.activations.find? _).map _
        rw [hact, List.find?_map]
        congr 2
        funext a
        rw [Function.comp_apply, ← Bool.decide_and, ← Bool.decide_and]
        exact decide_eq_decide.mpr (hscope kind id a)
      refine ⟨hstep, hgeneration, hreceipts, ?_, fun kind id hne => ?_⟩
      · rw [hfind, hpointer, Option.map_some, Activation.moved, if_pos ⟨hkey.1, hkey.2, rfl⟩]
      · rw [hfind]
        cases hother : db.pointer? kind id with
        | none => rfl
        | some a =>
            have ha := List.find?_some hother
            simp only [Bool.and_eq_true, decide_eq_true_eq] at ha
            rw [Option.map_some, Activation.moved, if_neg]
            intro hmoved
            exact hne ⟨ha.1.symm.trans hmoved.1, ha.2.symm.trans hmoved.2.1⟩

theorem activateDefault_ok {kind id snapshotId : String} {expected : Option Nat}
    {activation : Activation}
    (h : activateDefault env fence db kind id expected snapshotId = .ok (db', activation)) :
    ActivatedAs db db' kind id expected snapshotId activation := by
  simp only [activateDefault, bind_eq_ok', exists_unit, conflictIf_ok, rejectIf_ok,
    decide_eq_false_iff_not, not_not] at h
  obtain ⟨_, -, -, _, -, -, husable, hexpected, -, d, hd, -, h⟩ := h
  obtain ⟨rfl, rfl⟩ := Prod.mk.inj (Except.ok.inj h)
  obtain ⟨hstep, hgeneration, hreceipts, hafter, hothers⟩ := movePointer_ok hd
  have hrevision : revision? db kind id = expected := hexpected
  have hactivation : (db.pointer? kind id).map Activation.revision = expected := hexpected
  exact ⟨hstep, hgeneration, hreceipts, husable, hrevision, by rw [hactivation], hafter, hothers⟩

end Operations

/-! ## 8. Runs -/

section Runs

variable {env : StoreEnv}

/-- The operation establishes the snapshot in the generation in force: it re-attests it or admits it
    for the first time. -/
def Establishes (db : RegistryDb) (id : String) : StoreOp env → Prop
  | .admitRegistry fence loaded => loaded.registry.snapshotId = id ∧ db.isAdmitted id = false ∧
      ∃ db', admitRegistryIn env fence db loaded = .ok db'
  | .reattest fence snapshotId decisionId decisionSource => snapshotId = id ∧
      ∃ db', reattestSnapshot env fence db snapshotId decisionId decisionSource = .ok db'
  | _ => False

/-- The operation moves the pointer of the scope. -/
def Activates (db : RegistryDb) (scopeKind scopeId : String) (expected : Option Nat)
    (snapshotId : String) (activation : Activation) : StoreOp env → Prop
  | .activate fence kind id revision snapshot => kind = scopeKind ∧ id = scopeId ∧
      revision = expected ∧ snapshot = snapshotId ∧
      ∃ db', activateDefault env fence db kind id revision snapshot = .ok (db', activation)
  | _ => False

/-- What an operation does to the store, whether it succeeds or not. -/
structure Performed (db : RegistryDb) (op : StoreOp env) (db' : RegistryDb) : Prop where
  step : Step db db'
  /-- A new receipt is of a snapshot the operation establishes. -/
  receipts : ∀ r ∈ db'.reattestations, r ∈ db.reattestations ∨
    Establishes db r.snapshotId op ∧ r.generation = db.generation
  /-- A pointer moves through its own activation only. -/
  pointers : ∀ kind id, db'.pointer? kind id = db.pointer? kind id ∨
    ∃ expected snapshotId activation, Activates db kind id expected snapshotId activation op ∧
      db'.pointer? kind id = some activation

theorem pointer?_congr {db db' : RegistryDb} (h : db'.activations = db.activations)
    (kind id : String) : db'.pointer? kind id = db.pointer? kind id := by
  unfold RegistryDb.pointer?
  rw [h]

theorem mem_receipts {P : ReattestationRow → Prop} {l l' : List ReattestationRow}
    (h : l' = l ∨ ∃ r, P r ∧ l' = l ++ [r]) : ∀ r ∈ l', r ∈ l ∨ P r := by
  intro r hr
  rcases h with rfl | ⟨new, hnew, rfl⟩
  · exact Or.inl hr
  · rcases List.mem_append.mp hr with hr | hr
    · exact Or.inl hr
    · rw [List.mem_singleton.mp hr]
      exact Or.inr hnew

theorem Performed.failed (db : RegistryDb) (op : StoreOp env) : Performed db op db :=
  ⟨.refl db, fun _ hr => Or.inl hr, fun _ _ => Or.inl rfl⟩

theorem perform_performed (db : RegistryDb) (op : StoreOp env) : Performed db op (perform db op) := by
  cases op with
  | admitRegistry fence loaded =>
      simp only [perform, admitRegistry]
      split
      · exact .failed db _
      · rename_i db' h
        have ha := admitRegistryIn_ok h
        refine ⟨ha.step, ?_, fun kind id => Or.inl (pointer?_congr ha.activations kind id)⟩
        have hreceipts : db'.reattestations = db.reattestations ∨ ∃ r,
            (db.isAdmitted r.snapshotId = false ∧ loaded.registry.snapshotId = r.snapshotId ∧
              r.generation = db.generation) ∧ db'.reattestations = db.reattestations ++ [r] := by
          rcases ha.receipts with hsame | ⟨hnew, r, hid, hgeneration, happend⟩
          · exact Or.inl hsame
          · exact Or.inr ⟨r, ⟨by rw [hid]; exact hnew, hid.symm, hgeneration⟩, happend⟩
        intro r hr
        exact (mem_receipts hreceipts r hr).imp id fun hp => ⟨⟨hp.2.1, hp.1, db', h⟩, hp.2.2⟩
  | setState fence id state =>
      simp only [perform, committed]
      split
      · rename_i db' h
        obtain ⟨hstep, hact, -, hreceipts⟩ := setSnapshotState_ok h
        exact ⟨hstep, fun r hr => Or.inl (hreceipts ▸ hr),
          fun kind id => Or.inl (pointer?_congr hact kind id)⟩
      · exact .failed db _
  | reattest fence id decisionId decisionSource =>
      simp only [perform, committed]
      split
      · rename_i db' h
        obtain ⟨hstep, hact, -, hreceipts⟩ := reattestSnapshot_ok h
        refine ⟨hstep, fun r hr => ?_, fun kind id => Or.inl (pointer?_congr hact kind id)⟩
        have hnew : db'.reattestations = db.reattestations ∨ ∃ r, (r.snapshotId = id ∧
            r.generation = db.generation) ∧ db'.reattestations = db.reattestations ++ [r] :=
          hreceipts.imp (fun e => e) fun ⟨r, hid, hg, e⟩ => ⟨r, ⟨hid, hg⟩, e⟩
        exact (mem_receipts hnew r hr).imp (fun hr => hr) fun hp => ⟨⟨hp.1.symm, db', h⟩, hp.2⟩
      · exact .failed db _
  | activate fence kind id expected snapshotId =>
      simp only [perform, committed]
      split
      · rename_i db' h
        obtain ⟨⟨d, activation⟩, hd, rfl⟩ := map_eq_ok.mp h
        have ha := activateDefault_ok hd
        refine ⟨ha.step, fun r hr => Or.inl (ha.receipts ▸ hr), fun k i => ?_⟩
        by_cases hscope : k = kind ∧ i = id
        · obtain ⟨rfl, rfl⟩ := hscope
          exact Or.inr ⟨expected, snapshotId, activation, ⟨rfl, rfl, rfl, rfl, d, hd⟩, ha.after⟩
        · exact Or.inl (ha.others k i hscope)
      · exact .failed db _
  | advanceFence leaseHeld =>
      simp only [perform, committed]
      split
      · rename_i db' h
        obtain ⟨hstep, hact, -, hreceipts⟩ := advanceRepairFence_ok h
        exact ⟨hstep, fun r hr => Or.inl (hreceipts ▸ hr),
          fun kind id => Or.inl (pointer?_congr hact kind id)⟩
      · exact .failed db _

/-- **A run takes nothing back and keeps what always holds.** -/
theorem run_step (db : RegistryDb) (ops : List (StoreOp env)) : Step db (run db ops) := by
  induction ops generalizing db with
  | nil => exact .refl db
  | cons op ops ih => exact (perform_performed db op).step.trans (ih (perform db op))

/-- What always holds does so once 0014 is applied. -/
theorem sound_upgraded (l : Legacy) : Sound (upgraded l) where
  terminal := fun id s hs hhard => by
    obtain ⟨row, hrow, hstate⟩ := Option.map_eq_some_iff.mp hs
    have hid : row.snapshotId = id := by simpa using List.find?_some hrow
    refine List.any_eq_true.mpr ⟨row, List.mem_filter.mpr ⟨List.mem_of_find?_eq_some hrow, ?_⟩, ?_⟩
    · rw [hstate, hhard]
      rfl
    · rw [hid, decide_eq_true_eq]
  attested := fun r hr => by cases hr

end Runs

end Aios.Registry
