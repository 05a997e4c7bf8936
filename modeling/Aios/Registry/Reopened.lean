/-
  File:      Aios/Registry/Reopened.lean
  Subject:   A SNAPSHOT OPENED AGAIN: what an admission stored, and what every later opening returns.

  An opening reads the manifest, the entries and the contracts under their identities; of an admitted
  snapshot none of the three changes (`open_later`). Its entries are those of the registry that was
  admitted (`AdmittedAs.mirrors`) and those of the registry an opening returns (`mirrors_opened`), so
  the two have the same identities under the same keys.
-/
import Aios.Registry.Evolved
import Aios.Registry.SelfCertifying

namespace Aios.Registry

open Lib

/-! ## 1. The same registry at every opening -/

section Later

variable {env : StoreEnv} {db db' : RegistryDb}

theorem Grown.contract? (h : Grown db db') {kind : ContractKind} {hash : String} {row : ContractRow}
    (hrow : db.contract? kind hash = some row) : db'.contract? kind hash = some row := by
  obtain ⟨more, hmore⟩ := h.contracts kind
  show (db'.contracts kind).find? _ = some row
  rw [← hmore, List.find?_append, show (db.contracts kind).find? _ = some row from hrow]
  rfl

theorem Grown.snapshot? (h : Grown db db') {id : String} {row : SnapshotRow}
    (hrow : db.snapshot? id = some row) : db'.snapshot? id = some row := by
  obtain ⟨more, hmore⟩ := h.snapshots
  show db'.snapshots.find? _ = some row
  rw [← hmore, List.find?_append, show db.snapshots.find? _ = some row from hrow]
  rfl

/-- An admitted snapshot keeps its entries. -/
theorem Grown.entries_filter (h : Grown db db') {id : String} (hid : db.isAdmitted id = true) :
    (db'.entries.filter fun e => e.snapshotId = id) = db.entries.filter fun e => e.snapshotId = id := by
  obtain ⟨more, hmore, hopen⟩ := h.entries
  have hnone : (more.filter fun e => e.snapshotId = id) = [] := by
    rw [List.filter_eq_nil_iff]
    intro e he
    rw [decide_eq_true_eq]
    intro heq
    have hclosed := hopen e he
    rw [heq, hid] at hclosed
    cases hclosed
  rw [hmore, List.filter_append, hnone, List.append_nil]

theorem storedContract_later {α : Type} {store : StoredFamily α} {row : EntryRow} {contract : α}
    (hg : Grown db db') (h : storedContract db store row = .ok contract) :
    storedContract db' store row = .ok contract := by
  simp only [storedContract, bind_eq_ok', expect_ok] at h ⊢
  obtain ⟨stored, hstored, h⟩ := h
  exact ⟨stored, hg.contract? hstored, h⟩

theorem readEntries_later (hg : Grown db db') : ∀ {rows : List EntryRow} {acc read : ReadBack},
    readEntries env db rows acc = .ok read → readEntries env db' rows acc = .ok read
  | [], _, _, h => h
  | row :: rest, acc, read, h => by
      simp only [readEntries, bind_eq_ok', exists_unit] at h ⊢
      obtain ⟨hexpected, h⟩ := h
      refine ⟨hexpected, ?_⟩
      cases hclass : row.contractClass with
      | type =>
          simp only [hclass, bind_eq_ok'] at h ⊢
          obtain ⟨contract, hcontract, h⟩ := h
          exact ⟨contract, storedContract_later hg hcontract, readEntries_later hg h⟩
      | capability =>
          simp only [hclass, bind_eq_ok'] at h ⊢
          obtain ⟨contract, hcontract, h⟩ := h
          exact ⟨contract, storedContract_later hg hcontract, readEntries_later hg h⟩

theorem isAdmitted_of_open {id : String} {r : SemanticRegistry} (h : openSnapshot env db id = .ok r) :
    db.isAdmitted id = true := by
  simp only [openSnapshot, bind_eq_ok', exists_unit, rejectIf_ok, Bool.not_eq_false'] at h
  exact h.1

/-- **A snapshot that opens opens to the same registry ever after.** -/
theorem open_later (hg : Grown db db') {id : String} {r : SemanticRegistry}
    (h : openSnapshot env db id = .ok r) : openSnapshot env db' id = .ok r := by
  have hid := isAdmitted_of_open h
  have hentries : db'.entriesOf id = db.entriesOf id := by
    unfold RegistryDb.entriesOf
    rw [hg.entries_filter hid]
  simp only [openSnapshot, bind_eq_ok', exists_unit, rejectIf_ok, Bool.not_eq_false', expect_ok,
    hentries] at h ⊢
  obtain ⟨-, row, hrow, snapshot, hsnapshot, hidentity, read, hread, h⟩ := h
  exact ⟨hg.isAdmitted hid, row, hg.snapshot? hrow, snapshot, hsnapshot, hidentity, read,
    readEntries_later hg hread, h⟩

end Later

/-! ## 2. The identities of a built registry -/

/-- The identities of one kind. -/
def hashesOf (r : SemanticRegistry) : ContractKind → FamilyMap String
  | .type => r.typeHashes
  | .capability => r.capabilityHashes

/-- Every contract is under its identifier and major version, and the identities are theirs. -/
structure Keyed {α : Type} (fam : Family α) (contracts : FamilyMap α) (hashes : FamilyMap String) :
    Prop where
  contract : ∀ (key : String × Nat) (c : α), contracts[key]? = some c →
    fam.id c = key.1 ∧ (∃ v, FullVersion.parse (fam.version c) = .ok v ∧ v.major = key.2) ∧
      ∃ h, hashes[key]? = some h ∧ fam.hash c = .ok h
  hash : ∀ (key : String × Nat) (h : String), hashes[key]? = some h →
    ∃ c, contracts[key]? = some c ∧ fam.hash c = .ok h

theorem keyed_of_certified {α : Type} {fam : Family α} {entries : List ContractRef}
    {contracts : FamilyMap α} {hashes : FamilyMap String} {refs : List ContractRef}
    (hc : FamilyCertified fam entries contracts hashes refs) : Keyed fam contracts hashes := by
  have hentry : ∀ key : String × Nat, key ∈ contracts ∨ key ∈ hashes → ∃ c h,
      contracts[key]? = some c ∧ hashes[key]? = some h ∧ fam.hash c = .ok h ∧ fam.id c = key.1 ∧
      ∃ v, FullVersion.parse (fam.version c) = .ok v ∧ v.major = key.2 := by
    intro key hkey
    obtain ⟨e, he, hfamily⟩ := hc.closed key hkey
    obtain ⟨key', c, h, hfamily', hcontract, hid, hversion, hhash, hcomputed⟩ := hc.entry e he
    obtain rfl : key' = key := Except.ok.inj (hfamily'.symm.trans hfamily)
    obtain ⟨hkeyId, v, hv, hmajor⟩ := familyOf_ok.mp hfamily
    exact ⟨c, h, hcontract, hhash, hcomputed, hid.trans hkeyId, v, by rw [hversion]; exact hv, hmajor⟩
  refine ⟨fun key c hcontract => ?_, fun key h hhash => ?_⟩
  · have hmem : key ∈ contracts := by
      rw [Std.ExtTreeMap.mem_iff_isSome_getElem?, hcontract]
      rfl
    obtain ⟨c', h, hcontract', hhash, hcomputed, hid, hversion⟩ := hentry key (Or.inl hmem)
    obtain rfl : c' = c := Option.some.inj (hcontract'.symm.trans hcontract)
    exact ⟨hid, hversion, h, hhash, hcomputed⟩
  · have hmem : key ∈ hashes := by
      rw [Std.ExtTreeMap.mem_iff_isSome_getElem?, hhash]
      rfl
    obtain ⟨c, h', hcontract, hhash', hcomputed, -⟩ := hentry key (Or.inr hmem)
    obtain rfl : h' = h := Option.some.inj (hhash'.symm.trans hhash)
    exact ⟨c, hcontract, hcomputed⟩

/-- What both kinds of a registry are. -/
structure KeyedRegistry (env : BuildEnv) (r : SemanticRegistry) : Prop where
  types : Keyed (typeFamily env) r.types r.typeHashes
  capabilities : Keyed (capabilityFamily env) r.capabilities r.capabilityHashes

theorem keyed_of_build {env : BuildEnv} {snapshot : RegistrySnapshot} {types : List TypeContract}
    {capabilities : List CapabilityContract} {options : RegistryBuildOptions} {r : SemanticRegistry}
    (h : buildRegistry env snapshot types capabilities options = .ok r) : KeyedRegistry env r := by
  obtain ⟨t, hb, rfl⟩ := buildRegistry_ok_iff.mp h
  exact ⟨keyed_of_certified hb.certified.types, keyed_of_certified hb.certified.capabilities⟩

/-! ## 3. Entries and identities -/

/-- The snapshot has an entry of the kind under the key with the identity. -/
def EntryFor (db : RegistryDb) (id : String) (kind : ContractKind) (key : String × Nat)
    (hash : String) : Prop :=
  ∃ row ∈ db.entries, row.snapshotId = id ∧ row.contractClass = kind ∧ row.semanticId = key.1 ∧
    row.major = key.2 ∧ row.contentHash = hash

/-- The entries of the snapshot are the identities of the registry. -/
def Mirrors (db : RegistryDb) (id : String) (r : SemanticRegistry) : Prop :=
  ∀ kind key hash, EntryFor db id kind key hash ↔ (hashesOf r kind)[key]? = some hash

theorem Mirrors.later {db db' : RegistryDb} {id : String} {r : SemanticRegistry} (hg : Grown db db')
    (hid : db.isAdmitted id = true) (h : Mirrors db id r) : Mirrors db' id r := by
  intro kind key hash
  rw [← h kind key hash]
  have hmem : ∀ row : EntryRow, (row ∈ db'.entries ∧ row.snapshotId = id) ↔
      row ∈ db.entries ∧ row.snapshotId = id := by
    intro row
    have hfilter := hg.entries_filter hid
    have hiff : row ∈ (db'.entries.filter fun e => e.snapshotId = id) ↔
        row ∈ db.entries.filter fun e => e.snapshotId = id := by rw [hfilter]
    simpa only [List.mem_filter, decide_eq_true_eq] using hiff
  constructor
  · rintro ⟨row, hrow, hsnapshot, hrest⟩
    have hrow' := (hmem row).mp ⟨hrow, hsnapshot⟩
    exact ⟨row, hrow'.1, hsnapshot, hrest⟩
  · rintro ⟨row, hrow, hsnapshot, hrest⟩
    have hrow' := (hmem row).mpr ⟨hrow, hsnapshot⟩
    exact ⟨row, hrow'.1, hsnapshot, hrest⟩

/-- Registries mirrored by the same entries have the same identities. -/
theorem Mirrors.hashes_eq {db : RegistryDb} {id : String} {r r' : SemanticRegistry}
    (h : Mirrors db id r) (h' : Mirrors db id r') (kind : ContractKind) :
    hashesOf r kind = hashesOf r' kind := by
  refine Std.ExtTreeMap.ext_getElem? fun key => ?_
  refine Option.ext fun hash => ?_
  rw [← h kind key hash, ← h' kind key hash]

/-! ## 4. What an admission stored -/

section Stored

variable {env : StoreEnv} {db db' : RegistryDb}

/-- The entries of one kind of a registry. -/
def rowsOf {α : Type} (store : StoredFamily α) (contracts : FamilyMap α) (hashes : FamilyMap String)
    (id : String) : List EntryRow :=
  contracts.toList.map fun p => ⟨id, store.family.kind, p.1.1, p.1.2, store.family.version p.2,
    hashes.getD p.1 ""⟩

section Rows

variable {α : Type} {store : StoredFamily α} {contracts : FamilyMap α} {hashes : FamilyMap String}
  {id : String}

theorem rowsOf_entered (hk : Keyed store.family contracts hashes)
    (h : ∀ c ∈ contracts.toList.map Prod.snd, Entered store hashes id db c) {row : EntryRow}
    (hrow : row ∈ rowsOf store contracts hashes id) : row ∈ db.entries := by
  obtain ⟨⟨key, c⟩, hmem, rfl⟩ := List.mem_map.mp hrow
  have hcontract := Std.ExtTreeMap.mem_toList_iff_getElem?_eq_some.mp hmem
  obtain ⟨hid, ⟨v, hv, hmajor⟩, -⟩ := hk.contract key c hcontract
  obtain ⟨version, hash, hversion, hhash, hentry⟩ := h c (mem_values hcontract)
  obtain rfl : v = version := Except.ok.inj (hv.symm.trans hversion)
  rw [hid, hmajor] at hhash hentry
  have hstored := List.mem_of_find?_eq_some hentry
  have hget : hashes.getD key "" = hash := by
    rw [Std.ExtTreeMap.getD_eq_getD_getElem?, show hashes[key]? = some hash from hhash]
    rfl
  show (⟨id, store.family.kind, key.1, key.2, store.family.version c, hashes.getD key ""⟩ : EntryRow) ∈
    db.entries
  rw [hget]
  exact hstored

theorem rowsOf_nodup : (rowsOf store contracts hashes id).Nodup := by
  refine List.pairwise_map.mpr (List.Pairwise.imp (fun {p q} hne e => hne ?_)
    (Std.ExtTreeMap.distinct_keys_toList (t := contracts)))
  rw [Std.LawfulEqCmp.compare_eq_iff_eq]
  exact Prod.ext (congrArg EntryRow.semanticId e) (congrArg EntryRow.major e)

theorem rowsOf_hash (hk : Keyed store.family contracts hashes) {key : String × Nat} {hash : String} :
    (∃ row ∈ rowsOf store contracts hashes id, row.semanticId = key.1 ∧ row.major = key.2 ∧
      row.contentHash = hash) ↔ hashes[key]? = some hash := by
  constructor
  · rintro ⟨row, hrow, hid, hmajor, hhash⟩
    obtain ⟨⟨key', c⟩, hmem, rfl⟩ := List.mem_map.mp hrow
    obtain rfl : key' = key := Prod.ext hid hmajor
    obtain ⟨-, -, h, hstored, -⟩ :=
      hk.contract _ c (Std.ExtTreeMap.mem_toList_iff_getElem?_eq_some.mp hmem)
    have hget : hashes.getD key' "" = h := by
      rw [Std.ExtTreeMap.getD_eq_getD_getElem?, hstored]
      rfl
    rw [hstored, ← hhash]
    exact congrArg some hget.symm
  · intro hhash
    obtain ⟨c, hcontract, -⟩ := hk.hash key hash hhash
    refine ⟨_, List.mem_map.mpr ⟨(key, c),
      Std.ExtTreeMap.mem_toList_iff_getElem?_eq_some.mpr hcontract, rfl⟩, rfl, rfl, ?_⟩
    show hashes.getD key "" = hash
    rw [Std.ExtTreeMap.getD_eq_getD_getElem?, hhash]
    rfl

theorem rowsOf_kind {row : EntryRow} (hrow : row ∈ rowsOf store contracts hashes id) :
    row.contractClass = store.family.kind ∧ row.snapshotId = id := by
  obtain ⟨p, -, rfl⟩ := List.mem_map.mp hrow
  exact ⟨rfl, rfl⟩

end Rows

/-- **An admission stored the entries of its registry, and no others are the snapshot's.** -/
theorem AdmittedAs.mirrors {loaded : LoadedRegistry env} (h : AdmittedAs env loaded.registry db db') :
    Mirrors db' loaded.registry.snapshotId loaded.registry := by
  obtain ⟨snapshot, types, capabilities, options, hbuild⟩ := loaded.loaded
  have hkeyed := keyed_of_build hbuild
  obtain ⟨htypes, hcapabilities⟩ := hkeyed
  set registry := loaded.registry with hregistry
  let typeRows := rowsOf (typeStore env) registry.types registry.typeHashes registry.snapshotId
  let capabilityRows := rowsOf (capabilityStore env) registry.capabilities registry.capabilityHashes
    registry.snapshotId
  let own := db'.entries.filter fun e => e.snapshotId = registry.snapshotId
  have hsub : ∀ row ∈ typeRows ++ capabilityRows, row ∈ own := by
    intro row hrow
    rcases List.mem_append.mp hrow with hrow | hrow
    · exact List.mem_filter.mpr ⟨rowsOf_entered htypes h.types hrow,
        decide_eq_true (rowsOf_kind hrow).2⟩
    · exact List.mem_filter.mpr ⟨rowsOf_entered hcapabilities h.capabilities hrow,
        decide_eq_true (rowsOf_kind hrow).2⟩
  have hnodup : (typeRows ++ capabilityRows).Nodup := by
    refine List.nodup_append.mpr ⟨rowsOf_nodup, rowsOf_nodup, fun a ha b hb e => ?_⟩
    have hkind := (rowsOf_kind ha).1
    rw [e, (rowsOf_kind hb).1] at hkind
    cases hkind
  -- as many rows as the snapshot has entries, so these are all of them
  have hlength : own.length ≤ (typeRows ++ capabilityRows).length := by
    obtain ⟨t, hb, hr⟩ := buildRegistry_ok_iff.mp hbuild
    have htypesLength : registry.types.toList.length = registry.snapshot.typeContracts.length := by
      rw [hr, ← List.length_map (f := Prod.snd)]
      exact hb.types.length_stored
    have hcapabilitiesLength : registry.capabilities.toList.length =
        registry.snapshot.capabilityContracts.length := by
      rw [hr, ← List.length_map (f := Prod.snd)]
      exact hb.capabilities.length_stored
    have hcount : own.length = registry.types.toList.length + registry.capabilities.toList.length := by
      rw [htypesLength, hcapabilitiesLength]
      exact h.count
    rw [hcount, List.length_append, show typeRows.length = _ from List.length_map _,
      show capabilityRows.length = _ from List.length_map _]
  have hperm : (typeRows ++ capabilityRows).Perm own :=
    (hnodup.subperm hsub).perm_of_length_le hlength
  have hall : ∀ row, (row ∈ db'.entries ∧ row.snapshotId = registry.snapshotId) ↔
      row ∈ typeRows ∨ row ∈ capabilityRows := by
    intro row
    rw [← List.mem_append, hperm.mem_iff, List.mem_filter, decide_eq_true_eq]
  intro kind key hash
  cases kind with
  | type =>
      have hrows : (∃ row ∈ typeRows, row.semanticId = key.1 ∧ row.major = key.2 ∧
          row.contentHash = hash) ↔ registry.typeHashes[key]? = some hash := rowsOf_hash htypes
      refine Iff.trans ⟨?_, ?_⟩ hrows
      · rintro ⟨row, hrow, hid, hclass, hrest⟩
        rcases (hall row).mp ⟨hrow, hid⟩ with hmem | hmem
        · exact ⟨row, hmem, hrest⟩
        · rw [(rowsOf_kind hmem).1] at hclass
          cases hclass
      · rintro ⟨row, hrow, hrest⟩
        have hmem := (hall row).mpr (Or.inl hrow)
        exact ⟨row, hmem.1, hmem.2, (rowsOf_kind hrow).1, hrest⟩
  | capability =>
      have hrows : (∃ row ∈ capabilityRows, row.semanticId = key.1 ∧ row.major = key.2 ∧
          row.contentHash = hash) ↔ registry.capabilityHashes[key]? = some hash :=
        rowsOf_hash hcapabilities
      refine Iff.trans ⟨?_, ?_⟩ hrows
      · rintro ⟨row, hrow, hid, hclass, hrest⟩
        rcases (hall row).mp ⟨hrow, hid⟩ with hmem | hmem
        · rw [(rowsOf_kind hmem).1] at hclass
          cases hclass
        · exact ⟨row, hmem, hrest⟩
      · rintro ⟨row, hrow, hrest⟩
        have hmem := (hall row).mpr (Or.inr hrow)
        exact ⟨row, hmem.1, hmem.2, (rowsOf_kind hrow).1, hrest⟩

end Stored

/-! ## 5. What an opening reads -/

section Opened

variable {env : StoreEnv} {db : RegistryDb}

theorem storedContract_major {α : Type} {store : StoredFamily α} {row : EntryRow} {contract : α}
    (h : storedContract db store row = .ok contract) :
    ∃ v, FullVersion.parse row.fullVersion = .ok v ∧ v.major = row.major := by
  simp only [storedContract, bind_eq_ok', exists_unit, ofRegistry_ok, conflictIf_ok,
    Bool.or_eq_false_iff, decide_eq_false_iff_not, not_not, ne_eq] at h
  obtain ⟨_, -, _, -, v, hv, _, -, ⟨⟨-, hmajor⟩, -⟩, -⟩ := h
  exact ⟨v, hv, hmajor⟩

/-- Every row that is read was expected, and what was expected is read or left over. -/
structure ReadFrom (rows : List EntryRow) (acc read : ReadBack) : Prop where
  expected : ∀ row ∈ rows, row.key ∈ acc.expected
  complete : ∀ key ∈ acc.expected, key ∈ read.expected ∨ ∃ row ∈ rows, row.key = key
  major : ∀ row ∈ rows, ∃ v, FullVersion.parse row.fullVersion = .ok v ∧ v.major = row.major

theorem ReadFrom.cons {row : EntryRow} {rest : List EntryRow} {acc next read : ReadBack}
    (hrow : row.key ∈ acc.expected) (hnext : next.expected = acc.expected.erase row.key)
    (hmajor : ∃ v, FullVersion.parse row.fullVersion = .ok v ∧ v.major = row.major)
    (h : ReadFrom rest next read) : ReadFrom (row :: rest) acc read where
  expected := fun r hr => by
    rcases List.mem_cons.mp hr with e | hr
    · rw [e]
      exact hrow
    · exact List.mem_of_mem_erase (hnext ▸ h.expected r hr)
  complete := fun key hkey => by
    by_cases e : key = row.key
    · exact Or.inr ⟨row, List.mem_cons_self, e.symm⟩
    · have hrest : key ∈ next.expected := by
        rw [hnext]
        exact (List.mem_erase_of_ne e).mpr hkey
      refine (h.complete key hrest).imp id fun ⟨r, hr, hk⟩ => ⟨r, List.mem_cons_of_mem row hr, hk⟩
  major := fun r hr => by
    rcases List.mem_cons.mp hr with e | hr
    · rw [e]
      exact hmajor
    · exact h.major r hr

theorem readEntries_ok : ∀ {rows : List EntryRow} {acc read : ReadBack},
    readEntries env db rows acc = .ok read → ReadFrom rows acc read
  | [], acc, read, h => by
      obtain rfl := Except.ok.inj h
      refine ⟨fun r hr => ?_, fun key hk => Or.inl hk, fun r hr => ?_⟩
      · cases hr
      · cases hr
  | row :: rest, acc, read, h => by
      simp only [readEntries, bind_eq_ok', exists_unit, conflictIf_ok, Bool.not_eq_false'] at h
      obtain ⟨hexpected, h⟩ := h
      have hrow : row.key ∈ acc.expected := List.contains_iff_mem.mp hexpected
      cases hclass : row.contractClass with
      | type =>
          simp only [hclass, bind_eq_ok'] at h
          obtain ⟨contract, hcontract, h⟩ := h
          exact .cons hrow rfl (storedContract_major hcontract) (readEntries_ok h)
      | capability =>
          simp only [hclass, bind_eq_ok'] at h
          obtain ⟨contract, hcontract, h⟩ := h
          exact .cons hrow rfl (storedContract_major hcontract) (readEntries_ok h)

/-- In strict mode an identity is the one its entry declares. -/
theorem strict_hash {α : Type} {fam : Family α} {supplied : SuppliedMap α} {kind : ContractKind}
    {l : List ContractRef} {entries : FamilyMap ContractRef} {active : Active α}
    (hindex : indexSnapshotEntries kind l = .ok entries)
    (ha : Activated fam supplied .strict entries active) {key : String × Nat} {hash : String} :
    active.hashes[key]? = some hash ↔ ∃ e ∈ l, entryKey e = .ok key ∧ e.contentHash = hash := by
  have hentry : ∀ e, entries[key]? = some e → active.hashes[key]? = some e.contentHash := by
    intro e he
    obtain ⟨c, h, hm, -, hh⟩ := ha.entry key e he
    have haccepted := hm.accepted
    simp only [hashAccepted, reduceCtorEq, decide_false, Bool.false_and, Bool.or_false,
      decide_eq_true_eq] at haccepted
    rw [hh, haccepted]
  constructor
  · intro hhash
    cases he : entries[key]? with
    | none =>
        rw [(ha.rest key he).2] at hhash
        cases hhash
    | some e =>
        obtain ⟨hmem, hkey⟩ := (indexBy_empty hindex key e).mp he
        exact ⟨e, hmem, hkey, Option.some.inj ((hentry e he).symm.trans hhash)⟩
  · rintro ⟨e, he, hkey, rfl⟩
    exact hentry e ((indexBy_empty hindex key e).mpr ⟨he, hkey⟩)

/-- The entries of a manifest of one kind. -/
def refsOf (snapshot : RegistrySnapshot) : ContractKind → List ContractRef
  | .type => snapshot.typeContracts
  | .capability => snapshot.capabilityContracts

theorem mem_expectedEntries {snapshot : RegistrySnapshot} {key : EntryKey} :
    key ∈ expectedEntries snapshot ↔ ∃ kind, ∃ e ∈ refsOf snapshot kind, refKey kind e = key := by
  unfold expectedEntries
  rw [List.mem_dedup, List.mem_append, List.mem_map, List.mem_map]
  constructor
  · rintro (⟨e, he, hk⟩ | ⟨e, he, hk⟩)
    · exact ⟨.type, e, he, hk⟩
    · exact ⟨.capability, e, he, hk⟩
  · rintro ⟨kind, e, he, hk⟩
    cases kind with
    | type => exact Or.inl ⟨e, he, hk⟩
    | capability => exact Or.inr ⟨e, he, hk⟩

/-- Rows that are exactly the manifest's entries carry the identities the entries declare. -/
theorem entryFor_iff {id : String} {snapshot : RegistrySnapshot} {read : ReadBack}
    (hread : ReadFrom (db.entriesOf id) ⟨expectedEntries snapshot, [], []⟩ read)
    (hleft : read.expected = []) {kind : ContractKind} {entries : FamilyMap ContractRef}
    (hindex : indexSnapshotEntries kind (refsOf snapshot kind) = .ok entries)
    {key : String × Nat} {hash : String} :
    EntryFor db id kind key hash ↔
      ∃ e ∈ refsOf snapshot kind, entryKey e = .ok key ∧ e.contentHash = hash := by
  have hrows : ∀ row, row ∈ db.entriesOf id ↔ row ∈ db.entries ∧ row.snapshotId = id := by
    intro row
    unfold RegistryDb.entriesOf
    rw [(sortOn_perm _ _).mem_iff, List.mem_filter, decide_eq_true_eq]
  constructor
  · rintro ⟨row, hrow, hid, hclass, hsemantic, hmajor, hhash⟩
    have hmem := (hrows row).mpr ⟨hrow, hid⟩
    obtain ⟨kind', e, he, hkey⟩ := mem_expectedEntries.mp (hread.expected row hmem)
    simp only [refKey, EntryRow.key, Prod.mk.injEq] at hkey
    obtain ⟨rfl, heId, heVersion, heHash⟩ := hkey
    rw [hclass] at he
    refine ⟨e, he, ?_, heHash.trans hhash⟩
    obtain ⟨key', hkey'⟩ := (indexable_of_indexBy hindex).keyed e he
    obtain ⟨hid', v, hv, hvMajor⟩ := familyOf_ok.mp (entryKey_ok.mp hkey').2
    obtain ⟨w, hw, hwMajor⟩ := hread.major row hmem
    rw [heVersion] at hv
    obtain rfl : v = w := Except.ok.inj (hv.symm.trans hw)
    have hsame : key' = key := Prod.ext (hid'.symm.trans (heId.trans hsemantic))
      (hvMajor.symm.trans (hwMajor.trans hmajor))
    rw [← hsame]
    exact hkey'
  · rintro ⟨e, he, hkey, hhash⟩
    have hexpected : refKey kind e ∈ expectedEntries snapshot :=
      mem_expectedEntries.mpr ⟨kind, e, he, rfl⟩
    have hfound := hread.complete _ hexpected
    rw [hleft] at hfound
    obtain ⟨row, hmem, hrowKey⟩ := hfound.resolve_left (by simp)
    simp only [refKey, EntryRow.key, Prod.mk.injEq] at hrowKey
    obtain ⟨hclass, hsemantic, hversion, hcontent⟩ := hrowKey
    obtain ⟨hrow, hid⟩ := (hrows row).mp hmem
    obtain ⟨hkeyId, v, hv, hvMajor⟩ := familyOf_ok.mp (entryKey_ok.mp hkey).2
    obtain ⟨w, hw, hwMajor⟩ := hread.major row hmem
    rw [hversion] at hw
    obtain rfl : v = w := Except.ok.inj (hv.symm.trans hw)
    exact ⟨row, hrow, hid, hclass, hsemantic.trans hkeyId, hwMajor.symm.trans hvMajor,
      hcontent.trans hhash⟩

/-- **An opening returns the registry whose identities the entries are.** -/
theorem mirrors_opened {id : String} {r : SemanticRegistry} (h : openSnapshot env db id = .ok r) :
    Mirrors db id r ∧ r.snapshotId = id ∧ KeyedRegistry env.build r := by
  simp only [openSnapshot, bind_eq_ok', exists_unit, ofRegistry_ok, conflictIf_ok,
    decide_eq_false_iff_not, not_not, Bool.not_eq_false'] at h
  obtain ⟨-, row, -, snapshot, -, -, read, hread, hleft, registry, hbuild, hid, h⟩ := h
  obtain rfl := Except.ok.inj h
  have hfrom := readEntries_ok hread
  obtain ⟨t, hb, hr⟩ := buildRegistry_ok_iff.mp hbuild
  refine ⟨fun kind key hash => ?_, hid, keyed_of_build hbuild⟩
  cases kind with
  | type =>
      refine (entryFor_iff hfrom (List.isEmpty_iff.mp hleft) hb.typeEntries).trans ?_
      rw [hr]
      exact (strict_hash hb.typeEntries hb.types).symm
  | capability =>
      refine (entryFor_iff hfrom (List.isEmpty_iff.mp hleft) hb.capabilityEntries).trans ?_
      rw [hr]
      exact (strict_hash hb.capabilityEntries hb.capabilities).symm

end Opened

end Aios.Registry
