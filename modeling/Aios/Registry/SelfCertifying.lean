/-
  File:      Aios/Registry/SelfCertifying.lean
  Subject:   A BUILD THAT SUCCEEDS, RUN AGAIN: the contents of the registry, other orders and
             further contracts, and the strict build from the returned snapshot.

  `buildRegistry_ok_iff` names the intermediate values of a build once; the results below only
  exchange the parts that differ between two builds. The mode of a build is kept in the registry as
  a mark of its own, so a strict build returns the registry of a bootstrap build with that mark
  changed, and nothing else.
-/
import Aios.Registry.Certified

namespace Aios

open Lib

/-! ## 1. The build, step by step -/

theorem validateSnapshotHeader_ok {env : BuildEnv} {s : RegistrySnapshot} :
    validateSnapshotHeader env s = .ok () ↔
      s.schemaVersion = "0.1" ∧ isRfc3339Datetime env s.createdAt = true ∧
      (s.generation.any (exceedsMaxLength · 128) || s.notes.any (exceedsMaxLength · 2048) ||
        s.publisher.any fun publisher =>
          publisher.id.any fun id => id.isEmpty || exceedsMaxLength id 256) = false ∧
      (isSha256Id s.snapshotId || isObviousPlaceholderHash s.snapshotId) = true := by
  have hlast : ∀ x y : Bool, (!x && !y) = false ↔ (x || y) = true := by decide
  unfold validateSnapshotHeader
  rw [unit_bind_eq_ok, unit_bind_eq_ok, unit_bind_eq_ok, rejectIf_ok, rejectIf_ok, rejectIf_ok,
    rejectIf_ok, hlast, decide_eq_false_iff_not, not_not, Bool.not_eq_false']

/-- The records pass one by one. -/
structure Admitted (env : BuildEnv) (snapshot : RegistrySnapshot) (types : List TypeContract)
    (capabilities : List CapabilityContract) (maximum : Nat) : Prop where
  header : validateSnapshotHeader env snapshot = .ok ()
  entryCount : snapshot.typeContracts.length + snapshot.capabilityContracts.length < 2 ^ 64 ∧
    snapshot.typeContracts.length + snapshot.capabilityContracts.length ≤ maximum
  suppliedCount : types.length + capabilities.length < 2 ^ 64 ∧
    types.length + capabilities.length ≤ maximum
  snapshotSchema : snapshotSchema env.schema.dateTime snapshot = true
  typeSchema : ∀ c ∈ types, env.schema.type c = none
  capabilitySchema : ∀ c ∈ capabilities, env.schema.capability c = none

theorem admitRecords_ok {env : BuildEnv} {snapshot : RegistrySnapshot} {types : List TypeContract}
    {capabilities : List CapabilityContract} {maximum : Nat} :
    admitRecords env snapshot types capabilities maximum = .ok () ↔
      Admitted env snapshot types capabilities maximum := by
  unfold admitRecords
  rw [unit_bind_eq_ok, unit_bind_eq_ok, unit_bind_eq_ok, unit_bind_eq_ok, unit_bind_eq_ok,
    contractCount_ok, contractCount_ok, schemaValidate_ok, env.schema.snapshot_spec, forEach_ok,
    forEach_ok]
  simp only [schemaValidate_ok]
  constructor
  · intro h
    obtain ⟨h1, h2, h3, h4, h5, h6⟩ := h
    exact ⟨h1, h2, h3, h4, h5, h6⟩
  · intro h
    exact ⟨h.header, h.entryCount, h.suppliedCount, h.snapshotSchema, h.typeSchema,
      h.capabilitySchema⟩

/-- The intermediate values of a build. -/
structure Trace where
  typeEntries : FamilyMap ContractRef
  capabilityEntries : FamilyMap ContractRef
  suppliedTypes : SuppliedMap TypeContract
  suppliedCapabilities : SuppliedMap CapabilityContract
  types : Active TypeContract
  capabilities : Active CapabilityContract
  snapshotId : String

/-- The values fit together. -/
structure Built (env : BuildEnv) (snapshot : RegistrySnapshot) (types : List TypeContract)
    (capabilities : List CapabilityContract) (options : RegistryBuildOptions) (t : Trace) :
    Prop where
  admitted : Admitted env snapshot types capabilities options.maxContracts
  typeEntries : indexSnapshotEntries .type snapshot.typeContracts = .ok t.typeEntries
  capabilityEntries :
    indexSnapshotEntries .capability snapshot.capabilityContracts = .ok t.capabilityEntries
  suppliedTypes : indexSupplied (typeFamily env) types = .ok t.suppliedTypes
  suppliedCapabilities :
    indexSupplied (capabilityFamily env) capabilities = .ok t.suppliedCapabilities
  types : Activated (typeFamily env) t.suppliedTypes options.hashVerification t.typeEntries t.types
  capabilities : Activated (capabilityFamily env) t.suppliedCapabilities options.hashVerification
    t.capabilityEntries t.capabilities
  references : validateCrossReferences t.types.contracts t.capabilities.contracts = .ok ()
  snapshotId : registrySnapshotId env.digest snapshot.schemaVersion
    (t.types.refs.map snapshotHashEntry) (t.capabilities.refs.map snapshotHashEntry) =
      .ok t.snapshotId
  accepted : hashAccepted options.hashVerification snapshot.snapshotId t.snapshotId = true

section Build

variable {env : BuildEnv} {snapshot : RegistrySnapshot} {types : List TypeContract}
  {capabilities : List CapabilityContract} {options : RegistryBuildOptions} {r : SemanticRegistry}

variable {mode : HashVerificationMode} {entries : FamilyMap ContractRef} {α : Type}

theorem verifySnapshotHash_ok {declared computed : String} :
    verifySnapshotHash declared computed mode = .ok () ↔ hashAccepted mode declared computed = true := by
  unfold verifySnapshotHash
  rw [rejectIf_ok, Bool.not_eq_false']

/-- **A build succeeds exactly when its intermediate values fit together**, and returns the registry
    of the active contracts. -/
theorem buildRegistry_ok_iff : buildRegistry env snapshot types capabilities options = .ok r ↔
    ∃ t, Built env snapshot types capabilities options t ∧
      r = registryOf snapshot options.hashVerification t.types t.capabilities t.snapshotId := by
  unfold buildRegistry assemble
  constructor
  · intro h
    rw [unit_bind_eq_ok, bind_eq_ok'] at h
    obtain ⟨hrecords, te, hte, h⟩ := h
    rw [bind_eq_ok'] at h
    obtain ⟨ce, hce, h⟩ := h
    rw [bind_eq_ok'] at h
    obtain ⟨st, hst, h⟩ := h
    rw [bind_eq_ok'] at h
    obtain ⟨sc, hsc, h⟩ := h
    rw [bind_eq_ok'] at h
    obtain ⟨ta, hta, h⟩ := h
    rw [bind_eq_ok'] at h
    obtain ⟨ca, hca, h⟩ := h
    rw [unit_bind_eq_ok, bind_eq_ok'] at h
    obtain ⟨hrefs, id, hid, h⟩ := h
    rw [unit_bind_eq_ok, verifySnapshotHash_ok] at h
    obtain ⟨haccepted, e⟩ := h
    refine ⟨⟨te, ce, st, sc, ta, ca, id⟩, ⟨admitRecords_ok.mp hrecords, hte, hce, hst, hsc,
      activate_ok_iff.mp hta, activate_ok_iff.mp hca, hrefs, hid, haccepted⟩, ?_⟩
    exact (Except.ok.inj e).symm
  · intro ⟨t, hb, e⟩
    rw [unit_bind_eq_ok, hb.typeEntries, ok_bind, hb.capabilityEntries, ok_bind, hb.suppliedTypes,
      ok_bind, hb.suppliedCapabilities, ok_bind, activate_ok_iff.mpr hb.types, ok_bind,
      activate_ok_iff.mpr hb.capabilities, ok_bind, hb.references, ok_bind, hb.snapshotId, ok_bind,
      verifySnapshotHash_ok.mpr hb.accepted, ok_bind]
    exact ⟨admitRecords_ok.mpr hb.admitted, by rw [e]; rfl⟩

/-! ## 2. The contents -/

/-- Contracts, identities and returned entries of one kind against the entries of the snapshot. -/
structure FamilyCertified {α : Type} (fam : Family α) (entries : List ContractRef)
    (contracts : FamilyMap α) (hashes : FamilyMap String) (refs : List ContractRef) : Prop where
  /-- No two entries are of one family. -/
  distinct : entries.Pairwise fun a b => familyOf a ≠ familyOf b
  /-- Every entry has its contract, with its identifier, version and identity. -/
  entry : ∀ e ∈ entries, ∃ (key : String × Nat) (c : α) (h : String), familyOf e = .ok key ∧
    contracts[key]? = some c ∧ fam.id c = e.id ∧ fam.version c = e.version ∧
    hashes[key]? = some h ∧ fam.hash c = .ok h
  /-- There are no other contracts and no other identities. -/
  closed : ∀ key : String × Nat, key ∈ contracts ∨ key ∈ hashes → ∃ e ∈ entries, familyOf e = .ok key
  /-- The returned entries are the given ones with generated identities. -/
  returned : ∃ f : ContractRef → ContractRef, refs.Perm (entries.map f) ∧
    ∀ e ∈ entries, ∃ (key : String × Nat) (c : α) (h : String), familyOf e = .ok key ∧
      contracts[key]? = some c ∧ fam.hash c = .ok h ∧ f e = { e with contentHash := h }

theorem familyCertified {fam : Family α} {supplied : SuppliedMap α}
    {kind : ContractKind} {l : List ContractRef} {active : Active α}
    (hindex : indexSnapshotEntries kind l = .ok entries)
    (ha : Activated fam supplied mode entries active) :
    FamilyCertified fam l active.contracts active.hashes active.refs := by
  have hindexable := indexable_of_indexBy hindex
  have hfamily : ∀ e ∈ l, ∃ key, familyOf e = .ok key ∧ entries[key]? = some e := by
    intro e he
    obtain ⟨key, hkey⟩ := hindexable.keyed e he
    exact ⟨key, (entryKey_ok.mp hkey).2, (indexBy_empty hindex key e).mpr ⟨he, hkey⟩⟩
  refine ⟨?_, fun e he => ?_, fun key hk => ?_, ?_⟩
  · refine List.Pairwise.imp_of_mem (fun {a b} ha hb hne e => hne ?_) hindexable.distinct
    obtain ⟨j, hj⟩ := hindexable.keyed a ha
    obtain ⟨k, hk⟩ := hindexable.keyed b hb
    have e' := (entryKey_ok.mp hj).2.symm.trans (e.trans (entryKey_ok.mp hk).2)
    rw [hj, hk, e']
  · obtain ⟨key, hfam, hentry⟩ := hfamily e he
    obtain ⟨c, h, hm, hc, hh⟩ := ha.entry key e hentry
    exact ⟨key, c, h, hfam, hc, hm.id, hm.version, hh, hm.hash⟩
  · cases hentry : entries[key]? with
    | none =>
        obtain ⟨h1, h2⟩ := ha.rest key hentry
        rw [Std.ExtTreeMap.mem_iff_isSome_getElem?, Std.ExtTreeMap.mem_iff_isSome_getElem?, h1, h2] at hk
        simp at hk
    | some e =>
        obtain ⟨he, hkey⟩ := (indexBy_empty hindex key e).mp hentry
        exact ⟨e, he, (entryKey_ok.mp hkey).2⟩
  · obtain ⟨f, hperm, hf⟩ := ha.refs_perm hindex
    refine ⟨f, hperm, fun e he => ?_⟩
    obtain ⟨key, c, h, hentry, hfe, hc, _, hhash⟩ := hf e he
    exact ⟨key, c, h, (entryKey_ok.mp (indexSnapshotEntries_key hindex key e hentry)).2, hc, hhash, hfe⟩

/-- A reference in the text form resolves to a key of the map. -/
def ResolvesIn {β : Type} (reference : String) (m : FamilyMap β) : Prop :=
  ∃ ref, SemanticRef.parse reference = .ok ref ∧ (ref.id, ref.major) ∈ m

/-- What a registry holds, against the snapshot it was built from. -/
structure Certified (env : BuildEnv) (snapshot : RegistrySnapshot) (r : SemanticRegistry) :
    Prop where
  types : FamilyCertified (typeFamily env) snapshot.typeContracts r.types r.typeHashes
    r.snapshot.typeContracts
  capabilities : FamilyCertified (capabilityFamily env) snapshot.capabilityContracts r.capabilities
    r.capabilityHashes r.snapshot.capabilityContracts
  ports : ∀ (key : String × Nat) (c : CapabilityContract), r.capabilities[key]? = some c →
    ∀ reference ∈ portRefs c, ResolvesIn reference r.types
  conversions : ∀ (key : String × Nat) (t : TypeContract), r.types[key]? = some t →
    ∀ reference ∈ t.conversionCapabilities, ResolvesIn reference r.capabilities

theorem mem_values {β : Type} {m : FamilyMap β} {key : String × Nat} {v : β}
    (h : m[key]? = some v) : v ∈ m.toList.map Prod.snd :=
  List.mem_map.mpr ⟨(key, v), Std.ExtTreeMap.mem_toList_iff_getElem?_eq_some.mpr h, rfl⟩

/-- **Every reference of a stored contract resolves.** -/
theorem crossReferences_ok {types : FamilyMap TypeContract}
    {capabilities : FamilyMap CapabilityContract}
    (h : validateCrossReferences types capabilities = .ok ()) :
    (∀ (key : String × Nat) (c : CapabilityContract), capabilities[key]? = some c →
      ∀ reference ∈ portRefs c, ResolvesIn reference types) ∧
    ∀ (key : String × Nat) (t : TypeContract), types[key]? = some t →
      ∀ reference ∈ t.conversionCapabilities, ResolvesIn reference capabilities := by
  unfold validateCrossReferences at h
  rw [unit_bind_eq_ok, forEach_ok, forEach_ok] at h
  refine ⟨fun key c hc reference href => ?_, fun key t ht reference href => ?_⟩
  · have hport := forEach_ok.mp (h.2 c (mem_values hc)) reference href
    unfold validatePortReference at hport
    rw [bind_eq_ok'] at hport
    obtain ⟨ref, hparse, hfound⟩ := hport
    rw [rejectIf_ok, Bool.not_eq_false'] at hfound
    exact ⟨ref, hparse, Std.ExtTreeMap.contains_iff_mem.mp hfound⟩
  · have htype := h.1 t (mem_values ht)
    unfold validateTypeReferences at htype
    rw [bind_eq_ok'] at htype
    obtain ⟨version, _, hall⟩ := htype
    have hone := forEach_ok.mp hall reference href
    unfold validateConversion at hone
    rw [bind_eq_ok'] at hone
    obtain ⟨ref, hparse, hone⟩ := hone
    rw [bind_eq_ok'] at hone
    obtain ⟨capability, hfound, _⟩ := hone
    refine ⟨ref, hparse, ?_⟩
    rw [Std.ExtTreeMap.mem_iff_isSome_getElem?, expect_ok.mp hfound]
    rfl

theorem Built.certified {t : Trace} (hb : Built env snapshot types capabilities options t) :
    Certified env snapshot
      (registryOf snapshot options.hashVerification t.types t.capabilities t.snapshotId) where
  types := familyCertified hb.typeEntries hb.types
  capabilities := familyCertified hb.capabilityEntries hb.capabilities
  ports := (crossReferences_ok hb.references).1
  conversions := (crossReferences_ok hb.references).2

/-! ## 3. Other orders, further contracts -/

/-- Contracts that may stand beside the supplied ones: each passes the schema, and none has the
    identifier and version of another. -/
structure Further {α : Type} (fam : Family α) (supplied more : List α) : Prop where
  schema : ∀ c ∈ more, fam.schema c = none
  distinct : (more.map fam.key).Nodup
  fresh : ∀ c ∈ supplied, ∀ d ∈ more, fam.key c ≠ fam.key d

theorem nodup_of_indexSupplied {fam : Family α} {l : List α} {index : SuppliedMap α}
    (h : indexSupplied fam l = .ok index) : (l.map fam.key).Nodup := by
  refine List.pairwise_map.mpr ((indexable_of_indexBy h).distinct.imp fun {a b} hne e => hne ?_)
  rw [e]

/-- A supply with further contracts, in any order, indexes to more. -/
theorem Further.index {fam : Family α} {supplied more all : List α}
    {index : SuppliedMap α} (h : Further fam supplied more) (hperm : all.Perm (supplied ++ more))
    (hindex : indexSupplied fam supplied = .ok index) : ∃ index', indexSupplied fam all = .ok index' ∧
      ∀ (key : String × String) (c : α), index[key]? = some c → index'[key]? = some c := by
  have hnodup : ((supplied ++ more).map fam.key).Nodup := by
    rw [List.map_append, List.nodup_append]
    refine ⟨nodup_of_indexSupplied hindex, h.distinct, fun a ha b hb e => ?_⟩
    obtain ⟨c, hc, rfl⟩ := List.mem_map.mp ha
    obtain ⟨d, hd, rfl⟩ := List.mem_map.mp hb
    exact h.fresh c hc d hd e
  obtain ⟨index', hindex'⟩ := indexSupplied_total ((hperm.map fam.key).nodup_iff.mpr hnodup)
  refine ⟨index', hindex', fun key c hc => ?_⟩
  obtain ⟨hmem, hkey⟩ := (indexSupplied_getElem? hindex key c).mp hc
  refine (indexSupplied_getElem? hindex' key c).mpr ⟨hperm.mem_iff.mpr ?_, hkey⟩
  exact List.mem_append_left more hmem

theorem contractRefsSchema_perm {l l' : List ContractRef} (h : l.Perm l') :
    contractRefsSchema l = contractRefsSchema l' := by
  unfold contractRefsSchema
  rw [h.all_eq, decide_eq_decide.mpr h.nodup_iff]

/-- The snapshot with its entries in another order. -/
def reordered (snapshot : RegistrySnapshot) (typeEntries capabilityEntries : List ContractRef) :
    RegistrySnapshot :=
  { snapshot with typeContracts := typeEntries, capabilityContracts := capabilityEntries }

theorem Built.reorder {t : Trace} (hb : Built env snapshot types capabilities options t)
    {typeEntries capabilityEntries : List ContractRef}
    (hte : typeEntries.Perm snapshot.typeContracts)
    (hce : capabilityEntries.Perm snapshot.capabilityContracts)
    {types' moreTypes : List TypeContract} {capabilities' moreCapabilities : List CapabilityContract}
    (ht : types'.Perm (types ++ moreTypes))
    (hc : capabilities'.Perm (capabilities ++ moreCapabilities))
    (hft : Further (typeFamily env) types moreTypes)
    (hfc : Further (capabilityFamily env) capabilities moreCapabilities)
    (hcount : types'.length + capabilities'.length < 2 ^ 64 ∧
      types'.length + capabilities'.length ≤ options.maxContracts) :
    ∃ st sc, Built env (reordered snapshot typeEntries capabilityEntries) types' capabilities' options
      { t with suppliedTypes := st, suppliedCapabilities := sc } := by
  obtain ⟨st, hst, hsubt⟩ := hft.index ht hb.suppliedTypes
  obtain ⟨sc, hsc, hsubc⟩ := hfc.index hc hb.suppliedCapabilities
  have ha := hb.admitted
  refine ⟨st, sc, ⟨⟨ha.header, ?_, hcount, ?_, fun c hm => ?_, fun c hm => ?_⟩,
    indexBy_perm hte.symm hb.typeEntries, indexBy_perm hce.symm hb.capabilityEntries, hst, hsc,
    hb.types.mono hsubt, hb.capabilities.mono hsubc, hb.references, hb.snapshotId, hb.accepted⟩⟩
  · show typeEntries.length + capabilityEntries.length < 2 ^ 64 ∧
      typeEntries.length + capabilityEntries.length ≤ options.maxContracts
    rw [hte.length_eq, hce.length_eq]
    exact ha.entryCount
  · have hs := ha.snapshotSchema
    unfold snapshotSchema at hs ⊢
    rw [← contractRefsSchema_perm hte, ← contractRefsSchema_perm hce] at hs
    exact hs
  · rcases List.mem_append.mp (ht.mem_iff.mp hm) with hm | hm
    · exact ha.typeSchema c hm
    · exact hft.schema c hm
  · rcases List.mem_append.mp (hc.mem_iff.mp hm) with hm | hm
    · exact ha.capabilitySchema c hm
    · exact hfc.schema c hm

/-! ## 4. The second build -/

theorem Activated.length_refs {fam : Family α} {supplied : SuppliedMap α} {active : Active α}
    {kind : ContractKind} {l : List ContractRef} (ha : Activated fam supplied mode entries active)
    (hindex : indexSnapshotEntries kind l = .ok entries) : active.refs.length = l.length := by
  obtain ⟨f, hperm, _⟩ := ha.refs_perm hindex
  rw [hperm.length_eq, List.length_map]

/-- **The returned snapshot builds the same contracts in strict mode**, from any supply that passes
    the schema and holds the stored contracts. -/
theorem Built.rebuild {t : Trace} (hb : Built env snapshot types capabilities options t)
    {types' : List TypeContract} {capabilities' : List CapabilityContract}
    {st : SuppliedMap TypeContract} {sc : SuppliedMap CapabilityContract}
    (hst : indexSupplied (typeFamily env) types' = .ok st)
    (hsc : indexSupplied (capabilityFamily env) capabilities' = .ok sc)
    (hsubt : ∀ (key : String × Nat) (c : TypeContract), t.types.contracts[key]? = some c →
      st[(typeFamily env).key c]? = some c)
    (hsubc : ∀ (key : String × Nat) (c : CapabilityContract),
      t.capabilities.contracts[key]? = some c → sc[(capabilityFamily env).key c]? = some c)
    (hts : ∀ c ∈ types', env.schema.type c = none)
    (hcs : ∀ c ∈ capabilities', env.schema.capability c = none)
    (hcount : types'.length + capabilities'.length < 2 ^ 64 ∧
      types'.length + capabilities'.length ≤ options.maxContracts) :
    Built env
      (registryOf snapshot options.hashVerification t.types t.capabilities t.snapshotId).snapshot
      types' capabilities' { options with hashVerification := .strict }
      { t with
        typeEntries := rehashed t.types.hashes t.typeEntries
        capabilityEntries := rehashed t.capabilities.hashes t.capabilityEntries
        suppliedTypes := st
        suppliedCapabilities := sc } := by
  have ha := hb.admitted
  have hid := registrySnapshotId_sha256 hb.snapshotId
  refine ⟨⟨?_, ?_, hcount, ?_, hts, hcs⟩,
    hb.types.index_refs (typeFamily_sha256 env) _ (indexSnapshotEntries_key hb.typeEntries),
    hb.capabilities.index_refs (capabilityFamily_sha256 env) _
      (indexSnapshotEntries_key hb.capabilityEntries),
    hst, hsc, hb.types.rebuild hsubt, hb.capabilities.rebuild hsubc, hb.references, hb.snapshotId, ?_⟩
  · obtain ⟨h1, h2, h3, _⟩ := validateSnapshotHeader_ok.mp ha.header
    refine validateSnapshotHeader_ok.mpr ⟨h1, h2, h3, ?_⟩
    show (isSha256Id t.snapshotId || isObviousPlaceholderHash t.snapshotId) = true
    rw [hid]
    rfl
  · show t.types.refs.length + t.capabilities.refs.length < 2 ^ 64 ∧
      t.types.refs.length + t.capabilities.refs.length ≤ options.maxContracts
    rw [hb.types.length_refs hb.typeEntries, hb.capabilities.length_refs hb.capabilityEntries]
    exact ha.entryCount
  · have hs := ha.snapshotSchema
    have hlen := length_of_isSha256Id hid
    unfold snapshotSchema at hs ⊢
    simp only [Bool.and_eq_true] at hs ⊢
    obtain ⟨⟨⟨⟨⟨⟨⟨⟨h1, _⟩, _⟩, h4⟩, h5⟩, h6⟩, h7⟩, h8⟩, h9⟩ := hs
    refine ⟨⟨⟨⟨⟨⟨⟨⟨h1, ?_⟩, ?_⟩, h4⟩, ?_⟩, ?_⟩, h7⟩, h8⟩, h9⟩
    · show decide (1 ≤ t.snapshotId.length) = true
      rw [hlen]
      rfl
    · show decide (t.snapshotId.length ≤ 256) = true
      rw [hlen]
      rfl
    · exact hb.types.refs_schema (typeFamily_sha256 env) hb.typeEntries h5
    · exact hb.capabilities.refs_schema (capabilityFamily_sha256 env) hb.capabilityEntries h6
  · show hashAccepted .strict t.snapshotId t.snapshotId = true
    unfold hashAccepted
    simp

/-- A stored contract was supplied. -/
theorem Activated.supplied {fam : Family α} {contracts : List α} {index : SuppliedMap α}
    {active : Active α}
    (ha : Activated fam index mode entries active) (hindex : indexSupplied fam contracts = .ok index)
    {key : String × Nat} {c : α} (hc : active.contracts[key]? = some c) :
    c ∈ contracts ∧ index[fam.key c]? = some c ∧ ∃ e h, entries[key]? = some e ∧
      Matches fam index mode key.2 e c h := by
  cases he : entries[key]? with
  | none =>
      rw [(ha.rest key he).1] at hc
      cases hc
  | some e =>
      obtain ⟨c', h, hm, hc', _⟩ := ha.entry key e he
      rw [hc, Option.some.injEq] at hc'
      subst hc'
      have hmem := (indexSupplied_getElem? hindex _ c).mp hm.found
      refine ⟨hmem.1, ?_, e, h, rfl, hm⟩
      rw [hmem.2]
      exact hm.found

/-- The stored contracts index by their exact keys, and hold each of themselves. -/
theorem Activated.index_stored {fam : Family α} {contracts : List α} {index : SuppliedMap α}
    {active : Active α} (ha : Activated fam index mode entries active)
    (hindex : indexSupplied fam contracts = .ok index)
    (hkeys : ∀ (key : String × Nat) (e : ContractRef), entries[key]? = some e → entryKey e = .ok key) :
    ∃ stored, indexSupplied fam (active.contracts.toList.map Prod.snd) = .ok stored ∧
      ∀ (key : String × Nat) (c : α), active.contracts[key]? = some c → stored[fam.key c]? = some c := by
  have hfamily : ∀ p ∈ active.contracts.toList, ∃ v,
      FullVersion.parse (fam.version p.2) = .ok v ∧ (fam.id p.2, v.major) = p.1 := by
    intro p hp
    have hc := Std.ExtTreeMap.mem_toList_iff_getElem?_eq_some.mp hp
    obtain ⟨_, _, e, h, hentry, hm⟩ := ha.supplied hindex hc
    obtain ⟨v, hv, hmajor⟩ := hm.major
    have hid := (familyOf_ok.mp (entryKey_ok.mp (hkeys _ _ hentry)).2).1
    exact ⟨v, hv, Prod.ext (hm.id.trans hid) hmajor⟩
  have hnodup : ((active.contracts.toList.map Prod.snd).map fam.key).Nodup := by
    rw [List.map_map]
    -- the exact key determines the family
    refine List.pairwise_map.mpr (List.Pairwise.imp_of_mem (fun {p q} hp hq hne e => hne ?_)
      (Std.ExtTreeMap.distinct_keys_toList (t := active.contracts)))
    obtain ⟨v, hv, hpv⟩ := hfamily p hp
    obtain ⟨w, hw, hqw⟩ := hfamily q hq
    have e : fam.id p.2 = fam.id q.2 ∧ fam.version p.2 = fam.version q.2 := Prod.mk.inj e
    rw [e.2, hw, Except.ok.injEq] at hv
    rw [Std.LawfulEqCmp.compare_eq_iff_eq, ← hpv, ← hqw, e.1, hv]
  obtain ⟨stored, hstored⟩ := indexSupplied_total hnodup
  exact ⟨stored, hstored, fun key c hc =>
    (indexSupplied_getElem? hstored _ c).mpr ⟨mem_values hc, rfl⟩⟩

theorem Activated.length_stored {fam : Family α} {index : SuppliedMap α} {active : Active α}
    (ha : Activated fam index mode entries active) :
    (active.contracts.toList.map Prod.snd).length = active.refs.length := by
  have hkeys : ∀ key : String × Nat, key ∈ active.contracts ↔ key ∈ entries := by
    intro key
    rw [Std.ExtTreeMap.mem_iff_isSome_getElem?, Std.ExtTreeMap.mem_iff_isSome_getElem?]
    cases he : entries[key]? with
    | none =>
        rw [(ha.rest key he).1]
        exact Iff.rfl
    | some e =>
        obtain ⟨c, h, _, hc, _⟩ := ha.entry key e he
        rw [hc]
        rfl
  have hperm : (active.contracts.keys).Perm entries.keys :=
    (List.perm_ext_iff_of_nodup Std.ExtTreeMap.nodup_keys Std.ExtTreeMap.nodup_keys).mpr fun key => by
      rw [Std.ExtTreeMap.mem_keys, Std.ExtTreeMap.mem_keys, hkeys]
  rw [ha.refs, List.length_map, List.length_map, Std.ExtTreeMap.length_toList,
    Std.ExtTreeMap.length_toList, ← Std.ExtTreeMap.length_keys, ← Std.ExtTreeMap.length_keys,
    hperm.length_eq]

/-- **The returned snapshot and the stored contracts build the registry again.** -/
theorem rebuild_stored (h : buildRegistry env snapshot types capabilities options = .ok r) :
    buildRegistry env r.snapshot (r.types.toList.map Prod.snd) (r.capabilities.toList.map Prod.snd)
        { options with hashVerification := .strict } =
      .ok { r with hashVerification := .strict } := by
  obtain ⟨t, hb, rfl⟩ := buildRegistry_ok_iff.mp h
  obtain ⟨st, hst, hsubt⟩ := hb.types.index_stored hb.suppliedTypes
    (indexSnapshotEntries_key hb.typeEntries)
  obtain ⟨sc, hsc, hsubc⟩ := hb.capabilities.index_stored hb.suppliedCapabilities
    (indexSnapshotEntries_key hb.capabilityEntries)
  have hstored : ∀ {β : Type} {m : FamilyMap β} {c : β}, c ∈ m.toList.map Prod.snd →
      ∃ key : String × Nat, m[key]? = some c := by
    intro β m c hc
    obtain ⟨p, hp, rfl⟩ := List.mem_map.mp hc
    exact ⟨p.1, Std.ExtTreeMap.mem_toList_iff_getElem?_eq_some.mp hp⟩
  have htypes : ∀ c ∈ t.types.contracts.toList.map Prod.snd, env.schema.type c = none := by
    intro c hc
    obtain ⟨key, hk⟩ := hstored hc
    exact hb.admitted.typeSchema c (hb.types.supplied hb.suppliedTypes hk).1
  have hcapabilities : ∀ c ∈ t.capabilities.contracts.toList.map Prod.snd,
      env.schema.capability c = none := by
    intro c hc
    obtain ⟨key, hk⟩ := hstored hc
    exact hb.admitted.capabilitySchema c (hb.capabilities.supplied hb.suppliedCapabilities hk).1
  have hb' := hb.rebuild hst hsc hsubt hsubc htypes hcapabilities (by
    rw [hb.types.length_stored, hb.capabilities.length_stored,
      hb.types.length_refs hb.typeEntries, hb.capabilities.length_refs hb.capabilityEntries]
    exact hb.admitted.entryCount)
  exact buildRegistry_ok_iff.mpr ⟨_, hb', rfl⟩

/-- The returned snapshot and the supplied contracts do so too. -/
theorem rebuild_supplied (h : buildRegistry env snapshot types capabilities options = .ok r) :
    buildRegistry env r.snapshot types capabilities { options with hashVerification := .strict } =
      .ok { r with hashVerification := .strict } := by
  obtain ⟨t, hb, rfl⟩ := buildRegistry_ok_iff.mp h
  have hb' := hb.rebuild hb.suppliedTypes hb.suppliedCapabilities
    (fun key c hc => (hb.types.supplied hb.suppliedTypes hc).2.1)
    (fun key c hc => (hb.capabilities.supplied hb.suppliedCapabilities hc).2.1)
    hb.admitted.typeSchema hb.admitted.capabilitySchema hb.admitted.suppliedCount
  exact buildRegistry_ok_iff.mpr ⟨_, hb', rfl⟩

/-! ## 5. The registry certifies itself -/

/-- **Closed, independent of order, self-certifying.** A registry that is built holds exactly the
    contracts of the snapshot's entries, with their generated identities and with every reference
    resolved; entries and supply in another order, and further contracts beside the supply, build
    the same registry; and in strict mode the returned snapshot builds it again, from the supplied
    and from the stored contracts, up to the mark of the mode. -/
theorem registry_self_certifying
    (h : buildRegistry env snapshot types capabilities options = .ok r) :
    Certified env snapshot r ∧
    (∀ (typeEntries capabilityEntries : List ContractRef) (types' moreTypes : List TypeContract)
      (capabilities' moreCapabilities : List CapabilityContract),
      typeEntries.Perm snapshot.typeContracts →
      capabilityEntries.Perm snapshot.capabilityContracts →
      types'.Perm (types ++ moreTypes) → capabilities'.Perm (capabilities ++ moreCapabilities) →
      Further (typeFamily env) types moreTypes →
      Further (capabilityFamily env) capabilities moreCapabilities →
      types'.length + capabilities'.length < 2 ^ 64 ∧
        types'.length + capabilities'.length ≤ options.maxContracts →
      buildRegistry env (reordered snapshot typeEntries capabilityEntries) types' capabilities'
        options = .ok r) ∧
    buildRegistry env r.snapshot types capabilities { options with hashVerification := .strict } =
      .ok { r with hashVerification := .strict } ∧
    buildRegistry env r.snapshot (r.types.toList.map Prod.snd) (r.capabilities.toList.map Prod.snd)
        { options with hashVerification := .strict } =
      .ok { r with hashVerification := .strict } := by
  refine ⟨?_, ?_, rebuild_supplied h, rebuild_stored h⟩
  · obtain ⟨t, hb, rfl⟩ := buildRegistry_ok_iff.mp h
    exact hb.certified
  · intro typeEntries capabilityEntries types' moreTypes capabilities' moreCapabilities hte hce ht hc
      hft hfc hcount
    obtain ⟨t, hb, rfl⟩ := buildRegistry_ok_iff.mp h
    obtain ⟨st, sc, hb'⟩ := hb.reorder hte hce ht hc hft hfc hcount
    exact buildRegistry_ok_iff.mpr ⟨_, hb', rfl⟩

end Build

/-! ## 6. A sample: one type contract, declared by a sentinel -/

def fileType (id : String) : TypeContract where
  typeId := id
  version := "1.0"
  kind := .artifact
  description := "a file"
  logicalSchemaRef := none
  nullable := false
  representations := []
  equality := ⟨.byteIdentical, none, none, none⟩
  unitSemantics := none
  conversionCapabilities := []
  conformance := ⟨"suite", none, none⟩
  notes := []

/-- SHA-256 at the two inputs the sample hashes: the contract and the snapshot. -/
def fileDigest : Digest :=
  let contract := typeContractHashDomain ++
    (plainText (typeContractSemanticView (fileType "artifact.file"))).toUTF8.toList
  let snapshot := registrySnapshotHashDomain ++ (plainText (Json.ofFields [
    ("schema_version", some (.str "0.1")),
    ("type_contracts", some (.arr [snapshotEntryValue ⟨"artifact.file", "1.0",
      "sha256:9fa37ef6be0be860ca4f71c4d6e1d336a02d81cc18cfcdc4a59d1dbeef434db3"⟩])),
    ("capability_contracts", some (.arr []))])).toUTF8.toList
  knownDigest [
    (contract, ⟨[159, 163, 126, 246, 190, 11, 232, 96, 202, 79, 113, 196, 214, 225, 211, 54, 160, 45,
      129, 204, 24, 207, 205, 196, 165, 157, 29, 190, 239, 67, 77, 179], rfl⟩),
    (snapshot, ⟨[200, 21, 212, 103, 41, 22, 70, 144, 174, 91, 130, 89, 229, 156, 124, 32, 73, 33,
      219, 175, 206, 216, 202, 112, 231, 178, 245, 33, 134, 7, 231, 121], rfl⟩)]

def fileEnv : BuildEnv where
  digest := fileDigest
  schema := {
    snapshot := fun s => if snapshotSchema (· = "2026-01-01T00:00:00Z") s then none else some ⟨"", ""⟩
    type := fun _ => none
    capability := fun _ => none
    dateTime := (· = "2026-01-01T00:00:00Z")
    snapshot_spec := fun s => by
      cases snapshotSchema (· = "2026-01-01T00:00:00Z") s <;> simp }
  rfc3339 := (· = "2026-01-01T00:00:00Z")

/-- The sentinel of a fixture. -/
def sentinel : String := "sha256:0000000000000000000000000000000000000000000000000000000000000000"

def fileEntry : ContractRef := ⟨"artifact.file", "1.0", sentinel, none⟩

def fileSnapshot : RegistrySnapshot :=
  ⟨"0.1", sentinel, none, [fileEntry], [], "2026-01-01T00:00:00Z", none, []⟩

/-- The bootstrap build of the sample, with these contracts supplied. -/
def fileBuild (types : List TypeContract) : RegistryResult SemanticRegistry :=
  buildRegistry fileEnv fileSnapshot types [] ⟨.bootstrapGenerate, 8⟩

theorem sentinel_isSha256Id : isSha256Id sentinel = true := by decide +kernel

theorem sentinel_placeholder : isObviousPlaceholderHash sentinel = true := by decide +kernel

theorem fileEntry_key : entryKey fileEntry = .ok ("artifact.file", 1) := by
  refine entryKey_ok.mpr ⟨validateContractRef_ok.mpr ⟨rfl, rfl, ⟨_, rfl⟩, ?_⟩, rfl⟩
  show (isSha256Id sentinel || isObviousPlaceholderHash sentinel) = true
  rw [sentinel_isSha256Id]
  rfl

theorem fileSnapshot_header : validateSnapshotHeader fileEnv fileSnapshot = .ok () := by
  refine validateSnapshotHeader_ok.mpr ⟨rfl, by decide +kernel, rfl, ?_⟩
  show (isSha256Id sentinel || isObviousPlaceholderHash sentinel) = true
  rw [sentinel_isSha256Id]
  rfl

/-- The identity of the sample's contract. -/
theorem fileType_hash : ∃ h, typeContractHash fileDigest (fileType "artifact.file") = .ok h := by
  have hvalid : validateTypeContract (fileType "artifact.file") = .ok () := rfl
  unfold typeContractHash
  rw [hvalid, ok_bind]
  exact ⟨_, rfl⟩

/-- The identity of a snapshot with one entry. -/
theorem file_snapshotId {h : String} (hsha : isSha256Id h = true) :
    ∃ id, registrySnapshotId fileDigest "0.1" [⟨"artifact.file", "1.0", h⟩] [] = .ok id := by
  have hentries : validateSnapshotHashEntries "type" [] [⟨"artifact.file", "1.0", h⟩] = .ok () := by
    have hid : validateSemanticId "artifact.file" = .ok () := rfl
    have hversion : FullVersion.parse "1.0" = .ok ⟨1, 0, none, "1.0"⟩ := rfl
    simp only [validateSnapshotHashEntries, hid, hversion, hsha, ok_bind]
    rfl
  have hsort : sortSnapshotEntries [⟨"artifact.file", "1.0", h⟩] =
      .ok [⟨"artifact.file", "1.0", h⟩] := by
    have hversion : FullVersion.parse "1.0" = .ok ⟨1, 0, none, "1.0"⟩ := rfl
    simp only [sortSnapshotEntries, withVersions, hversion, ok_bind]
    rfl
  have hprofile : ∀ error : RegistryError, rejectIf (decide ("0.1" ≠ "0.1")) error = .ok () :=
    fun _ => rejectIf_ok.mpr (by decide)
  have hnone : sortSnapshotEntries [] = .ok [] := rfl
  unfold registrySnapshotId
  rw [hprofile, ok_bind, hentries, ok_bind, hsort, hnone]
  exact ⟨_, rfl⟩

/-- **The sample builds** from every supply of at most 8 contracts with distinct keys that holds its
    contract. -/
theorem fileBuild_ok {types : List TypeContract} (hmem : fileType "artifact.file" ∈ types)
    (hkeys : (types.map (typeFamily fileEnv).key).Nodup) (hcount : types.length ≤ 8) :
    ∃ r, fileBuild types = .ok r := by
  obtain ⟨entries, hentries⟩ : ∃ entries, indexSnapshotEntries .type [fileEntry] = .ok entries := by
    refine indexBy_empty_ok _ ⟨fun e he => ?_, List.pairwise_singleton _ _⟩
    rw [List.mem_singleton.mp he]
    exact ⟨_, fileEntry_key⟩
  obtain ⟨supplied, hsupplied⟩ := indexSupplied_total hkeys
  obtain ⟨h, hh⟩ := fileType_hash
  have hfound : supplied[("artifact.file", "1.0")]? = some (fileType "artifact.file") :=
    (indexSupplied_getElem? hsupplied _ _).mpr ⟨hmem, rfl⟩
  have hmatch : ∀ p ∈ entries.toList, ∃ c h, Matches (typeFamily fileEnv) supplied
      .bootstrapGenerate p.1.2 p.2 c h := by
    intro p hp
    obtain ⟨he, hkey⟩ := (indexBy_empty hentries p.1 p.2).mp (mem_entries.mp hp)
    rw [List.mem_singleton.mp he] at hkey ⊢
    rw [fileEntry_key, Except.ok.injEq] at hkey
    rw [← hkey]
    refine ⟨fileType "artifact.file", h, hfound, rfl, ⟨_, rfl, rfl⟩, rfl, rfl, hh, ?_⟩
    unfold hashAccepted fileEntry
    rw [sentinel_placeholder]
    simp
  obtain ⟨active, hrun⟩ := activate_total (s := (⟨∅, ∅, []⟩ : Active TypeContract)) hmatch
  have hactive := activate_ok_iff.mp hrun
  obtain ⟨f, hperm, hf⟩ := hactive.refs_perm hentries
  obtain ⟨_, c, h', _, hfe, _, _, hhash⟩ := hf fileEntry List.mem_cons_self
  have hrefs : active.refs = [{ fileEntry with contentHash := h' }] := by
    rw [List.map_singleton, hfe] at hperm
    exact List.perm_singleton.mp hperm
  obtain ⟨id, hid⟩ := file_snapshotId (typeFamily_sha256 fileEnv c h' hhash)
  refine ⟨_, buildRegistry_ok_iff.mpr ⟨⟨entries, ∅, supplied, ∅, active, ⟨∅, ∅, []⟩, id⟩, ⟨⟨
    fileSnapshot_header, by decide, ⟨by simp; omega, by simpa using hcount⟩, by decide +kernel,
    fun _ _ => rfl, fun _ _ => rfl⟩, hentries, rfl, hsupplied, rfl, hactive, ?_, ?_, ?_, ?_⟩, rfl⟩⟩
  · exact activate_ok_iff.mp rfl
  · unfold validateCrossReferences
    rw [unit_bind_eq_ok, forEach_ok]
    refine ⟨fun d hd => ?_, rfl⟩
    obtain ⟨p, hp, rfl⟩ := List.mem_map.mp hd
    have hc := Std.ExtTreeMap.mem_toList_iff_getElem?_eq_some.mp hp
    obtain ⟨hd, _, e, _, he, hm⟩ := hactive.supplied hsupplied hc
    rw [List.mem_singleton.mp ((indexBy_empty hentries p.1 e).mp he).1] at hm
    have hkey : supplied[("artifact.file", "1.0")]? = some p.2 := hm.found
    rw [hfound, Option.some.injEq] at hkey
    rw [← hkey]
    rfl
  · rw [hrefs]
    exact hid
  · unfold hashAccepted fileSnapshot
    rw [sentinel_placeholder]
    simp

/-- With a contract beside the one the snapshot names. -/
theorem fileBuild_note :
    ∃ r, fileBuild [fileType "artifact.file", fileType "artifact.note"] = .ok r := by
  refine fileBuild_ok List.mem_cons_self ?_ (by decide)
  show [("artifact.file", "1.0"), ("artifact.note", "1.0")].Nodup
  decide

theorem file_registry_self_certifying :
    ∃ r, fileBuild [fileType "artifact.file", fileType "artifact.note"] = .ok r ∧
      Certified fileEnv fileSnapshot r ∧
      buildRegistry fileEnv r.snapshot (r.types.toList.map Prod.snd)
        (r.capabilities.toList.map Prod.snd) ⟨.strict, 8⟩ =
          .ok { r with hashVerification := .strict } := by
  obtain ⟨r, hr⟩ := fileBuild_note
  have hcertified := registry_self_certifying hr
  exact ⟨r, hr, hcertified.1, hcertified.2.2.2⟩

/-- A registry built in bootstrap mode keeps the mark of that mode, so the strict build from its own
    snapshot is not equal to it; and a further contract may not repeat an identifier and version. -/
theorem mark_differs_and_duplicate_refused :
    (∃ r r', fileBuild [fileType "artifact.file", fileType "artifact.note"] = .ok r ∧
      buildRegistry fileEnv r.snapshot (r.types.toList.map Prod.snd)
        (r.capabilities.toList.map Prod.snd) ⟨.strict, 8⟩ = .ok r' ∧ r' ≠ r) ∧
    (∃ r, fileBuild [fileType "artifact.file", fileType "artifact.note"] = .ok r) ∧
    ¬∃ r, fileBuild [fileType "artifact.file", fileType "artifact.note",
      fileType "artifact.note"] = .ok r := by
  obtain ⟨r, hr⟩ := fileBuild_note
  refine ⟨⟨r, _, hr, rebuild_stored hr, fun e => ?_⟩, ⟨r, hr⟩, fun ⟨r, hr⟩ => ?_⟩
  · obtain ⟨t, _, rfl⟩ := buildRegistry_ok_iff.mp hr
    cases congrArg SemanticRegistry.hashVerification e
  · obtain ⟨t, hb, _⟩ := buildRegistry_ok_iff.mp hr
    have hnodup : [("artifact.file", "1.0"), ("artifact.note", "1.0"),
        ("artifact.note", "1.0")].Nodup := nodup_of_indexSupplied hb.suppliedTypes
    revert hnodup
    decide

end Aios
