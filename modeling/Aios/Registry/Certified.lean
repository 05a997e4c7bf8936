/-
  File:      Aios/Registry/Certified.lean
  Subject:   WHAT A BUILT REGISTRY IS: closed, independent of order, and certified by its snapshot.

  The loop over the entries is read as a property of the maps it builds (`Activated`,
  `activate_ok_iff`): every entry has its contract and generated identity, and nothing else is
  there. From it follow the contents of the registry (`Certified`), that order and further contracts
  do not matter, and that the returned snapshot builds the registry again in strict mode.
-/
import Aios.Registry.Build

namespace Aios

open Lib

/-! ## 1. One entry -/

section Entry

variable {α : Type} {fam : Family α} {supplied : SuppliedMap α} {mode : HashVerificationMode}

/-- What holds of an entry, its contract and the generated identity. -/
structure Matches (fam : Family α) (supplied : SuppliedMap α) (mode : HashVerificationMode)
    (major : Nat) (entry : ContractRef) (contract : α) (computed : String) : Prop where
  found : supplied[(entry.id, entry.version)]? = some contract
  valid : fam.validate contract = .ok ()
  major : ∃ v, FullVersion.parse (fam.version contract) = .ok v ∧ v.major = major
  id : fam.id contract = entry.id
  version : fam.version contract = entry.version
  hash : fam.hash contract = .ok computed
  accepted : hashAccepted mode entry.contentHash computed = true

theorem activateEntry_ok {major : Nat} {entry : ContractRef} {contract : α} {computed : String} :
    activateEntry fam supplied mode major entry = .ok (contract, computed) ↔
      Matches fam supplied mode major entry contract computed := by
  unfold activateEntry findContract verifyDeclaredHash
  simp only [bind_eq_ok', expect_ok, rejectIf_ok, pure, Except.pure,
    Except.ok.injEq, Prod.mk.injEq, Bool.or_eq_false_iff, decide_eq_false_iff_not, not_not,
    ne_eq, Bool.not_eq_false']
  constructor
  · rintro ⟨c, hfound, _, hvalid, v, hv, _, ⟨⟨hid, hversion⟩, hmajor⟩, h, hhash, _, haccepted, rfl, rfl⟩
    exact ⟨hfound, hvalid, ⟨v, hv, hmajor⟩, hid, hversion, hhash, haccepted⟩
  · intro hm
    obtain ⟨v, hv, hmajor⟩ := hm.major
    exact ⟨contract, hm.found, (), hm.valid, v, hv, (), ⟨⟨hm.id, hm.version⟩, hmajor⟩, computed,
      hm.hash, (), hm.accepted, rfl, rfl⟩

theorem Matches.unique {major : Nat} {entry : ContractRef} {c c' : α} {h h' : String}
    (hm : Matches fam supplied mode major entry c h)
    (hm' : Matches fam supplied mode major entry c' h') : c = c' ∧ h = h' := by
  have hc : c = c' := Option.some.inj (hm.found.symm.trans hm'.found)
  subst hc
  exact ⟨rfl, Except.ok.inj (hm.hash.symm.trans hm'.hash)⟩

end Entry

/-! ## 2. The loop over the entries -/

section Loop

variable {α : Type} {fam : Family α} {supplied : SuppliedMap α} {mode : HashVerificationMode}

/-- The entry with its generated identity. -/
def rehash (hashes : FamilyMap String) (key : String × Nat) (entry : ContractRef) : ContractRef :=
  { entry with contentHash := hashes.getD key entry.contentHash }

theorem rehash_rehash (hashes : FamilyMap String) (key : String × Nat) (entry : ContractRef) :
    rehash hashes key (rehash hashes key entry) = rehash hashes key entry := by
  unfold rehash
  simp only [Std.ExtTreeMap.getD_eq_getD_getElem?]
  cases hashes[key]? <;> rfl

theorem getElem?_insert_ite {β : Type} (m : FamilyMap β) (k a : String × Nat) (v : β) :
    (m.insert k v)[a]? = if k = a then some v else m[a]? := by
  rw [Std.ExtTreeMap.getElem?_insert]
  by_cases h : k = a
  · rw [if_pos h, if_pos (Std.LawfulEqCmp.compare_eq_iff_eq.mpr h)]
  · rw [if_neg h, if_neg fun h' => h (Std.LawfulEqCmp.compare_eq_iff_eq.mp h')]

/-- The loop succeeds where every entry does. -/
theorem activate_total : ∀ {l : List ((String × Nat) × ContractRef)} {s : Active α},
    (∀ p ∈ l, ∃ c h, Matches fam supplied mode p.1.2 p.2 c h) →
    ∃ s', activate fam supplied mode l s = .ok s'
  | [], s, _ => ⟨s, rfl⟩
  | (key, entry) :: l, s, hall => by
      obtain ⟨c, h, hm⟩ := hall (key, entry) List.mem_cons_self
      rw [activate, activateEntry_ok.mpr hm, ok_bind]
      exact activate_total fun p hp => hall p (List.mem_cons_of_mem _ hp)

/-- **What a run of the loop adds**: contract and identity under every key of the list, nothing
    elsewhere, and the list's entries with their generated identities. -/
theorem activate_spec : ∀ {l : List ((String × Nat) × ContractRef)} {s s' : Active α},
    (l.map Prod.fst).Nodup → activate fam supplied mode l s = .ok s' →
    (∀ p ∈ l, ∃ c h, Matches fam supplied mode p.1.2 p.2 c h ∧ s'.contracts[p.1]? = some c ∧
      s'.hashes[p.1]? = some h) ∧
    (∀ key ∉ l.map Prod.fst, s'.contracts[key]? = s.contracts[key]? ∧
      s'.hashes[key]? = s.hashes[key]?) ∧
    s'.refs = s.refs ++ l.map fun p => rehash s'.hashes p.1 p.2
  | [], s, s', _, hrun => by
      rw [activate, Except.ok.injEq] at hrun
      subst hrun
      refine ⟨fun p hp => ?_, fun _ _ => ⟨rfl, rfl⟩, by simp⟩
      cases hp
  | (key, entry) :: l, s, s', hn, hrun => by
      rw [List.map_cons, List.nodup_cons] at hn
      rw [activate, bind_eq_ok'] at hrun
      obtain ⟨⟨c, h⟩, hentry, hrun⟩ := hrun
      have hm := activateEntry_ok.mp hentry
      obtain ⟨hall, hrest, hrefs⟩ := activate_spec hn.2 hrun
      obtain ⟨hc, hh⟩ := hrest key hn.1
      rw [getElem?_insert_ite, if_pos rfl] at hc hh
      refine ⟨fun p hp => ?_, fun k hk => ?_, ?_⟩
      · rcases List.mem_cons.mp hp with e | hp
        · rw [e]
          exact ⟨c, h, hm, hc, hh⟩
        · exact hall p hp
      · rw [List.map_cons, List.mem_cons, not_or] at hk
        obtain ⟨h1, h2⟩ := hrest k hk.2
        rw [getElem?_insert_ite, if_neg (Ne.symm hk.1)] at h1 h2
        exact ⟨h1, h2⟩
      · have hself : rehash s'.hashes key entry = { entry with contentHash := h } := by
          unfold rehash
          rw [Std.ExtTreeMap.getD_eq_getD_getElem?, hh]
          rfl
        rw [hrefs, List.map_cons, hself, List.append_assoc]
        rfl

/-- The maps hold contract and identity of every entry, and nothing else. -/
structure Activated (fam : Family α) (supplied : SuppliedMap α) (mode : HashVerificationMode)
    (entries : FamilyMap ContractRef) (active : Active α) : Prop where
  entry : ∀ (key : String × Nat) (e : ContractRef), entries[key]? = some e →
    ∃ c h, Matches fam supplied mode key.2 e c h ∧ active.contracts[key]? = some c ∧
      active.hashes[key]? = some h
  rest : ∀ key : String × Nat, entries[key]? = none →
    active.contracts[key]? = none ∧ active.hashes[key]? = none
  refs : active.refs = entries.toList.map fun p => rehash active.hashes p.1 p.2

theorem Activated.unique {entries : FamilyMap ContractRef} {a b : Active α}
    (ha : Activated fam supplied mode entries a) (hb : Activated fam supplied mode entries b) :
    a = b := by
  have hkeys : ∀ key : String × Nat,
      a.contracts[key]? = b.contracts[key]? ∧ a.hashes[key]? = b.hashes[key]? := by
    intro key
    cases he : entries[key]? with
    | none =>
        rw [(ha.rest key he).1, (ha.rest key he).2, (hb.rest key he).1, (hb.rest key he).2]
        exact ⟨rfl, rfl⟩
    | some e =>
        obtain ⟨c, h, hm, hc, hh⟩ := ha.entry key e he
        obtain ⟨c', h', hm', hc', hh'⟩ := hb.entry key e he
        obtain ⟨e1, e2⟩ := hm.unique hm'
        rw [hc, hh, hc', hh', e1, e2]
        exact ⟨rfl, rfl⟩
  have hcontracts : a.contracts = b.contracts := Std.ExtTreeMap.ext_getElem? fun key => (hkeys key).1
  have hhashes : a.hashes = b.hashes := Std.ExtTreeMap.ext_getElem? fun key => (hkeys key).2
  have hrefs : a.refs = b.refs := by rw [ha.refs, hb.refs, hhashes]
  cases a
  cases b
  simp only at hcontracts hhashes hrefs
  rw [hcontracts, hhashes, hrefs]

theorem mem_entries {entries : FamilyMap ContractRef} {p : (String × Nat) × ContractRef} :
    p ∈ entries.toList ↔ entries[p.1]? = some p.2 :=
  Std.ExtTreeMap.mem_toList_iff_getElem?_eq_some

/-- **The loop over a whole index returns exactly the activated maps.** -/
theorem activate_ok_iff {entries : FamilyMap ContractRef} {active : Active α} :
    activate fam supplied mode entries.toList ⟨∅, ∅, []⟩ = .ok active ↔
      Activated fam supplied mode entries active := by
  have hnodup : (entries.toList.map Prod.fst).Nodup := by
    rw [Std.ExtTreeMap.map_fst_toList_eq_keys]
    exact Std.ExtTreeMap.nodup_keys
  have hforward : ∀ {active : Active α},
      activate fam supplied mode entries.toList ⟨∅, ∅, []⟩ = .ok active →
        Activated fam supplied mode entries active := by
    intro active hrun
    obtain ⟨hall, hrest, hrefs⟩ := activate_spec hnodup hrun
    refine ⟨fun key e he => hall (key, e) (mem_entries.mpr he), fun key hk => ?_, by simpa using hrefs⟩
    have hout : key ∉ entries.toList.map Prod.fst := by
      intro hmem
      obtain ⟨p, hp, rfl⟩ := List.mem_map.mp hmem
      rw [mem_entries.mp hp] at hk
      cases hk
    obtain ⟨h1, h2⟩ := hrest key hout
    exact ⟨by rw [h1]; simp, by rw [h2]; simp⟩
  constructor
  · exact hforward
  · intro ha
    have hall : ∀ p ∈ entries.toList, ∃ c h, Matches fam supplied mode p.1.2 p.2 c h := by
      intro p hp
      obtain ⟨c, h, hm, _⟩ := ha.entry p.1 p.2 (mem_entries.mp hp)
      exact ⟨c, h, hm⟩
    obtain ⟨active', hrun⟩ := activate_total (s := (⟨∅, ∅, []⟩ : Active α)) hall
    rw [hrun, (hforward hrun).unique ha]

end Loop

/-! ## 3. Supplied contracts and entries -/

section Records

variable {α : Type} {fam : Family α}

theorem indexSupplied_getElem? {contracts : List α} {supplied : SuppliedMap α}
    (h : indexSupplied fam contracts = .ok supplied) (key : String × String) (c : α) :
    supplied[key]? = some c ↔ c ∈ contracts ∧ fam.key c = key := by
  rw [indexBy_empty h]
  simp

/-- Contracts with distinct exact keys can be indexed. -/
theorem indexSupplied_total {contracts : List α} (h : (contracts.map fam.key).Nodup) :
    ∃ supplied, indexSupplied fam contracts = .ok supplied := by
  refine indexBy_empty_ok _ ⟨fun c _ => ⟨fam.key c, rfl⟩, ?_⟩
  refine (List.pairwise_map.mp h).imp fun {a b} hne e => hne ?_
  exact Except.ok.inj e

theorem entryKey_ok {entry : ContractRef} {key : String × Nat} :
    entryKey entry = .ok key ↔ validateContractRef entry = .ok () ∧ familyOf entry = .ok key :=
  unit_bind_eq_ok

theorem familyOf_ok {entry : ContractRef} {key : String × Nat} :
    familyOf entry = .ok key ↔ entry.id = key.1 ∧ ∃ v, FullVersion.parse entry.version = .ok v ∧
      v.major = key.2 := by
  unfold familyOf
  rw [bind_eq_ok']
  constructor
  · intro ⟨v, hv, e⟩
    cases e
    exact ⟨rfl, v, hv, rfl⟩
  · intro ⟨hid, v, hv, hmajor⟩
    refine ⟨v, hv, ?_⟩
    rw [hid, hmajor]
    rfl

theorem validateContractRef_ok {entry : ContractRef} : validateContractRef entry = .ok () ↔
    validateSemanticId entry.id = .ok () ∧
      (exceedsMaxLength entry.version 64 || entry.source.any (exceedsMaxLength · 1024)) = false ∧
      (∃ v, FullVersion.parse entry.version = .ok v) ∧
      (isSha256Id entry.contentHash || isObviousPlaceholderHash entry.contentHash) = true := by
  unfold validateContractRef
  rw [unit_bind_eq_ok, unit_bind_eq_ok, bind_eq_ok', rejectIf_ok]
  have hlast : ∀ x y : Bool, (!x && !y) = false ↔ (x || y) = true := by decide
  simp only [rejectIf_ok, hlast]
  constructor
  · intro h
    obtain ⟨h1, h2, v, hv, h3⟩ := h
    exact ⟨h1, h2, ⟨v, hv⟩, h3⟩
  · intro h
    obtain ⟨h1, h2, ⟨v, hv⟩, h3⟩ := h
    exact ⟨h1, h2, v, hv, h3⟩

/-- The generated identity does not change the key of an entry. -/
theorem entryKey_rehash {hashes : FamilyMap String} {key : String × Nat} {entry : ContractRef}
    (h : entryKey entry = .ok key) {computed : String} (hh : hashes[key]? = some computed)
    (hsha : isSha256Id computed = true) : entryKey (rehash hashes key entry) = .ok key := by
  obtain ⟨hvalid, hfamily⟩ := entryKey_ok.mp h
  obtain ⟨hid, hlength, hversion, _⟩ := validateContractRef_ok.mp hvalid
  have hself : (rehash hashes key entry).contentHash = computed := by
    show hashes.getD key entry.contentHash = computed
    rw [Std.ExtTreeMap.getD_eq_getD_getElem?, hh]
    rfl
  refine entryKey_ok.mpr ⟨validateContractRef_ok.mpr ⟨hid, hlength, hversion, ?_⟩, hfamily⟩
  rw [hself, hsha]
  rfl

end Records

/-! ## 4. Order, further contracts, and the second build -/

section Families

variable {α : Type} {fam : Family α} {supplied supplied' : SuppliedMap α}
  {mode : HashVerificationMode} {entries : FamilyMap ContractRef} {active : Active α}

/-- More supplied contracts change nothing. -/
theorem Activated.mono (ha : Activated fam supplied mode entries active)
    (hsub : ∀ (key : String × String) (c : α), supplied[key]? = some c → supplied'[key]? = some c) :
    Activated fam supplied' mode entries active := by
  refine ⟨fun key e he => ?_, ha.rest, ha.refs⟩
  obtain ⟨c, h, hm, hc, hh⟩ := ha.entry key e he
  exact ⟨c, h, { hm with found := hsub _ _ hm.found }, hc, hh⟩

/-- The entries with their generated identities. -/
def rehashed (hashes : FamilyMap String) (entries : FamilyMap ContractRef) : FamilyMap ContractRef :=
  entries.map (rehash hashes)

theorem getElem?_rehashed (hashes : FamilyMap String) (key : String × Nat) :
    (rehashed hashes entries)[key]? = entries[key]?.map (rehash hashes key) := by
  unfold rehashed
  rw [Std.ExtTreeMap.getElem?_map]

/-- **The rewritten entries activate the same contracts in strict mode**, from any supply that holds
    them. -/
theorem Activated.rebuild (ha : Activated fam supplied mode entries active)
    (hsup : ∀ (key : String × Nat) (c : α), active.contracts[key]? = some c →
      supplied'[fam.key c]? = some c) :
    Activated fam supplied' .strict (rehashed active.hashes entries) active := by
  refine ⟨fun key e' he' => ?_, fun key he' => ?_, ?_⟩
  · rw [getElem?_rehashed, Option.map_eq_some_iff] at he'
    obtain ⟨e, he, rfl⟩ := he'
    obtain ⟨c, h, hm, hc, hh⟩ := ha.entry key e he
    refine ⟨c, h, ⟨?_, hm.valid, hm.major, hm.id, hm.version, hm.hash, ?_⟩, hc, hh⟩
    · have hfound := hsup key c hc
      unfold Family.key at hfound
      rw [hm.id, hm.version] at hfound
      exact hfound
    · unfold hashAccepted rehash
      rw [Std.ExtTreeMap.getD_eq_getD_getElem?, hh]
      simp
  · rw [getElem?_rehashed, Option.map_eq_none_iff] at he'
    exact ha.rest key he'
  · unfold rehashed
    rw [ha.refs, Std.ExtTreeMap.toList_map, List.map_map]
    refine List.map_congr_left fun p _ => ?_
    exact (rehash_rehash active.hashes p.1 p.2).symm

/-- The returned entries index to the rewritten ones. -/
theorem Activated.index_refs (ha : Activated fam supplied mode entries active)
    (hsha : ∀ c h, fam.hash c = .ok h → isSha256Id h = true) (kind : ContractKind)
    (hkeys : ∀ (key : String × Nat) (e : ContractRef), entries[key]? = some e →
      entryKey e = .ok key) :
    indexSnapshotEntries kind active.refs = .ok (rehashed active.hashes entries) := by
  have hrefs : active.refs = (rehashed active.hashes entries).toList.map Prod.snd := by
    unfold rehashed
    rw [ha.refs, Std.ExtTreeMap.toList_map, List.map_map]
    rfl
  rw [hrefs]
  refine indexBy_values _ fun key e' he' => ?_
  rw [getElem?_rehashed, Option.map_eq_some_iff] at he'
  obtain ⟨e, he, rfl⟩ := he'
  obtain ⟨c, h, hm, _, hh⟩ := ha.entry key e he
  exact entryKey_rehash (hkeys key e he) hh (hsha c h hm.hash)

end Families

/-! ## 5. The checks on the rewritten snapshot -/

theorem splitChar_of_not_mem {c : Char} : ∀ {l : List Char}, c ∉ l → splitChar c l = [l]
  | [], _ => rfl
  | d :: l, h => by
      rw [List.mem_cons, not_or] at h
      rw [splitChar, if_neg (Ne.symm h.1), splitChar_of_not_mem h.2]

theorem splitChar_append {c : Char} {r : List Char} (hr : c ∉ r) :
    ∀ {l : List Char}, c ∉ l → splitChar c (l ++ c :: r) = [l, r]
  | [], _ => by rw [List.nil_append, splitChar, if_pos rfl, splitChar_of_not_mem hr]
  | d :: l, h => by
      rw [List.mem_cons, not_or] at h
      rw [List.cons_append, splitChar, if_neg (Ne.symm h.1), splitChar_append hr h.2]

/-- An identity is the tag and 64 digits. -/
theorem toList_of_isSha256Id {value : String} (h : isSha256Id value = true) :
    ∃ digits : List Char, value.toList = "sha256".toList ++ ':' :: digits ∧ digits.length = 64 ∧
      ∀ c ∈ digits, isLowerHex c = true := by
  unfold isSha256Id stripPrefix at h
  by_cases hp : "sha256:".toList.isPrefixOf value.toList = true
  · rw [if_pos hp] at h
    simp only [Bool.and_eq_true, decide_eq_true_eq, String.length_ofList, String.toList_ofList,
      List.all_eq_true] at h
    obtain ⟨rest, hrest⟩ := List.isPrefixOf_iff_prefix.mp hp
    rw [← hrest, List.drop_left] at h
    exact ⟨rest, hrest.symm, h.1, h.2⟩
  · rw [if_neg hp] at h
    cases h

theorem contentHashPattern_of_sha256 {value : String} (h : isSha256Id value = true) :
    contentHashPattern value = true := by
  obtain ⟨digits, hlist, hlen, hhex⟩ := toList_of_isSha256Id h
  have hcolon : ':' ∉ digits := fun hc => absurd (hhex ':' hc) (by decide)
  have htag : ':' ∉ "sha256".toList := by decide
  have hdigits : digits.all isAsciiHexdigit = true := by
    refine List.all_eq_true.mpr fun c hc => ?_
    unfold isAsciiHexdigit
    rw [hhex c hc]
    rfl
  have hne : digits.isEmpty = false := by
    cases digits with
    | nil => cases hlen
    | cons => rfl
  unfold contentHashPattern
  rw [hlist, splitChar_append hcolon htag]
  simp only [hdigits, hne]
  decide

theorem length_of_isSha256Id {value : String} (h : isSha256Id value = true) : value.length = 71 := by
  obtain ⟨digits, hlist, hlen, _⟩ := toList_of_isSha256Id h
  rw [← String.length_toList, hlist, List.length_append, List.length_cons, hlen]
  rfl

section Snapshot

variable {α : Type} {fam : Family α} {supplied : SuppliedMap α} {mode : HashVerificationMode}
  {entries : FamilyMap ContractRef} {active : Active α} {kind : ContractKind} {l : List ContractRef}

/-- The keys of the indexed entries are theirs. -/
theorem indexSnapshotEntries_key (h : indexSnapshotEntries kind l = .ok entries)
    (key : String × Nat) (e : ContractRef) (he : entries[key]? = some e) : entryKey e = .ok key :=
  ((indexBy_empty h key e).mp he).2

/-- The returned entries are the snapshot's, with generated identities. -/
theorem Activated.refs_perm (ha : Activated fam supplied mode entries active)
    (hindex : indexSnapshotEntries kind l = .ok entries) :
    ∃ f : ContractRef → ContractRef, active.refs.Perm (l.map f) ∧
      ∀ e ∈ l, ∃ (key : String × Nat) (c : α) (h : String), entries[key]? = some e ∧
        f e = { e with contentHash := h } ∧ active.contracts[key]? = some c ∧
        active.hashes[key]? = some h ∧ fam.hash c = .ok h := by
  -- an entry knows its key, so the rewriting is a function of the entry
  let f : ContractRef → ContractRef := fun e =>
    match entryKey e with
    | .ok key => rehash active.hashes key e
    | .error _ => e
  have hf : ∀ p ∈ entries.toList, rehash active.hashes p.1 p.2 = f p.2 := by
    intro p hp
    have hkey := indexSnapshotEntries_key hindex p.1 p.2 (mem_entries.mp hp)
    simp only [f, hkey]
  refine ⟨f, ?_, fun e he => ?_⟩
  · have hmap : active.refs = (entries.toList.map Prod.snd).map f := by
      rw [ha.refs, List.map_map]
      exact List.map_congr_left hf
    rw [hmap]
    exact (values_perm_of_indexBy hindex).map f
  · obtain ⟨key, hkey⟩ := (indexable_of_indexBy hindex).keyed e he
    have hentry := (indexBy_empty hindex key e).mpr ⟨he, hkey⟩
    obtain ⟨c, h, hm, hc, hh⟩ := ha.entry key e hentry
    refine ⟨key, c, h, hentry, ?_, hc, hh, hm.hash⟩
    simp only [f, hkey, rehash]
    rw [Std.ExtTreeMap.getD_eq_getD_getElem?, hh]
    rfl

/-- The returned entries pass the schema where the given ones do. -/
theorem Activated.refs_schema (ha : Activated fam supplied mode entries active)
    (hsha : ∀ c h, fam.hash c = .ok h → isSha256Id h = true)
    (hindex : indexSnapshotEntries kind l = .ok entries) (hl : contractRefsSchema l = true) :
    contractRefsSchema active.refs = true := by
  have hkeys := indexSnapshotEntries_key hindex
  have hnodup : active.refs.Nodup :=
    (indexable_of_indexBy (ha.index_refs hsha kind hkeys)).nodup
  obtain ⟨f, hperm, hf⟩ := ha.refs_perm hindex
  unfold contractRefsSchema at hl ⊢
  rw [Bool.and_eq_true, List.all_eq_true] at hl
  rw [Bool.and_eq_true, List.all_eq_true, decide_eq_true_eq]
  refine ⟨hnodup, fun r hr => ?_⟩
  obtain ⟨e, he, rfl⟩ := List.mem_map.mp (hperm.mem_iff.mp hr)
  obtain ⟨key, c, h, _, hfe, _, _, hhash⟩ := hf e he
  have hschema := hl.2 e he
  unfold contractRefSchema at hschema ⊢
  rw [hfe]
  simp only [Bool.and_eq_true] at hschema ⊢
  exact ⟨⟨hschema.1.1, contentHashPattern_of_sha256 (hsha c h hhash)⟩, hschema.2⟩

end Snapshot

theorem typeFamily_sha256 (env : BuildEnv) (c : TypeContract) (h : String)
    (hh : (typeFamily env).hash c = .ok h) : isSha256Id h = true := by
  change typeContractHash env.digest c = .ok h at hh
  unfold typeContractHash at hh
  rw [unit_bind_eq_ok, bind_eq_ok'] at hh
  obtain ⟨_, bytes, _, e⟩ := hh
  cases e
  exact isSha256Id_tagged _ _ _

theorem capabilityFamily_sha256 (env : BuildEnv) (c : CapabilityContract) (h : String)
    (hh : (capabilityFamily env).hash c = .ok h) : isSha256Id h = true := by
  change capabilityContractHash env.digest c = .ok h at hh
  unfold capabilityContractHash at hh
  rw [unit_bind_eq_ok, bind_eq_ok'] at hh
  obtain ⟨_, bytes, _, e⟩ := hh
  cases e
  exact isSha256Id_tagged _ _ _

theorem registrySnapshotId_sha256 {digest : Digest} {version id : String}
    {types capabilities : List SnapshotHashEntry}
    (h : registrySnapshotId digest version types capabilities = .ok id) : isSha256Id id = true := by
  unfold registrySnapshotId at h
  rw [unit_bind_eq_ok, unit_bind_eq_ok, unit_bind_eq_ok, bind_eq_ok'] at h
  obtain ⟨_, _, _, _, _, h⟩ := h
  rw [bind_eq_ok'] at h
  obtain ⟨_, _, h⟩ := h
  rw [bind_eq_ok'] at h
  obtain ⟨_, _, e⟩ := h
  cases e
  exact isSha256Id_tagged _ _ _

end Aios
