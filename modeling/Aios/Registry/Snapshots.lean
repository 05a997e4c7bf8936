/-
  File:      Aios/Registry/Snapshots.lean
  Subject:   THE LAWS OF THE SNAPSHOT STORE (`snapshot_store_laws`).

  Whatever operations have run and whatever ones follow: an opened snapshot stays the registry it is,
  and means what the registry that was admitted means; a restriction is never lifted; a new fence
  generation starts with no usable snapshot; and a default moves one revision at a time.

  The calls check some of their arguments before their transaction begins. What they read there they
  would read inside as well: an opening that succeeded goes on succeeding with the same registry.
-/
import Aios.Registry.Reopened

namespace Aios.Registry

open Lib

/-! ## 1. The same meaning -/

/-- Equal up to prose: the semantic views have the same canonical bytes, or else two different ones
    with the same SHA-256. -/
def Alike {α : Type} (digest : Digest) (domain : List UInt8) (view : α → Json) (c c' : α) : Prop :=
  ∃ p q, digest.canonical (view c) = .ok p ∧ digest.canonical (view c') = .ok q ∧
    (p = q ∨ p ≠ q ∧ digest.sha256 (domain ++ p) = digest.sha256 (domain ++ q))

theorem alike_of_tagged {α : Type} {digest : Digest} {domain : List UInt8} {view : α → Json} {c c' : α}
    {p q : List UInt8} (hp : digest.canonical (view c) = .ok p) (hq : digest.canonical (view c') = .ok q)
    (h : digest.tagged domain p = digest.tagged domain q) : Alike digest domain view c c' := by
  refine ⟨p, q, hp, hq, ?_⟩
  by_cases e : p = q
  · exact Or.inl e
  · exact Or.inr ⟨e, Digest.tagged_injective h⟩

theorem canonicalize_ok {digest : Digest} {value : Json} {bytes : List UInt8} :
    canonicalize digest value = .ok bytes ↔ digest.canonical value = .ok bytes := by
  unfold canonicalize
  cases digest.canonical value <;> simp [Except.mapError]

def AlikeType (digest : Digest) : TypeContract → TypeContract → Prop :=
  Alike digest typeContractHashDomain typeContractSemanticView

def AlikeCapability (digest : Digest) : CapabilityContract → CapabilityContract → Prop :=
  Alike digest capabilityContractHashDomain capabilityContractSemanticView

theorem alikeType_of_hash {digest : Digest} {c c' : TypeContract} {h : String}
    (hc : typeContractHash digest c = .ok h) (hc' : typeContractHash digest c' = .ok h) :
    AlikeType digest c c' := by
  unfold typeContractHash at hc hc'
  rw [unit_bind_eq_ok, bind_eq_ok'] at hc hc'
  obtain ⟨-, p, hp, ep⟩ := hc
  obtain ⟨-, q, hq, eq⟩ := hc'
  exact alike_of_tagged (canonicalize_ok.mp hp) (canonicalize_ok.mp hq)
    (Except.ok.inj (ep.trans eq.symm))

theorem alikeCapability_of_hash {digest : Digest} {c c' : CapabilityContract} {h : String}
    (hc : capabilityContractHash digest c = .ok h) (hc' : capabilityContractHash digest c' = .ok h) :
    AlikeCapability digest c c' := by
  unfold capabilityContractHash at hc hc'
  rw [unit_bind_eq_ok, bind_eq_ok'] at hc hc'
  obtain ⟨-, p, hp, ep⟩ := hc
  obtain ⟨-, q, hq, eq⟩ := hc'
  exact alike_of_tagged (canonicalize_ok.mp hp) (canonicalize_ok.mp hq)
    (Except.ok.inj (ep.trans eq.symm))

/-- The same keys, with related contracts under each. -/
def UpTo {α : Type} (alike : α → α → Prop) (m m' : FamilyMap α) : Prop :=
  ∀ key : String × Nat, Option.Rel alike m[key]? m'[key]?

theorem Keyed.upTo {α : Type} {fam : Family α} {m m' : FamilyMap α} {hashes : FamilyMap String}
    {alike : α → α → Prop} (hk : Keyed fam m hashes) (hk' : Keyed fam m' hashes)
    (halike : ∀ c c' h, fam.hash c = .ok h → fam.hash c' = .ok h → alike c c') : UpTo alike m m' := by
  intro key
  cases hc : m[key]? with
  | none =>
      cases hc' : m'[key]? with
      | none => exact .none
      | some c' =>
          obtain ⟨-, -, h, hh, -⟩ := hk'.contract key c' hc'
          obtain ⟨c, hsome, -⟩ := hk.hash key h hh
          rw [hc] at hsome
          cases hsome
  | some c =>
      obtain ⟨-, -, h, hh, hcomputed⟩ := hk.contract key c hc
      obtain ⟨c', hc', hcomputed'⟩ := hk'.hash key h hh
      rw [hc']
      exact .some (halike c c' h hcomputed hcomputed')

/-- The same identities, and contracts that are the same up to prose. -/
structure SameMeaning (env : BuildEnv) (r r' : SemanticRegistry) : Prop where
  snapshotId : r.snapshotId = r'.snapshotId
  typeHashes : r.typeHashes = r'.typeHashes
  capabilityHashes : r.capabilityHashes = r'.capabilityHashes
  types : UpTo (AlikeType env.digest) r.types r'.types
  capabilities : UpTo (AlikeCapability env.digest) r.capabilities r'.capabilities

section Laws

variable {env : StoreEnv} {db : RegistryDb}

/-- **Every opening after an admission means what the admitted registry means.** -/
theorem opened_means {fence : Option WriteFence} {loaded : LoadedRegistry env} {db₁ db₂ : RegistryDb}
    {r : SemanticRegistry} (hwritten : admitRegistryIn env fence db loaded = .ok db₁)
    (hg : Grown db₁ db₂) (hopen : openSnapshot env db₂ loaded.registry.snapshotId = .ok r) :
    SameMeaning env.build r loaded.registry := by
  have ha := admitRegistryIn_ok hwritten
  have hmirrors := ha.mirrors.later hg ha.admitted
  obtain ⟨hopened, hid, hkeyed⟩ := mirrors_opened hopen
  obtain ⟨_, _, _, _, hbuild⟩ := loaded.loaded
  have hloaded := keyed_of_build hbuild
  have htypes : r.typeHashes = loaded.registry.typeHashes := hopened.hashes_eq hmirrors .type
  have hcapabilities : r.capabilityHashes = loaded.registry.capabilityHashes :=
    hopened.hashes_eq hmirrors .capability
  have hkt := hkeyed.types
  have hkc := hkeyed.capabilities
  rw [htypes] at hkt
  rw [hcapabilities] at hkc
  exact ⟨hid, htypes, hcapabilities,
    hkt.upTo hloaded.types fun _ _ _ hc hc' => alikeType_of_hash hc hc',
    hkc.upTo hloaded.capabilities fun _ _ _ hc hc' => alikeCapability_of_hash hc hc'⟩

/-! ## 2. States and usability -/

/-- ADMITTED, DEPRECATED, QUARANTINED, REVOKED. -/
def SnapshotState.rank : SnapshotState → Nat
  | .admitted => 0
  | .deprecated => 1
  | .quarantined => 2
  | .revoked => 3

theorem SnapshotState.allows_iff (s t : SnapshotState) : s.allows t = true ↔ s.rank ≤ t.rank := by
  cases s <;> cases t <;> decide

theorem usable?_of_terminal {id : String} (h : db.terminal.any (fun t => t.snapshotId = id) = true) :
    db.usable? id = none := by
  unfold RegistryDb.usable?
  rw [Option.filter_eq_none_iff]
  intro s _
  simp [h]

/-- **A hard state ends the use of a snapshot.** -/
theorem never_usable_again {db' : RegistryDb} (hs : Sound db) (hg : Grown db db') {id : String}
    {s : SnapshotState} (hstate : db.state? id = some s) (hhard : s.isOpen = false) :
    db'.usable? id = none := by
  obtain ⟨more, hmore⟩ := hg.terminal
  refine usable?_of_terminal ?_
  rw [← hmore, List.any_append, hs.terminal id s hstate hhard]
  rfl

theorem usable?_some {id : String} {s : SnapshotState} (h : db.usable? id = some s) :
    db.state? id = some s ∧ (db.generation = 0 ∨
      ∃ r ∈ db.reattestations, r.snapshotId = id ∧ r.generation = db.generation) := by
  unfold RegistryDb.usable? at h
  rw [Option.filter_eq_some_iff] at h
  obtain ⟨hstate, hrest⟩ := h
  simp only [Bool.and_eq_true, Bool.or_eq_true, decide_eq_true_eq, List.any_eq_true] at hrest
  refine ⟨hstate, hrest.2.imp (fun hzero => hzero) fun hr => ?_⟩
  obtain ⟨r, hr, ⟨hid, hgeneration⟩, -⟩ := hr
  exact ⟨r, hr, hid, hgeneration⟩

/-- A receipt of a later store was there, or some operation in between established its snapshot in
    its generation. -/
theorem receipts_run (db : RegistryDb) (ops : List (StoreOp env)) :
    ∀ r ∈ (run db ops).reattestations, r ∈ db.reattestations ∨ ∃ before op after,
      ops = before ++ op :: after ∧ Establishes (run db before) r.snapshotId op ∧
        r.generation = (run db before).generation := by
  induction ops generalizing db with
  | nil => exact fun r hr => Or.inl hr
  | cons op ops ih =>
      intro r hr
      rcases ih (perform db op) r hr with hr | ⟨before, op', after, rfl, hestablishes, hgeneration⟩
      · refine ((perform_performed db op).receipts r hr).imp (fun hr => hr) fun hnew => ?_
        exact ⟨[], op, ops, rfl, hnew.1, hnew.2⟩
      · exact Or.inr ⟨op :: before, op', after, rfl, hestablishes, hgeneration⟩

/-- **After an advance of the fence only an operation of the generation makes a snapshot usable.** -/
theorem usable_after_fence (hs : Sound db) {leaseHeld : Bool} {db₁ : RegistryDb}
    (hadvance : advanceRepairFence leaseHeld db = .ok db₁) {ops : List (StoreOp env)} {id : String}
    {s : SnapshotState} (husable : (run db₁ ops).usable? id = some s) :
    ∃ before op after, ops = before ++ op :: after ∧ Establishes (run db₁ before) id op ∧
      (run db₁ before).generation = (run db₁ ops).generation := by
  obtain ⟨-, -, hgeneration, hreceipts⟩ := advanceRepairFence_ok hadvance
  have hpositive : 0 < (run db₁ ops).generation :=
    lt_of_lt_of_le (by omega) (run_step db₁ ops).grown.generation
  obtain ⟨-, hzero | ⟨r, hr, hid, hcurrent⟩⟩ := usable?_some husable
  · omega
  · rcases receipts_run db₁ ops r hr with hold | ⟨before, op, after, hops, hestablishes, hthen⟩
    · rw [hreceipts] at hold
      have hle := hs.attested r hold
      have hmono := (run_step db₁ ops).grown.generation
      omega
    · rw [hid] at hestablishes
      exact ⟨before, op, after, hops, hestablishes, hthen.symm.trans hcurrent⟩

/-! ## 3. Defaults -/

/-- The revision as a number; no pointer is 0. -/
def revision (db : RegistryDb) (scopeKind scopeId : String) : Nat :=
  (revision? db scopeKind scopeId).getD 0

/-- An activation that succeeds found the expected revision and left the next. -/
theorem activates_revision {kind id snapshotId : String} {expected : Option Nat} {a : Activation}
    {op : StoreOp env} (h : Activates db kind id expected snapshotId a op) :
    revision? db kind id = expected ∧
      (perform db op).pointer? kind id = some ⟨kind, id, snapshotId, expected.getD 0 + 1⟩ ∧
      a = ⟨kind, id, snapshotId, expected.getD 0 + 1⟩ ∧ db.usable? snapshotId = some .admitted := by
  cases op with
  | activate fence k i e s =>
      obtain ⟨rfl, rfl, rfl, rfl, db', hok⟩ := h
      have ha := activateDefault_ok hok
      have hperform : perform db (StoreOp.activate fence k i e s : StoreOp env) = db' := by
        simp only [perform, hok]
        rfl
      rw [hperform, ha.after, ha.next]
      exact ⟨ha.before, rfl, rfl, ha.usable⟩
  | _ => exact h.elim

/-- One operation moves the revision of a scope by one where it is an activation of it, and by nothing
    elsewhere. -/
theorem revision_perform (db : RegistryDb) (op : StoreOp env) (kind id : String) :
    revision? (perform db op) kind id = revision? db kind id ∨ ∃ snapshotId a,
      Activates db kind id (revision? db kind id) snapshotId a op ∧
        revision? (perform db op) kind id = some (revision db kind id + 1) := by
  rcases (perform_performed db op).pointers kind id with hsame | ⟨expected, snapshotId, a, ha, -⟩
  · left
    unfold revision?
    rw [hsame]
  · right
    obtain ⟨hbefore, hafter, -⟩ := activates_revision ha
    refine ⟨snapshotId, a, hbefore ▸ ha, ?_⟩
    rw [revision?, hafter, revision, hbefore]
    rfl

theorem revision_le_run (db : RegistryDb) (ops : List (StoreOp env)) (kind id : String) :
    revision db kind id ≤ revision (run db ops) kind id := by
  induction ops generalizing db with
  | nil => exact le_refl _
  | cons op ops ih =>
      refine le_trans ?_ (ih (perform db op))
      rcases revision_perform db op kind id with hsame | ⟨_, _, -, hnext⟩
      · rw [revision, revision, hsame]
      · rw [revision, revision, hnext]
        exact Nat.le_succ _

/-- **Of the calls with one expected revision at most one succeeds.** -/
theorem activates_once {kind id snapshotId snapshotId' : String} {expected : Option Nat}
    {a a' : Activation} {op op' : StoreOp env} {between : List (StoreOp env)}
    (h : Activates db kind id expected snapshotId a op) :
    ¬ Activates (run (perform db op) between) kind id expected snapshotId' a' op' := by
  intro h'
  obtain ⟨-, hafter, -⟩ := activates_revision h
  obtain ⟨hbefore, -⟩ := activates_revision h'
  have hmono := revision_le_run (perform db op) between kind id
  have hnext : revision (perform db op) kind id = expected.getD 0 + 1 := by
    rw [revision, revision?, hafter]
    rfl
  have hfound : revision (run (perform db op) between) kind id = expected.getD 0 := by
    rw [revision, hbefore]
  omega

theorem defaultSnapshot_ok {kind id : String} {a : Activation}
    (h : defaultSnapshot env db kind id = .ok (some a)) :
    db.pointer? kind id = some a ∧ db.isInvalidated kind id = false ∧
      db.usable? a.snapshotId = some .admitted ∧
      ∃ r, openSnapshot env db a.snapshotId = .ok r ∧ r.snapshotId = a.snapshotId := by
  unfold defaultSnapshot at h
  split at h
  · cases h
  · rename_i activation hpointer
    split at h
    · cases h
    · rename_i hvalid
      split at h
      · cases h
      · rename_i husable
        rw [bind_eq_ok'] at h
        obtain ⟨r, hopen, h⟩ := h
        obtain rfl : activation = a := Option.some.inj (Except.ok.inj h)
        refine ⟨hpointer, Bool.eq_false_of_not_eq_true hvalid, not_not.mp husable, r, hopen, ?_⟩
        exact (mirrors_opened hopen).2.1

/-! ## 4. The laws -/

/-- What a store promises of everything that follows. -/
structure StoreLaws (env : StoreEnv) (db : RegistryDb) : Prop where
  /-- What opens now opens to the same registry whatever operations follow. -/
  reopened : ∀ id r (ops : List (StoreOp env)),
    openSnapshot env db id = .ok r → openSnapshot env (run db ops) id = .ok r
  /-- After an admission every opening has the identities of the admitted registry and its contracts up
      to prose. -/
  means : ∀ fence (loaded : LoadedRegistry env) db₁ (ops : List (StoreOp env)) r,
    admitRegistryIn env fence db loaded = .ok db₁ →
    openSnapshot env (run db₁ ops) loaded.registry.snapshotId = .ok r →
    SameMeaning env.build r loaded.registry
  states : ∀ id s (ops : List (StoreOp env)), db.state? id = some s →
    ∃ s', (run db ops).state? id = some s' ∧ s.rank ≤ s'.rank
  restricted : ∀ id s (ops : List (StoreOp env)), db.state? id = some s →
    s = .quarantined ∨ s = .revoked → (run db ops).usable? id = none
  /-- After an advance of the fence a usable snapshot has been re-attested or admitted first in the
      generation in force. -/
  fenced : ∀ leaseHeld db₁ (ops : List (StoreOp env)) id s,
    advanceRepairFence leaseHeld db = .ok db₁ → (run db₁ ops).usable? id = some s →
    ∃ before op after, ops = before ++ op :: after ∧ Establishes (run db₁ before) id op ∧
      (run db₁ before).generation = (run db₁ ops).generation
  /-- A successful activation is the next revision of its scope. -/
  activation : ∀ (op : StoreOp env) kind id expected snapshotId a,
    Activates db kind id expected snapshotId a op → revision? db kind id = expected ∧
      (perform db op).pointer? kind id = some a ∧ a.snapshotId = snapshotId ∧
      a.revision = expected.getD 0 + 1
  /-- Nothing else moves the revision of a scope. -/
  revisions : ∀ (op : StoreOp env) kind id, revision? (perform db op) kind id = revision? db kind id ∨
    ∃ snapshotId a, Activates db kind id (revision? db kind id) snapshotId a op ∧
      revision? (perform db op) kind id = some (revision db kind id + 1)
  once : ∀ (op op' : StoreOp env) (between : List (StoreOp env)) kind id expected s s' a a',
    Activates db kind id expected s a op →
    ¬ Activates (run (perform db op) between) kind id expected s' a' op'
  /-- A default is the pointer of a valid scope at a usable ADMITTED snapshot that opens. -/
  defaults : ∀ kind id a, defaultSnapshot env db kind id = .ok (some a) →
    db.pointer? kind id = some a ∧ db.isInvalidated kind id = false ∧
      db.usable? a.snapshotId = some .admitted ∧
      ∃ r, openSnapshot env db a.snapshotId = .ok r ∧ r.snapshotId = a.snapshotId

theorem Sound.laws (hs : Sound db) : StoreLaws env db where
  reopened := fun _ _ ops h => open_later (run_step db ops).grown h
  means := fun _ _ db₁ ops _ hwritten hopen => opened_means hwritten (run_step db₁ ops).grown hopen
  states := fun id s ops h => by
    obtain ⟨s', hs', hallows⟩ := (run_step db ops).grown.states id s h
    exact ⟨s', hs', (s.allows_iff s').mp hallows⟩
  restricted := fun id s ops h hhard => by
    refine never_usable_again hs (run_step db ops).grown h ?_
    rcases hhard with rfl | rfl <;> rfl
  fenced := fun _ _ _ _ _ hadvance husable => usable_after_fence hs hadvance husable
  activation := fun op kind id expected snapshotId a h => by
    obtain ⟨hbefore, hafter, ha, -⟩ := activates_revision h
    rw [ha]
    exact ⟨hbefore, hafter, rfl, rfl⟩
  revisions := revision_perform db
  once := fun _ _ _ _ _ _ _ _ _ _ h => activates_once h
  defaults := fun _ _ _ h => defaultSnapshot_ok h

/-- **The snapshot store never changes or revives a meaning**, after any operations in any order on any
    store 0014 was applied to. -/
theorem snapshot_store_laws (env : StoreEnv) (l : Legacy) (ops : List (StoreOp env)) :
    StoreLaws env (run (upgraded l) ops) := by
  have hs : Sound (run (upgraded l) ops) := (run_step _ ops).sound (sound_upgraded l)
  exact hs.laws

end Laws

end Aios.Registry
