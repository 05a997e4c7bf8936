/-
  File:      Aios/Providers/Evolved.lean
  Subject:   WHAT HOLDS OF EVERY PROVIDER STORE: the records of a registration have no gap.

  The epochs of a registration are numbered from 0, no two neighbours have one state and their times
  do not go back (`Gapless`); the trust decisions are numbered from 1 and every receipt is the one its
  columns spell (`Decided`). Both are kept by what an operation can write, case by case
  (`kept_written`), and so by every run (`History.kept`). Beside it nothing is taken back (`Grown`).
-/
import Mathlib.Data.List.Chain
import Aios.Lib.Keyed
import Aios.Providers.Run

namespace Aios.Providers

open Lib Registry

/-! ## 1. The records of a registration -/

section Records

variable (env : ProviderEnv)

/-- The instant of `a` is not after that of `b`; both can be read. -/
def NotAfter (a b : String) : Prop :=
  ∃ s t, env.instant a = some s ∧ env.instant b = some t ∧ s ≤ t

/-- One epoch follows another: the state changes, the time does not go back. -/
def Follows (e f : EpochRow) : Prop := e.state ≠ f.state ∧ NotAfter env e.transitionedAt f.transitionedAt

structure Gapless (r : RegistrationRow) (es : List EpochRow) : Prop where
  revisions : es.map EpochRow.revision = List.range es.length
  chain : es.IsChain (Follows env)
  last : ∃ e, es.getLast? = some e ∧ e.state = r.state ∧ e.transitionedAt = r.effectiveAt
  readable : (env.instant r.effectiveAt).isSome
  /-- A revoked epoch is the last one. -/
  final : ∀ e ∈ es, e.state = .revoked → r.state = .revoked

/-- A trust decision as `admit_trust` writes it. -/
structure Honest (r : RegistrationRow) (a : TrustAdmissionRow) : Prop where
  registrationId : a.registrationId = r.registrationId
  open_ : r.trustStatus.isTerminal = false
  decision : boundedRef a.decisionId = true
  authority : boundedRef a.authorityRef = true
  permits : a.trustStatus.permitsExecution = true
  receipt : receiptMatches env a = true
  room : a.revision < Registry.maxI64

structure Decided (r : RegistrationRow) (as : List TrustAdmissionRow) : Prop where
  revisions : as.map TrustAdmissionRow.revision = List.range' 1 as.length
  times : (r.registeredAt :: as.map TrustAdmissionRow.admittedAt).IsChain (NotAfter env)
  start : (env.instant r.registeredAt).isSome
  honest : ∀ a ∈ as, Honest env r a

end Records

/-- The trust decisions of a registration as they were written. -/
def ProviderDb.decisionsOf (db : ProviderDb) (id : String) : List TrustAdmissionRow :=
  db.admissions.filter fun a => a.registrationId = id

variable {env : ProviderEnv}

/-- The revisions rise. -/
theorem Decided.rising {r : RegistrationRow} {as : List TrustAdmissionRow}
    (h : Decided env r as) : as.Pairwise fun a b => a.revision < b.revision := by
  have hrange := List.pairwise_lt_range' (s := 1) (n := as.length)
  rw [← h.revisions] at hrange
  exact List.pairwise_map.mp hrange

theorem Decided.sorted {r : RegistrationRow} {as : List TrustAdmissionRow}
    (h : Decided env r as) : sortOn TrustAdmissionRow.revision as = as :=
  sortOn_eq_of_rising (List.Perm.refl as) h.rising

theorem chain_readable {env : ProviderEnv} : ∀ {times : List String} {start : String},
    (start :: times).IsChain (NotAfter env) → ∀ time ∈ times, (env.instant time).isSome
  | [], _, _, _, h => by cases h
  | time :: times, start, h, x, hx => by
      rw [List.isChain_cons_cons] at h
      obtain ⟨⟨s, t, -, ht, -⟩, htail⟩ := h
      rcases List.mem_cons.mp hx with rfl | hx
      · rw [ht]
        rfl
      · exact chain_readable htail x hx

theorem Decided.readable {r : RegistrationRow} {as : List TrustAdmissionRow}
    (h : Decided env r as) : ∀ a ∈ as, (env.instant a.admittedAt).isSome :=
  fun a ha => chain_readable h.times a.admittedAt (List.mem_map_of_mem ha)

/-! ## 2. Reading the tables after a write -/

section Frames

variable {db : ProviderDb}

@[simp] theorem moved_registrationId (id now : String) (state : LifecycleState) (r : RegistrationRow) :
    (r.moved id state now).registrationId = r.registrationId := by
  unfold RegistrationRow.moved
  split <;> rfl

theorem moved_of_ne {id now : String} {state : LifecycleState} {r : RegistrationRow}
    (h : r.registrationId ≠ id) : r.moved id state now = r := if_neg h

theorem moved_self (now : String) (state : LifecycleState) (r : RegistrationRow) :
    r.moved r.registrationId state now = { r with state := state, updatedAt := some now } := if_pos rfl

theorem manifest?_append {id text k : String} (hnone : db.manifest? id = none) :
    (((db.manifests ++ [(id, text)]).find? fun m => m.1 = k).map Prod.snd) =
      if id = k then some text else db.manifest? k := by
  have hfresh : ∀ m ∈ db.manifests, m.1 ≠ (id, text).1 :=
    find?_key_none.mp (Option.map_eq_none_iff.mp hnone)
  rw [find?_append_fresh hfresh]
  by_cases h : id = k
  · rw [if_pos h, if_pos h]
    rfl
  · rw [if_neg h, if_neg h]
    rfl

end Frames

/-! ## 3. What is never taken back -/

/-- What of a row no operation changes. -/
def RegistrationRow.kept (r : RegistrationRow) : ProviderRegistration × ProviderTrustStatus × String × String :=
  (r.registration, r.trustStatus, r.registrationJson, r.registeredAt)

@[simp] theorem moved_kept (id now : String) (state : LifecycleState) (r : RegistrationRow) :
    (r.moved id state now).kept = r.kept := by
  unfold RegistrationRow.moved
  split <;> rfl

structure Grown (a b : ProviderDb) : Prop where
  registrations : ∀ id r, a.registration? id = some r → ∃ r', b.registration? id = some r' ∧
    r'.kept = r.kept ∧ (r.state = .revoked → r'.state = .revoked)
  manifests : ∀ id text, a.manifest? id = some text → b.manifest? id = some text
  epochs : a.epochs <+: b.epochs
  admissions : a.admissions <+: b.admissions
  evidence : a.evidence <+: b.evidence
  bindings : a.bindings <+: b.bindings
  admissionMarkers : a.admissionMarkers <+: b.admissionMarkers
  trustMarkers : a.trustMarkers <+: b.trustMarkers
  enablementMarkers : a.enablementMarkers <+: b.enablementMarkers
  quarantined : b.quarantined = a.quarantined
  semantic : Registry.Grown a.semantic b.semantic

namespace Grown

theorem refl (a : ProviderDb) : Grown a a where
  registrations := fun _ r hr => ⟨r, hr, rfl, id⟩
  manifests := fun _ _ h => h
  epochs := List.prefix_refl _
  admissions := List.prefix_refl _
  evidence := List.prefix_refl _
  bindings := List.prefix_refl _
  admissionMarkers := List.prefix_refl _
  trustMarkers := List.prefix_refl _
  enablementMarkers := List.prefix_refl _
  quarantined := rfl
  semantic := .refl _

theorem trans {a b c : ProviderDb} (hab : Grown a b) (hbc : Grown b c) : Grown a c where
  registrations := fun id r hr => by
    obtain ⟨r', hr', hkept, hrevoked⟩ := hab.registrations id r hr
    obtain ⟨r'', hr'', hkept', hrevoked'⟩ := hbc.registrations id r' hr'
    exact ⟨r'', hr'', hkept'.trans hkept, fun h => hrevoked' (hrevoked h)⟩
  manifests := fun id text h => hbc.manifests id text (hab.manifests id text h)
  epochs := hab.epochs.trans hbc.epochs
  admissions := hab.admissions.trans hbc.admissions
  evidence := hab.evidence.trans hbc.evidence
  bindings := hab.bindings.trans hbc.bindings
  admissionMarkers := hab.admissionMarkers.trans hbc.admissionMarkers
  trustMarkers := hab.trustMarkers.trans hbc.trustMarkers
  enablementMarkers := hab.enablementMarkers.trans hbc.enablementMarkers
  quarantined := hbc.quarantined.trans hab.quarantined
  semantic := hab.semantic.trans hbc.semantic

end Grown

theorem grown_written {seen db db' : ProviderDb} (h : Written env seen db db') : Grown db db' := by
  cases h with
  | nothing => exact .refl db
  | registration r text m hfresh hdisabled htime hreceipt hnext =>
      refine { Grown.refl db with
        registrations := fun k p hp => ⟨p, ?_, rfl, fun h => h⟩
        manifests := fun id t ht => ?_
        epochs := List.prefix_append _ _ }
      · show (db.registrations ++ [r]).find? _ = _
        rw [find?_append_fresh hfresh, if_neg fun e => hfresh p (registration?_mem hp) (by
          rw [e, registration?_key hp])]
        exact hp
      · show ((db.manifests ++ _).find? _).map _ = _
        rw [ProviderDb.manifest?, Option.map_eq_some_iff] at ht
        obtain ⟨p, hp, rfl⟩ := ht
        rw [List.find?_append, hp]
        rfl
  | evidence e hnew htested => exact { Grown.refl db with evidence := List.prefix_append _ _ }
  | admission a hnew hrevision hmatch => exact { Grown.refl db with admissions := List.prefix_append _ _ }
  | state r state now hr hmove hlive htime hclock henable hopen =>
      refine { Grown.refl db with
        registrations := fun id p hp => ⟨p.moved r.registrationId state now, ?_, by simp, fun hrevoked => ?_⟩
        epochs := List.prefix_append _ _ }
      · show (db.registrations.map _).find? _ = _
        rw [find?_map_key (moved_registrationId _ _ _)]
        exact congrArg (Option.map _) hp
      · have hne : p.registrationId ≠ r.registrationId := fun e => by
          rw [registration?_key hp] at e
          rw [e, hr] at hp
          exact hlive (by rw [Option.some.inj hp, hrevoked])
        rw [moved_of_ne hne]
        exact hrevoked
  | binding b hb =>
      exact { Grown.refl db with
        bindings := List.prefix_append _ _
        admissionMarkers := List.prefix_append _ _
        trustMarkers := List.prefix_append _ _
        enablementMarkers := List.prefix_append _ _ }
  | semantic s hs => exact { Grown.refl db with semantic := hs.grown }

/-! ## 4. What every store keeps -/

structure Kept (env : ProviderEnv) (db : ProviderDb) : Prop where
  paired : Paired db
  unique : db.registrations.Pairwise fun a b => a.registrationId ≠ b.registrationId
  receipts : ∀ id r, db.registration? id = some r →
    ∃ text m, db.manifest? id = some text ∧ ReceiptOf env r text m
  epochs : ∀ id r, db.registration? id = some r → Gapless env r (db.epochsOf id)
  decisions : ∀ id r, db.registration? id = some r → Decided env r (db.decisionsOf id)
  unregistered : ∀ id, db.registration? id = none → db.epochsOf id = [] ∧ db.decisionsOf id = []
  tested : ∀ e ∈ db.evidence, (e.testedAt.bind env.instant).isSome
  evidenceIds : db.evidence.Pairwise fun a b => a.evidenceId ≠ b.evidenceId
  decisionIds : db.admissions.Pairwise fun a b => a.admissionId ≠ b.admissionId

section Keeping

variable {env : ProviderEnv} {seen db db' : ProviderDb}

variable {r : RegistrationRow}

theorem Gapless.lastRevision {es : List EpochRow} (h : Gapless env r es) :
    (es.map EpochRow.revision).max? = some (es.length - 1) ∧ 0 < es.length := by
  have hpos : 0 < es.length := by
    obtain ⟨e, he, -⟩ := h.last
    exact List.length_pos_of_mem (List.mem_of_getLast? he)
  refine ⟨?_, hpos⟩
  rw [h.revisions, List.max?_eq_some_iff]
  refine ⟨List.mem_range.mpr (by omega), fun b hb => ?_⟩
  have hlt := List.mem_range.mp hb
  omega

/-- A new registration starts with its one epoch. -/
theorem gapless_initial (hstate : r.state = .disabled) (htime : r.updatedAt = none)
    (hstart : (env.instant r.registeredAt).isSome) :
    Gapless env r [⟨r.registrationId, 0, .disabled, r.registeredAt⟩] := by
  have heffective : r.effectiveAt = r.registeredAt := by
    unfold RegistrationRow.effectiveAt
    rw [htime]
    rfl
  refine ⟨rfl, List.isChain_singleton _, ⟨_, rfl, hstate.symm, heffective.symm⟩, ?_, fun e he hrevoked => ?_⟩
  · rw [heffective]
    exact hstart
  · rw [List.mem_singleton.mp he] at hrevoked
    cases hrevoked

/-- A transition appends the next epoch. -/
theorem gapless_moved {es : List EpochRow} {state : LifecycleState} {now : String}
    (h : Gapless env r es) (hmove : state ≠ r.state) (hlive : r.state ≠ .revoked)
    (htime : (env.instant now).isSome) (hclock : sqlNotAfter env.time r.effectiveAt.toList now.toList = true) :
    Gapless env { r with state := state, updatedAt := some now }
      (es ++ [⟨r.registrationId, (((es.map EpochRow.revision).max?).map (· + 1)).getD 0, state, now⟩]) := by
  obtain ⟨hmax, hpos⟩ := h.lastRevision
  obtain ⟨e, he, hstate, hat⟩ := h.last
  obtain ⟨s, hs⟩ := Option.isSome_iff_exists.mp h.readable
  obtain ⟨t, ht⟩ := Option.isSome_iff_exists.mp htime
  refine ⟨?_, ?_, ⟨_, List.getLast?_append, rfl, rfl⟩, htime, fun f hf hrevoked => ?_⟩
  · have hnext : es.length - 1 + 1 = es.length := by omega
    rw [hmax, List.map_append, h.revisions, List.length_append, List.length_singleton, List.range_succ]
    simp [hnext]
  · rw [List.isChain_append]
    refine ⟨h.chain, List.isChain_singleton _, fun f hf g hg => ?_⟩
    rw [he] at hf
    rw [← Option.some.inj hf, ← Option.some.inj hg]
    refine ⟨?_, s, t, ?_, ht, sqlNotAfter_le env.time hs ht hclock⟩
    · rw [hstate]
      exact hmove.symm
    · rw [hat]
      exact hs
  · rcases List.mem_append.mp hf with hold | hnew
    · exact absurd (h.final f hold hrevoked) hlive
    · rw [List.mem_singleton.mp hnew] at hrevoked
      exact hrevoked

theorem Decided.congr {r r' : RegistrationRow} {as : List TrustAdmissionRow} (hk : r'.kept = r.kept)
    (h : Decided env r as) : Decided env r' as := by
  simp only [RegistrationRow.kept, Prod.mk.injEq] at hk
  obtain ⟨hreg, htrust, -, hat⟩ := hk
  have hid : r'.registrationId = r.registrationId := congrArg ProviderRegistration.registrationId hreg
  refine ⟨h.revisions, by rw [hat]; exact h.times, by rw [hat]; exact h.start, fun a ha => ?_⟩
  have ho := h.honest a ha
  exact ⟨ho.registrationId.trans hid.symm, by rw [htrust]; exact ho.open_, ho.decision, ho.authority,
    ho.permits, ho.receipt, ho.room⟩

theorem ReceiptOf.congr {r r' : RegistrationRow} {text : String} {m : CapabilityManifest}
    (hk : r'.kept = r.kept) (h : ReceiptOf env r text m) : ReceiptOf env r' text m := by
  simp only [RegistrationRow.kept, Prod.mk.injEq] at hk
  obtain ⟨hreg, htrust, hjson, hat⟩ := hk
  exact ⟨h.read, by rw [hreg, htrust, hjson, hat]; exact h.verified⟩

theorem Kept.admissionsOf (h : Kept env db) (id : String) : db.admissionsOf id = db.decisionsOf id := by
  cases hr : db.registration? id with
  | none =>
      have hnone : db.admissions.filter (fun a => a.registrationId = id) = [] := (h.unregistered id hr).2
      unfold ProviderDb.admissionsOf
      rw [hnone, (h.unregistered id hr).2]
      rfl
  | some r => exact (h.decisions id r hr).sorted

/-- The last of the times of a registration: its last decision, or the registration. -/
theorem Kept.previousAt (h : Kept env db) {id : String} (hr : db.registration? id = some r) :
    db.previousAt? id =
      (r.registeredAt :: (db.decisionsOf id).map TrustAdmissionRow.admittedAt).getLast? := by
  unfold ProviderDb.previousAt?
  rw [h.admissionsOf, hr]
  cases hlast : (db.decisionsOf id).getLast? with
  | none =>
      rw [List.getLast?_eq_none_iff.mp hlast]
      rfl
  | some a =>
      rw [List.getLast?_cons, List.getLast?_map, hlast]
      rfl

theorem Kept.nextRevision (h : Kept env db) {id : String} (hr : db.registration? id = some r) :
    ((db.lastAdmission? id).map (· + 1)).getD 1 = (db.decisionsOf id).length + 1 := by
  unfold ProviderDb.lastAdmission?
  rw [h.admissionsOf, (h.decisions id r hr).revisions]
  cases hlen : (db.decisionsOf id).length with
  | zero => rfl
  | succ n =>
      have hmax : (List.range' 1 (n + 1)).max? = some (n + 1) := by
        rw [List.max?_eq_some_iff]
        refine ⟨List.mem_range'_1.mpr (by omega), fun b hb => ?_⟩
        have hlt := List.mem_range'_1.mp hb
        omega
      rw [hmax]
      rfl

/-- A decision that passes the guard of its insert continues the history. -/
theorem decided_admission (h : Kept env db) {a : TrustAdmissionRow}
    (hr : db.registration? a.registrationId = some r)
    (hrevision : a.revision = ((db.lastAdmission? a.registrationId).map (· + 1)).getD 1)
    (hmatch : admissionMatches env db a = true) :
    Decided env r (db.decisionsOf a.registrationId ++ [a]) := by
  have hd := h.decisions _ r hr
  rw [h.nextRevision hr] at hrevision
  unfold admissionMatches at hmatch
  rw [hr, h.previousAt hr] at hmatch
  cases hprevious : (r.registeredAt :: (db.decisionsOf a.registrationId).map
      TrustAdmissionRow.admittedAt).getLast? with
  | none =>
      rw [hprevious] at hmatch
      cases hmatch
  | some previousAt =>
    rw [hprevious] at hmatch
    simp only [trustAdmissionMatchesInsert, Bool.and_eq_true, decide_eq_true_eq] at hmatch
    obtain ⟨⟨⟨⟨⟨_, hroom⟩, hdecision⟩, hauthority⟩, _⟩, hrest⟩ := hmatch
    split at hrest
    · next previous admitted hp ha =>
      simp only [Bool.and_eq_true, decide_eq_true_eq, Bool.not_eq_true'] at hrest
      obtain ⟨⟨⟨hopen, hpermits⟩, hle⟩, hreceipt⟩ := hrest
      refine ⟨?_, ?_, hd.start, fun b hb => ?_⟩
      · rw [List.map_append, hd.revisions, List.length_append, List.length_singleton,
          List.range'_concat]
        simp [hrevision, Nat.add_comm]
      · rw [List.map_append, ← List.cons_append, List.isChain_append]
        refine ⟨hd.times, List.isChain_singleton _, fun x hx y hy => ?_⟩
        rw [hprevious] at hx
        rw [← Option.some.inj hx, ← Option.some.inj hy]
        exact ⟨previous, admitted, hp, ha, hle⟩
      · rcases List.mem_append.mp hb with hold | hnew
        · exact hd.honest b hold
        · rw [List.mem_singleton.mp hnew]
          exact ⟨(registration?_key hr).symm, hopen, hdecision, hauthority, hpermits, hreceipt, hroom⟩
    · cases hrest

/-- **What every store keeps is kept by whatever an operation writes.** -/
theorem kept_written (hk : Kept env db) (h : Written env seen db db') : Kept env db' := by
  cases h with
  | nothing => exact hk
  | evidence e hnew htested =>
      refine { hk with
        tested := fun f hf => ?_
        evidenceIds := pairwise_snoc hk.evidenceIds fun p hp => ?_ }
      · rcases List.mem_append.mp hf with hold | hlast
        · exact hk.tested f hold
        · rw [List.mem_singleton.mp hlast]
          exact htested
      · have hfound := List.find?_eq_none.mp hnew p hp
        simpa using hfound
  | binding b hb => exact { hk with }
  | semantic s hs => exact { hk with }
  | registration r text m hfresh hdisabled htime hreceipt hnext =>
      have hreg : db.registration? r.registrationId = none := registration?_none.mpr hfresh
      have hmanifest : db.manifest? r.registrationId = none := by
        have hpair := hk.paired r.registrationId
        rw [hreg] at hpair
        simpa using hpair
      have hstart : (env.instant r.registeredAt).isSome := by
        have hverified := hreceipt.verified
        unfold verifyProviderRegistrationReceipt at hverified
        rw [bind_eq_ok'] at hverified
        obtain ⟨t, ht, -⟩ := hverified
        rw [parseTime_ok.mp ht]
        rfl
      have hrow : ∀ id, (db.registrations ++ [r]).find? (fun p => p.registrationId = id) =
          if r.registrationId = id then some r else db.registration? id := fun id => find?_append_fresh hfresh
      have hepochs : ∀ id, (db.epochs ++ [(⟨r.registrationId, 0, .disabled, r.registeredAt⟩ : EpochRow)]).filter
          (fun p => p.registrationId = id) =
            if r.registrationId = id then db.epochsOf id ++ [⟨r.registrationId, 0, .disabled, r.registeredAt⟩]
            else db.epochsOf id := fun id => filter_append_key
      constructor
      · intro id
        show (((db.manifests ++ [(r.registrationId, text)]).find? _).map _).isSome =
          ((db.registrations ++ [r]).find? _).isSome
        rw [manifest?_append hmanifest, hrow]
        by_cases he : r.registrationId = id
        · rw [if_pos he, if_pos he]
          rfl
        · rw [if_neg he, if_neg he]
          exact hk.paired id
      · exact pairwise_snoc hk.unique hfresh
      · intro id p hp
        have hp : (db.registrations ++ [r]).find? _ = some p := hp
        show ∃ t m, ((db.manifests ++ [(r.registrationId, text)]).find? _).map _ = some t ∧ _
        rw [manifest?_append hmanifest]
        rw [hrow] at hp
        by_cases he : r.registrationId = id
        · rw [if_pos he] at hp ⊢
          exact ⟨text, m, rfl, by rw [← Option.some.inj hp]; exact hreceipt⟩
        · rw [if_neg he] at hp ⊢
          exact hk.receipts id p hp
      · intro id p hp
        have hp : (db.registrations ++ [r]).find? _ = some p := hp
        show Gapless env p ((db.epochs ++ [_]).filter _)
        rw [hepochs]
        rw [hrow] at hp
        by_cases he : r.registrationId = id
        · rw [if_pos he] at hp ⊢
          rw [← he, (hk.unregistered _ hreg).1, ← Option.some.inj hp]
          exact gapless_initial hdisabled htime hstart
        · rw [if_neg he] at hp ⊢
          exact hk.epochs id p hp
      · intro id p hp
        have hp : (db.registrations ++ [r]).find? _ = some p := hp
        rw [hrow] at hp
        by_cases he : r.registrationId = id
        · rw [if_pos he] at hp
          show Decided env p (db.decisionsOf id)
          rw [← he, (hk.unregistered _ hreg).2, ← Option.some.inj hp]
          exact ⟨rfl, List.isChain_singleton _, hstart, fun a ha => by cases ha⟩
        · rw [if_neg he] at hp
          exact hk.decisions id p hp
      · intro id hnone
        have hnone : (db.registrations ++ [r]).find? _ = none := hnone
        rw [hrow] at hnone
        by_cases he : r.registrationId = id
        · rw [if_pos he] at hnone
          cases hnone
        · rw [if_neg he] at hnone
          refine ⟨?_, (hk.unregistered id hnone).2⟩
          show (db.epochs ++ [_]).filter _ = []
          rw [hepochs, if_neg he]
          exact (hk.unregistered id hnone).1
      · exact hk.tested
      · exact hk.evidenceIds
      · exact hk.decisionIds
  | admission a hnew hrevision hmatch =>
      refine { hk with
        decisions := fun id r hr => ?_
        unregistered := fun id hnone => ⟨(hk.unregistered id hnone).1, ?_⟩
        decisionIds := pairwise_snoc hk.decisionIds hnew }
      · show Decided env r ((db.admissions ++ [a]).filter _)
        rw [filter_append_key]
        by_cases he : a.registrationId = id
        · subst he
          rw [if_pos rfl]
          exact decided_admission hk hr hrevision hmatch
        · rw [if_neg he]
          exact hk.decisions id r hr
      · show (db.admissions ++ [a]).filter _ = []
        rw [filter_append_key, if_neg fun e => ?_]
        · exact (hk.unregistered id hnone).2
        · have hnone : db.registration? id = none := hnone
          unfold admissionMatches at hmatch
          rw [e, hnone] at hmatch
          cases hmatch
  | state r state now hr hmove hlive htime hclock henable hopen =>
      have hrow : ∀ id, (db.registrations.map (RegistrationRow.moved r.registrationId state now)).find?
          (fun p => p.registrationId = id) =
            (db.registration? id).map (RegistrationRow.moved r.registrationId state now) :=
        fun id => find?_map_key (moved_registrationId _ _ _) id
      have hold : ∀ id p, (db.registrations.map (RegistrationRow.moved r.registrationId state now)).find?
          (fun p => p.registrationId = id) = some p →
            ∃ q, db.registration? id = some q ∧ q.moved r.registrationId state now = p := fun id p hp => by
        rw [hrow] at hp
        exact Option.map_eq_some_iff.mp hp
      constructor
      · intro id
        show (db.manifest? id).isSome = ((db.registrations.map _).find? _).isSome
        rw [hrow, Option.isSome_map]
        exact hk.paired id
      · show (db.registrations.map _).Pairwise _
        rw [List.pairwise_map]
        exact hk.unique.imp fun h => by simpa using h
      · intro id p hp
        obtain ⟨q, hq, rfl⟩ := hold id p hp
        obtain ⟨text, m, htext, hreceipt⟩ := hk.receipts id q hq
        exact ⟨text, m, htext, hreceipt.congr (moved_kept _ _ _ _)⟩
      · intro id p hp
        obtain ⟨q, hq, rfl⟩ := hold id p hp
        show Gapless env _ ((db.epochs ++ [_]).filter _)
        rw [filter_append_key]
        by_cases he : r.registrationId = id
        · have hqr : q = r := by
            rw [← he, hr] at hq
            exact (Option.some.inj hq).symm
          subst hqr
          rw [if_pos he, moved_self, ← he]
          exact gapless_moved (hk.epochs _ q hr) hmove hlive htime hclock
        · rw [if_neg he, moved_of_ne fun e => he (by rw [← e, registration?_key hq])]
          exact hk.epochs id q hq
      · intro id p hp
        obtain ⟨q, hq, rfl⟩ := hold id p hp
        exact (hk.decisions id q hq).congr (moved_kept _ _ _ _)
      · intro id hnone
        have hnone : (db.registrations.map _).find? _ = none := hnone
        rw [hrow, Option.map_eq_none_iff] at hnone
        refine ⟨?_, (hk.unregistered id hnone).2⟩
        show (db.epochs ++ [_]).filter _ = []
        rw [filter_append_key, if_neg fun e => ?_]
        · exact (hk.unregistered id hnone).1
        · rw [← e, hr] at hnone
          cases hnone
      · exact hk.tested
      · exact hk.evidenceIds
      · exact hk.decisionIds

theorem kept_opened (l : Legacy) : Kept env (opened l) where
  paired := fun _ => rfl
  unique := .nil
  receipts := fun _ _ h => by cases h
  epochs := fun _ _ h => by cases h
  decisions := fun _ _ h => by cases h
  unregistered := fun _ _ => ⟨rfl, rfl⟩
  tested := fun _ h => by cases h
  evidenceIds := .nil
  decisionIds := .nil

/-- **Every store of a run keeps its records, and takes back nothing of an earlier one.** -/
theorem History.kept {past : List ProviderDb} (h : History env (db :: past)) :
    Kept env db ∧ ∀ older ∈ db :: past, Grown older db := by
  generalize hall : db :: past = stores at h
  induction h generalizing db past with
  | opened l =>
      obtain ⟨rfl, rfl⟩ := List.cons.inj hall
      refine ⟨kept_opened l, fun older holder => ?_⟩
      rw [List.mem_singleton.mp holder]
      exact .refl _
  | @step db₀ seen past₀ h hseen op ih =>
      obtain ⟨rfl, rfl⟩ := List.cons.inj hall
      obtain ⟨hk, hgrown⟩ := ih rfl
      have hwritten : Written env seen db₀ (perform seen db₀ op) := perform_written hk.paired op
      refine ⟨kept_written hk hwritten, fun older holder => ?_⟩
      rcases List.mem_cons.mp holder with rfl | hpast
      · exact .refl _
      · exact (hgrown older hpast).trans (grown_written hwritten)

end Keeping

end Aios.Providers
