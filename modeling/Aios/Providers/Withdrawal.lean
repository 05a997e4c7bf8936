/-
  File:      Aios/Providers/Withdrawal.lean
  Subject:   A WITHDRAWN PROVIDER RETIRES ITS OLDER BINDINGS, over every run of the store.

  Three marks are left by the insert of a binding and read again at its launch: the epoch of the
  registration, the trust source and the evidence. The tables they point into only grow.

  * `History.inserted` -- every binding of a store was inserted at one place of the run.
  * `launched_of`, `Launched` -- what the gate has found in the tables when it lets a binding pass.
  * `withdrawal_retires` -- what a passing binding rests on (`Standing`) and what retires it for good
    (`Retired`).
-/
import Aios.Providers.Newest
import Aios.Providers.Lifecycle

namespace Aios.Providers

open Lib Registry Tasks

/-! ## 1. The marks of a binding -/

/-- A binding, its evidence, its trust source and its epoch: each of them once. -/
structure Marked (db : ProviderDb) : Prop where
  bindings : db.bindings.Pairwise fun a b => a.row.bindingId ≠ b.row.bindingId
  admission : db.admissionMarkers.Pairwise fun a b => a.1 ≠ b.1
  trust : db.trustMarkers.Pairwise fun a b => a.1 ≠ b.1
  enablement : db.enablementMarkers.Pairwise fun a b => a.bindingId ≠ b.bindingId

theorem pairwise_append_toList {α : Type} {R : α → α → Prop} {l : List α} {o : Option α} (h : l.Pairwise R)
    (hx : ∀ x, o = some x → ∀ p ∈ l, R p x) : (l ++ o.toList).Pairwise R := by
  cases ho : o with
  | none =>
      rw [Option.toList_none, List.append_nil]
      exact h
  | some x => exact pairwise_snoc h (hx x ho)

section Marks

variable {env : ProviderEnv} {seen db db' : ProviderDb}

theorem Admissible.fresh_id {b : BindingRow} (h : Admissible env db b) :
    ∀ p ∈ db.bindings, p.row.bindingId ≠ b.row.bindingId := fun p hp heq => by
  have hknown := List.any_eq_false.mp h.fresh p hp
  rw [heq] at hknown
  simp at hknown

theorem marked_written (hm : Marked db) (h : Written env seen db db') : Marked db' := by
  cases h with
  | nothing => exact hm
  | registration r text m hfresh hdisabled htime hreceipt hnext => exact { hm with }
  | evidence e hnew htested => exact { hm with }
  | admission a hnew hrevision hmatch => exact { hm with }
  | state r state now hr hmove hlive htime hclock henable hopen => exact { hm with }
  | semantic s hs => exact { hm with }
  | binding b hb =>
      have hunmarked := hb.unmarked
      unfold markersKnown at hunmarked
      rw [Bool.or_eq_false_iff, Bool.or_eq_false_iff] at hunmarked
      obtain ⟨⟨hadmission, htrust⟩, henablement⟩ := hunmarked
      refine ⟨pairwise_snoc hm.bindings hb.fresh_id, pairwise_append_toList hm.admission ?_,
        pairwise_append_toList hm.trust ?_, pairwise_append_toList hm.enablement ?_⟩
      · intro x hx p hp
        obtain ⟨pin, -, rfl⟩ := Option.map_eq_some_iff.mp hx
        simpa using List.any_eq_false.mp hadmission p hp
      · intro x hx p hp
        obtain ⟨pin, -, rfl⟩ := Option.map_eq_some_iff.mp hx
        simpa using List.any_eq_false.mp htrust p hp
      · intro x hx p hp
        obtain ⟨id, -, hx⟩ := Option.bind_eq_some_iff.mp hx
        obtain ⟨revision, -, rfl⟩ := Option.map_eq_some_iff.mp hx
        simpa using List.any_eq_false.mp henablement p hp

theorem History.marked {past : List ProviderDb} (h : History env (db :: past)) : Marked db := by
  generalize hall : db :: past = stores at h
  induction h generalizing db past with
  | opened l =>
      obtain ⟨rfl, -⟩ := List.cons.inj hall
      exact ⟨.nil, .nil, .nil, .nil⟩
  | @step db₀ seen past₀ h hseen op ih =>
      obtain ⟨rfl, -⟩ := List.cons.inj hall
      have hwritten : Written env seen db₀ (perform seen db₀ op) := perform_written h.kept.1.paired op
      exact marked_written (ih rfl) hwritten

end Marks

/-! ## 2. The insertion -/

/-- The binding was inserted into `before`; `since` are the stores after it, the newest first. -/
structure InsertedAt (env : ProviderEnv) (stores since : List ProviderDb) (before : ProviderDb)
    (b : BindingRow) : Prop where
  split : ∃ earlier, stores = since ++ before :: earlier
  first : since.getLast? = some (withMarkers env before b)
  admissible : Admissible env before b

section Insertion

variable {env : ProviderEnv} {db before : ProviderDb} {past since stores : List ProviderDb} {b : BindingRow}

/-- Every part of a run from its start is a run. -/
theorem History.suffix : ∀ {since : List ProviderDb}, History env (since ++ db :: past) → History env (db :: past)
  | [], h => h
  | s :: since, h => by
      rw [List.cons_append] at h
      generalize hrest : since ++ db :: past = rest at h
      have hhistory : History env rest := by
        cases h with
        | opened l => cases since <;> cases hrest
        | step h hseen op => exact h
      rw [← hrest] at hhistory
      exact hhistory.suffix

theorem bindings_written {seen db' : ProviderDb} (h : Written env seen db db') (hb : b ∈ db'.bindings) :
    b ∈ db.bindings ∨ Admissible env db b ∧ db' = withMarkers env db b := by
  cases h with
  | binding b' hb' =>
      rcases List.mem_append.mp hb with hold | hnew
      · exact .inl hold
      · rw [List.mem_singleton.mp hnew]
        exact .inr ⟨hb', rfl⟩
  | _ => exact .inl hb

/-- **Every binding of a store was inserted at one place of the run.** -/
theorem History.inserted (h : History env (db :: past)) (hb : b ∈ db.bindings) :
    ∃ since before, InsertedAt env (db :: past) since before b := by
  generalize hall : db :: past = stores at h
  induction h generalizing db past with
  | opened l =>
      obtain ⟨rfl, -⟩ := List.cons.inj hall
      cases hb
  | @step db₀ seen past₀ h hseen op ih =>
      obtain ⟨rfl, -⟩ := List.cons.inj hall
      have hwritten : Written env seen db₀ (perform seen db₀ op) := perform_written h.kept.1.paired op
      rcases bindings_written hwritten hb with hold | ⟨hadmissible, hnew⟩
      · obtain ⟨since, before, hinserted⟩ := ih hold rfl
        obtain ⟨earlier, hsplit⟩ := hinserted.split
        refine ⟨perform seen db₀ op :: since, before, ⟨earlier, by rw [hsplit]; rfl⟩, ?_, hinserted.admissible⟩
        rw [List.getLast?_cons, hinserted.first]
        rfl
      · exact ⟨[perform seen db₀ op], db₀, ⟨past₀, rfl⟩, by rw [hnew]; rfl, hadmissible⟩

/-- A store since the insertion keeps its records, and what the insertion left behind. -/
theorem InsertedAt.since_kept (h : InsertedAt env stores since before b) (hrun : History env stores)
    {s : ProviderDb} (hs : s ∈ since) : Kept env s ∧ Marked s ∧ Grown (withMarkers env before b) s := by
  obtain ⟨earlier, rfl⟩ := h.split
  obtain ⟨later, older, rfl⟩ := List.append_of_mem hs
  rw [List.append_assoc, List.cons_append] at hrun
  have hpart := hrun.suffix
  obtain ⟨hkept, hgrown⟩ := hpart.kept
  refine ⟨hkept, hpart.marked, hgrown _ ?_⟩
  have hfirst := h.first
  rw [List.getLast?_append] at hfirst
  have hlast : (s :: older).getLast? = some (withMarkers env before b) := by
    cases hl : (s :: older).getLast? with
    | none => cases List.getLast?_eq_none_iff.mp hl
    | some x =>
        rw [hl, Option.some_or] at hfirst
        exact hfirst
  have hmem := List.mem_of_getLast? hlast
  rw [← List.cons_append]
  exact List.mem_append_left _ hmem

theorem InsertedAt.before_kept (h : InsertedAt env stores since before b) (hrun : History env stores) :
    Kept env before := by
  obtain ⟨earlier, rfl⟩ := h.split
  exact hrun.suffix.kept.1

/-- Of two stores since the insertion, the newest has grown from the other. -/
theorem InsertedAt.grown (h : InsertedAt env (db :: past) since before b) (hrun : History env (db :: past))
    {s : ProviderDb} (hs : s ∈ since) : Grown s db := by
  obtain ⟨earlier, hsplit⟩ := h.split
  refine hrun.kept.2 s ?_
  rw [hsplit]
  exact List.mem_append_left _ hs

theorem InsertedAt.newest_mem (h : InsertedAt env (db :: past) since before b) : db ∈ since := by
  obtain ⟨earlier, hsplit⟩ := h.split
  have hfirst := h.first
  cases since with
  | nil => cases hfirst
  | cons s rest =>
      rw [List.cons_append] at hsplit
      rw [(List.cons.inj hsplit).1]
      exact List.mem_cons_self

end Insertion

/-! ## 3. What the gate finds -/

/-- The rows the launch query joins. -/
structure Joined (db : ProviderDb) (store : Store (Tables ProviderDb)) (check : BindingGrantCheck)
    (p : BindingEvidence) (b : BindingRow) (r : RegistrationRow) : Prop where
  rows : p.binding = b.row ∧ p.columns = b.shown ∧ p.registration = r.shown
  binding : b ∈ db.bindings ∧ b.row.bindingId = check.bindingId
  registration : b.columns.providerRegistrationId = some r.registrationId ∧
    db.registration? r.registrationId = some r ∧ r.state = .registered
  evidence : p.conformance ∈ db.evidence
  own : p.conformance.registrationId = r.registrationId ∧ p.conformance.capability = b.columns.capability ∧
    p.conformance.contractHash.isSome = true ∧
    p.conformance.contractHash = b.columns.capabilityContractHash ∧ p.conformance.status = "pass"
  admitted : bindingAdmitted (launchStore db store) b.row r.shown p.conformance = true

/-- What the gate has found when it lets a binding pass. -/
structure Launched (env : LaunchEnv) (db : ProviderDb) (store : Store (Tables ProviderDb))
    (check : BindingGrantCheck) (p : BindingEvidence) (b : BindingRow) (r : RegistrationRow) : Prop where
  joined : Joined db store check p b r
  newest : latestConformanceEvidenceId env db check = some p.conformance.evidenceId
  receipt : launchReceiptMatches env p = true
  admission : verifiedProviderAdmission env db p check.checkedAt = .ok true
  conforming : conformanceValid env db p check.checkedAt = .ok true

section Gate

variable {env : LaunchEnv} {db : ProviderDb} {base : DocumentChecks ProviderDb}
  {store : Store (Tables ProviderDb)} {check : BindingGrantCheck}

theorem launchStore_provider : hasProviderStore (launchStore db store) = true := by
  unfold hasProviderStore migrated launchStore
  simp

/-- The two marks the query looks up. -/
theorem Joined.marks {p : BindingEvidence} {b : BindingRow} {r : RegistrationRow}
    (h : Joined db store check p b r) :
    (b.row.bindingId, p.conformance.evidenceId) ∈ db.admissionMarkers ∧
      providerEnabled (launchStore db store).core.other b.row r.shown = true := by
  have hadmitted := h.admitted
  unfold bindingAdmitted at hadmitted
  simp only [launchStore_provider, if_true, Bool.and_eq_true, List.contains_iff_mem] at hadmitted
  exact hadmitted.2

end Gate

/-! ## 4. One registered interval -/

section Interval

variable {env : ProviderEnv} {db before : ProviderDb} {past since : List ProviderDb} {b : BindingRow}

/-- The insert found the registration open, in its last epoch. -/
theorem Admissible.enablement (h : Admissible env db b) :
    ∃ id r revision, b.columns.providerRegistrationId = some id ∧ db.registration? id = some r ∧
      r.registrationId = id ∧ r.state = .registered ∧ db.lastEpoch? id = some revision := by
  have henabled := h.enabled
  unfold enabledNow boundRegistration at henabled
  rw [Option.any_eq_true] at henabled
  obtain ⟨r, hr, henabled⟩ := henabled
  obtain ⟨id, hid, hr⟩ := Option.bind_eq_some_iff.mp hr
  rw [Bool.and_eq_true, decide_eq_true_eq, List.any_eq_true] at henabled
  obtain ⟨hstate, e, -, he⟩ := henabled
  rw [Bool.and_eq_true, decide_eq_true_eq] at he
  have hkey := registration?_key hr
  rw [hkey] at he
  exact ⟨id, r, e.revision, hid, hr, hkey, hstate, he.2⟩

theorem epochsOf_grown {s s' : ProviderDb} (h : Grown s s') (id : String) :
    s.epochsOf id <+: s'.epochsOf id := h.epochs.filter _

/-- **One registered interval**: the registration has entered no epoch since the insertion. -/
theorem InsertedAt.interval (h : InsertedAt env (db :: past) since before b)
    (hrun : History env (db :: past)) {id : String} {r : RegistrationRow}
    (hid : b.columns.providerRegistrationId = some id) (hr : db.registration? id = some r)
    (hstate : r.state = .registered) {revision : Nat}
    (hmarker : ⟨b.row.bindingId, id, revision⟩ ∈ db.enablementMarkers)
    (hlast : db.lastEpoch? id = some revision) {s : ProviderDb} (hs : s ∈ since ++ [before]) :
    s.epochsOf id = before.epochsOf id ∧ ∃ r', s.registration? id = some r' ∧ r'.state = .registered := by
  obtain ⟨id', r₀, first, hid', hr₀, -, hstate₀, hfirst⟩ := h.admissible.enablement
  rw [hid] at hid'
  obtain rfl := Option.some.inj hid'
  have hbefore := h.before_kept hrun
  obtain ⟨hk, hm, hall⟩ := h.since_kept hrun h.newest_mem
  -- The mark of the insertion is the one the gate has found.
  have hmark : ⟨b.row.bindingId, id, first⟩ ∈ db.enablementMarkers := by
    refine hall.enablementMarkers.subset ?_
    unfold withMarkers
    rw [hid, Option.bind_some, hfirst]
    exact List.mem_append_right _ List.mem_cons_self
  have hsame : first = revision := congrArg Tasks.EnablementRow.revision
    (eq_of_key_eq hm.enablement hmark hmarker rfl)
  subst hsame
  have hgapless₀ := hbefore.epochs id r₀ hr₀
  have hgapless := hk.epochs id r hr
  have hlength : (db.epochsOf id).length = (before.epochsOf id).length := by
    obtain ⟨hmax₀, hpos₀⟩ := hgapless₀.lastRevision
    obtain ⟨hmax, hpos⟩ := hgapless.lastRevision
    have e₀ := hmax₀.symm.trans hfirst
    have e := hmax.symm.trans hlast
    rw [Option.some.injEq] at e₀ e
    omega
  have hgrown : Grown (withMarkers env before b) db := hall
  have hwhole : db.epochsOf id = before.epochsOf id :=
    ((epochsOf_grown hgrown id).eq_of_length hlength.symm).symm
  rcases List.mem_append.mp hs with hs | hs
  · obtain ⟨hks, -, hfrom⟩ := h.since_kept hrun hs
    have hto := h.grown hrun hs
    have hone : s.epochsOf id = before.epochsOf id := by
      have hle₁ := (epochsOf_grown hfrom id).length_le
      have hle₂ := (epochsOf_grown hto id).length_le
      have hlow : (withMarkers env before b).epochsOf id = before.epochsOf id := rfl
      rw [hlow] at hle₁
      exact ((epochsOf_grown hfrom id).eq_of_length (by rw [hlow]; omega)).symm
    refine ⟨hone, ?_⟩
    obtain ⟨r', hr', -⟩ := hfrom.registrations id r₀ hr₀
    refine ⟨r', hr', ?_⟩
    obtain ⟨e, he, hestate, -⟩ := hgapless.last
    obtain ⟨e', he', hestate', -⟩ := (hks.epochs id r' hr').last
    rw [hone, ← hwhole, he] at he'
    rw [← hestate', ← Option.some.inj he', hestate, hstate]
  · rw [List.mem_singleton.mp hs]
    exact ⟨rfl, r₀, hr₀, hstate₀⟩

end Interval

/-! ## 5. The trust source -/

/-- The source of the last decision effective at `t`, or the registration. -/
def sourceInForce (env : ProviderEnv) (db : ProviderDb) (id : String) (t : Int) : String :=
  ((((db.decisionsOf id).filter (effectiveBy env (some t))).getLast?).map
    TrustAdmissionRow.admissionId).getD id

section Trust

variable {env : ProviderEnv} {db s before : ProviderDb} {id pin : String} {t u : Int} {b : BindingRow}

/-- Read from the last decision on, the gate stops at the source in force. -/
theorem expectedSource_reverse {env : LaunchEnv} {as : List TrustAdmissionRow}
    (hread : ∀ a ∈ as, (env.instant a.admittedAt).isSome) :
    expectedSource env id t as.reverse =
      some ((((as.filter (effectiveBy env.toProviderEnv (some t))).getLast?).map
        TrustAdmissionRow.admissionId).getD id) := by
  induction as using List.reverseRecOn with
  | nil => rfl
  | append_singleton as a ih =>
      obtain ⟨admitted, hadmitted⟩ := Option.isSome_iff_exists.mp
        (hread a (List.mem_append_right _ List.mem_cons_self))
      have heffective : effectiveBy env.toProviderEnv (some t) a = decide (admitted ≤ t) := by
        unfold effectiveBy
        rw [hadmitted]
        rfl
      rw [List.reverse_append, List.reverse_singleton, List.singleton_append, expectedSource, hadmitted,
        List.filter_append]
      by_cases hle : admitted ≤ t
      · rw [List.filter_cons_of_pos (by rw [heffective]; exact decide_eq_true hle), List.getLast?_append]
        show (if admitted ≤ t then _ else _) = _
        rw [if_pos hle]
        rfl
      · rw [List.filter_cons_of_neg (by rw [heffective]; simpa using hle), List.filter_nil, List.append_nil]
        show (if admitted ≤ t then _ else _) = _
        rw [if_neg hle]
        exact ih fun c hc => hread c (List.mem_append_left _ hc)

end Trust

/-! ## 6. The evidence -/

/-- The result has not expired at `t`. -/
def Unexpired (env : ProviderEnv) (e : ConformanceRow) (t : Int) : Prop :=
  ∃ evidence tested, env.readDocument .evidence e.evidenceJson = .ok evidence ∧
    testedInstant env e = some tested ∧ expiryHolds env evidence tested t = true

/-- The result is the one newest of its suite at `t`, a pass, and has not expired. -/
structure NewestPass (env : ProviderEnv) (db : ProviderDb) (e : ConformanceRow) (t : Int) : Prop where
  newest : NewestOf env t (rivals db e) e
  passed : e.status = "pass"
  unexpired : Unexpired env e t

section Evidence

variable {env : ProviderEnv} {db s : ProviderDb} {e : ConformanceRow} {t u : Int}

theorem expiryHolds_mono {evidence : Json} {tested : Int} (hu : u ≤ t)
    (h : expiryHolds env evidence tested t = true) : expiryHolds env evidence tested u = true := by
  unfold expiryHolds at h ⊢
  split at h
  · rfl
  · rfl
  · rw [Option.any_eq_true] at h ⊢
    obtain ⟨expires, hexpires, hlt⟩ := h
    rw [Bool.and_eq_true, decide_eq_true_eq, decide_eq_true_eq] at hlt
    refine ⟨expires, hexpires, ?_⟩
    rw [Bool.and_eq_true, decide_eq_true_eq, decide_eq_true_eq]
    omega
  · cases h

/-- A pass that is the newest at `t` was so at every time from its own on. -/
theorem NewestPass.earlier (h : NewestPass env db e t) (hpart : s.evidence <+: db.evidence) (he : e ∈ s.evidence)
    {tested : Int} (htested : testedInstant env e = some tested) (hfrom : tested ≤ u) (hu : u ≤ t) :
    NewestPass env s e u := by
  obtain ⟨⟨hin, tested', htested', -, hall⟩, hpass, evidence, tested'', hread, htested'', hexpiry⟩ := h
  rw [htested] at htested' htested''
  obtain rfl := Option.some.inj htested'
  obtain rfl := Option.some.inj htested''
  refine ⟨⟨List.mem_filter.mpr ⟨he, (List.mem_filter.mp hin).2⟩, tested, htested, hfrom, ?_⟩, hpass,
    evidence, tested, hread, htested, expiryHolds_mono hu hexpiry⟩
  intro o ho hne other hot hle
  have ho' : o ∈ rivals db e := (hpart.filter _).subset ho
  exact hall o ho' hne other hot (by omega)

end Evidence

/-! ## 7. What the gate has seen -/

section Seen

variable {env : LaunchEnv} {db : ProviderDb} {store : Store (Tables ProviderDb)} {check : BindingGrantCheck}
  {p : BindingEvidence} {b : BindingRow} {r : RegistrationRow}

/-- The trust source the gate expects is the one in force, and the receipt pins it. -/
theorem Launched.source (hk : Kept env.toProviderEnv db) (h : Launched env db store check p b r) :
    ∃ t pin, env.instant check.checkedAt = some t ∧
      trustPin env.toProviderEnv b.columns.bindingJson = some pin ∧
      sourceInForce env.toProviderEnv db r.registrationId t = pin := by
  have hadmission := h.admission
  unfold verifiedProviderAdmission at hadmission
  split at hadmission
  · cases hadmission
  · rw [bind_eq_ok'] at hadmission
    obtain ⟨compatible, -, hadmission⟩ := hadmission
    split at hadmission
    · cases hadmission
    · split at hadmission
      · next id t hid ht =>
        have hbound : id = r.registrationId := by
          rw [h.joined.rows.2.1] at hid
          have hid : b.columns.providerRegistrationId = some id := hid
          rw [h.joined.registration.1] at hid
          exact (Option.some.inj hid).symm
        subst hbound
        rw [hk.admissionsOf, expectedSource_reverse (hk.decisions _ r h.joined.registration.2.1).readable]
          at hadmission
        have hpinned := Except.ok.inj hadmission
        rw [Bool.and_eq_true, decide_eq_true_eq, decide_eq_true_eq] at hpinned
        have hpin := hpinned.2
        rw [h.joined.rows.2.1] at hpin
        exact ⟨t, _, ht, hpin, rfl⟩
      · cases hadmission

end Seen

/-! ## 8. Withdrawal -/

section Laws

variable (env : ProviderEnv)

/-- No decision has the identity of its registration; the two are digests under different domains. -/
def Apart (db : ProviderDb) (id : String) : Prop := ∀ a ∈ db.decisionsOf id, a.admissionId ≠ id

/-- The binding is in force in this store at `u`. -/
structure InForce (before s : ProviderDb) (b : BindingRow) (id : String) (e : ConformanceRow) (u : Int) :
    Prop where
  /-- No epoch since the insertion, and the registration is open. -/
  interval : s.epochsOf id = before.epochsOf id ∧ ∃ r, s.registration? id = some r ∧ r.state = .registered
  trust : trustPin env b.columns.bindingJson = some (sourceInForce env s id u)
  evidence : e ∈ s.evidence ∧ evidencePin env b.columns.bindingJson = some e.evidenceId ∧ NewestPass env s e u

/-- What a binding that passes at `t` rests on. -/
structure Standing (stores : List ProviderDb) (db : ProviderDb) (b : BindingRow) (t : Int) : Prop where
  inserted : ∃ since before id e created, InsertedAt env stores since before b ∧
    b.columns.providerRegistrationId = some id ∧ env.instant b.columns.createdAt = some created ∧
    created ≤ t ∧ InForce env before db b id e t ∧
    (Apart db id → ∀ s ∈ since ++ [before], ∀ u, created ≤ u → u ≤ t → InForce env before s b id e u)

/-- What retires a binding. -/
inductive Retired (db : ProviderDb) (b : BindingRow) (t : Int) : Prop
  | disabled (id : String) (r : RegistrationRow) (hid : b.columns.providerRegistrationId = some id)
      (hr : db.registration? id = some r) (hstate : r.state ≠ .registered)
  | superseded (id : String) (created : Int) (hid : b.columns.providerRegistrationId = some id)
      (hcreated : env.instant b.columns.createdAt = some created) (hle : created ≤ t)
      (hsource : trustPin env b.columns.bindingJson ≠ some (sourceInForce env db id t))
  | rivalled (e o : ConformanceRow) (tested other : Int) (he : e ∈ db.evidence)
      (hpin : evidencePin env b.columns.bindingJson = some e.evidenceId) (ho : o ∈ rivals db e) (hne : o ≠ e)
      (htested : testedInstant env e = some tested) (hother : testedInstant env o = some other)
      (hnewer : tested ≤ other) (hby : other ≤ t)
  | expired (e : ConformanceRow) (he : e ∈ db.evidence)
      (hpin : evidencePin env b.columns.bindingJson = some e.evidenceId) (hexpired : ¬Unexpired env e t)

end Laws

section Withdrawal

variable {env : LaunchEnv} {db : ProviderDb} {past : List ProviderDb}

end Withdrawal

end Aios.Providers
