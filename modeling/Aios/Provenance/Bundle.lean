/-
  File:      Aios/Provenance/Bundle.lean
  Subject:   AN ACCEPTED BUNDLE IS BOUND TO ITS MANIFEST AND COHERENT.

  * `RecordAccepted` -- what the loop has checked of one record, at its place;
  * `Separates` -- RFC 8785 and SHA-256 tell the hashed views apart;
  * `CoherentBundle` -- sequences 1, 2, …, one Task alias, one event alias for each record, one
    namespace for each alias, the creation first, and the revisions 1, 2, …;
  * **`accepted_bundle_bound`** -- for every text that is offered as a bundle.
-/
import Aios.Provenance.Append
import Aios.Provenance.Projection
import Mathlib.Data.List.Perm.Subperm

namespace Aios.Provenance

open Lib

variable {env : JournalEnv} {manifest : ProjectionManifest} {verifiedAt : String}

/-! ## 1. One record -/

/-- What the loop has checked of a record at its place, and what it goes on with. -/
structure RecordAccepted (env : JournalEnv) (manifest : ProjectionManifest) (p : ProjectionProgress)
    (record : ProjectedRecord) (q : ProjectionProgress) : Prop where
  schemaVersion : record.schemaVersion = Provenance.schemaVersion
  profile : record.projectionHashProfile = Provenance.projectionHashProfile
  bundle : record.bundleId = manifest.bundleId
  sequence : record.sequence = p.index + 1
  previous : record.previousProjectionHash = p.previous
  valid : validateProjectedEvent env record.projectedEvent = .ok ()
  namespaces : collectAliasNamespaces record.projectedEvent p.namespaces = some q.namespaces
  task : identityAlias record.projectedEvent "task_id" = q.taskAlias ∧ q.taskAlias.isSome = true ∧
    ∀ first, p.taskAlias = some first → q.taskAlias = some first
  id : ∃ id, identityAlias record.projectedEvent "event_id" = some id ∧ id ∉ p.eventAliases ∧
    q.eventAliases = id :: p.eventAliases
  created : p.index = 0 ↔ stringField record.projectedEvent "event_type" = some "task.created"
  hash : hashProjectedRecord env.digest manifest.bundleId record.sequence p.previous
    record.projectedEvent = .ok record.projectionHash
  revision : advanceTaskRevision p.latest record.projectedEvent = .ok q.latest
  next : q.index = p.index + 1 ∧ q.previous = some record.projectionHash

theorem verifyProjectedRecord_ok {p q : ProjectionProgress} {record : ProjectedRecord}
    (h : verifyProjectedRecord env manifest verifiedAt p record = .ok q) :
    RecordAccepted env manifest p record q := by
  unfold verifyProjectedRecord at h
  simp only [bind_eq_ok', exists_unit, rejectIf_ok, expect_ok, mapError_eq_ok] at h
  obtain ⟨hplace, namespaces, hnamespaces, task, htask, id, hid, hidentity, computed, hcomputed, hhash,
    latest, hlatest, h⟩ := h
  obtain rfl := Except.ok.inj h
  simp only [Bool.not_eq_false', recordInPlace, Bool.and_eq_true, decide_eq_true_eq] at hplace
  obtain ⟨⟨⟨⟨⟨hschema, hprofile⟩, hbundle⟩, hsequence⟩, hprevious⟩, hvalid⟩ := hplace
  simp only [Bool.not_eq_false', identityNew, Bool.and_eq_true, decide_eq_true_eq,
    Bool.not_eq_true'] at hidentity
  obtain ⟨⟨hcreated, hfirst⟩, hfresh⟩ := hidentity
  have hhash : computed = record.projectionHash := by simpa using hhash
  subst hhash
  obtain ⟨u, hu⟩ := passes_iff.mp hvalid
  refine ⟨hschema, hprofile, hbundle, hsequence, hprevious, hu, hnamespaces, ⟨htask, rfl, ?_⟩,
    ⟨id, hid, ?_, rfl⟩, ?_, hcomputed, hlatest, rfl, rfl⟩
  · intro first e
    rw [e] at hfirst
    simpa using (of_decide_eq_true hfirst).symm
  · simpa using hfresh
  · simpa using hcreated

/-! ## 2. Aliases -/

/-- An alias object with this alias and namespace stands in the value, at any depth. -/
inductive AliasIn (digest name : String) : Json → Prop
  | here {members : List (String × Json)} : isAlias members = true →
      textOf members "alias" = some digest → textOf members "namespace" = some name →
      AliasIn digest name (.obj members)
  | element {values : List Json} {v : Json} : v ∈ values → AliasIn digest name v →
      AliasIn digest name (.arr values)
  | member {members : List (String × Json)} {k : String} {v : Json} : (k, v) ∈ members →
      AliasIn digest name v → AliasIn digest name (.obj members)

variable {members : List (String × Json)} {v w event : Json} {path : List String}

theorem lookup_of_nodup (hn : (members.map Prod.fst).Nodup)
    {m : String × Json} (hm : m ∈ members) : members.lookup m.1 = some m.2 := by
  induction members with
  | nil => cases hm
  | cons p rest ih =>
      obtain ⟨key, value⟩ := p
      rw [List.map_cons, List.nodup_cons] at hn
      rw [Json.lookup_cons_ite]
      rcases List.mem_cons.mp hm with rfl | hrest
      · exact if_pos rfl
      · have hmem : m.1 ∈ rest.map Prod.fst := List.mem_map_of_mem hrest
        have hne : m.1 ≠ key := fun e => hn.1 (e ▸ hmem)
        rw [if_neg hne]
        exact ih hn.2 hrest

/-- An object with as many members as it has texts at distinct keys holds only these. -/
theorem texts_only {keys : List String} (hn : keys.Nodup)
    (hl : members.length = keys.length) (ht : ∀ k ∈ keys, (textOf members k).isSome = true) :
    ∀ m ∈ members, m.1 ∈ keys ∧ ∃ text, m.2 = .str text := by
  have hsub : keys ⊆ members.map Prod.fst := by
    intro k hk
    obtain ⟨text, htext⟩ := Option.isSome_iff_exists.mp (ht k hk)
    obtain ⟨v, hv, _⟩ := Option.bind_eq_some_iff.mp htext
    obtain ⟨l, r, e, _⟩ := List.lookup_eq_some_iff.mp hv
    rw [e]
    simp
  have hperm : keys.Perm (members.map Prod.fst) :=
    (List.subperm_of_subset hn hsub).perm_of_length_le (by rw [List.length_map, hl])
  have hnodup : (members.map Prod.fst).Nodup := hperm.nodup_iff.mp hn
  intro m hm
  have hkey : m.1 ∈ keys := hperm.mem_iff.mpr (List.mem_map_of_mem hm)
  refine ⟨hkey, ?_⟩
  obtain ⟨text, htext⟩ := Option.isSome_iff_exists.mp (ht m.1 hkey)
  have hlookup : members.lookup m.1 = some m.2 := lookup_of_nodup hnodup hm
  rw [textOf, hlookup, Option.bind_some] at htext
  cases hv : m.2 with
  | str s => exact ⟨s, rfl⟩
  | _ =>
      rw [hv] at htext
      cases htext

theorem alias_texts (ha : isAlias members = true) (h : validateAlias members = .ok ()) :
    ∀ m ∈ members, m.1 ∈ ["kind", "version", "alias", "namespace"] ∧ ∃ text, m.2 = .str text := by
  unfold validateAlias at h
  rw [rejectIf_ok] at h
  simp only [Bool.or_eq_false_iff, decide_eq_false_iff_not, not_not, Bool.not_eq_false'] at h
  obtain ⟨⟨⟨hl, hversion⟩, halias⟩, hname⟩ := h
  have hkind : textOf members "kind" = some "bundle-local-alias" := of_decide_eq_true ha
  obtain ⟨d, hd, _⟩ := (Option.any_eq_true _ _).mp halias
  obtain ⟨n, hn, _⟩ := (Option.any_eq_true _ _).mp hname
  refine texts_only (by decide) hl ?_
  intro k hk
  simp only [List.mem_cons, List.not_mem_nil, or_false] at hk
  rcases hk with rfl | rfl | rfl | rfl
  · rw [hkind]
    rfl
  · rw [hversion]
    rfl
  · rw [hd]
    rfl
  · rw [hn]
    rfl

theorem commitment_texts (h : isPrivateCommitment members = true) :
    ∀ m ∈ members, m.1 ∈ ["kind", "version", "algorithm", "field", "commitment"] ∧
      ∃ text, m.2 = .str text := by
  unfold isPrivateCommitment at h
  simp only [Bool.and_eq_true, decide_eq_true_eq] at h
  obtain ⟨⟨⟨⟨⟨hl, hkind⟩, hversion⟩, halgorithm⟩, hfield⟩, hcommitment⟩ := h
  obtain ⟨f, hf, _⟩ := (Option.any_eq_true _ _).mp hfield
  obtain ⟨c, hc, _⟩ := (Option.any_eq_true _ _).mp hcommitment
  refine texts_only (by decide) hl ?_
  intro k hk
  simp only [List.mem_cons, List.not_mem_nil, or_false] at hk
  rcases hk with rfl | rfl | rfl | rfl | rfl
  · rw [hkind]
    rfl
  · rw [hversion]
    rfl
  · rw [halgorithm]
    rfl
  · rw [hf]
    rfl
  · rw [hc]
    rfl

theorem shapeElements_mem {values shapes : List Json}
    (h : shapeElements env path values = .ok shapes) (hv : v ∈ values) :
    ∃ w, projectedSourceShape env path v = .ok w := by
  induction values generalizing shapes with
  | nil => cases hv
  | cons value rest ih =>
      simp only [shapeElements, bind_eq_ok'] at h
      obtain ⟨w, hw, ws, hws, _⟩ := h
      rcases List.mem_cons.mp hv with rfl | hv
      · exact ⟨w, hw⟩
      · exact ih hws hv

theorem shapeMembers_mem {members shapes : List (String × Json)}
    (h : shapeMembers env path members = .ok shapes) {k : String} (hv : (k, v) ∈ members) :
    ∃ w, projectedSourceShape env (k :: path) v = .ok w := by
  induction members generalizing shapes with
  | nil => cases hv
  | cons m rest ih =>
      obtain ⟨key, value⟩ := m
      simp only [shapeMembers, bind_eq_ok'] at h
      obtain ⟨w, hw, ws, hws, _⟩ := h
      rcases List.mem_cons.mp hv with e | hv
      · obtain ⟨rfl, rfl⟩ := Prod.mk.inj e
        exact ⟨w, hw⟩
      · exact ih hws hv

theorem aliasesOfElements_mem {values : List Json} {found : List (String × String)}
    (h : aliasesOfElements values = some found) (hv : v ∈ values) :
    ∃ l, aliasesOf v = some l ∧ l ⊆ found := by
  induction values generalizing found with
  | nil => cases hv
  | cons value rest ih =>
      obtain ⟨l, hl, h⟩ := Option.bind_eq_some_iff.mp h
      obtain ⟨r, hr, rfl⟩ := Option.map_eq_some_iff.mp h
      rcases List.mem_cons.mp hv with rfl | hv
      · exact ⟨l, hl, List.subset_append_left _ _⟩
      · obtain ⟨l', hl', hsub⟩ := ih hr hv
        exact ⟨l', hl', List.Subset.trans hsub (List.subset_append_right _ _)⟩

theorem aliasesOfMembers_mem {found : List (String × String)}
    (h : aliasesOfMembers members = some found) {k : String} (hv : (k, v) ∈ members) :
    ∃ l, aliasesOf v = some l ∧ l ⊆ found := by
  induction members generalizing found with
  | nil => cases hv
  | cons m rest ih =>
      obtain ⟨key, value⟩ := m
      obtain ⟨l, hl, h⟩ := Option.bind_eq_some_iff.mp h
      obtain ⟨r, hr, rfl⟩ := Option.map_eq_some_iff.mp h
      rcases List.mem_cons.mp hv with e | hv
      · obtain ⟨rfl, rfl⟩ := Prod.mk.inj e
        exact ⟨l, hl, List.subset_append_left _ _⟩
      · obtain ⟨l', hl', hsub⟩ := ih hr hv
        exact ⟨l', hl', List.Subset.trans hsub (List.subset_append_right _ _)⟩

/-- **Every alias of a shaped value is found.** -/
theorem AliasIn.found {digest name : String} (h : AliasIn digest name v)
    {shape : Json} (hs : projectedSourceShape env path v = .ok shape) {found : List (String × String)}
    (hf : aliasesOf v = some found) : (digest, name) ∈ found := by
  induction h generalizing path shape found with
  | here ha hd hn =>
      simp only [aliasesOf, ha, if_true, hd, hn, Option.bind_some, Option.map_some] at hf
      rw [← Option.some.inj hf]
      exact List.mem_singleton.mpr rfl
  | element hv _ ih =>
      simp only [projectedSourceShape, bind_eq_ok', exists_unit] at hs
      obtain ⟨_, shapes, hshapes, _⟩ := hs
      obtain ⟨w, hw⟩ := shapeElements_mem hshapes hv
      obtain ⟨l, hl, hsub⟩ := aliasesOfElements_mem hf hv
      exact hsub (ih hw hl)
  | @member members k v hv ha ih =>
      -- a commitment and an alias hold texts only
      have hplain : ∀ text, v ≠ .str text := by
        rintro text rfl
        cases ha
      rw [projectedSourceShape] at hs
      split at hs
      · next hc =>
        obtain ⟨_, text, e⟩ := commitment_texts hc (k, v) hv
        exact absurd e (hplain text)
      · split at hs
        · next hal =>
          simp only [bind_eq_ok', exists_unit] at hs
          obtain ⟨_, text, e⟩ := alias_texts hal hs.1 (k, v) hv
          exact absurd e (hplain text)
        · next hal =>
          simp only [bind_eq_ok', exists_unit] at hs
          obtain ⟨_, shapes, hshapes, _⟩ := hs
          obtain ⟨w, hw⟩ := shapeMembers_mem hshapes hv
          simp only [aliasesOf, hal, Bool.false_eq_true, if_false] at hf
          obtain ⟨l, hl, hsub⟩ := aliasesOfMembers_mem hf hv
          exact hsub (ih hw hl)

/-! ## 3. Revisions -/

theorem shape_asU64 (h : projectedSourceShape env path v = .ok w) : asU64 w = asU64 v := by
  cases v with
  | null => rw [← Except.ok.inj h]
  | bool b => rw [← Except.ok.inj h]
  | num n => rw [← Except.ok.inj h]
  | str text =>
      rw [projectedSourceShape] at h
      split at h
      · rw [← Except.ok.inj h]
      · cases h
  | arr values =>
      simp only [projectedSourceShape, bind_eq_ok', exists_unit] at h
      obtain ⟨_, shapes, _, h⟩ := h
      rw [← Except.ok.inj h]
      rfl
  | obj members =>
      rw [projectedSourceShape] at h
      split at h
      · rw [← Except.ok.inj h]
      · split at h
        · simp only [bind_eq_ok', exists_unit] at h
          obtain ⟨_, _, h⟩ := h
          rw [← Except.ok.inj h]
          rfl
        · simp only [bind_eq_ok', exists_unit] at h
          obtain ⟨_, shapes, _, h⟩ := h
          rw [← Except.ok.inj h]
          rfl

theorem shapeMembers_lookup {members shapes : List (String × Json)} (key : String)
    (h : shapeMembers env path members = .ok shapes) :
    (members.lookup key = none ∧ shapes.lookup key = none) ∨
      ∃ v w, members.lookup key = some v ∧ shapes.lookup key = some w ∧
        projectedSourceShape env (key :: path) v = .ok w := by
  induction members generalizing shapes with
  | nil =>
      rw [← Except.ok.inj h]
      exact .inl ⟨rfl, rfl⟩
  | cons m rest ih =>
      obtain ⟨k, value⟩ := m
      simp only [shapeMembers, bind_eq_ok'] at h
      obtain ⟨w, hw, ws, hws, h⟩ := h
      rw [← Except.ok.inj h, Json.lookup_cons_ite, Json.lookup_cons_ite]
      by_cases e : key = k
      · subst e
        rw [if_pos rfl, if_pos rfl]
        exact .inr ⟨value, w, rfl, rfl, hw⟩
      · rw [if_neg e, if_neg e]
        exact ih hws

/-- What a value and its shape hold at a key: nothing, or a value and its shape; an alias holds
    texts at its own keys only, and its shape is a text. -/
theorem shape_get (key : String) (h : projectedSourceShape env path v = .ok w) :
    (v.get? key = none ∧ w.get? key = none) ∨ (∃ x y, v.get? key = some x ∧ w.get? key = some y ∧
        (x = y ∨ projectedSourceShape env (key :: path) x = .ok y)) ∨
      (key ∈ ["kind", "version", "alias", "namespace"] ∧ (∃ text, v.get? key = some (.str text)) ∧
        w.get? key = none) := by
  cases v with
  | null => exact .inl ⟨rfl, by rw [← Except.ok.inj h]; rfl⟩
  | bool b => exact .inl ⟨rfl, by rw [← Except.ok.inj h]; rfl⟩
  | num n => exact .inl ⟨rfl, by rw [← Except.ok.inj h]; rfl⟩
  | str text =>
      rw [projectedSourceShape] at h
      split at h
      · exact .inl ⟨rfl, by rw [← Except.ok.inj h]; rfl⟩
      · cases h
  | arr values =>
      simp only [projectedSourceShape, bind_eq_ok', exists_unit] at h
      obtain ⟨_, shapes, _, h⟩ := h
      exact .inl ⟨rfl, by rw [← Except.ok.inj h]; rfl⟩
  | obj members =>
      rw [projectedSourceShape] at h
      split at h
      · rw [← Except.ok.inj h]
        cases hv : (Json.obj members).get? key with
        | none => exact .inl ⟨rfl, rfl⟩
        | some x => exact .inr (.inl ⟨x, x, rfl, rfl, .inl rfl⟩)
      · split at h
        · next hal =>
          simp only [bind_eq_ok', exists_unit] at h
          obtain ⟨hvalid, _, h⟩ := h
          rw [← Except.ok.inj h]
          cases hv : (Json.obj members).get? key with
          | none => exact .inl ⟨rfl, rfl⟩
          | some x =>
              obtain ⟨l, r, e, _⟩ := List.lookup_eq_some_iff.mp (show members.lookup key = some x from hv)
              have hm : (key, x) ∈ members := by rw [e]; simp
              obtain ⟨hkey, text, hx⟩ := alias_texts hal hvalid (key, x) hm
              refine .inr (.inr ⟨hkey, ⟨text, ?_⟩, rfl⟩)
              rw [← hx]
        · simp only [bind_eq_ok', exists_unit] at h
          obtain ⟨_, shapes, hshapes, h⟩ := h
          rw [← Except.ok.inj h]
          rcases shapeMembers_lookup key hshapes with hnone | ⟨x, y, hx, hy, hxy⟩
          · exact .inl hnone
          · exact .inr (.inl ⟨x, y, hx, hy, .inr hxy⟩)

/-- Numbers at a key are those of the shape. -/
theorem shape_number (key : String) (h : projectedSourceShape env path v = .ok w) :
    (w.get? key).bind asU64 = (v.get? key).bind asU64 := by
  rcases shape_get key h with ⟨hv, hw⟩ | ⟨x, y, hv, hw, hxy⟩ | ⟨_, ⟨text, hv⟩, hw⟩
  · rw [hv, hw]
  · rw [hv, hw, Option.bind_some, Option.bind_some]
    rcases hxy with rfl | hxy
    · rfl
    · exact shape_asU64 hxy
  · rw [hv, hw]
    rfl

theorem shape_transition (key : String) (h : projectedSourceShape env [] v = .ok w) :
    (pointer w ["task_transition", key]).bind asU64 = (pointer v ["task_transition", key]).bind asU64 := by
  unfold pointer
  rcases shape_get "task_transition" h with ⟨hv, hw⟩ | ⟨x, y, hv, hw, hxy⟩ | ⟨hkey, _⟩
  · rw [hv, hw]
  · rw [hv, hw, Option.bind_some, Option.bind_some, pointer_one, pointer_one]
    rcases hxy with rfl | hxy
    · rfl
    · exact shape_number key hxy
  · exact absurd hkey (by decide)

theorem shape_eventType (h : projectedSourceShape env [] v = .ok w) {type : String}
    (ht : stringField v "event_type" = some type) : stringField w "event_type" = some type := by
  obtain ⟨x, hx, hstr⟩ := Option.bind_eq_some_iff.mp ht
  rcases shape_get "event_type" h with ⟨hv, hw⟩ | ⟨x', y, hv, hw, hxy⟩ | ⟨hkey, _⟩
  · rw [hv] at hx
    cases hx
  · rw [hx] at hv
    obtain rfl := Option.some.inj hv
    cases x with
    | str text =>
        obtain rfl : text = type := Option.some.inj hstr
        rcases hxy with rfl | hxy
        · rw [stringField, hw]
          rfl
        · rw [projectedSourceShape] at hxy
          split at hxy
          · rw [stringField, hw, ← Except.ok.inj hxy]
            rfl
          · cases hxy
    | _ => cases hstr
  · exact absurd hkey (by decide)

/-- A projected event that passes moves the revision as its source does. -/
theorem validateProjectedEvent_step (h : validateProjectedEvent env event = .ok ()) :
    validateRevisionStep event = .ok () := by
  unfold validateProjectedEvent at h
  simp only [bind_eq_ok', exists_unit] at h
  obtain ⟨_, shape, hshape, hcontract, _⟩ := h
  unfold validateEventContract at hcontract
  simp only [bind_eq_ok', exists_unit] at hcontract
  obtain ⟨_, _, _, _, _, _, _, _, _, _, hstep, _⟩ := hcontract
  by_cases htype : stringField event "event_type" = some "task.transitioned"
  · unfold validateRevisionStep at hstep ⊢
    simp only [transition_member, shape_transition _ hshape, shape_eventType hshape htype] at hstep
    simp only [transition_member, htype]
    exact hstep
  · unfold validateRevisionStep
    rw [rejectIf_ok]
    simp [htype]

/-! ## 4. The loop -/

/-- The loop accepts the records one after the other. -/
inductive Accepts (env : JournalEnv) (manifest : ProjectionManifest) :
    ProjectionProgress → List ProjectedRecord → ProjectionProgress → Prop
  | nil {p : ProjectionProgress} : Accepts env manifest p [] p
  | cons {p q r : ProjectionProgress} {record : ProjectedRecord} {rest : List ProjectedRecord} :
      RecordAccepted env manifest p record q → Accepts env manifest q rest r →
      Accepts env manifest p (record :: rest) r

theorem accepts_of_loop {p q : ProjectionProgress} {records : List ProjectedRecord}
    (h : verifyProjectedLoop env manifest verifiedAt p records = .ok q) :
    Accepts env manifest p records q := by
  induction records generalizing p with
  | nil =>
      obtain rfl := Except.ok.inj h
      exact .nil
  | cons record rest ih =>
      simp only [verifyProjectedLoop, bind_eq_ok'] at h
      obtain ⟨next, hnext, h⟩ := h
      exact .cons (verifyProjectedRecord_ok hnext) (ih h)

section Loop

variable {p q : ProjectionProgress} {records : List ProjectedRecord}

theorem Accepts.linked (h : Accepts env manifest p records q) :
    HashChain.Linked ProjectedRecord.projectionHash ProjectedRecord.previousProjectionHash p.previous
        records ∧
      HashChain.head ProjectedRecord.projectionHash p.previous records = q.previous := by
  induction h with
  | nil => exact ⟨trivial, rfl⟩
  | cons hr _ ih =>
      rw [hr.next.2] at ih
      exact ⟨⟨hr.previous, ih.1⟩, ih.2⟩

theorem Accepts.each (h : Accepts env manifest p records q) :
    ∀ record ∈ records, ∃ p q, RecordAccepted env manifest p record q := by
  induction h with
  | nil => exact fun r hr => by cases hr
  | cons hr _ ih =>
      intro record hmem
      rcases List.mem_cons.mp hmem with rfl | hmem
      · exact ⟨_, _, hr⟩
      · exact ih record hmem

theorem Accepts.sequences (h : Accepts env manifest p records q) :
    records.map ProjectedRecord.sequence = List.range' (p.index + 1) records.length := by
  induction h with
  | nil => rfl
  | cons hr _ ih =>
      rw [List.map_cons, hr.sequence, ih, hr.next.1, List.length_cons, List.range'_succ]

theorem Accepts.task (h : Accepts env manifest p records q) :
    (∀ first, p.taskAlias = some first → q.taskAlias = some first) ∧
      ∀ record ∈ records, identityAlias record.projectedEvent "task_id" = q.taskAlias := by
  induction h with
  | nil => exact ⟨fun first e => e, fun r hr => by cases hr⟩
  | @cons p q r record rest hr _ ih =>
      obtain ⟨halias, hsome, hfirst⟩ := hr.task
      refine ⟨fun first e => ih.1 first (hfirst first e), fun x hx => ?_⟩
      rcases List.mem_cons.mp hx with rfl | hx
      · obtain ⟨task, htask⟩ := Option.isSome_iff_exists.mp hsome
        rw [halias, htask]
        exact (ih.1 task htask).symm
      · exact ih.2 x hx

theorem Accepts.events (h : Accepts env manifest p records q) (hp : p.eventAliases.Nodup) :
    ∃ ids : List String, records.map (fun r => identityAlias r.projectedEvent "event_id") = ids.map some ∧
      ids.Nodup ∧ ∀ id ∈ ids, id ∉ p.eventAliases := by
  induction h with
  | nil => exact ⟨[], rfl, List.nodup_nil, fun id hid => by cases hid⟩
  | cons hr _ ih =>
      obtain ⟨id, hid, hfresh, hnext⟩ := hr.id
      rw [hnext] at ih
      obtain ⟨ids, hmap, hnodup, hrest⟩ := ih (List.nodup_cons.mpr ⟨hfresh, hp⟩)
      refine ⟨id :: ids, by rw [List.map_cons, List.map_cons, hid, hmap], ?_, ?_⟩
      · exact List.nodup_cons.mpr ⟨fun hmem => hrest id hmem List.mem_cons_self, hnodup⟩
      · intro x hx
        rcases List.mem_cons.mp hx with rfl | hx
        · exact hfresh
        · exact fun hmem => hrest x hx (List.mem_cons_of_mem _ hmem)

/-- No alias has two namespaces. -/
def OneNamespace (seen : List (String × String)) : Prop :=
  ∀ digest name name', (digest, name) ∈ seen → (digest, name') ∈ seen → name = name'

theorem seeAliases_ok {seen found seen' : List (String × String)} (h : seeAliases seen found = some seen')
    (hs : OneNamespace seen) : OneNamespace seen' ∧ seen ⊆ seen' ∧ found ⊆ seen' := by
  induction found generalizing seen with
  | nil =>
      obtain rfl := Option.some.inj h
      exact ⟨hs, List.Subset.refl _, List.nil_subset _⟩
  | cons pair rest ih =>
      obtain ⟨digest, name⟩ := pair
      rw [seeAliases] at h
      split at h
      · cases h
      · next hnone =>
        have hone : ∀ name', (digest, name') ∈ seen → name' = name := by
          intro name' hmem
          by_contra hne
          exact hnone (List.any_eq_true.mpr ⟨(digest, name'), hmem, by simp [hne]⟩)
        obtain ⟨hfinal, hkeep, hfound⟩ := ih h (by
          intro d n n' hn hn'
          rcases List.mem_cons.mp hn with e | hm
          · obtain ⟨rfl, rfl⟩ := Prod.mk.inj e
            rcases List.mem_cons.mp hn' with e' | hm'
            · exact ((Prod.mk.inj e').2).symm
            · exact (hone n' hm').symm
          · rcases List.mem_cons.mp hn' with e' | hm'
            · obtain ⟨rfl, rfl⟩ := Prod.mk.inj e'
              exact hone n hm
            · exact hs d n n' hm hm')
        refine ⟨hfinal, fun x hx => hkeep (List.mem_cons_of_mem _ hx), fun x hx => ?_⟩
        rcases List.mem_cons.mp hx with rfl | hx
        · exact hkeep List.mem_cons_self
        · exact hfound hx

theorem Accepts.namespaces (h : Accepts env manifest p records q) (hp : OneNamespace p.namespaces) :
    OneNamespace q.namespaces ∧ p.namespaces ⊆ q.namespaces ∧
      ∀ record ∈ records, ∃ found, aliasesOf record.projectedEvent = some found ∧ found ⊆ q.namespaces := by
  induction h with
  | nil => exact ⟨hp, List.Subset.refl _, fun r hr => by cases hr⟩
  | cons hr _ ih =>
      obtain ⟨found, hfound, hsee⟩ := Option.bind_eq_some_iff.mp hr.namespaces
      obtain ⟨hone, hkeep, hall⟩ := seeAliases_ok hsee hp
      obtain ⟨hfinal, hmore, hrest⟩ := ih hone
      refine ⟨hfinal, List.Subset.trans hkeep hmore, fun x hx => ?_⟩
      rcases List.mem_cons.mp hx with rfl | hx
      · exact ⟨found, hfound, List.Subset.trans hall hmore⟩
      · exact hrest x hx

theorem Accepts.revisions (h : Accepts env manifest p records q) :
    List.range' 1 ((p.latest.map Prod.fst).getD 0) ++
        records.filterMap (fun r => carriedRevision r.projectedEvent) =
      List.range' 1 ((q.latest.map Prod.fst).getD 0) := by
  induction h with
  | nil => exact List.append_nil _
  | @cons p q r record rest hr _ ih =>
      have hone := advance_counts (validateProjectedEvent_step hr.valid) hr.revision
      have hcons : (record :: rest).filterMap (fun r => carriedRevision r.projectedEvent) =
          (carriedRevision record.projectedEvent).toList ++
            rest.filterMap (fun r => carriedRevision r.projectedEvent) := by
        rw [List.filterMap_cons]
        cases carriedRevision record.projectedEvent <;> rfl
      rw [hcons, ← List.append_assoc, hone, ih]

theorem Accepts.created (h : Accepts env manifest p records q) :
    ∀ record ∈ records, record.sequence = 1 ↔
      stringField record.projectedEvent "event_type" = some "task.created" := by
  intro record hmem
  obtain ⟨p, q, hr⟩ := h.each record hmem
  rw [← hr.created, hr.sequence]
  omega

end Loop

/-! ## 5. The binding -/

/-- RFC 8785 and SHA-256 tell the given values apart. No function into 32 bytes does so for all. -/
structure Separates (digest : Digest) (views : Set Json) : Prop where
  canonical : ∀ a ∈ views, ∀ b ∈ views, ∀ bytes, digest.canonical a = .ok bytes →
    digest.canonical b = .ok bytes → a = b
  sha256 : ∀ a ∈ views, ∀ b ∈ views, ∀ p q, digest.canonical a = .ok p → digest.canonical b = .ok q →
    digest.sha256 (projectionRecordDomain ++ p) = digest.sha256 (projectionRecordDomain ++ q) → p = q

/-- The value hashed for a record. -/
def ProjectedRecord.view (record : ProjectedRecord) : Json :=
  projectedView record.bundleId record.sequence record.previousProjectionHash record.projectedEvent

def projectedViews (records : List ProjectedRecord) : Set Json := { v | ∃ r ∈ records, r.view = v }

theorem hashProjectedRecord_view {digest : Digest} {bundleId hash : String} {sequence : Nat}
    {previous : Option String}
    (h : hashProjectedRecord digest bundleId sequence previous event = .ok hash) :
    ∃ bytes, digest.canonical (projectedView bundleId sequence previous event) = .ok bytes ∧
      hash = digest.tagged projectionRecordDomain bytes := by
  unfold hashProjectedRecord hashCanonical at h
  simp only [bind_eq_ok', exists_unit, mapError_eq_ok] at h
  obtain ⟨_, _, bytes, hbytes, h⟩ := h
  exact ⟨bytes, hbytes, (Except.ok.inj h).symm⟩

/-- Equal views are views of one place, previous hash and event. -/
theorem projectedView_inj {bundle bundle' : String} {sequence sequence' : Nat}
    {previous previous' : Option String} {event event' : Json}
    (h : projectedView bundle sequence previous event = projectedView bundle' sequence' previous' event') :
    bundle = bundle' ∧ sequence = sequence' ∧ previous = previous' ∧ event = event' := by
  have hmember : ∀ key, (projectedView bundle sequence previous event).get? key =
      (projectedView bundle' sequence' previous' event').get? key := fun key => by rw [h]
  have hbundle := hmember "bundle_id"
  have hsequence := hmember "sequence"
  have hprevious := hmember "previous_projection_hash"
  have hevent := hmember "projected_event"
  simp only [projectedView, Json.get?, Json.asObj, Json.ofFields, Option.bind_some,
    Json.lookup_members_cons, String.reduceEq, if_false, if_true, Option.some_or, Option.some.injEq,
    Json.str.injEq, Json.num.injEq, Number.posInt.injEq] at hbundle hsequence hprevious hevent
  refine ⟨hbundle, hsequence, ?_, hevent⟩
  cases previous with
  | none => cases previous' with
    | none => rfl
    | some hash => cases hprevious
  | some hash => cases previous' with
    | none => cases hprevious
    | some hash' =>
        rw [Option.map_some, Option.map_some, Option.getD_some, Option.getD_some] at hprevious
        rw [Json.str.inj hprevious]

/-- **Equal hashes, equal records.** -/
theorem RecordAccepted.eq {p p' q q' : ProjectionProgress} {a b : ProjectedRecord} {views : Set Json}
    (ha : RecordAccepted env manifest p a q) (hb : RecordAccepted env manifest p' b q')
    (hs : Separates env.digest views) (hav : a.view ∈ views) (hbv : b.view ∈ views)
    (hhash : a.projectionHash = b.projectionHash) : a = b := by
  obtain ⟨x, hx, hxa⟩ := hashProjectedRecord_view ha.hash
  obtain ⟨y, hy, hyb⟩ := hashProjectedRecord_view hb.hash
  rw [← ha.bundle, ← ha.previous] at hx
  rw [← hb.bundle, ← hb.previous] at hy
  have hdigest := Digest.tagged_injective (hxa.symm.trans (hhash.trans hyb))
  obtain rfl := hs.sha256 _ hav _ hbv x y hx hy hdigest
  obtain ⟨hbundle, hsequence, hprevious, hevent⟩ :=
    projectedView_inj (hs.canonical _ hav _ hbv x hx hy)
  have hschema := ha.schemaVersion.trans hb.schemaVersion.symm
  have hprofile := ha.profile.trans hb.profile.symm
  cases a
  cases b
  simp only at hbundle hsequence hprevious hevent hschema hprofile hhash
  subst hbundle hsequence hprevious hevent hschema hprofile hhash
  rfl

/-- Two lists accepted under one manifest are equal. -/
theorem Accepts.bound {p p' q q' : ProjectionProgress} {records records' : List ProjectedRecord}
    (h : Accepts env manifest p records q) (h' : Accepts env manifest p' records' q')
    (hp : p.previous = none) (hp' : p'.previous = none) (hq : q.previous = q'.previous)
    (hs : Separates env.digest (projectedViews (records ++ records'))) : records = records' := by
  obtain ⟨hlinked, hhead⟩ := h.linked
  obtain ⟨hlinked', hhead'⟩ := h'.linked
  rw [hp] at hlinked hhead
  rw [hp'] at hlinked' hhead'
  have hall : List.Forall₂ Eq records records' := HashChain.pinned (fun a b e => by rw [e])
    (fun a ha b hb hhash => by
      obtain ⟨_, _, hra⟩ := h.each a ha
      obtain ⟨_, _, hrb⟩ := h'.each b hb
      exact hra.eq hrb hs ⟨a, List.mem_append_left _ ha, rfl⟩ ⟨b, List.mem_append_right _ hb, rfl⟩ hhash)
    hlinked hlinked' ((hhead.trans hq).trans hhead'.symm)
  rwa [List.forall₂_eq_eq_eq] at hall

/-! ## 6. The bundle -/

/-- The records tell one Task's history from its creation on. -/
structure CoherentBundle (records : List ProjectedRecord) : Prop where
  nonempty : records ≠ []
  sequences : records.map ProjectedRecord.sequence = List.range' 1 records.length
  task : ∃ task, ∀ r ∈ records, identityAlias r.projectedEvent "task_id" = some task
  events : ∃ ids : List String,
    records.map (fun r => identityAlias r.projectedEvent "event_id") = ids.map some ∧ ids.Nodup
  namespaces : ∀ digest name name', (∃ r ∈ records, AliasIn digest name r.projectedEvent) →
    (∃ r ∈ records, AliasIn digest name' r.projectedEvent) → name = name'
  created : ∀ r ∈ records, r.sequence = 1 ↔ stringField r.projectedEvent "event_type" = some "task.created"
  revisions : ∃ n, records.filterMap (fun r => carriedRevision r.projectedEvent) = List.range' 1 n

/-- A projected event that passes has a source shape. -/
theorem validateProjectedEvent_shape (h : validateProjectedEvent env event = .ok ()) :
    ∃ shape, projectedSourceShape env [] event = .ok shape := by
  unfold validateProjectedEvent at h
  simp only [bind_eq_ok', exists_unit] at h
  obtain ⟨_, shape, hshape, _⟩ := h
  exact ⟨shape, hshape⟩

theorem Accepts.coherent {q : ProjectionProgress} {records : List ProjectedRecord}
    (h : Accepts env manifest .start records q) (hne : records ≠ []) : CoherentBundle records := by
  refine ⟨hne, h.sequences, ?_, ?_, ?_, h.created, _, h.revisions⟩
  · obtain ⟨r, hr⟩ := List.exists_mem_of_ne_nil records hne
    obtain ⟨p', q', hacc⟩ := h.each r hr
    obtain ⟨task, htask⟩ := Option.isSome_iff_exists.mp hacc.task.2.1
    refine ⟨task, fun x hx => ?_⟩
    rw [h.task.2 x hx, ← h.task.2 r hr, hacc.task.1, htask]
  · obtain ⟨ids, hmap, hnodup, _⟩ := h.events List.nodup_nil
    exact ⟨ids, hmap, hnodup⟩
  · obtain ⟨hone, _, hall⟩ := h.namespaces (fun _ _ _ hn => by cases hn)
    have hseen : ∀ digest name, (∃ r ∈ records, AliasIn digest name r.projectedEvent) →
        (digest, name) ∈ q.namespaces := by
      rintro digest name ⟨r, hr, halias⟩
      obtain ⟨found, hfound, hsub⟩ := hall r hr
      obtain ⟨_, _, hacc⟩ := h.each r hr
      obtain ⟨shape, hshape⟩ := validateProjectedEvent_shape hacc.valid
      exact hsub (halias.found hshape hfound)
    exact fun digest name name' hn hn' => hone digest name name' (hseen _ _ hn) (hseen _ _ hn')

theorem verifyProjectedRecord_fails (p : ProjectionProgress) (record : ProjectedRecord) :
    FailsWith (fun r => r.valid = false) (verifyProjectedRecord env manifest verifiedAt p record) := by
  refine failsWith_bind (failsWith_rejectIf rfl) fun _ => failsWith_bind (failsWith_expect rfl) fun _ => ?_
  refine failsWith_bind (failsWith_expect rfl) fun _ => failsWith_bind (failsWith_expect rfl) fun _ => ?_
  refine failsWith_bind (failsWith_rejectIf rfl) fun _ => ?_
  refine failsWith_bind (failsWith_mapError fun _ => rfl) fun _ => ?_
  refine failsWith_bind (failsWith_rejectIf rfl) fun _ => ?_
  exact failsWith_bind (failsWith_mapError fun _ => rfl) fun _ => failsWith_ok

theorem verifyProjectedLoop_fails (p : ProjectionProgress) (records : List ProjectedRecord) :
    FailsWith (fun r => r.valid = false) (verifyProjectedLoop env manifest verifiedAt p records) := by
  induction records generalizing p with
  | nil => exact failsWith_ok
  | cons record rest ih => exact failsWith_bind (verifyProjectedRecord_fails p record) ih

/-- What the records of an accepted bundle have passed against its manifest. -/
theorem verifyProjectedRecords_valid {records : List ProjectedRecord}
    (h : (verifyProjectedRecords env manifest verifiedAt records).valid = true) :
    ∃ q, Accepts env manifest .start records q ∧ records.length = manifest.recordCount ∧
      records ≠ [] ∧ q.previous = some manifest.headProjectionHash := by
  unfold verifyProjectedRecords at h
  split at h
  · next result hresult =>
    unfold checkProjectedRecords at hresult
    simp only [bind_eq_ok', exists_unit, rejectIf_ok] at hresult
    obtain ⟨q, hloop, hmatch, _⟩ := hresult
    simp only [Bool.or_eq_false_iff, decide_eq_false_iff_not, not_not] at hmatch
    obtain ⟨⟨hlength, hlast⟩, hhead⟩ := hmatch
    refine ⟨q, accepts_of_loop hloop, hlength, fun e => ?_, hhead⟩
    rw [e] at hlast
    cases hlast
  · next result hresult =>
    -- a result that comes as an error says that the bundle is not valid
    have hfails : FailsWith (fun r => r.valid = false) (checkProjectedRecords env manifest verifiedAt records) :=
      failsWith_bind (verifyProjectedLoop_fails _ records) fun _ =>
        failsWith_bind (failsWith_rejectIf rfl) fun _ => failsWith_ok
    rw [hfails result hresult] at h
    cases h

/-- The offline verifier accepts the texts. -/
def BundleAccepted (env : ProjectionEnv) (manifestJson recordsJsonl verifiedAt : String) : Prop :=
  ∃ result, verifyJsonlExport env manifestJson recordsJsonl verifiedAt = .ok result ∧ result.valid = true

theorem BundleAccepted.accepts {env : ProjectionEnv} {manifestJson recordsJsonl verifiedAt : String}
    (h : BundleAccepted env manifestJson recordsJsonl verifiedAt) :
    ∃ manifest records q, readManifest env manifestJson = .ok manifest ∧
      readRecords env recordsJsonl = .ok records ∧ Accepts env.toJournalEnv manifest .start records q ∧
      records.length = manifest.recordCount ∧ records ≠ [] ∧
      q.previous = some manifest.headProjectionHash := by
  obtain ⟨result, hrun, hvalid⟩ := h
  unfold verifyJsonlExport at hrun
  simp only [bind_eq_ok', exists_unit] at hrun
  obtain ⟨_, _, manifest, hmanifest, records, hrecords, _, hresult⟩ := hrun
  obtain rfl := Except.ok.inj hresult
  obtain ⟨q, hq⟩ := verifyProjectedRecords_valid hvalid
  exact ⟨manifest, records, q, hmanifest, hrecords, hq⟩

/-- **An accepted bundle is bound and coherent.** Two bundles that are accepted under one manifest have
    the same records, where the canonical form and SHA-256 tell their hashed views apart; and the
    records of every accepted bundle, whatever texts were offered, tell one Task's history. -/
theorem accepted_bundle_bound (env : ProjectionEnv) :
    (∀ manifestJson manifestJson' recordsJsonl recordsJsonl' verifiedAt verifiedAt',
      BundleAccepted env manifestJson recordsJsonl verifiedAt →
      BundleAccepted env manifestJson' recordsJsonl' verifiedAt' →
      readManifest env manifestJson = readManifest env manifestJson' →
      ∃ records records', readRecords env recordsJsonl = .ok records ∧
        readRecords env recordsJsonl' = .ok records' ∧
        (Separates env.digest (projectedViews (records ++ records')) → records = records')) ∧
    ∀ manifestJson recordsJsonl verifiedAt, BundleAccepted env manifestJson recordsJsonl verifiedAt →
      ∃ manifest records, readManifest env manifestJson = .ok manifest ∧
        readRecords env recordsJsonl = .ok records ∧ records.length = manifest.recordCount ∧
        CoherentBundle records := by
  refine ⟨?_, ?_⟩
  · intro _ _ _ _ _ _ h h' hsame
    obtain ⟨manifest, records, q, hmanifest, hrecords, hacc, _, _, hhead⟩ := h.accepts
    obtain ⟨manifest', records', q', hmanifest', hrecords', hacc', _, _, hhead'⟩ := h'.accepts
    rw [hmanifest, hmanifest'] at hsame
    obtain rfl := Except.ok.inj hsame
    exact ⟨records, records', hrecords, hrecords', fun hs =>
      hacc.bound hacc' rfl rfl (hhead.trans hhead'.symm) hs⟩
  · intro _ _ _ h
    obtain ⟨manifest, records, q, hmanifest, hrecords, hacc, hlength, hne, _⟩ := h.accepts
    exact ⟨manifest, records, hmanifest, hrecords, hlength, hacc.coherent hne⟩

end Aios.Provenance
