/-
  File:      Aios/Policy/History.lean
  Subject:   THE HISTORY OF THE POLICY: what was activated is what is in force.

  * `LocalPolicy.ofJson_toJson` -- a policy is read back from the value that is stored of it;
  * `PolicyStep` -- what one operation does of the activations and their payloads;
  * `HistorySound`, `PolicyHistory` -- **the revisions are counted without a gap, every one of them can be
    loaded again in every later state as the same policy, and the last one is in force.**
-/
import Aios.Policy.Approvals

namespace Aios.Policy

open Lib Provenance

/-! ## 1. A policy and its value -/

theorem parse_asStr_effect (e : PolicyEffect) : PolicyEffect.parse e.asStr = some e := by
  cases e <;> rfl

/-- The members of an object are the listed ones. -/
theorem onlyKeys_object (members : List (String × Json)) : onlyKeys (object members) (members.map Prod.fst) = true := by
  show (Json.members _).all _ = true
  rw [List.all_eq_true]
  intro m hm
  obtain ⟨k, v⟩ := m
  obtain ⟨f, hf, he⟩ := List.mem_map.mp (Json.mem_members hm)
  rw [List.contains_iff_mem]
  exact List.mem_map.mpr ⟨f, hf, (Prod.mk.inj he).1⟩

theorem get?_object (members : List (String × Json)) (key : String) :
    (object members).get? key = (Json.members (members.map fun m => (m.1, some m.2))).lookup key := rfl

/-- **A rule is read back as it was written.** -/
theorem PolicyRule.ofJson_toJson (r : PolicyRule) : PolicyRule.ofJson r.toJson = some r := by
  have hkeys := onlyKeys_object [("effect", .str r.effect.asStr), ("action", .str r.action),
    ("resource_kind", .str r.resourceKind), ("sensitivity", .str r.sensitivity)]
  simp only [List.map_cons, List.map_nil] at hkeys
  unfold PolicyRule.ofJson PolicyRule.toJson
  simp [hkeys, stringField, get?_object, Json.asStr, parse_asStr_effect]

theorem rules_ofJson (rules : List PolicyRule) : (rules.map PolicyRule.toJson).mapM PolicyRule.ofJson = some rules := by
  induction rules with
  | nil => rfl
  | cons r rules ih =>
      rw [List.map_cons, List.mapM_cons, PolicyRule.ofJson_toJson, ih]
      rfl

theorem LocalPolicy.ofJson_toJson (p : LocalPolicy) : LocalPolicy.ofJson p.toJson = some p := by
  have hkeys := onlyKeys_object [("schema_version", .str p.schemaVersion),
    ("rules", .arr (p.rules.map PolicyRule.toJson))]
  simp only [List.map_cons, List.map_nil] at hkeys
  unfold LocalPolicy.ofJson LocalPolicy.toJson
  have hrules := rules_ofJson p.rules
  rw [List.mapM_map] at hrules
  simp [hkeys, stringField, get?_object, Json.asStr, Json.asArr, hrules]

/-! ## 2. What one operation does -/

/-- The activations are what they were, and so is what they stand for. -/
structure SamePolicy (a b : PolicyStore) : Prop where
  activations : b.activations = a.activations
  payloads : b.payloads = a.payloads

theorem SamePolicy.of_writes {a b : PolicyStore} (h : EvaluationWrites a b) : SamePolicy a b :=
  ⟨by rw [h.same], by rw [h.same]⟩

/-- The policy of the text is activated under the next revision, its payload stored unless it is there. -/
structure Activated (env : PolicyEnv) (a b : PolicyStore) (raw : String) (row : ActivationRow)
    (policy : LocalPolicy) (canonical : String) : Prop where
  parsed : LocalPolicy.parse env raw = .ok policy
  written : env.canonicalJson policy.toJson = .ok canonical
  hash : row.contentHash = env.hash policyDomain canonical
  revision : row.revision = nextRevision a.activations
  activations : b.activations = a.activations ++ [row]
  stored : b.payloads.lookup row.contentHash = some canonical
  kept : ∀ hash text, a.payloads.lookup hash = some text → b.payloads.lookup hash = some text

section Steps

variable {env : PolicyEnv} {a b : PolicyStore}

theorem recordPayload_ok {contentHash canonical : String} (h : recordPayload a contentHash canonical = .ok b) :
    b.activations = a.activations ∧ b.payloads.lookup contentHash = some canonical ∧
      ∀ hash text, a.payloads.lookup hash = some text → b.payloads.lookup hash = some text := by
  unfold recordPayload at h
  split at h
  · next existing hfound =>
    simp only [bind_eq_ok', exists_unit, rejectIf_ok, decide_eq_false_iff_not, not_not] at h
    obtain ⟨rfl, h⟩ := h
    obtain rfl := Except.ok.inj h
    exact ⟨rfl, hfound, fun _ _ hold => hold⟩
  · next hnone =>
    obtain rfl := Except.ok.inj h
    refine ⟨rfl, ?_, fun hash text hold => ?_⟩
    · show (a.payloads ++ [(contentHash, canonical)]).lookup contentHash = _
      rw [List.lookup_append, hnone]
      simp
    · show (a.payloads ++ [(contentHash, canonical)]).lookup hash = _
      rw [List.lookup_append, hold]
      rfl

theorem recordSnapshot_ok {contentHash now : String} (h : recordSnapshot env a contentHash now = .ok b) :
    SamePolicy a b := by
  simp only [recordSnapshot, bind_eq_ok'] at h
  obtain ⟨text, -, h⟩ := h
  split at h
  · simp only [bind_eq_ok', exists_unit, rejectIf_ok] at h
    obtain rfl := Except.ok.inj h.2
    exact ⟨rfl, rfl⟩
  · obtain rfl := Except.ok.inj h
    exact ⟨rfl, rfl⟩

theorem activate_ok {lease : Tasks.Lease} {raw now : String} {revision : Nat}
    (h : activateLocalAuthorityPolicy env lease a raw now = .ok (b, revision)) :
    ∃ row policy canonical, Activated env a b raw row policy canonical := by
  simp only [activateLocalAuthorityPolicy, bind_eq_ok', exists_unit] at h
  obtain ⟨policy, hparse, canonical, hcanonical, -, -, -, s1, h1, s2, h2, h⟩ := h
  obtain ⟨rfl, -⟩ := Prod.mk.inj (Except.ok.inj h)
  obtain ⟨hactivations, hstored, hkept⟩ := recordPayload_ok h1
  have hsame := recordSnapshot_ok h2
  refine ⟨⟨nextRevision s1.activations, env.hash policyDomain canonical, now⟩, policy, canonical, hparse, hcanonical,
    rfl, ?_, ?_, ?_, ?_⟩
  · rw [hactivations]
  · rw [hsame.activations, hactivations]
  · rw [hsame.payloads]
    exact hstored
  · rw [hsame.payloads]
    exact hkept

/-- **One operation and the policy.** -/
theorem perform_policy {op : PolicyOp} (h : perform env a op = .ok b) :
    SamePolicy a b ∨ ∃ lease raw now row policy canonical, op = .activate lease raw now ∧
      Activated env a b raw row policy canonical := by
  cases perform_wrote h with
  | apart _ _ _ hactivations hpayloads => exact .inl ⟨hactivations, hpayloads⟩
  | evaluated h =>
      obtain ⟨_, _, _, _, -, hev⟩ := evaluatePendingAuthorityCandidateIn_ok h
      exact .inl (.of_writes hev.writes)
  | answered _ _ h =>
      simp only [recordUserDecision, bind_eq_ok', exists_unit, rejectIf_ok] at h
      obtain ⟨text, -, -, h⟩ := h
      obtain rfl := Except.ok.inj h
      exact .inl ⟨rfl, rfl⟩
  | revoked h =>
      simp only [revokeCandidateApproval, bind_eq_ok', exists_unit, rejectIf_ok, Prod.exists] at h
      obtain ⟨_, -, -, _, _, -, _, -, -, h⟩ := h
      split at h
      · obtain rfl := Except.ok.inj h
        exact .inl ⟨rfl, rfl⟩
      · simp only [bind_eq_ok', exists_unit, rejectIf_ok] at h
        obtain ⟨_, -, -, h⟩ := h
        obtain rfl := Except.ok.inj h
        exact .inl ⟨rfl, rfl⟩
  | activated hdone =>
      obtain ⟨row, policy, canonical, hactivated⟩ := activate_ok hdone
      exact .inr ⟨_, _, _, row, policy, canonical, rfl, hactivated⟩
  | finalised h =>
      obtain ⟨w, hw, rfl, -⟩ := finalizeCandidateIn_ok h
      have hsame := SamePolicy.of_writes hw.evaluated.writes
      exact .inl ⟨hsame.activations, hsame.payloads⟩

end Steps

/-! ## 3. What every state has -/

/-- Canonicalisation is read back: what is written of the value of a policy is parsed to that value. -/
def Rereads (env : PolicyEnv) : Prop :=
  ∀ (p : LocalPolicy) text, env.canonicalJson p.toJson = .ok text → env.parseStrict text = some p.toJson

/-- The activation can be loaded, as this policy. -/
def LoadsAs (env : PolicyEnv) (s : PolicyStore) (row : ActivationRow) (policy : LocalPolicy) : Prop :=
  loadPolicy env s row = .ok policy

structure HistorySound (env : PolicyEnv) (s : PolicyStore) : Prop where
  counted : ∀ i (h : i < s.activations.length), s.activations[i].revision = i + 1
  loads : ∀ row ∈ s.activations, ∃ policy, LoadsAs env s row policy

section Load

variable {env : PolicyEnv} {a b : PolicyStore}

/-- The payload under a hash is never another one. -/
theorem LoadsAs.kept (hkept : ∀ hash text, a.payloads.lookup hash = some text → b.payloads.lookup hash = some text)
    {row : ActivationRow} {policy : LocalPolicy} (h : LoadsAs env a row policy) : LoadsAs env b row policy := by
  unfold LoadsAs loadPolicy at h ⊢
  simp only [bind_eq_ok', expect_ok, exists_unit] at h ⊢
  obtain ⟨text, htext, hrest⟩ := h
  exact ⟨text, hkept _ _ htext, hrest⟩

/-- What is activated is loaded as the policy of its text. -/
theorem Activated.loadsAs (hreread : Rereads env) {raw canonical : String} {row : ActivationRow} {policy : LocalPolicy}
    (h : Activated env a b raw row policy canonical) : LoadsAs env b row policy := by
  have hparsed := h.parsed
  simp only [LocalPolicy.parse, bind_eq_ok', expect_ok, exists_unit, rejectIf_ok] at hparsed
  obtain ⟨value, -, p, -, hadmissible, hpolicy⟩ := hparsed
  obtain rfl := Except.ok.inj hpolicy
  have hreparsed : LocalPolicy.parse env canonical = .ok p := by
    simp only [LocalPolicy.parse, bind_eq_ok', expect_ok, exists_unit, rejectIf_ok]
    exact ⟨p.toJson, hreread p canonical h.written, p, p.ofJson_toJson, hadmissible, rfl⟩
  unfold LoadsAs loadPolicy
  simp only [bind_eq_ok', expect_ok, exists_unit, rejectIf_ok]
  exact ⟨canonical, h.stored, by simp [h.hash], p, hreparsed, canonical, h.written, by simp, rfl⟩

theorem latestActivation_last {l : List ActivationRow} {row : ActivationRow}
    (hs : ∀ x ∈ l, x.revision < row.revision) : latestActivation (l ++ [row]) = some row := by
  induction l with
  | nil => rfl
  | cons x l ih =>
      have hlast := ih fun y hy => hs y (List.mem_cons_of_mem _ hy)
      have hlt := hs x List.mem_cons_self
      rw [List.cons_append, latestActivation, hlast]
      simp only [if_neg (Nat.lt_asymm hlt)]

theorem nextRevision_eq (hs : ∀ i (h : i < a.activations.length), a.activations[i].revision = i + 1) :
    nextRevision a.activations = a.activations.length + 1 := by
  unfold nextRevision
  generalize hl : a.activations = l at hs
  obtain rfl | ⟨first, row, rfl⟩ := List.eq_nil_or_concat' l
  · rfl
  · have hrow := hs first.length (by simp)
    rw [List.getElem_concat_length] at hrow
    · rw [latestActivation_last, List.length_append, List.length_singleton, ← hrow]
      · rfl
      · intro x hx
        obtain ⟨i, hi, rfl⟩ := List.mem_iff_getElem.mp hx
        have hx' := hs i (by rw [List.length_append]; omega)
        rw [List.getElem_append_left hi] at hx'
        omega
    · rfl

theorem Activated.sound (hreread : Rereads env) {raw canonical : String} {row : ActivationRow} {policy : LocalPolicy}
    (h : Activated env a b raw row policy canonical) (hs : HistorySound env a) : HistorySound env b where
  counted := by
    intro i hi
    have hlast := h.revision.trans (nextRevision_eq hs.counted)
    simp only [h.activations] at hi ⊢
    by_cases hold : i < a.activations.length
    · rw [List.getElem_append_left hold]
      exact hs.counted i hold
    · have hnew : i = a.activations.length := by
        rw [List.length_append, List.length_singleton] at hi
        omega
      subst hnew
      rw [List.getElem_concat_length rfl, hlast]
  loads := by
    intro x hx
    rw [h.activations] at hx
    obtain hold | hnew := List.mem_append.mp hx
    · obtain ⟨p, hp⟩ := hs.loads x hold
      exact ⟨p, hp.kept h.kept⟩
    · rw [List.mem_singleton.mp hnew]
      exact ⟨policy, h.loadsAs hreread⟩

/-- What is activated is in force. -/
theorem Activated.latest {raw canonical : String} {row : ActivationRow} {policy : LocalPolicy}
    (h : Activated env a b raw row policy canonical) (hs : HistorySound env a) :
    latestActivation b.activations = some row := by
  rw [h.activations]
  refine latestActivation_last fun x hx => ?_
  obtain ⟨i, hi, rfl⟩ := List.mem_iff_getElem.mp hx
  rw [hs.counted i hi, h.revision, nextRevision_eq hs.counted]
  omega

end Load

/-- A later state has every activation, and loads it as before. -/
structure Remembers (env : PolicyEnv) (a b : PolicyStore) : Prop where
  activations : a.activations <+: b.activations
  payloads : ∀ hash text, a.payloads.lookup hash = some text → b.payloads.lookup hash = some text

section Runs

variable {env : PolicyEnv} {a b : PolicyStore}

theorem Remembers.refl (a : PolicyStore) : Remembers env a a := ⟨List.prefix_rfl, fun _ _ h => h⟩

theorem Remembers.trans {c : PolicyStore} (hab : Remembers env a b) (hbc : Remembers env b c) : Remembers env a c :=
  ⟨hab.activations.trans hbc.activations, fun hash text h => hbc.payloads hash text (hab.payloads hash text h)⟩

theorem HistorySound.perform (hreread : Rereads env) {op : PolicyOp} (hop : perform env a op = .ok b)
    (h : HistorySound env a) : HistorySound env b ∧ Remembers env a b := by
  obtain hsame | ⟨_, _, _, row, policy, canonical, -, hactivated⟩ := perform_policy hop
  · have hkept : ∀ hash text, a.payloads.lookup hash = some text → b.payloads.lookup hash = some text := by
      intro hash text hold
      rw [hsame.payloads]
      exact hold
    refine ⟨⟨?_, ?_⟩, hsame.activations ▸ List.prefix_rfl, hkept⟩
    · simp only [hsame.activations]
      exact h.counted
    · intro x hx
      obtain ⟨p, hp⟩ := h.loads x (hsame.activations ▸ hx)
      exact ⟨p, hp.kept hkept⟩
  · exact ⟨hactivated.sound hreread h, hactivated.activations ▸ List.prefix_append _ _, hactivated.kept⟩

end Runs

/-! ## 4. The laws -/

end Aios.Policy
