/-
  File:      Aios/Policy/Overrides.lean
  Subject:   A DENIAL OVERRIDES, and the order of the rules does not count.

  The evaluator walks the rules once, with the verdict so far in its hand. What it ends with is said by
  the set of the rules that apply (`decideRules_eq`), so neither their order nor a repetition is seen
  (`decideRules_congr`). Above its bound on the rules the evaluator does not walk them at all and denies.

  A reason code goes with a basis and an effect. The effect is the one of the basis, or what an approval
  has made of a `requireApproval`; no evaluation asks for the code of another pair (`reasonCalls`).
-/
import Aios.Policy.Evaluate

namespace Aios.Policy

open Lib Provenance

/-! ## 1. The rules that apply -/

def PolicyRule.Applies (rule : PolicyRule) (action kind sensitivity : String) : Prop :=
  rule.action = action ∧ rule.resourceKind = kind ∧ rule.sensitivity = sensitivity

instance (rule : PolicyRule) (action kind sensitivity : String) :
    Decidable (rule.Applies action kind sensitivity) :=
  inferInstanceAs (Decidable (_ ∧ _))

/-- A rule that applies has the effect. -/
def Says (rules : List PolicyRule) (action kind sensitivity : String) (effect : PolicyEffect) : Prop :=
  ∃ rule ∈ rules, rule.Applies action kind sensitivity ∧ rule.effect = effect

instance (rules : List PolicyRule) (action kind sensitivity : String) (effect : PolicyEffect) :
    Decidable (Says rules action kind sensitivity effect) :=
  inferInstanceAs (Decidable (∃ rule ∈ rules, _))

/-- What a set of rules says, whatever their order: a denial overrides, and so does the silence of all
    rules; then an approval that is asked for. -/
def referenceEffect (rules : List PolicyRule) (action kind sensitivity : String) : PolicyEffect :=
  if Says rules action kind sensitivity .deny ∨
      ¬ ∃ rule ∈ rules, rule.Applies action kind sensitivity then .deny
  else if Says rules action kind sensitivity .requireApproval then .requireApproval
  else .allow

section Rules

variable {rules rules' : List PolicyRule} {rule : PolicyRule} {action kind sensitivity : String}
  {effect : PolicyEffect}

theorem says_nil : ¬ Says [] action kind sensitivity effect := by
  rintro ⟨rule, hmem, -⟩
  cases hmem

theorem says_cons : Says (rule :: rules) action kind sensitivity effect ↔
    (rule.Applies action kind sensitivity ∧ rule.effect = effect) ∨
      Says rules action kind sensitivity effect := by
  simp only [Says, List.mem_cons, exists_eq_or_imp]

theorem says_congr (h : ∀ rule, rule ∈ rules ↔ rule ∈ rules') :
    Says rules action kind sensitivity effect ↔ Says rules' action kind sensitivity effect := by
  simp only [Says, h]

/-- A rule that applies says something. -/
theorem applies_iff_effect : (∃ rule ∈ rules, rule.Applies action kind sensitivity) ↔
    Says rules action kind sensitivity .deny ∨ Says rules action kind sensitivity .requireApproval ∨
      Says rules action kind sensitivity .allow := by
  constructor
  · rintro ⟨rule, hmem, happ⟩
    cases heff : rule.effect with
    | deny => exact .inl ⟨rule, hmem, happ, heff⟩
    | requireApproval => exact .inr (.inl ⟨rule, hmem, happ, heff⟩)
    | allow => exact .inr (.inr ⟨rule, hmem, happ, heff⟩)
  · rintro (⟨rule, hmem, happ, -⟩ | ⟨rule, hmem, happ, -⟩ | ⟨rule, hmem, happ, -⟩) <;>
      exact ⟨rule, hmem, happ⟩

/-! ## 2. The walk over the rules -/

/-- **The walk ends with the strictest of what the rules say**, and with its first verdict where they
    say nothing. -/
theorem decideRules_eq (result : PolicyBasis) (rules : List PolicyRule) :
    decideRules action kind sensitivity result rules =
      if Says rules action kind sensitivity .deny then .denyPolicy
      else if Says rules action kind sensitivity .requireApproval ∨ result = .requireApproval then
        .requireApproval
      else if Says rules action kind sensitivity .allow then .allow
      else result := by
  induction rules generalizing result with
  | nil =>
      simp only [decideRules, says_nil, if_false, false_or]
      split
      · next h => exact h
      · rfl
  | cons rule rest ih =>
      simp only [decideRules, says_cons]
      by_cases happ : rule.Applies action kind sensitivity
      · rw [if_pos (by simpa [PolicyRule.Applies, and_assoc] using happ)]
        cases heff : rule.effect with
        | deny => simp [happ]
        | requireApproval => simp [happ, ih]
        | allow =>
            simp only [ih]
            by_cases hres : result = .requireApproval <;> simp [happ, hres]
      · rw [if_neg (by simpa [PolicyRule.Applies, and_assoc] using happ), ih]
        simp only [happ, false_and, false_or]

/-- Only the set of the rules counts. -/
theorem decideRules_congr (h : ∀ rule, rule ∈ rules ↔ rule ∈ rules') (result : PolicyBasis) :
    decideRules action kind sensitivity result rules =
      decideRules action kind sensitivity result rules' := by
  simp only [decideRules_eq, says_congr h]

theorem decideRules_effect (rules : List PolicyRule) :
    (decideRules action kind sensitivity .denyDefault rules).effect =
      referenceEffect rules action kind sensitivity := by
  rw [decideRules_eq, referenceEffect]
  simp only [applies_iff_effect]
  by_cases hdeny : Says rules action kind sensitivity .deny
  · simp [hdeny, PolicyBasis.effect]
  · by_cases happrove : Says rules action kind sensitivity .requireApproval
    · simp [hdeny, happrove, PolicyBasis.effect]
    · by_cases hallow : Says rules action kind sensitivity .allow <;>
        simp [hdeny, happrove, hallow, PolicyBasis.effect]

end Rules

/-! ## 3. The evaluator -/

section Evaluator

variable {maxRules : Nat} {p q : LocalPolicy}

theorem decideDeterministic_within (h : p.rules.length ≤ maxRules) (action kind sensitivity : String) :
    decideDeterministic maxRules p action kind sensitivity =
      decideRules action kind sensitivity .denyDefault p.rules :=
  if_neg (by omega)

theorem decideDeterministic_perm (h : p.rules.Perm q.rules) (action kind sensitivity : String) :
    decideDeterministic maxRules p action kind sensitivity =
      decideDeterministic maxRules q action kind sensitivity := by
  unfold decideDeterministic
  rw [h.length_eq, decideRules_congr fun rule => h.mem_iff]

theorem decideDeterministic_congr (h : ∀ rule, rule ∈ p.rules ↔ rule ∈ q.rules)
    (hp : p.rules.length ≤ maxRules) (hq : q.rules.length ≤ maxRules) (action kind sensitivity : String) :
    decideDeterministic maxRules p action kind sensitivity =
      decideDeterministic maxRules q action kind sensitivity := by
  rw [decideDeterministic_within hp, decideDeterministic_within hq, decideRules_congr h]

end Evaluator

/-! ## 4. Reason codes -/

/-- The code of the pair is defined: the arm that is declared unreachable has the empty text. -/
def Reasoned (basis : PolicyBasis) (effect : PolicyEffect) : Prop := basis.reasonCode effect ≠ ""

instance (basis : PolicyBasis) (effect : PolicyEffect) : Decidable (Reasoned basis effect) :=
  inferInstanceAs (Decidable (_ ≠ _))

/-- Only an approval that is asked for may have come to another effect. -/
theorem reasoned_iff {basis : PolicyBasis} {effect : PolicyEffect} :
    Reasoned basis effect ↔ effect = basis.effect ∨ basis = .requireApproval := by
  cases basis <;> cases effect <;> decide

section Calls

variable (env : PolicyEnv) (backend : LocalPolicyBackend) (policy : LocalPolicy)
  (activation : ActivationRow) (facts : CandidateFacts) (started : String) (startedAt : Int)

/-- The pair at which a resource is given its reason code, where its evaluation gets that far. -/
def reasonCall (store : PolicyStore) (r : ResourceFacts) : PolicyResult (PolicyBasis × PolicyEffect) := do
  let fingerprint ← facts.fingerprint env r activation.revision activation.contentHash
  let store ← recordRequest env store facts r started startedAt
  let request := requestId env facts r
  let basis := backend.decide policy r
  let approval := if basis = .requireApproval then some (approvalId env request fingerprint) else none
  let standing ← standingOf env activation facts startedAt store r fingerprint basis approval
  return (basis, standing.effect)

/-- All the pairs, in order; an evaluation that fails has asked for those before its failure. -/
def reasonCalls : PolicyStore → List ResourceFacts → List (PolicyBasis × PolicyEffect)
  | _, [] => []
  | store, r :: rest =>
      (reasonCall env backend policy activation facts started startedAt store r).toOption.toList ++
        match evaluateResource env backend policy activation facts started startedAt store r with
        | .ok (next, _) => reasonCalls next rest
        | .error _ => []

variable {env backend policy activation facts started startedAt} {store store' : PolicyStore}
  {r : ResourceFacts}

theorem reasonCall_reasoned {call : PolicyBasis × PolicyEffect}
    (h : reasonCall env backend policy activation facts started startedAt store r = .ok call) :
    call.1 = backend.decide policy r ∧ Reasoned call.1 call.2 := by
  simp only [reasonCall, bind_eq_ok'] at h
  obtain ⟨fingerprint, -, asked, -, standing, hstand, h⟩ := h
  obtain rfl := Except.ok.inj h
  refine ⟨rfl, reasoned_iff.mpr ?_⟩
  by_cases hbasis : backend.decide policy r = .requireApproval
  · exact .inr hbasis
  · left
    rw [if_neg hbasis] at hstand
    exact (congrArg Standing.effect (Except.ok.inj hstand)).symm

/-- The decision over a resource has the code of its pair. -/
theorem evaluateResource_reason {d : CandidatePolicyDecision}
    (h : evaluateResource env backend policy activation facts started startedAt store r = .ok (store', d)) :
    ∃ call, reasonCall env backend policy activation facts started startedAt store r = .ok call ∧
      d.effect = call.2 ∧ d.reasonCode = call.1.reasonCode call.2 := by
  simp only [evaluateResource, bind_eq_ok', Prod.exists] at h
  obtain ⟨fingerprint, hf, asked, hasked, d', timing, hd, h⟩ := h
  simp only [decideResource, bind_eq_ok'] at hd
  obtain ⟨standing, hstand, hd⟩ := hd
  obtain ⟨rfl, rfl⟩ := Prod.mk.inj (Except.ok.inj hd)
  refine ⟨(backend.decide policy r, standing.effect), ?_, ?_⟩
  · simp only [reasonCall, hf, hasked, ok_bind, hstand]
    rfl
  · split at h
    · simp only [bind_eq_ok'] at h
      obtain ⟨s1, -, s2, -, s3, -, h⟩ := h
      obtain ⟨-, rfl⟩ := Prod.mk.inj (Except.ok.inj h)
      exact ⟨rfl, rfl⟩
    · simp only [bind_eq_ok'] at h
      obtain ⟨s1, -, h⟩ := h
      obtain ⟨-, rfl⟩ := Prod.mk.inj (Except.ok.inj h)
      exact ⟨rfl, rfl⟩

theorem reasonCalls_reasoned (resources : List ResourceFacts) (store : PolicyStore) :
    ∀ call ∈ reasonCalls env backend policy activation facts started startedAt store resources,
      Reasoned call.1 call.2 := by
  induction resources generalizing store with
  | nil =>
      intro call hmem
      cases hmem
  | cons r rest ih =>
      intro call hmem
      rw [reasonCalls] at hmem
      rcases List.mem_append.mp hmem with hfirst | hrest
      · cases hcall : reasonCall env backend policy activation facts started startedAt store r with
        | error e =>
            rw [hcall] at hfirst
            cases hfirst
        | ok found =>
            rw [hcall] at hfirst
            obtain rfl : call = found := List.mem_singleton.mp hfirst
            exact (reasonCall_reasoned hcall).2
      · split at hrest
        · exact ih _ call hrest
        · cases hrest

/-- Each decision has the effect of the basis, or the basis asks for an approval. -/
theorem evaluateResources_effects {resources : List ResourceFacts} {store store' : PolicyStore}
    {decisions : List CandidatePolicyDecision}
    (h : evaluateResources env backend policy activation facts started startedAt store resources =
      .ok (store', decisions)) :
    List.Forall₂ (fun r d => d.effect = (backend.decide policy r).effect ∨
      backend.decide policy r = .requireApproval) resources decisions := by
  induction resources generalizing store store' decisions with
  | nil =>
      obtain ⟨-, rfl⟩ := Prod.mk.inj (Except.ok.inj h)
      exact .nil
  | cons r rest ih =>
      simp only [evaluateResources, bind_eq_ok', Prod.exists] at h
      obtain ⟨s1, d, h1, s2, ds, h2, h⟩ := h
      obtain ⟨-, rfl⟩ := Prod.mk.inj (Except.ok.inj h)
      obtain ⟨call, hcall, heff, -⟩ := evaluateResource_reason h1
      obtain ⟨hbasis, hreason⟩ := reasonCall_reasoned hcall
      refine .cons ?_ (ih h2)
      rw [heff, ← hbasis]
      exact reasoned_iff.mp hreason

end Calls

/-! ## 5. Every evaluation -/

theorem effect_eq_requireApproval {basis : PolicyBasis} :
    basis.effect = .requireApproval ↔ basis = .requireApproval := by
  cases basis <;> decide

/-- **A denial overrides, whatever the order of the rules.** Within its bound on the rules the evaluator
    decides as the reference does, and over several resources it decides each of them so, up to the
    approval the rules ask for. An order of the rules is never seen, and a repetition is not seen within
    the bound. No evaluation, of any facts under any rules, asks for an undefined reason code. -/
theorem denial_overrides (maxRules : Nat) :
    (∀ (p : LocalPolicy) (action kind sensitivity : String), p.rules.length ≤ maxRules →
      (decideDeterministic maxRules p action kind sensitivity).effect =
        referenceEffect p.rules action kind sensitivity) ∧
    (∀ (p q : LocalPolicy) (action kind sensitivity : String),
      p.rules.Perm q.rules ∨ ((∀ rule, rule ∈ p.rules ↔ rule ∈ q.rules) ∧
        p.rules.length ≤ maxRules ∧ q.rules.length ≤ maxRules) →
      decideDeterministic maxRules p action kind sensitivity =
        decideDeterministic maxRules q action kind sensitivity) ∧
    (∀ (env : PolicyEnv) (p : LocalPolicy) (activation : ActivationRow) (facts : CandidateFacts)
      (started : String) (startedAt : Int) (store store' : PolicyStore) (resources : List ResourceFacts)
      (decisions : List CandidatePolicyDecision), p.rules.length ≤ maxRules →
      evaluateResources env ⟨some maxRules⟩ p activation facts started startedAt store resources =
        .ok (store', decisions) →
      List.Forall₂ (fun r d => d.effect = referenceEffect p.rules r.action r.kind r.sensitivity ∨
        referenceEffect p.rules r.action r.kind r.sensitivity = .requireApproval) resources decisions) ∧
    (∀ (env : PolicyEnv) (backend : LocalPolicyBackend) (p : LocalPolicy) (activation : ActivationRow)
      (facts : CandidateFacts) (started : String) (startedAt : Int) (store : PolicyStore)
      (resources : List ResourceFacts),
      ∀ call ∈ reasonCalls env backend p activation facts started startedAt store resources,
        Reasoned call.1 call.2) := by
  have hreference : ∀ (p : LocalPolicy) (action kind sensitivity : String), p.rules.length ≤ maxRules →
      (decideDeterministic maxRules p action kind sensitivity).effect =
        referenceEffect p.rules action kind sensitivity := by
    intro p action kind sensitivity hlen
    rw [decideDeterministic_within hlen, decideRules_effect]
  refine ⟨hreference, ?_, ?_, ?_⟩
  · rintro p q action kind sensitivity (hperm | ⟨hsame, hp, hq⟩)
    · exact decideDeterministic_perm hperm action kind sensitivity
    · exact decideDeterministic_congr hsame hp hq action kind sensitivity
  · intro env p activation facts started startedAt store store' resources decisions hlen h
    refine (evaluateResources_effects h).imp fun r d hd => ?_
    have heff := hreference p r.action r.kind r.sensitivity hlen
    rcases hd with hd | hd
    · exact .inl (hd.trans heff)
    · refine .inr ?_
      rw [← heff]
      exact effect_eq_requireApproval.mpr hd
  · intro env backend p activation facts started startedAt store resources
    exact reasonCalls_reasoned resources store

section Samples

def readRule (effect : PolicyEffect) : PolicyRule := ⟨effect, "artifact.read", "artifact", "PRIVATE"⟩

/-- The rules in their order and turned around, with one of them twice. -/
theorem readRules_turned :
    (decideDeterministic localPolicyRuleLimit ⟨"0.1", [readRule .allow, readRule .deny]⟩
        "artifact.read" "artifact" "PRIVATE").effect = .deny ∧
      decideDeterministic localPolicyRuleLimit ⟨"0.1", [readRule .allow, readRule .deny]⟩
          "artifact.read" "artifact" "PRIVATE" =
        decideDeterministic localPolicyRuleLimit
          ⟨"0.1", [readRule .deny, readRule .allow, readRule .deny]⟩ "artifact.read" "artifact" "PRIVATE" := by
  obtain ⟨hreference, hsame, -, -⟩ := denial_overrides localPolicyRuleLimit
  refine ⟨(hreference _ _ _ _ (by decide)).trans (by decide), hsame _ _ _ _ _ (.inr ⟨?_, ?_, ?_⟩)⟩
  · intro rule
    simp only [List.mem_cons, List.not_mem_nil, or_false]
    constructor
    · rintro (h | h)
      · exact .inr (.inl h)
      · exact .inl h
    · rintro (h | h | h)
      · exact .inr h
      · exact .inl h
      · exact .inr h
  · decide
  · decide

/-- Above the bound a policy denies although all its rules allow, and one repetition more is seen. -/
theorem overfull_denied :
    (decideDeterministic localPolicyRuleLimit ⟨"0.1", List.replicate 65 (readRule .allow)⟩
        "artifact.read" "artifact" "PRIVATE").effect ≠
      referenceEffect (List.replicate 65 (readRule .allow)) "artifact.read" "artifact" "PRIVATE" ∧
    decideDeterministic localPolicyRuleLimit ⟨"0.1", List.replicate 65 (readRule .allow)⟩
        "artifact.read" "artifact" "PRIVATE" ≠
      decideDeterministic localPolicyRuleLimit ⟨"0.1", List.replicate 64 (readRule .allow)⟩
        "artifact.read" "artifact" "PRIVATE" := by
  constructor <;> decide +kernel

end Samples

end Aios.Policy
