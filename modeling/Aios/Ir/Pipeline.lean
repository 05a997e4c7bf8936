/-
  File:      Aios/Ir/Pipeline.lean
  Subject:   The validation of bytes, phase by phase (`aios-ir/src/validator.rs`).

  A run ends in a refusal, which has pushed nothing but errors, or in an acceptance, which has
  pushed nothing but warnings (`RunsTo`). Which of the two, and what an accepted document is
  reported as, is settled without the bound on diagnostics (`validateBytesAt_runsTo`); the bound
  decides only which diagnostics are emitted.

  The schema library and the decoder that serde derives are parameters. `Documented` is what the
  validator relies on of them: canonical serialisation of a value succeeds, a failed `oneOf` gives a
  failure for every alternative, and a document without failures keeps the budgets within the
  bounds the embedded schema sets.
-/
import Aios.Ir.Canonical
import Aios.Ir.Limits
import Aios.Ir.Schema

namespace Aios

open Lib

structure ValidatorEnv where
  serde : SerdeJson
  /-- `token.parse::<f64>()` is finite and above zero. -/
  positiveFinite : List UInt8 → Bool
  /-- The failures of a value against the embedded schema, or why it did not compile. -/
  compiledSchema : Except String (Json → List SchemaError)
  /-- `serde_json::from_value::<AiosIr>`. -/
  decode : Json → Except String AiosIr
  digest : Digest
  /-- The text serde_json prints for a value. -/
  render : Json → String

structure Validator where
  registry : SemanticRegistry
  limits : ValidationLimits

def Validator.new (registry : SemanticRegistry) (limits : ValidationLimits) : Validator :=
  ⟨registry, limits.boundedForOutput⟩

section
variable (env : ValidatorEnv)

/-! ## 1. The phases -/

/-- The decoding of a value that passed the schema, its analysis and its hash. -/
def validateDecoded (v : Validator) (value : Json) (collector : DiagnosticCollector)
    (validatedAt : String) : Checked ValidationReport :=
  match env.decode value with
  | .error error =>
    .ok (invalidReport ((value.get? "ir_version").bind Json.asStr)
      ((value.get? "program_id").bind Json.asStr) (some v.registry.snapshotId)
      (collector.push (.new .irSchemaType
        ("schema-valid document did not decode to the closed IR model: " ++ error)))
      validatedAt)
  | .ok program => do
    let (summary, collector) ← analyze program v.registry collector
    if collector.hasErrors then
      return invalidReport (some program.irVersion) (some program.programId)
        (some v.registry.snapshotId) collector validatedAt
    else finishReport env.digest env.render program v.registry summary collector validatedAt

/-- The schema phase and what follows it. -/
def validateAgainstSchema (v : Validator) (value : Json) (collector : DiagnosticCollector)
    (validatedAt : String) : Checked ValidationReport :=
  let collector := match validateSchema env.compiledSchema value collector with
    | .error message => collector.push (.new .irSchemaType message)
    | .ok collector => collector
  if collector.hasErrors then
    .ok (invalidReport none none (some v.registry.snapshotId) collector validatedAt)
  else validateDecoded env v value collector validatedAt

/-- The checks before the schema and what follows them. -/
def validateDomain (v : Validator) (value : Json) (collector : DiagnosticCollector)
    (validatedAt : String) : Checked ValidationReport :=
  let collector := collector.pushAll (domainPrechecks value)
  if collector.hasErrors then
    .ok (invalidReport none none (some v.registry.snapshotId) collector validatedAt)
  else validateAgainstSchema env v value collector validatedAt

/-- The limits of a parsed value and what follows them. -/
def validateValue (v : Validator) (value : Json) (collector : DiagnosticCollector)
    (validatedAt : String) : Checked ValidationReport :=
  let collector := collector.pushAll (limitFindings value v.limits)
  if collector.hasErrors then
    .ok (invalidReport none none (some v.registry.snapshotId) collector validatedAt)
  else validateDomain env v value collector validatedAt

/-- `validate_bytes_at`, with the instant already formatted. -/
def Validator.validateBytesAt (v : Validator) (bytes : List UInt8) (validatedAt : String) :
    Checked ValidationReport :=
  let collector := DiagnosticCollector.new v.limits.maxDiagnostics
  let refuse (code : ValidatorReasonCode) (message : String) : Checked ValidationReport :=
    .ok (invalidReport none none (some v.registry.snapshotId) (collector.push (.new code message))
      validatedAt)
  if !v.registry.isStrictlyVerified then
    .ok (invalidReport none none none (collector.push (.new .registrySnapshotHashMismatch
      "registry snapshot was not loaded with strict identity verification")) validatedAt)
  else if v.limits.maxDocumentBytes < bytes.length then
    refuse .irLimitDocumentSize ("document is " ++ toString bytes.length ++
      " bytes; configured maximum is " ++ toString v.limits.maxDocumentBytes)
  else
    match parseStrictJson env.serde env.positiveFinite bytes v.limits.maxDepth with
    | .error .depthLimit =>
      refuse .irLimitDepth ("document exceeds configured JSON depth " ++ toString v.limits.maxDepth)
    | .error (.duplicateKey _) =>
      refuse .irParseDuplicateKey "JSON object contains a duplicate key"
    | .error (.invalid message) => refuse .irParseInvalid message
    | .ok value => validateValue env v value collector validatedAt

/-! ## 2. What the validator relies on -/

structure Documented : Prop where
  /-- A JSON value serialises canonically. -/
  canonical : ∀ value, ∃ bytes, env.digest.canonical value = .ok bytes
  /-- An alternative of a failed `oneOf` has a failure of its own. -/
  justified : ∀ failures, env.compiledSchema = .ok failures →
    ∀ value, ∀ error ∈ failures value, Justified error
  /-- The `maximum` of the budgets in the embedded schema. -/
  budgets : ∀ failures, env.compiledSchema = .ok failures → ∀ value program,
    failures value = [] → env.decode value = .ok program → SafeBudgets program

end

/-! ## 3. How a run ends -/

/-- The run refuses: at least one error was pushed, and nothing but errors. -/
def Refused (x : Checked ValidationReport) (max : Nat) (validatedAt : String) : Prop :=
  ∃ irVersion programId snapshotId pushed, (∀ d ∈ pushed, d.severity = .error) ∧ pushed ≠ [] ∧
    x = .ok (invalidReport irVersion programId snapshotId
      ((DiagnosticCollector.new max).pushAll pushed) validatedAt)

/-- The run accepts the program: nothing but warnings was pushed. -/
def AcceptedAs (x : Checked ValidationReport) (max : Nat) (validatedAt : String)
    (registry : SemanticRegistry) (program : AiosIr) (hash : String) : Prop :=
  ∃ pushed, (∀ d ∈ pushed, d.severity ≠ .error) ∧
    x = .ok (validReport program registry (summaryOf program registry) (semanticView program) hash
      ((DiagnosticCollector.new max).pushAll pushed) validatedAt)

/-- Runs that differ in the bound on diagnostics end alike. -/
def RunsTo (run : Nat → Checked ValidationReport) (validatedAt : String)
    (registry : SemanticRegistry) : Prop :=
  (∀ max, Refused (run max) max validatedAt) ∨
    ∃ program hash, ∀ max, AcceptedAs (run max) max validatedAt registry program hash

section
variable {validatedAt : String} {registry : SemanticRegistry}

theorem refused_pushAll {max : Nat} (irVersion programId snapshotId : Option String)
    {pushed : List Diagnostic} (herr : ∀ d ∈ pushed, d.severity = .error) (hne : pushed ≠ []) :
    Refused (.ok (invalidReport irVersion programId snapshotId
      ((DiagnosticCollector.new max).pushAll pushed) validatedAt)) max validatedAt :=
  ⟨irVersion, programId, snapshotId, pushed, herr, hne, rfl⟩

/-- An error that is pushed is seen. -/
theorem hasErrors_pushAll {c : DiagnosticCollector} {found : List Diagnostic}
    (herr : ∀ d ∈ found, d.severity = .error) (hne : found ≠ []) :
    (c.pushAll found).hasErrors = true := by
  rw [← Bool.not_eq_false]
  exact fun h => hne ((pushAll_clean herr).mp h).2

/-- A single error refuses. -/
theorem refused_push {max : Nat} (irVersion programId snapshotId : Option String)
    {d : Diagnostic} (herr : d.severity = .error) :
    Refused (.ok (invalidReport irVersion programId snapshotId
      ((DiagnosticCollector.new max).push d) validatedAt)) max validatedAt :=
  refused_pushAll irVersion programId snapshotId
    (show ∀ e ∈ [d], e.severity = .error from fun _ h => List.mem_singleton.mp h ▸ herr) (by simp)

/-- **A phase of errors** refuses when it finds one, and is passed with the collector as it was
    when it finds none. -/
theorem runsTo_phase (snapshotId : Option String) {found : List Diagnostic}
    (herr : ∀ d ∈ found, d.severity = .error)
    (next : DiagnosticCollector → Checked ValidationReport)
    (hnext : RunsTo (fun max => next (.new max)) validatedAt registry) :
    RunsTo (fun max => if ((DiagnosticCollector.new max).pushAll found).hasErrors then
      .ok (invalidReport none none snapshotId ((DiagnosticCollector.new max).pushAll found)
        validatedAt)
      else next ((DiagnosticCollector.new max).pushAll found)) validatedAt registry := by
  by_cases hfound : found = []
  · subst hfound
    exact hnext
  · refine Or.inl fun max => ?_
    simp only [hasErrors_pushAll herr hfound, if_true]
    exact refused_pushAll _ _ _ herr hfound

/-- A refused run reports an error and no identity, within its bound. -/
theorem Refused.report {x : Checked ValidationReport} {max : Nat} {validatedAt : String}
    (hrun : Refused x max validatedAt) (hmax : 1 ≤ max) :
    ∃ report, x = .ok report ∧ report.validation.valid = false ∧
      report.validation.diagnostics.length ≤ max ∧
      (∃ d ∈ report.validation.diagnostics, d.severity = .error) ∧
      report.validation.semanticHash = none ∧ report.effectSummary = none ∧
      report.normalized = none := by
  obtain ⟨irVersion, programId, snapshotId, pushed, herr, hne, rfl⟩ := hrun
  have hwithin := DiagnosticCollector.pushAll_within (DiagnosticCollector.new_within max) pushed
  have honly := DiagnosticCollector.pushAll_onlyErrors (c := .new max) hmax
    (DiagnosticCollector.new_onlyErrors max) herr
  have hlength := DiagnosticCollector.finish_length hwithin
  rw [DiagnosticCollector.pushAll_max] at hlength
  exact ⟨_, rfl, rfl, hlength,
    DiagnosticCollector.finish_error hwithin honly (hasErrors_pushAll herr hne), rfl, rfl, rfl⟩

/-- An accepted run reports no error and every part of the identity, within its bound. -/
theorem AcceptedAs.report {x : Checked ValidationReport} {max : Nat} {validatedAt : String}
    {registry : SemanticRegistry} {program : AiosIr} {hash : String}
    (hrun : AcceptedAs x max validatedAt registry program hash) :
    ∃ report, x = .ok report ∧ report.validation.valid = true ∧
      report.validation.diagnostics.length ≤ max ∧
      (∀ d ∈ report.validation.diagnostics, d.severity ≠ .error) ∧
      report.validation.semanticHash = some hash ∧ report.effectSummary.isSome ∧
      report.normalized = some (semanticView program) := by
  obtain ⟨pushed, hwarn, rfl⟩ := hrun
  have hwithin := DiagnosticCollector.pushAll_within (DiagnosticCollector.new_within max) pushed
  have hlength := DiagnosticCollector.finish_length hwithin
  rw [DiagnosticCollector.pushAll_max] at hlength
  exact ⟨_, rfl, rfl, hlength, DiagnosticCollector.finish_noError
    (DiagnosticCollector.pushAll_noErrors (DiagnosticCollector.new_noErrors max) hwarn), rfl, rfl, rfl⟩

end

/-! ## 4. Every run -/

section
variable {env : ValidatorEnv} (h : Documented env) (v : Validator) (validatedAt : String)
include h

/-- A decoded program is accepted with its own hash, or refused for an error of the analysis. -/
theorem validateDecoded_runsTo (value : Json)
    (hbudgets : ∀ program, env.decode value = .ok program → SafeBudgets program) :
    RunsTo (fun max => validateDecoded env v value (.new max) validatedAt) validatedAt v.registry := by
  unfold validateDecoded
  cases hdecode : env.decode value with
  | error error => exact Or.inl fun max => refused_push _ _ _ rfl
  | ok program =>
    obtain ⟨hash, hhash⟩ := semanticHash_ok env.render env.digest (hbudgets program hdecode)
      (h.canonical _)
    by_cases hacc : Accepted program v.registry
    · refine Or.inr ⟨program, hash, fun max => ?_⟩
      obtain ⟨pushed, ⟨hrun, -, hwarn⟩ | ⟨-, hnot, -⟩⟩ :=
        analyze_traced program v.registry (d := .new max) rfl
      · have hclean := (DiagnosticCollector.pushAll_noErrors
          (DiagnosticCollector.new_noErrors max) hwarn).unseen
        refine ⟨pushed, hwarn, ?_⟩
        simp only [hrun, ok_bind, hclean, Bool.false_eq_true, if_false, finishReport,
          normalizeSemanticProgram_eq, hhash]
        rfl
      · exact absurd hacc hnot
    · refine Or.inl fun max => ?_
      obtain ⟨pushed, ⟨-, hyes, -⟩ | ⟨hrun, -, herr, hne⟩⟩ :=
        analyze_traced program v.registry (d := .new max) rfl
      · exact absurd hyes hacc
      · simp only [hrun, ok_bind, hasErrors_pushAll herr hne, if_true]
        exact refused_pushAll _ _ _ herr hne

theorem validateAgainstSchema_runsTo (value : Json) :
    RunsTo (fun max => validateAgainstSchema env v value (.new max) validatedAt) validatedAt
      v.registry := by
  unfold validateAgainstSchema
  cases hschema : env.compiledSchema with
  | error message =>
    refine Or.inl fun max => ?_
    have hseen : ((DiagnosticCollector.new max).push (.new .irSchemaType message)).hasErrors = true := by
      simp [Diagnostic.new, ValidatorReasonCode.severity]
    simp only [validateSchema, hseen, if_true]
    exact refused_push _ _ _ rfl
  | ok failures =>
    obtain ⟨clean, hclean, hpush⟩ := emitValidatorErrors_pushes (failures value)
    cases clean with
    | false =>
      refine Or.inl fun max => ?_
      obtain ⟨pushed, herr, hnil, hrun⟩ := hpush (.new max) rfl
      have hne : pushed ≠ [] := fun he => by simpa using hnil.mp he
      simp only [validateSchema, hrun, hasErrors_pushAll herr hne, if_true]
      exact refused_pushAll _ _ _ herr hne
    | true =>
      have hnone : failures value = [] := hclean rfl (h.justified failures hschema value)
      simp only [validateSchema, hnone, emitValidatorErrors]
      exact validateDecoded_runsTo h v validatedAt value fun program hdecode =>
        h.budgets failures hschema value program hnone hdecode

/-- **A parsed document ends alike under every bound.** -/
theorem validateValue_runsTo (value : Json) :
    RunsTo (fun max => validateValue env v value (.new max) validatedAt) validatedAt v.registry :=
  runsTo_phase _ (limitFindings_errors value v.limits) (validateDomain env v value · validatedAt)
    (runsTo_phase _ (domainPrechecks_errors value) (validateAgainstSchema env v value · validatedAt)
      (validateAgainstSchema_runsTo h v validatedAt value))

/-- **The bytes end alike under every bound.** -/
theorem validateBytesAt_runsTo (registry : SemanticRegistry) (limits : ValidationLimits)
    (bytes : List UInt8) :
    RunsTo (fun max => Validator.validateBytesAt env
      ⟨registry, { limits with maxDiagnostics := max }⟩ bytes validatedAt) validatedAt registry := by
  unfold Validator.validateBytesAt
  by_cases hstrict : registry.isStrictlyVerified = true
  · simp only [hstrict, Bool.not_true, Bool.false_eq_true, if_false]
    by_cases hsize : limits.maxDocumentBytes < bytes.length
    · simp only [hsize, if_true]
      exact Or.inl fun max => refused_push _ _ _ rfl
    · simp only [hsize, if_false]
      cases hparse : parseStrictJson env.serde env.positiveFinite bytes limits.maxDepth with
      | error error =>
        cases error <;> exact Or.inl fun max => refused_push _ _ _ rfl
      | ok value =>
        have hvalue := validateValue_runsTo h ⟨registry, limits⟩ validatedAt value
        exact hvalue
  · simp only [hstrict, Bool.not_false, if_true]
    exact Or.inl fun max => refused_push _ _ _ rfl

/-- **The bound on diagnostics never decides the verdict.** For every byte string and registry the
    validation returns; under any two bounds of at least one it gives the same verdict, hash, view
    and summary; it emits no more diagnostics than the bound; a refusal holds an error and no
    identity, an acceptance no error. -/
theorem bounds_never_decide (registry : SemanticRegistry) (limits : ValidationLimits)
    (bytes : List UInt8) :
    (∀ m n, 1 ≤ m → 1 ≤ n → ∃ a b,
      (Validator.new registry { limits with maxDiagnostics := m }).validateBytesAt env bytes
        validatedAt = .ok a ∧
      (Validator.new registry { limits with maxDiagnostics := n }).validateBytesAt env bytes
        validatedAt = .ok b ∧ SameReport a b) ∧
    ∀ m, 1 ≤ m → ∃ report,
      (Validator.new registry { limits with maxDiagnostics := m }).validateBytesAt env bytes
        validatedAt = .ok report ∧
      report.validation.diagnostics.length ≤ m ∧
      (report.validation.valid = false → (∃ d ∈ report.validation.diagnostics, d.severity = .error) ∧
        report.validation.semanticHash = none ∧ report.effectSummary = none ∧
        report.normalized = none) ∧
      (report.validation.valid = true →
        (∀ d ∈ report.validation.diagnostics, d.severity ≠ .error) ∧
        report.validation.semanticHash.isSome ∧ report.effectSummary.isSome ∧
        report.normalized.isSome) := by
  have hruns := validateBytesAt_runsTo h validatedAt registry limits.boundedForOutput bytes
  have hbounded : ∀ m, Validator.new registry { limits with maxDiagnostics := m } =
      ⟨registry, { limits.boundedForOutput with
        maxDiagnostics := min (max 1 m) maxOutputDiagnostics }⟩ := fun _ => rfl
  have hclamp : ∀ m, 1 ≤ m → 1 ≤ min (max 1 m) maxOutputDiagnostics ∧
      min (max 1 m) maxOutputDiagnostics ≤ m := by
    intro m hm
    simp only [maxOutputDiagnostics]
    omega
  refine ⟨fun m n hm hn => ?_, fun m hm => ?_⟩
  · simp only [hbounded]
    rcases hruns with hrefused | ⟨program, hash, haccepted⟩
    · obtain ⟨_, _, _, pushed, _, _, ha⟩ := hrefused (min (max 1 m) maxOutputDiagnostics)
      obtain ⟨_, _, _, pushed', _, _, hb⟩ := hrefused (min (max 1 n) maxOutputDiagnostics)
      exact ⟨_, _, ha, hb, invalidReport_same ..⟩
    · obtain ⟨pushed, _, ha⟩ := haccepted (min (max 1 m) maxOutputDiagnostics)
      obtain ⟨pushed', _, hb⟩ := haccepted (min (max 1 n) maxOutputDiagnostics)
      exact ⟨_, _, ha, hb, validReport_same ..⟩
  · obtain ⟨hpos, hle⟩ := hclamp m hm
    simp only [hbounded]
    rcases hruns with hrefused | ⟨program, hash, haccepted⟩
    · obtain ⟨report, hrun, hvalid, hlength, herr, hhash, hsummary, hview⟩ :=
        (hrefused (min (max 1 m) maxOutputDiagnostics)).report hpos
      exact ⟨report, hrun, by omega, fun _ => ⟨herr, hhash, hsummary, hview⟩,
        fun hv => by rw [hvalid] at hv; cases hv⟩
    · obtain ⟨report, hrun, hvalid, hlength, herr, hhash, hsummary, hview⟩ :=
        (haccepted (min (max 1 m) maxOutputDiagnostics)).report
      exact ⟨report, hrun, by omega, fun hv => (by rw [hvalid] at hv; cases hv),
        fun _ => ⟨herr, by rw [hhash]; rfl, hsummary, by rw [hview]; rfl⟩⟩

end

/-- The libraries on the document `0`: a number where the schema asks for an object. -/
def zeroEnv : ValidatorEnv where
  serde := {
    string := fun _ => none
    number := fun token => if token = [48] then some (.posInt 0) else none
    read := fun bytes => if bytes = [48] then .u64 0 else .failed "expected value at line 1 column 1"
    trailing := fun _ => none
    located := fun _ message => message ++ " at line 1 column 1" }
  positiveFinite := fun _ => false
  compiledSchema := .ok fun value => [.other ⟨"", "/type", value⟩]
  decode := fun _ => .error "invalid type: integer, expected struct AiosIr"
  digest := sampleDigest
  render := plainText

theorem zeroEnv_documented : Documented zeroEnv where
  canonical := fun value => ⟨_, rfl⟩
  justified := by
    intro failures hfailures value error herror
    cases hfailures
    rw [List.mem_singleton.mp herror]
    exact .leaf fun _ _ => by simp
  budgets := by
    intro failures hfailures value program hnone
    cases hfailures
    cases hnone

/-- The document `0` under the bounds one and two. -/
theorem zero_refused_alike : ∃ a b,
    (Validator.new sampleRegistry { ValidationLimits.default with maxDiagnostics := 1 }).validateBytesAt zeroEnv [48]
      "now" = .ok a ∧
    (Validator.new sampleRegistry { ValidationLimits.default with maxDiagnostics := 2 }).validateBytesAt zeroEnv [48]
      "now" = .ok b ∧ SameReport a b :=
  (bounds_never_decide zeroEnv_documented "now" sampleRegistry .default [48]).1 1 2 (by decide)
    (by decide)

end Aios
