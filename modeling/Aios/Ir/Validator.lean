/-
  File:      Aios/Ir/Validator.lean
  Subject:   The validation of a decoded program (`aios-ir/src/validator.rs`, from the decoded
             program on) and its semantic hash (`aios-ir/src/hash.rs`).

  The report of a program is its verdict, and for a valid one the effect summary, the normalised
  view and the semantic hash. Programs that are the same up to order and prose get the same of all
  four (`order_and_prose_independent`). The program identifier and the diagnostics, which name
  positions, are the program's own.
-/
import Aios.Ir.Authoring
import Aios.Ir.Invariance
import Aios.Lib.Digest

namespace Aios

open Lib

/-! ## 1. The semantic hash -/

/-- The domain of the semantic hash: `AIOS-IR-SEMANTIC\0v0.1\0`. -/
def semanticHashDomain : List UInt8 := "AIOS-IR-SEMANTIC\x00v0.1\x00".toUTF8.toList

/-- The integers that RFC 8785 writes exactly. -/
def jcsSafe : Number → Bool
  | .posInt n => decide (n ≤ 9007199254740991)
  | .negInt n => decide (-9007199254740991 ≤ n)
  | .float _ => true

section Hash

variable (digest : Digest) (render : Json → String)

mutual

/-- Refuses the first integer outside the exact range. -/
def ensureJcsSafeNumbers : Json → Except String Unit
  | .num n => rejectIf (!jcsSafe n)
      ("integer " ++ render (.num n) ++ " exceeds the RFC 8785/I-JSON exact range")
  | .arr values => ensureJcsSafeElements values
  | .obj members => ensureJcsSafeMembers members
  | _ => .ok ()

@[inherit_doc ensureJcsSafeNumbers]
def ensureJcsSafeElements : List Json → Except String Unit
  | [] => .ok ()
  | value :: rest => do ensureJcsSafeNumbers value; ensureJcsSafeElements rest

@[inherit_doc ensureJcsSafeNumbers]
def ensureJcsSafeMembers : List (String × Json) → Except String Unit
  | [] => .ok ()
  | (_, value) :: rest => do ensureJcsSafeNumbers value; ensureJcsSafeMembers rest

end

/-- The tagged hash of the canonical bytes. -/
def semanticHash (value : Json) : Except String String := do
  ensureJcsSafeNumbers render value
  let canonical ← digest.canonical value
  return digest.tagged semanticHashDomain canonical

end Hash

/-! ## 2. The report -/

structure ValidationResult where
  valid : Bool
  irVersion : Option String
  programId : Option String
  semanticHash : Option String
  semanticHashProfile : Option String
  registrySnapshotId : Option String
  diagnostics : List Diagnostic
  diagnosticsTruncated : Bool
  validatedAt : String

structure ValidationReport where
  validation : ValidationResult
  effectSummary : Option EffectSummary
  normalized : Option Json

def invalidReport (irVersion programId registrySnapshotId : Option String)
    (collector : DiagnosticCollector) (validatedAt : String) : ValidationReport :=
  let (diagnostics, diagnosticsTruncated) := collector.finish
  { validation := {
      valid := false
      irVersion, programId
      semanticHash := none
      semanticHashProfile := none
      registrySnapshotId, diagnostics, diagnosticsTruncated, validatedAt }
    effectSummary := none
    normalized := none }

def validReport (program : AiosIr) (registry : SemanticRegistry) (summary : EffectSummary)
    (normalized : Json) (hash : String) (collector : DiagnosticCollector) (validatedAt : String) :
    ValidationReport :=
  let (diagnostics, diagnosticsTruncated) := collector.finish
  { validation := {
      valid := true
      irVersion := some program.irVersion
      programId := some program.programId
      semanticHash := some hash
      semanticHashProfile := some "aios-ir-v0.1"
      registrySnapshotId := some registry.snapshotId
      diagnostics, diagnosticsTruncated, validatedAt }
    effectSummary := some { summary with semanticProgramHash := hash, generatedAt := some validatedAt }
    normalized := some normalized }

/-! ## 3. The validation -/

section Validation

variable (digest : Digest) (render : Json → String)

/-- Identity and hash of an analysed program. -/
def finishReport (program : AiosIr) (registry : SemanticRegistry) (summary : Option EffectSummary)
    (collector : DiagnosticCollector) (validatedAt : String) : Checked ValidationReport :=
  let refused (error : String) : Checked ValidationReport :=
    .ok (invalidReport (some program.irVersion) (some program.programId) (some registry.snapshotId)
      (collector.push (.new .irCanonicalizationFailed error)) validatedAt)
  match normalizeSemanticProgram render program with
  | .error error => refused error
  | .ok normalized =>
      match semanticHash digest render normalized with
      | .error error => refused error
      | .ok hash => do
          let summary ← expect summary "valid analysis has a summary"
          return validReport program registry summary normalized hash collector validatedAt

/-- The validation of a decoded program against a registry. -/
def validateProgram (maxDiagnostics : Nat) (program : AiosIr) (registry : SemanticRegistry)
    (validatedAt : String) : Checked ValidationReport := do
  if !registry.isStrictlyVerified then
    return invalidReport none none none ((DiagnosticCollector.new maxDiagnostics).push
      (.new .registrySnapshotHashMismatch
        "registry snapshot was not loaded with strict identity verification")) validatedAt
  else
    let (summary, collector) ← analyze program registry (.new maxDiagnostics)
    if collector.hasErrors then
      return invalidReport (some program.irVersion) (some program.programId)
        (some registry.snapshotId) collector validatedAt
    else finishReport digest render program registry summary collector validatedAt

/-- What a report says of the program, beside its identifier and the diagnostics. -/
structure SameReport (a b : ValidationReport) : Prop where
  valid : a.validation.valid = b.validation.valid
  semanticHash : a.validation.semanticHash = b.validation.semanticHash
  effectSummary : a.effectSummary = b.effectSummary
  normalized : a.normalized = b.normalized

theorem invalidReport_same (a b c a' b' c' : Option String) (d d' : DiagnosticCollector)
    (t t' : String) : SameReport (invalidReport a b c d t) (invalidReport a' b' c' d' t') :=
  ⟨rfl, rfl, rfl, rfl⟩

theorem validReport_same {p q : AiosIr} {registry : SemanticRegistry} {summary : EffectSummary}
    {normalized : Json} {hash validatedAt : String} (d d' : DiagnosticCollector) :
    SameReport (validReport p registry summary normalized hash d validatedAt)
      (validReport q registry summary normalized hash d' validatedAt) :=
  ⟨rfl, rfl, rfl, rfl⟩

/-- Programs with one view are finished alike. -/
theorem finishReport_same {p q : AiosIr} (hview : semanticView p = semanticView q)
    (registry : SemanticRegistry) (summary : EffectSummary) (d d' : DiagnosticCollector)
    (validatedAt : String) :
    ∃ a b, finishReport digest render p registry (some summary) d validatedAt = .ok a ∧
      finishReport digest render q registry (some summary) d' validatedAt = .ok b ∧
      SameReport a b := by
  unfold finishReport
  rw [normalizeSemanticProgram_eq, normalizeSemanticProgram_eq, hview]
  simp only
  cases semanticHash digest render (semanticView q) with
  | error e => exact ⟨_, _, rfl, rfl, invalidReport_same ..⟩
  | ok hash => exact ⟨_, _, rfl, rfl, validReport_same d d'⟩

/-- Both analyses return, with one summary or none, and with errors exactly in the latter case. -/
theorem analyze_same {p q : AiosIr} (h : SameProgram p q) (registry : SemanticRegistry)
    (d : DiagnosticCollector) : ∃ o dp dq, analyze p registry d = .ok (o, dp) ∧
      analyze q registry d = .ok (o, dq) ∧
      ((Accepted p registry ∧ o = some (summaryOf p registry) ∧ dp.hasErrors = false ∧
          dq.hasErrors = false) ∨
        (o = none ∧ dp.hasErrors = true ∧ dq.hasErrors = true)) := by
  obtain ⟨op, dp, hp, ho⟩ := analyze_spec p registry d
  obtain ⟨oq, dq, hq, ho'⟩ := analyze_spec q registry d
  rcases ho with ⟨ha, rfl, hd⟩ | ⟨hn, rfl, hd⟩
  · rcases ho' with ⟨_, rfl, hd'⟩ | ⟨hn', _⟩
    · rw [← summaryOf_eq h ha.2.ids] at hq
      exact ⟨_, dp, dq, hp, hq, Or.inl ⟨ha.2, rfl, hd, hd'⟩⟩
    · exact absurd ⟨ha.1, h.accepted ha.2⟩ hn'
  · rcases ho' with ⟨ha', _⟩ | ⟨_, rfl, hd'⟩
    · exact absurd ⟨ha'.1, h.symm.accepted ha'.2⟩ hn
    · exact ⟨none, dp, dq, hp, hq, Or.inr ⟨rfl, hd, hd'⟩⟩

/-- **Order and prose independence.** The analyses of two programs that are the same up to order and
    prose both return, with the same verdict and the same summary; their normalised views agree
    wherever node identifiers are unique, as they are in every accepted program; and the validator
    reports the same verdict, summary, view and hash. -/
theorem order_and_prose_independent {p q : AiosIr} (h : SameProgram p q)
    (registry : SemanticRegistry) :
    (∀ d, ∃ o dp dq, analyze p registry d = .ok (o, dp) ∧ analyze q registry d = .ok (o, dq) ∧
      dp.hasErrors = dq.hasErrors ∧ (o.isSome → UniqueIds p)) ∧
    (UniqueIds p → normalizeSemanticProgram render p = normalizeSemanticProgram render q) ∧
    ∀ maxDiagnostics validatedAt, ∃ a b,
      validateProgram digest render maxDiagnostics p registry validatedAt = .ok a ∧
      validateProgram digest render maxDiagnostics q registry validatedAt = .ok b ∧
      SameReport a b := by
  refine ⟨fun d => ?_, fun hu => ?_, fun maxDiagnostics validatedAt => ?_⟩
  · obtain ⟨o, dp, dq, hp, hq, ho⟩ := analyze_same h registry d
    refine ⟨o, dp, dq, hp, hq, ?_, fun hsome => ?_⟩
    · rcases ho with ⟨_, _, h1, h2⟩ | ⟨_, h1, h2⟩
      · rw [h1, h2]
      · rw [h1, h2]
    · rcases ho with ⟨ha, _⟩ | ⟨rfl, _⟩
      · exact ha.ids
      · cases hsome
  · rw [normalizeSemanticProgram_eq, normalizeSemanticProgram_eq, (semanticView_eq_iff hu).mpr h]
  · unfold validateProgram
    by_cases hstrict : registry.isStrictlyVerified = true
    · obtain ⟨o, dp, dq, hp, hq, ho⟩ := analyze_same h registry (.new maxDiagnostics)
      rw [hstrict, hp, hq]
      simp only [Bool.not_true, Bool.false_eq_true, if_false, ok_bind]
      rcases ho with ⟨ha, rfl, h1, h2⟩ | ⟨rfl, h1, h2⟩
      · simp only [h1, h2, Bool.false_eq_true, if_false]
        exact finishReport_same digest render ((semanticView_eq_iff ha.ids).mpr h) registry _ dp dq
          validatedAt
      · simp only [h1, h2, if_true]
        exact ⟨_, _, rfl, rfl, invalidReport_same ..⟩
    · simp only [hstrict, Bool.not_false, if_true]
      exact ⟨_, _, rfl, rfl, invalidReport_same ..⟩

end Validation

/-- The program under another name, with other prose and its nodes in reverse. -/
def reworded (p : AiosIr) (name prose : String) : AiosIr :=
  { p with
    programId := name
    nodes := (p.nodes.map fun n => { n with description := some prose }).reverse }

theorem reworded_same (p : AiosIr) (name prose : String) : SameProgram p (reworded p name prose) where
  irVersion := rfl
  kind := rfl
  inputs := fun input => by
    show Option.Rel SameInput p.inputs[input]? p.inputs[input]?
    cases p.inputs[input]? with
    | none => exact .none
    | some i => exact .some ⟨rfl, rfl, .refl _⟩
  nodes := by
    refine ⟨p.nodes.map fun n => { n with description := some prose }, ?_,
      (List.reverse_perm _).symm⟩
    rw [List.forall₂_map_right_iff, List.forall₂_same]
    intro n _
    exact ⟨rfl, rfl, rfl, rfl, rfl, .refl _, ⟨rfl, .refl _⟩, ⟨.refl _, rfl, rfl, rfl, rfl⟩, rfl, rfl⟩
  outputs := rfl

/-- SHA-256 at the one input the sample hashes. -/
def sampleDigest : Digest :=
  knownDigest [(semanticHashDomain ++
      (plainText (semanticView (sampleProgram ["doc.post@1"]))).toUTF8.toList,
    ⟨[78, 142, 178, 197, 233, 232, 12, 44, 13, 65, 63, 191, 8, 117, 232, 12, 5, 150, 48, 201, 130, 212,
      49, 243, 188, 185, 232, 161, 24, 49, 125, 193], rfl⟩)]

theorem sample_reworded : ∃ a b,
    validateProgram sampleDigest (fun _ => "") 256 (sampleProgram ["doc.post@1"]) sampleRegistry "now" =
      .ok a ∧
    validateProgram sampleDigest (fun _ => "") 256
      (reworded (sampleProgram ["doc.post@1"]) "other" "prose") sampleRegistry "now" = .ok b ∧
    SameReport a b :=
  (order_and_prose_independent sampleDigest (fun _ => "")
    (reworded_same (sampleProgram ["doc.post@1"]) "other" "prose") sampleRegistry).2.2 256 "now"

end Aios
