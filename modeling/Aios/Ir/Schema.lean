/-
  File:      Aios/Ir/Schema.lean
  Subject:   Schema failures as diagnostics (`aios-ir/src/schema.rs`).

  The failures of the schema library are data here (`SchemaError`): where a failure stands and
  what it is, the alternatives of a `oneOf` with their own failures. The emission walks them and
  stops at the first suppressed diagnostic. `emitsErrors` says what it pushes: there is one list
  of errors, whatever the collector, and the emission pushes it up to the suppressed one.
-/
import Aios.Lib.Json
import Aios.Ir.Diagnostics
import Mathlib.Data.List.MinMax
import Mathlib.Data.Prod.Lex
import Mathlib.Data.String.Basic

namespace Aios

open Lib

/-! ## 1. Failures -/

/-- Where a failure stands: the pointers into document and schema, and the value there. -/
structure ErrorSite where
  instancePath : String
  schemaPath : String
  value : Json

/-- A failure of the schema library. The kinds that bound a number, a length or a count are one
    kind (`range`), and so are the remaining ones (`other`). -/
inductive SchemaError where
  | required (site : ErrorSite) (property : Json)
  | pattern (site : ErrorSite) (pattern : String)
  | propertyNames (site : ErrorSite) (error : SchemaError)
  | additionalProperties (site : ErrorSite)
  | enumeration (site : ErrorSite)
  | constant (site : ErrorSite) (expected : Json)
  | oneOfNotValid (site : ErrorSite) (context : List (List SchemaError))
  | range (site : ErrorSite)
  | other (site : ErrorSite)

namespace SchemaError

def site : SchemaError → ErrorSite
  | required site _ | pattern site _ | propertyNames site _ | additionalProperties site
  | enumeration site | constant site _ | oneOfNotValid site _ | range site | other site => site

/-- The property a `required` failure at the path names. -/
def requiredAt (path : String) : SchemaError → Option String
  | required site property => if site.instancePath = path then property.asStr else none
  | _ => none

def isConstantAt (path : String) : SchemaError → Bool
  | constant site _ => site.instancePath = path
  | _ => false

end SchemaError

inductive JsonValueKind where
  | null
  | boolean
  | number
  | string
  | array
  | object
  deriving DecidableEq, Repr

def jsonValueKind : Json → JsonValueKind
  | .null => .null
  | .bool _ => .boolean
  | .num _ => .number
  | .str _ => .string
  | .arr _ => .array
  | .obj _ => .object

/-! ## 2. Discriminated unions -/

inductive OneOfResolution where
  | missing
  | wrongType
  | unsupported
  | selected (branch : List SchemaError)
  | ambiguous

/-- Every branch lacks one and the same required property of the parent. -/
def branchesShareMissingRequiredProperty (site : ErrorSite) (branches : List (List SchemaError)) :
    Bool :=
  match branches with
  | [] => false
  | first :: rest =>
    (first.filterMap (SchemaError.requiredAt site.instancePath)).any fun property =>
      rest.all fun branch =>
        branch.any fun child => child.requiredAt site.instancePath = some property

/-- A constant failure of a direct member: its path, the expected and the actual kind. -/
def directConstant (parentPath : String) : SchemaError → Option (String × JsonValueKind × JsonValueKind)
  | .constant site expected =>
    match stripStart (parentPath ++ "/").toList site.instancePath.toList with
    | some relative =>
      if relative ≠ [] ∧ '/' ∉ relative then
        some (site.instancePath, jsonValueKind expected, jsonValueKind site.value)
      else none
    | none => none
  | _ => none
where
  stripStart (start text : List Char) : Option (List Char) :=
    if start.isPrefixOf text then some (text.drop start.length) else none

def resolveDiscriminatedOneOf (site : ErrorSite) (branches : List (List SchemaError)) :
    OneOfResolution :=
  if jsonValueKind site.value ≠ .object then .wrongType
  else if branchesShareMissingRequiredProperty site branches then .missing
  else
    -- the constant failures must agree on the discriminator and on both kinds
    match branches.flatten.filterMap (directConstant site.instancePath) with
    | [] => .ambiguous
    | first :: rest =>
      if rest.any (· ≠ first) then .ambiguous
      else
        let (discriminatorPath, expectedKind, actualKind) := first
        match branches.filter fun branch =>
            !branch.any (SchemaError.isConstantAt discriminatorPath) with
        | [branch] => .selected branch
        | [] => if expectedKind ≠ actualKind then .wrongType else .unsupported
        | _ => .ambiguous

def classifySchemaFailure : SchemaError → ValidatorReasonCode
  | .required .. => .irSchemaRequired
  | .pattern .. => .irSchemaPattern
  | .propertyNames _ error => classifySchemaFailure error
  | .additionalProperties _ => .irSchemaAdditionalProperty
  | .enumeration _ | .constant .. => .irSchemaEnum
  | .oneOfNotValid site context =>
    match resolveDiscriminatedOneOf site context with
    | .missing => .irSchemaRequired
    | .unsupported => .irSchemaEnum
    | .wrongType | .selected _ | .ambiguous => .irSchemaType
  | .range _ => .irSchemaRange
  | .other _ => .irSchemaType

theorem classifySchemaFailure_severity : ∀ error, (classifySchemaFailure error).severity = .error
  | .required .. | .pattern .. | .additionalProperties _ | .enumeration _ | .constant ..
  | .range _ | .other _ => rfl
  | .propertyNames _ error => classifySchemaFailure_severity error
  | .oneOfNotValid site context => by
    unfold classifySchemaFailure
    split <;> rfl

/-! ## 3. Diagnostics -/

def sanitizedSchemaMessage : ValidatorReasonCode → String
  | .irSchemaRequired => "a required property is missing"
  | .irSchemaPattern => "a value does not match the required pattern"
  | .irSchemaAdditionalProperty => "an object contains an unsupported property"
  | .irSchemaEnum => "a value is outside the allowed set"
  | .irSchemaRange => "a value is outside the allowed bounds"
  | .irSchemaType => "a value has an invalid JSON type or structure"
  | _ => "the document violates the AIOS IR schema"

def schemaDiagnostic (error : SchemaError) (code : ValidatorReasonCode) : Diagnostic :=
  let instancePath := error.site.instancePath
  { Diagnostic.new code (sanitizedSchemaMessage code) with
    jsonPointer := some (if instancePath = "" then "/" else instancePath) }

/-- The detail that tells failures of one place apart; none, then required, then pattern. -/
def errorDetail : SchemaError → Nat × String
  | .required _ property => property.asStr.elim (0, "") fun p => (1, p)
  | .pattern _ pattern => (2, pattern)
  | _ => (0, "")

/-- The order failures of a selected branch are emitted in. -/
abbrev StructuredErrorKey := String ×ₗ String ×ₗ String ×ₗ Nat ×ₗ String

def structuredErrorKey (error : SchemaError) : StructuredErrorKey :=
  toLex (error.site.instancePath, toLex ((classifySchemaFailure error).asStr,
    toLex (error.site.schemaPath, toLex (errorDetail error))))

/-- The failures whose key is above the one emitted last. -/
def pendingFailures (errors : List SchemaError) (previous : Option StructuredErrorKey) :
    List SchemaError :=
  errors.filter fun error => previous.elim true fun p => p < structuredErrorKey error

/-- The first failure with the least pending key. -/
def nextFailure (errors : List SchemaError) (previous : Option StructuredErrorKey) :
    Option SchemaError :=
  (pendingFailures errors previous).argmin structuredErrorKey

theorem nextFailure_mem {errors : List SchemaError} {previous : Option StructuredErrorKey}
    {error : SchemaError} (h : nextFailure errors previous = some error) :
    error ∈ pendingFailures errors previous := List.argmin_mem h

/-- Emitting a failure leaves fewer pending. -/
theorem pendingFailures_lt {errors : List SchemaError} {previous : Option StructuredErrorKey}
    {error : SchemaError} (h : nextFailure errors previous = some error) :
    (pendingFailures errors (some (structuredErrorKey error))).length <
      (pendingFailures errors previous).length := by
  have hmem := nextFailure_mem h
  have habove : ∀ p ∈ previous, p < structuredErrorKey error := by
    intro p hp
    have hpending := (List.mem_filter.mp hmem).2
    rw [Option.mem_def.mp hp] at hpending
    simpa using hpending
  have hnarrow : pendingFailures errors (some (structuredErrorKey error)) =
      (pendingFailures errors previous).filter fun e =>
        structuredErrorKey error < structuredErrorKey e := by
    rw [pendingFailures, pendingFailures, List.filter_filter]
    refine List.filter_congr fun e _ => ?_
    cases previous with
    | none => simp
    | some p =>
      have hp := habove p rfl
      simp only [Option.elim_some, ← Bool.decide_and]
      exact decide_eq_decide.mpr ⟨fun he => ⟨he, hp.trans he⟩, fun he => he.1⟩
  rw [hnarrow, List.length_filter_lt_length_iff_exists]
  exact ⟨error, hmem, by simp⟩

/-! ## 4. Emission -/

theorem selected_mem {site : ErrorSite} {context : List (List SchemaError)}
    {branch : List SchemaError} (h : resolveDiscriminatedOneOf site context = .selected branch) :
    branch ∈ context := by
  unfold resolveDiscriminatedOneOf at h
  split at h
  · cases h
  · split at h
    · cases h
    · split at h
      · cases h
      · split at h
        · cases h
        · simp only at h
          split at h
          · rename_i hfilter
            cases h
            exact List.mem_of_mem_filter (hfilter ▸ List.mem_singleton_self _)
          · split at h <;> cases h
          · cases h

mutual

def emitSchemaFailure (error : SchemaError) (diagnostics : DiagnosticCollector) :
    DiagnosticCollector :=
  match error with
  | .oneOfNotValid site context =>
    match h : resolveDiscriminatedOneOf site context with
    | .selected branch =>
      have _ : sizeOf branch < sizeOf context := List.sizeOf_lt_of_mem (selected_mem h)
      emitSelectedBranchFailures branch none diagnostics
    | .missing =>
      diagnostics.push (schemaDiagnostic (.oneOfNotValid site context) .irSchemaRequired)
    | .wrongType | .ambiguous =>
      diagnostics.push (schemaDiagnostic (.oneOfNotValid site context) .irSchemaType)
    | .unsupported =>
      diagnostics.push (schemaDiagnostic (.oneOfNotValid site context) .irSchemaEnum)
  | error => diagnostics.push (schemaDiagnostic error (classifySchemaFailure error))
termination_by (sizeOf error, 0)

/-- The loop over the failures of a branch, in key order. -/
def emitSelectedBranchFailures (errors : List SchemaError) (previous : Option StructuredErrorKey)
    (diagnostics : DiagnosticCollector) : DiagnosticCollector :=
  match h : nextFailure errors previous with
  | none => diagnostics
  | some error =>
    have _ : sizeOf error < sizeOf errors :=
      List.sizeOf_lt_of_mem (List.mem_of_mem_filter (nextFailure_mem h))
    have _ := pendingFailures_lt h
    let diagnostics := emitSchemaFailure error diagnostics
    if diagnostics.isTruncated then diagnostics
    else emitSelectedBranchFailures errors (some (structuredErrorKey error)) diagnostics
termination_by (sizeOf errors, (pendingFailures errors previous).length)

end

def emitValidatorErrors : List SchemaError → DiagnosticCollector → DiagnosticCollector
  | [], diagnostics => diagnostics
  | error :: rest, diagnostics =>
    let diagnostics := emitSchemaFailure error diagnostics
    if diagnostics.isTruncated then diagnostics else emitValidatorErrors rest diagnostics

/-- The validation against the compiled schema, or the text of its compilation failure. -/
def validateSchema (compiled : Except String (Json → List SchemaError)) (value : Json)
    (diagnostics : DiagnosticCollector) : Except String DiagnosticCollector :=
  match compiled with
  | .error message => .error message
  | .ok failures => .ok (emitValidatorErrors (failures value) diagnostics)

/-! ## 5. What is emitted -/

/-- Pushes diagnostics up to the first suppressed one. -/
def pushUntil (c : DiagnosticCollector) : List Diagnostic → DiagnosticCollector
  | [] => c
  | d :: ds => if (c.push d).isTruncated then c.push d else pushUntil (c.push d) ds

theorem pushUntil_append {c : DiagnosticCollector} (hc : c.isTruncated = false)
    (a b : List Diagnostic) : pushUntil c (a ++ b) =
      if (pushUntil c a).isTruncated then pushUntil c a else pushUntil (pushUntil c a) b := by
  induction a generalizing c with
  | nil => simp [pushUntil, hc]
  | cons d a ih =>
    by_cases hd : (c.push d).isTruncated = true
    · simp [pushUntil, hd]
    · have hstep : pushUntil c (d :: a) = pushUntil (c.push d) a := if_neg hd
      rw [hstep, ← ih (by simpa using hd)]
      exact if_neg hd

/-- The schema library's failures of a `oneOf`: no alternative holds, so each has a failure. -/
inductive Justified : SchemaError → Prop where
  | leaf {error : SchemaError} (h : ∀ site context, error ≠ .oneOfNotValid site context) :
      Justified error
  | oneOf {site : ErrorSite} {context : List (List SchemaError)}
      (hne : ∀ branch ∈ context, branch ≠ [])
      (h : ∀ branch ∈ context, ∀ error ∈ branch, Justified error) :
      Justified (.oneOfNotValid site context)

/-- The emission pushes one list of errors up to the suppressed one, whatever the collector; the
    list is not empty where `some` holds. -/
def EmitsErrors (emit : DiagnosticCollector → DiagnosticCollector) (some : Prop) : Prop :=
  ∃ found : List Diagnostic, (∀ d ∈ found, d.severity = .error) ∧ (some → found ≠ []) ∧
    ∀ c : DiagnosticCollector, c.isTruncated = false → emit c = pushUntil c found

theorem emitsErrors_push (error : SchemaError) {code : ValidatorReasonCode}
    (hcode : code.severity = .error) (some : Prop) :
    EmitsErrors (fun c => c.push (schemaDiagnostic error code)) some := by
  refine ⟨[schemaDiagnostic error code], ?_, by simp, fun c _ => ?_⟩
  · intro d hd
    rw [List.mem_singleton.mp hd]
    exact hcode
  · simp only [pushUntil]
    split <;> rfl

/-- One emission after another, the second only while nothing is suppressed. -/
theorem EmitsErrors.andThen {first second : DiagnosticCollector → DiagnosticCollector}
    {p q : Prop} (hfirst : EmitsErrors first p) (hsecond : EmitsErrors second q) :
    EmitsErrors (fun c => if (first c).isTruncated then first c else second (first c)) p := by
  obtain ⟨a, ha, hane, hfirst⟩ := hfirst
  obtain ⟨b, hb, -, hsecond⟩ := hsecond
  refine ⟨a ++ b, fun d hd => ?_, fun hp => ?_, fun c hc => ?_⟩
  · exact (List.mem_append.mp hd).elim (ha d) (hb d)
  · simp [hane hp]
  · rw [pushUntil_append hc, ← hfirst c hc]
    by_cases ht : (first c).isTruncated = true
    · simp only [ht, if_true]
    · simp only [ht, hsecond _ (by simpa using ht)]

theorem EmitsErrors.congr {emit other : DiagnosticCollector → DiagnosticCollector} {p : Prop}
    (h : EmitsErrors emit p) (heq : ∀ c, other c = emit c) : EmitsErrors other p := by
  rw [funext heq]
  exact h

theorem emitsErrors_classified {error : SchemaError}
    (h : ∀ c, emitSchemaFailure error c =
      c.push (schemaDiagnostic error (classifySchemaFailure error))) :
    EmitsErrors (emitSchemaFailure error) (Justified error) :=
  (emitsErrors_push error (classifySchemaFailure_severity error) _).congr h

mutual

/-- **A failure is emitted as one list of errors**, whatever the collector holds. -/
theorem emitSchemaFailure_spec (error : SchemaError) :
    EmitsErrors (emitSchemaFailure error) (Justified error) := by
  match error with
  | .oneOfNotValid site context =>
    cases h : resolveDiscriminatedOneOf site context with
    | selected branch =>
      have hmem := selected_mem h
      have _ : sizeOf branch < sizeOf context := List.sizeOf_lt_of_mem hmem
      obtain ⟨found, herr, hne, hemit⟩ := emitSelectedBranchFailures_spec branch none
      refine EmitsErrors.congr ⟨found, herr, fun hj => ?_, hemit⟩ fun c => ?_
      · cases hj with
        | leaf hleaf => exact absurd rfl (hleaf site context)
        | oneOf hbranches hall =>
          refine hne ⟨hall branch hmem, ?_⟩
          simpa [pendingFailures] using hbranches branch hmem
      · rw [emitSchemaFailure]
        split <;> simp_all
    | missing | wrongType | ambiguous | unsupported =>
      refine emitsErrors_classified fun c => ?_
      rw [emitSchemaFailure, classifySchemaFailure]
      split <;> simp_all
  | .required .. | .pattern .. | .propertyNames .. | .additionalProperties _ | .enumeration _
  | .constant .. | .range _ | .other _ =>
    refine emitsErrors_classified fun c => ?_
    rw [emitSchemaFailure]
    simp
termination_by (sizeOf error, 0)

theorem emitSelectedBranchFailures_spec (errors : List SchemaError)
    (previous : Option StructuredErrorKey) :
    EmitsErrors (emitSelectedBranchFailures errors previous)
      ((∀ error ∈ errors, Justified error) ∧ pendingFailures errors previous ≠ []) := by
  cases h : nextFailure errors previous with
  | none =>
    refine ⟨[], by simp, fun hne => absurd (List.argmin_eq_none.mp h) hne.2, fun c _ => ?_⟩
    rw [emitSelectedBranchFailures]
    split
    · rfl
    · simp_all
  | some error =>
    have hmem := List.mem_of_mem_filter (nextFailure_mem h)
    have _ : sizeOf error < sizeOf errors := List.sizeOf_lt_of_mem hmem
    have _ := pendingFailures_lt h
    obtain ⟨found, herr, hne, hemit⟩ := (emitSchemaFailure_spec error).andThen
      (emitSelectedBranchFailures_spec errors (some (structuredErrorKey error)))
    refine ⟨found, herr, fun hj => hne (hj.1 error hmem), fun c hc => ?_⟩
    rw [emitSelectedBranchFailures, ← hemit c hc]
    split
    · simp_all
    · rename_i e he
      rw [h, Option.some.injEq] at he
      rw [he]
termination_by (sizeOf errors, (pendingFailures errors previous).length)

end

theorem emitValidatorErrors_spec (errors : List SchemaError) :
    EmitsErrors (emitValidatorErrors errors)
      (errors ≠ [] ∧ ∀ error ∈ errors, Justified error) := by
  induction errors with
  | nil => exact ⟨[], by simp, fun h => absurd rfl h.1, fun c _ => rfl⟩
  | cons error rest ih =>
    obtain ⟨found, herr, hne, hemit⟩ := (emitSchemaFailure_spec error).andThen ih
    exact ⟨found, herr, fun hj => hne (hj.2 error List.mem_cons_self), hemit⟩

/-- Pushing up to the suppressed one pushes a part of the list, and none of it only when there is
    none. -/
theorem pushUntil_eq_pushAll (c : DiagnosticCollector) (ds : List Diagnostic) :
    ∃ pushed, pushed <+: ds ∧ (pushed = [] → ds = []) ∧ pushUntil c ds = c.pushAll pushed := by
  induction ds generalizing c with
  | nil => exact ⟨[], List.prefix_refl [], fun h => h, rfl⟩
  | cons d ds ih =>
    simp only [pushUntil]
    by_cases ht : (c.push d).isTruncated = true
    · rw [if_pos ht]
      exact ⟨[d], ⟨ds, rfl⟩, fun h => by simp at h, rfl⟩
    · rw [if_neg ht]
      obtain ⟨pushed, hpre, -, hrun⟩ := ih (c.push d)
      exact ⟨d :: pushed, (List.cons_prefix_cons.mpr ⟨rfl, hpre⟩), fun h => by simp at h, hrun⟩

/-- **The schema phase.** It pushes nothing but errors, and it pushes none under one bound of the
    collector exactly when it pushes none under any; a clean phase has met no failure. -/
theorem emitValidatorErrors_pushes (errors : List SchemaError) :
    ∃ clean : Bool, (clean = true → (∀ error ∈ errors, Justified error) → errors = []) ∧
      ∀ c : DiagnosticCollector, c.isTruncated = false → ∃ pushed : List Diagnostic,
        (∀ d ∈ pushed, d.severity = .error) ∧ (pushed = [] ↔ clean = true) ∧
        emitValidatorErrors errors c = c.pushAll pushed := by
  obtain ⟨found, hfound, hne, hemit⟩ := emitValidatorErrors_spec errors
  refine ⟨decide (found = []), fun hclean hj => ?_, fun c hc => ?_⟩
  · by_contra hsome
    exact hne ⟨hsome, hj⟩ (of_decide_eq_true hclean)
  · obtain ⟨pushed, hpre, hnil, hrun⟩ := pushUntil_eq_pushAll c found
    refine ⟨pushed, fun d hd => hfound d (hpre.subset hd), ?_, ?_⟩
    · rw [decide_eq_true_eq]
      exact ⟨hnil, fun h => by simpa [h] using hpre⟩
    · rw [hemit c hc, hrun]

end Aios
