/-
  File:      Aios/Ir/Limits.lean
  Subject:   The limits of a document and the checks before its schema (`aios-ir/src/limits.rs`,
             `domain_prechecks` of `aios-ir/src/validator.rs`).

  Each check is the list of what it finds. None of it is a warning: `limitFindings_errors`,
  `domainPrechecks_errors`.
-/
import Aios.Ir.Diagnostics
import Aios.Ir.Parse

namespace Aios

open Lib

structure ValidationLimits where
  maxDocumentBytes : Nat
  maxDepth : Nat
  maxNodes : Nat
  maxPortsPerInterface : Nat
  maxAuthorityRequestsPerNode : Nat
  maxFallbacksPerNode : Nat
  maxStringChars : Nat
  maxDiagnostics : Nat
  deriving DecidableEq, Repr

/-- `ValidationLimits::default`. -/
def ValidationLimits.default : ValidationLimits where
  maxDocumentBytes := 1048576
  maxDepth := 64
  maxNodes := 512
  maxPortsPerInterface := 128
  maxAuthorityRequestsPerNode := 32
  maxFallbacksPerNode := 3
  maxStringChars := 16384
  maxDiagnostics := 256

def maxOutputDiagnostics : Nat := 256

/-- The limits a validator works with: depth and diagnostics inside the supported range. -/
def ValidationLimits.boundedForOutput (limits : ValidationLimits) : ValidationLimits :=
  { limits with
    maxDepth := min limits.maxDepth maxSupportedJsonDepth
    maxDiagnostics := min (max 1 limits.maxDiagnostics) maxOutputDiagnostics }

inductive LimitViolation where
  | nodeCount
  | portCount
  | authorityRequestCount
  | fallbackCount
  | stringLength
  deriving DecidableEq, Repr

/-! ## 1. Limits -/

/-- The array under a key, as a list; empty when there is none. -/
def arrayAt (value : Json) (key : String) : List Json := ((value.get? key).bind Json.asArr).getD []

/-- The sizes of the interfaces of a program or node. -/
def interfaceSizes (value : Json) : List Nat :=
  ["inputs", "outputs"].filterMap fun name => ((value.get? name).bind Json.asObj).map List.length

def interfaces (value : Json) : List Nat :=
  interfaceSizes value ++ (arrayAt value "nodes").flatMap interfaceSizes

mutual

/-- A member name or string above the limit, at any depth. -/
def containsLongString (maxChars : Nat) : Json → Bool
  | .str s => maxChars < s.length
  | .arr values => elementsLongString maxChars values
  | .obj members => membersLongString maxChars members
  | .null | .bool _ | .num _ => false

@[inherit_doc containsLongString]
def elementsLongString (maxChars : Nat) : List Json → Bool
  | [] => false
  | value :: rest => containsLongString maxChars value || elementsLongString maxChars rest

@[inherit_doc containsLongString]
def membersLongString (maxChars : Nat) : List (String × Json) → Bool
  | [] => false
  | (key, value) :: rest =>
    (maxChars < key.length || containsLongString maxChars value) || membersLongString maxChars rest

end

def inspectValueLimits (value : Json) (limits : ValidationLimits) : List LimitViolation :=
  let nodes := arrayAt value "nodes"
  (if limits.maxNodes < nodes.length then [.nodeCount] else []) ++
  (if (interfaces value).any (limits.maxPortsPerInterface < ·) then [.portCount] else []) ++
  (if nodes.any fun node =>
      limits.maxAuthorityRequestsPerNode < (arrayAt node "authority_requests").length
    then [.authorityRequestCount] else []) ++
  (if nodes.any fun node => (node.get? "failure").any fun failure =>
      limits.maxFallbacksPerNode < (arrayAt failure "fallback_capabilities").length
    then [.fallbackCount] else []) ++
  (if containsLongString limits.maxStringChars value then [.stringLength] else [])

def LimitViolation.diagnostic : LimitViolation → Diagnostic
  | .nodeCount => .new .irLimitNodeCount "program exceeds the configured node limit"
  | .portCount => .new .irLimitPortCount "an interface exceeds the configured port limit"
  | .authorityRequestCount =>
    .new .irLimitAuthorityRequestCount "a node exceeds the configured authority-request limit"
  | .fallbackCount => .new .irLimitFallbackCount "a node exceeds the configured fallback limit"
  | .stringLength =>
    .new .irLimitStringLength "a JSON member name or string exceeds the configured string limit"

def limitFindings (value : Json) (limits : ValidationLimits) : List Diagnostic :=
  (inspectValueLimits value limits).map LimitViolation.diagnostic

theorem limitFindings_errors (value : Json) (limits : ValidationLimits) :
    ∀ d ∈ limitFindings value limits, d.severity = .error := by
  intro d hd
  obtain ⟨violation, -, rfl⟩ := List.mem_map.mp hd
  cases violation <;> rfl

/-! ## 2. Checks before the schema -/

/-- A retry or replan policy without its budget. -/
def missingBudget (failure : List (String × Json)) : Bool :=
  let onError := (failure.lookup "on_error").bind Json.asStr
  (onError = some "retry" && (failure.lookup "max_attempts").isNone) ||
    (onError = some "replan" && (failure.lookup "max_replans").isNone)

/-- A denied egress that names destinations. -/
def contradictoryEgress (egress : List (String × Json)) : Bool :=
  (egress.lookup "mode").bind Json.asStr = some "deny" &&
    ((egress.lookup "destination_classes").bind Json.asArr).any fun destinations => destinations ≠ []

def nodePrechecks (index : Nat) (node : Json) : List Diagnostic :=
  (if ((node.get? "failure").bind Json.asObj).any missingBudget then
    [{ Diagnostic.new .irFailurePolicyUnbounded
        "retry and replan failure policies require an explicit finite budget" with
      jsonPointer := some ("/nodes/" ++ toString index ++ "/failure") }] else []) ++
  (if ((node.get? "egress").bind Json.asObj).any contradictoryEgress then
    [{ Diagnostic.new .irEgressContradiction "deny egress cannot name destination classes" with
      jsonPointer := some ("/nodes/" ++ toString index ++ "/egress") }] else [])

def domainPrechecks (value : Json) : List Diagnostic :=
  if ((value.get? "ir_version").bind Json.asStr).any (· ≠ "0.1") then
    [.new .irVersionUnsupported "IR version is not supported; expected 0.1"]
  else ((arrayAt value "nodes").mapIdx nodePrechecks).flatten

theorem nodePrechecks_errors (index : Nat) (node : Json) :
    ∀ d ∈ nodePrechecks index node, d.severity = .error := by
  intro d hd
  unfold nodePrechecks at hd
  rcases List.mem_append.mp hd with hd | hd
  · split at hd
    · rw [List.mem_singleton.mp hd]
      rfl
    · cases hd
  · split at hd
    · rw [List.mem_singleton.mp hd]
      rfl
    · cases hd

theorem domainPrechecks_errors (value : Json) :
    ∀ d ∈ domainPrechecks value, d.severity = .error := by
  intro d hd
  unfold domainPrechecks at hd
  split at hd
  · rw [List.mem_singleton.mp hd]
    rfl
  · obtain ⟨found, hfound, hd⟩ := List.mem_flatten.mp hd
    obtain ⟨i, hi, rfl⟩ := List.mem_mapIdx.mp hfound
    exact nodePrechecks_errors i _ d hd

end Aios
