/-
  File:      Aios/Ir/Diagnostics.lean
  Subject:   Bounded diagnostic collection (`aios-ir/src/diagnostics.rs`).

  A phase of the analysis only ever appends diagnostics, so a phase is modelled by the list it
  pushes and the collector by `pushAll`. Whether the collector has seen an error does not depend
  on its bound: `pushAll_hasErrors`.
-/
import Aios.Contracts.Diagnostics

namespace Aios

structure DiagnosticCollector where
  diagnostics : List Diagnostic
  max : Nat
  truncated : Bool
  sawError : Bool
  deriving DecidableEq, Repr

/-- Keeps the first `maximum` characters. -/
def truncateChars (value : String) (maximum : Nat) : String :=
  String.ofList (value.toList.take maximum)

namespace DiagnosticCollector

def new (max : Nat) : DiagnosticCollector := ⟨[], max, false, false⟩

/-- The text bounds of the output schema. -/
def bounded (d : Diagnostic) : Diagnostic :=
  { d with
    message := truncateChars d.message 4096
    nodeId := d.nodeId.map (truncateChars · 128)
    port := d.port.map (truncateChars · 128)
    capability := d.capability.map (truncateChars · 160)
    jsonPointer := d.jsonPointer.map (truncateChars · 1024)
    related := (d.related.take 16).map (truncateChars · 1024) }

def push (c : DiagnosticCollector) (d : Diagnostic) : DiagnosticCollector :=
  let sawError := c.sawError || d.severity = .error
  if c.diagnostics.length < c.max then
    { c with diagnostics := c.diagnostics ++ [bounded d], sawError }
  else
    { c with truncated := true, sawError }

def pushAll (c : DiagnosticCollector) (ds : List Diagnostic) : DiagnosticCollector := ds.foldl push c

def hasErrors (c : DiagnosticCollector) : Bool := c.sawError

def isTruncated (c : DiagnosticCollector) : Bool := c.truncated

/-- The collected diagnostics; a truncated list of more than one ends in the notice. -/
def finish (c : DiagnosticCollector) : List Diagnostic × Bool :=
  if c.truncated && decide (1 < c.max) then
    let notice := Diagnostic.new .irLimitDiagnostics
      "additional diagnostics were suppressed by the configured limit"
    let kept := if c.diagnostics.length = c.max then c.diagnostics.dropLast else c.diagnostics
    (kept ++ [notice], c.truncated)
  else (c.diagnostics, c.truncated)

@[simp] theorem push_hasErrors (c : DiagnosticCollector) (d : Diagnostic) :
    (c.push d).hasErrors = (c.hasErrors || decide (d.severity = .error)) := by
  unfold push hasErrors
  split <;> rfl

/-- **The collector has seen an error exactly when it had before or one of the list is.** -/
theorem pushAll_hasErrors (c : DiagnosticCollector) (ds : List Diagnostic) :
    (c.pushAll ds).hasErrors = (c.hasErrors || ds.any fun d => d.severity = .error) := by
  induction ds generalizing c with
  | nil => simp [pushAll]
  | cons d ds ih =>
      have e : c.pushAll (d :: ds) = (c.push d).pushAll ds := rfl
      rw [e, ih, push_hasErrors, List.any_cons, Bool.or_assoc]

/-! ## What a collector holds -/

/-- The bound holds, and only a full collector has dropped a diagnostic. -/
structure Within (c : DiagnosticCollector) : Prop where
  length_le : c.diagnostics.length ≤ c.max
  full : c.truncated = true → c.diagnostics.length = c.max

/-- Nothing but errors is held, and an error that was seen has left one. -/
structure OnlyErrors (c : DiagnosticCollector) : Prop where
  severity : ∀ d ∈ c.diagnostics, d.severity = .error
  held : c.hasErrors = true → c.diagnostics ≠ []

/-- No error was seen and none is held. -/
structure NoErrors (c : DiagnosticCollector) : Prop where
  severity : ∀ d ∈ c.diagnostics, d.severity ≠ .error
  unseen : c.hasErrors = false

@[simp] theorem push_max (c : DiagnosticCollector) (d : Diagnostic) : (c.push d).max = c.max := by
  unfold push
  split <;> rfl

variable {c : DiagnosticCollector}

theorem push_within (h : c.Within) (d : Diagnostic) : (c.push d).Within := by
  have hle := h.length_le
  unfold push
  by_cases hroom : c.diagnostics.length < c.max
  · rw [if_pos hroom]
    refine ⟨by simpa using Nat.succ_le_of_lt hroom, fun ht => ?_⟩
    have hfull := h.full ht
    omega
  · rw [if_neg hroom]
    refine ⟨hle, fun _ => ?_⟩
    simp only
    omega

theorem push_onlyErrors (hmax : 1 ≤ c.max) (h : c.OnlyErrors)
    {d : Diagnostic} (hd : d.severity = .error) : (c.push d).OnlyErrors := by
  unfold push
  by_cases hroom : c.diagnostics.length < c.max
  · rw [if_pos hroom]
    refine ⟨fun x hx => ?_, fun _ => by simp⟩
    rcases List.mem_append.mp hx with hx | hx
    · exact h.severity x hx
    · rw [List.mem_singleton.mp hx]
      exact hd
  · rw [if_neg hroom]
    refine ⟨h.severity, fun _ hnil => ?_⟩
    simp only at hnil
    rw [hnil, List.length_nil] at hroom
    omega

theorem push_noErrors (h : c.NoErrors) {d : Diagnostic}
    (hd : d.severity ≠ .error) : (c.push d).NoErrors := by
  have hunseen : (c.push d).hasErrors = false := by
    rw [push_hasErrors, h.unseen, decide_eq_false hd]
    rfl
  refine ⟨fun x hx => ?_, hunseen⟩
  unfold push at hx
  by_cases hroom : c.diagnostics.length < c.max
  · rw [if_pos hroom] at hx
    rcases List.mem_append.mp hx with hx | hx
    · exact h.severity x hx
    · rw [List.mem_singleton.mp hx]
      exact hd
  · rw [if_neg hroom] at hx
    exact h.severity x hx

@[simp] theorem pushAll_max (c : DiagnosticCollector) (ds : List Diagnostic) :
    (c.pushAll ds).max = c.max := by
  induction ds generalizing c with
  | nil => rfl
  | cons d ds ih => exact (ih (c.push d)).trans (push_max c d)

theorem pushAll_within (h : c.Within) (ds : List Diagnostic) : (c.pushAll ds).Within := by
  induction ds generalizing c with
  | nil => exact h
  | cons d ds ih => exact ih (push_within h d)

theorem pushAll_onlyErrors (hmax : 1 ≤ c.max) (h : c.OnlyErrors)
    {ds : List Diagnostic} (hds : ∀ d ∈ ds, d.severity = .error) : (c.pushAll ds).OnlyErrors := by
  induction ds generalizing c with
  | nil => exact h
  | cons d ds ih =>
      rw [List.forall_mem_cons] at hds
      exact ih (by rwa [push_max]) (push_onlyErrors hmax h hds.1) hds.2

theorem pushAll_noErrors (h : c.NoErrors) {ds : List Diagnostic}
    (hds : ∀ d ∈ ds, d.severity ≠ .error) : (c.pushAll ds).NoErrors := by
  induction ds generalizing c with
  | nil => exact h
  | cons d ds ih =>
      rw [List.forall_mem_cons] at hds
      exact ih (push_noErrors h hds.1) hds.2

theorem new_within (max : Nat) : (new max).Within := ⟨Nat.zero_le _, fun h => by cases h⟩

theorem new_onlyErrors (max : Nat) : (new max).OnlyErrors :=
  ⟨fun _ h => by simp [new] at h, fun h => by cases h⟩

theorem new_noErrors (max : Nat) : (new max).NoErrors := ⟨fun _ h => by simp [new] at h, rfl⟩

/-- **No more diagnostics are emitted than the bound.** -/
theorem finish_length (h : c.Within) : c.finish.1.length ≤ c.max := by
  have hle := h.length_le
  unfold finish
  split
  · rename_i ht
    simp only [Bool.and_eq_true, decide_eq_true_eq] at ht
    have hfull := h.full ht.1
    simp only [if_pos hfull, List.length_append, List.length_dropLast, List.length_cons,
      List.length_nil]
    omega
  · exact hle

/-- **An error is emitted when nothing but errors was pushed**: the notice takes the last place of
    more than one. -/
theorem finish_error (hwithin : c.Within) (h : c.OnlyErrors)
    (hseen : c.hasErrors = true) : ∃ d ∈ c.finish.1, d.severity = .error := by
  obtain ⟨d, ds, hds⟩ := List.exists_cons_of_ne_nil (h.held hseen)
  have hd : d.severity = .error := h.severity d (by rw [hds]; exact List.mem_cons_self)
  refine ⟨d, ?_, hd⟩
  unfold finish
  split
  · rename_i ht
    simp only [Bool.and_eq_true, decide_eq_true_eq] at ht
    have hfull := hwithin.full ht.1
    simp only [if_pos hfull]
    refine List.mem_append_left _ ?_
    rw [hds] at hfull ⊢
    obtain ⟨e, es, rfl⟩ : ∃ e es, ds = e :: es := by
      refine List.exists_cons_of_ne_nil ?_
      rintro rfl
      simp at hfull
      omega
    exact List.mem_cons_self
  · rw [hds]
    exact List.mem_cons_self

/-- No error is emitted when none was pushed: the notice is a warning. -/
theorem finish_noError (h : c.NoErrors) : ∀ d ∈ c.finish.1, d.severity ≠ .error := by
  intro d hd
  unfold finish at hd
  split at hd
  · simp only [List.mem_append, List.mem_singleton] at hd
    rcases hd with hd | rfl
    · refine h.severity d ?_
      split at hd
      · exact List.mem_of_mem_dropLast hd
      · exact hd
    · decide
  · exact h.severity d hd

end DiagnosticCollector

/-- A diagnostic with its context fields. -/
def contextual (code : ValidatorReasonCode) (message : String) (nodeId port capability : Option String)
    (jsonPointer : Option String) : Diagnostic :=
  { Diagnostic.new code message with nodeId, port, capability, jsonPointer }

@[simp] theorem contextual_code (code : ValidatorReasonCode) (message : String)
    (nodeId port capability jsonPointer : Option String) :
    (contextual code message nodeId port capability jsonPointer).code = code := rfl

@[simp] theorem contextual_severity (code : ValidatorReasonCode) (message : String)
    (nodeId port capability jsonPointer : Option String) :
    (contextual code message nodeId port capability jsonPointer).severity = code.severity := rfl

end Aios
