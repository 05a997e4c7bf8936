/-
  File:      Aios/Ir/Authoring.lean
  Subject:   The program as it is written (`specs/aios-ir.schema.json`), its decoding, and the exact
             extent of semantic identity.

  A written member with a serde default may be absent: `required` of an input, `optional` of an
  accelerator, the set-like lists and `constraints`. The schema asks a written `locality` to name a
  place, so its list is not empty (`Placement`). `decode` fills in the defaults.

  `Agree` compares two written programs member by member and says what may differ: program_id,
  metadata, descriptions, reasons, the order of the set-like lists and of the nodes, the spelling of
  defaults. `semantic_identity_exact` says that the normalised programs are equal exactly then.
-/
import Aios.Ir.Guarantees
import Aios.Ir.Identity

namespace Aios

open Lib

namespace Authored

/-! ## 1. The written program -/

structure ProgramInput where
  typeRef : String
  required : Option Bool
  mediaTypes : Option (List String)
  description : Option String

structure Egress where
  mode : EgressMode
  destinationClasses : Option (List String)

structure AcceleratorConstraint where
  kind : AcceleratorKind
  minMemoryBytes : Option Nat
  optional : Option Bool

/-- The places a node may run at; a written list names at least one. -/
abbrev Placement := { l : List Locality // l ≠ [] }

structure Constraints where
  locality : Option Placement
  maxLatencyMs : Option Nat
  maxCostMicrousd : Option Nat
  minMemoryBytes : Option Nat
  accelerator : Option AcceleratorConstraint

structure Node where
  id : String
  operation : Operation
  executionClass : ExecutionClass
  inputs : Std.ExtTreeMap String ValueRef
  outputs : Std.ExtTreeMap String String
  authorityRequests : List AuthorityRequest
  egress : Egress
  constraints : Option Constraints
  failure : FailurePolicy
  cache : CachePolicy
  description : Option String
  metadata : Option Metadata

structure Program where
  irVersion : String
  programId : String
  kind : ProgramKind
  inputs : Std.ExtTreeMap String ProgramInput
  nodes : List Node
  outputs : Std.ExtTreeMap String ValueRef
  metadata : Option Metadata

/-! ## 2. Decoding -/

def ProgramInput.decode (i : ProgramInput) : Aios.ProgramInput where
  typeRef := i.typeRef
  required := i.required.getD true
  mediaTypes := i.mediaTypes.getD []
  description := i.description

def Egress.decode (e : Egress) : Aios.Egress where
  mode := e.mode
  destinationClasses := e.destinationClasses.getD []

def AcceleratorConstraint.decode (a : AcceleratorConstraint) : Aios.AcceleratorConstraint where
  kind := a.kind
  minMemoryBytes := a.minMemoryBytes
  optional := a.optional.getD false

def Constraints.decode (c : Constraints) : Aios.Constraints where
  locality := (c.locality.map Subtype.val).getD []
  maxLatencyMs := c.maxLatencyMs
  maxCostMicrousd := c.maxCostMicrousd
  minMemoryBytes := c.minMemoryBytes
  accelerator := c.accelerator.map AcceleratorConstraint.decode

def Node.decode (n : Node) : Aios.Node where
  id := n.id
  operation := n.operation
  executionClass := n.executionClass
  inputs := n.inputs
  outputs := n.outputs
  authorityRequests := n.authorityRequests
  egress := n.egress.decode
  constraints := n.constraints.map Constraints.decode
  failure := n.failure
  cache := n.cache
  description := n.description
  metadata := n.metadata

def Program.decode (p : Program) : AiosIr where
  irVersion := p.irVersion
  programId := p.programId
  kind := p.kind
  inputs := p.inputs.map fun _ i => i.decode
  nodes := p.nodes.map Node.decode
  outputs := p.outputs
  metadata := p.metadata

/-! ## 3. Agreement -/

/-- Absent counts as the empty list; the order is free. -/
def SameSet {α : Type} (a b : Option (List α)) : Prop := (a.getD []).Perm (b.getD [])

/-- Both absent, or both written with the same places. -/
def SamePlacement : Option Placement → Option Placement → Prop :=
  Option.Rel fun a b => a.val.Perm b.val

structure AgreeInput (a b : ProgramInput) : Prop where
  typeRef : a.typeRef = b.typeRef
  required : a.required.getD true = b.required.getD true
  mediaTypes : SameSet a.mediaTypes b.mediaTypes

structure AgreeAccelerator (a b : AcceleratorConstraint) : Prop where
  kind : a.kind = b.kind
  minMemoryBytes : a.minMemoryBytes = b.minMemoryBytes
  optional : a.optional.getD false = b.optional.getD false

structure AgreeConstraints (a b : Constraints) : Prop where
  locality : SamePlacement a.locality b.locality
  maxLatencyMs : a.maxLatencyMs = b.maxLatencyMs
  maxCostMicrousd : a.maxCostMicrousd = b.maxCostMicrousd
  minMemoryBytes : a.minMemoryBytes = b.minMemoryBytes
  accelerator : Option.Rel AgreeAccelerator a.accelerator b.accelerator

/-- The constraints of the empty object. -/
def Constraints.empty : Constraints := ⟨none, none, none, none, none⟩

structure AgreeNode (a b : Node) : Prop where
  id : a.id = b.id
  operation : a.operation = b.operation
  executionClass : a.executionClass = b.executionClass
  inputs : a.inputs = b.inputs
  outputs : a.outputs = b.outputs
  authorityRequests :
    (a.authorityRequests.map AuthorityRequest.pair).Perm (b.authorityRequests.map AuthorityRequest.pair)
  egressMode : a.egress.mode = b.egress.mode
  destinationClasses : SameSet a.egress.destinationClasses b.egress.destinationClasses
  constraints : AgreeConstraints (a.constraints.getD .empty) (b.constraints.getD .empty)
  failure : a.failure = b.failure
  cache : a.cache = b.cache

/-- The two programs agree, up to prose, authoring identity, order and the spelling of defaults. -/
structure Agree (p q : Program) : Prop where
  irVersion : p.irVersion = q.irVersion
  kind : p.kind = q.kind
  inputs : ∀ name : String, Option.Rel AgreeInput p.inputs[name]? q.inputs[name]?
  nodes : ∃ l, List.Forall₂ AgreeNode p.nodes l ∧ l.Perm q.nodes
  outputs : p.outputs = q.outputs

/-! ## 4. Agreement is sameness of the decoded programs -/

theorem samePlacement_iff (a b : Option Placement) : SamePlacement a b ↔
    ((a.map Subtype.val).getD []).Perm ((b.map Subtype.val).getD []) := by
  unfold SamePlacement
  cases a with
  | none =>
      cases b with
      | none => exact iff_of_true .none .nil
      | some b =>
          -- a written list is not empty, so it is no default
          refine iff_of_false (by intro h; cases h) fun h => b.property ?_
          exact h.nil_eq.symm
  | some a =>
      cases b with
      | none =>
          refine iff_of_false (by intro h; cases h) fun h => a.property ?_
          exact h.eq_nil
      | some b => exact Option.rel_some_some

theorem agreeAccelerator_iff (a b : Option AcceleratorConstraint) :
    Option.Rel AgreeAccelerator a b ↔
      a.map AcceleratorConstraint.decode = b.map AcceleratorConstraint.decode := by
  cases a with
  | none =>
      cases b with
      | none => exact iff_of_true .none rfl
      | some b => exact iff_of_false (by intro h; cases h) (by simp)
  | some a =>
      cases b with
      | none => exact iff_of_false (by intro h; cases h) (by simp)
      | some b =>
          rw [Option.rel_some_some, Option.map_some, Option.map_some, Option.some.injEq,
            AcceleratorConstraint.decode, AcceleratorConstraint.decode,
            Aios.AcceleratorConstraint.mk.injEq]
          exact ⟨fun h => ⟨h.kind, h.minMemoryBytes, h.optional⟩, fun h => ⟨h.1, h.2.1, h.2.2⟩⟩

theorem agreeInput_iff (a b : ProgramInput) : AgreeInput a b ↔ SameInput a.decode b.decode :=
  ⟨fun h => ⟨h.typeRef, h.required, h.mediaTypes⟩, fun h => ⟨h.typeRef, h.required, h.mediaTypes⟩⟩

theorem agreeConstraints_iff (a b : Constraints) :
    AgreeConstraints a b ↔ SameConstraints a.decode b.decode := by
  constructor
  · intro h
    exact ⟨(samePlacement_iff _ _).mp h.locality, h.maxLatencyMs, h.maxCostMicrousd,
      h.minMemoryBytes, (agreeAccelerator_iff _ _).mp h.accelerator⟩
  · intro h
    exact ⟨(samePlacement_iff _ _).mpr h.locality, h.maxLatencyMs, h.maxCostMicrousd,
      h.minMemoryBytes, (agreeAccelerator_iff _ _).mpr h.accelerator⟩

theorem decode_constraints_getD (c : Option Constraints) :
    (c.map Constraints.decode).getD .empty = (c.getD .empty).decode := by
  cases c <;> rfl

theorem agreeNode_iff (a b : Node) : AgreeNode a b ↔ SameNode a.decode b.decode := by
  have hc : AgreeConstraints (a.constraints.getD .empty) (b.constraints.getD .empty) ↔
      SameConstraints (a.decode.constraints.getD .empty) (b.decode.constraints.getD .empty) := by
    unfold Node.decode
    rw [decode_constraints_getD, decode_constraints_getD, agreeConstraints_iff]
  constructor
  · intro h
    exact ⟨h.id, h.operation, h.executionClass, h.inputs, h.outputs, h.authorityRequests,
      ⟨h.egressMode, h.destinationClasses⟩, hc.mp h.constraints, h.failure, h.cache⟩
  · intro h
    exact ⟨h.id, h.operation, h.executionClass, h.inputs, h.outputs, h.authorityRequests,
      h.egress.mode, h.egress.destinationClasses, hc.mpr h.constraints, h.failure, h.cache⟩

theorem agreeInputs_iff (x y : Option ProgramInput) : Option.Rel AgreeInput x y ↔
    Option.Rel SameInput (x.map ProgramInput.decode) (y.map ProgramInput.decode) := by
  cases x with
  | none =>
      cases y with
      | none => exact iff_of_true .none .none
      | some b => exact iff_of_false (by intro h; cases h) (by intro h; cases h)
  | some a =>
      cases y with
      | none => exact iff_of_false (by intro h; cases h) (by intro h; cases h)
      | some b =>
          rw [Option.map_some, Option.map_some, Option.rel_some_some, Option.rel_some_some,
            agreeInput_iff]

/-- Nodes that agree up to order decode to nodes that are the same up to order. -/
theorem agreeNodes_iff (l r : List Node) :
    (∃ m, List.Forall₂ AgreeNode l m ∧ m.Perm r) ↔
      ∃ m, List.Forall₂ SameNode (l.map Node.decode) m ∧ m.Perm (r.map Node.decode) := by
  constructor
  · intro ⟨m, hm, hp⟩
    refine ⟨m.map Node.decode, ?_, hp.map _⟩
    rw [List.forall₂_map_left_iff, List.forall₂_map_right_iff]
    exact hm.imp fun a b h => (agreeNode_iff a b).mp h
  · intro ⟨m, hm, hp⟩
    obtain ⟨m', hm', rfl⟩ := exists_perm_of_map hp
    rw [List.forall₂_map_left_iff, List.forall₂_map_right_iff] at hm
    exact ⟨m', hm.imp fun a b h => (agreeNode_iff a b).mpr h, hm'⟩

/-- **Two written programs agree exactly when they decode to the same program.** -/
theorem agree_iff (p q : Program) : Agree p q ↔ SameProgram p.decode q.decode := by
  have hinputs : (∀ name : String, Option.Rel AgreeInput p.inputs[name]? q.inputs[name]?) ↔
      ∀ name : String, Option.Rel SameInput p.decode.inputs[name]? q.decode.inputs[name]? := by
    refine forall_congr' fun name => ?_
    show _ ↔ Option.Rel SameInput (p.inputs.map fun _ i => i.decode)[name]?
      (q.inputs.map fun _ i => i.decode)[name]?
    rw [Std.ExtTreeMap.getElem?_map, Std.ExtTreeMap.getElem?_map]
    exact agreeInputs_iff _ _
  constructor
  · intro h
    exact ⟨h.irVersion, h.kind, hinputs.mp h.inputs, (agreeNodes_iff _ _).mp h.nodes, h.outputs⟩
  · intro h
    exact ⟨h.irVersion, h.kind, hinputs.mpr h.inputs, (agreeNodes_iff _ _).mpr h.nodes, h.outputs⟩

end Authored

/-! ## 5. Semantic identity is exact -/

/-- **Semantic identity is exact.** Two accepted programs normalise to the same value exactly when
    they agree on everything but authoring identity, prose, order and the spelling of defaults; it is
    enough that one of them is accepted. -/
theorem semantic_identity_exact (render : Json → String) {p q : Authored.Program}
    {registry : SemanticRegistry} {summary : EffectSummary}
    (h : Analyzed p.decode registry summary) :
    normalizeSemanticProgram render p.decode = normalizeSemanticProgram render q.decode ↔
      Authored.Agree p q := by
  rw [normalizeSemanticProgram_eq, normalizeSemanticProgram_eq, Except.ok.injEq,
    semanticView_eq_iff h.accepted.1.ids, Authored.agree_iff]

/-- The cleaning node, written with or without its empty members. -/
def writtenClean (empty : Option (List String)) (constraints : Option Authored.Constraints) :
    Authored.Node where
  id := "clean"
  operation := ⟨.invoke, "doc.clean@1"⟩
  executionClass := .deterministic
  inputs := .ofList [("doc", ValueRef.input "doc")]
  outputs := .ofList [("doc", "artifact.doc@1")]
  authorityRequests := []
  egress := ⟨.deny, empty⟩
  constraints := constraints
  failure := .stop
  cache := .never
  description := none
  metadata := none

/-- The sample as its author may write it. -/
def writtenSample (name : String) (required : Option Bool) (empty : Option (List String))
    (constraints : Option Authored.Constraints) : Authored.Program where
  irVersion := "0.1"
  programId := name
  kind := .taskGraph
  inputs := .ofList [("doc", (⟨"artifact.doc@1", required, empty, none⟩ : Authored.ProgramInput))]
  nodes := [writtenClean empty constraints]
  outputs := .ofList [("clean", ValueRef.node "clean" "doc")]
  metadata := none

/-- Two spellings of the sample: defaults left out, and defaults written. -/
theorem sample_spellings_agree : ∃ summary,
    Analyzed (writtenSample "terse" none none none).decode sampleRegistry summary ∧
    (normalizeSemanticProgram (fun _ => "") (writtenSample "terse" none none none).decode =
        normalizeSemanticProgram (fun _ => "")
          (writtenSample "full" (some true) (some []) (some .empty)).decode ↔
      Authored.Agree (writtenSample "terse" none none none)
        (writtenSample "full" (some true) (some []) (some .empty))) := by
  have haccepted : isAccepted (writtenSample "terse" none none none).decode sampleRegistry = true := by
    decide +kernel
  obtain ⟨summary, h⟩ := analyzed_of_isAccepted haccepted
  exact ⟨summary, h, semantic_identity_exact _ h⟩

end Aios
