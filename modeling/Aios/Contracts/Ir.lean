/-
  File:      Aios/Contracts/Ir.lean
  Subject:   The decoded AIOS IR v0.1 program (`aios-contracts/src/ir.rs`).

  The records of the decoder, field by field. A `BTreeMap<String, _>` is a key-ordered map
  (`Std.ExtTreeMap`), a `Vec` a list, a `u64` or `u8` budget a `Nat`. Members with a serde default
  (`required`, `media_types`, `destination_classes`, `locality`, `optional`) hold the value the
  decoder materialised; the spelling they had in the document is the matter of
  Ir/Authoring.lean. Each enumeration carries its serde name, which the canonical view writes.
-/
import Aios.Lib.Json

namespace Aios

open Lib

/-- Inert metadata: the one place where a program holds arbitrary JSON. -/
abbrev Metadata := Std.ExtTreeMap String Json

inductive ProgramKind where
  | taskGraph
  | skillGraph
  deriving DecidableEq, Repr

def ProgramKind.serde : ProgramKind → String
  | .taskGraph => "task_graph"
  | .skillGraph => "skill_graph"

structure ProgramInput where
  typeRef : String
  required : Bool
  mediaTypes : List String
  description : Option String
  deriving DecidableEq, Repr

inductive OperationKind where
  | invoke
  | verify
  deriving DecidableEq, Repr

def OperationKind.serde : OperationKind → String
  | .invoke => "invoke"
  | .verify => "verify"

/-- The `Debug` name, as diagnostics print it. -/
def OperationKind.debug : OperationKind → String
  | .invoke => "Invoke"
  | .verify => "Verify"

structure Operation where
  kind : OperationKind
  capability : String
  deriving DecidableEq, Repr

inductive ExecutionClass where
  | deterministic
  | boundedNondeterministic
  | probabilistic
  | opaqueExternal
  deriving DecidableEq, Repr

def ExecutionClass.serde : ExecutionClass → String
  | .deterministic => "deterministic"
  | .boundedNondeterministic => "bounded_nondeterministic"
  | .probabilistic => "probabilistic"
  | .opaqueExternal => "opaque_external"

def ExecutionClass.debug : ExecutionClass → String
  | .deterministic => "Deterministic"
  | .boundedNondeterministic => "BoundedNondeterministic"
  | .probabilistic => "Probabilistic"
  | .opaqueExternal => "OpaqueExternal"

/-- Where a value comes from: a program input or an output port of a node. -/
inductive ValueRef where
  | input (name : String)
  | node (node port : String)
  deriving DecidableEq, Repr

structure AuthorityRequest where
  action : String
  resource : String
  reason : Option String
  deriving DecidableEq, Repr

inductive EgressMode where
  | deny
  | policy
  deriving DecidableEq, Repr

def EgressMode.serde : EgressMode → String
  | .deny => "deny"
  | .policy => "policy"

def EgressMode.debug : EgressMode → String
  | .deny => "Deny"
  | .policy => "Policy"

structure Egress where
  mode : EgressMode
  destinationClasses : List String
  deriving DecidableEq, Repr

/-- Placement classes; the constructor `local` of the source is `onHost` (a Lean keyword). -/
inductive Locality where
  | onHost
  | peer
  | remote
  | hybrid
  deriving DecidableEq, Repr

def Locality.serde : Locality → String
  | .onHost => "local"
  | .peer => "peer"
  | .remote => "remote"
  | .hybrid => "hybrid"

inductive AcceleratorKind where
  | gpu
  | npu
  | dsp
  | fpga
  | other
  deriving DecidableEq, Repr

def AcceleratorKind.serde : AcceleratorKind → String
  | .gpu => "gpu"
  | .npu => "npu"
  | .dsp => "dsp"
  | .fpga => "fpga"
  | .other => "other"

structure AcceleratorConstraint where
  kind : AcceleratorKind
  minMemoryBytes : Option Nat
  optional : Bool
  deriving DecidableEq, Repr

structure Constraints where
  locality : List Locality
  maxLatencyMs : Option Nat
  maxCostMicrousd : Option Nat
  minMemoryBytes : Option Nat
  accelerator : Option AcceleratorConstraint
  deriving DecidableEq, Repr

inductive FailurePolicy where
  | stop
  | retry (maxAttempts : Nat)
  | fallback (fallbackCapabilities : List String)
  | replan (maxReplans : Nat)
  deriving DecidableEq, Repr

inductive CachePolicy where
  | never
  | deterministicOnly
  | contentAddressed
  deriving DecidableEq, Repr

def CachePolicy.serde : CachePolicy → String
  | .never => "never"
  | .deterministicOnly => "deterministic_only"
  | .contentAddressed => "content_addressed"

structure Node where
  id : String
  operation : Operation
  executionClass : ExecutionClass
  inputs : Std.ExtTreeMap String ValueRef
  outputs : Std.ExtTreeMap String String
  authorityRequests : List AuthorityRequest
  egress : Egress
  constraints : Option Constraints
  failure : FailurePolicy
  cache : CachePolicy
  description : Option String
  metadata : Option Metadata
  deriving DecidableEq

structure AiosIr where
  irVersion : String
  programId : String
  kind : ProgramKind
  inputs : Std.ExtTreeMap String ProgramInput
  nodes : List Node
  outputs : Std.ExtTreeMap String ValueRef
  metadata : Option Metadata
  deriving DecidableEq

/-- The fallback capabilities a failure policy lists (none unless it is a fallback policy). -/
def FailurePolicy.fallbacks : FailurePolicy → List String
  | .fallback cs => cs
  | _ => []

end Aios
