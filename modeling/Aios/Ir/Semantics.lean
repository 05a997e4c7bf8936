/-
  File:      Aios/Ir/Semantics.lean
  Subject:   THE REGISTRY-BACKED ANALYSIS OF A PROGRAM (`aios-ir/src/semantics.rs`): graph, types,
             effects, authority, egress, cache and fallbacks.

  Each phase returns the diagnostics it pushes, in push order; `analyze` feeds them to the
  collector and stops after the first phase that leaves an error, as the source does. A site where
  the source calls `expect` (or indexes a map) returns the message as an error: `Checked`. A set
  that is only asked for membership is a list, a set or map that is walked is key-ordered.
-/
import Aios.Ir.Diagnostics
import Aios.Lib.Kahn
import Aios.Lib.Search
import Aios.Registry.SemanticRegistry
import Mathlib.Data.List.Sort
import Mathlib.Data.String.Basic

namespace Aios

open Lib

/-- A computation that may stop at an `expect`, whose message is then the error. -/
abbrev Checked (α : Type) := Except String α

abbrev NodeIndex := Std.ExtTreeMap String Node

abbrev EffectSet := Std.ExtTreeSet EffectClass

/-! ## 1. Text helpers -/

/-- JSON-pointer escaping of a member name. -/
def escapePointer (value : String) : String :=
  String.ofList (value.toList.flatMap fun c =>
    if c = '~' then ['~', '0'] else if c = '/' then ['~', '1'] else [c])

/-- `str::starts_with`. -/
def startsWith (value start : String) : Bool := start.toList.isPrefixOf value.toList

/-! ## 2. Index and references -/

/-- Indexes the nodes by identifier; a repeated identifier replaces the entry and is reported. -/
def indexNodesFrom : Nat → List Node → NodeIndex → NodeIndex × List Diagnostic
  | _, [], nodes => (nodes, [])
  | index, node :: rest, nodes =>
      let found :=
        if nodes.contains node.id then
          [contextual .irGraphDuplicateNodeId s!"node ID '{node.id}' occurs more than once"
            (some node.id) none (some node.operation.capability) (some s!"/nodes/{index}/id")]
        else []
      let (nodes, later) := indexNodesFrom (index + 1) rest (nodes.insert node.id node)
      (nodes, found ++ later)

def indexNodes (program : AiosIr) : NodeIndex × List Diagnostic :=
  indexNodesFrom 0 program.nodes ∅

def validateValueRef (valueRef : ValueRef) (program : AiosIr) (nodes : NodeIndex)
    (consumer : Option Node) (consumerPort : Option String) (pointer : String) : List Diagnostic :=
  let report (code : ValidatorReasonCode) (message : String) : List Diagnostic :=
    [contextual code message (consumer.map (·.id)) consumerPort
      (consumer.map (·.operation.capability)) (some pointer)]
  match valueRef with
  | .input name =>
      if program.inputs.contains name then []
      else report .irReferenceInputNotFound s!"program input '{name}' does not exist"
  | .node node port =>
      match nodes[node]? with
      | none => report .irReferenceNodeNotFound s!"referenced node '{node}' does not exist"
      | some producer =>
          if producer.outputs.contains port then []
          else report .irReferencePortNotFound
            s!"node '{node}' has no declared output port '{port}'"

/-- The program inputs a node reads. -/
def consumedProgramInputs (node : Node) : List String :=
  node.inputs.toList.filterMap fun p =>
    match p.2 with
    | .input name => some name
    | .node _ _ => none

/-- An `input:` selector must name a program input the node reads. -/
def validateSelector (program : AiosIr) (node : Node) (nodeIndex : Nat)
    (request : AuthorityRequest × Nat) : List Diagnostic :=
  match stripPrefix "input:" request.1.resource with
  | none => []
  | some input =>
      if !program.inputs.contains input || !(consumedProgramInputs node).contains input then
        [contextual .irReferenceInputNotFound
          (s!"authority selector '{request.1.resource}' does not name a program input " ++
            "consumed by this node")
          (some node.id) none (some node.operation.capability)
          (some s!"/nodes/{nodeIndex}/authority_requests/{request.2}/resource")]
      else []

def validateNodeReferences (program : AiosIr) (nodes : NodeIndex) (node : Node) (nodeIndex : Nat) :
    List Diagnostic :=
  (node.inputs.toList.flatMap fun p =>
    validateValueRef p.2 program nodes (some node) (some p.1)
      s!"/nodes/{nodeIndex}/inputs/{escapePointer p.1}") ++
  node.authorityRequests.zipIdx.flatMap (validateSelector program node nodeIndex)

def validateOutputReference (program : AiosIr) (nodes : NodeIndex) (output : String × ValueRef) :
    List Diagnostic :=
  match output.2 with
  | .input _ =>
      [contextual .irOutputNotFound s!"program output '{output.1}' must resolve to a node output"
        none (some output.1) none (some s!"/outputs/{escapePointer output.1}")]
  | .node _ _ =>
      validateValueRef output.2 program nodes none (some output.1)
        s!"/outputs/{escapePointer output.1}"

def validateReferences (program : AiosIr) (nodes : NodeIndex) : List Diagnostic :=
  (program.nodes.zipIdx.flatMap fun p => validateNodeReferences program nodes p.1 p.2) ++
  program.outputs.toList.flatMap (validateOutputReference program nodes)

/-! ## 3. The data-flow graph -/

/-- The consumers of each producer. -/
abbrev ConsumerMap := Std.ExtTreeMap String (Std.ExtTreeSet String)

/-- The consumers recorded for a producer, in order. -/
def consumersOf (consumers : ConsumerMap) (id : String) : List String :=
  match consumers[id]? with
  | some next => next.toList
  | none => []

/-- Records one data-flow edge; only a new edge raises the consumer's counter. -/
def addEdge (consumer : String) (graph : ConsumerMap × Std.ExtTreeMap String Nat) (producer : String) :
    ConsumerMap × Std.ExtTreeMap String Nat :=
  let known := graph.1.getD producer ∅
  (graph.1.insert producer (known.insert consumer),
    if known.contains consumer then graph.2
    else graph.2.insert consumer (graph.2.getD consumer 0 + 1))

/-- The producers a node reads, port by port. -/
def producers (node : Node) : List String :=
  node.inputs.toList.filterMap fun p =>
    match p.2 with
    | .input _ => none
    | .node producer _ => some producer

def buildGraph (program : AiosIr) (nodes : NodeIndex) : ConsumerMap × Std.ExtTreeMap String Nat :=
  program.nodes.foldl (fun graph node => (producers node).foldl (addEdge node.id) graph)
    (∅, Std.ExtTreeMap.ofList (nodes.keys.map fun id => (id, 0)))

def validateAcyclic (program : AiosIr) (nodes : NodeIndex) : Checked (List Diagnostic) := do
  let (consumers, indegree) := buildGraph program nodes
  let ready : Std.ExtTreeSet String :=
    Std.ExtTreeSet.ofList ((indegree.toList.filter fun p => p.2 = 0).map Prod.fst)
  let final ← kahnLoop "consumer originates from indexed program node"
    "attempt to subtract with overflow" (consumersOf consumers) nodes.size ⟨indegree, ready, 0⟩
  if final.visited ≠ nodes.size then
    return [{ Diagnostic.new .irGraphCycle "program data-flow graph contains a cycle" with
      related := (final.indegree.toList.filter fun p => 0 < p.2).map Prod.fst }]
  else return []

/-! ## 4. Types and capabilities -/

def expectedRole : OperationKind → CapabilityRole
  | .invoke => .ordinary
  | .verify => .verifier

def validatePortShape (node : Node) (contract : CapabilityContract) (nodeIndex : Nat) :
    List Diagnostic :=
  let report (message port pointer : String) : List Diagnostic :=
    [contextual .irCapabilityPortMismatch message (some node.id) (some port)
      (some node.operation.capability) (some pointer)]
  (contract.inputs.toList.flatMap fun p =>
    if p.2.required && !node.inputs.contains p.1 then
      report s!"required capability input port '{p.1}' is missing" p.1 s!"/nodes/{nodeIndex}/inputs"
    else []) ++
  (node.inputs.toList.flatMap fun p =>
    if !contract.inputs.contains p.1 then
      report s!"input port '{p.1}' is not declared by the capability" p.1
        s!"/nodes/{nodeIndex}/inputs/{escapePointer p.1}"
    else []) ++
  (contract.outputs.toList.flatMap fun p =>
    if p.2.required && !node.outputs.contains p.1 then
      report s!"required capability output port '{p.1}' is missing" p.1
        s!"/nodes/{nodeIndex}/outputs"
    else []) ++
  node.outputs.toList.flatMap fun p =>
    match contract.outputs[p.1]? with
    | none => report s!"output port '{p.1}' is not declared by the capability" p.1
        s!"/nodes/{nodeIndex}/outputs/{escapePointer p.1}"
    | some specification =>
        if specification.typeRef ≠ p.2 then
          report (s!"declared output type '{p.2}' does not match capability type " ++
            s!"'{specification.typeRef}'") p.1 s!"/nodes/{nodeIndex}/outputs/{escapePointer p.1}"
        else []

/-- The type of a referenced value, and whether it is an optional program input. -/
def valueType (program : AiosIr) (nodes : NodeIndex) : ValueRef → Checked (String × Bool)
  | .input name => do
      let input ← expect program.inputs[name]? "references were validated before type analysis"
      return (input.typeRef, !input.required)
  | .node producer port => do
      let producer ← expect nodes[producer]? "references were validated before type analysis"
      let typeRef ← expect producer.outputs[port]? "ports were validated before type analysis"
      return (typeRef, false)

def validateFlowTypes (program : AiosIr) (nodes : NodeIndex) (node : Node)
    (contract : CapabilityContract) (nodeIndex : Nat) : Checked (List Diagnostic) :=
  collect node.inputs.toList fun p =>
    match contract.inputs[p.1]? with
    | none => .ok []
    | some expected => do
        let (actual, optionalProgramInput) ← valueType program nodes p.2
        let report (code : ValidatorReasonCode) (message : String) : List Diagnostic :=
          [contextual code message (some node.id) (some p.1) (some node.operation.capability)
            (some s!"/nodes/{nodeIndex}/inputs/{escapePointer p.1}")]
        return (if optionalProgramInput && expected.required then
            report .irOptionalInputToRequiredPort
              s!"optional program input cannot feed required port '{p.1}'"
          else []) ++
          if actual ≠ expected.typeRef then
            report .irTypeMismatch
              s!"value type '{actual}' does not match required type '{expected.typeRef}'"
          else []

/-- The checks of one node against the registry; the contract is returned when it resolves. -/
def validateNodeCapability (program : AiosIr) (registry : SemanticRegistry) (nodes : NodeIndex)
    (node : Node) (nodeIndex : Nat) : Checked (List Diagnostic × Option CapabilityContract) := do
  let report (code : ValidatorReasonCode) (message pointer : String) : List Diagnostic :=
    [contextual code message (some node.id) none (some node.operation.capability) (some pointer)]
  let outputTypes := node.outputs.toList.flatMap fun p =>
    if (registry.findType p.2).isNone then
      [contextual .irTypeNotFound s!"output '{p.1}' references unknown type '{p.2}'" (some node.id)
        (some p.1) (some node.operation.capability)
        (some s!"/nodes/{nodeIndex}/outputs/{escapePointer p.1}")]
    else []
  match registry.findCapability node.operation.capability with
  | none =>
      return (outputTypes ++ report .irCapabilityNotFound
        (s!"capability '{node.operation.capability}' is absent from the selected registry " ++
          "snapshot") s!"/nodes/{nodeIndex}/operation/capability", none)
  | some contract => do
      let role :=
        if contract.role ≠ expectedRole node.operation.kind then
          report .irCapabilityRoleMismatch
            (s!"operation kind {node.operation.kind.debug} is incompatible with capability role " ++
              contract.role.debug) s!"/nodes/{nodeIndex}/operation/kind"
        else []
      let executionClass :=
        if !contract.allowedExecutionClasses.contains node.executionClass then
          report .irExecutionClassIncompatible
            (s!"execution class {node.executionClass.debug} is outside the capability contract " ++
              "envelope") s!"/nodes/{nodeIndex}/execution_class"
        else []
      let flow ← validateFlowTypes program nodes node contract nodeIndex
      return (outputTypes ++ role ++ executionClass ++ validatePortShape node contract nodeIndex ++
        flow, some contract)

abbrev CapabilityMap := Std.ExtTreeMap String CapabilityContract

/-- Runs the node checks in order and collects the resolved contracts by node identifier. -/
def validateNodeCapabilities (program : AiosIr) (registry : SemanticRegistry) (nodes : NodeIndex) :
    Nat → List Node → CapabilityMap → Checked (List Diagnostic × CapabilityMap)
  | _, [], capabilities => .ok ([], capabilities)
  | nodeIndex, node :: rest, capabilities => do
      let (found, contract) ← validateNodeCapability program registry nodes node nodeIndex
      let capabilities := match contract with
        | some contract => capabilities.insert node.id contract
        | none => capabilities
      let (later, capabilities) ←
        validateNodeCapabilities program registry nodes (nodeIndex + 1) rest capabilities
      return (found ++ later, capabilities)

def validateInputType (registry : SemanticRegistry) (input : String × ProgramInput) :
    List Diagnostic :=
  if (registry.findType input.2.typeRef).isNone then
    [contextual .irTypeNotFound
      s!"input '{input.1}' references unknown type '{input.2.typeRef}'" none (some input.1) none
      (some s!"/inputs/{escapePointer input.1}/type")]
  else []

def validateTypesAndCapabilities (program : AiosIr) (registry : SemanticRegistry)
    (nodes : NodeIndex) : Checked (List Diagnostic × CapabilityMap) := do
  let inputs := program.inputs.toList.flatMap (validateInputType registry)
  let (found, capabilities) ← validateNodeCapabilities program registry nodes 0 program.nodes ∅
  return (inputs ++ found, capabilities)

/-! ## 5. Effects, authority and egress -/

/-- Every allowed placement is non-local. -/
def nonLocalOnly (node : Node) : Bool :=
  node.constraints.any fun constraints =>
    !constraints.locality.isEmpty && constraints.locality.all (· ≠ .onHost)

/-- The actions a node requests. -/
def requestedActions (node : Node) : List String := node.authorityRequests.map (·.action)

/-- Adds the effect a request implies. -/
def addRequestEffect (effects : EffectSet) (request : AuthorityRequest) : EffectSet :=
  match effectForAuthorityClass request.action with
  | some effect => effects.insert effect
  | none => effects

/-- The effects of a node: required ones, those of its requests, those of its placement. -/
def derivedEffects (contract : CapabilityContract) (node : Node) : EffectSet :=
  let required : EffectSet :=
    Std.ExtTreeSet.ofList (contract.requiredEffectClasses.filter (· ≠ .pure))
  let requested := node.authorityRequests.foldl addRequestEffect required
  let placed :=
    if nonLocalOnly node then
      if node.inputs.isEmpty then requested.insert .network
      else (requested.insert .network).insert .dataEgress
    else requested
  if placed.isEmpty then placed.insert .pure else placed

/-- The checks on the requests, left to right; `pairs` are the (action, resource) pairs so far. -/
def validateRequests (contract : CapabilityContract) (node : Node) (nodeIndex : Nat) :
    List (String × String) → Nat → List AuthorityRequest → List Diagnostic
  | _, _, [] => []
  | pairs, requestIndex, request :: rest =>
      let report (code : ValidatorReasonCode) (message : String) (pointer : String) :
          List Diagnostic :=
        [contextual code message (some node.id) none (some node.operation.capability)
          (some (s!"/nodes/{nodeIndex}/authority_requests/{requestIndex}" ++ pointer))]
      (if pairs.contains (request.action, request.resource) then
        report .irAuthorityDuplicateRequest
          s!"authority request ('{request.action}', '{request.resource}') is duplicated" ""
      else []) ++
      (if !contract.allowedAuthorityClasses.contains request.action then
        report .irAuthorityClassNotAllowed
          (s!"authority class '{request.action}' is outside the capability contract envelope")
          "/action"
      else []) ++
      (if (effectForAuthorityClass request.action).isNone then
        report .irEffectClassNotAllowed
          (s!"authority class '{request.action}' has no closed-profile effect mapping") "/action"
      else []) ++
      validateRequests contract node nodeIndex ((request.action, request.resource) :: pairs)
        (requestIndex + 1) rest

/-- `artifact.read` must cover every artifact program input bound to an artifact port. -/
def validateRequiredArtifactReadResources (program : AiosIr) (node : Node)
    (contract : CapabilityContract) (reportedCapability : String) (nodeIndex : Nat) :
    List Diagnostic :=
  node.inputs.toList.flatMap fun p =>
    match p.2 with
    | .node _ _ => []
    | .input name =>
        match contract.inputs[p.1]?, program.inputs[name]? with
        | some portContract, some programInput =>
            if !startsWith portContract.typeRef "artifact." ||
                !startsWith programInput.typeRef "artifact." then []
            else if node.authorityRequests.any fun request =>
                request.action = "artifact.read" && request.resource = "input:" ++ name then []
            else
              [contextual .irRequiredAuthorityMissing
                (s!"required artifact.read authority does not cover accessed resource " ++
                  s!"'input:{name}'")
                (some node.id) (some p.1) (some reportedCapability)
                (some s!"/nodes/{nodeIndex}/authority_requests")]
        | _, _ => []

def validateRequiredAuthorities (program : AiosIr) (contract : CapabilityContract) (node : Node)
    (nodeIndex : Nat) : List Diagnostic :=
  contract.requiredAuthorityClasses.flatMap fun required =>
    if !(requestedActions node).contains required then
      [contextual .irRequiredAuthorityMissing
        s!"required authority class '{required}' was not requested" (some node.id) none
        (some node.operation.capability) (some s!"/nodes/{nodeIndex}/authority_requests")]
    else if required = "artifact.read" then
      validateRequiredArtifactReadResources program node contract node.operation.capability nodeIndex
    else []

def requirePlacementAuthority (node : Node) (nodeIndex : Nat) (action : String) : List Diagnostic :=
  if !(requestedActions node).contains action then
    [contextual .irRequiredAuthorityMissing
      s!"non-local-only placement requires authority class '{action}'" (some node.id) none
      (some node.operation.capability) (some s!"/nodes/{nodeIndex}/authority_requests")]
  else []

def validatePlacement (node : Node) (nodeIndex : Nat) : List Diagnostic :=
  if nonLocalOnly node then
    requirePlacementAuthority node nodeIndex "network.connect" ++
      if node.inputs.isEmpty then [] else requirePlacementAuthority node nodeIndex "data.egress"
  else []

def validateAllowedEffects (contract : CapabilityContract) (node : Node) (effects : EffectSet)
    (nodeIndex : Nat) : List Diagnostic :=
  effects.toList.flatMap fun effect =>
    if !contract.allowedEffectClasses.contains effect then
      [contextual .irEffectClassNotAllowed
        s!"derived effect {effect.debug} is outside the capability contract envelope"
        (some node.id) none (some node.operation.capability)
        (some s!"/nodes/{nodeIndex}/authority_requests")]
    else []

/-- The resources of a node's `data.egress` requests. -/
def dataEgressResources (node : Node) : List String :=
  (node.authorityRequests.filter (·.action = "data.egress")).map (·.resource)

def validateEgress (node : Node) (contract : CapabilityContract) (effects : EffectSet)
    (nodeIndex : Nat) : List Diagnostic :=
  let report (code : ValidatorReasonCode) (message pointer : String) : List Diagnostic :=
    [contextual code message (some node.id) none (some node.operation.capability)
      (some (s!"/nodes/{nodeIndex}/egress" ++ pointer))]
  (if !contract.allowedEgressModes.contains node.egress.mode then
    report .irEgressNotAllowed
      s!"egress mode {node.egress.mode.debug} is outside the capability contract envelope" "/mode"
  else []) ++
  match node.egress.mode with
  | .deny =>
      if !node.egress.destinationClasses.isEmpty || !(dataEgressResources node).isEmpty ||
          effects.contains .dataEgress then
        report .irEgressContradiction
          "deny egress cannot name destinations or request data.egress authority" ""
      else []
  | .policy =>
      let expected := node.egress.destinationClasses.map ("destination:" ++ ·)
      if expected.isEmpty || expected.any (!(dataEgressResources node).contains ·) ||
          (dataEgressResources node).any (!expected.contains ·) then
        report .irEgressAuthorityMismatch
          "policy egress destinations must exactly match data.egress authority selectors" ""
      else []

def validateCache (node : Node) (nodeIndex : Nat) : List Diagnostic :=
  if node.cache ≠ .never && node.executionClass ≠ .deterministic then
    [contextual .irCacheExecutionClassMismatch
      "non-deterministic execution cannot use deterministic or content-addressed caching"
      (some node.id) none (some node.operation.capability) (some s!"/nodes/{nodeIndex}/cache")]
  else []

/-- The effect checks of one node. -/
def validateNodeEffects (program : AiosIr) (contract : CapabilityContract) (node : Node)
    (nodeIndex : Nat) : List Diagnostic :=
  validateRequests contract node nodeIndex [] 0 node.authorityRequests ++
  validateRequiredAuthorities program contract node nodeIndex ++
  validatePlacement node nodeIndex ++
  validateAllowedEffects contract node (derivedEffects contract node) nodeIndex ++
  validateEgress node contract (derivedEffects contract node) nodeIndex ++
  validateCache node nodeIndex

abbrev EffectMap := Std.ExtTreeMap String EffectSet

def validateEffectsFrom (program : AiosIr) (capabilities : CapabilityMap) :
    Nat → List Node → EffectMap → Checked (List Diagnostic × EffectMap)
  | _, [], allEffects => .ok ([], allEffects)
  | nodeIndex, node :: rest, allEffects => do
      let contract ← expect capabilities[node.id]?
        "capabilities were resolved before effect analysis"
      let found := validateNodeEffects program contract node nodeIndex
      let (later, allEffects) ← validateEffectsFrom program capabilities (nodeIndex + 1) rest
        (allEffects.insert node.id (derivedEffects contract node))
      return (found ++ later, allEffects)

def validateEffects (program : AiosIr) (capabilities : CapabilityMap) :
    Checked (List Diagnostic × EffectMap) :=
  validateEffectsFrom program capabilities 0 program.nodes ∅

/-! ## 6. Fallbacks -/

abbrev FallbackRelation := Std.ExtTreeMap String (Std.ExtTreeSet String)

/-- Adds the fallbacks of one node to those of its primary capability. -/
def addFallbacks (relation : FallbackRelation) (node : Node) : FallbackRelation :=
  match node.failure with
  | .fallback fallbackCapabilities =>
      relation.insert node.operation.capability
        (fallbackCapabilities.foldl (fun fallbacks ref => fallbacks.insert ref)
          (relation.getD node.operation.capability ∅))
  | _ => relation

/-- The union over all nodes of primary capability to fallback capability. -/
def buildFallbackRelation (program : AiosIr) : FallbackRelation :=
  program.nodes.foldl addFallbacks ∅

/-- The fallbacks recorded for a capability, in order. -/
def fallbacksOf (relation : FallbackRelation) (capability : String) : List String :=
  match relation[capability]? with
  | some fallbacks => fallbacks.toList
  | none => []

/-- The rounds a search over the relation can take. -/
def fallbackFuel (relation : FallbackRelation) : Nat :=
  1 + (relation.keys.map fun capability => (fallbacksOf relation capability).length).sum

def fallbackPathExists (relation : FallbackRelation) (start target : String) : Bool :=
  search (fallbacksOf relation) (· = target) (fallbackFuel relation) [start] []

/-- The port a reference reads of `node`. -/
def readPort (node : Node) : ValueRef → Option String
  | .node producer port => if producer = node.id then some port else none
  | .input _ => none

/-- The ports of `node` that nodes and program outputs read, reference by reference. -/
def consumedPorts (program : AiosIr) (node : Node) : List String :=
  ((program.nodes.flatMap fun consumer => consumer.inputs.toList.map Prod.snd) ++
    program.outputs.toList.map Prod.snd).filterMap (readPort node)

/-- Every bound input has one type on primary and fallback, and a required fallback input is not
    bound to an optional program input. -/
def boundInputsMatch (program : AiosIr) (node : Node) (primary fallback : CapabilityContract) :
    Bool :=
  node.inputs.toList.all fun p =>
    match primary.inputs[p.1]?, fallback.inputs[p.1]? with
    | some primaryPort, some fallbackPort =>
        if fallbackPort.typeRef ≠ primaryPort.typeRef then false
        else !fallbackPort.required ||
          match p.2 with
          | .input name => !(program.inputs[name]?).any fun input => !input.required
          | .node _ _ => true
    | _, _ => false

def requiredFallbackInputsAreBound (node : Node) (fallback : CapabilityContract) : Bool :=
  fallback.inputs.toList.all fun p => !p.2.required || node.inputs.contains p.1

/-- Checks the consumed ports in order, up to the first mismatch. -/
def consumedOutputsMatch (node : Node) (fallback : CapabilityContract) :
    List String → Checked Bool
  | [] => .ok true
  | port :: ports => do
      let expectedType ← expect node.outputs[port]?
        "references were validated before fallback analysis"
      if (fallback.outputs[port]?).any fun fallbackPort => fallbackPort.typeRef = expectedType then
        consumedOutputsMatch node fallback ports
      else return false

def fallbackPortsCompatible (program : AiosIr) (node : Node)
    (primary fallback : CapabilityContract) : Checked Bool := do
  let consumed ← consumedOutputsMatch node fallback (consumedPorts program node)
  return boundInputsMatch program node primary fallback &&
    requiredFallbackInputsAreBound node fallback && consumed

/-- The checks of one listed fallback. -/
def validateFallback (program : AiosIr) (registry : SemanticRegistry) (relation : FallbackRelation)
    (node : Node) (primary : CapabilityContract) (effects : EffectSet) (nodeIndex : Nat)
    (listed : String × Nat) : Checked (List Diagnostic) := do
  let fallbackRef := listed.1
  let pointer := s!"/nodes/{nodeIndex}/failure/fallback_capabilities/{listed.2}"
  let report (code : ValidatorReasonCode) (message capability : String) : List Diagnostic :=
    [contextual code message (some node.id) none (some capability) (some pointer)]
  if fallbackRef = node.operation.capability then
    return report .irFailurePolicyRecursiveFallback "fallback chain contains its primary capability"
      node.operation.capability
  else
    let recursive :=
      if fallbackPathExists relation fallbackRef node.operation.capability then
        report .irFailurePolicyRecursiveFallback
          "fallback relation contains a multi-capability cycle" node.operation.capability
      else []
    match registry.findCapability fallbackRef with
    | none =>
        return recursive ++ report .irCapabilityNotFound
          s!"fallback capability '{fallbackRef}' is not in the registry" fallbackRef
    | some fallback => do
        let reads :=
          if fallback.requiredAuthorityClasses.any (· = "artifact.read") then
            validateRequiredArtifactReadResources program node fallback fallbackRef nodeIndex
          else []
        let portsCompatible ← fallbackPortsCompatible program node primary fallback
        let ports :=
          if !portsCompatible then
            report .irFallbackPortMismatch
              (s!"fallback capability '{fallbackRef}' cannot satisfy the node's bound inputs or " ++
                "graph-consumed outputs") fallbackRef
          else []
        let executionClass :=
          if !fallback.allowedExecutionClasses.contains node.executionClass then
            report .irExecutionClassIncompatible
              s!"fallback capability '{fallbackRef}' cannot run with the node execution class"
              fallbackRef
          else []
        let role :=
          if fallback.role ≠ expectedRole node.operation.kind then
            report .irCapabilityRoleMismatch
              (s!"fallback capability '{fallbackRef}' has role {fallback.role.debug}, expected " ++
                (expectedRole node.operation.kind).debug) fallbackRef
          else []
        let effectEnvelope :=
          if (fallback.allowedEffectClasses.filter (· ≠ .pure)).any (!effects.contains ·) then
            report .irFallbackEffectBroadening
              s!"fallback capability '{fallbackRef}' broadens the effect envelope" fallbackRef
          else []
        let authorityEnvelope :=
          if fallback.allowedAuthorityClasses.any (!(requestedActions node).contains ·) then
            report .irFallbackAuthorityBroadening
              s!"fallback capability '{fallbackRef}' broadens the authority envelope" fallbackRef
          else []
        let egressEnvelope :=
          if node.egress.mode = .deny && fallback.allowedEgressModes.any (· ≠ .deny) then
            report .irFallbackEgressBroadening
              s!"fallback capability '{fallbackRef}' broadens the egress envelope" fallbackRef
          else []
        return recursive ++ reads ++ ports ++ executionClass ++ role ++ effectEnvelope ++
          authorityEnvelope ++ egressEnvelope

/-- The checks of one node's fallback list. -/
def validateNodeFallbacks (program : AiosIr) (registry : SemanticRegistry)
    (capabilities : CapabilityMap) (nodeEffects : EffectMap) (node : Node) (nodeIndex : Nat) :
    Checked (List Diagnostic) :=
  match node.failure with
  | .fallback fallbackCapabilities => do
      let primary ← expect capabilities[node.id]?
        "primary capability was resolved before fallback analysis"
      let effects ← expect nodeEffects[node.id]?
        "node effects were derived before fallback analysis"
      collect fallbackCapabilities.zipIdx (validateFallback program registry
        (buildFallbackRelation program) node primary effects nodeIndex)
  | _ => .ok []

def validateFallbacks (program : AiosIr) (registry : SemanticRegistry) (capabilities : CapabilityMap)
    (nodeEffects : EffectMap) : Checked (List Diagnostic) :=
  collect program.nodes.zipIdx fun p =>
    validateNodeFallbacks program registry capabilities nodeEffects p.1 p.2

/-! ## 7. Unused pure nodes -/

/-- A set other than {PURE}. -/
def isEffectful (effects : EffectSet) : Bool := effects.size ≠ 1 || !effects.contains .pure

/-- The nodes program outputs refer to. -/
def outputNodes (program : AiosIr) : List String :=
  program.outputs.toList.filterMap fun p =>
    match p.2 with
    | .node node _ => some node
    | .input _ => none

def buildConsumers (program : AiosIr) : ConsumerMap :=
  program.nodes.foldl (fun consumers node =>
    (producers node).foldl (fun consumers producer =>
      consumers.insert producer ((consumers.getD producer ∅).insert node.id)) consumers) ∅

/-- The rounds a search over the consumers can take. -/
def consumerFuel (consumers : ConsumerMap) : Nat :=
  1 + (consumers.keys.map fun id => (consumersOf consumers id).length).sum

/-- Some node reached along the data flow is a program output's or has an effect. -/
def isUseful (program : AiosIr) (effects : EffectMap) (id : String) : Bool :=
  let consumers := buildConsumers program
  let effectful := (effects.toList.filter fun p => isEffectful p.2).map Prod.fst
  searchUnseen (consumersOf consumers)
    (fun candidate => (outputNodes program).contains candidate || effectful.contains candidate)
    (consumerFuel consumers) [id] []

def warnUnusedPureNode (program : AiosIr) (effects : EffectMap) (node : Node) (nodeIndex : Nat) :
    Checked (List Diagnostic) := do
  let nodeEffects ← expect effects[node.id]? "no entry found for key"
  if isEffectful nodeEffects then return []
  else if isUseful program effects node.id then return []
  else return [contextual .irGraphUnusedPureNode
    "pure node has no path to a program output or effectful node" (some node.id) none
    (some node.operation.capability) (some s!"/nodes/{nodeIndex}")]

def warnUnusedPureNodes (program : AiosIr) (effects : EffectMap) : Checked (List Diagnostic) :=
  collect program.nodes.zipIdx fun p => warnUnusedPureNode program effects p.1 p.2

/-! ## 8. The summary -/

/-- The nodes in identifier order; equal identifiers keep their order. -/
def orderedNodes (program : AiosIr) : List Node :=
  sortOn (·.id) program.nodes

/-- The distinct actions of a node, in order. -/
def nodeAuthorities (node : Node) : Std.ExtTreeSet String :=
  Std.ExtTreeSet.ofList (requestedActions node)

def nodeSummary (node : Node) (derived : EffectSet) : NodeEffectSummary where
  nodeId := node.id
  capability := node.operation.capability
  executionClass := node.executionClass
  effects := derived.toList
  authorityClasses := (nodeAuthorities node).toList
  egressMode := node.egress.mode
  verificationGate := node.operation.kind = .verify

/-- The loop of the summary over the ordered nodes: effects, authority classes, egress modes,
    node summaries and verification barriers so far. -/
structure SummaryState where
  effects : EffectSet
  authorityClasses : Std.ExtTreeSet String
  egressModes : Std.ExtTreeSet EgressMode
  nodes : List NodeEffectSummary
  verificationBarriers : List String

def summarizeNodes (nodeEffects : EffectMap) : List Node → SummaryState → Checked SummaryState
  | [], s => .ok s
  | node :: rest, s => do
      let derived ← expect nodeEffects[node.id]? "no entry found for key"
      summarizeNodes nodeEffects rest
        { effects := s.effects.insertMany derived.toList
          authorityClasses := s.authorityClasses.insertMany (nodeAuthorities node).toList
          egressModes := s.egressModes.insert node.egress.mode
          nodes := s.nodes ++ [nodeSummary node derived]
          verificationBarriers :=
            if node.operation.kind = .verify then s.verificationBarriers ++ [node.id]
            else s.verificationBarriers }

def buildSummary (program : AiosIr) (snapshotId semanticHash : String) (nodeEffects : EffectMap) :
    Checked EffectSummary := do
  let s ← summarizeNodes nodeEffects (orderedNodes program) ⟨∅, ∅, ∅, [], []⟩
  let effects := if 1 < s.effects.size then s.effects.erase .pure else s.effects
  return {
    schemaVersion := "0.1"
    semanticProgramHash := semanticHash
    registrySnapshotId := snapshotId
    effects := effects.toList
    authorityClasses := s.authorityClasses.toList
    egressModes := s.egressModes.toList
    containsProbabilistic := program.nodes.any (·.executionClass = .probabilistic)
    containsOpaqueExternal := program.nodes.any (·.executionClass = .opaqueExternal) ||
      nodeEffects.toList.any fun p => p.2.contains .legacyOpaque
    nodes := s.nodes
    verificationBarriers := s.verificationBarriers
    generatedBy := some ⟨some "org.ainative.aios-ir-validator", some "0.1.0"⟩
    generatedAt := none }

/-! ## 9. The analysis -/

abbrev Analysis := Checked (Option EffectSummary × DiagnosticCollector)

/-- Pushes what a phase found; the next phase is entered only while no error has been seen. -/
def afterPhase (diagnostics : DiagnosticCollector) (found : List Diagnostic)
    (next : DiagnosticCollector → Analysis) : Analysis :=
  let diagnostics := diagnostics.pushAll found
  if diagnostics.hasErrors then .ok (none, diagnostics) else next diagnostics

/-- The phases in order. -/
def analyze (program : AiosIr) (registry : SemanticRegistry) (diagnostics : DiagnosticCollector) :
    Analysis :=
  let (nodes, found) := indexNodes program
  afterPhase diagnostics found fun diagnostics =>
  afterPhase diagnostics (validateReferences program nodes) fun diagnostics => do
  let found ← validateAcyclic program nodes
  afterPhase diagnostics found fun diagnostics => do
  let (found, capabilities) ← validateTypesAndCapabilities program registry nodes
  afterPhase diagnostics found fun diagnostics => do
  let (found, nodeEffects) ← validateEffects program capabilities
  afterPhase diagnostics found fun diagnostics => do
  let found ← validateFallbacks program registry capabilities nodeEffects
  afterPhase diagnostics found fun diagnostics => do
  let found ← warnUnusedPureNodes program nodeEffects
  let summary ← buildSummary program registry.snapshotId "" nodeEffects
  return (some summary, diagnostics.pushAll found)

end Aios
