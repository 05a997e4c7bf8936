/-
  File:      Aios/Ir/Normalize.lean
  Subject:   The canonical semantic view of a program (`aios-ir/src/normalize.rs`), over the serde
             projection of the decoded records (`aios-contracts/src/ir.rs`).

  The source writes the program as a JSON value and edits that value: it drops identity and prose,
  sorts the set-like arrays and drops the empty ones. `normalizeSemanticValue` is that edit, on any
  value; `semanticView` writes the result directly from the records, and the two agree
  (`normalizeSemanticProgram_eq`). Everything later is said of `semanticView`.

  `render` stands for the text serde_json prints for a value; the sort of a string array falls back
  on it for elements that are no strings, which a projected program does not have.
-/
import Aios.Contracts.Ir
import Aios.Lib.Order
import Mathlib.Data.Prod.Lex
import Mathlib.Order.WithBot

namespace Aios

open Lib Json

/-! ## 1. The serde projection -/

def ValueRef.toValue : ValueRef → Json
  | .input name => ofFields [("source", some (.str "input")), ("name", some (.str name))]
  | .node producer port => ofFields [("source", some (.str "node")), ("node", some (.str producer)),
      ("port", some (.str port))]

def ProgramInput.toValue (i : ProgramInput) : Json :=
  ofFields [("type", some (.str i.typeRef)), ("required", some (.bool i.required)),
    ("media_types", some (.arr (i.mediaTypes.map .str))), ("description", i.description.map .str)]

def Operation.toValue (o : Operation) : Json :=
  ofFields [("kind", some (.str o.kind.serde)), ("capability", some (.str o.capability))]

def AuthorityRequest.toValue (r : AuthorityRequest) : Json :=
  ofFields [("action", some (.str r.action)), ("resource", some (.str r.resource)),
    ("reason", r.reason.map .str)]

def Egress.toValue (e : Egress) : Json :=
  ofFields [("mode", some (.str e.mode.serde)),
    ("destination_classes", some (.arr (e.destinationClasses.map .str)))]

/-- An unsigned budget. -/
def budget (n : Nat) : Json := .num (.posInt n)

def AcceleratorConstraint.toValue (a : AcceleratorConstraint) : Json :=
  ofFields [("kind", some (.str a.kind.serde)), ("min_memory_bytes", a.minMemoryBytes.map budget),
    ("optional", some (.bool a.optional))]

def Constraints.toValue (c : Constraints) : Json :=
  ofFields [("locality", some (.arr (c.locality.map fun l => .str l.serde))),
    ("max_latency_ms", c.maxLatencyMs.map budget),
    ("max_cost_microusd", c.maxCostMicrousd.map budget),
    ("min_memory_bytes", c.minMemoryBytes.map budget),
    ("accelerator", c.accelerator.map AcceleratorConstraint.toValue)]

def FailurePolicy.toValue : FailurePolicy → Json
  | .stop => ofFields [("on_error", some (.str "stop"))]
  | .retry n => ofFields [("on_error", some (.str "retry")), ("max_attempts", some (budget n))]
  | .fallback cs => ofFields [("on_error", some (.str "fallback")),
      ("fallback_capabilities", some (.arr (cs.map .str)))]
  | .replan n => ofFields [("on_error", some (.str "replan")), ("max_replans", some (budget n))]

def Node.toValue (n : Node) : Json :=
  ofFields [("id", some (.str n.id)), ("operation", some n.operation.toValue),
    ("execution_class", some (.str n.executionClass.serde)),
    ("inputs", some (ofTree ValueRef.toValue n.inputs)), ("outputs", some (ofTree .str n.outputs)),
    ("authority_requests", some (.arr (n.authorityRequests.map AuthorityRequest.toValue))),
    ("egress", some n.egress.toValue), ("constraints", n.constraints.map Constraints.toValue),
    ("failure", some n.failure.toValue), ("cache", some (.str n.cache.serde)),
    ("description", n.description.map .str), ("metadata", n.metadata.map (ofTree fun v => v))]

def AiosIr.toValue (p : AiosIr) : Json :=
  ofFields [("ir_version", some (.str p.irVersion)), ("program_id", some (.str p.programId)),
    ("kind", some (.str p.kind.serde)), ("inputs", some (ofTree ProgramInput.toValue p.inputs)),
    ("nodes", some (.arr (p.nodes.map Node.toValue))),
    ("outputs", some (ofTree ValueRef.toValue p.outputs)),
    ("metadata", p.metadata.map (ofTree fun v => v))]

/-! ## 2. The edit -/

/-- The text of a string value, below which an absent text stands. -/
def textKey (v : Option Json) : WithBot String := v.bind asStr

section Edit

variable (render : Json → String)

/-- The order of a string array: UTF-16 units of two strings, else the printed values. -/
def stringLe (left right : Json) : Bool :=
  match left.asStr, right.asStr with
  | some left, some right => decide (utf16 left ≤ utf16 right)
  | _, _ => decide (render left ≤ render right)

def sortStringArray : Json → Json
  | .arr values => .arr (values.insertionSort fun left right => stringLe render left right)
  | v => v

/-- Drops the member under a key when it is an empty array. -/
def removeEmptyArray (k : String) (l : List (String × Json)) : List (String × Json) :=
  removeIf k (· = .arr []) l

def normalizeInput : Json → Json
  | .obj input =>
      .obj (removeEmptyArray "media_types"
        (modifyMember "media_types" (sortStringArray render) (removeMember "description" input)))
  | v => v

def normalizeInputs : Json → Json
  | .obj inputs => .obj (mapValues (normalizeInput render) inputs)
  | v => v

def normalizeRequest : Json → Json
  | .obj request => .obj (removeMember "reason" request)
  | v => v

/-- The sort key of a request: action, then resource. -/
def requestKey (v : Json) : WithBot String ×ₗ WithBot String :=
  toLex (textKey (v.get? "action"), textKey (v.get? "resource"))

def normalizeRequests : Json → Json
  | .arr requests => .arr (sortOn requestKey (requests.map normalizeRequest))
  | v => v

def normalizeEgress : Json → Json
  | .obj egress =>
      .obj (removeEmptyArray "destination_classes"
        (modifyMember "destination_classes" (sortStringArray render) egress))
  | v => v

def normalizeConstraints : Json → Json
  | .obj constraints =>
      .obj (removeEmptyArray "locality" (modifyMember "locality" (sortStringArray render) constraints))
  | v => v

def normalizeNode : Json → Json
  | .obj node =>
      let node := removeMember "metadata" (removeMember "description" node)
      let node := modifyMember "authority_requests" normalizeRequests node
      let node := modifyMember "egress" (normalizeEgress render) node
      let node := modifyMember "constraints" (normalizeConstraints render) node
      .obj (removeIf "constraints" (· = .obj []) node)
  | v => v

def normalizeNodes : Json → Json
  | .arr nodes => .arr (sortOn (fun v => textKey (v.get? "id")) (nodes.map (normalizeNode render)))
  | v => v

def normalizeSemanticValue : Json → Except String Json
  | .obj root =>
      let root := removeMember "metadata" (removeMember "program_id" root)
      let root := modifyMember "inputs" (normalizeInputs render) root
      .ok (.obj (modifyMember "nodes" (normalizeNodes render) root))
  | _ => .error "serialized AIOS IR was not an object"

def normalizeSemanticProgram (program : AiosIr) : Except String Json :=
  normalizeSemanticValue render program.toValue

end Edit

/-! ## 3. The view -/

/-- An array that is left out when empty. -/
def arrayField (values : List Json) : Option Json :=
  (some (.arr values)).filter fun v => !decide (v = .arr [])

/-- A set of texts, in UTF-16 order. -/
def textSet (values : List String) : List Json := (sortOn utf16 values).map .str

def ProgramInput.view (i : ProgramInput) : Json :=
  ofFields [("type", some (.str i.typeRef)), ("required", some (.bool i.required)),
    ("media_types", arrayField (textSet i.mediaTypes))]

def requestView (r : String × String) : Json :=
  ofFields [("action", some (.str r.1)), ("resource", some (.str r.2))]

/-- The (action, resource) pairs of a node's requests, in order. -/
def requestPairs (n : Node) : List (String × String) :=
  sortOn (fun r => toLex r) (n.authorityRequests.map fun q => (q.action, q.resource))

def Egress.view (e : Egress) : Json :=
  ofFields [("mode", some (.str e.mode.serde)),
    ("destination_classes", arrayField (textSet e.destinationClasses))]

def Constraints.view (c : Constraints) : Json :=
  ofFields [("locality", arrayField (textSet (c.locality.map Locality.serde))),
    ("max_latency_ms", c.maxLatencyMs.map budget),
    ("max_cost_microusd", c.maxCostMicrousd.map budget),
    ("min_memory_bytes", c.minMemoryBytes.map budget),
    ("accelerator", c.accelerator.map AcceleratorConstraint.toValue)]

/-- Constraints that say nothing are left out. -/
def constraintsField (c : Option Constraints) : Option Json :=
  (c.map Constraints.view).filter fun v => !decide (v = .obj [])

/-- The fields of a node before and behind its constraints. -/
def Node.head (n : Node) : List (String × Option Json) :=
  [("id", some (.str n.id)), ("operation", some n.operation.toValue),
    ("execution_class", some (.str n.executionClass.serde)),
    ("inputs", some (ofTree ValueRef.toValue n.inputs)), ("outputs", some (ofTree .str n.outputs)),
    ("authority_requests", some (.arr ((requestPairs n).map requestView))),
    ("egress", some n.egress.view)]

@[inherit_doc Node.head]
def Node.tail (n : Node) : List (String × Option Json) :=
  [("failure", some n.failure.toValue), ("cache", some (.str n.cache.serde))]

def Node.view (n : Node) : Json :=
  ofFields (n.head ++ ("constraints", constraintsField n.constraints) :: n.tail)

def semanticView (p : AiosIr) : Json :=
  ofFields [("ir_version", some (.str p.irVersion)), ("kind", some (.str p.kind.serde)),
    ("inputs", some (ofTree ProgramInput.view p.inputs)),
    ("nodes", some (.arr ((sortOn (·.id) p.nodes).map Node.view))),
    ("outputs", some (ofTree ValueRef.toValue p.outputs))]

/-! ## 4. The edit of a projected program is the view -/

section Agree

variable (render : Json → String)

theorem sortStringArray_strings (l : List String) :
    sortStringArray render (.arr (l.map .str)) = .arr (textSet l) := by
  unfold sortStringArray textSet sortOn
  rw [List.map_insertionSort (fun a b => utf16 a ≤ utf16 b)
    (fun left right => stringLe render left right = true) Json.str l]
  intro a _ b _
  simp [stringLe, asStr]

theorem normalizeInput_toValue (i : ProgramInput) : normalizeInput render i.toValue = i.view := by
  have hedit : modifyMember "media_types" (sortStringArray render)
      (removeMember "description" (members [("type", some (.str i.typeRef)),
        ("required", some (.bool i.required)), ("media_types", some (.arr (i.mediaTypes.map .str))),
        ("description", i.description.map .str)])) =
      members [("type", some (.str i.typeRef)), ("required", some (.bool i.required)),
        ("media_types", some (.arr (textSet i.mediaTypes)))] := by
    simp [removeMember_members, modifyMember_members, sortStringArray_strings]
  unfold ProgramInput.toValue ProgramInput.view normalizeInput ofFields
  simp only [hedit]
  exact congrArg Json.obj (removeIf_field [("type", some (.str i.typeRef)),
    ("required", some (.bool i.required))] [] _ _ (by simp) (by simp))

theorem normalizeEgress_toValue (e : Egress) : normalizeEgress render e.toValue = e.view := by
  have hedit : modifyMember "destination_classes" (sortStringArray render)
      (members [("mode", some (.str e.mode.serde)),
        ("destination_classes", some (.arr (e.destinationClasses.map .str)))]) =
      members [("mode", some (.str e.mode.serde)),
        ("destination_classes", some (.arr (textSet e.destinationClasses)))] := by
    simp [modifyMember_members, sortStringArray_strings]
  unfold Egress.toValue Egress.view normalizeEgress ofFields
  simp only [hedit]
  exact congrArg Json.obj (removeIf_field [("mode", some (.str e.mode.serde))] [] _ _
    (by simp) (by simp))

theorem normalizeConstraints_toValue (c : Constraints) :
    normalizeConstraints render c.toValue = c.view := by
  let rest : List (String × Option Json) := [("max_latency_ms", c.maxLatencyMs.map budget),
    ("max_cost_microusd", c.maxCostMicrousd.map budget),
    ("min_memory_bytes", c.minMemoryBytes.map budget),
    ("accelerator", c.accelerator.map AcceleratorConstraint.toValue)]
  have hloc : (c.locality.map fun l => Json.str l.serde) =
      (c.locality.map Locality.serde).map Json.str := by
    rw [List.map_map]
    rfl
  have hedit : modifyMember "locality" (sortStringArray render)
      (members (("locality", some (.arr (c.locality.map fun l => Json.str l.serde))) :: rest)) =
      members (("locality", some (.arr (textSet (c.locality.map Locality.serde)))) :: rest) := by
    rw [hloc, modifyMember_members, List.map_cons, if_pos rfl, Option.map_some,
      sortStringArray_strings]
    simp [rest]
  unfold Constraints.toValue Constraints.view normalizeConstraints ofFields
  refine congrArg Json.obj ?_
  rw [hedit]
  exact removeIf_field [] rest _ _ (by simp) (by simp [rest])

theorem normalizeRequest_toValue (r : AuthorityRequest) :
    normalizeRequest r.toValue = requestView (r.action, r.resource) := by
  have hedit : removeMember "reason" (members [("action", some (.str r.action)),
      ("resource", some (.str r.resource)), ("reason", r.reason.map .str)]) =
      members [("action", some (.str r.action)), ("resource", some (.str r.resource))] := by
    simp [removeMember_members]
  unfold AuthorityRequest.toValue requestView normalizeRequest ofFields
  simp only [hedit]

/-- The views of two requests compare as the pairs do. -/
theorem requestKey_le (a b : String × String) :
    requestKey (requestView a) ≤ requestKey (requestView b) ↔ toLex a ≤ toLex b := by
  have hkey : ∀ r : String × String,
      requestKey (requestView r) = toLex ((r.1 : WithBot String), (r.2 : WithBot String)) := by
    intro r
    unfold requestKey textKey get? requestView ofFields
    simp only [asObj, Option.bind_some, lookup_members_cons, lookup_members_nil]
    rfl
  rw [hkey, hkey, Prod.Lex.le_iff, Prod.Lex.le_iff]
  simp

theorem normalizeRequests_toValue (n : Node) :
    normalizeRequests (.arr (n.authorityRequests.map AuthorityRequest.toValue)) =
      .arr ((requestPairs n).map requestView) := by
  have hmap : (n.authorityRequests.map AuthorityRequest.toValue).map normalizeRequest =
      (n.authorityRequests.map fun q => (q.action, q.resource)).map requestView := by
    rw [List.map_map, List.map_map]
    exact List.map_congr_left fun r _ => normalizeRequest_toValue r
  unfold normalizeRequests requestPairs
  simp only
  rw [hmap, sortOn_map, sortOn_congr requestKey_le]

theorem normalizeNode_toValue (n : Node) : normalizeNode render n.toValue = n.view := by
  have hedit : normalizeNode render n.toValue = .obj (removeIf "constraints" (· = .obj [])
      (members (n.head ++ ("constraints", n.constraints.map Constraints.view) :: n.tail))) := by
    unfold Node.toValue normalizeNode ofFields Node.head Node.tail
    simp [removeMember_members, modifyMember_members, normalizeRequests_toValue,
      normalizeEgress_toValue, normalizeConstraints_toValue, Function.comp_def]
  rw [hedit, removeIf_field n.head n.tail _ _ (by simp [Node.head]) (by simp [Node.tail])]
  rfl

theorem normalizeInputs_toValue (inputs : Std.ExtTreeMap String ProgramInput) :
    normalizeInputs render (ofTree ProgramInput.toValue inputs) = ofTree ProgramInput.view inputs := by
  unfold normalizeInputs ofTree
  simp only
  rw [mapValues_ofTree]
  simp only [normalizeInput_toValue]

theorem normalizeNodes_toValue (l : List Node) :
    normalizeNodes render (.arr (l.map Node.toValue)) =
      .arr ((sortOn (·.id) l).map Node.view) := by
  have hmap : (l.map Node.toValue).map (normalizeNode render) = l.map Node.view := by
    rw [List.map_map]
    exact List.map_congr_left fun n _ => normalizeNode_toValue render n
  have hkey : ∀ n : Node, textKey (n.view.get? "id") = (n.id : WithBot String) := by
    intro n
    unfold textKey get? Node.view Node.head ofFields
    simp only [asObj, Option.bind_some, List.cons_append, lookup_members_cons]
    rfl
  have hle : ∀ a b : Node, textKey (a.view.get? "id") ≤ textKey (b.view.get? "id") ↔ a.id ≤ b.id := by
    intro a b
    rw [hkey, hkey, WithBot.coe_le_coe]
  unfold normalizeNodes
  simp only
  rw [hmap, sortOn_map, sortOn_congr hle]

/-- **The normalised program is its semantic view.** -/
theorem normalizeSemanticProgram_eq (p : AiosIr) :
    normalizeSemanticProgram render p = .ok (semanticView p) := by
  unfold normalizeSemanticProgram AiosIr.toValue normalizeSemanticValue semanticView ofFields
  simp [removeMember_members, modifyMember_members, normalizeInputs_toValue, normalizeNodes_toValue]

end Agree

end Aios
