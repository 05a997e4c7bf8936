/-
  File:      Aios/Registry/View.lean
  Subject:   The semantic views as the source rebuilds them (`aios-registry/src/hash.rs`), and when
             two contracts have the same one.

  The source serialises a contract (`toValue`, with the members serde leaves out) and rebuilds a
  view from the members it asks for by name. `rebuildCapabilityView_eq` and `rebuildTypeView_eq`
  say that every member it asks for is there and that the result is the view of Registry/Hash.lean.

  `SameCapability` and `SameType` compare two contracts field by field and leave out prose and the
  order of the set-like lists; the views of valid contracts are equal exactly then
  (`capabilityView_eq_iff`, `typeView_eq_iff`). The hash view of a snapshot is the same exactly for
  permutations (`snapshotView_eq_iff`).
-/
import Aios.Ir.Identity
import Aios.Registry.Hash

namespace Aios

open Lib Json

/-! ## 1. The serde projection -/

def PortContract.toValue (p : PortContract) : Json :=
  ofFields [("type", some (.str p.typeRef)), ("required", some (.bool p.required)),
    ("description", p.description.map .str)]

def Determinism.toValue (d : Determinism) : Json :=
  ofFields [("equivalence", d.equivalence.map fun e => .str e.serde),
    ("numeric_absolute_tolerance", some (orNull (d.numericAbsoluteTolerance.map F64.toValue))),
    ("numeric_relative_tolerance", some (orNull (d.numericRelativeTolerance.map F64.toValue)))]

def Conformance.toValue (c : Conformance) : Json :=
  ofFields [("suite_id", some (.str c.suiteId)),
    ("suite_version", some (orNull (c.suiteVersion.map .str))),
    ("suite_hash", some (orNull (c.suiteHash.map .str)))]

/-- An array of texts. -/
def textArray (values : List String) : Json := .arr (values.map .str)

def CapabilityContract.fields (c : CapabilityContract) : List (String × Option Json) :=
  [("capability", some (.str c.capability)), ("version", some (.str c.version)),
    ("description", c.description.map .str), ("role", some (.str c.role.serde)),
    ("inputs", some (ofTree PortContract.toValue c.inputs)),
    ("outputs", some (ofTree PortContract.toValue c.outputs)),
    ("allowed_execution_classes", some (textArray (c.allowedExecutionClasses.map ExecutionClass.serde))),
    ("required_effect_classes", some (textArray (c.requiredEffectClasses.map EffectClass.serde))),
    ("allowed_effect_classes", some (textArray (c.allowedEffectClasses.map EffectClass.serde))),
    ("required_authority_classes", some (textArray c.requiredAuthorityClasses)),
    ("allowed_authority_classes", some (textArray c.allowedAuthorityClasses)),
    ("allowed_egress_modes", some (textArray (c.allowedEgressModes.map EgressMode.serde))),
    ("determinism", c.determinism.map Determinism.toValue),
    ("error_classes", some (textArray c.errorClasses)),
    ("conformance", some c.conformance.toValue), ("notes", some (textArray c.notes))]

def CapabilityContract.toValue (c : CapabilityContract) : Json := ofFields c.fields

def Representation.toValue (r : Representation) : Json :=
  ofFields [("id", some (.str r.id)), ("media_type", some (orNull (r.mediaType.map .str))),
    ("schema_ref", some (orNull (r.schemaRef.map .str))),
    ("zero_copy_candidate", some (.bool r.zeroCopyCandidate))]

def TypeEquality.toValue (e : TypeEquality) : Json :=
  ofFields [("mode", some (.str e.mode.serde)),
    ("canonicalizer", some (orNull (e.canonicalizer.map .str))),
    ("numeric_absolute_tolerance", some (orNull (e.numericAbsoluteTolerance.map F64.toValue))),
    ("numeric_relative_tolerance", some (orNull (e.numericRelativeTolerance.map F64.toValue)))]

def UnitSemantics.toValue (u : UnitSemantics) : Json :=
  ofFields [("unit_required", u.unitRequired.map .bool),
    ("canonical_unit", some (orNull (u.canonicalUnit.map .str))),
    ("notes", some (orNull (u.notes.map .str)))]

def TypeContract.fields (t : TypeContract) : List (String × Option Json) :=
  [("type_id", some (.str t.typeId)), ("version", some (.str t.version)),
    ("kind", some (.str t.kind.serde)), ("description", some (.str t.description)),
    ("logical_schema_ref", some (orNull (t.logicalSchemaRef.map .str))),
    ("nullable", some (.bool t.nullable)),
    ("representations", some (.arr (t.representations.map Representation.toValue))),
    ("equality", some t.equality.toValue),
    ("unit_semantics", some (orNull (t.unitSemantics.map UnitSemantics.toValue))),
    ("conversion_capabilities", some (textArray t.conversionCapabilities)),
    ("conformance", some t.conformance.toValue), ("notes", some (textArray t.notes))]

def TypeContract.toValue (t : TypeContract) : Json := ofFields t.fields

/-! ## 2. The rebuilt view -/

def asObject (value : Json) (label : String) : RegistryResult (List (String × Json)) :=
  expect value.asObj (.schema s!"{label} must be an object")

def required (source : List (String × Json)) (field : String) : RegistryResult Json :=
  expect (source.lookup field) (.schema s!"required field {debugStr field} is absent")

def object (entries : List (String × Json)) : Json :=
  ofFields (entries.map fun e => (e.1, some e.2))

/-- The port without its description. -/
def rebuildPort (entry : String × Json) : RegistryResult (String × Json) := do
  let port ← asObject entry.2 "port"
  let typeRef ← required port "type"
  let isRequired ← required port "required"
  return (entry.1, object [("type", typeRef), ("required", isRequired)])

/-- The names of the new map are those of the old one, in its order. -/
def rebuildPorts (value : Json) : RegistryResult Json := do
  let ports ← asObject value "ports"
  let normalized ← ports.mapM rebuildPort
  return .obj normalized

/-- A member that is absent or null gives null, any other one its rebuilt object. -/
def rebuildOptional (value : Option Json) (label : String)
    (rebuild : List (String × Json) → RegistryResult Json) : RegistryResult Json :=
  match value with
  | none | some .null => .ok .null
  | some value => do
    let source ← asObject value label
    rebuild source

def rebuildDeterminism (value : Option Json) : RegistryResult Json :=
  rebuildOptional value "determinism" fun source => .ok (object [
    ("equivalence", orNull (source.lookup "equivalence")),
    ("numeric_absolute_tolerance", orNull (source.lookup "numeric_absolute_tolerance")),
    ("numeric_relative_tolerance", orNull (source.lookup "numeric_relative_tolerance"))])

def rebuildUnitSemantics (value : Option Json) : RegistryResult Json :=
  rebuildOptional value "unit semantics" fun source => .ok (object [
    ("unit_required", orNull (source.lookup "unit_required")),
    ("canonical_unit", orNull (source.lookup "canonical_unit"))])

def rebuildEquality (value : Json) : RegistryResult Json := do
  let source ← asObject value "equality"
  let mode ← required source "mode"
  return object [("mode", mode), ("canonicalizer", orNull (source.lookup "canonicalizer")),
    ("numeric_absolute_tolerance", orNull (source.lookup "numeric_absolute_tolerance")),
    ("numeric_relative_tolerance", orNull (source.lookup "numeric_relative_tolerance"))]

def rebuildConformance (value : Json) : RegistryResult Json := do
  let source ← asObject value "conformance"
  let suiteId ← required source "suite_id"
  return object [("suite_id", suiteId), ("suite_version", orNull (source.lookup "suite_version")),
    ("suite_hash", orNull (source.lookup "suite_hash"))]

/-- `sorted_string_set`: an array of strings, in UTF-16 order. -/
def rebuildStringSet (value : Json) : RegistryResult Json := do
  let values ← expect value.asArr (.schema "semantic set must be an array")
  rejectIf (!values.all (·.asStr.isSome)) (.schema "semantic set contains a non-string value")
  return .arr (sortOn (fun v => utf16 (v.asStr.getD "")) values)

def rebuildCapabilityView (source : List (String × Json)) : RegistryResult Json := do
  let capability ← required source "capability"
  let version ← required source "version"
  let role := (source.lookup "role").getD (.str "ordinary")
  let inputs ← rebuildPorts (← required source "inputs")
  let outputs ← rebuildPorts (← required source "outputs")
  let executionClasses ← rebuildStringSet (← required source "allowed_execution_classes")
  let requiredEffects ← rebuildStringSet (← required source "required_effect_classes")
  let allowedEffects ← rebuildStringSet (← required source "allowed_effect_classes")
  let requiredAuthority ← rebuildStringSet (← required source "required_authority_classes")
  let allowedAuthority ← rebuildStringSet (← required source "allowed_authority_classes")
  let egressModes ← rebuildStringSet (← required source "allowed_egress_modes")
  let determinism ← rebuildDeterminism (source.lookup "determinism")
  let errorClasses ← rebuildStringSet (← required source "error_classes")
  let conformance ← rebuildConformance (← required source "conformance")
  return object [("capability", capability), ("version", version), ("role", role),
    ("inputs", inputs), ("outputs", outputs), ("allowed_execution_classes", executionClasses),
    ("required_effect_classes", requiredEffects), ("allowed_effect_classes", allowedEffects),
    ("required_authority_classes", requiredAuthority),
    ("allowed_authority_classes", allowedAuthority), ("allowed_egress_modes", egressModes),
    ("determinism", determinism), ("error_classes", errorClasses), ("conformance", conformance)]

def rebuildRepresentation (value : Json) : RegistryResult Json := do
  let representation ← asObject value "representation"
  let id ← required representation "id"
  return object [("id", id), ("media_type", orNull (representation.lookup "media_type")),
    ("schema_ref", orNull (representation.lookup "schema_ref")),
    ("zero_copy_candidate", (representation.lookup "zero_copy_candidate").getD (.bool false))]

def rebuildTypeView (source : List (String × Json)) : RegistryResult Json := do
  let representations ← expect (← required source "representations").asArr
    (.schema "representations must be an array")
  let normalized ← representations.mapM rebuildRepresentation
  let sorted := sortOn (fun v => utf16 (((v.get? "id").bind asStr).getD "")) normalized
  let conversions := (source.lookup "conversion_capabilities").getD (.arr [])
  let typeId ← required source "type_id"
  let version ← required source "version"
  let kind ← required source "kind"
  let equality ← rebuildEquality (← required source "equality")
  let unitSemantics ← rebuildUnitSemantics (source.lookup "unit_semantics")
  let conversions ← rebuildStringSet conversions
  let conformance ← rebuildConformance (← required source "conformance")
  return object [("type_id", typeId), ("version", version), ("kind", kind),
    ("logical_schema_ref", orNull (source.lookup "logical_schema_ref")),
    ("nullable", (source.lookup "nullable").getD (.bool false)),
    ("representations", .arr sorted), ("equality", equality), ("unit_semantics", unitSemantics),
    ("conversion_capabilities", conversions), ("conformance", conformance)]

/-- `capability_contract_semantic_view`. -/
def rebuiltCapabilityView (contract : CapabilityContract) : RegistryResult Json := do
  let source ← asObject contract.toValue "capability contract"
  rebuildCapabilityView source

/-- `type_contract_semantic_view`. -/
def rebuiltTypeView (contract : TypeContract) : RegistryResult Json := do
  let source ← asObject contract.toValue "type contract"
  rebuildTypeView source

/-! ## 3. Every member asked for is there -/

@[simp] theorem asObject_ofFields (fs : List (String × Option Json)) (label : String) :
    asObject (ofFields fs) label = .ok (members fs) := rfl

@[simp] theorem required_members_cons (field k : String) (o : Option Json)
    (fs : List (String × Option Json)) : required (members ((k, o) :: fs)) field =
      expect (if field = k then o.or ((members fs).lookup field) else (members fs).lookup field)
        (.schema s!"required field {debugStr field} is absent") := by
  unfold required
  rw [lookup_members_cons]

@[simp] theorem orNull_some (v : Json) : orNull (some v) = v := rfl

@[simp] theorem object_eq (entries : List (String × Json)) :
    object entries = ofFields (entries.map fun e => (e.1, some e.2)) := rfl

theorem rebuildPort_toValue (name : String) (p : PortContract) :
    rebuildPort (name, p.toValue) = .ok (name, ofFields [("type", some (.str p.typeRef)),
      ("required", some (.bool p.required))]) := by
  simp [rebuildPort, PortContract.toValue, expect, ok_bind]

theorem rebuildPorts_ofTree (ports : Std.ExtTreeMap String PortContract) :
    rebuildPorts (ofTree PortContract.toValue ports) = .ok (normalizePorts ports) := by
  have hmap : ∀ l : List (String × PortContract),
      (l.map fun p => (p.1, p.2.toValue)).mapM rebuildPort =
        .ok (l.map fun p => (p.1, ofFields [("type", some (.str p.2.typeRef)),
          ("required", some (.bool p.2.required))])) := by
    intro l
    induction l with
    | nil => rfl
    | cons p l ih =>
        rw [List.map_cons, List.mapM_cons, rebuildPort_toValue, ih]
        rfl
  unfold rebuildPorts asObject ofTree
  simp [asObj, expect, ok_bind, hmap, normalizePorts, ofTree]

theorem rebuildStringSet_textArray (values : List String) :
    rebuildStringSet (textArray values) = .ok (sortedStringSet values) := by
  have hall : (values.map Json.str).all (·.asStr.isSome) = true := by simp [asStr]
  unfold rebuildStringSet textArray
  simp only [asArr, expect, ok_bind, hall, Bool.not_true, rejectIf, Bool.false_eq_true, if_false,
    sortOn_map]
  rfl

theorem rebuildDeterminism_toValue (d : Option Determinism) :
    rebuildDeterminism (d.map Determinism.toValue) = .ok (normalizeDeterminism d) := by
  cases d with
  | none => rfl
  | some d =>
      show asObject d.toValue "determinism" >>= _ = _
      simp [Determinism.toValue, ok_bind, normalizeDeterminism, orNull]

theorem rebuildUnitSemantics_toValue (u : Option UnitSemantics) :
    rebuildUnitSemantics (some (orNull (u.map UnitSemantics.toValue))) =
      .ok (normalizeUnitSemantics u) := by
  cases u with
  | none => rfl
  | some u =>
      show asObject u.toValue "unit semantics" >>= _ = _
      simp [UnitSemantics.toValue, ok_bind, normalizeUnitSemantics, orNull]

theorem rebuildEquality_toValue (e : TypeEquality) :
    rebuildEquality e.toValue = .ok (normalizeEquality e) := by
  simp [rebuildEquality, TypeEquality.toValue, expect, ok_bind, normalizeEquality, orNull]

theorem rebuildConformance_toValue (c : Conformance) :
    rebuildConformance c.toValue = .ok (normalizeConformance c) := by
  simp [rebuildConformance, Conformance.toValue, expect, ok_bind, normalizeConformance, orNull]

theorem rebuildRepresentation_toValue (r : Representation) :
    rebuildRepresentation r.toValue = .ok (normalizeRepresentation r) := by
  simp [rebuildRepresentation, Representation.toValue, expect, ok_bind, normalizeRepresentation,
    orNull]

/-- The representations are rebuilt one by one and sorted by the identifier they carry. -/
theorem rebuildRepresentations (l : List Representation) :
    (l.map Representation.toValue).mapM rebuildRepresentation =
      .ok (l.map normalizeRepresentation) := by
  induction l with
  | nil => rfl
  | cons r l ih =>
      rw [List.map_cons, List.mapM_cons, rebuildRepresentation_toValue, ih]
      rfl

theorem normalizeRepresentation_id (r : Representation) :
    (((normalizeRepresentation r).get? "id").bind asStr).getD "" = r.id := by
  simp [normalizeRepresentation, get?_ofFields, asStr]

/-- **The rebuilt view of a capability contract is its semantic view.** -/
theorem rebuiltCapabilityView_eq (c : CapabilityContract) :
    rebuiltCapabilityView c = .ok (capabilityContractSemanticView c) := by
  unfold rebuiltCapabilityView CapabilityContract.toValue CapabilityContract.fields
  rw [asObject_ofFields, ok_bind]
  unfold rebuildCapabilityView
  simp [expect, ok_bind, rebuildPorts_ofTree, rebuildStringSet_textArray,
    rebuildDeterminism_toValue, rebuildConformance_toValue, capabilityContractSemanticView]

/-- **The rebuilt view of a type contract is its semantic view.** -/
theorem rebuiltTypeView_eq (t : TypeContract) :
    rebuiltTypeView t = .ok (typeContractSemanticView t) := by
  unfold rebuiltTypeView TypeContract.toValue TypeContract.fields
  rw [asObject_ofFields, ok_bind]
  unfold rebuildTypeView
  simp [-List.mapM_map, expect, ok_bind, asArr, rebuildRepresentations, sortOn_map,
    normalizeRepresentation_id, rebuildEquality_toValue, rebuildUnitSemantics_toValue, rebuildStringSet_textArray,
    rebuildConformance_toValue, typeContractSemanticView]

/-! ## 4. Contracts that mean the same -/

/-- Ports that agree but for their descriptions. -/
structure SamePort (a b : PortContract) : Prop where
  typeRef : a.typeRef = b.typeRef
  required : a.required = b.required

/-- Capability contracts that agree but for prose and the order of the set-like lists. -/
structure SameCapability (a b : CapabilityContract) : Prop where
  capability : a.capability = b.capability
  version : a.version = b.version
  role : a.role = b.role
  inputs : ∀ name : String, Option.Rel SamePort a.inputs[name]? b.inputs[name]?
  outputs : ∀ name : String, Option.Rel SamePort a.outputs[name]? b.outputs[name]?
  allowedExecutionClasses : a.allowedExecutionClasses.Perm b.allowedExecutionClasses
  requiredEffectClasses : a.requiredEffectClasses.Perm b.requiredEffectClasses
  allowedEffectClasses : a.allowedEffectClasses.Perm b.allowedEffectClasses
  requiredAuthorityClasses : a.requiredAuthorityClasses.Perm b.requiredAuthorityClasses
  allowedAuthorityClasses : a.allowedAuthorityClasses.Perm b.allowedAuthorityClasses
  allowedEgressModes : a.allowedEgressModes.Perm b.allowedEgressModes
  determinism : a.determinism = b.determinism
  errorClasses : a.errorClasses.Perm b.errorClasses
  conformance : a.conformance = b.conformance

/-- Unit semantics that agree but for the notes. -/
structure SameUnits (a b : UnitSemantics) : Prop where
  unitRequired : a.unitRequired = b.unitRequired
  canonicalUnit : a.canonicalUnit = b.canonicalUnit

/-- Type contracts that agree but for prose and the order of the set-like lists. -/
structure SameType (a b : TypeContract) : Prop where
  typeId : a.typeId = b.typeId
  version : a.version = b.version
  kind : a.kind = b.kind
  logicalSchemaRef : a.logicalSchemaRef = b.logicalSchemaRef
  nullable : a.nullable = b.nullable
  representations : a.representations.Perm b.representations
  equality : a.equality = b.equality
  unitSemantics : Option.Rel SameUnits a.unitSemantics b.unitSemantics
  conversionCapabilities : a.conversionCapabilities.Perm b.conversionCapabilities
  conformance : a.conformance = b.conformance

/-! ## 5. What the members of a view tell -/

theorem EffectClass.serde_injective : Function.Injective EffectClass.serde := by
  intro a b h
  cases a <;> cases b <;> first | rfl | exact absurd h (by decide)

theorem CapabilityRole.serde_injective : Function.Injective CapabilityRole.serde := by
  intro a b h
  cases a <;> cases b <;> first | rfl | exact absurd h (by decide)

theorem DeterminismEquivalence.serde_injective :
    Function.Injective DeterminismEquivalence.serde := by
  intro a b h
  cases a <;> cases b <;> first | rfl | exact absurd h (by decide)

theorem TypeKind.serde_injective : Function.Injective TypeKind.serde := by
  intro a b h
  cases a <;> cases b <;> first | rfl | exact absurd h (by decide)

theorem EqualityMode.serde_injective : Function.Injective EqualityMode.serde := by
  intro a b h
  cases a <;> cases b <;> first | rfl | exact absurd h (by decide)

/-- Null stands for nothing else. -/
theorem orNull_inj {v w : Option Json} (hv : v ≠ some .null) (hw : w ≠ some .null) :
    orNull v = orNull w ↔ v = w := by
  cases v with
  | none =>
      cases w with
      | none => simp
      | some w => exact ⟨fun h => absurd (congrArg some h.symm) hw, fun h => by cases h⟩
  | some v =>
      cases w with
      | none => exact ⟨fun h => absurd (congrArg some h) hv, fun h => by cases h⟩
      | some w => simp

/-- An optional member that is never written as null. -/
theorem orNull_map_inj {α : Type} {f : α → Json} (hf : Function.Injective f)
    (hnull : ∀ a, f a ≠ .null) {a b : Option α} :
    orNull (a.map f) = orNull (b.map f) ↔ a = b := by
  have hsome : ∀ o : Option α, o.map f ≠ some .null := by
    intro o ho
    obtain ⟨x, -, hx⟩ := Option.map_eq_some_iff.mp ho
    exact hnull x hx
  rw [orNull_inj (hsome a) (hsome b), (Option.map_injective hf).eq_iff]

theorem orNull_str_inj {a b : Option String} : orNull (a.map .str) = orNull (b.map .str) ↔ a = b :=
  orNull_map_inj (fun _ _ => Json.str.inj) (by simp)

theorem orNull_bool_inj {a b : Option Bool} : orNull (a.map .bool) = orNull (b.map .bool) ↔ a = b :=
  orNull_map_inj (fun _ _ => Json.bool.inj) (by simp)

/-- A tolerance that passes the check is finite, so it is written as a number with its bits. -/
theorem tolerance_toValue {a : Option F64} (h : validTolerance a = true) :
    a.map F64.toValue = a.map fun x => .num (.float x.bits) := by
  cases a with
  | none => rfl
  | some x =>
      have hfinite : x.isFinite = true := by
        unfold validTolerance at h
        simp only [Option.all_some, Bool.and_eq_true] at h
        exact h.1
      simp [F64.toValue, hfinite]

theorem orNull_tolerance_inj {a b : Option F64} (ha : validTolerance a = true)
    (hb : validTolerance b = true) :
    orNull (a.map F64.toValue) = orNull (b.map F64.toValue) ↔ a = b := by
  rw [tolerance_toValue ha, tolerance_toValue hb]
  refine orNull_map_inj (fun x y h => ?_) (by simp)
  exact congrArg F64.mk (by simpa using h)

theorem sortedStringSet_inj {l r : List String} :
    sortedStringSet l = sortedStringSet r ↔ l.Perm r := by
  have hstr : Function.Injective Json.str := fun _ _ => Json.str.inj
  unfold sortedStringSet
  rw [Json.arr.injEq, hstr.list_map.eq_iff, sortOn_eq_iff_perm fun _ _ _ _ h => utf16_injective h]

theorem normalizePorts_inj {a b : Std.ExtTreeMap String PortContract} :
    normalizePorts a = normalizePorts b ↔ ∀ name : String, Option.Rel SamePort a[name]? b[name]? := by
  unfold normalizePorts
  rw [ofTree_inj]
  refine forall_congr' fun name => map_eq_iff_rel fun p q => ?_
  rw [record_inj (by rfl) (by simp)]
  simp only [List.cons.injEq, Prod.mk.injEq, true_and, Option.some.injEq, Json.str.injEq,
    Json.bool.injEq, and_true]
  exact ⟨fun h => ⟨h.1, h.2⟩, fun h => ⟨h.typeRef, h.required⟩⟩

theorem normalizeConformance_inj {a b : Conformance} :
    normalizeConformance a = normalizeConformance b ↔ a = b := by
  unfold normalizeConformance
  rw [record_inj (by rfl) (by simp)]
  simp only [List.cons.injEq, Prod.mk.injEq, true_and, Option.some.injEq, Json.str.injEq, and_true,
    orNull_str_inj]
  cases a
  cases b
  simp

/-- The check on the two tolerances of a determinism. -/
def validDeterminism (d : Determinism) : Bool :=
  validTolerance d.numericAbsoluteTolerance && validTolerance d.numericRelativeTolerance

theorem normalizeDeterminism_inj {a b : Option Determinism} (ha : a.all validDeterminism = true)
    (hb : b.all validDeterminism = true) :
    normalizeDeterminism a = normalizeDeterminism b ↔ a = b := by
  have hserde : ∀ x y : Option DeterminismEquivalence,
      orNull (x.map fun e => .str e.serde) = orNull (y.map fun e => .str e.serde) ↔ x = y := by
    intro x y
    exact orNull_map_inj
      (fun e f h => DeterminismEquivalence.serde_injective (Json.str.inj h)) (by simp)
  unfold normalizeDeterminism
  rw [orNull_inj (by cases a <;> simp [ofFields]) (by cases b <;> simp [ofFields])]
  cases a with
  | none => cases b <;> simp
  | some a =>
      cases b with
      | none => simp
      | some b =>
          simp only [Option.all_some, validDeterminism, Bool.and_eq_true] at ha hb
          rw [Option.map_some, Option.map_some, Option.some.injEq, record_inj (by rfl) (by simp)]
          simp only [List.cons.injEq, Prod.mk.injEq, true_and, Option.some.injEq, and_true, hserde,
            orNull_tolerance_inj ha.1 hb.1, orNull_tolerance_inj ha.2 hb.2]
          cases a
          cases b
          simp

theorem normalizeEquality_inj {a b : TypeEquality}
    (ha : validTolerance a.numericAbsoluteTolerance = true ∧
      validTolerance a.numericRelativeTolerance = true)
    (hb : validTolerance b.numericAbsoluteTolerance = true ∧
      validTolerance b.numericRelativeTolerance = true) :
    normalizeEquality a = normalizeEquality b ↔ a = b := by
  unfold normalizeEquality
  rw [record_inj (by rfl) (by simp)]
  simp only [List.cons.injEq, Prod.mk.injEq, true_and, Option.some.injEq, Json.str.injEq, and_true,
    orNull_str_inj, EqualityMode.serde_injective.eq_iff, orNull_tolerance_inj ha.1 hb.1,
    orNull_tolerance_inj ha.2 hb.2]
  cases a
  cases b
  simp

theorem normalizeUnitSemantics_inj {a b : Option UnitSemantics} :
    normalizeUnitSemantics a = normalizeUnitSemantics b ↔ Option.Rel SameUnits a b := by
  unfold normalizeUnitSemantics
  rw [orNull_inj (by cases a <;> simp [ofFields]) (by cases b <;> simp [ofFields])]
  refine map_eq_iff_rel fun u v => ?_
  rw [record_inj (by rfl) (by simp)]
  simp only [List.cons.injEq, Prod.mk.injEq, true_and, Option.some.injEq, and_true, orNull_str_inj,
    orNull_bool_inj]
  exact ⟨fun h => ⟨h.1, h.2⟩, fun h => ⟨h.unitRequired, h.canonicalUnit⟩⟩

theorem normalizeRepresentation_injective : Function.Injective normalizeRepresentation := by
  intro a b h
  unfold normalizeRepresentation at h
  rw [record_inj (by rfl) (by simp)] at h
  simp only [List.cons.injEq, Prod.mk.injEq, true_and, Option.some.injEq, Json.str.injEq, and_true,
    orNull_str_inj, Json.bool.injEq] at h
  cases a
  cases b
  simpa using h

/-! ## 6. What validation gives the views -/

/-- The identifiers of checked representations are distinct, and none is among the earlier ones. -/
theorem validateRepresentations_nodup {typeId : String} {seen : List String}
    {l : List Representation} (h : validateRepresentations typeId seen l = .ok ()) :
    (l.map (·.id)).Nodup ∧ ∀ r ∈ l, r.id ∉ seen := by
  induction l generalizing seen with
  | nil => exact ⟨List.nodup_nil, fun r hr => by cases hr⟩
  | cons r l ih =>
      simp only [validateRepresentations, unit_bind_eq_ok, rejectIf_ok] at h
      obtain ⟨-, hnew, -, hrest⟩ := h
      obtain ⟨hnodup, hseen⟩ := ih hrest
      refine ⟨List.nodup_cons.mpr ⟨?_, hnodup⟩, ?_⟩
      · intro hmem
        obtain ⟨q, hq, hid⟩ := List.mem_map.mp hmem
        exact hseen q hq (by simp [hid])
      · intro q hq
        rcases List.mem_cons.mp hq with rfl | hq
        · simpa using hnew
        · exact fun hmem => hseen q hq (List.mem_cons_of_mem _ hmem)

theorem validDeterminism_of_ok {c : CapabilityContract}
    (h : validateCapabilityContract c = .ok ()) : c.determinism.all validDeterminism = true := by
  unfold validateCapabilityContract at h
  rw [unit_bind_eq_ok] at h
  have hshape := h.1
  unfold validateCapabilityShape at hshape
  simp only [bind_eq_ok', exists_unit, rejectIf_ok] at hshape
  obtain ⟨-, version, -, -, -, -, -, -, -, -, -, -, -, -, -, -, -, htolerance⟩ := hshape
  cases hd : c.determinism with
  | none => rfl
  | some d => simpa [hd, validDeterminism] using htolerance

/-- What the view of a type contract takes from its validation. -/
structure ValidType (t : TypeContract) : Prop where
  ids : (t.representations.map (·.id)).Nodup
  tolerances : validTolerance t.equality.numericAbsoluteTolerance = true ∧
    validTolerance t.equality.numericRelativeTolerance = true

theorem validType_of_ok {t : TypeContract} (h : validateTypeContract t = .ok ()) :
    ValidType t := by
  unfold validateTypeContract at h
  simp only [bind_eq_ok', exists_unit, rejectIf_ok] at h
  obtain ⟨-, -, version, -, -, -, hrepresentations, hequality, -⟩ := h
  refine ⟨(validateRepresentations_nodup hrepresentations).1, ?_⟩
  simp only [Bool.or_eq_false_iff, Bool.not_eq_false'] at hequality
  exact ⟨hequality.1.1.2, hequality.1.2⟩

/-- **The views of two valid capability contracts are equal exactly when they mean the same.** -/
theorem capabilityView_eq_iff {a b : CapabilityContract} (ha : validateCapabilityContract a = .ok ())
    (hb : validateCapabilityContract b = .ok ()) :
    capabilityContractSemanticView a = capabilityContractSemanticView b ↔ SameCapability a b := by
  unfold capabilityContractSemanticView
  rw [record_inj (by rfl) (by simp)]
  simp only [List.cons.injEq, Prod.mk.injEq, true_and, Option.some.injEq, Json.str.injEq, and_true,
    CapabilityRole.serde_injective.eq_iff, normalizePorts_inj, sortedStringSet_inj,
    List.map_perm_map_iff ExecutionClass.serde_injective,
    List.map_perm_map_iff EffectClass.serde_injective,
    List.map_perm_map_iff EgressMode.serde_injective, normalizeConformance_inj,
    normalizeDeterminism_inj (validDeterminism_of_ok ha) (validDeterminism_of_ok hb)]
  constructor
  · intro ⟨h1, h2, h3, h4, h5, h6, h7, h8, h9, h10, h11, h12, h13, h14⟩
    exact ⟨h1, h2, h3, h4, h5, h6, h7, h8, h9, h10, h11, h12, h13, h14⟩
  · intro h
    exact ⟨h.capability, h.version, h.role, h.inputs, h.outputs, h.allowedExecutionClasses,
      h.requiredEffectClasses, h.allowedEffectClasses, h.requiredAuthorityClasses,
      h.allowedAuthorityClasses, h.allowedEgressModes, h.determinism, h.errorClasses, h.conformance⟩

/-- Unique identifiers make the sorted list of representations a normal form. -/
theorem sortedRepresentations_inj {l r : List Representation} (hl : (l.map (·.id)).Nodup) :
    (sortOn (fun x => utf16 x.id) l).map normalizeRepresentation =
      (sortOn (fun x => utf16 x.id) r).map normalizeRepresentation ↔ l.Perm r := by
  rw [normalizeRepresentation_injective.list_map.eq_iff]
  refine sortOn_eq_iff_perm fun a ha b hb h => ?_
  exact List.inj_on_of_nodup_map hl ha hb (utf16_injective h)

/-- **The views of two valid type contracts are equal exactly when they mean the same.** -/
theorem typeView_eq_iff {a b : TypeContract} (ha : validateTypeContract a = .ok ())
    (hb : validateTypeContract b = .ok ()) :
    typeContractSemanticView a = typeContractSemanticView b ↔ SameType a b := by
  have va := validType_of_ok ha
  have vb := validType_of_ok hb
  unfold typeContractSemanticView
  rw [record_inj (by rfl) (by simp)]
  simp only [List.cons.injEq, Prod.mk.injEq, true_and, Option.some.injEq, Json.str.injEq, and_true,
    Json.bool.injEq, Json.arr.injEq, TypeKind.serde_injective.eq_iff, orNull_str_inj,
    sortedRepresentations_inj va.ids, sortedStringSet_inj, normalizeConformance_inj,
    normalizeEquality_inj va.tolerances vb.tolerances, normalizeUnitSemantics_inj]
  constructor
  · intro ⟨h1, h2, h3, h4, h5, h6, h7, h8, h9, h10⟩
    exact ⟨h1, h2, h3, h4, h5, h6, h7, h8, h9, h10⟩
  · intro h
    exact ⟨h.typeId, h.version, h.kind, h.logicalSchemaRef, h.nullable, h.representations,
      h.equality, h.unitSemantics, h.conversionCapabilities, h.conformance⟩

/-! ## 7. Snapshots -/

/-- The value a snapshot identity hashes. -/
def snapshotView (schemaVersion : String) (typeContracts capabilityContracts : List SnapshotHashEntry) :
    RegistryResult Json := do
  let types ← sortSnapshotEntries typeContracts
  let capabilities ← sortSnapshotEntries capabilityContracts
  return ofFields [("schema_version", some (.str schemaVersion)),
    ("type_contracts", some (.arr (types.map snapshotEntryValue))),
    ("capability_contracts", some (.arr (capabilities.map snapshotEntryValue)))]

theorem snapshotEntryValue_injective : Function.Injective snapshotEntryValue := by
  intro a b h
  unfold snapshotEntryValue at h
  rw [record_inj (by rfl) (by simp)] at h
  simp only [List.cons.injEq, Prod.mk.injEq, true_and, Option.some.injEq, Json.str.injEq,
    and_true] at h
  cases a
  cases b
  simpa using h

/-- A parsed version keeps its text. -/
theorem FullVersion.parse_source {text : String} {v : FullVersion} (h : FullVersion.parse text = .ok v) :
    v.source = text := by
  unfold FullVersion.parse at h
  split at h
  · simp only [bind_eq_ok'] at h
    obtain ⟨major, -, minor, -, e⟩ := h
    cases e
    rfl
  · simp only [bind_eq_ok'] at h
    obtain ⟨major, -, minor, -, patch, -, e⟩ := h
    cases e
    rfl
  · cases h

/-- Entries whose versions parse are paired with them. -/
theorem withVersions_ok {entries : List SnapshotHashEntry}
    {paired : List (SnapshotHashEntry × FullVersion)} (h : withVersions entries = .ok paired) :
    paired.map Prod.fst = entries ∧ ∀ p ∈ paired, FullVersion.parse p.1.version = .ok p.2 := by
  induction entries generalizing paired with
  | nil =>
      cases h
      exact ⟨rfl, fun p hp => by cases hp⟩
  | cons entry rest ih =>
      simp only [withVersions, bind_eq_ok'] at h
      obtain ⟨version, hversion, tail, htail, e⟩ := h
      cases e
      obtain ⟨hfst, hparse⟩ := ih htail
      refine ⟨by rw [List.map_cons, hfst], ?_⟩
      intro p hp
      rcases List.mem_cons.mp hp with rfl | hp
      · exact hversion
      · exact hparse p hp

theorem withVersions_total {kind : String} {majors : List (String × Nat)}
    {entries : List SnapshotHashEntry}
    (h : validateSnapshotHashEntries kind majors entries = .ok ()) :
    ∃ paired, withVersions entries = .ok paired := by
  induction entries generalizing majors with
  | nil => exact ⟨[], rfl⟩
  | cons entry rest ih =>
      simp only [validateSnapshotHashEntries, bind_eq_ok', exists_unit, rejectIf_ok] at h
      obtain ⟨-, version, hversion, -, -, hrest⟩ := h
      obtain ⟨tail, htail⟩ := ih hrest
      refine ⟨(entry, version) :: tail, ?_⟩
      rw [withVersions, hversion, ok_bind, htail]
      rfl

/-- The key of an entry paired with its parsed version determines the pair: an absent patch and a
    zero one are told apart by the text of the version. -/
theorem snapshotEntryKey_inj {p q : SnapshotHashEntry × FullVersion}
    (hp : FullVersion.parse p.1.version = .ok p.2) (hq : FullVersion.parse q.1.version = .ok q.2)
    (h : snapshotEntryKey p = snapshotEntryKey q) : p = q := by
  unfold snapshotEntryKey FullVersion.key at h
  simp only [EmbeddingLike.apply_eq_iff_eq, Prod.mk.injEq] at h
  obtain ⟨hid, ⟨-, -, -, hsource⟩, hhash⟩ := h
  have hversion : p.1.version = q.1.version := by
    rw [← FullVersion.parse_source hp, ← FullVersion.parse_source hq, hsource]
  have hentry : p.1 = q.1 := by
    cases hp1 : p.1
    cases hq1 : q.1
    simp_all
  have hparsed : p.2 = q.2 := by
    rw [← hentry, hp] at hq
    exact Except.ok.inj hq
  exact Prod.ext hentry hparsed

/-- Valid entries sort, and to the same list exactly where they are permutations. -/
theorem sortSnapshotEntries_eq_iff {l r l' r' : List SnapshotHashEntry}
    (hl : sortSnapshotEntries l = .ok l') (hr : sortSnapshotEntries r = .ok r') :
    l' = r' ↔ l.Perm r := by
  unfold sortSnapshotEntries at hl hr
  simp only [bind_eq_ok'] at hl hr
  obtain ⟨pl, hpl, el⟩ := hl
  obtain ⟨pr, hpr, er⟩ := hr
  cases el
  cases er
  obtain ⟨fl, vl⟩ := withVersions_ok hpl
  obtain ⟨fr, vr⟩ := withVersions_ok hpr
  have hleft : ((sortOn snapshotEntryKey pl).map Prod.fst).Perm l := by
    have := (sortOn_perm snapshotEntryKey pl).map Prod.fst
    rwa [fl] at this
  have hright : ((sortOn snapshotEntryKey pr).map Prod.fst).Perm r := by
    have := (sortOn_perm snapshotEntryKey pr).map Prod.fst
    rwa [fr] at this
  constructor
  · intro h
    rw [h] at hleft
    exact hleft.symm.trans hright
  · intro h
    -- the version of an entry is a function of the entry, so the pairs are permutations too
    have hpairs : pl.Perm pr := by
      have hparse : ∀ ps : List (SnapshotHashEntry × FullVersion),
          (∀ p ∈ ps, FullVersion.parse p.1.version = .ok p.2) →
          ps = (ps.map Prod.fst).map fun e => (e, (FullVersion.parse e.version).toOption.getD
            ⟨0, 0, none, ""⟩) := by
        intro ps hps
        rw [List.map_map]
        conv_lhs => rw [← List.map_id ps]
        refine List.map_congr_left fun p hp => ?_
        simp [hps p hp, Except.toOption]
      rw [hparse pl vl, hparse pr vr, fl, fr]
      exact h.map _
    have hsort : sortOn snapshotEntryKey pl = sortOn snapshotEntryKey pr := by
      refine (sortOn_eq_iff_perm fun p hp q hq e => ?_).mpr hpairs
      exact snapshotEntryKey_inj (vl p hp) (vl q hq) e
    rw [hsort]

theorem sortSnapshotEntries_total {kind : String} {entries : List SnapshotHashEntry}
    (h : validateSnapshotHashEntries kind [] entries = .ok ()) :
    ∃ sorted, sortSnapshotEntries entries = .ok sorted := by
  obtain ⟨paired, hpaired⟩ := withVersions_total h
  refine ⟨(sortOn snapshotEntryKey paired).map Prod.fst, ?_⟩
  rw [sortSnapshotEntries, hpaired]
  rfl

/-- The lists of entries `registry_snapshot_id` accepts. -/
structure ValidEntries (types capabilities : List SnapshotHashEntry) : Prop where
  types : validateSnapshotHashEntries "type" [] types = .ok ()
  capabilities : validateSnapshotHashEntries "capability" [] capabilities = .ok ()

/-- The identity of a snapshot with this view. -/
def snapshotIdentity (digest : Digest) (view : Json) : RegistryResult String := do
  let canonical ← canonicalize digest view
  return digest.tagged registrySnapshotHashDomain canonical

/-- **The identity of valid lists is that of their view.** -/
theorem registrySnapshotId_eq (digest : Digest) {types capabilities : List SnapshotHashEntry}
    (h : ValidEntries types capabilities) :
    registrySnapshotId digest "0.1" types capabilities =
      snapshotView "0.1" types capabilities >>= snapshotIdentity digest := by
  unfold registrySnapshotId snapshotView snapshotIdentity
  rw [h.types, h.capabilities]
  simp only [ne_eq, not_true_eq_false, decide_false, rejectIf, Bool.false_eq_true, if_false, ok_bind,
    bind_assoc]
  rfl

theorem snapshotView_total {types capabilities : List SnapshotHashEntry}
    (h : ValidEntries types capabilities) (schemaVersion : String) :
    ∃ view, snapshotView schemaVersion types capabilities = .ok view := by
  obtain ⟨sortedTypes, ht⟩ := sortSnapshotEntries_total h.types
  obtain ⟨sortedCapabilities, hc⟩ := sortSnapshotEntries_total h.capabilities
  unfold snapshotView
  rw [ht, hc]
  exact ⟨_, rfl⟩

/-- **The views of two snapshots are equal exactly where both lists are permutations.** -/
theorem snapshotView_eq_iff {schemaVersion : String} {types capabilities : List SnapshotHashEntry}
    {types' capabilities' : List SnapshotHashEntry} {view view' : Json}
    (h : snapshotView schemaVersion types capabilities = .ok view)
    (h' : snapshotView schemaVersion types' capabilities' = .ok view') :
    view = view' ↔ types.Perm types' ∧ capabilities.Perm capabilities' := by
  unfold snapshotView at h h'
  simp only [bind_eq_ok'] at h h'
  obtain ⟨t, ht, c, hc, e⟩ := h
  obtain ⟨t', ht', c', hc', e'⟩ := h'
  cases e
  cases e'
  rw [record_inj (by rfl) (by simp)]
  simp only [List.cons.injEq, Prod.mk.injEq, true_and, Option.some.injEq, Json.arr.injEq, and_true,
    snapshotEntryValue_injective.list_map.eq_iff, sortSnapshotEntries_eq_iff ht ht',
    sortSnapshotEntries_eq_iff hc hc']

/-! ## 8. Identity is exact -/

/-- **Contract identity is exact.** Two valid capability contracts, or two valid type contracts, have
    the same rebuilt view exactly when they agree but for prose and the order of the set-like lists;
    a snapshot identity hashes the same view exactly for permutations of both lists. Binary64
    tolerances are compared by their bits on both sides. -/
theorem contract_identity_exact (digest : Digest) :
    (∀ a b : CapabilityContract, validateCapabilityContract a = .ok () →
      validateCapabilityContract b = .ok () →
      ∃ v w, rebuiltCapabilityView a = .ok v ∧ rebuiltCapabilityView b = .ok w ∧
        (v = w ↔ SameCapability a b)) ∧
    (∀ a b : TypeContract, validateTypeContract a = .ok () → validateTypeContract b = .ok () →
      ∃ v w, rebuiltTypeView a = .ok v ∧ rebuiltTypeView b = .ok w ∧ (v = w ↔ SameType a b)) ∧
    (∀ types capabilities types' capabilities' : List SnapshotHashEntry,
      ValidEntries types capabilities → ValidEntries types' capabilities' →
      ∃ v w, snapshotView "0.1" types capabilities = .ok v ∧
        snapshotView "0.1" types' capabilities' = .ok w ∧
        registrySnapshotId digest "0.1" types capabilities = snapshotIdentity digest v ∧
        registrySnapshotId digest "0.1" types' capabilities' = snapshotIdentity digest w ∧
        (v = w ↔ types.Perm types' ∧ capabilities.Perm capabilities')) := by
  refine ⟨fun a b ha hb => ?_, fun a b ha hb => ?_, fun t c t' c' h h' => ?_⟩
  · exact ⟨_, _, rebuiltCapabilityView_eq a, rebuiltCapabilityView_eq b, capabilityView_eq_iff ha hb⟩
  · exact ⟨_, _, rebuiltTypeView_eq a, rebuiltTypeView_eq b, typeView_eq_iff ha hb⟩
  · obtain ⟨v, hv⟩ := snapshotView_total h "0.1"
    obtain ⟨w, hw⟩ := snapshotView_total h' "0.1"
    refine ⟨v, w, hv, hw, ?_, ?_, snapshotView_eq_iff hv hw⟩
    · rw [registrySnapshotId_eq digest h, hv, ok_bind]
    · rw [registrySnapshotId_eq digest h', hw, ok_bind]

/-- A type contract with these representations and this note on its unit. -/
def measureType (representations : List Representation) (note : String) : TypeContract where
  typeId := "scalar.length"
  version := "1.0"
  kind := .scalar
  description := "a length"
  logicalSchemaRef := none
  nullable := false
  representations := representations
  equality := ⟨.numericTolerance, none, some ⟨0x3f50624dd2f1a9fc#64⟩, none⟩
  unitSemantics := some ⟨some true, some "m", some note⟩
  conversionCapabilities := []
  conformance := ⟨"suite", none, none⟩
  notes := []

def metreText : Representation := ⟨"text", some "text/plain", none, false⟩

def metreBits : Representation := ⟨"bits", none, none, true⟩

/-- A capability with these execution classes and this description of its port. -/
def measureCapability (classes : List ExecutionClass) (description : String) :
    CapabilityContract where
  capability := "length.measure"
  version := "1.0"
  description := none
  role := .ordinary
  inputs := ∅
  outputs := .ofList [("length", (⟨"scalar.length@1", true, some description⟩ : PortContract))]
  allowedExecutionClasses := classes
  requiredEffectClasses := [.pure]
  allowedEffectClasses := [.pure]
  requiredAuthorityClasses := []
  allowedAuthorityClasses := []
  allowedEgressModes := [.deny]
  determinism := some ⟨some .byteIdentical, none, none⟩
  errorClasses := []
  conformance := ⟨"suite", none, none⟩
  notes := []

def measureEntries : List SnapshotHashEntry :=
  [⟨"scalar.length", "1.0",
      "sha256:9fa37ef6be0be860ca4f71c4d6e1d336a02d81cc18cfcdc4a59d1dbeef434db3"⟩,
    ⟨"scalar.length", "2.0.0",
      "sha256:9fa37ef6be0be860ca4f71c4d6e1d336a02d81cc18cfcdc4a59d1dbeef434db3"⟩]

/-- Other notes and other orders are compared by `SameCapability`, `SameType` and `Perm`. -/
theorem reordered_measure_alike :
    (∃ v w, rebuiltCapabilityView (measureCapability [.deterministic, .probabilistic] "in metres") =
        .ok v ∧
      rebuiltCapabilityView (measureCapability [.probabilistic, .deterministic] "") = .ok w ∧
      (v = w ↔ SameCapability (measureCapability [.deterministic, .probabilistic] "in metres")
        (measureCapability [.probabilistic, .deterministic] ""))) ∧
    (∃ v w, rebuiltTypeView (measureType [metreText, metreBits] "metres") = .ok v ∧
      rebuiltTypeView (measureType [metreBits, metreText] "") = .ok w ∧
      (v = w ↔ SameType (measureType [metreText, metreBits] "metres")
        (measureType [metreBits, metreText] ""))) ∧
    ∃ v w, snapshotView "0.1" measureEntries [] = .ok v ∧
      snapshotView "0.1" measureEntries.reverse [] = .ok w ∧
      registrySnapshotId (knownDigest []) "0.1" measureEntries [] =
        snapshotIdentity (knownDigest []) v ∧
      registrySnapshotId (knownDigest []) "0.1" measureEntries.reverse [] =
        snapshotIdentity (knownDigest []) w ∧
      (v = w ↔ measureEntries.Perm measureEntries.reverse ∧
        ([] : List SnapshotHashEntry).Perm []) :=
  ⟨(contract_identity_exact (knownDigest [])).1 _ _ (by decide +kernel) (by decide +kernel),
    (contract_identity_exact (knownDigest [])).2.1 _ _ (by decide +kernel) (by decide +kernel),
    (contract_identity_exact (knownDigest [])).2.2 _ _ _ _
      ⟨by decide +kernel, by decide +kernel⟩ ⟨by decide +kernel, by decide +kernel⟩⟩

end Aios
