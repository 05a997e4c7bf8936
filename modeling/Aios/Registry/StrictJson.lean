/-
  File:      Aios/Registry/StrictJson.lean
  Subject:   The strict reader of the registry (`aios-registry/src/strict_json.rs`).

  Its visitor is that of the IR reader up to the text of one error. It prepares no number, and it
  measures the depth of the value it built, a scalar being a level of its own.

  `parseStrictValueWithin` is the reader under any limits and with its errors; `parseStrictValue` is
  what it reads under the default limits
  (`within_of_parseStrictValue`).
-/
import Aios.Ir.Documents
import Aios.Registry.Version

namespace Aios.Registry

open Lib JsonText

mutual

/-- `json_depth`. -/
def jsonDepth : Json → Nat
  | .arr elems => 1 + elementsDepth elems
  | .obj l => 1 + membersDepth l
  | _ => 1

@[inherit_doc jsonDepth]
def elementsDepth : List Json → Nat
  | [] => 0
  | v :: rest => max (jsonDepth v) (elementsDepth rest)

@[inherit_doc jsonDepth]
def membersDepth : List (String × Json) → Nat
  | [] => 0
  | (_, v) :: rest => max (jsonDepth v) (membersDepth rest)

end

/-- `StrictJsonLimits::default`. -/
def maxStrictBytes : Nat := 8388608

@[inherit_doc maxStrictBytes]
def maxStrictDepth : Nat := 64

/-- `parse_strict_value` under the default limits, without its error. -/
def parseStrictValue (serde : SerdeJson) (bytes : List UInt8) : Option Json := do
  if maxStrictBytes < bytes.length then none
  let value ← (visit serde bytes (serde.read bytes)).toOption
  if (serde.trailing bytes).isSome || decide (maxStrictDepth < jsonDepth value) then none
  return value

/-! ## 2. Any limits, and the errors -/

structure StrictJsonLimits where
  maxBytes : Nat
  maxDepth : Nat
  deriving DecidableEq, Repr

def StrictJsonLimits.default : StrictJsonLimits := ⟨maxStrictBytes, maxStrictDepth⟩

inductive StrictJsonErrorKind where
  | documentTooLarge
  | depthExceeded
  | duplicateKey
  | invalidJson
  | typedDecode
  deriving DecidableEq, Repr

structure StrictJsonError where
  kind : StrictJsonErrorKind
  message : String
  deriving DecidableEq, Repr

/-- `From<StrictJsonError>`: the detail of a duplicate name is left out. -/
def ofStrictJsonError (error : StrictJsonError) : RegistryError :=
  match error.kind with
  | .duplicateKey => .schema "duplicate JSON key"
  | .documentTooLarge => .schema s!"document size limit exceeded: {error.message}"
  | .depthExceeded => .schema s!"JSON depth limit exceeded: {error.message}"
  | .invalidJson => .schema s!"invalid JSON: {error.message}"
  | .typedDecode => .schema s!"typed contract mismatch: {error.message}"

def duplicateJsonMarker : String := "AIOS_DUPLICATE_JSON_KEY:"

/-- `str::contains`. -/
def containsText (message pattern : String) : Bool :=
  (afterFirst pattern.toList message.toList).isSome

def classifyParseError (message : String) : StrictJsonError :=
  ⟨if containsText message duplicateJsonMarker then .duplicateKey else .invalidJson, message⟩

section

variable (serde : SerdeJson) (bytes : List UInt8)

mutual

/-- `StrictValueVisitor` on what the deserializer calls. -/
def strictVisit : Reading → Except String Json
  | .failed message => .error message
  | .unit => .ok .null
  | .bool b => .ok (.bool b)
  | .u64 n => .ok (.num (.posInt n))
  | .i64 n => .ok (.num (if 0 ≤ n then .posInt n.toNat else .negInt n))
  | .f64 bits =>
    if (F64.mk bits).isFinite then .ok (.num (.float bits))
    else .error (serde.located bytes "non-finite JSON number")
  | .str s => .ok (.str s)
  | .seq elements stopped => do
    let values ← strictVisitSeq stopped elements
    return .arr values
  | .map entries stopped => do
    let values ← strictVisitMap stopped [] entries
    return .obj values

/-- `visit_seq`. -/
def strictVisitSeq (stopped : Option String) : List Reading → Except String (List Json)
  | [] =>
    match stopped with
    | none => .ok []
    | some message => .error message
  | element :: rest => do
    let value ← strictVisit element
    let values ← strictVisitSeq stopped rest
    return value :: values

/-- `visit_map`: a name that is already a member is refused. -/
def strictVisitMap (stopped : Option String) (values : List (String × Json)) :
    List (String × Reading) → Except String (List (String × Json))
  | [] =>
    match stopped with
    | none => .ok values
    | some message => .error message
  | (key, reading) :: rest =>
    if values.any (·.1 = key) then .error (serde.located bytes (duplicateJsonMarker ++ key))
    else do
      let value ← strictVisit reading
      strictVisitMap stopped (Json.insertMember key value values) rest

end

/-- `Deserializer::end`. -/
def readToEnd : Except StrictJsonError Unit :=
  match serde.trailing bytes with
  | none => .ok ()
  | some message => .error (classifyParseError message)

/-- `parse_strict_value`. -/
def parseStrictValueWithin (limits : StrictJsonLimits) : Except StrictJsonError Json := do
  rejectIf (decide (limits.maxBytes < bytes.length))
    ⟨.documentTooLarge, s!"JSON document is {bytes.length} bytes; configured maximum is {limits.maxBytes} bytes"⟩
  rejectIf (decide (limits.maxDepth = 0)) ⟨.depthExceeded, "configured JSON depth limit is zero"⟩
  let value ← (strictVisit serde bytes (serde.read bytes)).mapError classifyParseError
  readToEnd serde bytes
  let depth := jsonDepth value
  rejectIf (decide (limits.maxDepth < depth))
    ⟨.depthExceeded, s!"JSON nesting depth is {depth}; configured maximum is {limits.maxDepth}"⟩
  return value

end

section

variable {serde : SerdeJson} {bytes : List UInt8}

mutual

/-- The two visitors differ in the text of an error alone. -/
theorem strictVisit_eq_ok : ∀ (r : Reading) {value : Json},
    strictVisit serde bytes r = .ok value ↔ visit serde bytes r = .ok value
  | .failed _, _ => by simp only [strictVisit, visit, reduceCtorEq]
  | .unit, _ | .bool _, _ | .u64 _, _ | .i64 _, _ | .str _, _ => Iff.rfl
  | .f64 _, _ => Iff.rfl
  | .seq elements stopped, _ => by
      simp only [strictVisit, visit, bind_eq_ok', strictVisitSeq_eq_ok elements]
  | .map entries stopped, _ => by
      simp only [strictVisit, visit, bind_eq_ok', strictVisitMap_eq_ok entries]

theorem strictVisitSeq_eq_ok {stopped : Option String} : ∀ (elements : List Reading)
    {values : List Json}, strictVisitSeq serde bytes stopped elements = .ok values ↔
      visitSeq serde bytes stopped elements = .ok values
  | [], _ => Iff.rfl
  | element :: rest, _ => by
      simp only [strictVisitSeq, visitSeq, bind_eq_ok', strictVisit_eq_ok element,
        strictVisitSeq_eq_ok rest]

theorem strictVisitMap_eq_ok {stopped : Option String} : ∀ (entries : List (String × Reading))
    {members values : List (String × Json)},
    strictVisitMap serde bytes stopped members entries = .ok values ↔
      visitMap serde bytes stopped members entries = .ok values
  | [], _, _ => Iff.rfl
  | (key, reading) :: rest, members, _ => by
      by_cases hdup : (members.any (·.1 = key)) = true
      · simp only [strictVisitMap, visitMap, if_pos hdup, reduceCtorEq]
      · simp only [strictVisitMap, visitMap, if_neg hdup, bind_eq_ok', strictVisit_eq_ok reading,
          strictVisitMap_eq_ok rest]

end

/-- The strict reader, step by step. -/
theorem parseStrictValueWithin_eq_ok {limits : StrictJsonLimits} {value : Json} :
    parseStrictValueWithin serde bytes limits = .ok value ↔
      bytes.length ≤ limits.maxBytes ∧ limits.maxDepth ≠ 0 ∧
        visit serde bytes (serde.read bytes) = .ok value ∧ serde.trailing bytes = none ∧
          jsonDepth value ≤ limits.maxDepth := by
  have hend : readToEnd serde bytes = .ok () ↔ serde.trailing bytes = none := by
    unfold readToEnd
    cases serde.trailing bytes <;> simp
  unfold parseStrictValueWithin
  simp only [unit_bind_eq_ok, rejectIf_ok, decide_eq_false_iff_not, Nat.not_lt, ne_eq]
  constructor
  · rintro ⟨hbytes, hzero, h⟩
    obtain ⟨v, hv, h⟩ := bind_eq_ok'.mp h
    obtain ⟨htrailing, h⟩ := unit_bind_eq_ok.mp h
    obtain ⟨hdepth, h⟩ := unit_bind_eq_ok.mp h
    obtain rfl : v = value := Except.ok.inj h
    rw [rejectIf_ok, decide_eq_false_iff_not, Nat.not_lt] at hdepth
    exact ⟨hbytes, hzero, strictVisit_eq_ok _ |>.mp (mapError_eq_ok.mp hv), hend.mp htrailing, hdepth⟩
  · rintro ⟨hbytes, hzero, hvisit, htrailing, hdepth⟩
    refine ⟨hbytes, hzero, bind_eq_ok'.mpr ⟨value, ?_, ?_⟩⟩
    · exact mapError_eq_ok.mpr ((strictVisit_eq_ok _).mpr hvisit)
    · refine unit_bind_eq_ok.mpr ⟨hend.mpr htrailing, unit_bind_eq_ok.mpr ⟨?_, rfl⟩⟩
      exact rejectIf_ok.mpr (decide_eq_false (Nat.not_lt.mpr hdepth))

/-- **What the strict reader reads is a document of the grammar**, with the numbers the library has
    for its tokens. -/
theorem parseStrictValueWithin_document (rfc : serde.Rfc8259) {limits : StrictJsonLimits}
    {value : Json} (h : parseStrictValueWithin serde bytes limits = .ok value) :
    ∃ d, serde.Readable d ∧ d.text = bytes ∧ d.value.Distinct serde.decoded ∧
      d.value.json serde.numberOf serde.decoded = value := by
  obtain ⟨-, -, hvisit, htrailing, -⟩ := parseStrictValueWithin_eq_ok.mp h
  obtain ⟨d, hd, rfl⟩ := rfc.only bytes (visit_complete _ hvisit) htrailing
  obtain ⟨hdistinct, hv⟩ := (visit_document rfc hd).mp hvisit
  exact ⟨d, hd, rfl, hdistinct, hv⟩

end

end Aios.Registry
