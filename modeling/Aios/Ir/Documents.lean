/-
  File:      Aios/Ir/Documents.lean
  Subject:   WHAT THE PARSER LIBRARY MAKES OF A DOCUMENT, and the visitor of it.

  `SerdeJson.Rfc8259` is what is assumed of the library: it reads the documents of the grammar whose
  strings decode, whose numbers are in range and which its recursion limit lets through, and no
  other text. On such a document the visitor finds its value, unless a member name is repeated.
-/
import Aios.Ir.Parse
import Aios.Lib.Except
import Aios.Lib.JsonValue
import Aios.Registry.Prepared

namespace Aios

open Lib JsonText

/-! ## 1. Documents the library reads -/

namespace SerdeJson

variable (serde : SerdeJson)

/-- The library decodes the string token. -/
def Decodes (q : Quoted) : Prop := (serde.string q.text).isSome = true

def decoded (q : Quoted) : String := (serde.string q.text).getD ""

/-- The name marks what stands below it as metadata. -/
def marks (key : Quoted) : Bool := serde.string key.text = some "metadata"

/-- The library has a number for the token. -/
def Represents (n : JsonNumber) : Prop := (serde.number n.text).isSome = true

def numberOf (n : JsonNumber) : Number := (serde.number n.text).getD (.posInt 0)

/-- A document the parser reads to its end. -/
structure Readable (d : Document) : Prop where
  spaced : d.Spaced isSpace
  strings : d.value.Strings serde.Decodes
  nesting : d.value.nesting ≤ maxSupportedJsonDepth
  numbers : ∀ p ∈ d.value.numbers serde.marks false, serde.Represents p.2

/-- What the visitor is called with for a number. -/
def numberReading : Number → Reading
  | .posInt n => .u64 n
  | .negInt n => .i64 n
  | .float bits => .f64 bits

mutual

/-- What the visitor is called with for a value. -/
def reading : Value → Reading
  | .literal .true => .bool true
  | .literal .false => .bool false
  | .literal .null => .unit
  | .number n => numberReading (serde.numberOf n)
  | .string q => .str (serde.decoded q)
  | .emptyArray _ => .seq [] none
  | .array items => .seq (elements items) none
  | .emptyObject _ => .map [] none
  | .object fields => .map (entries fields) none

def elements : Items → List Reading
  | .last _ value _ => [reading value]
  | .more _ value _ rest => reading value :: elements rest

def entries : Fields → List (String × Reading)
  | .last _ key _ _ value _ => [(serde.decoded key, reading value)]
  | .more _ key _ _ value _ rest => (serde.decoded key, reading value) :: entries rest

end

end SerdeJson

mutual

/-- The deserializer came to the end of the value without an error. -/
def Reading.Complete : Reading → Prop
  | .failed _ => False
  | .unit | .bool _ | .u64 _ | .i64 _ | .f64 _ | .str _ => True
  | .seq elements stopped => stopped = none ∧ Reading.CompleteSeq elements
  | .map entries stopped => stopped = none ∧ Reading.CompleteMap entries

def Reading.CompleteSeq : List Reading → Prop
  | [] => True
  | element :: rest => Reading.Complete element ∧ Reading.CompleteSeq rest

def Reading.CompleteMap : List (String × Reading) → Prop
  | [] => True
  | (_, reading) :: rest => Reading.Complete reading ∧ Reading.CompleteMap rest

end

/-- The parser library: JSON as its grammar has it, with a recursion limit. -/
structure SerdeJson.Rfc8259 (serde : SerdeJson) : Prop where
  reads : ∀ d : Document, serde.Readable d →
    serde.read d.text = serde.reading d.value ∧ serde.trailing d.text = none
  only : ∀ text, (serde.read text).Complete → serde.trailing text = none →
    ∃ d, serde.Readable d ∧ d.text = text
  /-- A number holds no infinity, and a negative integer is negative. -/
  finite : ∀ token bits, serde.number token = some (.float bits) → (F64.mk bits).isFinite = true
  negative : ∀ token n, serde.number token = some (.negInt n) → n < 0
  /-- A safe integer is in range however it is spelled; its decimal is read as that integer. -/
  inRange : ∀ token k, StandsFor token k → (serde.number token).isSome = true
  integer : ∀ k ≤ 9007199254740991, serde.number (decimal k) = some (.posInt k)

/-! ## 2. The visitor -/

section

variable {serde : SerdeJson} {bytes : List UInt8}

/-- A name that is already a member is refused. -/
theorem visitMap_cons {stopped : Option String} {values result : List (String × Json)} {key : String}
    {reading : Reading} {rest : List (String × Reading)} :
    visitMap serde bytes stopped values ((key, reading) :: rest) = .ok result ↔
      key ∉ values.map Prod.fst ∧ ∃ value, visit serde bytes reading = .ok value ∧
        visitMap serde bytes stopped (Json.insertMember key value values) rest = .ok result := by
  have hany : values.any (fun member => decide (member.1 = key)) = true ↔
      key ∈ values.map Prod.fst := by simp
  rw [visitMap]
  by_cases hkey : key ∈ values.map Prod.fst
  · rw [if_pos (hany.mpr hkey)]
    simp [hkey]
  · rw [if_neg (mt hany.mp hkey), bind_eq_ok']
    exact (and_iff_right hkey).symm

mutual

/-- What the visitor accepts, the deserializer came to the end of. -/
theorem visit_complete : ∀ (r : Reading) {j : Json}, visit serde bytes r = .ok j → r.Complete
  | .failed _, _, h => by cases h
  | .unit, _, _ | .bool _, _, _ | .u64 _, _, _ | .i64 _, _, _ | .f64 _, _, _ | .str _, _, _ => trivial
  | .seq elements stopped, j, h => by
      obtain ⟨values, hvalues, _⟩ := bind_eq_ok'.mp h
      exact visitSeq_complete elements hvalues
  | .map entries stopped, j, h => by
      obtain ⟨values, hvalues, _⟩ := bind_eq_ok'.mp h
      exact visitMap_complete entries hvalues

theorem visitSeq_complete {stopped : Option String} : ∀ (elements : List Reading) {values : List Json},
    visitSeq serde bytes stopped elements = .ok values →
      stopped = none ∧ Reading.CompleteSeq elements
  | [], values, h => by
      cases stopped with
      | none => exact ⟨rfl, trivial⟩
      | some message => cases h
  | element :: rest, values, h => by
      obtain ⟨value, hvalue, h⟩ := bind_eq_ok'.mp h
      obtain ⟨more, hmore, _⟩ := bind_eq_ok'.mp h
      obtain ⟨hstopped, hrest⟩ := visitSeq_complete rest hmore
      exact ⟨hstopped, visit_complete element hvalue, hrest⟩

theorem visitMap_complete {stopped : Option String} : ∀ (entries : List (String × Reading))
    {values result : List (String × Json)}, visitMap serde bytes stopped values entries = .ok result →
      stopped = none ∧ Reading.CompleteMap entries
  | [], values, result, h => by
      cases stopped with
      | none => exact ⟨rfl, trivial⟩
      | some message => cases h
  | (key, reading) :: rest, values, result, h => by
      obtain ⟨_, value, hvalue, h⟩ := visitMap_cons.mp h
      obtain ⟨hstopped, hrest⟩ := visitMap_complete rest h
      exact ⟨hstopped, visit_complete reading hvalue, hrest⟩

end

/-- The visitor keeps a number as it is. -/
theorem visit_number (rfc : serde.Rfc8259) {n : JsonNumber} (hn : serde.Represents n) :
    visit serde bytes (SerdeJson.numberReading (serde.numberOf n)) = .ok (.num (serde.numberOf n)) := by
  obtain ⟨m, hm⟩ := Option.isSome_iff_exists.mp hn
  have hof : serde.numberOf n = m := by rw [SerdeJson.numberOf, hm]; rfl
  rw [hof]
  cases m with
  | posInt k => rfl
  | negInt i =>
      have hneg := rfc.negative _ _ hm
      simp [SerdeJson.numberReading, visit, not_le.mpr hneg]
  | float bits =>
      simp [SerdeJson.numberReading, visit, rfc.finite _ _ hm]

variable {marks : Quoted → Bool}

mutual

/-- **The visitor finds the value of a document, unless a member name is repeated.** -/
theorem visit_reading (rfc : serde.Rfc8259) (below : Bool) : ∀ (v : Value) {j : Json},
    (∀ p ∈ v.numbers marks below, serde.Represents p.2) →
      (visit serde bytes (serde.reading v) = .ok j ↔
        v.Distinct serde.decoded ∧ v.json serde.numberOf serde.decoded = j)
  | .literal l, j, _ => by
      cases l <;> simp [SerdeJson.reading, visit, Value.Distinct, Value.json]
  | .number n, j, h => by
      have hn : serde.Represents n := h (below, n) List.mem_cons_self
      rw [SerdeJson.reading, visit_number rfc hn, Except.ok.injEq]
      exact (and_iff_right trivial).symm
  | .string q, j, _ => by
      simp [SerdeJson.reading, visit, Value.Distinct, Value.json]
  | .emptyArray _, j, _ => by
      simp [SerdeJson.reading, visit, visitSeq, ok_bind, pure, Except.pure, Value.Distinct, Value.json]
  | .emptyObject _, j, _ => by
      simp [SerdeJson.reading, visit, visitMap, ok_bind, pure, Except.pure, Value.Distinct, Value.json]
  | .array items, j, h => by
      rw [SerdeJson.reading, visit, bind_eq_ok']
      simp only [visitSeq_elements rfc below items h, pure, Except.pure, Except.ok.injEq, Value.Distinct,
        Value.json]
      constructor
      · rintro ⟨_, ⟨hdistinct, rfl⟩, rfl⟩
        exact ⟨hdistinct, rfl⟩
      · rintro ⟨hdistinct, rfl⟩
        exact ⟨_, ⟨hdistinct, rfl⟩, rfl⟩
  | .object fields, j, h => by
      rw [SerdeJson.reading, visit, bind_eq_ok']
      simp only [visitMap_entries rfc below fields h, pure, Except.pure, Except.ok.injEq, Value.Distinct,
        Value.json]
      constructor
      · rintro ⟨_, ⟨_, hnodup, hdistinct, rfl⟩, rfl⟩
        exact ⟨⟨hnodup, hdistinct⟩, rfl⟩
      · rintro ⟨⟨hnodup, hdistinct⟩, rfl⟩
        exact ⟨_, ⟨fun _ _ => List.not_mem_nil, hnodup, hdistinct, rfl⟩, rfl⟩

theorem visitSeq_elements (rfc : serde.Rfc8259) (below : Bool) : ∀ (items : Items) {js : List Json},
    (∀ p ∈ items.numbers marks below, serde.Represents p.2) →
      (visitSeq serde bytes none (serde.elements items) = .ok js ↔
        items.Distinct serde.decoded ∧ items.jsons serde.numberOf serde.decoded = js)
  | .last _ value _, js, h => by
      rw [SerdeJson.elements, visitSeq, bind_eq_ok']
      simp only [visit_reading rfc below value h, visitSeq, ok_bind, pure, Except.pure, Except.ok.injEq,
        Items.Distinct, Items.jsons]
      constructor
      · rintro ⟨_, ⟨hdistinct, rfl⟩, rfl⟩
        exact ⟨hdistinct, rfl⟩
      · rintro ⟨hdistinct, rfl⟩
        exact ⟨_, ⟨hdistinct, rfl⟩, rfl⟩
  | .more _ value _ rest, js, h => by
      rw [Items.numbers, List.forall_mem_append] at h
      rw [SerdeJson.elements, visitSeq, bind_eq_ok']
      simp only [visit_reading rfc below value h.1, bind_eq_ok', visitSeq_elements rfc below rest h.2, pure,
        Except.pure, Except.ok.injEq, Items.Distinct, Items.jsons]
      constructor
      · rintro ⟨_, ⟨hvalue, rfl⟩, _, ⟨hrest, rfl⟩, rfl⟩
        exact ⟨⟨hvalue, hrest⟩, rfl⟩
      · rintro ⟨⟨hvalue, hrest⟩, rfl⟩
        exact ⟨_, ⟨hvalue, rfl⟩, _, ⟨hrest, rfl⟩, rfl⟩

/-- The members read so far may repeat no name either. -/
theorem visitMap_entries (rfc : serde.Rfc8259) (below : Bool) : ∀ (fields : Fields) {members result : List (String × Json)},
    (∀ p ∈ fields.numbers marks below, serde.Represents p.2) →
      (visitMap serde bytes none members (serde.entries fields) = .ok result ↔
        (∀ name ∈ fields.keys.map serde.decoded, name ∉ members.map Prod.fst) ∧
        (fields.keys.map serde.decoded).Nodup ∧ fields.Distinct serde.decoded ∧
        fields.insertInto serde.numberOf serde.decoded members = result)
  | .last _ key _ _ value _, members, result, h => by
      rw [SerdeJson.entries, visitMap_cons]
      simp only [visit_reading rfc (below || marks key) value h, visitMap, Except.ok.injEq, Fields.keys,
        Fields.Distinct, Fields.insertInto]
      constructor
      · rintro ⟨hnew, _, ⟨hdistinct, rfl⟩, rfl⟩
        exact ⟨by simpa using hnew, by simp, hdistinct, rfl⟩
      · rintro ⟨hnew, _, hdistinct, rfl⟩
        exact ⟨by simpa using hnew, _, ⟨hdistinct, rfl⟩, rfl⟩
  | .more _ key _ _ value _ rest, members, result, h => by
      rw [Fields.numbers, List.forall_mem_append] at h
      rw [SerdeJson.entries, visitMap_cons]
      simp only [visit_reading rfc (below || marks key) value h.1, visitMap_entries rfc below rest h.2,
        Fields.keys, Fields.Distinct, Fields.insertInto, List.map_cons, List.nodup_cons,
        List.forall_mem_cons, Json.keys_insertMember, not_or]
      constructor
      · rintro ⟨hnew, _, ⟨hdistinct, rfl⟩, hothers, hnodup, hrest, rfl⟩
        exact ⟨⟨hnew, fun name hname => (hothers name hname).2⟩,
          ⟨fun hkey => (hothers _ hkey).1 rfl, hnodup⟩, ⟨hdistinct, hrest⟩, rfl⟩
      · rintro ⟨⟨hnew, hothers⟩, ⟨hkey, hnodup⟩, ⟨hdistinct, hrest⟩, rfl⟩
        exact ⟨hnew, _, ⟨hdistinct, rfl⟩,
          fun name hname => ⟨fun e => hkey (e ▸ hname), hothers name hname⟩, hnodup, hrest, rfl⟩

end

/-- **What the visitor makes of a document the library reads.** -/
theorem visit_document (rfc : serde.Rfc8259) {d : Document} (h : serde.Readable d) {j : Json} :
    visit serde d.text (serde.read d.text) = .ok j ↔
      d.value.Distinct serde.decoded ∧ d.value.json serde.numberOf serde.decoded = j := by
  rw [(rfc.reads d h).1]
  exact visit_reading rfc false d.value h.numbers

/-- The strict reader, step by step. -/
theorem parse_eq_ok {positiveFinite : List UInt8 → Bool} {maxDepth : Nat} {j : Json} :
    parseStrictJson serde positiveFinite bytes maxDepth = .ok j ↔
      exceedsDepth bytes (min maxDepth maxSupportedJsonDepth) = false ∧
      ∃ prepared, prepareNumbers positiveFinite (sanitizeOutOfRangeMetadataNumbers serde bytes)
          .irIntegers = .ok prepared ∧
        visit serde prepared (serde.read prepared) = .ok j ∧ serde.trailing prepared = none := by
  unfold parseStrictJson
  by_cases hdeep : exceedsDepth bytes (min maxDepth maxSupportedJsonDepth) = true
  · rw [if_pos hdeep, hdeep]
    simp [throw, throwThe, MonadExceptOf.throw, bind, Except.bind]
  · rw [if_neg hdeep]
    simp only [bind_eq_ok', mapError_eq_ok, Bool.not_eq_true _ ▸ hdeep, true_and]
    constructor
    · rintro ⟨prepared, hprepared, value, hvalue, h⟩
      cases htrailing : serde.trailing prepared with
      | none =>
          rw [htrailing] at h
          obtain rfl : value = j := Except.ok.inj h
          exact ⟨prepared, hprepared, hvalue, htrailing⟩
      | some message =>
          rw [htrailing] at h
          cases h
    · rintro ⟨prepared, hprepared, hvalue, htrailing⟩
      refine ⟨prepared, hprepared, j, hvalue, ?_⟩
      rw [htrailing]
      rfl

end

end Aios
