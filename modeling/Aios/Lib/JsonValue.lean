/-
  File:      Aios/Lib/JsonValue.lean
  Subject:   THE VALUE A JSON DOCUMENT STANDS FOR, once it is said what a string token decodes to and
             which number a number token is read as.

  A later member takes the place of an earlier one of its name; that this happens nowhere is
  `Value.Distinct`.
-/
import Aios.Lib.Json
import Aios.Lib.JsonText

namespace Lib.JsonText

section

variable (num : JsonNumber → Number) (name : Quoted → String)

mutual

def Value.json : Value → Json
  | .literal .true => .bool true
  | .literal .false => .bool false
  | .literal .null => .null
  | .number n => .num (num n)
  | .string q => .str (name q)
  | .emptyArray _ => .arr []
  | .array items => .arr items.jsons
  | .emptyObject _ => .obj []
  | .object fields => .obj (fields.insertInto [])

def Items.jsons : Items → List Json
  | .last _ value _ => [value.json]
  | .more _ value _ rest => value.json :: rest.jsons

/-- The members of an object, entered in document order. -/
def Fields.insertInto (members : List (String × Json)) : Fields → List (String × Json)
  | .last _ key _ _ value _ => Json.insertMember (name key) value.json members
  | .more _ key _ _ value _ rest =>
      rest.insertInto (Json.insertMember (name key) value.json members)

end

end

section

variable {num num' : JsonNumber → Number} {name : Quoted → String} {marks : Quoted → Bool}
  {f : JsonNumber → JsonNumber}

mutual

/-- Only how the number tokens of the document are read counts. -/
theorem Value.json_congr (below : Bool) : ∀ v : Value,
    (∀ p ∈ v.numbers marks below, num p.2 = num' p.2) → v.json num name = v.json num' name
  | .literal l, _ => by cases l <;> rfl
  | .string _, _ | .emptyArray _, _ | .emptyObject _, _ => rfl
  | .number n, h => congrArg Json.num (h (below, n) List.mem_cons_self)
  | .array items, h => congrArg Json.arr (items.json_congr below h)
  | .object fields, h => congrArg Json.obj (fields.json_congr below h)

theorem Items.json_congr (below : Bool) : ∀ items : Items,
    (∀ p ∈ items.numbers marks below, num p.2 = num' p.2) → items.jsons num name = items.jsons num' name
  | .last _ value _, h => by
      rw [Items.jsons, Items.jsons, value.json_congr below h]
  | .more _ value _ rest, h => by
      rw [Items.numbers, List.forall_mem_append] at h
      rw [Items.jsons, Items.jsons, value.json_congr below h.1, rest.json_congr below h.2]

theorem Fields.json_congr (below : Bool) : ∀ (fields : Fields) {members : List (String × Json)},
    (∀ p ∈ fields.numbers marks below, num p.2 = num' p.2) →
      fields.insertInto num name members = fields.insertInto num' name members
  | .last _ key _ _ value _, _, h => by
      rw [Fields.insertInto, Fields.insertInto, value.json_congr (below || marks key) h]
  | .more _ key _ _ value _ rest, _, h => by
      rw [Fields.numbers, List.forall_mem_append] at h
      rw [Fields.insertInto, Fields.insertInto, value.json_congr (below || marks key) h.1,
        rest.json_congr below h.2]

end

mutual

/-- The value of a renumbered document. -/
theorem Value.json_renumber (below : Bool) : ∀ v : Value,
    (v.renumber marks (fun _ => f) below).json num name = v.json (fun n => num (f n)) name
  | .literal l => by cases l <;> rfl
  | .number _ | .string _ | .emptyArray _ | .emptyObject _ => rfl
  | .array items => congrArg Json.arr (items.json_renumber below)
  | .object fields => congrArg Json.obj (fields.json_renumber below)

theorem Items.json_renumber (below : Bool) : ∀ items : Items,
    (items.renumber marks (fun _ => f) below).jsons num name = items.jsons (fun n => num (f n)) name
  | .last _ value _ => by
      rw [Items.renumber, Items.jsons, Items.jsons, value.json_renumber below]
  | .more _ value _ rest => by
      rw [Items.renumber, Items.jsons, Items.jsons, value.json_renumber below, rest.json_renumber below]

theorem Fields.json_renumber (below : Bool) : ∀ (fields : Fields) {members : List (String × Json)},
    (fields.renumber marks (fun _ => f) below).insertInto num name members =
      fields.insertInto (fun n => num (f n)) name members
  | .last _ key _ _ value _, _ => by
      rw [Fields.renumber, Fields.insertInto, Fields.insertInto, value.json_renumber (below || marks key)]
  | .more _ key _ _ value _ rest, _ => by
      rw [Fields.renumber, Fields.insertInto, Fields.insertInto, value.json_renumber (below || marks key),
        rest.json_renumber below]

end

end

end Lib.JsonText
