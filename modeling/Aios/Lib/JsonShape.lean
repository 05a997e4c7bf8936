/-
  File:      Aios/Lib/JsonShape.lean
  Subject:   A JSON VALUE UP TO ITS NUMBERS.

  A document with other number tokens has the same shape (`Value.shape_renumber`), and everything that
  is read of a value through its members, its elements and its strings is read of the shape.
-/
import Aios.Lib.JsonValue

namespace Lib

namespace Json

mutual

/-- The value with `0` for every number. -/
def shape : Json → Json
  | .num _ => .num (.posInt 0)
  | .arr elems => .arr (shapes elems)
  | .obj l => .obj (memberShapes l)
  | v => v

@[inherit_doc shape]
def shapes : List Json → List Json
  | [] => []
  | v :: rest => shape v :: shapes rest

@[inherit_doc shape]
def memberShapes : List (String × Json) → List (String × Json)
  | [] => []
  | (k, v) :: rest => (k, shape v) :: memberShapes rest

end

theorem memberShapes_insertMember (k : String) (v : Json) (l : List (String × Json)) :
    memberShapes (insertMember k v l) = insertMember k (shape v) (memberShapes l) := by
  induction l with
  | nil => rfl
  | cons p l ih =>
      obtain ⟨m, w⟩ := p
      rw [memberShapes, insertMember, insertMember]
      split
      · rw [memberShapes, memberShapes]
      · split
        · rw [memberShapes]
        · rw [memberShapes, ih]

end Json

namespace JsonText

open Json

variable {num : JsonNumber → Number} {name : Quoted → String} {marks : Quoted → Bool}
  {f : Bool → JsonNumber → JsonNumber}

mutual

/-- **Other number tokens do not touch the shape.** -/
theorem Value.shape_renumber (below : Bool) : ∀ v : Value,
    ((v.renumber marks f below).json num name).shape = (v.json num name).shape
  | .literal .true | .literal .false | .literal .null => rfl
  | .number _ => rfl
  | .string _ | .emptyArray _ | .emptyObject _ => rfl
  | .array items => congrArg Json.arr (items.shapes_renumber below)
  | .object fields => congrArg Json.obj (fields.shapes_renumber below rfl)

theorem Items.shapes_renumber (below : Bool) : ∀ items : Items,
    shapes ((items.renumber marks f below).jsons num name) = shapes (items.jsons num name)
  | .last _ value _ => congrArg (fun v => [v]) (value.shape_renumber below)
  | .more _ value _ rest => by
      rw [Items.renumber, Items.jsons, Items.jsons, shapes, shapes, value.shape_renumber below,
        rest.shapes_renumber below]

theorem Fields.shapes_renumber (below : Bool) : ∀ (fields : Fields) {l l' : List (String × Json)},
    memberShapes l = memberShapes l' →
    memberShapes ((fields.renumber marks f below).insertInto num name l) =
      memberShapes (fields.insertInto num name l')
  | .last _ key _ _ value _, l, l', h => by
      rw [Fields.renumber, Fields.insertInto, Fields.insertInto, memberShapes_insertMember,
        memberShapes_insertMember, value.shape_renumber, h]
  | .more _ key _ _ value _ rest, l, l', h => by
      rw [Fields.renumber, Fields.insertInto, Fields.insertInto]
      refine rest.shapes_renumber below ?_
      rw [memberShapes_insertMember, memberShapes_insertMember, value.shape_renumber, h]

end

end JsonText

end Lib
