/-
  File:      Aios/Lib/JsonSchema.lean
  Subject:   JSON schemas as functions on values: closed objects, bounded texts and lists, values that
             may be null, members that are checked where they are present.

  A closed object accepts a record exactly when every required member is present and every member is
  a known one that passes its check (`closedObject_ofFields` is the direction that is needed of a
  record which is written).
-/
import Aios.Lib.Json

namespace Lib.JsonSchema

open Json

/-- `type: object` with `required`, `properties` and `additionalProperties: false`. -/
def closedObject (required : List String) (properties : List (String × (Json → Bool))) : Json → Bool
  | .obj members => (required.all fun key => (members.lookup key).isSome) &&
      members.all fun p => (properties.lookup p.1).any fun check => check p.2
  | _ => false

/-- `type: string`, and what else is asked of the text. -/
def text (check : String → Bool) : Json → Bool
  | .str s => check s
  | _ => false

/-- `minLength` and `maxLength`. -/
def within (least most : Nat) (s : String) : Bool := least ≤ s.length && s.length ≤ most

/-- `type: boolean`. -/
def boolean : Json → Bool
  | .bool _ => true
  | _ => false

/-- A value of the check, or null. -/
def nullable (check : Json → Bool) : Json → Bool
  | .null => true
  | v => check v

/-- `type: array` with `items` and `maxItems`. -/
def listOf (most : Nat) (item : Json → Bool) : Json → Bool
  | .arr elements => elements.length ≤ most && elements.all item
  | _ => false

/-- `properties` of one member: checked where it is present. -/
def member (key : String) (check : Json → Bool) (v : Json) : Bool := (v.get? key).all check

/-- `required` of one member. -/
def has (key : String) (v : Json) : Bool := (v.get? key).isSome

/-- `if` and `then`. -/
def implies (condition consequence : Json → Bool) (v : Json) : Bool := !condition v || consequence v

/-! ## Values that are written -/

theorem closedObject_ofFields {required : List String} {properties : List (String × (Json → Bool))}
    {fields : List (String × Option Json)}
    (hrequired : ∀ key ∈ required, ((members fields).lookup key).isSome = true)
    (hproperties : ∀ key v, (key, some v) ∈ fields →
      (properties.lookup key).any (fun check => check v) = true) :
    closedObject required properties (ofFields fields) = true := by
  rw [ofFields, closedObject, Bool.and_eq_true, List.all_eq_true, List.all_eq_true]
  exact ⟨hrequired, fun p hp => hproperties p.1 p.2 (mem_members hp)⟩

theorem nullable_option {check : Json → Bool} {o : Option String}
    (h : ∀ s, o = some s → check (.str s) = true) :
    nullable check ((o.map Json.str).getD .null) = true := by
  cases o with
  | none => rfl
  | some s => exact h s rfl

theorem listOf_texts {most : Nat} {item : Json → Bool} {l : List String} (hlength : l.length ≤ most)
    (h : ∀ s ∈ l, item (.str s) = true) : listOf most item (.arr (l.map .str)) = true := by
  rw [listOf, Bool.and_eq_true, List.length_map, List.all_map, List.all_eq_true]
  exact ⟨decide_eq_true hlength, h⟩

end Lib.JsonSchema
