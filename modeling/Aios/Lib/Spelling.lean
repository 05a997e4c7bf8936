/-
  File:      Aios/Lib/Spelling.lean
  Subject:   JSON VALUES UP TO THE SPELLING OF THEIR NUMBERS.

  `1` and `1.0` are two values of a parsed text and one number. `plainNumbers` writes every number
  that is a whole one as an integer; two values agree (`Json.Same`) when that makes them equal.
-/
import Aios.Lib.Json

namespace Lib

/-- The whole number a binary64 stands for, if it is one. -/
def floatInteger (bits : BitVec 64) : Option Int :=
  let exponent := bits.toNat / 2 ^ 52 % 2048
  let fraction := bits.toNat % 2 ^ 52
  let significand := if exponent = 0 then fraction else fraction + 2 ^ 52
  let scale := max exponent 1
  let sign : Int := if bits.toNat / 2 ^ 63 = 0 then 1 else -1
  if exponent = 2047 then none
  else if 1075 ≤ scale then some (sign * (significand * 2 ^ (scale - 1075) : Nat))
  else if significand % 2 ^ (1075 - scale) = 0 then
    some (sign * (significand / 2 ^ (1075 - scale) : Nat))
  else none

/-- The number, as an integer where it is one. -/
def Number.plain : Number → Number
  | .float bits =>
      match floatInteger bits with
      | some n => if 0 ≤ n then .posInt n.toNat else .negInt n
      | none => .float bits
  | n => n

example : Number.plain (.float 0x3ff0000000000000) = .posInt 1 := by decide

namespace Json

mutual

/-- The value with every number spelt plainly. -/
def plainNumbers : Json → Json
  | .num n => .num n.plain
  | .arr elems => .arr (plainElementNumbers elems)
  | .obj l => .obj (plainMemberNumbers l)
  | v => v

@[inherit_doc plainNumbers]
def plainElementNumbers : List Json → List Json
  | [] => []
  | v :: rest => plainNumbers v :: plainElementNumbers rest

@[inherit_doc plainNumbers]
def plainMemberNumbers : List (String × Json) → List (String × Json)
  | [] => []
  | (k, v) :: rest => (k, plainNumbers v) :: plainMemberNumbers rest

end

/-- Equal up to the spelling of numbers. -/
def Same (a b : Json) : Prop := a.plainNumbers = b.plainNumbers

instance (a b : Json) : Decidable (a.Same b) := inferInstanceAs (Decidable (_ = _))

theorem Same.refl (a : Json) : a.Same a := rfl

theorem Same.symm {a b : Json} (h : a.Same b) : b.Same a := Eq.symm h

theorem Same.trans {a b c : Json} (h : a.Same b) (k : b.Same c) : a.Same c := Eq.trans h k

theorem lookup_plainMemberNumbers (key : String) (l : List (String × Json)) :
    (plainMemberNumbers l).lookup key = (l.lookup key).map plainNumbers := by
  induction l with
  | nil => rfl
  | cons p l ih =>
      obtain ⟨k, v⟩ := p
      rw [plainMemberNumbers, lookup_cons_ite, lookup_cons_ite, ih]
      by_cases h : key = k <;> simp [h]

theorem get?_plainNumbers (v : Json) (key : String) :
    v.plainNumbers.get? key = (v.get? key).map plainNumbers := by
  cases v with
  | obj l =>
      rw [plainNumbers]
      exact lookup_plainMemberNumbers key l
  | _ => simp [plainNumbers, get?, asObj]

@[simp] theorem asStr_plainNumbers (v : Json) : v.plainNumbers.asStr = v.asStr := by
  cases v <;> simp [plainNumbers, asStr]

/-- Values that agree have members that agree. -/
theorem Same.get? {a b v : Json} {key : String} (h : a.Same b) (hv : a.get? key = some v) :
    ∃ w, b.get? key = some w ∧ v.Same w := by
  have e := congrArg (fun x => x.get? key) h
  simp only [get?_plainNumbers, hv, Option.map_some] at e
  obtain ⟨w, hw, same⟩ := Option.map_eq_some_iff.mp e.symm
  exact ⟨w, hw, same.symm⟩

/-! ## Replacing the binary64 of a value -/

section Floats

variable (f : BitVec 64 → BitVec 64)

def mapFloat : Number → Number
  | .float bits => .float (f bits)
  | n => n

mutual

/-- The value with every binary64 replaced. -/
def mapFloats : Json → Json
  | .num n => .num (mapFloat f n)
  | .arr elems => .arr (mapElementFloats elems)
  | .obj l => .obj (mapMemberFloats l)
  | v => v

@[inherit_doc mapFloats]
def mapElementFloats : List Json → List Json
  | [] => []
  | v :: rest => mapFloats v :: mapElementFloats rest

@[inherit_doc mapFloats]
def mapMemberFloats : List (String × Json) → List (String × Json)
  | [] => []
  | (k, v) :: rest => (k, mapFloats v) :: mapMemberFloats rest

end

mutual

theorem mapFloats_floatFree : ∀ v : Json, v.floatFree = true → mapFloats f v = v
  | .null, _ => rfl
  | .bool _, _ => rfl
  | .str _, _ => rfl
  | .num (.posInt _), _ => rfl
  | .num (.negInt _), _ => rfl
  | .num (.float _), h => by cases h
  | .arr l, h => by rw [mapFloats, mapElementFloats_floatFree l h]
  | .obj l, h => by rw [mapFloats, mapMemberFloats_floatFree l h]

theorem mapElementFloats_floatFree : ∀ l : List Json, elementsFloatFree l = true →
    mapElementFloats f l = l
  | [], _ => rfl
  | v :: rest, h => by
      simp only [elementsFloatFree, Bool.and_eq_true] at h
      rw [mapElementFloats, mapFloats_floatFree v h.1, mapElementFloats_floatFree rest h.2]

theorem mapMemberFloats_floatFree : ∀ l : List (String × Json), membersFloatFree l = true →
    mapMemberFloats f l = l
  | [], _ => rfl
  | (k, v) :: rest, h => by
      simp only [membersFloatFree, Bool.and_eq_true] at h
      rw [mapMemberFloats, mapFloats_floatFree v h.1, mapMemberFloats_floatFree rest h.2]

end

/-- Where the replacement is another binary64 it is another number. -/
def Moves : Prop :=
  ∀ bits, Number.plain (.float (f bits)) = Number.plain (.float bits) → f bits = bits

variable {f}

mutual

/-- A value that agrees with its replacement is its replacement. -/
theorem mapFloats_same (hf : Moves f) : ∀ v : Json, (mapFloats f v).Same v → mapFloats f v = v
  | .null, _ => rfl
  | .bool _, _ => rfl
  | .str _, _ => rfl
  | .num (.posInt _), _ => rfl
  | .num (.negInt _), _ => rfl
  | .num (.float bits), h => by
      have e : Number.plain (.float (f bits)) = Number.plain (.float bits) := Json.num.inj h
      show Json.num (.float (f bits)) = _
      rw [hf bits e]
  | .arr l, h => by
      rw [mapFloats, mapElementFloats_same hf l (Json.arr.inj h)]
  | .obj l, h => by
      rw [mapFloats, mapMemberFloats_same hf l (Json.obj.inj h)]

theorem mapElementFloats_same (hf : Moves f) : ∀ l : List Json,
    plainElementNumbers (mapElementFloats f l) = plainElementNumbers l → mapElementFloats f l = l
  | [], _ => rfl
  | v :: rest, h => by
      obtain ⟨hv, hrest⟩ := List.cons.inj h
      rw [mapElementFloats, mapFloats_same hf v hv, mapElementFloats_same hf rest hrest]

theorem mapMemberFloats_same (hf : Moves f) : ∀ l : List (String × Json),
    plainMemberNumbers (mapMemberFloats f l) = plainMemberNumbers l → mapMemberFloats f l = l
  | [], _ => rfl
  | (k, v) :: rest, h => by
      obtain ⟨hv, hrest⟩ := List.cons.inj h
      rw [mapMemberFloats, mapFloats_same hf v (Prod.mk.inj hv).2, mapMemberFloats_same hf rest hrest]

end

end Floats

end Json

end Lib
