/-
  File:      Aios/Lib/JsonCount.lean
  Subject:   HOW MANY ELEMENTS AN ARRAY DOCUMENT HAS, by its grammar, and that neither the gaps nor
             the number tokens matter for it.

  A scanner that keeps its counters in machine words needs to know that the text is at least as long
  as it is deep and as the array is wide (`nesting_le_length`, `size_le_length`).
-/
import Aios.Lib.JsonValue

namespace Lib.JsonText

/-! ## 1. Elements -/

def Items.size : Items → Nat
  | .last _ _ _ => 1
  | .more _ _ _ rest => rest.size + 1

/-- The number of elements of an array. -/
def Value.size? : Value → Option Nat
  | .emptyArray _ => some 0
  | .array items => some items.size
  | _ => none

theorem Items.size_pos (items : Items) : 0 < items.size := by
  cases items with
  | last _ _ _ => exact Nat.one_pos
  | more _ _ _ rest => exact Nat.succ_pos rest.size

/-! ## 2. Lengths -/

theorem Items.size_le_length (items : Items) : items.size ≤ items.text.length := by
  induction items using Items.size.induct with
  | case1 before value after =>
      simp only [Items.size, Items.text, List.length_append, List.length_singleton]
      omega
  | case2 before value after rest ih =>
      simp only [Items.size, Items.text, List.length_append, List.length_cons]
      omega

mutual

theorem Value.nesting_le_length : ∀ v : Value, v.nesting ≤ v.text.length
  | .literal _ | .number _ | .string _ => Nat.zero_le _
  | .emptyArray _ | .emptyObject _ => Nat.succ_le_succ (Nat.zero_le _)
  | .array items => Nat.succ_le_succ items.nesting_le_length
  | .object fields => Nat.succ_le_succ fields.nesting_le_length

theorem Items.nesting_le_length : ∀ items : Items, items.nesting ≤ items.text.length
  | .last _ value _ => by
      have hvalue := value.nesting_le_length
      simp only [Items.nesting, Items.text, List.length_append]
      omega
  | .more _ value _ rest => by
      have hvalue := value.nesting_le_length
      have hrest := rest.nesting_le_length
      simp only [Items.nesting, Items.text, List.length_append, List.length_cons]
      omega

theorem Fields.nesting_le_length : ∀ fields : Fields, fields.nesting ≤ fields.text.length
  | .last _ _ _ _ value _ => by
      have hvalue := value.nesting_le_length
      simp only [Fields.nesting, Fields.text, List.length_append, List.length_cons]
      omega
  | .more _ _ _ _ value _ rest => by
      have hvalue := value.nesting_le_length
      have hrest := rest.nesting_le_length
      simp only [Fields.nesting, Fields.text, List.length_append, List.length_cons]
      omega

end

/-! ## 3. Values -/

section

variable {num : JsonNumber → Number} {name : Quoted → String} {marks : Quoted → Bool}
  {f : Bool → JsonNumber → JsonNumber}

theorem Items.length_jsons : ∀ items : Items, (items.jsons num name).length = items.size
  | .last _ _ _ => rfl
  | .more _ _ _ rest => congrArg (· + 1) rest.length_jsons

/-- **An array stands for as many values as it has elements.** -/
theorem Value.length_json {v : Value} {n : Nat} (h : v.size? = some n) :
    ∃ values, v.json num name = .arr values ∧ values.length = n := by
  cases v with
  | emptyArray gap => exact ⟨[], rfl, Option.some.inj h⟩
  | array items => exact ⟨items.jsons num name, rfl, items.length_jsons.trans (Option.some.inj h)⟩
  | literal | number | string | emptyObject | object => cases h

theorem Items.size_renumber (below : Bool) : ∀ items : Items,
    (items.renumber marks f below).size = items.size
  | .last _ _ _ => rfl
  | .more _ _ _ rest => congrArg (· + 1) (rest.size_renumber below)

theorem Value.size?_renumber (below : Bool) (v : Value) :
    (v.renumber marks f below).size? = v.size? := by
  cases v with
  | array items => exact congrArg some (items.size_renumber below)
  | literal | number | string | emptyArray | emptyObject | object => rfl

end

end Lib.JsonText
