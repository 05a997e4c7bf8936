/-
  File:      Aios/Lib/JsonText.lean
  Subject:   THE TEXTS OF JSON DOCUMENTS, with every byte of whitespace kept.

  `JsonText.Value` is the concrete syntax of RFC 8259: the gaps between the tokens are part of it,
  so `text` is the document byte by byte. Which bytes a gap may hold is left open (`Spaced`), for a
  reader may be more lenient than the grammar.

  * `Value.nesting`, `Value.Distinct`, `Value.Strings` -- what a reader may ask of a document;
  * `Value.numbers` -- its number tokens, told apart by a mark on the names above them;
  * `Value.renumber` -- the same document with other number tokens.
-/
import Aios.Lib.Lexeme

namespace Lib.JsonText

/-! ## 1. Syntax -/

inductive Literal where
  | true
  | false
  | null
  deriving DecidableEq, Repr

def Literal.text : Literal → List UInt8
  | .true => [116, 114, 117, 101]
  | .false => [102, 97, 108, 115, 101]
  | .null => [110, 117, 108, 108]

/-- A string token, by what stands between its quotes. -/
structure Quoted where
  body : List UInt8
  ok : Body body

def Quoted.text (q : Quoted) : List UInt8 := 34 :: (q.body ++ [34])

mutual

inductive Value where
  | literal (l : Literal)
  | number (n : JsonNumber)
  | string (q : Quoted)
  | emptyArray (gap : List UInt8)
  | array (items : Items)
  | emptyObject (gap : List UInt8)
  | object (fields : Fields)

/-- The items of an array up to its closing bracket, each between two gaps. -/
inductive Items where
  | last (before : List UInt8) (value : Value) (after : List UInt8)
  | more (before : List UInt8) (value : Value) (after : List UInt8) (rest : Items)

/-- The members of an object up to its closing brace: gap, name, gap, colon, gap, value, gap. -/
inductive Fields where
  | last (before : List UInt8) (key : Quoted) (mid gap : List UInt8) (value : Value)
      (after : List UInt8)
  | more (before : List UInt8) (key : Quoted) (mid gap : List UInt8) (value : Value)
      (after : List UInt8) (rest : Fields)

end

mutual

def Value.text : Value → List UInt8
  | .literal l => l.text
  | .number n => n.text
  | .string q => q.text
  | .emptyArray gap => 91 :: (gap ++ [93])
  | .array items => 91 :: items.text
  | .emptyObject gap => 123 :: (gap ++ [125])
  | .object fields => 123 :: fields.text

def Items.text : Items → List UInt8
  | .last before value after => before ++ (value.text ++ (after ++ [93]))
  | .more before value after rest => before ++ (value.text ++ (after ++ 44 :: rest.text))

def Fields.text : Fields → List UInt8
  | .last before key mid gap value after =>
      before ++ (key.text ++ (mid ++ 58 :: (gap ++ (value.text ++ (after ++ [125])))))
  | .more before key mid gap value after rest =>
      before ++ (key.text ++ (mid ++ 58 :: (gap ++ (value.text ++ (after ++ 44 :: rest.text)))))

end

/-- A document: a value between two gaps. -/
structure Document where
  before : List UInt8
  value : Value
  after : List UInt8

def Document.text (d : Document) : List UInt8 := d.before ++ (d.value.text ++ d.after)

/-! ## 2. Gaps -/

/-- Space, tab, line feed, carriage return. -/
def isSpace (b : UInt8) : Bool := b = 32 || b = 9 || b = 10 || b = 13

section Spaced

variable (space : UInt8 → Bool)

/-- A gap holds nothing but these bytes. -/
def Gap (gap : List UInt8) : Prop := ∀ b ∈ gap, space b = true

mutual

/-- Every gap of the value holds nothing but these bytes. -/
def Value.Spaced : Value → Prop
  | .literal _ | .number _ | .string _ => True
  | .emptyArray gap | .emptyObject gap => Gap space gap
  | .array items => items.Spaced
  | .object fields => fields.Spaced

def Items.Spaced : Items → Prop
  | .last before value after => Gap space before ∧ value.Spaced ∧ Gap space after
  | .more before value after rest =>
      Gap space before ∧ value.Spaced ∧ Gap space after ∧ rest.Spaced

def Fields.Spaced : Fields → Prop
  | .last before _ mid gap value after => Gap space before ∧ Gap space mid ∧ Gap space gap ∧
      value.Spaced ∧ Gap space after
  | .more before _ mid gap value after rest => Gap space before ∧ Gap space mid ∧ Gap space gap ∧
      value.Spaced ∧ Gap space after ∧ rest.Spaced

end

def Document.Spaced (d : Document) : Prop :=
  Gap space d.before ∧ d.value.Spaced space ∧ Gap space d.after

end Spaced

/-! ## 3. Nesting -/

mutual

/-- The number of containers that stand in one another, the value itself included. -/
def Value.nesting : Value → Nat
  | .literal _ | .number _ | .string _ => 0
  | .emptyArray _ | .emptyObject _ => 1
  | .array items => items.nesting + 1
  | .object fields => fields.nesting + 1

def Items.nesting : Items → Nat
  | .last _ value _ => value.nesting
  | .more _ value _ rest => max value.nesting rest.nesting

def Fields.nesting : Fields → Nat
  | .last _ _ _ _ value _ => value.nesting
  | .more _ _ _ _ value _ rest => max value.nesting rest.nesting

end

mutual

/-- The number of containers the deepest value stands in, itself not counted. -/
def Value.height : Value → Nat
  | .literal _ | .number _ | .string _ | .emptyArray _ | .emptyObject _ => 0
  | .array items => items.height + 1
  | .object fields => fields.height + 1

def Items.height : Items → Nat
  | .last _ value _ => value.height
  | .more _ value _ rest => max value.height rest.height

def Fields.height : Fields → Nat
  | .last _ _ _ _ value _ => value.height
  | .more _ _ _ _ value _ rest => max value.height rest.height

end

mutual

theorem Value.height_le : ∀ v : Value, v.height ≤ v.nesting
  | .literal _ | .number _ | .string _ => Nat.le_refl 0
  | .emptyArray _ | .emptyObject _ => Nat.zero_le 1
  | .array items => Nat.succ_le_succ items.height_le
  | .object fields => Nat.succ_le_succ fields.height_le

theorem Items.height_le : ∀ items : Items, items.height ≤ items.nesting
  | .last _ value _ => value.height_le
  | .more _ value _ rest => max_le_max value.height_le rest.height_le

theorem Fields.height_le : ∀ fields : Fields, fields.height ≤ fields.nesting
  | .last _ _ _ _ value _ => value.height_le
  | .more _ _ _ _ value _ rest => max_le_max value.height_le rest.height_le

end

/-! ## 4. Names -/

section Names

variable (ok : Quoted → Prop)

mutual

/-- Every string token of the value, names included, is of this kind. -/
def Value.Strings : Value → Prop
  | .literal _ | .number _ | .emptyArray _ | .emptyObject _ => True
  | .string q => ok q
  | .array items => items.Strings
  | .object fields => fields.Strings

def Items.Strings : Items → Prop
  | .last _ value _ => value.Strings
  | .more _ value _ rest => value.Strings ∧ rest.Strings

def Fields.Strings : Fields → Prop
  | .last _ key _ _ value _ => ok key ∧ value.Strings
  | .more _ key _ _ value _ rest => ok key ∧ value.Strings ∧ rest.Strings

end

end Names

def Fields.keys : Fields → List Quoted
  | .last _ key _ _ _ _ => [key]
  | .more _ key _ _ _ _ rest => key :: rest.keys

section Distinct

variable (name : Quoted → String)

mutual

/-- No object of the value has two members of one name. -/
def Value.Distinct : Value → Prop
  | .literal _ | .number _ | .string _ | .emptyArray _ | .emptyObject _ => True
  | .array items => items.Distinct
  | .object fields => (fields.keys.map name).Nodup ∧ fields.Distinct

def Items.Distinct : Items → Prop
  | .last _ value _ => value.Distinct
  | .more _ value _ rest => value.Distinct ∧ rest.Distinct

def Fields.Distinct : Fields → Prop
  | .last _ _ _ _ value _ => value.Distinct
  | .more _ _ _ _ value _ rest => value.Distinct ∧ rest.Distinct

end

end Distinct

/-! ## 5. Number tokens -/

section Numbers

variable (marks : Quoted → Bool)

mutual

/-- The number tokens, each with whether it stands below a member whose name is marked. -/
def Value.numbers (below : Bool) : Value → List (Bool × JsonNumber)
  | .literal _ | .string _ | .emptyArray _ | .emptyObject _ => []
  | .number n => [(below, n)]
  | .array items => items.numbers below
  | .object fields => fields.numbers below

def Items.numbers (below : Bool) : Items → List (Bool × JsonNumber)
  | .last _ value _ => value.numbers below
  | .more _ value _ rest => value.numbers below ++ rest.numbers below

def Fields.numbers (below : Bool) : Fields → List (Bool × JsonNumber)
  | .last _ key _ _ value _ => value.numbers (below || marks key)
  | .more _ key _ _ value _ rest => value.numbers (below || marks key) ++ rest.numbers below

end

variable (f : Bool → JsonNumber → JsonNumber)

mutual

/-- The same value with other number tokens. -/
def Value.renumber (below : Bool) : Value → Value
  | .literal l => .literal l
  | .number n => .number (f below n)
  | .string q => .string q
  | .emptyArray gap => .emptyArray gap
  | .array items => .array (items.renumber below)
  | .emptyObject gap => .emptyObject gap
  | .object fields => .object (fields.renumber below)

def Items.renumber (below : Bool) : Items → Items
  | .last before value after => .last before (value.renumber below) after
  | .more before value after rest =>
      .more before (value.renumber below) after (rest.renumber below)

def Fields.renumber (below : Bool) : Fields → Fields
  | .last before key mid gap value after =>
      .last before key mid gap (value.renumber (below || marks key)) after
  | .more before key mid gap value after rest =>
      .more before key mid gap (value.renumber (below || marks key)) after (rest.renumber below)

end

def Document.renumber (d : Document) : Document :=
  { d with value := d.value.renumber marks f false }

end Numbers

section Renumber

variable {marks : Quoted → Bool} {f : Bool → JsonNumber → JsonNumber}

mutual

theorem Value.nesting_renumber (below : Bool) : ∀ v : Value,
    (v.renumber marks f below).nesting = v.nesting
  | .literal _ | .number _ | .string _ | .emptyArray _ | .emptyObject _ => rfl
  | .array items => congrArg (· + 1) (items.nesting_renumber below)
  | .object fields => congrArg (· + 1) (fields.nesting_renumber below)

theorem Items.nesting_renumber (below : Bool) : ∀ items : Items,
    (items.renumber marks f below).nesting = items.nesting
  | .last _ value _ => value.nesting_renumber below
  | .more _ value _ rest => congrArg₂ max (value.nesting_renumber below) (rest.nesting_renumber below)

theorem Fields.nesting_renumber (below : Bool) : ∀ fields : Fields,
    (fields.renumber marks f below).nesting = fields.nesting
  | .last _ _ _ _ value _ => value.nesting_renumber _
  | .more _ _ _ _ value _ rest => congrArg₂ max (value.nesting_renumber _) (rest.nesting_renumber below)

end

mutual

theorem Value.spaced_renumber {space : UInt8 → Bool} (below : Bool) : ∀ v : Value,
    (v.renumber marks f below).Spaced space ↔ v.Spaced space
  | .literal _ | .number _ | .string _ | .emptyArray _ | .emptyObject _ => Iff.rfl
  | .array items => items.spaced_renumber below
  | .object fields => fields.spaced_renumber below

theorem Items.spaced_renumber {space : UInt8 → Bool} (below : Bool) : ∀ items : Items,
    (items.renumber marks f below).Spaced space ↔ items.Spaced space
  | .last _ value _ => by
      simp only [Items.renumber, Items.Spaced, value.spaced_renumber below]
  | .more _ value _ rest => by
      simp only [Items.renumber, Items.Spaced, value.spaced_renumber below, rest.spaced_renumber below]

theorem Fields.spaced_renumber {space : UInt8 → Bool} (below : Bool) : ∀ fields : Fields,
    (fields.renumber marks f below).Spaced space ↔ fields.Spaced space
  | .last _ key _ _ value _ => by
      simp only [Fields.renumber, Fields.Spaced, value.spaced_renumber (below || marks key)]
  | .more _ key _ _ value _ rest => by
      simp only [Fields.renumber, Fields.Spaced, value.spaced_renumber (below || marks key),
        rest.spaced_renumber below]

end

mutual

theorem Value.strings_renumber {ok : Quoted → Prop} (below : Bool) : ∀ v : Value,
    (v.renumber marks f below).Strings ok ↔ v.Strings ok
  | .literal _ | .number _ | .string _ | .emptyArray _ | .emptyObject _ => Iff.rfl
  | .array items => items.strings_renumber below
  | .object fields => fields.strings_renumber below

theorem Items.strings_renumber {ok : Quoted → Prop} (below : Bool) : ∀ items : Items,
    (items.renumber marks f below).Strings ok ↔ items.Strings ok
  | .last _ value _ => value.strings_renumber below
  | .more _ value _ rest =>
      and_congr (value.strings_renumber below) (rest.strings_renumber below)

theorem Fields.strings_renumber {ok : Quoted → Prop} (below : Bool) : ∀ fields : Fields,
    (fields.renumber marks f below).Strings ok ↔ fields.Strings ok
  | .last _ _ _ _ value _ => and_congr_right' (value.strings_renumber _)
  | .more _ _ _ _ value _ rest =>
      and_congr_right' (and_congr (value.strings_renumber _) (rest.strings_renumber below))

end

theorem Fields.keys_renumber (below : Bool) : ∀ fields : Fields,
    (fields.renumber marks f below).keys = fields.keys
  | .last _ _ _ _ _ _ => rfl
  | .more _ key _ _ _ _ rest => congrArg (key :: ·) (rest.keys_renumber below)

mutual

theorem Value.distinct_renumber {name : Quoted → String} (below : Bool) : ∀ v : Value,
    (v.renumber marks f below).Distinct name ↔ v.Distinct name
  | .literal _ | .number _ | .string _ | .emptyArray _ | .emptyObject _ => Iff.rfl
  | .array items => items.distinct_renumber below
  | .object fields => by
      simp only [Value.renumber, Value.Distinct, fields.keys_renumber below,
        fields.distinct_renumber below]

theorem Items.distinct_renumber {name : Quoted → String} (below : Bool) : ∀ items : Items,
    (items.renumber marks f below).Distinct name ↔ items.Distinct name
  | .last _ value _ => value.distinct_renumber below
  | .more _ value _ rest =>
      and_congr (value.distinct_renumber below) (rest.distinct_renumber below)

theorem Fields.distinct_renumber {name : Quoted → String} (below : Bool) : ∀ fields : Fields,
    (fields.renumber marks f below).Distinct name ↔ fields.Distinct name
  | .last _ _ _ _ value _ => value.distinct_renumber _
  | .more _ _ _ _ value _ rest =>
      and_congr (value.distinct_renumber _) (rest.distinct_renumber below)

end

mutual

/-- The number tokens of a renumbered value. -/
theorem Value.numbers_renumber (below : Bool) : ∀ v : Value,
    (v.renumber marks f below).numbers marks below =
      (v.numbers marks below).map fun p => (p.1, f p.1 p.2)
  | .literal _ | .string _ | .emptyArray _ | .emptyObject _ => rfl
  | .number _ => rfl
  | .array items => items.numbers_renumber below
  | .object fields => fields.numbers_renumber below

theorem Items.numbers_renumber (below : Bool) : ∀ items : Items,
    (items.renumber marks f below).numbers marks below =
      (items.numbers marks below).map fun p => (p.1, f p.1 p.2)
  | .last _ value _ => value.numbers_renumber below
  | .more _ value _ rest => by
      simp only [Items.renumber, Items.numbers, value.numbers_renumber below,
        rest.numbers_renumber below, List.map_append]

theorem Fields.numbers_renumber (below : Bool) : ∀ fields : Fields,
    (fields.renumber marks f below).numbers marks below =
      (fields.numbers marks below).map fun p => (p.1, f p.1 p.2)
  | .last _ key _ _ value _ => value.numbers_renumber (below || marks key)
  | .more _ key _ _ value _ rest => by
      simp only [Fields.renumber, Fields.numbers, value.numbers_renumber (below || marks key),
        rest.numbers_renumber below, List.map_append]

end

mutual

/-- Number tokens that are kept leave the value as it is. -/
theorem Value.renumber_self (below : Bool) : ∀ v : Value,
    (∀ p ∈ v.numbers marks below, f p.1 p.2 = p.2) → v.renumber marks f below = v
  | .literal _, _ | .string _, _ | .emptyArray _, _ | .emptyObject _, _ => rfl
  | .number n, h => congrArg Value.number (h (below, n) List.mem_cons_self)
  | .array items, h => congrArg Value.array (items.renumber_self below h)
  | .object fields, h => congrArg Value.object (fields.renumber_self below h)

theorem Items.renumber_self (below : Bool) : ∀ items : Items,
    (∀ p ∈ items.numbers marks below, f p.1 p.2 = p.2) → items.renumber marks f below = items
  | .last _ value _, h => by
      rw [Items.renumber, value.renumber_self below h]
  | .more _ value _ rest, h => by
      rw [Items.numbers, List.forall_mem_append] at h
      rw [Items.renumber, value.renumber_self below h.1, rest.renumber_self below h.2]

theorem Fields.renumber_self (below : Bool) : ∀ fields : Fields,
    (∀ p ∈ fields.numbers marks below, f p.1 p.2 = p.2) → fields.renumber marks f below = fields
  | .last _ key _ _ value _, h => by
      rw [Fields.renumber, value.renumber_self (below || marks key) h]
  | .more _ key _ _ value _ rest, h => by
      rw [Fields.numbers, List.forall_mem_append] at h
      rw [Fields.renumber, value.renumber_self (below || marks key) h.1, rest.renumber_self below h.2]

end

mutual

/-- A number token is no longer than the text it stands in. -/
theorem Value.length_number {p : Bool × JsonNumber} (below : Bool) : ∀ v : Value,
    p ∈ v.numbers marks below → p.2.text.length ≤ v.text.length
  | .literal _, h | .string _, h | .emptyArray _, h | .emptyObject _, h => by cases h
  | .number n, h => by
      rw [List.mem_singleton.mp h]
      exact Nat.le_refl _
  | .array items, h => Nat.le_succ_of_le (items.length_number below h)
  | .object fields, h => Nat.le_succ_of_le (fields.length_number below h)

theorem Items.length_number {p : Bool × JsonNumber} (below : Bool) : ∀ items : Items,
    p ∈ items.numbers marks below → p.2.text.length ≤ items.text.length
  | .last _ value _, h => by
      have hvalue := value.length_number below h
      simp only [Items.text, List.length_append]
      omega
  | .more _ value _ rest, h => by
      simp only [Items.text, List.length_append, List.length_cons]
      rcases List.mem_append.mp h with h | h
      · have hvalue := value.length_number below h
        omega
      · have hrest := rest.length_number below h
        omega

theorem Fields.length_number {p : Bool × JsonNumber} (below : Bool) : ∀ fields : Fields,
    p ∈ fields.numbers marks below → p.2.text.length ≤ fields.text.length
  | .last _ key _ _ value _, h => by
      have hvalue := value.length_number (below || marks key) h
      simp only [Fields.text, List.length_append, List.length_cons]
      omega
  | .more _ key _ _ value _ rest, h => by
      simp only [Fields.text, List.length_append, List.length_cons]
      rcases List.mem_append.mp h with h | h
      · have hvalue := value.length_number (below || marks key) h
        omega
      · have hrest := rest.length_number below h
        omega

end

end Renumber

end Lib.JsonText
