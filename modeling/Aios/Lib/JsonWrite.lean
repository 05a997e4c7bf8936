/-
  File:      Aios/Lib/JsonWrite.lean
  Subject:   THE TEXT A COMPACT WRITER GIVES AN OBJECT, and what a text that stops inside of it is.

  * `quote` -- a string between quotes, with the escapes of a writer that escapes no more than it must;
  * `compactFields`, `compactObject` -- the members of an object without a gap between the tokens;
  * `torn_no_document` -- **what is left of an object when its text is cut short is no document**.
-/
import Aios.Lib.JsonUnique
import Aios.Lib.JsonValue
import Mathlib.Data.String.Basic

namespace Lib.JsonText

/-! ## 1. Strings -/

/-- The lowercase hexadecimal digit. -/
def hexDigit (n : Nat) : UInt8 := if n < 10 then (48 + n).toUInt8 else (87 + n).toUInt8

/-- A byte of a string: quotes and backslashes are escaped, and so are the control bytes. -/
def escapeByte (b : UInt8) : List UInt8 :=
  if b = 34 ∨ b = 92 then [92, b]
  else if b = 8 then [92, 98]
  else if b = 9 then [92, 116]
  else if b = 10 then [92, 110]
  else if b = 12 then [92, 102]
  else if b = 13 then [92, 114]
  else if b < 32 then [92, 117, 48, 48, hexDigit (b.toNat / 16), hexDigit (b.toNat % 16)]
  else [b]

theorem length_escapeByte (b : UInt8) : (escapeByte b).length ≤ 6 := by
  unfold escapeByte
  repeat' split
  all_goals simp

/-- A digit is neither a quote nor a backslash. -/
theorem hexDigit_plain {n : Nat} (h : n < 16) : hexDigit n ≠ 34 ∧ hexDigit n ≠ 92 := by
  have hall : ∀ k : Fin 16, hexDigit k ≠ 34 ∧ hexDigit k ≠ 92 := by decide
  exact hall ⟨n, h⟩

theorem body_append {l rest : List UInt8} (h : Body l) (hrest : Body rest) : Body (l ++ rest) := by
  induction h with
  | nil => exact hrest
  | plain hquote hslash _ ih => exact .plain hquote hslash ih
  | escaped b _ ih => exact .escaped b ih

theorem body_escapeByte (b : UInt8) : Body (escapeByte b) := by
  unfold escapeByte
  split
  · exact .escaped b .nil
  · next hplain =>
    rw [not_or] at hplain
    repeat' split
    · exact .escaped _ .nil
    · exact .escaped _ .nil
    · exact .escaped _ .nil
    · exact .escaped _ .nil
    · exact .escaped _ .nil
    · have hb : b.toNat < 256 := b.toNat_lt
      have hhigh := hexDigit_plain (n := b.toNat / 16) (by omega)
      have hlow := hexDigit_plain (n := b.toNat % 16) (by omega)
      exact .escaped 117 (.plain (by decide) (by decide) (.plain (by decide) (by decide)
        (.plain hhigh.1 hhigh.2 (.plain hlow.1 hlow.2 .nil))))
    · exact .plain hplain.1 hplain.2 .nil

theorem body_escaped (bytes : List UInt8) : Body (bytes.flatMap escapeByte) := by
  induction bytes with
  | nil => exact .nil
  | cons b bytes ih =>
      rw [List.flatMap_cons]
      exact body_append (body_escapeByte b) ih

/-- The string token a writer writes. -/
def quote (s : String) : Quoted := ⟨s.toUTF8.data.toList.flatMap escapeByte, body_escaped _⟩

theorem length_quote_le (s : String) : (quote s).text.length ≤ 6 * s.toUTF8.size + 2 := by
  have hbody : ∀ bytes : List UInt8, (bytes.flatMap escapeByte).length ≤ 6 * bytes.length := by
    intro bytes
    induction bytes with
    | nil => exact Nat.le_refl 0
    | cons b bytes ih =>
        have hbyte := length_escapeByte b
        rw [List.flatMap_cons, List.length_append, List.length_cons]
        omega
  have h := hbody s.toUTF8.data.toList
  have hsize : s.toUTF8.data.toList.length = s.toUTF8.size := rfl
  show (34 :: (s.toUTF8.data.toList.flatMap escapeByte ++ [34])).length ≤ _
  rw [List.length_cons, List.length_append, List.length_singleton]
  omega

theorem utf8ByteSize_le (s : String) : s.utf8ByteSize ≤ 4 * s.length := by
  have h : ∀ l : List Char, (String.ofList l).utf8ByteSize ≤ 4 * l.length := by
    intro l
    induction l with
    | nil => simp
    | cons c l ih =>
        have hc := c.utf8Size_le_four
        rw [String.ofList_cons, String.utf8ByteSize_append, String.utf8ByteSize_singleton, List.length_cons]
        omega
  have hs := h s.toList
  rwa [String.ofList_toList, String.length_toList] at hs

theorem length_quote_le_chars (s : String) : (quote s).text.length ≤ 24 * s.length + 2 := by
  have hbytes := length_quote_le s
  have hchars := utf8ByteSize_le s
  have hsize : s.toUTF8.size = s.utf8ByteSize := rfl
  omega

/-- The value of a lowercase hexadecimal digit. -/
def hexValue (b : UInt8) : Nat := if b.toNat < 58 then b.toNat - 48 else b.toNat - 87

/-- The byte an escape stands for, and what is after it. -/
def unescapeByte : List UInt8 → Option (UInt8 × List UInt8)
  | [] => none
  | [b] => some (b, [])
  | b :: c :: rest =>
      if b ≠ 92 then some (b, c :: rest)
      else if c = 98 then some (8, rest)
      else if c = 116 then some (9, rest)
      else if c = 110 then some (10, rest)
      else if c = 102 then some (12, rest)
      else if c = 114 then some (13, rest)
      else if c = 117 then
        some ((16 * hexValue (rest.getD 2 0) + hexValue (rest.getD 3 0)).toUInt8, rest.drop 4)
      else some (c, rest)

theorem unescape_escapeByte (b : UInt8) (rest : List UInt8) :
    unescapeByte (escapeByte b ++ rest) = some (b, rest) := by
  have hcontrol : ∀ n : Fin 32,
      (16 * hexValue (hexDigit (n / 16)) + hexValue (hexDigit (n % 16))).toUInt8 = n.val.toUInt8 := by decide
  unfold escapeByte
  split
  · next h =>
    obtain rfl | rfl := h <;> rfl
  · next hplain =>
    rw [not_or] at hplain
    repeat' split
    · next h => rw [h]; rfl
    · next h => rw [h]; rfl
    · next h => rw [h]; rfl
    · next h => rw [h]; rfl
    · next h => rw [h]; rfl
    · next h =>
      have hvalue := hcontrol ⟨b.toNat, h⟩
      have hbyte : b.toNat.toUInt8 = b := by simp
      rw [hbyte] at hvalue
      exact congrArg (fun c => some (c, rest)) hvalue
    · cases rest with
      | nil => rfl
      | cons c rest => exact if_pos hplain.2

theorem escaped_injective {xs ys : List UInt8} (h : xs.flatMap escapeByte = ys.flatMap escapeByte) : xs = ys := by
  induction xs generalizing ys with
  | nil =>
      cases ys with
      | nil => rfl
      | cons y ys =>
          have hy := unescape_escapeByte y (ys.flatMap escapeByte)
          rw [List.flatMap_nil, List.flatMap_cons] at h
          rw [← h] at hy
          cases hy
  | cons x xs ih =>
      have hx := unescape_escapeByte x (xs.flatMap escapeByte)
      rw [← List.flatMap_cons, h] at hx
      cases ys with
      | nil => cases hx
      | cons y ys =>
          rw [List.flatMap_cons, unescape_escapeByte] at hx
          obtain ⟨rfl, hrest⟩ := Prod.mk.inj (Option.some.inj hx)
          rw [ih hrest.symm]

/-- **No two strings have one token.** -/
theorem quote_injective {s t : String} (h : (quote s).text = (quote t).text) : s = t := by
  have hbody : s.toUTF8.data.toList.flatMap escapeByte = t.toUTF8.data.toList.flatMap escapeByte :=
    List.append_cancel_right (List.cons.inj h).2
  have hbytes := escaped_injective hbody
  exact String.toByteArray_inj.mp (ByteArray.ext (Array.toList_inj.mp hbytes))

/-! ## 2. Objects -/

/-- The members, from the first on, without a gap. -/
def compactFields (member : Quoted × Value) : List (Quoted × Value) → Fields
  | [] => .last [] member.1 [] [] member.2 []
  | next :: rest => .more [] member.1 [] [] member.2 [] (compactFields next rest)

def compactObject (member : Quoted × Value) (rest : List (Quoted × Value)) : Value :=
  .object (compactFields member rest)

/-- A document without a gap around it. -/
def bare (v : Value) : Document := ⟨[], v, []⟩

theorem text_bare (v : Value) : (bare v).text = v.text := by
  show [] ++ (v.text ++ []) = v.text
  rw [List.nil_append, List.append_nil]

theorem gap_nil {space : UInt8 → Bool} : Gap space [] := nofun

section Compact

variable {space : UInt8 → Bool} {ok : Quoted → Prop} {num : JsonNumber → Number} {name : Quoted → String}

theorem spaced_compactFields (member : Quoted × Value) (rest : List (Quoted × Value))
    (h : ∀ m ∈ member :: rest, m.2.Spaced space) : (compactFields member rest).Spaced space := by
  induction rest generalizing member with
  | nil => exact ⟨gap_nil, gap_nil, gap_nil, h member List.mem_cons_self, gap_nil⟩
  | cons next rest ih =>
      exact ⟨gap_nil, gap_nil, gap_nil, h member List.mem_cons_self, gap_nil,
        ih next fun m hm => h m (List.mem_cons_of_mem _ hm)⟩

theorem strings_compactFields (member : Quoted × Value) (rest : List (Quoted × Value))
    (h : ∀ m ∈ member :: rest, ok m.1 ∧ m.2.Strings ok) : (compactFields member rest).Strings ok := by
  induction rest generalizing member with
  | nil => exact h member List.mem_cons_self
  | cons next rest ih =>
      obtain ⟨hkey, hvalue⟩ := h member List.mem_cons_self
      exact ⟨hkey, hvalue, ih next fun m hm => h m (List.mem_cons_of_mem _ hm)⟩

theorem insertInto_compactFields (member : Quoted × Value) (rest : List (Quoted × Value))
    (members : List (String × Json)) : (compactFields member rest).insertInto num name members =
      (member :: rest).foldl (fun l m => Json.insertMember (name m.1) (m.2.json num name) l) members := by
  induction rest generalizing member members with
  | nil => rfl
  | cons next rest ih => exact ih next _

end Compact

/-! ## 3. Torn texts -/

/-- **What is left of an object when its text is cut short is no document.** -/
theorem torn_no_document {fields : Fields} (hfields : fields.Spaced separates) {d : Document}
    (hd : d.Spaced separates) (h : d.text <+: (Value.object fields).text) : d.text = (Value.object fields).text := by
  obtain ⟨before, v, after⟩ := d
  obtain ⟨hbefore, hv, _⟩ := hd
  obtain ⟨rest, hrest⟩ := h
  have htext : before ++ (v.text ++ (after ++ rest)) = [] ++ ((Value.object fields).text ++ []) := by
    rw [List.nil_append, List.append_nil, ← hrest]
    simp only [Document.text, List.append_assoc]
  obtain ⟨hnone, hvalue⟩ := gap_unique hbefore gap_nil (v.solid _) ((Value.object fields).solid _) htext
  have hlead := lead_eq hvalue
  cases v with
  | emptyObject gap =>
      simp only [Value.text, List.cons_append, List.append_assoc, List.cons.injEq, true_and] at hvalue
      exact absurd hvalue (fields.empty_ne hv hfields)
  | object fields' =>
      simp only [Value.text, List.cons_append, List.cons.injEq, true_and] at hvalue
      obtain ⟨rfl, hend⟩ := Fields.unique fields' fields hv hfields hvalue
      have hafter : after = [] := (List.append_eq_nil_iff.mp hend).1
      subst hnone hafter
      exact text_bare _
  | literal _ | number _ | string _ | emptyArray _ | array _ => exact absurd hlead (by simp [Value.lead])

end Lib.JsonText
