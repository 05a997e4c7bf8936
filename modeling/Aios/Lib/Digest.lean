/-
  File:      Aios/Lib/Digest.lean
  Subject:   Tagged hexadecimal digests over canonical JSON.

  The canonical serialisation (RFC 8785) and SHA-256 are parameters: `Digest` holds the two
  functions and the one fact about SHA-256 the text of a digest depends on, its 32 bytes. A tagged
  digest is `sha256:` and 64 lowercase hexadecimal digits (`tagged_toList`, `hexDigits_lower`).
-/
import Aios.Lib.Json

namespace Lib

structure Digest where
  /-- The canonical bytes of a value. -/
  canonical : Json → Except String (List UInt8)
  sha256 : List UInt8 → List UInt8
  size : ∀ bytes, (sha256 bytes).length = 32

/-- The two lowercase digits of a byte. -/
def hexByte (b : UInt8) : List Char := [(b.toNat / 16).digitChar, (b.toNat % 16).digitChar]

def hexDigits (bytes : List UInt8) : List Char := bytes.flatMap hexByte

theorem length_hexDigits : ∀ bytes : List UInt8, (hexDigits bytes).length = 2 * bytes.length
  | [] => rfl
  | b :: bytes => by
      have ih := length_hexDigits bytes
      unfold hexDigits at ih ⊢
      rw [List.flatMap_cons, List.length_append, ih, hexByte, List.length_cons, List.length_cons,
        List.length_nil, List.length_cons]
      omega

theorem digitChar_injective : ∀ m n : Fin 16, m.val.digitChar = n.val.digitChar → m = n := by decide

theorem hexByte_injective {a b : UInt8} (h : hexByte a = hexByte b) : a = b := by
  have ha : a.toNat < 256 := a.toNat_lt
  have hb : b.toNat < 256 := b.toNat_lt
  unfold hexByte at h
  obtain ⟨hhigh, hlow⟩ := List.cons.inj h
  have high := digitChar_injective ⟨a.toNat / 16, by omega⟩ ⟨b.toNat / 16, by omega⟩ hhigh
  have low := digitChar_injective ⟨a.toNat % 16, by omega⟩ ⟨b.toNat % 16, by omega⟩
    (List.cons.inj hlow).1
  simp only [Fin.mk.injEq] at high low
  exact UInt8.toNat_inj.mp (by omega)

/-- Digits determine the bytes. -/
theorem hexDigits_injective : ∀ {a b : List UInt8}, hexDigits a = hexDigits b → a = b
  | [], [], _ => rfl
  | [], y :: ys, h => by
      have := congrArg List.length h
      rw [length_hexDigits, length_hexDigits, List.length_nil, List.length_cons] at this
      omega
  | x :: xs, [], h => by
      have := congrArg List.length h
      rw [length_hexDigits, length_hexDigits, List.length_nil, List.length_cons] at this
      omega
  | x :: xs, y :: ys, h => by
      have hsplit : hexByte x ++ hexDigits xs = hexByte y ++ hexDigits ys := h
      obtain ⟨hbyte, hrest⟩ := List.append_inj hsplit rfl
      rw [hexByte_injective hbyte, hexDigits_injective hrest]

/-- A decimal digit or one of the letters a to f. -/
def isLowerHex (c : Char) : Bool := ('0' ≤ c && c ≤ '9') || ('a' ≤ c && c ≤ 'f')

theorem digitChar_lower : ∀ n : Fin 16, isLowerHex n.val.digitChar = true := by decide

theorem hexDigits_lower {bytes : List UInt8} {c : Char} (h : c ∈ hexDigits bytes) :
    isLowerHex c = true := by
  obtain ⟨b, _, hc⟩ := List.mem_flatMap.mp h
  have hb : b.toNat < 256 := b.toNat_lt
  rcases List.mem_cons.mp hc with e | hc
  · rw [e]
    exact digitChar_lower ⟨b.toNat / 16, by omega⟩
  · rw [List.mem_singleton.mp hc]
    exact digitChar_lower ⟨b.toNat % 16, by omega⟩

namespace Digest

/-- The digest of the domain and the payload, as a tagged text. -/
def tagged (d : Digest) (domain payload : List UInt8) : String :=
  "sha256:" ++ String.ofList (hexDigits (d.sha256 (domain ++ payload)))

/-- **A tagged digest is the tag and 64 digits.** -/
theorem tagged_toList (d : Digest) (domain payload : List UInt8) :
    ∃ digits : List Char, (d.tagged domain payload).toList = "sha256:".toList ++ digits ∧
      digits.length = 64 ∧ ∀ c ∈ digits, isLowerHex c = true := by
  refine ⟨hexDigits (d.sha256 (domain ++ payload)), ?_, ?_, fun c => hexDigits_lower⟩
  · unfold tagged
    rw [String.toList_append, String.toList_ofList (l := hexDigits _)]
  · rw [length_hexDigits, d.size]

/-- Equal tagged digests are equal digests. -/
theorem tagged_injective {d : Digest} {domain p q : List UInt8}
    (h : d.tagged domain p = d.tagged domain q) : d.sha256 (domain ++ p) = d.sha256 (domain ++ q) := by
  have e := congrArg String.toList h
  unfold tagged at e
  rw [String.toList_append, String.toList_append, List.append_cancel_left_eq,
    String.toList_ofList (l := hexDigits _), String.toList_ofList (l := hexDigits _)] at e
  exact hexDigits_injective e

end Digest

/-! ## Lengths in bytes -/

theorem utf8ByteSize_eq (s : String) : s.utf8ByteSize = String.utf8Len s.toList := by
  have e := String.utf8ByteSize_ofList s.toList
  rwa [String.ofList_toList] at e

/-- A text of `n` characters takes at most `4 n` bytes. -/
theorem utf8ByteSize_le (s : String) : s.utf8ByteSize ≤ 4 * s.length := by
  have hchars : ∀ l : List Char, String.utf8Len l ≤ 4 * l.length := by
    intro l
    induction l with
    | nil => simp
    | cons c l ih =>
        have hc := c.utf8Size_le_four
        simp only [String.utf8Len_cons, List.length_cons]
        omega
  rw [utf8ByteSize_eq, ← String.length_toList]
  exact hchars s.toList

theorem utf8Size_ascii {c : Char} (h : c.toNat < 128) : c.utf8Size = 1 := by
  have hval : c.val ≤ 0x7f := by
    rw [UInt32.le_iff_toNat_le]
    have hc : c.val.toNat < 128 := h
    show c.val.toNat ≤ 127
    omega
  simp [Char.utf8Size, hval]

/-- An ASCII text takes one byte for each character. -/
theorem utf8ByteSize_ascii {s : String} (h : ∀ c ∈ s.toList, c.toNat < 128) :
    s.utf8ByteSize = s.length := by
  have hchars : ∀ l : List Char, (∀ c ∈ l, c.toNat < 128) → String.utf8Len l = l.length := by
    intro l
    induction l with
    | nil => simp
    | cons c l ih =>
        intro hl
        have hc := utf8Size_ascii (hl c List.mem_cons_self)
        have hrest := ih fun d hd => hl d (List.mem_cons_of_mem c hd)
        simp only [String.utf8Len_cons, List.length_cons]
        omega
  rw [utf8ByteSize_eq, ← String.length_toList]
  exact hchars s.toList h

/-- A hexadecimal digit is an ASCII letter or digit. -/
theorem lowerHex_ascii {c : Char} (h : isLowerHex c = true) :
    c.toNat < 128 ∧ c.isAlphanum = true := by
  simp only [isLowerHex, Bool.or_eq_true, Bool.and_eq_true, decide_eq_true_eq, Char.le_def,
    UInt32.le_iff_toNat_le] at h
  have h0 : ('0' : Char).val.toNat = 48 := rfl
  have h9 : ('9' : Char).val.toNat = 57 := rfl
  have ha : ('a' : Char).val.toNat = 97 := rfl
  have hf : ('f' : Char).val.toNat = 102 := rfl
  rw [h0, h9, ha, hf] at h
  have e : c.toNat = c.val.toNat := rfl
  have hascii : c.toNat < 128 := by omega
  refine ⟨hascii, ?_⟩
  have hall : ∀ n : Fin 128, 48 ≤ n.val ∧ n.val ≤ 57 ∨ 97 ≤ n.val ∧ n.val ≤ 102 →
      (Char.ofNat n).isAlphanum = true := by decide
  have hrange : 48 ≤ c.toNat ∧ c.toNat ≤ 57 ∨ 97 ≤ c.toNat ∧ c.toNat ≤ 102 := by omega
  have hc := hall ⟨c.toNat, hascii⟩ hrange
  rwa [Char.ofNat_toNat] at hc

/-! ## Plain values -/

/-- Texts between commas. -/
def commaJoin (l : List String) : String := String.intercalate "," l

mutual

/-- The canonical text of a value whose texts need no escape and whose numbers are natural. -/
def plainText : Json → String
  | .null => "null"
  | .bool b => if b then "true" else "false"
  | .num (.posInt n) => toString n
  | .num _ => ""
  | .str s => "\"" ++ s ++ "\""
  | .arr elems => "[" ++ commaJoin (plainElements elems) ++ "]"
  | .obj members => "\x7b" ++ commaJoin (plainMembers members) ++ "\x7d"

@[inherit_doc plainText]
def plainElements : List Json → List String
  | [] => []
  | v :: l => plainText v :: plainElements l

@[inherit_doc plainText]
def plainMembers : List (String × Json) → List String
  | [] => []
  | (k, v) :: l => ("\"" ++ k ++ "\":" ++ plainText v) :: plainMembers l

end

/-- Lists of bytes between commas. -/
def commaBytes : List (List UInt8) → List UInt8
  | [] => []
  | [l] => l
  | l :: rest => l ++ 44 :: commaBytes rest

def quotedBytes (s : String) : List UInt8 := 34 :: s.toUTF8.toList ++ [34]

mutual

/-- The canonical bytes of a plain value, put together as bytes. -/
def plainBytes : Json → List UInt8
  | .null => "null".toUTF8.toList
  | .bool b => if b then "true".toUTF8.toList else "false".toUTF8.toList
  | .num (.posInt n) => (Nat.toDigits 10 n).map fun c => UInt8.ofNat c.toNat
  | .num _ => []
  | .str s => quotedBytes s
  | .arr elems => 91 :: commaBytes (plainElementBytes elems) ++ [93]
  | .obj members => 123 :: commaBytes (plainMemberBytes members) ++ [125]

@[inherit_doc plainBytes]
def plainElementBytes : List Json → List (List UInt8)
  | [] => []
  | v :: l => plainBytes v :: plainElementBytes l

@[inherit_doc plainBytes]
def plainMemberBytes : List (String × Json) → List (List UInt8)
  | [] => []
  | (k, v) :: l => (quotedBytes k ++ 58 :: plainBytes v) :: plainMemberBytes l

end

/-- Plain texts as canonical bytes, and a digest known at the listed inputs. -/
def knownDigest (known : List (List UInt8 × { d : List UInt8 // d.length = 32 })) : Digest where
  canonical := fun v => .ok (plainText v).toUTF8.toList
  sha256 := fun bytes => ((known.lookup bytes).map Subtype.val).getD (List.replicate 32 0)
  size := fun bytes => by
    cases known.lookup bytes with
    | none => rfl
    | some d => exact d.property

end Lib
