/-
  File:      Aios/Registry/Records.lean
  Subject:   THE RECORD PREFILTER IS EXACT: reading a contract source (`aios-registry/src/schema.rs`).

  The number of records of a source is bounded before the parser sees it, by a scanner that counts
  where a value starts at depth one. `topLevelArrayExceedsLimit` is compared with the grammar: on an
  array document it counts the elements, whatever stands in them.

  The loop goes over a slice by its index. `overflows` is the same loop on the bytes that are left
  (`recordLoop_eq`); what a byte does is one function of both (`RecordScan.step`).
-/
import Aios.Ir.Sanitized
import Aios.Lib.JsonCount
import Aios.Registry.Build
import Aios.Registry.StrictJson

namespace Aios.Registry

open Lib JsonText

/-! ## 1. The prefilter -/

def usizeMax : Nat := 18446744073709551615

/-- `usize::saturating_add(1)`. -/
def saturatingSucc (n : Nat) : Nat := min (n + 1) usizeMax

structure RecordScan where
  depth : Nat
  inString : Bool
  escaped : Bool
  inTopLevelValue : Bool
  count : Nat
  deriving DecidableEq, Repr

/-- What the scan does at a byte: it answers, or it goes on behind the byte. -/
def RecordScan.step (maximum : Nat) (s : RecordScan) (byte : UInt8) : Except Bool RecordScan :=
  if s.inString then
    .ok (if s.escaped then { s with escaped := false }
      else if byte = 92 then { s with escaped := true }
      else if byte = 34 then { s with inString := false }
      else s)
  else do
    let s ←
      if s.depth = 1 && !s.inTopLevelValue && !isAsciiWhitespace byte && byte ≠ 44 && byte ≠ 93 then
        if maximum < saturatingSucc s.count then .error true
        else .ok { s with count := saturatingSucc s.count, inTopLevelValue := true }
      else .ok s
    if byte = 34 then .ok { s with inString := true }
    else if byte = 123 || byte = 91 then .ok { s with depth := saturatingSucc s.depth }
    else if byte = 125 || byte = 93 then
      if s.depth = 1 then .error false else .ok { s with depth := s.depth - 1 }
    else if byte = 44 && s.depth = 1 then .ok { s with inTopLevelValue := false }
    else .ok s

/-- The loop from an index on: the answer, and the index it was given at. -/
def recordLoop (maximum : Nat) (bytes : List UInt8) (index : Nat) (s : RecordScan) : Bool × Nat :=
  match _h : bytes[index]? with
  | none => (false, index)
  | some byte =>
    match s.step maximum byte with
    | .error answer => (answer, index)
    | .ok s => recordLoop maximum bytes (index + 1) s
termination_by bytes.length - index
decreasing_by
  have hindex : index < bytes.length := (List.getElem?_eq_some_iff.mp _h).1
  omega

def scanStart : RecordScan := ⟨1, false, false, false, 0⟩

/-- The scan of `top_level_array_exceeds_limit`. -/
def scanTopLevelArray (bytes : List UInt8) (maximum : Nat) : Bool × Nat :=
  let index := (bytes.takeWhile isAsciiWhitespace).length
  if bytes[index]? ≠ some 91 then (false, index) else recordLoop maximum bytes (index + 1) scanStart

def topLevelArrayExceedsLimit (bytes : List UInt8) (maximum : Nat) : Bool :=
  (scanTopLevelArray bytes maximum).1

/-! ## 2. The loop -/

section Scan

variable {maximum : Nat}

theorem recordLoop_le (bytes : List UInt8) (index : Nat) (s : RecordScan)
    (h : index ≤ bytes.length) : (recordLoop maximum bytes index s).2 ≤ bytes.length := by
  fun_induction recordLoop maximum bytes index s with
  | case1 => exact h
  | case2 => exact h
  | case3 index s byte hbyte s' _ ih =>
      have hindex : index < bytes.length := (List.getElem?_eq_some_iff.mp hbyte).1
      exact ih (by omega)

/-- **The scan ends, and nothing past the end is looked at.** -/
theorem scanTopLevelArray_le (bytes : List UInt8) : (scanTopLevelArray bytes maximum).2 ≤ bytes.length := by
  have hskip : (bytes.takeWhile isAsciiWhitespace).length ≤ bytes.length :=
    (List.takeWhile_sublist _).length_le
  unfold scanTopLevelArray
  dsimp only
  split
  · exact hskip
  · next hopen =>
    have hindex := (List.getElem?_eq_some_iff.mp (not_not.mp hopen)).1
    exact recordLoop_le bytes _ _ (by omega)

/-- The loop over the bytes that are left. -/
def overflows (maximum : Nat) (s : RecordScan) : List UInt8 → Bool
  | [] => false
  | byte :: rest =>
    match s.step maximum byte with
    | .error answer => answer
    | .ok s => overflows maximum s rest

theorem overflows_step {s s' : RecordScan} {byte : UInt8} (h : s.step maximum byte = .ok s')
    (rest : List UInt8) : overflows maximum s (byte :: rest) = overflows maximum s' rest := by
  rw [overflows, h]

theorem recordLoop_eq (bytes : List UInt8) (index : Nat) (s : RecordScan) :
    (recordLoop maximum bytes index s).1 = overflows maximum s (bytes.drop index) := by
  fun_induction recordLoop maximum bytes index s with
  | case1 index s hnone =>
      rw [List.drop_eq_nil_of_le (List.getElem?_eq_none_iff.mp hnone)]
      rfl
  | case2 index s byte hbyte answer hstep =>
      obtain ⟨hindex, rfl⟩ := List.getElem?_eq_some_iff.mp hbyte
      rw [List.drop_eq_getElem_cons hindex, overflows, hstep]
  | case3 index s byte hbyte s' hstep ih =>
      obtain ⟨hindex, rfl⟩ := List.getElem?_eq_some_iff.mp hbyte
      rw [List.drop_eq_getElem_cons hindex, overflows, hstep, ih]

/-! ## 3. Inside a value -/

/-- In a value that was counted, at this depth and outside its strings. -/
def busy (depth count : Nat) : RecordScan := ⟨depth, false, false, true, count⟩

variable {depth count : Nat}

/-- A byte at which a scan inside a value does nothing. -/
def inert (b : UInt8) : Bool := passed b && b ≠ 44

theorem scan_inert {bytes : List UInt8} (h : ∀ b ∈ bytes, inert b = true) (tail : List UInt8) :
    overflows maximum (busy depth count) (bytes ++ tail) = overflows maximum (busy depth count) tail := by
  induction bytes with
  | nil => rfl
  | cons b bytes ih =>
      obtain ⟨hb, hbytes⟩ := List.forall_mem_cons.mp h
      simp only [inert, passed, Bool.and_eq_true, decide_eq_true_eq] at hb
      obtain ⟨⟨⟨⟨⟨h34, h123⟩, h91⟩, h125⟩, h93⟩, h44⟩ := hb
      have hstep : (busy depth count).step maximum b = .ok (busy depth count) := by
        simp [RecordScan.step, busy, bind, Except.bind, h34, h123, h91, h125, h93, h44]
      rw [List.cons_append, overflows_step hstep]
      exact ih hbytes

theorem inert_of_isSpace {b : UInt8} (h : isSpace b = true) : inert b = true := by
  simp only [isSpace, Bool.or_eq_true, decide_eq_true_eq] at h
  rcases h with ((rfl | rfl) | rfl) | rfl <;> decide

theorem scan_gap {gap : List UInt8} (h : Gap isSpace gap) (tail : List UInt8) :
    overflows maximum (busy depth count) (gap ++ tail) = overflows maximum (busy depth count) tail :=
  scan_inert (fun b hb => inert_of_isSpace (h b hb)) tail

theorem scan_number (n : JsonNumber) (tail : List UInt8) :
    overflows maximum (busy depth count) (n.text ++ tail) =
      overflows maximum (busy depth count) tail := by
  refine scan_inert (fun b hb => ?_) tail
  rcases number_byte n b hb with hdigit | rfl | rfl | rfl | rfl | rfl
  · have hcomma : b ≠ 44 := by
      rintro rfl
      cases hdigit
    simp [inert, passed_of_digit hdigit, hcomma]
  all_goals decide

theorem scan_literal (l : Literal) (tail : List UInt8) :
    overflows maximum (busy depth count) (l.text ++ tail) =
      overflows maximum (busy depth count) tail := by
  have hall : l.text.all inert = true := by cases l <;> rfl
  exact scan_inert (List.all_eq_true.mp hall) tail

/-- Up to the quote that closes it, a string is passed over, brackets and commas included. -/
theorem scan_body {body : List UInt8} (h : Body body) (tail : List UInt8) :
    overflows maximum { busy depth count with inString := true } (body ++ 34 :: tail) =
      overflows maximum (busy depth count) tail := by
  induction h with
  | nil => simp [overflows, RecordScan.step, busy]
  | plain hquote hslash _ ih => simpa [overflows, RecordScan.step, busy, hquote, hslash] using ih
  | escaped b _ ih => simpa [overflows, RecordScan.step, busy] using ih

theorem scan_quoted (q : Quoted) (tail : List UInt8) :
    overflows maximum (busy depth count) (q.text ++ tail) =
      overflows maximum (busy depth count) tail := by
  have hopen : (busy depth count).step maximum 34 = .ok { busy depth count with inString := true } := by
    simp [RecordScan.step, busy, bind, Except.bind]
  rw [Quoted.text, List.cons_append, List.append_assoc, overflows_step hopen]
  exact scan_body q.ok tail

theorem scan_open {b : UInt8} (hb : b = 91 ∨ b = 123) (hdepth : depth + 1 ≤ usizeMax)
    (tail : List UInt8) : overflows maximum (busy depth count) (b :: tail) =
      overflows maximum (busy (depth + 1) count) tail := by
  have hsucc : saturatingSucc depth = depth + 1 := Nat.min_eq_left hdepth
  have hstep : (busy depth count).step maximum b = .ok (busy (depth + 1) count) := by
    rcases hb with rfl | rfl <;> simp [RecordScan.step, busy, bind, Except.bind, hsucc]
  exact overflows_step hstep tail

/-- A bracket that closes an inner container. -/
theorem scan_close {b : UInt8} (hb : b = 93 ∨ b = 125) (tail : List UInt8) :
    overflows maximum (busy (depth + 2) count) (b :: tail) =
      overflows maximum (busy (depth + 1) count) tail := by
  have hstep : (busy (depth + 2) count).step maximum b = .ok (busy (depth + 1) count) := by
    rcases hb with rfl | rfl <;> simp [RecordScan.step, busy, bind, Except.bind]
  exact overflows_step hstep tail

/-- A comma or a colon of an inner container. -/
theorem scan_inner {b : UInt8} (hb : b = 44 ∨ b = 58) (tail : List UInt8) :
    overflows maximum (busy (depth + 2) count) (b :: tail) =
      overflows maximum (busy (depth + 2) count) tail := by
  have hstep : (busy (depth + 2) count).step maximum b = .ok (busy (depth + 2) count) := by
    rcases hb with rfl | rfl <;> simp [RecordScan.step, busy, bind, Except.bind]
  exact overflows_step hstep tail

mutual

/-- **A value is passed over**, whatever stands in it. -/
theorem scan_value : ∀ (v : Value) {depth : Nat} {tail : List UInt8}, v.Spaced isSpace →
    depth + 1 + v.nesting ≤ usizeMax →
      overflows maximum (busy (depth + 1) count) (v.text ++ tail) =
        overflows maximum (busy (depth + 1) count) tail
  | .literal l, _, tail, _, _ => scan_literal l tail
  | .number n, _, tail, _, _ => scan_number n tail
  | .string q, _, tail, _, _ => scan_quoted q tail
  | .emptyArray gap, _, _, hv, h => by
      rw [Value.text, List.cons_append, List.append_assoc, scan_open (.inl rfl) h, scan_gap hv,
        List.singleton_append, scan_close (.inl rfl)]
  | .emptyObject gap, _, _, hv, h => by
      rw [Value.text, List.cons_append, List.append_assoc, scan_open (.inr rfl) h, scan_gap hv,
        List.singleton_append, scan_close (.inr rfl)]
  | .array items, depth, _, hv, h => by
      rw [Value.nesting] at h
      rw [Value.text, List.cons_append, scan_open (.inl rfl) (by omega)]
      exact scan_items items hv (by omega)
  | .object fields, depth, _, hv, h => by
      rw [Value.nesting] at h
      rw [Value.text, List.cons_append, scan_open (.inr rfl) (by omega)]
      exact scan_fields fields hv (by omega)

theorem scan_items : ∀ (items : Items) {depth : Nat} {tail : List UInt8}, items.Spaced isSpace →
    depth + 2 + items.nesting ≤ usizeMax →
      overflows maximum (busy (depth + 2) count) (items.text ++ tail) =
        overflows maximum (busy (depth + 1) count) tail
  | .last before v after, _, _, ⟨hbefore, hv, hafter⟩, h => by
      simp only [Items.text, List.append_assoc, List.singleton_append]
      rw [scan_gap hbefore, scan_value v hv h, scan_gap hafter, scan_close (.inl rfl)]
  | .more before v after rest, depth, _, ⟨hbefore, hv, hafter, hrest⟩, h => by
      rw [Items.nesting] at h
      simp only [Items.text, List.append_assoc, List.cons_append]
      rw [scan_gap hbefore, scan_value v hv (by omega), scan_gap hafter, scan_inner (.inl rfl)]
      exact scan_items rest hrest (by omega)

theorem scan_fields : ∀ (fields : Fields) {depth : Nat} {tail : List UInt8},
    fields.Spaced isSpace → depth + 2 + fields.nesting ≤ usizeMax →
      overflows maximum (busy (depth + 2) count) (fields.text ++ tail) =
        overflows maximum (busy (depth + 1) count) tail
  | .last before q mid gap v after, _, _, ⟨hbefore, hmid, hgap, hv, hafter⟩, h => by
      simp only [Fields.text, List.append_assoc, List.cons_append, List.nil_append]
      rw [scan_gap hbefore, scan_quoted, scan_gap hmid, scan_inner (.inr rfl), scan_gap hgap,
        scan_value v hv h, scan_gap hafter, scan_close (.inr rfl)]
  | .more before q mid gap v after rest, depth, _, ⟨hbefore, hmid, hgap, hv, hafter, hrest⟩, h => by
      rw [Fields.nesting] at h
      simp only [Fields.text, List.append_assoc, List.cons_append]
      rw [scan_gap hbefore, scan_quoted, scan_gap hmid, scan_inner (.inr rfl), scan_gap hgap,
        scan_value v hv (by omega), scan_gap hafter, scan_inner (.inl rfl)]
      exact scan_fields rest hrest (by omega)

end

/-! ## 4. Between the values -/

/-- At depth one, where the next value has not begun. -/
def between (count : Nat) : RecordScan := ⟨1, false, false, false, count⟩

theorem between_gap {gap : List UInt8} (h : Gap isSpace gap) (tail : List UInt8) :
    overflows maximum (between count) (gap ++ tail) = overflows maximum (between count) tail := by
  induction gap with
  | nil => rfl
  | cons b gap ih =>
      obtain ⟨hb, hgap⟩ := List.forall_mem_cons.mp h
      have hstep : (between count).step maximum b = .ok (between count) := by
        simp only [isSpace, Bool.or_eq_true, decide_eq_true_eq] at hb
        rcases hb with ((rfl | rfl) | rfl) | rfl <;> rfl
      rw [List.cons_append, overflows_step hstep]
      exact ih hgap

/-- The first byte of a value is counted, and then read as any other byte of it. -/
theorem between_starts {b : UInt8} (hb : startsValue b = true) (hcount : count + 1 ≤ usizeMax)
    (tail : List UInt8) : overflows maximum (between count) (b :: tail) =
      (decide (maximum < count + 1) || overflows maximum (busy 1 (count + 1)) (b :: tail)) := by
  have hsucc : saturatingSucc count = count + 1 := Nat.min_eq_left hcount
  have hspace : isAsciiWhitespace b = false := by
    refine Bool.eq_false_iff.mpr fun h => ?_
    simp only [isAsciiWhitespace, Bool.or_eq_true, decide_eq_true_eq] at h
    rcases h with (((rfl | rfl) | rfl) | rfl) | rfl <;> exact absurd hb (by decide)
  have h44 : b ≠ 44 := by rintro rfl; exact absurd hb (by decide)
  have h93 : b ≠ 93 := by rintro rfl; exact absurd hb (by decide)
  by_cases hover : maximum < count + 1
  · simp [overflows, RecordScan.step, between, bind, Except.bind, hspace, h44, h93, hsucc, hover]
  · simp [overflows, RecordScan.step, between, busy, bind, Except.bind, hspace, h44, h93, hsucc, hover]

theorem between_value {v : Value} (hv : v.Spaced isSpace) (hdepth : 1 + v.nesting ≤ usizeMax)
    (hcount : count + 1 ≤ usizeMax) (tail : List UInt8) :
    overflows maximum (between count) (v.text ++ tail) =
      (decide (maximum < count + 1) || overflows maximum (busy 1 (count + 1)) tail) := by
  have hscan : overflows maximum (busy (0 + 1) (count + 1)) (v.text ++ tail) =
      overflows maximum (busy 1 (count + 1)) tail := scan_value v hv (by omega)
  obtain ⟨b, rest, htext, hb, -⟩ := v.head
  rw [htext, List.cons_append] at hscan ⊢
  rw [between_starts hb hcount, hscan]

theorem between_items : ∀ (items : Items) {count : Nat} {tail : List UInt8}, items.Spaced isSpace →
    1 + items.nesting ≤ usizeMax → count + items.size ≤ usizeMax →
      overflows maximum (between count) (items.text ++ tail) = decide (maximum < count + items.size)
  | .last before v after, count, tail, ⟨hbefore, hv, hafter⟩, hdepth, hcount => by
      have hclose : (busy 1 (count + 1)).step maximum 93 = .error false := rfl
      simp only [Items.text, List.append_assoc, List.singleton_append]
      rw [between_gap hbefore, between_value hv hdepth hcount, scan_gap hafter, overflows, hclose]
      exact Bool.or_false _
  | .more before v after rest, count, tail, ⟨hbefore, hv, hafter, hrest⟩, hdepth, hcount => by
      rw [Items.nesting] at hdepth
      rw [Items.size] at hcount
      have hcomma : (busy 1 (count + 1)).step maximum 44 = .ok (between (count + 1)) := rfl
      have hpos := rest.size_pos
      have hmore : maximum < count + 1 ∨ maximum < count + 1 + rest.size ↔
          maximum < count + (rest.size + 1) := by omega
      simp only [Items.text, List.append_assoc, List.cons_append]
      rw [between_gap hbefore, between_value hv (by omega) (by omega), scan_gap hafter,
        overflows_step hcomma, between_items rest hrest (by omega) (by omega), Items.size,
        ← Bool.decide_or, decide_eq_decide.mpr hmore]

/-- Behind its opening bracket, the elements of an array are counted. -/
theorem between_array {v : Value} {n : Nat} (hv : v.Spaced isSpace) (hn : v.size? = some n)
    (hlength : v.text.length < usizeMax) : ∃ inner, v.text = 91 :: inner ∧
      ∀ tail, overflows maximum (between 0) (inner ++ tail) = decide (maximum < n) := by
  cases v with
  | emptyArray gap =>
      obtain rfl : 0 = n := Option.some.inj hn
      have hclose : (between 0).step maximum 93 = .error false := rfl
      refine ⟨gap ++ [93], rfl, fun tail => ?_⟩
      rw [List.append_assoc, between_gap hv, List.singleton_append, overflows, hclose]
      exact (decide_eq_false (Nat.not_lt_zero maximum)).symm
  | array items =>
      obtain rfl : items.size = n := Option.some.inj hn
      have hwide := items.size_le_length
      have hdeep := items.nesting_le_length
      simp only [Value.text, List.length_cons] at hlength
      refine ⟨items.text, rfl, fun tail => ?_⟩
      rw [between_items items hv (by omega) (by omega), Nat.zero_add]
  | literal | number | string | emptyObject | object => cases hn

/-- **The prefilter counts the elements.** -/
theorem exceeds_document {d : Document} {n : Nat} (hd : d.Spaced isSpace)
    (hfit : (d.text.length : Int) ≤ i64Max) (hn : d.value.size? = some n) :
    topLevelArrayExceedsLimit d.text maximum = decide (maximum < n) := by
  have hlength : d.value.text.length < usizeMax := by
    simp only [Document.text, List.length_append, i64Max] at hfit
    simp only [usizeMax]
    omega
  obtain ⟨inner, htext, hinner⟩ : ∃ inner, d.value.text = 91 :: inner ∧ ∀ tail,
      overflows maximum (between 0) (inner ++ tail) = decide (maximum < n) :=
    between_array hd.2.1 hn hlength
  have hbefore : ∀ b ∈ d.before, isAsciiWhitespace b = true := fun b hb => ascii_of_isSpace b (hd.1 b hb)
  have hskip : d.text.takeWhile isAsciiWhitespace = d.before := by
    rw [Document.text, htext, List.takeWhile_append_of_pos hbefore, List.cons_append,
      List.takeWhile_cons_of_neg (by decide), List.append_nil]
  have hopen : d.text[d.before.length]? = some 91 := by
    rw [Document.text, htext, List.getElem?_append_right (Nat.le_refl _), Nat.sub_self]
    rfl
  have hrest : d.text.drop (d.before.length + 1) = inner ++ d.after := by
    rw [Document.text, htext, List.drop_append, List.drop_eq_nil_of_le (Nat.le_succ _)]
    simp
  unfold topLevelArrayExceedsLimit scanTopLevelArray
  dsimp only
  rw [hskip, hopen, if_neg (not_not.mpr rfl), recordLoop_eq, hrest]
  exact hinner d.after

end Scan

/-! ## 5. Numbers under the tolerance profile -/

/-- The bytes of a token that is let through: a zero is spelled `0`. -/
def toleratedToken (token : List UInt8) : List UInt8 :=
  if (DecimalToken.parse token).any DecimalToken.isZero then decimal 0 else token

def toleratedLexeme : Lexeme → Lexeme
  | .token bytes => .token (toleratedToken bytes)
  | l => l

def toleratedNumber (n : JsonNumber) : JsonNumber :=
  if (DecimalToken.parse n.text).any DecimalToken.isZero then JsonNumber.ofNat 0 else n

section Tolerance

variable {positiveFinite : List UInt8 → Bool}

theorem replacement_tolerance {token : List UInt8} {integer : Option Nat}
    (h : replacement positiveFinite .registryTolerance token = .ok integer) :
    integer.elim token decimal = toleratedToken token := by
  unfold replacement at h
  unfold toleratedToken
  cases hparse : DecimalToken.parse token with
  | none =>
      rw [hparse] at h
      obtain rfl : none = integer := Except.ok.inj h
      rfl
  | some number =>
      simp only [hparse] at h
      by_cases hzero : number.isZero = true
      · rw [if_pos hzero] at h
        obtain rfl : some 0 = integer := Except.ok.inj h
        rw [Option.any_some, if_pos hzero]
        rfl
      · rw [if_neg hzero] at h
        split at h
        · cases h
        · obtain rfl : none = integer := Except.ok.inj h
          rw [Option.any_some, if_neg hzero]
          rfl

theorem prepareLexeme_tolerance {l : Lexeme} {part : List UInt8}
    (h : prepareLexeme positiveFinite .registryTolerance l = .ok part) :
    part = (toleratedLexeme l).text := by
  cases l with
  | token token =>
      obtain ⟨integer, hinteger, hpart⟩ := bind_eq_ok'.mp h
      rw [← Except.ok.inj hpart]
      exact replacement_tolerance hinteger
  | quoted | unclosed | other => exact (Except.ok.inj h).symm

/-- What the preparation lets through keeps its bytes, up to how a zero is spelled. -/
theorem prepared_tolerance {ls : List Lexeme} (h : Lexed ls) {prepared : List UInt8}
    (hp : prepareNumbers positiveFinite (textOf ls) .registryTolerance = .ok prepared) :
    prepared = textOf (ls.map toleratedLexeme) := by
  rw [prepareNumbers_lexed positiveFinite h] at hp
  obtain ⟨parts, hparts, hflat⟩ := bind_eq_ok'.mp hp
  obtain rfl : parts.flatten = prepared := Except.ok.inj hflat
  have hall := mapM_ok.mp hparts
  clear h hp hflat hparts
  induction hall with
  | nil => rfl
  | cons hpart _ ih =>
      rw [List.flatten_cons, ih, prepareLexeme_tolerance hpart]
      rfl

theorem text_toleratedNumber (n : JsonNumber) : (toleratedNumber n).text = toleratedToken n.text := by
  unfold toleratedNumber toleratedToken
  split
  · exact JsonNumber.text_ofNat 0
  · rfl

/-- Only number tokens are rewritten, and only to number tokens. -/
theorem rewrites_tolerated : Rewrites toleratedLexeme toleratedNumber where
  other := fun _ => rfl
  quoted := fun _ => rfl
  token := fun n => congrArg Lexeme.token (text_toleratedNumber n).symm
  other_back := by
    intro l b h
    cases l <;> simp_all [toleratedLexeme]
  quoted_back := by
    intro l body h
    cases l <;> simp_all [toleratedLexeme]
  token_back := by
    intro l n h
    cases l with
    | token bytes =>
        have htoken : toleratedToken bytes = n.text := Lexeme.token.inj h
        cases hparse : DecimalToken.parse bytes with
        | some d =>
            obtain ⟨m, rfl⟩ := parse_sound hparse
            exact ⟨m, rfl, number_ext ((text_toleratedNumber m).trans htoken)⟩
        | none =>
            obtain rfl : bytes = n.text := by
              rwa [toleratedToken, hparse, Option.any_none, if_neg Bool.false_ne_true] at htoken
            refine ⟨n, rfl, ?_⟩
            rw [toleratedNumber, hparse, Option.any_none, if_neg Bool.false_ne_true]
    | quoted body => cases h
    | unclosed body => cases h
    | other b => cases h

/-- **A prepared document is a document of as many elements.** -/
theorem prepare_tolerance {d : Document} (hd : d.Spaced isSpace) {prepared : List UInt8}
    (h : prepareNumbers positiveFinite d.text .registryTolerance = .ok prepared) :
    ∃ e : Document, e.text = prepared ∧ e.Spaced isSpace ∧ e.value.size? = d.value.size? := by
  refine ⟨d.renumber (fun _ => false) fun _ => toleratedNumber, ?_, ?_, ?_⟩
  · rw [← d.textOf_lexemes] at h
    rw [prepared_tolerance (Document.lexed hd) h, ← rewrites_tolerated.document,
      Document.textOf_lexemes]
  · exact ⟨hd.1, (d.value.spaced_renumber false).mpr hd.2.1, hd.2.2⟩
  · exact d.value.size?_renumber false

end Tolerance

/-! ## 6. Reading a source -/

inductive RecordKind where
  | snapshot
  | type
  | capability
  deriving DecidableEq, Repr

/-- What `deserialize_seq` calls on a value whose elements are ignored one by one. -/
inductive SeqReading where
  | failed (message : String)
  | elements (n : Nat) (stopped : Option String)

/-- What `deserialize_map` calls on a document, each value read as a sequence. -/
inductive MapReading where
  | failed (message : String)
  | entries (members : List (String × SeqReading)) (stopped : Option String)

/-- The libraries a source is read with, and the typed decoding they derive. -/
structure SourceReader (T : Type) where
  serde : SerdeJson
  positiveFinite : List UInt8 → Bool
  readMap : List UInt8 → MapReading
  /-- The embedded schema of a kind, compiled: the first violation of an instance. -/
  validator : RecordKind → Except String (Json → Option SchemaViolation)
  fromValue : Json → Except String T

def snapshotLimitSentinel : String := "registry snapshot contract reference limit exceeded"

/-- A check that is made where a maximum is given. -/
def withinLimit (maxRecords : Option Nat) (exceeds : Nat → Bool) (error : Nat → RegistryError) :
    RegistryResult Unit :=
  match maxRecords with
  | some maximum => rejectIf (exceeds maximum) (error maximum)
  | none => .ok ()

namespace SourceReader

variable {T : Type} (reader : SourceReader T)

def validate (kind : RecordKind) (value : Json) : RegistryResult Unit := do
  let firstViolation ← (reader.validator kind).mapError fun error =>
    .schema s!"embedded registry schema: {error}"
  schemaValidate (firstViolation value)

section Snapshot

variable (bytes : List UInt8) (maximum : Nat)

/-- `SnapshotArrayCountVisitor` on that many elements. -/
def countElements (stopped : Option String) (count : Nat) : Nat → Except String Nat
  | 0 =>
    match stopped with
    | none => .ok count
    | some message => .error message
  | n + 1 =>
    if maximum < saturatingSucc count then .error (reader.serde.located bytes snapshotLimitSentinel)
    else countElements stopped (saturatingSucc count) n

/-- `SnapshotCountVisitor`. -/
def countEntries (stopped : Option String) (count : Nat) :
    List (String × SeqReading) → Except String Nat
  | [] =>
    match stopped with
    | none => .ok count
    | some message => .error message
  | (key, value) :: rest =>
    if key = "type_contracts" ∨ key = "capability_contracts" then
      match value with
      | .failed message => .error message
      | .elements n stopped' => do
        let count ← reader.countElements bytes maximum stopped' count n
        countEntries stopped count rest
    else countEntries stopped count rest

def snapshotContractRefsExceedLimit : Bool :=
  match reader.readMap bytes with
  | .failed message => containsText message snapshotLimitSentinel
  | .entries members stopped =>
    match reader.countEntries bytes maximum stopped 0 members with
    | .error message => containsText message snapshotLimitSentinel
    | .ok _ => false

end Snapshot

/-- The records of a source, each against the schema. -/
def checkRecords (kind : RecordKind) (maxRecords : Option Nat) (value : Json) : RegistryResult Unit := do
  let values ← expect value.asArr (.schema "contract source must be an array")
  withinLimit maxRecords (fun maximum => decide (maximum < values.length)) fun maximum =>
    .schema s!"contract source contains {values.length} records; remaining configured maximum is {maximum}"
  forEach values (reader.validate kind)

def checkRecord (kind : RecordKind) (value : Json) : RegistryResult Unit := do
  rejectIf (decide (kind = .snapshot) &&
      ((value.get? "schema_version").bind Json.asStr).any fun version => version ≠ "0.1")
    (.validation .registryUnsupportedVersion "unsupported registry schema version")
  reader.validate kind value

/-- What is done once the record limit was looked at. -/
def decodeBounded (bytes : List UInt8) (limits : StrictJsonLimits) (kind : RecordKind) (array : Bool)
    (maxRecords : Option Nat) : RegistryResult T := do
  let prepared ← (prepareNumbers reader.positiveFinite bytes .registryTolerance).mapError .schema
  let value ← (parseStrictValueWithin reader.serde prepared limits).mapError ofStrictJsonError
  if array then reader.checkRecords kind maxRecords value else reader.checkRecord kind value
  (reader.fromValue value).mapError fun error => .schema s!"registry typed decoding: {error}"

def decodeWithRecordLimit (bytes : List UInt8) (limits : StrictJsonLimits) (kind : RecordKind)
    (array : Bool) (maxRecords : Option Nat) : RegistryResult T := do
  rejectIf (decide (limits.maxBytes < bytes.length)) (.schema "registry JSON exceeds byte limit")
  withinLimit maxRecords (fun maximum => array && topLevelArrayExceedsLimit bytes maximum)
    fun maximum =>
      .schema s!"contract source exceeds the remaining configured maximum of {maximum} records"
  withinLimit maxRecords (fun maximum =>
      decide (kind = .snapshot) && reader.snapshotContractRefsExceedLimit bytes maximum)
    fun maximum =>
      .schema s!"registry snapshot exceeds the configured maximum of {maximum} contract references"
  reader.decodeBounded bytes limits kind array maxRecords

end SourceReader

/-! ## 7. Exactness -/

section Exact

variable {T : Type} {reader : SourceReader T} {d : Document} {n maximum : Nat}

/-- A value that was read from a prepared document has as many elements as the document. -/
theorem records_of_prepared (rfc : reader.serde.Rfc8259) (hd : d.Spaced isSpace)
    (hn : d.value.size? = some n) {limits : StrictJsonLimits} {prepared : List UInt8} {value : Json}
    (hprepared : prepareNumbers reader.positiveFinite d.text .registryTolerance = .ok prepared)
    (hvalue : parseStrictValueWithin reader.serde prepared limits = .ok value) :
    ∃ values, value = .arr values ∧ values.length = n := by
  obtain ⟨e, rfl, he, hsize⟩ := prepare_tolerance hd hprepared
  obtain ⟨f, hf, htext, -, rfl⟩ := parseStrictValueWithin_document rfc hvalue
  obtain rfl : f = e := Document.unique (hf.spaced.mono separates_of_isSpace)
    (he.mono separates_of_isSpace) htext
  exact Value.length_json (hsize.trans hn)

/-- **A source within the limit is read as if there were none.** -/
theorem decode_within (rfc : reader.serde.Rfc8259) (hd : d.Spaced isSpace)
    (hfit : (d.text.length : Int) ≤ i64Max) (hn : d.value.size? = some n) (h : n ≤ maximum)
    {kind : RecordKind} (hkind : kind ≠ .snapshot) (limits : StrictJsonLimits) :
    reader.decodeWithRecordLimit d.text limits kind true (some maximum) =
      reader.decodeWithRecordLimit d.text limits kind true none := by
  have hprefilter : topLevelArrayExceedsLimit d.text maximum = false := by
    rw [exceeds_document hd hfit hn]
    exact decide_eq_false (Nat.not_lt.mpr h)
  have hbounded : reader.decodeBounded d.text limits kind true (some maximum) =
      reader.decodeBounded d.text limits kind true none := by
    unfold SourceReader.decodeBounded
    cases hprepared : prepareNumbers reader.positiveFinite d.text .registryTolerance with
    | error message => rfl
    | ok prepared =>
      cases hvalue : parseStrictValueWithin reader.serde prepared limits with
      | error error =>
          simp only [Except.mapError, ok_bind, hvalue]
          rfl
      | ok value =>
          obtain ⟨values, rfl, hlength⟩ := records_of_prepared rfc hd hn hprepared hvalue
          have hcheck : reader.checkRecords kind (some maximum) (.arr values) =
              reader.checkRecords kind none (.arr values) := by
            have hfew : decide (maximum < values.length) = false :=
              decide_eq_false (by omega)
            simp only [SourceReader.checkRecords, Json.asArr, expect, ok_bind, withinLimit, hfew,
              rejectIf, Bool.false_eq_true, if_false]
          simp only [Except.mapError, ok_bind, hvalue, if_true, hcheck]
  unfold SourceReader.decodeWithRecordLimit
  simp only [withinLimit, hprefilter, hkind, decide_false, Bool.false_and, Bool.and_false, rejectIf,
    Bool.false_eq_true, if_false, ok_bind, hbounded]

/-- **A source above the limit is refused**, for its length or for its records, whatever its bytes are
    worth. -/
theorem decode_above (hd : d.Spaced isSpace) (hfit : (d.text.length : Int) ≤ i64Max)
    (hn : d.value.size? = some n) (h : maximum < n) (limits : StrictJsonLimits) (kind : RecordKind) :
    reader.decodeWithRecordLimit d.text limits kind true (some maximum) =
      .error (.schema (if limits.maxBytes < d.text.length then "registry JSON exceeds byte limit"
        else s!"contract source exceeds the remaining configured maximum of {maximum} records")) := by
  have hprefilter : topLevelArrayExceedsLimit d.text maximum = true := by
    rw [exceeds_document hd hfit hn]
    exact decide_eq_true h
  unfold SourceReader.decodeWithRecordLimit
  by_cases hbytes : limits.maxBytes < d.text.length
  · rw [decide_eq_true hbytes, if_pos hbytes]
    rfl
  · rw [decide_eq_false hbytes, if_neg hbytes]
    simp only [withinLimit, hprefilter, Bool.and_self]
    rfl

/-- **The record prefilter is exact.** On the text of an array it answers whether the array has more
    elements than the limit, so that a source within the limit is read as if there were none, and one
    above it is never decoded; on any text it comes to an end within the text. -/
theorem record_prefilter_exact (rfc : reader.serde.Rfc8259) (bytes : Slice) (maximum : Nat) :
    (∀ (d : Document) (n : Nat), d.text = bytes.bytes → d.Spaced isSpace → d.value.size? = some n →
      (topLevelArrayExceedsLimit bytes.bytes maximum = true ↔ maximum < n) ∧
      (∀ limits kind, n ≤ maximum → kind ≠ .snapshot →
        reader.decodeWithRecordLimit bytes.bytes limits kind true (some maximum) =
          reader.decodeWithRecordLimit bytes.bytes limits kind true none) ∧
      (∀ limits kind, maximum < n → ∃ message,
        reader.decodeWithRecordLimit bytes.bytes limits kind true (some maximum) =
          .error (.schema message))) ∧
    (scanTopLevelArray bytes.bytes maximum).2 ≤ bytes.bytes.length := by
  refine ⟨fun d n htext hd hn => ?_, scanTopLevelArray_le bytes.bytes⟩
  have hfit : (d.text.length : Int) ≤ i64Max := by
    rw [htext]
    exact bytes.fits
  rw [← htext]
  refine ⟨?_, fun limits kind h hkind => decode_within rfc hd hfit hn h hkind limits,
    fun limits kind h => ⟨_, decode_above hd hfit hn h limits kind⟩⟩
  rw [exceeds_document hd hfit hn, decide_eq_true_eq]

end Exact

/-! ### A catalogue with brackets in its strings -/

noncomputable def plainReader : SourceReader Json where
  serde := plainJson
  positiveFinite := fun _ => true
  readMap := fun _ => .failed "expected a registry snapshot object"
  validator := fun _ => .ok fun _ => none
  fromValue := .ok

/-- `"],"`. -/
def bracketString : Quoted := ⟨[93, 44], .plain (by decide) (by decide) (.plain (by decide) (by decide) .nil)⟩

/-- `[ "],",[null,null]]`. -/
def twoRecords : Document where
  before := []
  value := .array (.more [32] (.string bracketString) []
    (.last [] (.array (.more [] (.literal .null) [] (.last [] (.literal .null) []))) []))
  after := []

theorem twoRecords_counted :
    topLevelArrayExceedsLimit twoRecords.text 1 = true ∧
      plainReader.decodeWithRecordLimit twoRecords.text .default .capability true (some 2) =
        plainReader.decodeWithRecordLimit twoRecords.text .default .capability true none := by
  have hspaced : twoRecords.Spaced isSpace := by
    simp [Document.Spaced, twoRecords, Value.Spaced, Items.Spaced, Gap, isSpace]
  have hfit : (twoRecords.text.length : Int) ≤ i64Max := by decide
  have hone := (@record_prefilter_exact Json plainReader plainJson_rfc8259 ⟨_, hfit⟩ 1).1 twoRecords 2
    rfl hspaced rfl
  have htwo := (@record_prefilter_exact Json plainReader plainJson_rfc8259 ⟨_, hfit⟩ 2).1 twoRecords 2
    rfl hspaced rfl
  exact ⟨hone.1.mpr (by decide), htwo.2.1 _ _ (Nat.le_refl 2) (by decide)⟩

end Aios.Registry
