/-
  File:      Aios/Ir/Scanner.lean
  Subject:   WHAT THE METADATA SCANNER READS: the scanner gets through a text exactly when it is a
             JSON document whose strings decode, and then the number tokens it replaces are those
             below a member named `metadata` that the parser library has no number for.

  Its gaps are more lenient than those of a JSON text: a form feed counts. The output is followed
  while the scanner runs (`Emitted`): what it would write if it stopped now.
-/
import Aios.Ir.Documents
import Aios.Lib.JsonUnique

namespace Aios

open Lib JsonText

/-! ## 1. The output -/

namespace MetadataScanner

/-- If the scanner stopped now, this would be written for the bytes before its index. -/
def Emitted (bytes : List UInt8) (s : MetadataScanner) (out : List UInt8) : Prop :=
  ∃ front pending done, bytes = front ++ (pending ++ s.rest) ∧
    s.index = front.length + pending.length ∧ out = done ++ pending ∧
    ∀ ranges, replaceRanges bytes 0 (s.replacements ++ ranges) =
      done ++ replaceRanges bytes front.length ranges

theorem emitted_start (bytes : List UInt8) : Emitted bytes ⟨bytes, 0, []⟩ [] :=
  ⟨[], [], [], rfl, rfl, rfl, fun _ => rfl⟩

variable {rest gap : List UInt8} {s s' : MetadataScanner} {b : UInt8}

/-- What is written in the end. -/
theorem Emitted.result {bytes out : List UInt8} (h : Emitted bytes s out) :
    replaceRanges bytes 0 s.replacements = out ++ s.rest := by
  obtain ⟨front, pending, written, hbytes, _, rfl, hranges⟩ := h
  have hall := hranges []
  rw [List.append_nil] at hall
  have hdrop : bytes.drop front.length = pending ++ s.rest := by
    rw [hbytes, List.drop_left]
  rw [hall, replaceRanges, hdrop, List.append_assoc]

theorem Emitted.index_eq {bytes out : List UInt8} (h : Emitted bytes s out) :
    s.index + s.rest.length = bytes.length := by
  obtain ⟨front, pending, _, hbytes, hindex, _, _⟩ := h
  rw [hbytes, List.length_append, List.length_append, hindex]
  omega

/-- The scanner went on over `read` and wrote `written` for it. -/
structure Reads (s s' : MetadataScanner) (read written : List UInt8) : Prop where
  rest : s.rest = read ++ s'.rest
  written : ∀ bytes out, Emitted bytes s out → Emitted bytes s' (out ++ written)

theorem Reads.refl (s : MetadataScanner) : Reads s s [] [] where
  rest := rfl
  written := fun bytes out h => by rwa [List.append_nil]

theorem Reads.trans {s t u : MetadataScanner} {a a' b b' : List UInt8} (h : Reads s t a a')
    (k : Reads t u b b') : Reads s u (a ++ b) (a' ++ b') where
  rest := by rw [h.rest, k.rest, List.append_assoc]
  written := fun bytes out hout => by
    have hboth := k.written bytes _ (h.written bytes out hout)
    rwa [List.append_assoc] at hboth

/-- Bytes that are passed over are written as they are. -/
theorem reads_moveTo {read rest : List UInt8} (h : s.rest = read ++ rest) :
    Reads s (s.moveTo rest) read read where
  rest := h
  written := by
    rintro bytes out ⟨front, pending, written, hbytes, hindex, rfl, hranges⟩
    refine ⟨front, pending ++ read, written, ?_, ?_, List.append_assoc .., hranges⟩
    · rw [hbytes, h]
      simp [moveTo]
    · simp only [moveTo, h, List.length_append, hindex]
      omega

/-- A range that is replaced is written as `0`. -/
theorem reads_replaced {read rest : List UInt8} (h : s.rest = read ++ rest) :
    Reads s { s.moveTo rest with replacements := s.replacements ++ [(s.index, (s.moveTo rest).index)] }
      read [48] where
  rest := h
  written := by
    rintro bytes out ⟨front, pending, written, hbytes, hindex, rfl, hranges⟩
    have hstop : (s.moveTo rest).index = front.length + pending.length + read.length := by
      simp only [moveTo, h, List.length_append, hindex]
      omega
    refine ⟨front ++ pending ++ read, [], written ++ pending ++ [48], ?_, ?_, ?_, fun ranges => ?_⟩
    · rw [hbytes, h]
      simp [moveTo]
    · simp only [hstop, List.length_append, List.length_nil, Nat.add_zero]
    · simp
    · have hcopy : (bytes.take s.index).drop front.length = pending := by
        rw [hbytes, hindex, ← List.append_assoc, ← List.length_append, List.take_left,
          List.drop_left]
      have hrange := hranges ((s.index, (s.moveTo rest).index) :: ranges)
      rw [List.append_assoc, List.singleton_append, hrange, replaceRanges, hcopy, hstop]
      simp [List.length_append, Nat.add_assoc]

/-! ## 2. The steps -/

/-- No whitespace stands at the front. -/
def NoBlank (rest : List UInt8) : Prop := ∀ b ∈ rest.head?, isAsciiWhitespace b = false

theorem isAsciiWhitespace_cases (h : isAsciiWhitespace b = true) :
    b = 32 ∨ b = 9 ∨ b = 10 ∨ b = 12 ∨ b = 13 := by
  simpa [isAsciiWhitespace, or_assoc] using h

theorem separates_of_blank (b : UInt8) (h : isAsciiWhitespace b = true) : separates b = true := by
  rcases isAsciiWhitespace_cases h with rfl | rfl | rfl | rfl | rfl <;> decide

theorem noBlank_of_solid (h : Solid rest) : NoBlank rest := by
  intro b hb
  cases hspace : isAsciiWhitespace b with
  | false => rfl
  | true =>
      have hsolid := h b hb
      rw [separates_of_blank b hspace] at hsolid
      cases hsolid

theorem skip_reads (s : MetadataScanner) : ∃ gap, Gap isAsciiWhitespace gap ∧
    Reads s s.skipWhitespace gap gap ∧ NoBlank s.skipWhitespace.rest := by
  refine ⟨s.rest.takeWhile isAsciiWhitespace, fun b hb => List.mem_takeWhile_imp hb,
    reads_moveTo List.takeWhile_append_dropWhile.symm, fun b hb => ?_⟩
  have hhead := List.head?_dropWhile_not isAsciiWhitespace s.rest
  rw [show (s.rest.dropWhile isAsciiWhitespace).head? = some b from hb] at hhead
  simpa using hhead

theorem dropWhile_noBlank (h : NoBlank rest) : rest.dropWhile isAsciiWhitespace = rest := by
  cases rest with
  | nil => rfl
  | cons b rest => simp [h b rfl]

theorem dropWhile_gap (hgap : Gap isAsciiWhitespace gap) (hrest : Solid rest) :
    (gap ++ rest).dropWhile isAsciiWhitespace = rest := by
  rw [List.dropWhile_append_of_pos hgap, dropWhile_noBlank (noBlank_of_solid hrest)]

theorem skip_rest (h : s.rest = gap ++ rest)
    (hgap : Gap isAsciiWhitespace gap) (hrest : Solid rest) : s.skipWhitespace.rest = rest := by
  show s.rest.dropWhile isAsciiWhitespace = rest
  rw [h, dropWhile_gap hgap hrest]

theorem skip_skip (s : MetadataScanner) :
    s.skipWhitespace.skipWhitespace.rest = s.skipWhitespace.rest := by
  obtain ⟨_, _, _, hblank⟩ := skip_reads s
  exact dropWhile_noBlank hblank

theorem skip_length (s : MetadataScanner) : s.skipWhitespace.rest.length ≤ s.rest.length :=
  List.length_dropWhile_le isAsciiWhitespace s.rest

theorem consume_reads (h : s.consume b = some s') : Reads s s' [b] [b] := by
  unfold consume at h
  by_cases hhead : s.rest.head? = some b
  · rw [if_pos hhead] at h
    obtain ⟨rest, hrest⟩ := List.head?_eq_some_iff.mp hhead
    rw [hrest, List.tail_cons] at h
    rw [← Option.some.inj h]
    exact reads_moveTo (by rw [hrest]; rfl)
  · rw [if_neg hhead] at h
    cases h

theorem consume_some (h : s.rest = b :: rest) : ∃ s', s.consume b = some s' ∧ s'.rest = rest := by
  refine ⟨s.moveTo rest, ?_, rfl⟩
  unfold consume
  rw [h]
  simp

theorem consume_none (h : s.rest.head? ≠ some b) : s.consume b = none := if_neg h

theorem stringLoop_eq (bytes : List UInt8) : stringLoop false bytes = splitBody bytes := by
  fun_induction splitBody bytes with
  | case1 => rfl
  | case2 rest => simp [stringLoop]
  | case3 => simp [stringLoop]
  | case4 c rest _ ih => simp [stringLoop, ih, Option.map_map, Function.comp_def]
  | case5 b rest hquote hslash ih => simp [stringLoop, hquote, hslash, ih]

variable {serde : SerdeJson}

theorem scanString_reads {text : String} (h : scanString serde s = some (text, s')) :
    ∃ q : Quoted, serde.string q.text = some text ∧ Reads s s' q.text q.text := by
  unfold scanString at h
  simp only [Option.bind_eq_bind, Option.bind_eq_some_iff, stringLoop_eq] at h
  obtain ⟨opened, hopen, ⟨body, rest⟩, hsplit, decoded, hdecoded, h⟩ := h
  obtain ⟨rfl, rfl⟩ := Prod.mk.inj (Option.some.inj h)
  obtain ⟨hbody, hrest⟩ := splitBody_eq_some hsplit
  refine ⟨⟨body, hbody⟩, hdecoded, reads_moveTo ?_⟩
  rw [(consume_reads hopen).rest, hrest]
  simp [Quoted.text]

theorem scanString_some {q : Quoted} {text : String}
    (h : s.rest = q.text ++ rest) (hdecodes : serde.string q.text = some text) :
    ∃ s', scanString serde s = some (text, s') ∧ s'.rest = rest := by
  have hopen : s.rest = 34 :: (q.body ++ 34 :: rest) := by
    rw [h]
    simp [Quoted.text]
  obtain ⟨opened, hconsume, hopened⟩ := consume_some hopen
  refine ⟨s.moveTo rest, ?_, rfl⟩
  unfold scanString
  rw [hconsume, Option.bind_eq_bind, Option.bind_some, stringLoop_eq, hopened,
    splitBody_append q.ok rest, Option.bind_eq_bind, Option.bind_some]
  show (do
    let decoded ← serde.string q.text
    return (decoded, s.moveTo rest) : Option (String × MetadataScanner)) = _
  rw [hdecodes]
  rfl

theorem scanLiteral_reads {literal : List UInt8}
    (h : s.scanLiteral literal = some s') : Reads s s' literal literal := by
  unfold scanLiteral at h
  by_cases hstart : literal.isPrefixOf s.rest = true
  · rw [if_pos hstart] at h
    obtain ⟨rest, hrest⟩ := List.isPrefixOf_iff_prefix.mp hstart
    rw [← hrest, List.drop_left] at h
    rw [← Option.some.inj h]
    exact reads_moveTo hrest.symm
  · rw [if_neg hstart] at h
    cases h

theorem scanLiteral_some {literal rest : List UInt8}
    (h : s.rest = literal ++ rest) : ∃ s', s.scanLiteral literal = some s' ∧ s'.rest = rest := by
  refine ⟨s.moveTo rest, ?_, rfl⟩
  unfold scanLiteral
  rw [if_pos (List.isPrefixOf_iff_prefix.mpr ⟨rest, h.symm⟩), h, List.drop_left]

/-! ## 3. Numbers -/

theorem noDigit_of_ends (h : Ends rest) : NoDigit rest := fun b hb => (h b hb).1

theorem exponentPart_append {e : Option Exponent} (h : Ends rest) :
    ∃ value, exponentPart ((e.map Exponent.text).getD [] ++ rest) = some (value, rest) := by
  cases e with
  | none =>
      cases rest with
      | nil => exact ⟨0, rfl⟩
      | cons b rest =>
          obtain ⟨_, _, h101, h69⟩ := h b rfl
          exact ⟨0, by simp [exponentPart, h101, h69]⟩
  | some e =>
      obtain ⟨b, sign, digits, hmark, hdigits, hne⟩ := e
      obtain ⟨htake, hdrop⟩ := takeWhile_digits hdigits (noDigit_of_ends h)
      obtain ⟨d, ds, rfl⟩ := List.exists_cons_of_ne_nil hne
      have hd : d ≠ 43 ∧ d ≠ 45 := by
        have hdigit := (allDigits_cons.mp hdigits).1
        exact ⟨by rintro rfl; exact absurd hdigit (by decide),
          by rintro rfl; exact absurd hdigit (by decide)⟩
      rw [List.cons_append] at htake hdrop
      cases sign <;>
        simp [exponentPart, Exponent.text, ExponentSign.text, hmark, hd.1, hd.2, htake, hdrop]

theorem head_ne_point {e : Option Exponent} (h : Ends rest) :
    ((e.map Exponent.text).getD [] ++ rest).head? ≠ some 46 := by
  intro h46
  cases e with
  | none => exact (h 46 h46).2.1 rfl
  | some e =>
      have hmark : e.mark = 46 := Option.some.inj h46
      rcases e.mark_ok with h | h <;> rw [h] at hmark <;> exact absurd hmark (by decide)

/-- The scan stops behind the number. -/
theorem numberEnd_append {n : JsonNumber} (h : Ends rest) : numberEnd (n.text ++ rest) = some rest := by
  have hbehind : NoDigit (JsonNumber.fractionText n.fraction ++
      ((n.exponent.map Exponent.text).getD [] ++ rest)) := noDigit_behind h
  have hexponent : NoDigit ((n.exponent.map Exponent.text).getD [] ++ rest) := noDigit_exponent h
  have hwhole := wholePart_complete n.whole_ok hbehind
  have hfraction := fractionPart_complete n.fraction_ok hexponent (head_ne_point h)
  obtain ⟨value, hvalue⟩ := exponentPart_append (e := n.exponent) h
  have hsign : (if (n.text ++ rest).head? = some 45 then (n.text ++ rest).tail else n.text ++ rest) =
      n.whole ++ (JsonNumber.fractionText n.fraction ++
        ((n.exponent.map Exponent.text).getD [] ++ rest)) := by
    have hhead := head?_whole n.whole_ok (JsonNumber.fractionText n.fraction ++
      ((n.exponent.map Exponent.text).getD [] ++ rest))
    simp only [JsonNumber.text, List.append_assoc]
    generalize n.whole ++ _ = body at hhead ⊢
    cases n.negative with
    | true => simp
    | false => simp [hhead]
  unfold numberEnd
  rw [hsign, hwhole]
  simp only [Option.bind_eq_bind, Option.bind_some, hfraction, hvalue]
  rfl

/-- What the scan passes over is a number. -/
theorem numberEnd_sound {bytes rest : List UInt8} (h : numberEnd bytes = some rest) :
    ∃ n : JsonNumber, bytes = n.text ++ rest := by
  unfold numberEnd at h
  simp only [Option.bind_eq_bind, Option.bind_eq_some_iff] at h
  obtain ⟨⟨whole, rest1⟩, hwhole, ⟨fraction, rest2⟩, hfraction, ⟨value, rest3⟩, hexponent, h⟩ := h
  obtain rfl : rest3 = rest := Option.some.inj h
  obtain ⟨hw, hstart⟩ := wholePart_sound hwhole
  obtain ⟨hf, hrest1⟩ := fractionPart_sound hfraction
  obtain ⟨e, hrest2⟩ := exponentPart_sound hexponent
  refine ⟨⟨decide (bytes.head? = some 45), whole, fraction, e, hw, hf⟩, ?_⟩
  simp only at hrest1 hrest2
  rw [hrest1, hrest2] at hstart
  simp only [JsonNumber.text, List.append_assoc, ← hstart]
  by_cases hneg : bytes.head? = some 45
  · obtain ⟨tail, rfl⟩ := List.head?_eq_some_iff.mp hneg
    simp
  · simp [hneg]

/-- The number token to write for one below, or not below, a member named `metadata`. -/
def sanitizeNumber (serde : SerdeJson) (below : Bool) (n : JsonNumber) : JsonNumber :=
  if below && (serde.number n.text).isNone then JsonNumber.ofNat 0 else n

theorem scanNumber_reads {below : Bool} (h : scanNumber serde below s = some s') :
    ∃ n : JsonNumber, Reads s s' n.text (sanitizeNumber serde below n).text := by
  unfold scanNumber at h
  rw [Option.bind_eq_bind, Option.bind_eq_some_iff] at h
  obtain ⟨rest, hend, h⟩ := h
  obtain ⟨n, hrest⟩ := numberEnd_sound hend
  have htoken : s.rest.take ((s.moveTo rest).index - s.index) = n.text := by
    rw [show (s.moveTo rest).index - s.index = n.text.length by
      simp only [moveTo, hrest, List.length_append]; omega, hrest, List.take_left]
  refine ⟨n, ?_⟩
  unfold sanitizeNumber
  simp only [htoken] at h
  by_cases hreplaced : (below && (serde.number n.text).isNone) = true
  · rw [if_pos hreplaced] at h
    have hzero : (JsonNumber.ofNat 0).text = [48] := by decide
    rw [if_pos hreplaced, hzero, ← Option.some.inj h]
    exact reads_replaced hrest
  · rw [if_neg hreplaced] at h
    rw [if_neg hreplaced, ← Option.some.inj h]
    exact reads_moveTo hrest

theorem scanNumber_some {below : Bool} {n : JsonNumber}
    (h : s.rest = n.text ++ rest) (hends : Ends rest) :
    ∃ s', scanNumber serde below s = some s' ∧ s'.rest = rest := by
  unfold scanNumber
  rw [h, numberEnd_append hends, Option.bind_eq_bind, Option.bind_some]
  dsimp only
  split
  · exact ⟨_, rfl, rfl⟩
  · exact ⟨_, rfl, rfl⟩

/-! ## 4. What is read -/

section Read

variable (serde)

/-- A value as the scanner takes it: lenient gaps, strings that decode, within these levels. -/
structure Scannable (levels : Nat) (v : Value) : Prop where
  spaced : v.Spaced isAsciiWhitespace
  strings : v.Strings serde.Decodes
  height : v.height < levels

/-- The scanner went through a gap and a value, and replaced number tokens of it. -/
def ReadsValue (levels : Nat) (inside : Bool) (s s' : MetadataScanner) : Prop :=
  ∃ gap v, Gap isAsciiWhitespace gap ∧ Scannable serde levels v ∧
    Reads s s' (gap ++ v.text) (gap ++ (v.renumber serde.marks (sanitizeNumber serde) inside).text)

variable {serde} {levels : Nat} {value : Bool → MetadataScanner → Option MetadataScanner}
  (hvalue : ∀ {inside s s'}, value inside s = some s' → ReadsValue serde levels inside s s')

include hvalue

variable {inside : Bool}

theorem memberLoop_reads {fuel : Nat} {r s s' : MetadataScanner}
    {before : List UInt8} (hbefore : Gap isAsciiWhitespace before) (hr : Reads r s before before)
    (h : memberLoop serde value inside fuel s = some s') :
    ∃ fields : Fields, fields.Spaced isAsciiWhitespace ∧ fields.Strings serde.Decodes ∧
      fields.height < levels ∧ Reads r s' fields.text
        (fields.renumber serde.marks (sanitizeNumber serde) inside).text := by
  -- pass by pass: the key, the colon, the value, and what closes or goes on
  induction fuel generalizing r s before with
  | zero => cases h
  | succ fuel ih =>
      rw [memberLoop] at h
      simp only [Option.bind_eq_bind, Option.bind_eq_some_iff] at h
      obtain ⟨⟨key, s1⟩, hkey, s2, hcolon, s3, hv, h⟩ := h
      obtain ⟨q, hdecodes, hq⟩ := scanString_reads hkey
      obtain ⟨mid, hmid, hs1, _⟩ := skip_reads s1
      obtain ⟨gap, v, hgap, ⟨hspaced, hstrings, hheight⟩, hs2⟩ := hvalue hv
      obtain ⟨after, hafter, hs3, _⟩ := skip_reads s3
      have hmark : (inside || decide (key = "metadata")) = (inside || serde.marks q) := by
        simp [SerdeJson.marks, hdecodes]
      rw [hmark] at hs2
      have hq_ok : serde.Decodes q := by
        rw [SerdeJson.Decodes, hdecodes]
        rfl
      have hmember := ((((hr.trans hq).trans hs1).trans (consume_reads hcolon)).trans hs2).trans hs3
      cases hclose : s3.skipWhitespace.consume 125 with
      | some s4 =>
          rw [hclose] at h
          obtain rfl : s4 = s' := Option.some.inj h
          refine ⟨.last before q mid gap v after, ⟨hbefore, hmid, hgap, hspaced, hafter⟩,
            ⟨hq_ok, hstrings⟩, hheight, ?_⟩
          simpa [Fields.text, Fields.renumber] using hmember.trans (consume_reads hclose)
      | none =>
          simp only [hclose, Option.bind_eq_some_iff] at h
          obtain ⟨s4, hcomma, h⟩ := h
          obtain ⟨before', hbefore', hs4, _⟩ := skip_reads s4
          obtain ⟨rest, hrspaced, hrstrings, hrheight, hrest⟩ := ih hbefore' hs4 h
          refine ⟨.more before q mid gap v after rest,
            ⟨hbefore, hmid, hgap, hspaced, hafter, hrspaced⟩, ⟨hq_ok, hstrings, hrstrings⟩,
            max_lt hheight hrheight, ?_⟩
          simpa [Fields.text, Fields.renumber] using
            (hmember.trans (consume_reads hcomma)).trans hrest

theorem elementLoop_reads {fuel : Nat} {r s s' : MetadataScanner}
    {before : List UInt8} (hbefore : Gap isAsciiWhitespace before) (hr : Reads r s before before)
    (h : elementLoop value inside fuel s = some s') :
    ∃ items : Items, items.Spaced isAsciiWhitespace ∧ items.Strings serde.Decodes ∧
      items.height < levels ∧ Reads r s' items.text
        (items.renumber serde.marks (sanitizeNumber serde) inside).text := by
  induction fuel generalizing r s before with
  | zero => cases h
  | succ fuel ih =>
      rw [elementLoop] at h
      simp only [Option.bind_eq_bind, Option.bind_eq_some_iff] at h
      obtain ⟨s1, hv, h⟩ := h
      obtain ⟨gap, v, hgap, ⟨hspaced, hstrings, hheight⟩, hs⟩ := hvalue hv
      obtain ⟨after, hafter, hs1, _⟩ := skip_reads s1
      have hboth : Gap isAsciiWhitespace (before ++ gap) := fun b hb =>
        (List.mem_append.mp hb).elim (hbefore b) (hgap b)
      have hitem := (hr.trans hs).trans hs1
      cases hclose : s1.skipWhitespace.consume 93 with
      | some s2 =>
          rw [hclose] at h
          obtain rfl : s2 = s' := Option.some.inj h
          refine ⟨.last (before ++ gap) v after, ⟨hboth, hspaced, hafter⟩, hstrings, hheight, ?_⟩
          simpa [Items.text, Items.renumber] using hitem.trans (consume_reads hclose)
      | none =>
          simp only [hclose, Option.bind_eq_some_iff] at h
          obtain ⟨s2, hcomma, h⟩ := h
          have hnil : Gap isAsciiWhitespace [] := fun b hb => by cases hb
          obtain ⟨rest, hrspaced, hrstrings, hrheight, hrest⟩ := ih hnil (Reads.refl s2) h
          refine ⟨.more (before ++ gap) v after rest, ⟨hboth, hspaced, hafter, hrspaced⟩,
            ⟨hstrings, hrstrings⟩, max_lt hheight hrheight, ?_⟩
          simpa [Items.text, Items.renumber] using (hitem.trans (consume_reads hcomma)).trans hrest

/-- A value that starts where the scanner stands. -/
def ReadsHere (serde : SerdeJson) (levels : Nat) (inside : Bool) (s s' : MetadataScanner) : Prop :=
  ∃ v, Scannable serde levels v ∧
    Reads s s' v.text (v.renumber serde.marks (sanitizeNumber serde) inside).text

theorem scanObject_reads {s s' : MetadataScanner} (hs : s.rest.head? = some 123)
    (h : scanObject serde value inside s = some s') : ReadsHere serde (levels + 1) inside s s' := by
  obtain ⟨rest, hrest⟩ := List.head?_eq_some_iff.mp hs
  have hopen : Reads s (s.moveTo s.rest.tail) [123] [123] := reads_moveTo (by rw [hrest]; rfl)
  obtain ⟨gap, hgap, hskip, _⟩ := skip_reads (s.moveTo s.rest.tail)
  unfold scanObject at h
  dsimp only at h
  cases hclose : (s.moveTo s.rest.tail).skipWhitespace.consume 125 with
  | some t =>
      rw [hclose] at h
      obtain rfl : t = s' := Option.some.inj h
      refine ⟨.emptyObject gap, ⟨hgap, trivial, Nat.succ_pos levels⟩, ?_⟩
      simpa [Value.text, Value.renumber] using (hopen.trans hskip).trans (consume_reads hclose)
  | none =>
      rw [hclose] at h
      obtain ⟨fields, hspaced, hstrings, hheight, hfields⟩ :=
        memberLoop_reads hvalue hgap hskip h
      exact ⟨.object fields, ⟨hspaced, hstrings, Nat.succ_lt_succ hheight⟩, hopen.trans hfields⟩

theorem scanArray_reads {s s' : MetadataScanner} (hs : s.rest.head? = some 91)
    (h : scanArray value inside s = some s') : ReadsHere serde (levels + 1) inside s s' := by
  obtain ⟨rest, hrest⟩ := List.head?_eq_some_iff.mp hs
  have hopen : Reads s (s.moveTo s.rest.tail) [91] [91] := reads_moveTo (by rw [hrest]; rfl)
  obtain ⟨gap, hgap, hskip, _⟩ := skip_reads (s.moveTo s.rest.tail)
  unfold scanArray at h
  dsimp only at h
  cases hclose : (s.moveTo s.rest.tail).skipWhitespace.consume 93 with
  | some t =>
      rw [hclose] at h
      obtain rfl : t = s' := Option.some.inj h
      refine ⟨.emptyArray gap, ⟨hgap, trivial, Nat.succ_pos levels⟩, ?_⟩
      simpa [Value.text, Value.renumber] using (hopen.trans hskip).trans (consume_reads hclose)
  | none =>
      rw [hclose] at h
      obtain ⟨items, hspaced, hstrings, hheight, hitems⟩ :=
        elementLoop_reads hvalue hgap hskip h
      exact ⟨.array items, ⟨hspaced, hstrings, Nat.succ_lt_succ hheight⟩, hopen.trans hitems⟩

end Read

/-- **What the scanner gets through is a value, and what it writes is that value renumbered.** -/
theorem scanValue_reads {levels : Nat} {inside : Bool}
    (h : scanValue serde levels inside s = some s') : ReadsValue serde levels inside s s' := by
  induction levels generalizing inside s s' with
  | zero => cases h
  | succ levels ih =>
      obtain ⟨gap, hgap, hskip, _⟩ := skip_reads s
      suffices hhere : ReadsHere serde (levels + 1) inside s.skipWhitespace s' by
        obtain ⟨v, hv, hread⟩ := hhere
        exact ⟨gap, v, hgap, hv, hskip.trans hread⟩
      have hliteral : ∀ {l : Literal}, s.skipWhitespace.scanLiteral l.text = some s' →
          ReadsHere serde (levels + 1) inside s.skipWhitespace s' := fun {l} hl =>
        ⟨.literal l, ⟨trivial, trivial, Nat.succ_pos _⟩, scanLiteral_reads hl⟩
      rw [scanValue] at h
      cases hhead : s.skipWhitespace.rest.head? with
      | none => rw [hhead] at h; cases h
      | some byte =>
          simp only [hhead] at h
          split at h
          case isTrue h123 => exact scanObject_reads ih (h123 ▸ hhead) h
          split at h
          case isTrue h91 => exact scanArray_reads ih (h91 ▸ hhead) h
          split at h
          · obtain ⟨⟨text, t⟩, hstring, rfl⟩ := Option.map_eq_some_iff.mp h
            obtain ⟨q, hdecodes, hread⟩ := scanString_reads hstring
            have hq : serde.Decodes q := by
              rw [SerdeJson.Decodes, hdecodes]
              rfl
            exact ⟨.string q, ⟨trivial, hq, Nat.succ_pos _⟩, hread⟩
          split at h
          · exact hliteral (l := .true) h
          split at h
          · exact hliteral (l := .false) h
          split at h
          · exact hliteral (l := .null) h
          split at h
          · obtain ⟨n, hread⟩ := scanNumber_reads h
            exact ⟨.number n, ⟨trivial, trivial, Nat.succ_pos _⟩, hread⟩
          · cases h

/-! ## 5. What is got through -/

theorem ends_after {after rest : List UInt8} (hafter : Gap isAsciiWhitespace after)
    (hb : closes b = true) : Ends (after ++ b :: rest) :=
  ends_gap (Gap.mono separates_of_blank hafter) (closes_spec hb rest).2

section Through

variable (serde)

/-- The scanner gets through every such value, wherever it stands. -/
def GetsThrough (levels : Nat) (value : Bool → MetadataScanner → Option MetadataScanner) : Prop :=
  ∀ ⦃inside : Bool⦄ ⦃s : MetadataScanner⦄ ⦃v : Value⦄ ⦃tail : List UInt8⦄,
    Scannable serde levels v → s.skipWhitespace.rest = v.text ++ tail → Ends tail →
      ∃ s', value inside s = some s' ∧ s'.rest = tail

variable {serde} {levels : Nat} {value : Bool → MetadataScanner → Option MetadataScanner}
  (hvalue : GetsThrough serde levels value)

include hvalue

variable {s : MetadataScanner}

/-- A member, up to the byte that closes the object or goes on. -/
theorem member_some (inside : Bool) {before mid gap after x : List UInt8}
    {q : Quoted} {v : Value} {c : UInt8} (hbefore : Gap isAsciiWhitespace before)
    (hmid : Gap isAsciiWhitespace mid) (hgap : Gap isAsciiWhitespace gap)
    (hafter : Gap isAsciiWhitespace after) (hq : serde.Decodes q) (hv : Scannable serde levels v)
    (hc : closes c = true)
    (hs : s.rest = before ++ (q.text ++ (mid ++ 58 :: (gap ++ (v.text ++ (after ++ c :: x)))))) :
    ∃ key s1 s2 s3, scanString serde s.skipWhitespace = some (key, s1) ∧
      s1.skipWhitespace.consume 58 = some s2 ∧
      value (inside || key = "metadata") s2 = some s3 ∧ s3.skipWhitespace.rest = c :: x ∧
      x.length < s.skipWhitespace.rest.length := by
  have hstart := skip_rest hs hbefore (q.solid _)
  obtain ⟨key, hkey⟩ := Option.isSome_iff_exists.mp hq
  obtain ⟨s1, hs1, hrest1⟩ := scanString_some hstart hkey
  obtain ⟨s2, hs2, hrest2⟩ := consume_some (skip_rest hrest1 hmid (solid_cons (by decide)))
  obtain ⟨s3, hs3, hrest3⟩ := hvalue hv (skip_rest hrest2 hgap (v.solid _)) (ends_after hafter hc)
  refine ⟨key, s1, s2, s3, hs1, hs2, hs3, skip_rest hrest3 hafter (closes_spec hc x).1, ?_⟩
  rw [hstart]
  simp only [List.length_append, List.length_cons]
  omega

theorem memberLoop_some (inside : Bool) {tail : List UInt8} : ∀ (fields : Fields) {fuel : Nat}
    {s : MetadataScanner}, fields.Spaced isAsciiWhitespace → fields.Strings serde.Decodes →
    fields.height < levels → s.rest = fields.text ++ tail → s.skipWhitespace.rest.length ≤ fuel →
      ∃ s', memberLoop serde value inside fuel s.skipWhitespace = some s' ∧ s'.rest = tail
  | .last before q mid gap v after, fuel, s, hspaced, hstrings, hheight, hs, hfuel => by
      obtain ⟨hbefore, hmid, hgap, hv, hafter⟩ := hspaced
      simp only [Fields.text, List.append_assoc, List.cons_append, List.nil_append] at hs
      obtain ⟨key, s1, s2, s3, hs1, hs2, hs3, hclose, hshort⟩ := member_some hvalue inside hbefore
        hmid hgap hafter hstrings.1 ⟨hv, hstrings.2, hheight⟩ (by decide) hs
      obtain ⟨s4, hs4, hrest⟩ := consume_some hclose
      obtain ⟨fuel, rfl⟩ : ∃ k, fuel = k + 1 := ⟨fuel - 1, by omega⟩
      refine ⟨s4, ?_, hrest⟩
      simp [memberLoop, hs1, hs2, hs3, hs4]
  | .more before q mid gap v after rest, fuel, s, hspaced, hstrings, hheight, hs, hfuel => by
      obtain ⟨hbefore, hmid, hgap, hv, hafter, hrspaced⟩ := hspaced
      obtain ⟨hvheight, hrheight⟩ := max_lt_iff.mp hheight
      simp only [Fields.text, List.append_assoc, List.cons_append] at hs
      obtain ⟨key, s1, s2, s3, hs1, hs2, hs3, hgoes, hshort⟩ := member_some hvalue inside hbefore
        hmid hgap hafter hstrings.1 ⟨hv, hstrings.2.1, hvheight⟩ (by decide) hs
      obtain ⟨s4, hs4, hrest⟩ := consume_some hgoes
      have hopen : s3.skipWhitespace.consume 125 = none := consume_none (by rw [hgoes]; simp)
      obtain ⟨fuel, rfl⟩ : ∃ k, fuel = k + 1 := ⟨fuel - 1, by omega⟩
      have hless := skip_length s4
      rw [hrest] at hless
      have hfuel' : s4.skipWhitespace.rest.length ≤ fuel := by omega
      obtain ⟨s', hs', htail⟩ :=
        memberLoop_some inside rest hrspaced hstrings.2.2 hrheight hrest hfuel'
      refine ⟨s', ?_, htail⟩
      simp [memberLoop, hs1, hs2, hs3, hopen, hs4, hs']

theorem element_some (inside : Bool) {before after x : List UInt8} {v : Value}
    {c : UInt8} (hbefore : Gap isAsciiWhitespace before) (hafter : Gap isAsciiWhitespace after)
    (hv : Scannable serde levels v) (hc : closes c = true) (hs : s.skipWhitespace.rest =
      (before ++ (v.text ++ (after ++ c :: x))).dropWhile isAsciiWhitespace) :
    ∃ s1, value inside s = some s1 ∧ s1.skipWhitespace.rest = c :: x ∧ x.length < s.rest.length := by
  rw [dropWhile_gap hbefore (v.solid _)] at hs
  obtain ⟨s1, hs1, hrest1⟩ := hvalue hv hs (ends_after hafter hc)
  refine ⟨s1, hs1, skip_rest hrest1 hafter (closes_spec hc x).1, ?_⟩
  have hless := skip_length s
  rw [hs] at hless
  simp only [List.length_append, List.length_cons] at hless
  omega

theorem elementLoop_some (inside : Bool) {tail : List UInt8} : ∀ (items : Items) {fuel : Nat}
    {s : MetadataScanner}, items.Spaced isAsciiWhitespace → items.Strings serde.Decodes →
    items.height < levels →
    s.skipWhitespace.rest = (items.text ++ tail).dropWhile isAsciiWhitespace →
    s.rest.length ≤ fuel →
      ∃ s', elementLoop value inside fuel s = some s' ∧ s'.rest = tail
  | .last before v after, fuel, s, hspaced, hstrings, hheight, hs, hfuel => by
      obtain ⟨hbefore, hv, hafter⟩ := hspaced
      simp only [Items.text, List.append_assoc, List.cons_append, List.nil_append] at hs
      obtain ⟨s1, hs1, hclose, hshort⟩ :=
        element_some hvalue inside hbefore hafter ⟨hv, hstrings, hheight⟩ (by decide) hs
      obtain ⟨s2, hs2, hrest⟩ := consume_some hclose
      obtain ⟨fuel, rfl⟩ : ∃ k, fuel = k + 1 := ⟨fuel - 1, by omega⟩
      refine ⟨s2, ?_, hrest⟩
      simp [elementLoop, hs1, hs2]
  | .more before v after rest, fuel, s, hspaced, hstrings, hheight, hs, hfuel => by
      obtain ⟨hbefore, hv, hafter, hrspaced⟩ := hspaced
      obtain ⟨hvheight, hrheight⟩ := max_lt_iff.mp hheight
      simp only [Items.text, List.append_assoc, List.cons_append] at hs
      obtain ⟨s1, hs1, hgoes, hshort⟩ :=
        element_some hvalue inside hbefore hafter ⟨hv, hstrings.1, hvheight⟩ (by decide) hs
      obtain ⟨s2, hs2, hrest⟩ := consume_some hgoes
      have hopen : s1.skipWhitespace.consume 93 = none := consume_none (by rw [hgoes]; simp)
      obtain ⟨fuel, rfl⟩ : ∃ k, fuel = k + 1 := ⟨fuel - 1, by omega⟩
      have hskip : s2.skipWhitespace.rest = (rest.text ++ tail).dropWhile isAsciiWhitespace := by
        rw [← hrest]
        rfl
      rw [← hrest] at hshort
      have hfuel' : s2.rest.length ≤ fuel := by omega
      obtain ⟨s', hs', htail⟩ :=
        elementLoop_some inside rest hrspaced hstrings.2 hrheight hskip hfuel'
      refine ⟨s', ?_, htail⟩
      simp [elementLoop, hs1, hopen, hs2, hs']

theorem scanObject_some (inside : Bool) {fields : Fields} {tail : List UInt8}
    (hspaced : fields.Spaced isAsciiWhitespace) (hstrings : fields.Strings serde.Decodes)
    (hheight : fields.height < levels) (hs : s.rest = 123 :: (fields.text ++ tail)) :
    ∃ s', scanObject serde value inside s = some s' ∧ s'.rest = tail := by
  have hopened : (s.moveTo s.rest.tail).rest = fields.text ++ tail := by rw [hs]; rfl
  have hopen : (s.moveTo s.rest.tail).skipWhitespace.consume 125 = none := by
    obtain ⟨gap, q, rest, hgap, htext⟩ := Fields.split hspaced
    refine consume_none ?_
    rw [htext, List.append_assoc, List.append_assoc] at hopened
    rw [skip_rest hopened hgap (q.solid _)]
    exact q.head_ne _
  obtain ⟨s', hs', htail⟩ :=
    memberLoop_some hvalue inside fields hspaced hstrings hheight hopened (Nat.le_refl _)
  refine ⟨s', ?_, htail⟩
  simp [scanObject, hopen, hs']

theorem scanArray_some (inside : Bool) {items : Items} {tail : List UInt8}
    (hspaced : items.Spaced isAsciiWhitespace) (hstrings : items.Strings serde.Decodes)
    (hheight : items.height < levels) (hs : s.rest = 91 :: (items.text ++ tail)) :
    ∃ s', scanArray value inside s = some s' ∧ s'.rest = tail := by
  have hopened : (s.moveTo s.rest.tail).rest = items.text ++ tail := by rw [hs]; rfl
  have hstart : (s.moveTo s.rest.tail).skipWhitespace.skipWhitespace.rest =
      (items.text ++ tail).dropWhile isAsciiWhitespace := by
    rw [skip_skip, ← hopened]
    rfl
  have hopen : (s.moveTo s.rest.tail).skipWhitespace.consume 93 = none := by
    obtain ⟨gap, v, rest, hgap, htext⟩ := Items.split hspaced
    refine consume_none ?_
    rw [htext, List.append_assoc, List.append_assoc] at hopened
    rw [skip_rest hopened hgap (v.solid _)]
    exact v.head_ne _
  obtain ⟨s', hs', htail⟩ :=
    elementLoop_some hvalue inside items hspaced hstrings hheight hstart (Nat.le_refl _)
  refine ⟨s', ?_, htail⟩
  simp [scanArray, hopen, hs']

end Through

theorem scanObject_empty {value : Bool → MetadataScanner → Option MetadataScanner} (inside : Bool)
    {gap tail : List UInt8} (hgap : Gap isAsciiWhitespace gap)
    (hs : s.rest = 123 :: (gap ++ 125 :: tail)) :
    ∃ s', scanObject serde value inside s = some s' ∧ s'.rest = tail := by
  have hopened : (s.moveTo s.rest.tail).rest = gap ++ 125 :: tail := by rw [hs]; rfl
  obtain ⟨s', hs', htail⟩ := consume_some (skip_rest hopened hgap (solid_cons (by decide)))
  exact ⟨s', by simp [scanObject, hs'], htail⟩

theorem scanArray_empty {value : Bool → MetadataScanner → Option MetadataScanner} (inside : Bool)
    {gap tail : List UInt8} (hgap : Gap isAsciiWhitespace gap) (hs : s.rest = 91 :: (gap ++ 93 :: tail)) :
    ∃ s', scanArray value inside s = some s' ∧ s'.rest = tail := by
  have hopened : (s.moveTo s.rest.tail).rest = gap ++ 93 :: tail := by rw [hs]; rfl
  obtain ⟨s', hs', htail⟩ := consume_some (skip_rest hopened hgap (solid_cons (by decide)))
  exact ⟨s', by simp [scanArray, hs'], htail⟩

theorem startsNumber_ne (h : startsNumber b = true) :
    b ≠ 123 ∧ b ≠ 91 ∧ b ≠ 34 ∧ b ≠ 116 ∧ b ≠ 102 ∧ b ≠ 110 := by
  refine ⟨?_, ?_, ?_, ?_, ?_, ?_⟩ <;> rintro rfl <;> exact absurd h (by decide)

/-- **The scanner gets through every value of lenient gaps whose strings decode.** -/
theorem scanValue_some (levels : Nat) : GetsThrough serde levels (scanValue serde levels) := by
  induction levels with
  | zero => exact fun _ _ _ _ hv => absurd hv.height (Nat.not_lt_zero _)
  | succ levels ih =>
      intro inside s v tail hv hs hends
      rw [scanValue]
      cases v with
      | literal l =>
          obtain ⟨s', hs', htail⟩ : ∃ s', s.skipWhitespace.scanLiteral l.text = some s' ∧
              s'.rest = tail := scanLiteral_some hs
          refine ⟨s', ?_, htail⟩
          cases l <;> simpa [hs, Value.text, Literal.text] using hs'
      | number n =>
          obtain ⟨s', hs', htail⟩ : ∃ s', scanNumber serde inside s.skipWhitespace = some s' ∧
              s'.rest = tail := scanNumber_some hs hends
          obtain ⟨b, rest, htext, hb⟩ := number_head n
          obtain ⟨h123, h91, h34, h116, h102, h110⟩ := startsNumber_ne hb
          have hdigit : (b = 45 ∨ isDigit b = true) := by simpa [startsNumber] using hb
          refine ⟨s', ?_, htail⟩
          simpa [hs, Value.text, htext, h123, h91, h34, h116, h102, h110, hdigit] using hs'
      | string q =>
          obtain ⟨text, htext⟩ := Option.isSome_iff_exists.mp hv.strings
          obtain ⟨s', hs', htail⟩ := scanString_some hs htext
          refine ⟨s', ?_, htail⟩
          simp [hs, Value.text, Quoted.text, hs']
      | emptyArray gap =>
          have hopen : s.skipWhitespace.rest = 91 :: (gap ++ 93 :: tail) := by
            simpa [Value.text] using hs
          obtain ⟨s', hs', htail⟩ : ∃ s', scanArray (scanValue serde levels) inside
              s.skipWhitespace = some s' ∧ s'.rest = tail := scanArray_empty inside hv.spaced hopen
          exact ⟨s', by simpa [hopen] using hs', htail⟩
      | array items =>
          obtain ⟨s', hs', htail⟩ := scanArray_some ih inside hv.spaced hv.strings
            (Nat.lt_of_succ_lt_succ hv.height) hs
          exact ⟨s', by simpa [hs, Value.text] using hs', htail⟩
      | emptyObject gap =>
          have hopen : s.skipWhitespace.rest = 123 :: (gap ++ 125 :: tail) := by
            simpa [Value.text] using hs
          obtain ⟨s', hs', htail⟩ : ∃ s', scanObject serde (scanValue serde levels) inside
              s.skipWhitespace = some s' ∧ s'.rest = tail := scanObject_empty inside hv.spaced hopen
          exact ⟨s', by simpa [hopen] using hs', htail⟩
      | object fields =>
          obtain ⟨s', hs', htail⟩ := scanObject_some ih inside hv.spaced hv.strings
            (Nat.lt_of_succ_lt_succ hv.height) hs
          exact ⟨s', by simpa [hs, Value.text] using hs', htail⟩

end MetadataScanner

end Aios
