/-
  File:      Aios/Ir/Sanitized.lean
  Subject:   SANITISATION NEVER CHANGES MEANING: what the strict reader accepts, and the value it
             returns, is said by the document alone.

  Four scanners go over the text: the nesting counter, the metadata scanner, the number rewriter and
  the parser library. Each is compared with the one document of which the text is the text; the
  grammar is unambiguous, so they mean the same document.
-/
import Aios.Ir.Scanner
import Aios.Lib.JsonLexemes

namespace Aios

open Lib JsonText

variable {serde : SerdeJson}

/-! ## 1. The metadata scanner -/

/-- A document as the metadata scanner takes it: form feeds in gaps, and an empty container at the
    deepest level. -/
structure Lenient (serde : SerdeJson) (d : Document) : Prop where
  spaced : d.Spaced isAsciiWhitespace
  strings : d.value.Strings serde.Decodes
  height : d.value.height ≤ maxSupportedJsonDepth

/-- The document that is written: below `metadata`, `0` for every number the library has none for. -/
def sanitized (serde : SerdeJson) (d : Document) : Document :=
  d.renumber serde.marks (MetadataScanner.sanitizeNumber serde)

variable {d : Document} {bytes : List UInt8} {n : JsonNumber}

open MetadataScanner in
/-- A scan that comes to the end was that of a document, and writes it sanitized. -/
theorem sanitized_of_scan {s : MetadataScanner}
    (h : scanValue serde (maxSupportedJsonDepth + 1) false ⟨bytes, 0, []⟩ = some s)
    (hend : s.skipWhitespace.rest = []) : ∃ d, Lenient serde d ∧ d.text = bytes ∧
      replaceRanges bytes 0 s.skipWhitespace.replacements = (sanitized serde d).text := by
  obtain ⟨before, v, hbefore, ⟨hspaced, hstrings, hheight⟩, hread⟩ := scanValue_reads h
  obtain ⟨after, hafter, hskip, _⟩ := skip_reads s
  have hboth := hread.trans hskip
  refine ⟨⟨before, v, after⟩, ⟨⟨hbefore, hspaced, hafter⟩, hstrings, Nat.le_of_lt_succ hheight⟩, ?_, ?_⟩
  · have htext := hboth.rest
    rw [hend, List.append_nil, List.append_assoc] at htext
    exact htext.symm
  · have hwritten := (hboth.written bytes [] (emitted_start bytes)).result
    rw [hend, List.append_nil, List.nil_append, List.append_assoc] at hwritten
    exact hwritten

open MetadataScanner in
/-- The scan of a document comes to the end. -/
theorem scan_of_lenient (h : Lenient serde d) :
    ∃ s, scanValue serde (maxSupportedJsonDepth + 1) false ⟨d.text, 0, []⟩ = some s ∧
      s.skipWhitespace.rest = [] := by
  obtain ⟨⟨hbefore, hspaced, hafter⟩, hstrings, hheight⟩ := h
  have hstart : (MetadataScanner.mk d.text 0 []).skipWhitespace.rest = d.value.text ++ d.after :=
    skip_rest rfl hbefore (d.value.solid _)
  have hvalue : Scannable serde (maxSupportedJsonDepth + 1) d.value :=
    ⟨hspaced, hstrings, Nat.lt_succ_of_le hheight⟩
  obtain ⟨s, hs, hrest⟩ := scanValue_some (maxSupportedJsonDepth + 1) hvalue hstart
    (ends_of_gap (Gap.mono separates_of_blank hafter))
  have hend : s.rest = d.after ++ [] := by rw [hrest, List.append_nil]
  exact ⟨s, hs, skip_rest hend hafter fun b hb => by cases hb⟩

theorem Lenient.unique {d e : Document} (hd : Lenient serde d) (he : Lenient serde e)
    (h : d.text = e.text) : d = e :=
  Document.unique (hd.spaced.mono MetadataScanner.separates_of_blank)
    (he.spaced.mono MetadataScanner.separates_of_blank) h

open MetadataScanner in
/-- **A document is written sanitized.** -/
theorem sanitize_lenient (h : Lenient serde d) :
    sanitizeOutOfRangeMetadataNumbers serde d.text = (sanitized serde d).text := by
  obtain ⟨s, hs, hend⟩ := scan_of_lenient h
  obtain ⟨e, he, htext, hwritten⟩ := sanitized_of_scan hs hend
  obtain rfl := he.unique h htext
  obtain ⟨_, _, _, _, hread⟩ := scanValue_reads hs
  obtain ⟨_, _, hskip, _⟩ := skip_reads s
  have hindex := ((hread.trans hskip).written _ _ (emitted_start e.text)).index_eq
  rw [hend, List.length_nil, Nat.add_zero] at hindex
  unfold sanitizeOutOfRangeMetadataNumbers
  rw [hs]
  by_cases hnone : s.skipWhitespace.replacements = []
  · rw [hnone] at hwritten
    simp only [hindex, hnone, or_true, if_true, ← hwritten]
    rfl
  · simp [hindex, hnone, hwritten]

open MetadataScanner in
/-- **Any other text is left as it is.** -/
theorem sanitize_other (h : ∀ d, Lenient serde d → d.text ≠ bytes) :
    sanitizeOutOfRangeMetadataNumbers serde bytes = bytes := by
  unfold sanitizeOutOfRangeMetadataNumbers
  cases hs : scanValue serde (maxSupportedJsonDepth + 1) false ⟨bytes, 0, []⟩ with
  | none => rfl
  | some s =>
      obtain ⟨_, _, _, _, hread⟩ := scanValue_reads hs
      obtain ⟨_, _, hskip, _⟩ := skip_reads s
      have hindex := ((hread.trans hskip).written _ _ (emitted_start bytes)).index_eq
      have hopen : s.skipWhitespace.index ≠ bytes.length := by
        intro hlength
        have hend : s.skipWhitespace.rest = [] := List.eq_nil_of_length_eq_zero (by omega)
        obtain ⟨d, hd, htext, _⟩ := sanitized_of_scan hs hend
        exact h d hd htext
      simp [hopen]

/-! ## 2. The nesting counter -/

section Depth

variable {maxDepth depth : Nat}

/-- A byte the counter passes over. -/
def passed (b : UInt8) : Bool := b ≠ 34 && b ≠ 123 && b ≠ 91 && b ≠ 125 && b ≠ 93

theorem depth_passed {bytes : List UInt8} (h : ∀ b ∈ bytes, passed b = true) (tail : List UInt8) :
    depthLoop maxDepth depth false false (bytes ++ tail) = depthLoop maxDepth depth false false tail := by
  induction bytes with
  | nil => rfl
  | cons b bytes ih =>
      obtain ⟨hb, hbytes⟩ := List.forall_mem_cons.mp h
      simp only [passed, Bool.and_eq_true, decide_eq_true_eq] at hb
      obtain ⟨⟨⟨⟨h34, h123⟩, h91⟩, h125⟩, h93⟩ := hb
      simp [depthLoop, h34, h123, h91, h125, h93, ih hbytes]

variable {b : UInt8}

theorem passed_of_separates (h : separates b = true) : passed b = true := by
  simp only [separates, startsValue, Bool.and_eq_true, Bool.not_eq_true', Bool.or_eq_false_iff,
    decide_eq_true_eq, decide_eq_false_iff_not] at h
  simp only [passed, Bool.and_eq_true, decide_eq_true_eq]
  tauto

theorem depth_gap {gap : List UInt8} (h : Gap separates gap) (tail : List UInt8) :
    depthLoop maxDepth depth false false (gap ++ tail) = depthLoop maxDepth depth false false tail :=
  depth_passed (fun b hb => passed_of_separates (h b hb)) tail

theorem passed_of_digit (h : isDigit b = true) : passed b = true := by
  have hne : ∀ c : UInt8, isDigit c = false → b ≠ c := by
    rintro c hc rfl
    rw [h] at hc
    cases hc
  simp [passed, hne 34 (by decide), hne 123 (by decide), hne 91 (by decide), hne 125 (by decide),
    hne 93 (by decide)]

theorem depth_number (n : JsonNumber) (tail : List UInt8) :
    depthLoop maxDepth depth false false (n.text ++ tail) = depthLoop maxDepth depth false false tail := by
  refine depth_passed (fun b hb => ?_) tail
  rcases number_byte n b hb with hdigit | rfl | rfl | rfl | rfl | rfl
  · exact passed_of_digit hdigit
  all_goals decide

theorem depth_literal (l : Literal) (tail : List UInt8) :
    depthLoop maxDepth depth false false (l.text ++ tail) = depthLoop maxDepth depth false false tail := by
  have hall : l.text.all passed = true := by cases l <;> rfl
  exact depth_passed (List.all_eq_true.mp hall) tail

theorem depth_body {body : List UInt8} (h : Body body) (tail : List UInt8) :
    depthLoop maxDepth depth true false (body ++ 34 :: tail) =
      depthLoop maxDepth depth false false tail := by
  induction h with
  | nil => simp [depthLoop]
  | plain hquote hslash _ ih => simp [depthLoop, hquote, hslash, ih]
  | escaped b _ ih => simp [depthLoop, ih]

theorem depth_quoted (q : Quoted) (tail : List UInt8) :
    depthLoop maxDepth depth false false (q.text ++ tail) = depthLoop maxDepth depth false false tail := by
  simp [Quoted.text, depthLoop, depth_body q.ok]

theorem depth_cons (h : passed b = true) (tail : List UInt8) :
    depthLoop maxDepth depth false false (b :: tail) = depthLoop maxDepth depth false false tail := by
  have hall : ∀ c ∈ [b], passed c = true := by simpa using h
  exact depth_passed hall tail

theorem depth_open (h : b = 91 ∨ b = 123) (tail : List UInt8) :
    depthLoop maxDepth depth false false (b :: tail) =
      (decide (maxDepth < depth + 1) || depthLoop maxDepth (depth + 1) false false tail) := by
  by_cases hdeep : maxDepth < depth + 1
  · rcases h with rfl | rfl <;> simp [depthLoop, hdeep]
  · rcases h with rfl | rfl <;> simp [depthLoop, hdeep]

theorem depth_close (h : b = 93 ∨ b = 125) (tail : List UInt8) :
    depthLoop maxDepth (depth + 1) false false (b :: tail) =
      depthLoop maxDepth depth false false tail := by
  rcases h with rfl | rfl <;> simp [depthLoop]

/-- A container: the counter goes up for what stands in it, and down behind it. -/
theorem depth_container (hopen : b = 91 ∨ b = 123) {nesting : Nat}
    {inner tail : List UInt8} (hdepth : depth ≤ maxDepth)
    (hinner : depth + 1 ≤ maxDepth → depthLoop maxDepth (depth + 1) false false inner =
      (decide (maxDepth < depth + 1 + nesting) || depthLoop maxDepth depth false false tail)) :
    depthLoop maxDepth depth false false (b :: inner) =
      (decide (maxDepth < depth + (nesting + 1)) || depthLoop maxDepth depth false false tail) := by
  rw [depth_open hopen]
  by_cases hdeep : maxDepth < depth + 1
  · have hdeeper : maxDepth < depth + (nesting + 1) := by omega
    simp [hdeep, hdeeper]
  · rw [hinner (by omega), Nat.add_assoc, Nat.add_comm 1 nesting]
    simp [hdeep]

/-- The deeper of two parts decides. -/
theorem deeper (a b : Nat) (stopped : Bool) :
    (decide (maxDepth < depth + a) || (decide (maxDepth < depth + b) || stopped)) =
      (decide (maxDepth < depth + max a b) || stopped) := by
  have hmax : (maxDepth < depth + a ∨ maxDepth < depth + b) ↔ maxDepth < depth + max a b := by omega
  rw [← Bool.or_assoc, ← Bool.decide_or, decide_eq_decide.mpr hmax]

mutual

/-- **The counter stops in a value exactly when it is nested too deep.** -/
theorem depth_value : ∀ (v : Value) {depth : Nat} {tail : List UInt8}, v.Spaced separates →
    depth ≤ maxDepth → depthLoop maxDepth depth false false (v.text ++ tail) =
      (decide (maxDepth < depth + v.nesting) || depthLoop maxDepth depth false false tail)
  | .literal l, depth, tail, _, h => by
      simp [Value.text, depth_literal, Value.nesting, h]
  | .number n, depth, tail, _, h => by
      simp [Value.text, depth_number, Value.nesting, h]
  | .string q, depth, tail, _, h => by
      simp [Value.text, depth_quoted, Value.nesting, h]
  | .emptyArray gap, depth, tail, hv, h => by
      rw [Value.text, List.cons_append, List.append_assoc]
      refine depth_container (.inl rfl) h fun hinner => ?_
      have hshallow : ¬ maxDepth < depth + 1 + 0 := by omega
      rw [depth_gap hv, List.singleton_append, depth_close (.inl rfl), decide_eq_false hshallow, Bool.false_or]
  | .emptyObject gap, depth, tail, hv, h => by
      rw [Value.text, List.cons_append, List.append_assoc]
      refine depth_container (.inr rfl) h fun hinner => ?_
      have hshallow : ¬ maxDepth < depth + 1 + 0 := by omega
      rw [depth_gap hv, List.singleton_append, depth_close (.inr rfl), decide_eq_false hshallow, Bool.false_or]
  | .array items, depth, tail, hv, h =>
      depth_container (.inl rfl) h fun hinner => depth_items items hv hinner
  | .object fields, depth, tail, hv, h =>
      depth_container (.inr rfl) h fun hinner => depth_fields fields hv hinner

theorem depth_items : ∀ (items : Items) {depth : Nat} {tail : List UInt8}, items.Spaced separates →
    depth + 1 ≤ maxDepth → depthLoop maxDepth (depth + 1) false false (items.text ++ tail) =
      (decide (maxDepth < depth + 1 + items.nesting) || depthLoop maxDepth depth false false tail)
  | .last before v after, depth, tail, ⟨hbefore, hv, hafter⟩, h => by
      simp only [Items.text, List.append_assoc, List.singleton_append]
      rw [depth_gap hbefore, depth_value v hv h, depth_gap hafter, depth_close (.inl rfl)]
      rfl
  | .more before v after rest, depth, tail, ⟨hbefore, hv, hafter, hrest⟩, h => by
      simp only [Items.text, List.append_assoc, List.cons_append]
      rw [depth_gap hbefore, depth_value v hv h, depth_gap hafter, depth_cons (by decide),
        depth_items rest hrest h, deeper, Items.nesting]

theorem depth_fields : ∀ (fields : Fields) {depth : Nat} {tail : List UInt8},
    fields.Spaced separates → depth + 1 ≤ maxDepth →
      depthLoop maxDepth (depth + 1) false false (fields.text ++ tail) =
        (decide (maxDepth < depth + 1 + fields.nesting) || depthLoop maxDepth depth false false tail)
  | .last before q mid gap v after, depth, tail, ⟨hbefore, hmid, hgap, hv, hafter⟩, h => by
      simp only [Fields.text, List.append_assoc, List.cons_append, List.nil_append]
      rw [depth_gap hbefore, depth_quoted, depth_gap hmid, depth_cons (by decide), depth_gap hgap,
        depth_value v hv h, depth_gap hafter, depth_close (.inr rfl)]
      rfl
  | .more before q mid gap v after rest, depth, tail, ⟨hbefore, hmid, hgap, hv, hafter, hrest⟩, h => by
      simp only [Fields.text, List.append_assoc, List.cons_append]
      rw [depth_gap hbefore, depth_quoted, depth_gap hmid, depth_cons (by decide), depth_gap hgap,
        depth_value v hv h, depth_gap hafter, depth_cons (by decide), depth_fields rest hrest h,
        deeper, Fields.nesting]

end

/-- **The nesting counter refuses a document exactly when it is nested too deep.** -/
theorem exceedsDepth_text {d : Document} (h : d.Spaced separates) :
    exceedsDepth d.text maxDepth = decide (maxDepth < d.value.nesting) := by
  have hend : depthLoop maxDepth 0 false false d.after = false := by
    rw [← List.append_nil d.after, depth_gap h.2.2]
    rfl
  rw [exceedsDepth, Document.text, depth_gap h.1, depth_value d.value h.2.1 (Nat.zero_le _), hend,
    Nat.zero_add, Bool.or_false]

end Depth

/-! ## 3. The number rewriter -/

/-- The natural number up to `2^53 - 1` that the token stands for. -/
def exactInteger (n : JsonNumber) : Option Nat :=
  if n.value.den = 1 ∧ 0 ≤ n.value.num ∧ n.value.num ≤ 9007199254740991 then some n.value.num.toNat
  else none

theorem exactInteger_eq_some {k : Nat} :
    exactInteger n = some k ↔ n.value = k ∧ k ≤ 9007199254740991 := by
  unfold exactInteger
  constructor
  · intro h
    split at h
    · rename_i hsafe
      obtain ⟨hden, hlow, hhigh⟩ := hsafe
      obtain rfl : n.value.num.toNat = k := Option.some.inj h
      refine ⟨?_, by omega⟩
      have hnum : ((n.value.num.toNat : ℤ) : ℚ) = n.value := by
        rw [Int.toNat_of_nonneg hlow]
        exact Rat.coe_int_num_of_den_eq_one hden
      exact_mod_cast hnum.symm
    · cases h
  · rintro ⟨hvalue, hk⟩
    have hnum : n.value.num = k := by rw [hvalue]; exact Rat.num_natCast k
    have hden : n.value.den = 1 := by rw [hvalue]; exact Rat.den_natCast k
    rw [if_pos ⟨hden, by omega, by omega⟩, hnum, Int.toNat_natCast]

/-- The token a number is rewritten to. -/
def rewriteNumber (n : JsonNumber) : JsonNumber :=
  ((DecimalToken.parse n.text).bind DecimalToken.safeInteger).elim n JsonNumber.ofNat

theorem text_rewriteNumber (n : JsonNumber) : (rewriteNumber n).text = rewriteToken n.text := by
  unfold rewriteNumber rewriteToken
  cases (DecimalToken.parse n.text).bind DecimalToken.safeInteger with
  | none => rfl
  | some k => exact JsonNumber.text_ofNat k

theorem number_ext {n m : JsonNumber} (h : n.text = m.text) : n = m := by
  have hends : Ends [] := fun b hb => by cases hb
  exact (number_unique hends hends (congrArg (· ++ []) h)).1

/-- Only number tokens are rewritten, and only to number tokens. -/
theorem rewrites_numbers : Rewrites rewriteLexeme rewriteNumber where
  other := fun _ => rfl
  quoted := fun _ => rfl
  token := fun n => congrArg Lexeme.token (text_rewriteNumber n).symm
  other_back := by
    intro l b h
    cases l <;> simp_all [rewriteLexeme]
  quoted_back := by
    intro l body h
    cases l <;> simp_all [rewriteLexeme]
  token_back := by
    intro l n h
    cases l with
    | token bytes =>
        have htoken : rewriteToken bytes = n.text := Lexeme.token.inj h
        cases hparse : DecimalToken.parse bytes with
        | some d =>
            obtain ⟨m, rfl⟩ := parse_sound hparse
            exact ⟨m, rfl, number_ext ((text_rewriteNumber m).trans htoken)⟩
        | none =>
            obtain rfl : bytes = n.text := by
              rwa [rewriteToken, hparse, Option.bind_none] at htoken
            exact ⟨n, rfl, by rw [rewriteNumber, hparse]; rfl⟩
    | quoted body => cases h
    | unclosed body => cases h
    | other b => cases h

/-- The document that is handed to the parser library. -/
def preparedOf (serde : SerdeJson) (d : Document) : Document :=
  d.renumber serde.marks fun _ => rewriteNumber

variable (positiveFinite : List UInt8 → Bool)

theorem prepare_document (h : d.Spaced isSpace) :
    prepareNumbers positiveFinite d.text .irIntegers = .ok (preparedOf serde d).text := by
  rw [← d.textOf_lexemes, prepareNumbers_textOf positiveFinite (Document.lexed h),
    ← rewrites_numbers.document, Document.textOf_lexemes]
  rfl

/-- **What is prepared to a document was a document.** -/
theorem prepare_document_back {e : Document} (he : e.Spaced isSpace)
    (h : prepareNumbers positiveFinite bytes .irIntegers = .ok e.text) :
    ∃ d : Document, d.text = bytes ∧ preparedOf serde d = e := by
  obtain ⟨ls, hls, rfl⟩ := exists_lexed bytes
  rw [prepareNumbers_textOf positiveFinite hls, Except.ok.injEq, ← e.textOf_lexemes] at h
  obtain ⟨d, rfl, hd⟩ := rewrites_numbers.document_back
    ((lexed_rewrite hls).unique (Document.lexed he) h)
  exact ⟨d, d.textOf_lexemes.symm, hd⟩

/-! ## 4. What the strict reader accepts -/

/-- A document the strict reader accepts. -/
structure Acceptable (serde : SerdeJson) (maxDepth : Nat) (d : Document) : Prop where
  spaced : d.Spaced isSpace
  strings : d.value.Strings serde.Decodes
  distinct : d.value.Distinct serde.decoded
  nesting : d.value.nesting ≤ min maxDepth maxSupportedJsonDepth
  numbers : ∀ p ∈ d.value.numbers serde.marks false, p.1 = false → serde.Represents p.2

theorem ascii_of_isSpace (b : UInt8) (h : isSpace b = true) : isAsciiWhitespace b = true := by
  rcases isSpace_cases h with rfl | rfl | rfl | rfl <;> decide

/-- What a strict reader takes, the metadata scanner takes. -/
theorem lenient_of_strict (hspaced : d.Spaced isSpace)
    (hstrings : d.value.Strings serde.Decodes) (hnesting : d.value.nesting ≤ maxSupportedJsonDepth) :
    Lenient serde d :=
  ⟨hspaced.mono ascii_of_isSpace, hstrings, d.value.height_le.trans hnesting⟩

theorem spaced_sanitized {space : UInt8 → Bool} : (sanitized serde d).Spaced space ↔ d.Spaced space :=
  and_congr_right' (and_congr_left' (d.value.spaced_renumber false))

theorem spaced_prepared {space : UInt8 → Bool} : (preparedOf serde d).Spaced space ↔ d.Spaced space :=
  and_congr_right' (and_congr_left' (d.value.spaced_renumber false))

/-- A number that is rewritten is in range, and so is what it is rewritten to. -/
theorem represents_rewrite (rfc : serde.Rfc8259) (h : serde.Represents n) :
    serde.Represents (rewriteNumber n) := by
  unfold rewriteNumber
  cases hsafe : (DecimalToken.parse n.text).bind DecimalToken.safeInteger with
  | none => exact h
  | some k =>
      obtain ⟨d, -, hd⟩ := Option.bind_eq_some_iff.mp hsafe
      have hk := rfc.integer k (safeInteger_le hd)
      rw [Option.elim_some, SerdeJson.Represents, JsonNumber.text_ofNat, hk]
      rfl

theorem represents_of_rewrite (rfc : serde.Rfc8259)
    (hfit : (n.text.length : Int) ≤ i64Max) (h : serde.Represents (rewriteNumber n)) :
    serde.Represents n := by
  unfold rewriteNumber at h
  cases hsafe : (DecimalToken.parse n.text).bind DecimalToken.safeInteger with
  | none =>
      rw [hsafe] at h
      exact h
  | some k => exact rfc.inRange _ k ((standsFor_iff hfit k).mpr hsafe)

theorem represents_zero (rfc : serde.Rfc8259) : serde.Represents (JsonNumber.ofNat 0) := by
  rw [SerdeJson.Represents, JsonNumber.text_ofNat, rfc.integer 0 (Nat.zero_le _)]
  rfl

theorem represents_sanitized (rfc : serde.Rfc8259) {below : Bool}
    (h : below = false → serde.Represents n) :
    serde.Represents (MetadataScanner.sanitizeNumber serde below n) := by
  unfold MetadataScanner.sanitizeNumber
  cases below with
  | false => exact h rfl
  | true =>
      cases hn : (serde.number n.text).isNone with
      | true => exact represents_zero rfc
      | false => simpa [SerdeJson.Represents, Option.isSome_iff_ne_none] using hn

/-- The document the parser library reads in the place of this one. -/
def handed (serde : SerdeJson) (d : Document) : Document := preparedOf serde (sanitized serde d)

/-- The number tokens of the document that is handed on. -/
theorem numbers_handed (d : Document) :
    (handed serde d).value.numbers serde.marks false =
      (d.value.numbers serde.marks false).map fun p =>
        (p.1, rewriteNumber (MetadataScanner.sanitizeNumber serde p.1 p.2)) := by
  simp only [handed, preparedOf, sanitized, Document.renumber, Value.numbers_renumber, List.map_map]
  rfl

theorem nesting_handed (d : Document) : (handed serde d).value.nesting = d.value.nesting :=
  (Value.nesting_renumber false _).trans (Value.nesting_renumber false _)

theorem strings_handed {ok : Quoted → Prop} : (handed serde d).value.Strings ok ↔ d.value.Strings ok :=
  (Value.strings_renumber false _).trans (Value.strings_renumber false _)

theorem spaced_handed {space : UInt8 → Bool} : (handed serde d).Spaced space ↔ d.Spaced space :=
  spaced_prepared.trans spaced_sanitized

theorem distinct_handed {name : Quoted → String} :
    (handed serde d).value.Distinct name ↔ d.value.Distinct name :=
  (Value.distinct_renumber false _).trans (Value.distinct_renumber false _)

/-- An acceptable document is handed on as one the library reads. -/
theorem Acceptable.readable (rfc : serde.Rfc8259) {maxDepth : Nat}
    (h : Acceptable serde maxDepth d) : serde.Readable (handed serde d) where
  spaced := spaced_handed.mpr h.spaced
  strings := strings_handed.mpr h.strings
  nesting := by
    rw [nesting_handed]
    exact h.nesting.trans (min_le_right _ _)
  numbers := by
    rw [numbers_handed]
    intro p hp
    obtain ⟨q, hq, rfl⟩ := List.mem_map.mp hp
    exact represents_rewrite rfc (represents_sanitized rfc (h.numbers q hq))

/-- The value of the document that is handed on. -/
def handedValue (serde : SerdeJson) (d : Document) : Json :=
  (handed serde d).value.json serde.numberOf serde.decoded

/-- A strict document is sanitized and prepared to the document that is handed on. -/
theorem prepare_strict (hspaced : d.Spaced isSpace)
    (hstrings : d.value.Strings serde.Decodes) (hnesting : d.value.nesting ≤ maxSupportedJsonDepth) :
    prepareNumbers positiveFinite (sanitizeOutOfRangeMetadataNumbers serde d.text) .irIntegers =
      .ok (handed serde d).text := by
  rw [sanitize_lenient (lenient_of_strict hspaced hstrings hnesting),
    prepare_document positiveFinite (spaced_sanitized.mpr hspaced)]
  rfl

/-- What is handed on as a strict document was one. -/
theorem prepare_strict_back {e : Document} (he : serde.Readable e)
    (h : prepareNumbers positiveFinite (sanitizeOutOfRangeMetadataNumbers serde bytes) .irIntegers =
      .ok e.text) : ∃ d : Document, d.text = bytes ∧ handed serde d = e := by
  obtain ⟨w, hw, rfl⟩ : ∃ w : Document,
      w.text = sanitizeOutOfRangeMetadataNumbers serde bytes ∧ preparedOf serde w = e :=
    prepare_document_back positiveFinite he.spaced h
  have hwspaced : w.Spaced isSpace := spaced_prepared.mp he.spaced
  have hwstrings : w.value.Strings serde.Decodes := (Value.strings_renumber false _).mp he.strings
  have hwnesting : w.value.nesting ≤ maxSupportedJsonDepth := by
    have hle := he.nesting
    rwa [preparedOf, Document.renumber, Value.nesting_renumber] at hle
  by_cases hlenient : ∃ d, Lenient serde d ∧ d.text = bytes
  · obtain ⟨d, hd, rfl⟩ := hlenient
    rw [sanitize_lenient hd] at hw
    have hsame : sanitized serde d = w := Document.unique
      (spaced_sanitized.mpr (hd.spaced.mono MetadataScanner.separates_of_blank))
      (hwspaced.mono separates_of_isSpace) hw.symm
    exact ⟨d, rfl, congrArg (preparedOf serde) hsame⟩
  · -- nothing was replaced, so the text is that of a strict document after all
    rw [sanitize_other fun d hd htext => hlenient ⟨d, hd, htext⟩] at hw
    exact absurd ⟨w, lenient_of_strict hwspaced hwstrings hwnesting, hw⟩ hlenient

theorem parse_acceptable (rfc : serde.Rfc8259) {maxDepth : Nat} (h : Acceptable serde maxDepth d) :
    parseStrictJson serde positiveFinite d.text maxDepth = .ok (handedValue serde d) := by
  refine parse_eq_ok.mpr ⟨?_, (handed serde d).text, ?_, ?_, ?_⟩
  · rw [exceedsDepth_text (h.spaced.mono separates_of_isSpace)]
    exact decide_eq_false (not_lt.mpr h.nesting)
  · exact prepare_strict positiveFinite h.spaced h.strings (h.nesting.trans (min_le_right _ _))
  · exact (visit_document rfc (h.readable rfc)).mpr ⟨distinct_handed.mpr h.distinct, rfl⟩
  · exact (rfc.reads _ (h.readable rfc)).2

/-- What is accepted is an acceptable document. -/
theorem acceptable_of_parse (rfc : serde.Rfc8259) {maxDepth : Nat} {j : Json}
    (hfit : (bytes.length : Int) ≤ i64Max)
    (h : parseStrictJson serde positiveFinite bytes maxDepth = .ok j) :
    ∃ d, d.text = bytes ∧ Acceptable serde maxDepth d ∧ handedValue serde d = j := by
  obtain ⟨hdeep, prepared, hprepared, hvisit, htrailing⟩ := parse_eq_ok.mp h
  obtain ⟨e, he, rfl⟩ := rfc.only prepared (visit_complete _ hvisit) htrailing
  obtain ⟨d, rfl, rfl⟩ := prepare_strict_back positiveFinite he hprepared
  obtain ⟨hdistinct, hj⟩ := (visit_document rfc he).mp hvisit
  have hspaced := spaced_handed.mp he.spaced
  refine ⟨d, rfl, ⟨hspaced, strings_handed.mp he.strings, distinct_handed.mp hdistinct, ?_, ?_⟩, hj⟩
  · rw [exceedsDepth_text (hspaced.mono separates_of_isSpace)] at hdeep
    exact not_lt.mp (of_decide_eq_false hdeep)
  · rintro ⟨below, n⟩ hn rfl
    have hhanded : serde.Represents (rewriteNumber n) := by
      refine he.numbers (false, rewriteNumber n) ?_
      rw [numbers_handed]
      exact List.mem_map_of_mem hn
    have hlength := d.value.length_number false hn
    refine represents_of_rewrite rfc ?_ hhanded
    simp only [Document.text, List.length_append] at hfit
    omega

/-! ## 5. Documents without unrepresentable numbers -/

/-- The number a token is read as: the exact safe integer it stands for, or what the library makes
    of it. -/
def canonicalNumber (serde : SerdeJson) (n : JsonNumber) : Number :=
  (exactInteger n).elim (serde.numberOf n) .posInt

theorem numberOf_rewrite (rfc : serde.Rfc8259) (hfit : (n.text.length : Int) ≤ i64Max) :
    serde.numberOf (rewriteNumber n) = canonicalNumber serde n := by
  have hexact : (DecimalToken.parse n.text).bind DecimalToken.safeInteger = exactInteger n := by
    ext k
    have hstands : StandsFor n.text k ↔ n.value = k ∧ k ≤ 9007199254740991 :=
      ⟨fun ⟨m, htext, hm⟩ => number_ext htext ▸ hm, fun h => ⟨n, rfl, h⟩⟩
    rw [← standsFor_iff hfit k, hstands, exactInteger_eq_some]
  unfold rewriteNumber canonicalNumber
  rw [hexact]
  cases hk : exactInteger n with
  | none => rfl
  | some k =>
      rw [Option.elim_some, Option.elim_some, SerdeJson.numberOf, JsonNumber.text_ofNat,
        rfc.integer k (exactInteger_eq_some.mp hk).2]
      rfl

/-- Where every number is in range, nothing is replaced. -/
theorem sanitized_self
    (h : ∀ p ∈ d.value.numbers serde.marks false, serde.Represents p.2) : sanitized serde d = d := by
  obtain ⟨before, v, after⟩ := d
  refine congrArg (Document.mk before · after) (v.renumber_self false fun p hp => ?_)
  have hnone : (serde.number p.2.text).isNone = false := by
    have hp := h p hp
    rwa [SerdeJson.Represents, ← Option.not_isNone, Bool.not_eq_true'] at hp
  rw [MetadataScanner.sanitizeNumber, hnone, Bool.and_false]
  rfl

theorem handedValue_eq (rfc : serde.Rfc8259) (hfit : (d.text.length : Int) ≤ i64Max)
    (h : ∀ p ∈ d.value.numbers serde.marks false, serde.Represents p.2) :
    handedValue serde d = d.value.json (canonicalNumber serde) serde.decoded := by
  rw [handedValue, handed, sanitized_self h, preparedOf, Document.renumber]
  have hnumbers : ∀ p ∈ d.value.numbers serde.marks false,
      serde.numberOf (rewriteNumber p.2) = canonicalNumber serde p.2 := by
    intro p hp
    have hlength := d.value.length_number false hp
    simp only [Document.text, List.length_append] at hfit
    exact numberOf_rewrite rfc (by omega)
  exact (d.value.json_renumber false).trans (d.value.json_congr false hnumbers)

/-! ## 6. The reader -/

/-- **Sanitisation never changes meaning.** The metadata scanner writes every text as it is, but for
    the number tokens of a document that stand below a member named `metadata` and that the library
    has no number for. A text is accepted exactly when it is that of an acceptable document; and
    where every number is in range its value is the library's, the exact safe integers in their
    canonical form. -/
theorem sanitisation_keeps_meaning (rfc : serde.Rfc8259) :
    (∀ bytes : List UInt8, sanitizeOutOfRangeMetadataNumbers serde bytes = bytes ∨
      ∃ d, Lenient serde d ∧ d.text = bytes ∧
        sanitizeOutOfRangeMetadataNumbers serde bytes = (sanitized serde d).text) ∧
    (∀ (bytes : Slice) (maxDepth : Nat),
      (∃ j, parseStrictJson serde positiveFinite bytes.bytes maxDepth = .ok j) ↔
        ∃ d, d.text = bytes.bytes ∧ Acceptable serde maxDepth d) ∧
    ∀ (bytes : Slice) (maxDepth : Nat) (d : Document), d.text = bytes.bytes →
      Acceptable serde maxDepth d →
      (∀ p ∈ d.value.numbers serde.marks false, serde.Represents p.2) →
        visit serde bytes.bytes (serde.read bytes.bytes) =
            .ok (d.value.json serde.numberOf serde.decoded) ∧
        parseStrictJson serde positiveFinite bytes.bytes maxDepth =
            .ok (d.value.json (canonicalNumber serde) serde.decoded) := by
  refine ⟨fun bytes => ?_, fun bytes maxDepth => ⟨?_, ?_⟩, fun bytes maxDepth d htext hd hall => ?_⟩
  · by_cases h : ∃ d, Lenient serde d ∧ d.text = bytes
    · obtain ⟨d, hd, rfl⟩ := h
      exact .inr ⟨d, hd, rfl, sanitize_lenient hd⟩
    · exact .inl (sanitize_other fun d hd htext => h ⟨d, hd, htext⟩)
  · rintro ⟨j, hj⟩
    obtain ⟨d, htext, hd, _⟩ := acceptable_of_parse positiveFinite rfc bytes.fits hj
    exact ⟨d, htext, hd⟩
  · rintro ⟨d, htext, hd⟩
    rw [← htext]
    exact ⟨_, parse_acceptable positiveFinite rfc hd⟩
  · have hfit := bytes.fits
    rw [← htext] at hfit ⊢
    have hreadable : serde.Readable d :=
      ⟨hd.spaced, hd.strings, hd.nesting.trans (min_le_right _ _), hall⟩
    refine ⟨(visit_document rfc hreadable).mpr ⟨hd.distinct, rfl⟩, ?_⟩
    rw [parse_acceptable positiveFinite rfc hd, handedValue_eq rfc hfit hall]

/-! ### A library at work -/

/-- Strings without escapes, safe integers, and what it reads found by its grammar. -/
def plainLexis : SerdeJson where
  string := fun token =>
    if token.all fun b => 32 ≤ b.toNat && b.toNat < 128 && b ≠ 92 then
      some (String.ofList ((token.drop 1).dropLast.map fun b => Char.ofNat b.toNat))
    else none
  number := fun token =>
    if (token.length : Int) ≤ i64Max then
      ((DecimalToken.parse token).bind DecimalToken.safeInteger).map .posInt
    else some (.posInt 0)
  read := fun _ => .failed "expected value"
  trailing := fun _ => none
  located := fun _ message => message

open Classical in
noncomputable def plainJson : SerdeJson :=
  { plainLexis with
    read := fun text =>
      if h : ∃ d, plainLexis.Readable d ∧ d.text = text then plainLexis.reading h.choose.value
      else .failed "expected value" }

theorem plainLexis_number {token : List UInt8} {n : Number} (h : plainLexis.number token = some n) :
    ∃ k, n = .posInt k := by
  unfold plainLexis at h
  simp only at h
  split at h
  · obtain ⟨k, _, rfl⟩ := Option.map_eq_some_iff.mp h
    exact ⟨k, rfl⟩
  · exact ⟨0, (Option.some.inj h).symm⟩

mutual

theorem reading_plain : ∀ v : Value, plainJson.reading v = plainLexis.reading v
  | .literal l => by cases l <;> rfl
  | .number _ | .string _ | .emptyArray _ | .emptyObject _ => rfl
  | .array items => congrArg (Reading.seq · none) (elements_plain items)
  | .object fields => congrArg (Reading.map · none) (entries_plain fields)

theorem elements_plain : ∀ items : Items, plainJson.elements items = plainLexis.elements items
  | .last _ value _ => congrArg (· :: []) (reading_plain value)
  | .more _ value _ rest => congrArg₂ List.cons (reading_plain value) (elements_plain rest)

theorem entries_plain : ∀ fields : Fields, plainJson.entries fields = plainLexis.entries fields
  | .last _ key _ _ value _ => congrArg (fun r => [(plainLexis.decoded key, r)]) (reading_plain value)
  | .more _ key _ _ value _ rest =>
      congrArg₂ (fun r rs => (plainLexis.decoded key, r) :: rs) (reading_plain value) (entries_plain rest)

end

theorem plainJson_rfc8259 : plainJson.Rfc8259 where
  reads := by
    intro d hd
    have hd' : plainLexis.Readable d := ⟨hd.spaced, hd.strings, hd.nesting, hd.numbers⟩
    have hex : ∃ e, plainLexis.Readable e ∧ e.text = d.text := ⟨d, hd', rfl⟩
    have hsame : hex.choose = d :=
      Document.unique (hex.choose_spec.1.spaced.mono separates_of_isSpace)
        (hd.spaced.mono separates_of_isSpace) hex.choose_spec.2
    have hread : plainJson.read d.text = plainLexis.reading hex.choose.value := dif_pos hex
    rw [hsame, ← reading_plain] at hread
    exact ⟨hread, rfl⟩
  only := by
    intro text hcomplete _
    by_cases hex : ∃ e, plainLexis.Readable e ∧ e.text = text
    · obtain ⟨e, he, htext⟩ := hex
      exact ⟨e, ⟨he.spaced, he.strings, he.nesting, he.numbers⟩, htext⟩
    · have hfailed : plainJson.read text = .failed "expected value" := dif_neg hex
      rw [hfailed] at hcomplete
      exact hcomplete.elim
  finite := fun token bits h => by
    obtain ⟨k, hk⟩ := plainLexis_number h
    cases hk
  negative := fun token n h => by
    obtain ⟨k, hk⟩ := plainLexis_number h
    cases hk
  inRange := by
    intro token k h
    show (plainLexis.number token).isSome = true
    unfold plainLexis
    simp only
    split
    · rename_i hfit
      rw [(standsFor_iff hfit k).mp h]
      rfl
    · rfl
  integer := by
    intro k hk
    show plainLexis.number (decimal k) = some (.posInt k)
    have hlength := length_decimal_le hk
    have hfit : ((decimal k).length : Int) ≤ i64Max := by
      simp only [i64Max]
      omega
    have hstands : StandsFor (decimal k) k :=
      ⟨JsonNumber.ofNat k, JsonNumber.text_ofNat k, JsonNumber.value_ofNat k, hk⟩
    unfold plainLexis
    simp only [if_pos hfit, (standsFor_iff hfit k).mp hstands]
    rfl

/-- `{"metadata":1e9999}`. -/
def hugeMetadata : Document where
  before := []
  value := .object (.last [] ⟨[109, 101, 116, 97, 100, 97, 116, 97],
    (splitBody_eq_some (show splitBody ([109, 101, 116, 97, 100, 97, 116, 97] ++ [34]) =
      some ([109, 101, 116, 97, 100, 97, 116, 97], []) by decide)).1⟩ [] []
    (.number ⟨false, [49], [], some ⟨101, .bare, [57, 57, 57, 57], .inl rfl, by simp; decide, by decide⟩,
      .positive (by decide) (by decide) allDigits_nil, allDigits_nil⟩) [])
  after := []

/-- `{"n":7.0}`. -/
def wholeSeven : Document where
  before := []
  value := .object (.last [] ⟨[110], .plain (by decide) (by decide) .nil⟩ [] []
    (.number ⟨false, [55], [48], none, .positive (by decide) (by decide) allDigits_nil, by simp; decide⟩)
    [])
  after := []

theorem string_plain (q : Quoted) : plainJson.string q.text = plainLexis.string q.text := rfl

theorem number_plain (n : JsonNumber) : plainJson.number n.text = plainLexis.number n.text := rfl

theorem hugeMetadata_acceptable : Acceptable plainJson 16 hugeMetadata where
  spaced := by simp [hugeMetadata, Document.Spaced, Value.Spaced, Fields.Spaced, Gap]
  strings := by
    simp only [hugeMetadata, Value.Strings, Fields.Strings, SerdeJson.Decodes, string_plain, and_true]
    decide
  distinct := by simp [hugeMetadata, Value.Distinct, Fields.Distinct, Fields.keys]
  nesting := by decide
  numbers := by
    intro p hp hbelow
    rw [List.mem_singleton.mp hp] at hbelow
    simp only [SerdeJson.marks, string_plain] at hbelow
    exact absurd hbelow (by decide)

theorem wholeSeven_numbers : ∀ p ∈ wholeSeven.value.numbers plainJson.marks false,
    plainJson.Represents p.2 := by
  intro p hp
  rw [List.mem_singleton.mp hp]
  simp only [SerdeJson.Represents, number_plain]
  decide

theorem wholeSeven_acceptable : Acceptable plainJson 16 wholeSeven where
  spaced := by simp [wholeSeven, Document.Spaced, Value.Spaced, Fields.Spaced, Gap]
  strings := by
    simp only [wholeSeven, Value.Strings, Fields.Strings, SerdeJson.Decodes, string_plain, and_true]
    decide
  distinct := by simp [wholeSeven, Value.Distinct, Fields.Distinct, Fields.keys]
  nesting := by decide
  numbers := fun p hp _ => wholeSeven_numbers p hp

/-- The number below `metadata` is accepted, and `7.0` is read as `7`. -/
theorem metadata_number_accepted :
    (∃ j, parseStrictJson plainJson (fun _ => true) hugeMetadata.text 16 = .ok j) ∧
    parseStrictJson plainJson (fun _ => true) wholeSeven.text 16 =
      .ok (.obj [("n", .num (.posInt 7))]) := by
  obtain ⟨_, haccepts, hvalue⟩ := sanitisation_keeps_meaning (fun _ => true) plainJson_rfc8259
  constructor
  · exact (haccepts ⟨hugeMetadata.text, by decide⟩ 16).mpr
      ⟨hugeMetadata, rfl, hugeMetadata_acceptable⟩
  · have hseven := hvalue ⟨wholeSeven.text, by decide⟩ 16 wholeSeven rfl wholeSeven_acceptable
      wholeSeven_numbers
    refine hseven.2.trans ?_
    have hn : exactInteger ⟨false, [55], [48], none, .positive (by decide) (by decide) allDigits_nil,
        by simp; decide⟩ = some 7 := by
      refine exactInteger_eq_some.mpr ⟨?_, by decide⟩
      have hmagnitude : coefficient [55, 48] = 70 := by decide
      norm_num [JsonNumber.value, JsonNumber.magnitude, JsonNumber.scale, JsonNumber.exponentValue,
        hmagnitude]
    simp only [wholeSeven, Value.json, Fields.insertInto, canonicalNumber, hn, SerdeJson.decoded,
      string_plain]
    decide

end Aios
