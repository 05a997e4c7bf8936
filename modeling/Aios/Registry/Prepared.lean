/-
  File:      Aios/Registry/Prepared.lean
  Subject:   What `prepare_numbers` does to a document under the integer profile.

  A document is read as lexemes (`Lib.Lexed`). The preparation maps every lexeme on its own
  (`prepareNumbers_textOf`): a number token that stands for a natural number up to `2^53 - 1`
  becomes its decimal, every other lexeme keeps its bytes. The image is again the reading of a
  text (`Lexed.rewriteLexeme`), so a second preparation finds the same tokens.
-/
import Aios.Lib.Except
import Aios.Registry.Numbers

namespace Aios

open Lib

/-! ## 1. The rewriting of a token -/

/-- The bytes a token is replaced by. -/
def rewriteToken (token : List UInt8) : List UInt8 :=
  ((DecimalToken.parse token).bind DecimalToken.safeInteger).elim token decimal

def rewriteLexeme : Lexeme → Lexeme
  | .token bytes => .token (rewriteToken bytes)
  | l => l

theorem safeInteger_le {d : DecimalToken} {k : Nat} (h : d.safeInteger = some k) :
    k ≤ 9007199254740991 := by
  unfold DecimalToken.safeInteger at h
  split at h
  · cases h
    decide
  · split at h
    · simp at h
    · simp only [Option.bind_eq_bind, Option.bind_eq_some_iff] at h
      obtain ⟨_, -, _, -, _, -, hlast⟩ := h
      exact (bounded_eq_some.mp hlast).2

theorem length_decimal_le {k : Nat} (h : k ≤ 9007199254740991) : (decimal k).length ≤ 16 := by
  rw [decimal, List.length_map]
  exact (Nat.length_toDigits_le_iff (by decide) (by decide)).mpr (by omega)

/-- **The decimal of a safe integer is read back as that integer.** -/
theorem rewriteToken_decimal {k : Nat} (h : k ≤ 9007199254740991) :
    rewriteToken (decimal k) = decimal k := by
  have hlen := length_decimal_le h
  have htext := JsonNumber.text_ofNat k
  have hfit : ((JsonNumber.ofNat k).text.length : Int) ≤ i64Max := by
    rw [htext]
    simp only [i64Max]
    omega
  have hparse := parse_complete (JsonNumber.ofNat k) (by simp [JsonNumber.ofNat, i64Max])
  have hsafe := (safeInteger_tokenOf (JsonNumber.ofNat k) hfit k).mpr
    ⟨JsonNumber.value_ofNat k, h⟩
  rw [htext] at hparse
  simp [rewriteToken, hparse, hsafe]

/-- A token keeps its bytes, or becomes the decimal of a safe integer. -/
theorem rewriteToken_cases (token : List UInt8) :
    rewriteToken token = token ∨ ∃ k ≤ 9007199254740991, rewriteToken token = decimal k := by
  unfold rewriteToken
  cases h : (DecimalToken.parse token).bind DecimalToken.safeInteger with
  | none => exact .inl rfl
  | some k =>
    obtain ⟨d, -, hd⟩ := Option.bind_eq_some_iff.mp h
    exact .inr ⟨k, safeInteger_le hd, rfl⟩

theorem rewriteToken_rewriteToken (token : List UInt8) :
    rewriteToken (rewriteToken token) = rewriteToken token := by
  rcases rewriteToken_cases token with h | ⟨k, hk, h⟩
  · rw [h, h]
  · rw [h, rewriteToken_decimal hk]

theorem rewriteLexeme_rewriteLexeme (l : Lexeme) :
    rewriteLexeme (rewriteLexeme l) = rewriteLexeme l := by
  cases l <;> simp [rewriteLexeme, rewriteToken_rewriteToken]

/-! ## 2. The reading of a prepared document -/

theorem isDigit_not_delimiter {b : UInt8} (h : isDigit b = true) : isDelimiter b = false :=
  startsNumber_not_delimiter (by simp [startsNumber, h])

/-- A rewritten token is again a token. -/
theorem rewriteToken_token {b : UInt8} {rest : List UInt8} (hstart : startsNumber b = true)
    (hrest : ∀ x ∈ rest, isDelimiter x = false) :
    ∃ c tail, rewriteToken (b :: rest) = c :: tail ∧ startsNumber c = true ∧
      ∀ x ∈ tail, isDelimiter x = false := by
  rcases rewriteToken_cases (b :: rest) with h | ⟨k, -, h⟩
  · exact ⟨b, rest, h, hstart, hrest⟩
  · obtain ⟨c, tail, hdecimal⟩ := List.exists_cons_of_ne_nil (decimal_ne_nil k)
    have hall := allDigits_decimal k
    rw [hdecimal] at h hall
    obtain ⟨hc, htail⟩ := allDigits_cons.mp hall
    exact ⟨c, tail, h, by simp [startsNumber, hc], fun x hx => isDigit_not_delimiter (htail x hx)⟩

/-- The rewriting leaves the byte after a token alone. -/
theorem delimited_rewrite {ls : List Lexeme} (h : Lexed ls) (hend : Delimited (textOf ls)) :
    Delimited (textOf (ls.map rewriteLexeme)) := by
  cases h with
  | nil => exact hend
  | quoted | unclosed | other => simpa [Delimited, Lexeme.text, rewriteLexeme] using hend
  | token hstart =>
    have hdelimiter := hend _ rfl
    simp [startsNumber_not_delimiter hstart] at hdelimiter

/-- **A prepared document is read as the rewritten lexemes.** -/
theorem lexed_rewrite {ls : List Lexeme} (h : Lexed ls) : Lexed (ls.map rewriteLexeme) := by
  induction h with
  | nil => exact .nil
  | quoted hbody _ ih => exact .quoted hbody ih
  | unclosed hbody => exact .unclosed hbody
  | token hstart hrest hend hls ih =>
    obtain ⟨c, tail, heq, hc, htail⟩ := rewriteToken_token hstart hrest
    simp only [List.map_cons, rewriteLexeme, heq]
    exact .token hc htail (delimited_rewrite hls hend) ih
  | other hquote hnumber _ ih => exact .other hquote hnumber ih

/-! ## 3. The scan -/

section
variable (positiveFinite : List UInt8 → Bool) {profile : NumberProfile}

/-- Inside a string every byte is copied, up to the quote that closes it. -/
theorem prepareLoop_body {body : List UInt8} (h : Body body) (rest : List UInt8) :
    prepareLoop positiveFinite profile true false (body ++ 34 :: rest) = do
      let tail ← prepareLoop positiveFinite profile false false rest
      return body ++ 34 :: tail := by
  induction h with
  | nil => simp [prepareLoop]
  | plain hquote hslash _ ih => simp [prepareLoop, hquote, hslash, ih]
  | escaped b _ ih => simp [prepareLoop, ih]

/-- A string that nothing closes is copied to the end of the text. -/
theorem prepareLoop_open {body : List UInt8} (h : OpenBody body) :
    prepareLoop positiveFinite profile true false body = .ok body := by
  have key : ∀ {body : List UInt8}, Body body → ∀ tail,
      prepareLoop positiveFinite profile true false tail = .ok tail →
      prepareLoop positiveFinite profile true false (body ++ tail) = .ok (body ++ tail) := by
    intro body h tail htail
    induction h with
    | nil => simpa using htail
    | plain hquote hslash _ ih =>
      simp only [List.cons_append, prepareLoop, if_true, Bool.false_eq_true, if_false,
        if_neg hquote, if_neg hslash, ih]
      rfl
    | escaped b _ ih =>
      simp only [List.cons_append, prepareLoop, if_true, Bool.false_eq_true, if_false, ih]
      rfl
  cases h with
  | closed h => simpa using key h [] (by simp [prepareLoop])
  | slash h =>
    refine key h [92] ?_
    simp only [prepareLoop, if_true, Bool.false_eq_true, if_false]
    rfl

/-- What a lexeme is written as. -/
def prepareLexeme (profile : NumberProfile) : Lexeme → Except String (List UInt8)
  | .token token => do
    let integer ← replacement positiveFinite profile token
    return integer.elim token decimal
  | l => .ok l.text

/-- **The preparation goes over the lexemes of a document, one by one.** -/
theorem prepareNumbers_lexed {ls : List Lexeme} (h : Lexed ls) :
    prepareNumbers positiveFinite (textOf ls) profile = do
      let parts ← ls.mapM (prepareLexeme positiveFinite profile)
      return parts.flatten := by
  unfold prepareNumbers
  induction h with
  | nil => rw [textOf_nil, prepareLoop]; rfl
  | quoted hbody _ ih =>
    simp [prepareLoop, Lexeme.text, prepareLexeme, prepareLoop_body positiveFinite hbody, ih, ok_bind]
  | unclosed hbody =>
    simp [prepareLoop, Lexeme.text, prepareLexeme, prepareLoop_open positiveFinite hbody]
  | @token b rest ls hstart hrest hend _ ih =>
    obtain ⟨htake, hdrop⟩ := takeWhile_token hrest hend
    have hnumber : (decide (b = 45) || isDigit b) = true := hstart
    rw [textOf_cons, Lexeme.text, List.cons_append, prepareLoop]
    simp only [Bool.false_eq_true, if_false, if_neg (startsNumber_ne_quote hstart), hnumber,
      if_true, htake, hdrop, ih]
    simp [prepareLexeme]
  | @other b ls hquote hnumber _ ih =>
    have hnot : (decide (b = 45) || isDigit b) = false := hnumber
    rw [textOf_cons, Lexeme.text, List.cons_append, prepareLoop]
    simp only [Bool.false_eq_true, if_false, if_neg hquote, hnot, List.nil_append, ih]
    simp [prepareLexeme, Lexeme.text, ok_bind]

theorem prepareLexeme_irIntegers (l : Lexeme) :
    prepareLexeme positiveFinite .irIntegers l = .ok (rewriteLexeme l).text := by
  cases l with
  | token token =>
      simp only [prepareLexeme, replacement, rewriteLexeme, Lexeme.text, rewriteToken]
      cases DecimalToken.parse token <;> rfl
  | quoted | unclosed | other => rfl

/-- **The preparation rewrites the lexemes of a document.** -/
theorem prepareNumbers_textOf {ls : List Lexeme} (h : Lexed ls) :
    prepareNumbers positiveFinite (textOf ls) .irIntegers =
      .ok (textOf (ls.map rewriteLexeme)) := by
  have hparts : ls.mapM (prepareLexeme positiveFinite .irIntegers) =
      .ok (ls.map fun l => (rewriteLexeme l).text) := by
    rw [mapM_ok, List.forall₂_map_right_iff]
    exact List.forall₂_same.mpr fun l _ => prepareLexeme_irIntegers positiveFinite l
  rw [prepareNumbers_lexed positiveFinite h, hparts, ok_bind, textOf, List.flatMap_def, List.map_map]
  rfl

/-! ## 4. Exact integers -/

/-- The token stands for the natural number `k`, which a binary64 holds exactly. -/
def StandsFor (token : List UInt8) (k : Nat) : Prop :=
  ∃ n : JsonNumber, n.text = token ∧ n.value = k ∧ k ≤ 9007199254740991

/-- What becomes of a token: the decimal of the safe integer it stands for, else its own bytes. -/
def Canonicalized (token result : List UInt8) : Prop :=
  (∃ k, StandsFor token k ∧ result = decimal k) ∨ ((¬∃ k, StandsFor token k) ∧ result = token)

/-- What becomes of a lexeme: only number tokens change. -/
inductive Prepared : Lexeme → Lexeme → Prop where
  | quoted (body : List UInt8) : Prepared (.quoted body) (.quoted body)
  | unclosed (body : List UInt8) : Prepared (.unclosed body) (.unclosed body)
  | other (b : UInt8) : Prepared (.other b) (.other b)
  | token {token result : List UInt8} (h : Canonicalized token result) :
      Prepared (.token token) (.token result)

theorem standsFor_iff {token : List UInt8} (hfit : (token.length : Int) ≤ i64Max) (k : Nat) :
    StandsFor token k ↔ (DecimalToken.parse token).bind DecimalToken.safeInteger = some k := by
  constructor
  · rintro ⟨n, rfl, hvalue⟩
    have hlength := n.digits_length_le
    rw [parse_complete n (by omega), Option.bind_some]
    exact (safeInteger_tokenOf n hfit k).mpr hvalue
  · intro h
    obtain ⟨d, hd, hsafe⟩ := Option.bind_eq_some_iff.mp h
    obtain ⟨n, rfl⟩ := parse_sound hd
    have hlength := n.digits_length_le
    rw [parse_complete n (by omega), Option.some.injEq] at hd
    subst hd
    exact ⟨n, rfl, (safeInteger_tokenOf n hfit k).mp hsafe⟩

theorem canonicalized_rewriteToken {token : List UInt8} (hfit : (token.length : Int) ≤ i64Max) :
    Canonicalized token (rewriteToken token) := by
  unfold rewriteToken
  cases h : (DecimalToken.parse token).bind DecimalToken.safeInteger with
  | some k => exact .inl ⟨k, (standsFor_iff hfit k).mpr h, rfl⟩
  | none =>
    refine .inr ⟨?_, rfl⟩
    rintro ⟨k, hk⟩
    rw [standsFor_iff hfit k, h] at hk
    simp at hk

theorem prepared_rewriteLexeme {l : Lexeme} (hfit : (l.text.length : Int) ≤ i64Max) :
    Prepared l (rewriteLexeme l) := by
  cases l with
  | quoted body => exact .quoted body
  | unclosed body => exact .unclosed body
  | other b => exact .other b
  | token bytes => exact .token (canonicalized_rewriteToken hfit)

theorem length_text_le {l : Lexeme} {ls : List Lexeme} (h : l ∈ ls) :
    l.text.length ≤ (textOf ls).length := by
  obtain ⟨before, after, rfl⟩ := List.append_of_mem h
  simp only [textOf, List.flatMap_append, List.flatMap_cons, List.length_append]
  omega

theorem prepared_textOf {ls : List Lexeme} (hfit : ((textOf ls).length : Int) ≤ i64Max) :
    List.Forall₂ Prepared ls (ls.map rewriteLexeme) := by
  rw [List.forall₂_map_right_iff]
  refine List.forall₂_same.mpr fun l hl => prepared_rewriteLexeme ?_
  have := length_text_le hl
  omega

/-- **No loop runs past sixteen digits**, whatever the exponent. -/
theorem window_bounded {d : DecimalToken} {digits kept : List UInt8} {zeros : Nat}
    (h : d.window digits = some (kept, zeros)) : kept.length + zeros ≤ 16 ∧ kept.Sublist digits := by
  simp only [DecimalToken.window, Option.bind_eq_bind, Option.bind_eq_some_iff] at h
  obtain ⟨len, hlen, h⟩ := h
  obtain ⟨hfit, rfl⟩ : (digits.length : Int) ≤ i64Max ∧ len = digits.length := by
    simpa [i64OfLen, and_comm, eq_comm] using hlen
  generalize hscale : saturate (d.exponent - d.fraction) = scale at h
  by_cases hin : 1 ≤ saturate (digits.length + scale) ∧ saturate (digits.length + scale) ≤ 16
  · rw [if_neg (not_not.mpr hin)] at h
    simp only [saturate, i64Max, i64Min] at hin hfit
    by_cases hneg : scale < 0
    · rw [if_pos hneg] at h
      split at h
      · simp at h
      · split at h
        · simp at h
        · split at h
          · simp at h
          · simp only [Option.some.injEq, Prod.mk.injEq] at h
            obtain ⟨rfl, rfl⟩ := h
            refine ⟨?_, List.take_sublist _ _⟩
            rw [List.length_take]
            omega
    · rw [if_neg hneg] at h
      simp only [Option.some.injEq, Prod.mk.injEq] at h
      obtain ⟨rfl, rfl⟩ := h
      exact ⟨by omega, .refl _⟩
  · rw [if_pos hin] at h
    simp at h

/-- **The scanner's integer admission is exact.** A token is parsed exactly when it is a number of
    the grammar; the safe integer it gives is its exact value; its loops read at most sixteen
    digits and never overflow; and the preparation changes the number tokens that stand for a safe
    integer, to its decimal, and nothing else, so that preparing again changes nothing. -/
theorem exact_integer_admission :
    (∀ token : Slice, (DecimalToken.parse token.bytes).isSome = true ↔
      ∃ n : JsonNumber, n.text = token.bytes) ∧
    (∀ (token : Slice) (n : JsonNumber) (d : DecimalToken), n.text = token.bytes →
      DecimalToken.parse token.bytes = some d →
      (∀ k, d.safeInteger = some k ↔ n.value = k ∧ k ≤ 9007199254740991) ∧
      d.exponent = max (-i64Max) (min n.exponentValue i64Max) ∧ d.fraction = n.fraction.length ∧
      (∀ kept zeros, d.window (d.digits.dropWhile (· = 48)) = some (kept, zeros) →
        kept.length + zeros ≤ 16 ∧ DecimalToken.digitLoop 0 kept = some (coefficient kept) ∧
        DecimalToken.zeroLoop (coefficient kept) zeros = some (coefficient kept * 10 ^ zeros))) ∧
    (∀ bytes : Slice, ∃ read result, Lexed read ∧ textOf read = bytes.bytes ∧
      (∀ other, Lexed other → textOf other = bytes.bytes → other = read) ∧
      List.Forall₂ Prepared read result ∧
      prepareNumbers positiveFinite bytes.bytes .irIntegers = .ok (textOf result)) ∧
    (∀ bytes result : List UInt8, prepareNumbers positiveFinite bytes .irIntegers = .ok result →
      prepareNumbers positiveFinite result .irIntegers = .ok result) := by
  refine ⟨fun token => ⟨?_, ?_⟩, ?_, ?_, ?_⟩
  · intro h
    obtain ⟨d, hd⟩ := Option.isSome_iff_exists.mp h
    exact parse_sound hd
  · rintro ⟨n, hn⟩
    have hfit := token.fits
    have hlength := n.digits_length_le
    rw [← hn] at hfit ⊢
    rw [parse_complete n (by omega)]
    rfl
  · rintro ⟨_, hfit⟩ n d rfl hparse
    simp only at hfit hparse
    have hlength := n.digits_length_le
    rw [parse_complete n (by omega), Option.some.injEq] at hparse
    subst hparse
    refine ⟨safeInteger_tokenOf n hfit, exponent_tokenOf n, rfl, fun kept zeros hwindow => ?_⟩
    obtain ⟨hbound, hsub⟩ := window_bounded hwindow
    have hall : AllDigits (n.whole ++ n.fraction) :=
      allDigits_append.mpr ⟨n.whole_ok.allDigits, n.fraction_ok⟩
    have hkept : AllDigits kept := hall.sublist (hsub.trans (List.dropWhile_sublist _))
    exact ⟨hbound, DecimalToken.loops_eq hkept hbound⟩
  · intro bytes
    obtain ⟨read, hread, htext⟩ := exists_lexed bytes.bytes
    have hfit := bytes.fits
    rw [← htext] at hfit ⊢
    exact ⟨read, read.map rewriteLexeme, hread, rfl, fun other hother heq => hother.unique hread heq,
      prepared_textOf hfit, prepareNumbers_textOf positiveFinite hread⟩
  · intro bytes result h
    obtain ⟨read, hread, rfl⟩ := exists_lexed bytes
    rw [prepareNumbers_textOf positiveFinite hread, Except.ok.injEq] at h
    rw [← h, prepareNumbers_textOf positiveFinite (lexed_rewrite hread), List.map_map]
    congr 3
    funext l
    exact rewriteLexeme_rewriteLexeme l

end

end Aios
