/-
  File:      Aios/Lib/Lexeme.lean
  Subject:   THE LEXEMES OF A JSON TEXT: strings, number tokens, and every other byte.

  A scanner that treats strings and number tokens apart from the rest needs no grammar of values.
  `Lexed` says which sequences of lexemes are the reading of a text; every text has one
  (`exists_lexed`) and no second one (`Lexed.unique`).

  A string ends at the first quote no backslash precedes; a number token starts with a minus or a
  digit and runs up to whitespace, a comma or a closing bracket.
-/
import Aios.Lib.Decimal
import Mathlib.Data.List.TakeWhile

namespace Lib

/-! ## 1. Bytes -/

def isQuote (b : UInt8) : Bool := b = 34

/-- A minus or a digit. -/
def startsNumber (b : UInt8) : Bool := b = 45 || isDigit b

/-- Space, tab, carriage return, line feed, comma, closing bracket, closing brace. -/
def isDelimiter (b : UInt8) : Bool :=
  b = 32 || b = 9 || b = 13 || b = 10 || b = 44 || b = 93 || b = 125

theorem startsNumber_not_delimiter {b : UInt8} (h : startsNumber b = true) :
    isDelimiter b = false := by
  by_contra hd
  have hb := b.toNat_lt
  simp only [startsNumber, isDelimiter, isDigit, Bool.or_eq_true, decide_eq_true_eq,
    Bool.and_eq_true, Bool.not_eq_false] at h hd
  rcases hd with (((((rfl | rfl) | rfl) | rfl) | rfl) | rfl) | rfl <;> revert h <;> decide

theorem startsNumber_ne_quote {b : UInt8} (h : startsNumber b = true) : b ≠ 34 := by
  rintro rfl
  exact absurd h (by decide)

/-- What follows a number token: nothing, or a delimiter. -/
def Delimited (rest : List UInt8) : Prop := ∀ b ∈ rest.head?, isDelimiter b = true

theorem delimited_dropWhile (bytes : List UInt8) :
    Delimited (bytes.dropWhile fun x => !isDelimiter x) := by
  intro x hx
  have hhead := List.head?_dropWhile_not (fun x => !isDelimiter x) bytes
  rw [Option.mem_def.mp hx] at hhead
  simpa using hhead

theorem takeWhile_token {token rest : List UInt8} (htoken : ∀ x ∈ token, isDelimiter x = false)
    (hend : Delimited rest) :
    (token ++ rest).takeWhile (fun x => !isDelimiter x) = token ∧
      (token ++ rest).dropWhile (fun x => !isDelimiter x) = rest := by
  have hall : ∀ x ∈ token, (!isDelimiter x) = true := by simpa using htoken
  rw [List.takeWhile_append_of_pos hall, List.dropWhile_append_of_pos hall]
  cases rest with
  | nil => simp
  | cons b rest =>
    have hb : isDelimiter b = true := hend b rfl
    simp [hb]

/-! ## 2. The inside of a string -/

/-- The bytes between two quotes: a backslash takes the byte after it along. -/
inductive Body : List UInt8 → Prop where
  | nil : Body []
  | plain {b : UInt8} {rest : List UInt8} (hquote : b ≠ 34) (hslash : b ≠ 92) (h : Body rest) :
      Body (b :: rest)
  | escaped {rest : List UInt8} (b : UInt8) (h : Body rest) : Body (92 :: b :: rest)

/-- The bytes after a quote that nothing closes: the text may end in a backslash. -/
inductive OpenBody : List UInt8 → Prop where
  | closed {body : List UInt8} (h : Body body) : OpenBody body
  | slash {body : List UInt8} (h : Body body) : OpenBody (body ++ [92])

/-- Splits off the inside of a string; `none` when no quote closes it. -/
def splitBody : List UInt8 → Option (List UInt8 × List UInt8)
  | [] => none
  | b :: rest =>
    if b = 34 then some ([], rest)
    else if b = 92 then
      match rest with
      | [] => none
      | c :: rest => (splitBody rest).map fun r => (b :: c :: r.1, r.2)
    else (splitBody rest).map fun r => (b :: r.1, r.2)

@[simp] theorem splitBody_quote (rest : List UInt8) : splitBody (34 :: rest) = some ([], rest) := by
  unfold splitBody
  rfl

@[simp] theorem splitBody_escaped (b : UInt8) (rest : List UInt8) :
    splitBody (92 :: b :: rest) = (splitBody rest).map fun r => (92 :: b :: r.1, r.2) := by
  simp [splitBody]

theorem splitBody_plain {b : UInt8} (hquote : b ≠ 34) (hslash : b ≠ 92) (rest : List UInt8) :
    splitBody (b :: rest) = (splitBody rest).map fun r => (b :: r.1, r.2) := by
  rw [splitBody.eq_def]
  simp [hquote, hslash]

theorem splitBody_append {body : List UInt8} (h : Body body) (rest : List UInt8) :
    splitBody (body ++ 34 :: rest) = some (body, rest) := by
  induction h with
  | nil => simp
  | plain hquote hslash _ ih => simp [splitBody_plain hquote hslash, ih]
  | escaped b _ ih => simp [ih]

theorem splitBody_open {body : List UInt8} (h : OpenBody body) : splitBody body = none := by
  have key : ∀ {body : List UInt8}, Body body → ∀ tail, splitBody tail = none →
      splitBody (body ++ tail) = none := by
    intro body h tail htail
    induction h with
    | nil => simpa using htail
    | plain hquote hslash _ ih => simp [splitBody_plain hquote hslash, ih]
    | escaped b _ ih => simp [ih]
  cases h with
  | closed h => simpa using key h [] rfl
  | slash h => exact key h [92] (by simp [splitBody])

/-- **A split gives back the inside, the quote that closes it and the rest.** -/
theorem splitBody_eq_some {bytes body rest : List UInt8} (h : splitBody bytes = some (body, rest)) :
    Body body ∧ bytes = body ++ 34 :: rest := by
  fun_induction splitBody bytes generalizing body with
  | case1 => simp at h
  | case2 tail => simp_all [Body.nil]
  | case3 => simp at h
  | case4 c tail hquote ih =>
    obtain ⟨⟨inner, after⟩, hr, heq⟩ := Option.map_eq_some_iff.mp h
    simp only [Prod.mk.injEq] at heq
    obtain ⟨rfl, rfl⟩ := heq
    obtain ⟨hbody, htail⟩ := ih hr
    exact ⟨Body.escaped c hbody, by rw [htail]; rfl⟩
  | case5 b tail hquote hslash ih =>
    obtain ⟨⟨inner, after⟩, hr, heq⟩ := Option.map_eq_some_iff.mp h
    simp only [Prod.mk.injEq] at heq
    obtain ⟨rfl, rfl⟩ := heq
    obtain ⟨hbody, htail⟩ := ih hr
    exact ⟨Body.plain hquote hslash hbody, by rw [htail]; rfl⟩

theorem openBody_of_splitBody {bytes : List UInt8} (h : splitBody bytes = none) :
    OpenBody bytes := by
  fun_induction splitBody bytes with
  | case1 => exact .closed .nil
  | case2 tail => simp at h
  | case3 => exact .slash .nil
  | case4 c tail hquote ih =>
    cases ih (Option.map_eq_none_iff.mp h) with
    | closed hbody => exact .closed (.escaped c hbody)
    | slash hbody => exact .slash (.escaped c hbody)
  | case5 b tail hquote hslash ih =>
    cases ih (Option.map_eq_none_iff.mp h) with
    | closed hbody => exact .closed (.plain hquote hslash hbody)
    | slash hbody => exact .slash (.plain hquote hslash hbody)

/-! ## 3. Lexemes -/

/-- A string, a string the text ends in, a number token, or one other byte. -/
inductive Lexeme where
  | quoted (body : List UInt8)
  | unclosed (body : List UInt8)
  | token (bytes : List UInt8)
  | other (b : UInt8)
  deriving DecidableEq, Repr

def Lexeme.text : Lexeme → List UInt8
  | .quoted body => 34 :: (body ++ [34])
  | .unclosed body => 34 :: body
  | .token bytes => bytes
  | .other b => [b]

def textOf (lexemes : List Lexeme) : List UInt8 := lexemes.flatMap Lexeme.text

@[simp] theorem textOf_nil : textOf [] = [] := rfl

@[simp] theorem textOf_cons (l : Lexeme) (ls : List Lexeme) :
    textOf (l :: ls) = l.text ++ textOf ls := rfl

/-- **How a text falls apart into lexemes.** -/
inductive Lexed : List Lexeme → Prop where
  | nil : Lexed []
  | quoted {body : List UInt8} {ls : List Lexeme} (hbody : Body body) (h : Lexed ls) :
      Lexed (.quoted body :: ls)
  | unclosed {body : List UInt8} (hbody : OpenBody body) : Lexed [.unclosed body]
  | token {b : UInt8} {rest : List UInt8} {ls : List Lexeme} (hstart : startsNumber b = true)
      (hrest : ∀ x ∈ rest, isDelimiter x = false) (hend : Delimited (textOf ls)) (h : Lexed ls) :
      Lexed (.token (b :: rest) :: ls)
  | other {b : UInt8} {ls : List Lexeme} (hquote : b ≠ 34) (hnumber : startsNumber b = false)
      (h : Lexed ls) : Lexed (.other b :: ls)

/-- **Every text falls apart into lexemes.** -/
theorem exists_lexed (bytes : List UInt8) : ∃ ls, Lexed ls ∧ textOf ls = bytes := by
  induction hn : bytes.length using Nat.strong_induction_on generalizing bytes with
  | _ n ih =>
  cases bytes with
  | nil => exact ⟨[], .nil, rfl⟩
  | cons b rest =>
    simp only [List.length_cons] at hn
    by_cases hquote : b = 34
    · subst hquote
      cases hs : splitBody rest with
      | none => exact ⟨[.unclosed rest], .unclosed (openBody_of_splitBody hs), by simp [Lexeme.text]⟩
      | some r =>
        obtain ⟨hbody, hrest⟩ := splitBody_eq_some hs
        have hlen := congrArg List.length hrest
        simp only [List.length_append, List.length_cons] at hlen
        obtain ⟨ls, hls, htext⟩ := ih r.2.length (by omega) r.2 rfl
        exact ⟨.quoted r.1 :: ls, .quoted hbody hls, by simp [Lexeme.text, htext, hrest]⟩
    · by_cases hnumber : startsNumber b = true
      · let tail := rest.dropWhile fun x => !isDelimiter x
        have hlen : tail.length ≤ rest.length := List.length_dropWhile_le _ rest
        obtain ⟨ls, hls, htext⟩ := ih tail.length (by omega) tail rfl
        refine ⟨.token (b :: rest.takeWhile fun x => !isDelimiter x) :: ls,
          .token hnumber (fun x hx => ?_) ?_ hls, ?_⟩
        · simpa using List.mem_takeWhile_imp hx
        · rw [htext]
          exact delimited_dropWhile rest
        · simp [Lexeme.text, htext, tail]
      · obtain ⟨ls, hls, htext⟩ := ih rest.length (by omega) rest rfl
        exact ⟨.other b :: ls, .other hquote (by simpa using hnumber) hls,
          by simp [Lexeme.text, htext]⟩

/-- **A text has one reading.** -/
theorem Lexed.unique {a b : List Lexeme} (ha : Lexed a) (hb : Lexed b)
    (htext : textOf a = textOf b) : a = b := by
  induction ha generalizing b with
  | nil => cases hb <;> simp [Lexeme.text] at htext ⊢
  | @quoted body ls hbody _ ih =>
    cases hb with
    | nil => simp [Lexeme.text] at htext
    | @quoted body' ls' hbody' hls' =>
      simp only [textOf_cons, Lexeme.text, List.cons_append, List.append_assoc, List.nil_append,
        List.cons.injEq, true_and] at htext
      have hsplit := splitBody_append hbody (textOf ls)
      rw [htext, splitBody_append hbody', Option.some.injEq, Prod.mk.injEq] at hsplit
      rw [ih hls' hsplit.2.symm, hsplit.1]
    | unclosed hopen =>
      simp only [textOf_cons, Lexeme.text, List.cons_append, List.append_assoc, List.nil_append,
        List.cons.injEq, true_and, textOf_nil, List.append_nil] at htext
      have hsplit := splitBody_append hbody (textOf ls)
      simp [htext, splitBody_open hopen] at hsplit
    | token hstart =>
      simp only [textOf_cons, Lexeme.text, List.cons_append, List.cons.injEq] at htext
      exact absurd htext.1.symm (startsNumber_ne_quote hstart)
    | other hquote =>
      simp only [textOf_cons, Lexeme.text, List.cons_append, List.cons.injEq] at htext
      exact absurd htext.1.symm hquote
  | @unclosed body hopen =>
    cases hb with
    | nil => simp [Lexeme.text] at htext
    | @quoted body' ls' hbody' _ =>
      simp only [textOf_cons, Lexeme.text, List.cons_append, List.append_assoc, List.nil_append,
        List.cons.injEq, true_and, textOf_nil, List.append_nil] at htext
      have hsplit := splitBody_append hbody' (textOf ls')
      simp [← htext, splitBody_open hopen] at hsplit
    | unclosed _ => simpa [Lexeme.text] using htext
    | token hstart =>
      simp only [textOf_cons, Lexeme.text, List.cons_append, List.cons.injEq] at htext
      exact absurd htext.1.symm (startsNumber_ne_quote hstart)
    | other hquote =>
      simp only [textOf_cons, Lexeme.text, List.cons_append, List.cons.injEq] at htext
      exact absurd htext.1.symm hquote
  | @token c rest ls hstart hrest hend _ ih =>
    cases hb with
    | nil => simp [Lexeme.text] at htext
    | quoted | unclosed =>
      simp only [textOf_cons, Lexeme.text, List.cons_append, List.cons.injEq] at htext
      exact absurd htext.1 (startsNumber_ne_quote hstart)
    | @token c' rest' ls' _ hrest' hend' hls' =>
      simp only [textOf_cons, Lexeme.text, List.cons_append, List.cons.injEq] at htext
      obtain ⟨htake, hdrop⟩ := takeWhile_token hrest hend
      obtain ⟨htake', hdrop'⟩ := takeWhile_token hrest' hend'
      rw [← htext.2] at htake' hdrop'
      rw [htext.1, ih hls' (hdrop.symm.trans hdrop'), htake.symm.trans htake']
    | other _ hnumber =>
      simp only [textOf_cons, Lexeme.text, List.cons_append, List.cons.injEq] at htext
      rw [← htext.1, hstart] at hnumber
      exact absurd hnumber (by simp)
  | @other c ls hquote hnumber _ ih =>
    cases hb with
    | nil => simp [Lexeme.text] at htext
    | quoted | unclosed =>
      simp only [textOf_cons, Lexeme.text, List.cons_append, List.cons.injEq] at htext
      exact absurd htext.1 hquote
    | token hstart =>
      simp only [textOf_cons, Lexeme.text, List.cons_append, List.cons.injEq] at htext
      rw [htext.1, hstart] at hnumber
      exact absurd hnumber (by simp)
    | other _ _ hls' =>
      simp only [textOf_cons, Lexeme.text, List.cons_append, List.nil_append,
        List.cons.injEq] at htext
      rw [htext.1, ih hls' htext.2]

end Lib
