/-
  File:      Aios/Registry/Numbers.lean
  Subject:   Lexical number handling before any conversion (`aios-registry/src/numbers.rs`).

  A token is read by position; here the scan carries the bytes still to be read, which is the same
  position. `i64` arithmetic saturates (`saturate`), `u64` arithmetic is checked (`checkedMul`,
  `checkedAdd`). The binary64 conversion of a tolerance is a parameter: whether
  `token.parse::<f64>()` gives a finite value above zero.
-/
import Aios.Lib.Lexeme

namespace Aios

open Lib

/-! ## 1. Machine arithmetic -/

def i64Max : Int := 9223372036854775807

def i64Min : Int := -9223372036854775808

/-- The nearest `i64`. -/
def saturate (x : Int) : Int := max i64Min (min x i64Max)

/-- `i64::try_from(n).ok()`, for a length. -/
def i64OfLen (n : Nat) : Option Int := if (n : Int) ≤ i64Max then some n else none

def checkedMul (a b : Nat) : Option Nat := if a * b < 2 ^ 64 then some (a * b) else none

def checkedAdd (a b : Nat) : Option Nat := if a + b < 2 ^ 64 then some (a + b) else none

/-! ## 2. Tokens -/

structure DecimalToken where
  negative : Bool
  digits : List UInt8
  fraction : Int
  exponent : Int
  deriving DecidableEq, Repr

/-- The whole part and what follows it: `0` alone, or digits that do not start with it. -/
def wholePart (bytes : List UInt8) : Option (List UInt8 × List UInt8) :=
  match bytes with
  | [] => none
  | b :: rest =>
    if b = 48 then some ([b], rest)
    else if isDigit b then
      some (bytes.takeWhile isDigit, bytes.dropWhile isDigit)
    else none

/-- The fraction digits after a point; no point, no digits. -/
def fractionPart (bytes : List UInt8) : Option (List UInt8 × List UInt8) :=
  match bytes with
  | 46 :: rest =>
    let digits := rest.takeWhile isDigit
    if digits = [] then none else some (digits, rest.dropWhile isDigit)
  | _ => some ([], bytes)

/-- The exponent after its mark, accumulated without overflow. -/
def exponentDigits (digits : List UInt8) : Int :=
  digits.foldl (fun exponent b => saturate (saturate (exponent * 10) + digitVal b)) 0

/-- The exponent and what follows it; no mark, exponent zero. -/
def exponentPart (bytes : List UInt8) : Option (Int × List UInt8) :=
  match bytes with
  | [] => some (0, [])
  | b :: rest =>
    if b = 101 ∨ b = 69 then
      let negativeExponent := rest.head? = some 45
      let rest := if rest.head? = some 43 ∨ rest.head? = some 45 then rest.tail else rest
      let digits := rest.takeWhile isDigit
      if digits = [] then none
      else
        let exponent := exponentDigits digits
        some (if negativeExponent then -exponent else exponent, rest.dropWhile isDigit)
    else some (0, bytes)

namespace DecimalToken

def parse (token : List UInt8) : Option DecimalToken := do
  let negative : Bool := token.head? = some 45
  let start := if negative then token.tail else token
  let (whole, rest) ← wholePart start
  let (fractionDigits, rest) ← fractionPart rest
  let fraction ← i64OfLen fractionDigits.length
  let (exponent, rest) ← exponentPart rest
  if rest = [] then
    some { negative, digits := whole ++ fractionDigits, fraction, exponent }
  else none

def isZero (t : DecimalToken) : Bool := t.digits.all (· = 48)

/-- The digits that are kept and the number of zeros that follow them: at most sixteen digits. -/
def window (t : DecimalToken) (digits : List UInt8) : Option (List UInt8 × Nat) := do
  let scale := saturate (t.exponent - t.fraction)
  let length := saturate ((← i64OfLen digits.length) + scale)
  if ¬(1 ≤ length ∧ length ≤ 16) then none
  else if scale < 0 then
    -- `checked_neg` refuses the one `i64` without a negation
    if scale = i64Min then none
    else
      let removed := (-scale).toNat
      if digits.length < removed then none
      else
        let kept := digits.length - removed
        if (digits.drop kept).any (· ≠ 48) then none else some (digits.take kept, 0)
  else some (digits, scale.toNat)

/-- The digit loop, with checked arithmetic. -/
def digitLoop : Nat → List UInt8 → Option Nat
  | value, [] => some value
  | value, b :: rest => do
    let value ← checkedMul value 10
    let value ← checkedAdd value (digitVal b)
    digitLoop value rest

/-- `for _ in 0..zeros { value = value.checked_mul(10)?; }`. -/
def zeroLoop : Nat → Nat → Option Nat
  | value, 0 => some value
  | value, zeros + 1 => do
    let value ← checkedMul value 10
    zeroLoop value zeros

/-- The value of a token that is exactly a natural number up to `2^53 - 1`. -/
def safeInteger (t : DecimalToken) : Option Nat :=
  match t.digits.dropWhile (· = 48) with
  | [] => some 0
  | first :: rest =>
    if t.negative then none
    else do
      let (kept, zeros) ← t.window (first :: rest)
      let value ← digitLoop 0 kept
      let value ← zeroLoop value zeros
      if value ≤ 9007199254740991 then some value else none

end DecimalToken

/-! ## 3. Documents -/

inductive NumberProfile where
  | irIntegers
  | registryTolerance
  deriving DecidableEq, Repr

section
variable (positiveFinite : List UInt8 → Bool)

/-- The integer a token is replaced by, if any. -/
def replacement (profile : NumberProfile) (token : List UInt8) : Except String (Option Nat) :=
  match DecimalToken.parse token with
  | none => .ok none
  | some number =>
    match profile with
    | .irIntegers => .ok number.safeInteger
    | .registryTolerance =>
      if number.isZero then .ok (some 0)
      else if number.negative || !positiveFinite token then
        .error "registry tolerance must be nonnegative and finite, without nonzero underflow"
      else .ok none

/-- The scan of `prepare_numbers`, from the flags and the bytes still to be read. -/
def prepareLoop (profile : NumberProfile) (inString escaped : Bool) :
    List UInt8 → Except String (List UInt8)
  | [] => .ok []
  | byte :: rest =>
    if inString then do
      let tail ←
        if escaped then prepareLoop profile inString false rest
        else if byte = 92 then prepareLoop profile inString true rest
        else if byte = 34 then prepareLoop profile false escaped rest
        else prepareLoop profile inString escaped rest
      return byte :: tail
    else if byte = 34 then do
      let tail ← prepareLoop profile true escaped rest
      return byte :: tail
    else if byte = 45 || isDigit byte then do
      let token := byte :: rest.takeWhile fun b => !isDelimiter b
      let integer ← replacement positiveFinite profile token
      let tail ← prepareLoop profile inString escaped (rest.dropWhile fun b => !isDelimiter b)
      return (integer.elim token decimal) ++ tail
    else do
      let tail ← prepareLoop profile inString escaped rest
      return byte :: tail
termination_by bytes => bytes.length
decreasing_by
  all_goals simp only [List.length_cons]
  all_goals first
    | omega
    | exact Nat.lt_succ_of_le (List.length_dropWhile_le _ rest)

def prepareNumbers (bytes : List UInt8) (profile : NumberProfile) : Except String (List UInt8) :=
  prepareLoop positiveFinite profile false false bytes

end

/-! ## 4. What a scan of digits reads -/

/-- No digit stands at the front. -/
def NoDigit (rest : List UInt8) : Prop := ∀ b ∈ rest.head?, isDigit b = false

@[simp] theorem noDigit_nil : NoDigit [] := by simp [NoDigit]

@[simp] theorem noDigit_cons {b : UInt8} {rest : List UInt8} :
    NoDigit (b :: rest) ↔ isDigit b = false := by simp [NoDigit]

theorem allDigits_takeWhile (bytes : List UInt8) : AllDigits (bytes.takeWhile isDigit) :=
  fun _ hx => List.mem_takeWhile_imp hx

theorem takeWhile_digits {ds rest : List UInt8} (hds : AllDigits ds) (hrest : NoDigit rest) :
    (ds ++ rest).takeWhile isDigit = ds ∧ (ds ++ rest).dropWhile isDigit = rest := by
  rw [List.takeWhile_append_of_pos hds, List.dropWhile_append_of_pos hds]
  cases rest with
  | nil => simp
  | cons b rest => simp [noDigit_cons.mp hrest]

theorem wholePart_sound {bytes whole rest : List UInt8}
    (h : wholePart bytes = some (whole, rest)) : Whole whole ∧ bytes = whole ++ rest := by
  cases bytes with
  | nil => simp [wholePart] at h
  | cons b tail =>
    simp only [wholePart] at h
    by_cases hzero : b = 48
    · rw [if_pos hzero, Option.some.injEq, Prod.mk.injEq] at h
      obtain ⟨rfl, rfl⟩ := h
      exact ⟨hzero ▸ Whole.zero, rfl⟩
    · rw [if_neg hzero] at h
      by_cases hb : isDigit b = true
      · rw [if_pos hb, Option.some.injEq, Prod.mk.injEq, List.takeWhile_cons_of_pos hb] at h
        obtain ⟨rfl, rfl⟩ := h
        refine ⟨Whole.positive hb hzero (allDigits_takeWhile tail), ?_⟩
        rw [← List.takeWhile_cons_of_pos (p := isDigit) hb, List.takeWhile_append_dropWhile]
      · simp [hb] at h

theorem wholePart_complete {whole rest : List UInt8} (h : Whole whole) (hrest : NoDigit rest) :
    wholePart (whole ++ rest) = some (whole, rest) := by
  cases h with
  | zero => simp [wholePart]
  | @positive b ds hb hne hds =>
    obtain ⟨htake, hdrop⟩ := takeWhile_digits (allDigits_cons.mpr ⟨hb, hds⟩) hrest
    simp only [List.cons_append] at htake hdrop ⊢
    simp only [wholePart, if_neg hne, hb, if_true, htake, hdrop]

theorem fractionPart_sound {bytes digits rest : List UInt8}
    (h : fractionPart bytes = some (digits, rest)) :
    AllDigits digits ∧ bytes = JsonNumber.fractionText digits ++ rest := by
  unfold fractionPart at h
  split at h
  · rename_i tail
    simp only at h
    split at h
    · simp at h
    · rename_i hne
      simp only [Option.some.injEq, Prod.mk.injEq] at h
      obtain ⟨rfl, rfl⟩ := h
      refine ⟨allDigits_takeWhile tail, ?_⟩
      rw [JsonNumber.fractionText, if_neg hne, List.cons_append, List.takeWhile_append_dropWhile]
  · simp only [Option.some.injEq, Prod.mk.injEq] at h
    obtain ⟨rfl, rfl⟩ := h
    exact ⟨allDigits_nil, rfl⟩

theorem fractionPart_complete {digits rest : List UInt8} (h : AllDigits digits)
    (hrest : NoDigit rest) (hpoint : rest.head? ≠ some 46) :
    fractionPart (JsonNumber.fractionText digits ++ rest) = some (digits, rest) := by
  by_cases hne : digits = []
  · subst hne
    simp only [JsonNumber.fractionText, if_true, List.nil_append]
    unfold fractionPart
    split
    · simp at hpoint
    · rfl
  · obtain ⟨htake, hdrop⟩ := takeWhile_digits h hrest
    simp only [JsonNumber.fractionText, if_neg hne, List.cons_append, fractionPart, htake, hdrop]

/-- **The exponent loop gives the exponent, or the greatest `i64` when that is smaller.** -/
theorem exponentDigits_eq {digits : List UInt8} (h : AllDigits digits) :
    exponentDigits digits = min (coefficient digits : Int) i64Max := by
  induction digits using List.reverseRecOn with
  | nil => rfl
  | append_singleton ds b ih =>
    obtain ⟨hds, hb⟩ := allDigits_append.mp h
    have hlt := digitVal_lt (allDigits_cons.mp hb).1
    rw [exponentDigits, List.foldl_append, ← exponentDigits, ih hds, coefficient_snoc]
    simp only [List.foldl_cons, List.foldl_nil, saturate, i64Max, i64Min]
    push_cast
    omega

/-- The exponent the machine keeps for a written one. -/
def keptExponent (e : Exponent) : Int := max (-i64Max) (min e.value i64Max)

theorem exponentPart_sound {bytes rest : List UInt8} {exponent : Int}
    (h : exponentPart bytes = some (exponent, rest)) :
    ∃ e : Option Exponent, bytes = (e.map Exponent.text).getD [] ++ rest := by
  unfold exponentPart at h
  split at h
  · simp only [Option.some.injEq, Prod.mk.injEq] at h
    exact ⟨none, by simp [← h.2]⟩
  · rename_i b tail
    by_cases hmark : b = 101 ∨ b = 69
    · rw [if_pos hmark] at h
      simp only at h
      have hsign : ∃ sign : ExponentSign, tail = sign.text ++
          (if tail.head? = some 43 ∨ tail.head? = some 45 then tail.tail else tail) := by
        cases tail with
        | nil => exact ⟨.bare, rfl⟩
        | cons c tail =>
          by_cases hplus : c = 43
          · exact ⟨.plus, by simp [hplus, ExponentSign.text]⟩
          · by_cases hminus : c = 45
            · exact ⟨.minus, by simp [hminus, ExponentSign.text]⟩
            · exact ⟨.bare, by simp [hplus, hminus, ExponentSign.text]⟩
      obtain ⟨sign, hsign⟩ := hsign
      generalize (if tail.head? = some 43 ∨ tail.head? = some 45 then tail.tail else tail) = after
        at h hsign
      split at h
      · simp at h
      · rename_i hne
        simp only [Option.some.injEq, Prod.mk.injEq] at h
        obtain ⟨-, rfl⟩ := h
        refine ⟨some ⟨b, sign, after.takeWhile isDigit, hmark, allDigits_takeWhile after, hne⟩, ?_⟩
        simp only [Option.map_some, Option.getD_some, Exponent.text, List.cons_append,
          List.append_assoc, List.takeWhile_append_dropWhile]
        rw [← hsign]
    · rw [if_neg hmark] at h
      simp only [Option.some.injEq, Prod.mk.injEq] at h
      exact ⟨none, by simp [← h.2]⟩

theorem exponentPart_complete (e : Option Exponent) :
    exponentPart ((e.map Exponent.text).getD []) = some ((e.map keptExponent).getD 0, []) := by
  cases e with
  | none => rfl
  | some e =>
    obtain ⟨b, sign, digits, hmark, hdigits, hne⟩ := e
    obtain ⟨htake, hdrop⟩ := takeWhile_digits hdigits noDigit_nil
    rw [List.append_nil] at htake hdrop
    obtain ⟨d, ds, rfl⟩ := List.exists_cons_of_ne_nil hne
    have hd : d ≠ 43 ∧ d ≠ 45 := by
      have hdigit := (allDigits_cons.mp hdigits).1
      exact ⟨by rintro rfl; exact absurd hdigit (by decide),
        by rintro rfl; exact absurd hdigit (by decide)⟩
    have hnonneg : (0 : Int) ≤ coefficient (d :: ds) := Int.natCast_nonneg _
    cases sign <;>
      simp [exponentPart, Exponent.text, ExponentSign.text, hmark, hd.1, hd.2, htake, hdrop,
        exponentDigits_eq hdigits, keptExponent, Exponent.value, i64Max]
    all_goals omega

/-! ## 5. A token is a number -/

/-- What the machine keeps of a number. -/
def tokenOf (n : JsonNumber) : DecimalToken where
  negative := n.negative
  digits := n.whole ++ n.fraction
  fraction := n.fraction.length
  exponent := (n.exponent.map keptExponent).getD 0

/-- The bytes a signless number starts with. -/
theorem head?_whole {whole : List UInt8} (h : Whole whole) (rest : List UInt8) :
    (whole ++ rest).head? ≠ some 45 := by
  cases h with
  | zero => simp
  | positive hb _ _ =>
    simp only [List.cons_append, List.head?_cons, ne_eq, Option.some.injEq]
    rintro rfl
    exact absurd hb (by decide)

theorem head?_exponent (e : Option Exponent) :
    ∀ b ∈ ((e.map Exponent.text).getD []).head?, b = 101 ∨ b = 69 := by
  intro b hb
  cases e with
  | none => simp at hb
  | some e =>
    simp only [Option.map_some, Option.getD_some, Exponent.text, List.head?_cons,
      Option.mem_some_iff] at hb
    exact hb ▸ e.mark_ok

/-- **A number is parsed to what the machine keeps of it.** -/
theorem parse_complete (n : JsonNumber) (hfit : (n.fraction.length : Int) ≤ i64Max) :
    DecimalToken.parse n.text = some (tokenOf n) := by
  have hexp := head?_exponent n.exponent
  have hnodigit : NoDigit ((n.exponent.map Exponent.text).getD []) := by
    intro b hb
    rcases hexp b hb with rfl | rfl <;> decide
  have hpoint : ((n.exponent.map Exponent.text).getD []).head? ≠ some 46 := by
    intro h46
    rcases hexp 46 h46 with h | h <;> exact absurd h (by decide)
  have hfraction : NoDigit (JsonNumber.fractionText n.fraction ++
      (n.exponent.map Exponent.text).getD []) := by
    unfold JsonNumber.fractionText
    split
    · simpa using hnodigit
    · exact noDigit_cons.mpr (by decide)
  have hwhole := wholePart_complete n.whole_ok hfraction
  have hhead := head?_whole n.whole_ok (JsonNumber.fractionText n.fraction ++
    (n.exponent.map Exponent.text).getD [])
  have hsign : decide (n.text.head? = some 45) = n.negative ∧
      (if n.negative = true then n.text.tail else n.text) = n.whole ++
        (JsonNumber.fractionText n.fraction ++ (n.exponent.map Exponent.text).getD []) := by
    rw [JsonNumber.text, List.append_assoc, List.append_assoc]
    generalize n.whole ++ _ = body at hhead ⊢
    cases n.negative with
    | true => simp
    | false => simpa using hhead
  simp [DecimalToken.parse, hsign.1, hsign.2, hwhole, i64OfLen, hfit, tokenOf,
    fractionPart_complete n.fraction_ok hnodigit hpoint, exponentPart_complete]

/-- **What is parsed is a number.** -/
theorem parse_sound {token : List UInt8} {d : DecimalToken}
    (h : DecimalToken.parse token = some d) : ∃ n : JsonNumber, n.text = token := by
  simp only [DecimalToken.parse, Option.bind_eq_bind, Option.bind_eq_some_iff] at h
  obtain ⟨⟨whole, rest⟩, hwhole, ⟨fraction, after⟩, hfraction, _, -, ⟨exponent, last⟩, hexp, hd⟩ := h
  simp only at hfraction hexp hd
  obtain ⟨hw, hstart⟩ := wholePart_sound hwhole
  obtain ⟨hf, hrest⟩ := fractionPart_sound hfraction
  obtain ⟨e, hafter⟩ := exponentPart_sound hexp
  have hlast : last = [] := by
    by_contra hne
    simp [hne] at hd
  rw [hlast, List.append_nil] at hafter
  rw [hrest, hafter] at hstart
  refine ⟨⟨decide (token.head? = some 45), whole, fraction, e, hw, hf⟩, ?_⟩
  simp only [JsonNumber.text, List.append_assoc, ← hstart]
  by_cases hneg : token.head? = some 45
  · obtain ⟨tail, rfl⟩ := List.head?_eq_some_iff.mp hneg
    simp
  · simp [hneg]

/-! ## 6. The window -/

/-- `&[u8]`: at most `isize::MAX` bytes. -/
structure Slice where
  bytes : List UInt8
  fits : (bytes.length : Int) ≤ i64Max

theorem exponent_tokenOf (n : JsonNumber) :
    (tokenOf n).exponent = max (-i64Max) (min n.exponentValue i64Max) := by
  cases hexp : n.exponent with
  | none => simp [tokenOf, JsonNumber.exponentValue, hexp, i64Max]
  | some e => simp [tokenOf, JsonNumber.exponentValue, hexp, keptExponent]

/-- **An exponent no `i64` holds takes nineteen digits, which the coefficient then lacks.** -/
theorem room_of_saturated (n : JsonNumber) (hfit : (n.text.length : Int) ≤ i64Max)
    (hsat : i64Max < n.exponentValue.natAbs) :
    (n.whole.length + n.fraction.length + 20 : Int) ≤ i64Max := by
  have hlength := n.digits_length_le
  cases hexp : n.exponent with
  | none => simp [JsonNumber.exponentValue, hexp, i64Max] at hsat
  | some e =>
    have habs : n.exponentValue.natAbs = coefficient e.digits := by
      simp only [JsonNumber.exponentValue, hexp, Option.map_some, Option.getD_some, Exponent.value]
      split <;> simp
    rw [habs] at hsat
    have hlt := coefficient_lt e.digits_ok
    have hdigits : 19 ≤ e.digits.length := by
      by_contra hshort
      have hpow : 10 ^ e.digits.length ≤ 10 ^ 18 := Nat.pow_le_pow_right (by decide) (by omega)
      simp only [i64Max] at hsat
      omega
    simp only [hexp, Option.map_some, Option.getD_some, Exponent.text, List.length_cons,
      List.length_append] at hlength
    omega

/-- **Saturation does not move the window**: inside it the scale is exact. -/
theorem window_exact {length fraction : Nat} {exponent : Int}
    (hlength : (length : Int) ≤ i64Max) (hfraction : (fraction : Int) ≤ i64Max) (hpos : 1 ≤ length)
    (hroom : i64Max < exponent.natAbs →
      (length + 20 : Int) ≤ i64Max ∧ (fraction + 20 : Int) ≤ i64Max) :
    let scale := saturate (max (-i64Max) (min exponent i64Max) - fraction)
    ((1 ≤ saturate (length + scale) ∧ saturate (length + scale) ≤ 16) ↔
      (1 ≤ length + (exponent - fraction) ∧ length + (exponent - fraction) ≤ 16)) ∧
    (1 ≤ length + (exponent - fraction) → length + (exponent - fraction) ≤ 16 →
      scale = exponent - fraction) := by
  simp only [saturate, i64Max, i64Min] at *
  omega

namespace DecimalToken

theorem checkedMul_eq {a b : Nat} (h : a * b < 2 ^ 64) : checkedMul a b = some (a * b) := if_pos h

theorem checkedAdd_eq {a b : Nat} (h : a + b < 2 ^ 64) : checkedAdd a b = some (a + b) := if_pos h

/-- The digit loop reads its digits onto the value, as long as the result fits. -/
theorem digitLoop_eq {digits : List UInt8} (h : AllDigits digits) (value : Nat)
    (hfit : value * 10 ^ digits.length + coefficient digits < 2 ^ 64) :
    digitLoop value digits = some (value * 10 ^ digits.length + coefficient digits) := by
  induction digits generalizing value with
  | nil => simp [digitLoop]
  | cons b rest ih =>
    obtain ⟨-, hrest⟩ := allDigits_cons.mp h
    have hpow : 1 ≤ 10 ^ rest.length := Nat.one_le_pow _ _ (by decide)
    have hsum : (value * 10 + digitVal b) * 10 ^ rest.length + coefficient rest =
        value * 10 ^ (b :: rest).length + coefficient (b :: rest) := by
      rw [coefficient_cons, List.length_cons, pow_succ]
      ring
    rw [← hsum] at hfit ⊢
    have hstep : value * 10 + digitVal b < 2 ^ 64 :=
      lt_of_le_of_lt (le_trans (Nat.le_mul_of_pos_right _ hpow) (Nat.le_add_right _ _)) hfit
    simp only [digitLoop, checkedMul_eq (show value * 10 < 2 ^ 64 by omega), checkedAdd_eq hstep,
      Option.bind_eq_bind, Option.bind_some]
    exact ih hrest _ hfit

theorem zeroLoop_eq (value zeros : Nat) (hfit : value * 10 ^ zeros < 2 ^ 64) :
    zeroLoop value zeros = some (value * 10 ^ zeros) := by
  induction zeros generalizing value with
  | zero => simp [zeroLoop]
  | succ zeros ih =>
    have hpow : 1 ≤ 10 ^ zeros := Nat.one_le_pow _ _ (by decide)
    have hsum : value * 10 * 10 ^ zeros = value * 10 ^ (zeros + 1) := by ring
    rw [← hsum] at hfit ⊢
    have hstep : value * 10 < 2 ^ 64 := lt_of_le_of_lt (Nat.le_mul_of_pos_right _ hpow) hfit
    simp only [zeroLoop, checkedMul_eq hstep, Option.bind_eq_bind, Option.bind_some]
    exact ih _ hfit

/-- **Sixteen digits never overflow.** -/
theorem loops_eq {kept : List UInt8} (h : AllDigits kept) {zeros : Nat}
    (hsixteen : kept.length + zeros ≤ 16) :
    digitLoop 0 kept = some (coefficient kept) ∧
      zeroLoop (coefficient kept) zeros = some (coefficient kept * 10 ^ zeros) := by
  have hlt := coefficient_lt h
  have hbound : coefficient kept * 10 ^ zeros < 2 ^ 64 := by
    calc coefficient kept * 10 ^ zeros < 10 ^ kept.length * 10 ^ zeros :=
          Nat.mul_lt_mul_of_pos_right hlt (by positivity)
      _ = 10 ^ (kept.length + zeros) := (pow_add ..).symm
      _ ≤ 10 ^ 16 := Nat.pow_le_pow_right (by decide) hsixteen
      _ < 2 ^ 64 := by norm_num
  have hkept : coefficient kept < 2 ^ 64 :=
    lt_of_le_of_lt (Nat.le_mul_of_pos_right _ (by positivity)) hbound
  refine ⟨?_, zeroLoop_eq _ _ hbound⟩
  simpa using digitLoop_eq h 0 (by simpa using hkept)

end DecimalToken

/-- **The window, in exact terms.** -/
theorem window_tokenOf (n : JsonNumber) (hfit : (n.text.length : Int) ≤ i64Max)
    {digits : List UInt8} (hpos : 1 ≤ digits.length)
    (hlength : digits.length ≤ n.whole.length + n.fraction.length) :
    (tokenOf n).window digits =
      if 1 ≤ digits.length + n.scale ∧ digits.length + n.scale ≤ 16 then
        if n.scale < 0 then
          if (digits.drop (digits.length - n.scale.natAbs)).any (· ≠ 48) then none
          else some (digits.take (digits.length - n.scale.natAbs), 0)
        else some (digits, n.scale.toNat)
      else none := by
  have htext := n.digits_length_le
  have hroom : i64Max < n.exponentValue.natAbs →
      (digits.length + 20 : Int) ≤ i64Max ∧ (n.fraction.length + 20 : Int) ≤ i64Max := by
    intro hsat
    have := room_of_saturated n hfit hsat
    omega
  obtain ⟨hwindow, hscale⟩ := window_exact (show (digits.length : Int) ≤ i64Max by omega)
    (show (n.fraction.length : Int) ≤ i64Max by omega) hpos hroom
  have hfraction : (tokenOf n).fraction = n.fraction.length := rfl
  rw [← JsonNumber.scale] at hwindow hscale
  simp only [DecimalToken.window, i64OfLen, exponent_tokenOf, hfraction, hwindow,
    if_pos (show (digits.length : Int) ≤ i64Max by omega), Option.bind_eq_bind, Option.bind_some]
  by_cases hin : 1 ≤ digits.length + n.scale ∧ digits.length + n.scale ≤ 16
  · have hmin : n.scale ≠ i64Min := by
      have hbig : (digits.length : Int) ≤ i64Max := by omega
      simp only [i64Min, i64Max] at hbig ⊢
      omega
    rw [hscale hin.1 hin.2, if_neg (not_not.mpr hin), if_pos hin]
    by_cases hneg : n.scale < 0
    · have habs : (-n.scale).toNat = n.scale.natAbs := by omega
      rw [if_pos hneg, if_pos hneg, if_neg hmin, habs, if_neg (by omega)]
    · rw [if_neg hneg, if_neg hneg]
  · rw [if_pos hin, if_neg hin]

/-- A window that is left empty holds no safe integer. -/
theorem not_scaled_of_outside {c length k : Nat} {scale : Int} (hlow : 10 ^ (length - 1) ≤ c)
    (hhigh : c < 10 ^ length) (hpos : 1 ≤ length)
    (hout : ¬(1 ≤ length + scale ∧ length + scale ≤ 16)) (hk : k ≤ 9007199254740991) :
    (c : ℚ) * 10 ^ scale ≠ k := by
  have hone : 1 ≤ 10 ^ (length - 1) := Nat.one_le_pow _ _ (by decide)
  have hk16 : k < 10 ^ 16 := lt_of_le_of_lt hk (by norm_num)
  by_cases hneg : scale < 0
  · rw [ne_eq, scaled_eq_iff_of_neg c k hneg]
    rintro rfl
    by_cases hsmall : length + scale < 1
    · -- a multiple of the power of ten is zero or too long
      have hpow : 10 ^ length ≤ 10 ^ scale.natAbs := Nat.pow_le_pow_right (by decide) (by omega)
      have hkpos : 1 ≤ k := by
        by_contra h0
        have : k = 0 := by omega
        simp only [this, Nat.zero_mul] at hlow
        omega
      have := Nat.le_mul_of_pos_left (10 ^ scale.natAbs) hkpos
      omega
    · have hpow : 10 ^ 16 * 10 ^ scale.natAbs ≤ 10 ^ (length - 1) := by
        rw [← pow_add]
        exact Nat.pow_le_pow_right (by decide) (by omega)
      have hlt : k * 10 ^ scale.natAbs < 10 ^ 16 * 10 ^ scale.natAbs :=
        Nat.mul_lt_mul_of_pos_right hk16 (by positivity)
      omega
  · rw [ne_eq, scaled_eq_iff_of_nonneg c k (by omega)]
    intro heq
    have hpow : 10 ^ 16 ≤ 10 ^ (length - 1) * 10 ^ scale.toNat := by
      rw [← pow_add]
      exact Nat.pow_le_pow_right (by decide) (by omega)
    have hle : 10 ^ (length - 1) * 10 ^ scale.toNat ≤ c * 10 ^ scale.toNat :=
      Nat.mul_le_mul_right _ hlow
    omega

/-- Trailing zeros are what a division by their power of ten leaves out. -/
theorem trimmed_iff {digits : List UInt8} (h : AllDigits digits) {removed k : Nat}
    (hle : removed ≤ digits.length) :
    coefficient digits = k * 10 ^ removed ↔
      (∀ b ∈ digits.drop (digits.length - removed), b = 48) ∧
        coefficient (digits.take (digits.length - removed)) = k := by
  have hsplit := coefficient_append (digits.take (digits.length - removed))
    (digits.drop (digits.length - removed))
  rw [List.take_append_drop] at hsplit
  have htail : AllDigits (digits.drop (digits.length - removed)) := h.sublist (List.drop_sublist _ _)
  have hlen : (digits.drop (digits.length - removed)).length = removed := by
    rw [List.length_drop]
    omega
  have hlt := coefficient_lt htail
  rw [hlen] at hsplit hlt
  rw [← coefficient_eq_zero_iff htail, hsplit]
  generalize coefficient (digits.take (digits.length - removed)) = front at *
  generalize coefficient (digits.drop (digits.length - removed)) = tail at *
  have hp : 0 < 10 ^ removed := by positivity
  constructor
  · intro heq
    have hmod := congrArg (· % 10 ^ removed) heq
    simp only [Nat.mul_add_mod_self_right, Nat.mul_mod_left, Nat.mod_eq_of_lt hlt] at hmod
    subst hmod
    exact ⟨rfl, Nat.eq_of_mul_eq_mul_right hp (by simpa using heq)⟩
  · rintro ⟨rfl, rfl⟩
    simp

theorem bounded_eq_some {value bound k : Nat} :
    (if value ≤ bound then some value else none) = some k ↔ value = k ∧ k ≤ bound := by
  by_cases h : value ≤ bound
  · rw [if_pos h, Option.some.injEq]
    exact ⟨fun heq => ⟨heq, heq ▸ h⟩, fun heq => heq.1⟩
  · rw [if_neg h]
    simp only [reduceCtorEq, false_iff, not_and]
    rintro rfl
    exact h

/-- **`safe_integer` gives exactly the natural number up to `2^53 - 1` the token stands for.** -/
theorem safeInteger_tokenOf (n : JsonNumber) (hfit : (n.text.length : Int) ≤ i64Max) (k : Nat) :
    (tokenOf n).safeInteger = some k ↔ n.value = k ∧ k ≤ 9007199254740991 := by
  have hall : AllDigits (n.whole ++ n.fraction) :=
    allDigits_append.mpr ⟨n.whole_ok.allDigits, n.fraction_ok⟩
  have hmag : coefficient ((n.whole ++ n.fraction).dropWhile (· = 48)) = n.magnitude :=
    coefficient_dropWhile _
  have hdigits : (tokenOf n).digits = n.whole ++ n.fraction := rfl
  unfold DecimalToken.safeInteger
  rw [hdigits]
  split
  · rename_i hnil
    rw [hnil, coefficient_nil] at hmag
    have hvalue : n.value = 0 := by simp [JsonNumber.value, ← hmag]
    rw [hvalue, Option.some.injEq]
    constructor
    · rintro rfl
      simp
    · rintro ⟨hk, -⟩
      exact_mod_cast hk
  · rename_i first rest hcons
    have hsub : (first :: rest).Sublist (n.whole ++ n.fraction) :=
      hcons ▸ List.dropWhile_sublist _
    have hds : AllDigits (first :: rest) := hall.sublist hsub
    have hfirst : first ≠ 48 := by
      have := List.head?_dropWhile_not (· = 48) (n.whole ++ n.fraction)
      rw [hcons] at this
      simpa using this
    have hlow : 10 ^ rest.length ≤ coefficient (first :: rest) :=
      le_coefficient (allDigits_cons.mp hds).1 hfirst
    have hhigh := coefficient_lt hds
    have hlen := hsub.length_le
    rw [List.length_append] at hlen
    rw [hcons] at hmag
    generalize hdigs : first :: rest = digits at *
    have hlength : digits.length - 1 = rest.length := by simp [← hdigs]
    have hpos : 1 ≤ digits.length := by simp [← hdigs]
    rw [← hlength] at hlow
    have hmagpos : 0 < n.magnitude := by
      have : 0 < 10 ^ (digits.length - 1) := by positivity
      omega
    cases hneg : n.negative with
    | true =>
      have hnegative : (tokenOf n).negative = true := hneg
      have hlt : n.value < 0 := by
        have : (0 : ℚ) < n.magnitude * 10 ^ n.scale := by positivity
        simp only [JsonNumber.value, hneg, if_true]
        linarith
      simp only [hnegative, if_true, reduceCtorEq, false_iff, not_and]
      intro hk
      have : (0 : ℚ) ≤ k := by positivity
      linarith
    | false =>
      have hnegative : (tokenOf n).negative = false := hneg
      have hvalue : n.value = n.magnitude * 10 ^ n.scale := by simp [JsonNumber.value, hneg]
      rw [hnegative, if_neg (by simp), window_tokenOf n hfit hpos hlen, hvalue, ← hmag]
      by_cases hin : 1 ≤ digits.length + n.scale ∧ digits.length + n.scale ≤ 16
      · rw [if_pos hin]
        by_cases hscale : n.scale < 0
        · rw [if_pos hscale, scaled_eq_iff_of_neg _ _ hscale, trimmed_iff hds (by omega)]
          have hkept : AllDigits (digits.take (digits.length - n.scale.natAbs)) :=
            hds.sublist (List.take_sublist _ _)
          obtain ⟨hloop, hzeros⟩ := DecimalToken.loops_eq hkept
            (show (digits.take (digits.length - n.scale.natAbs)).length + 0 ≤ 16 by
              rw [List.length_take]; omega)
          by_cases hzero : ∀ b ∈ digits.drop (digits.length - n.scale.natAbs), b = 48
          · have hany : (digits.drop (digits.length - n.scale.natAbs)).any (· ≠ 48) = false := by
              simpa using hzero
            rw [hany, if_neg (by simp)]
            simp only [Option.bind_eq_bind, Option.bind_some, hloop, hzeros, pow_zero, mul_one,
              bounded_eq_some]
            exact and_congr_left fun _ => (and_iff_right hzero).symm
          · have hany : (digits.drop (digits.length - n.scale.natAbs)).any (· ≠ 48) = true := by
              simpa using hzero
            rw [hany, if_pos rfl]
            simp [hzero]
        · rw [if_neg hscale, scaled_eq_iff_of_nonneg _ _ (by omega)]
          obtain ⟨hloop, hzeros⟩ := DecimalToken.loops_eq hds
            (show digits.length + n.scale.toNat ≤ 16 by omega)
          simp only [Option.bind_eq_bind, Option.bind_some, hloop, hzeros, bounded_eq_some]
      · rw [if_neg hin]
        have := not_scaled_of_outside (k := k) hlow hhigh hpos hin
        simp only [Option.bind_eq_bind, Option.bind_none, reduceCtorEq, false_iff, not_and]
        exact fun heq hk => this hk heq

end Aios
