/-
  File:      Aios/Lib/Decimal.lean
  Subject:   THE NUMBERS OF A JSON TEXT, as spellings and as exact rationals.

  `JsonNumber` is a spelling the number grammar of RFC 8259 derives: an optional minus, a whole
  part, an optional fraction, an optional exponent. Its bytes are `text`, the rational it stands
  for is `value`; both are total, so a spelling that is no number cannot be written down.

  * `coefficient` -- the natural number a run of digits stands for, with its bounds;
  * `decimal` -- the digits a natural number is printed with, the spelling with no leading zero;
  * `scaled_eq_iff_of_nonneg`, `scaled_eq_iff_of_neg` -- when a coefficient scaled by a power of ten is a natural number.
-/
import Mathlib.Data.Nat.Digits.Lemmas
import Mathlib.Algebra.Order.Field.Rat
import Mathlib.Algebra.Order.Field.Power
import Mathlib.Tactic.Positivity
import Mathlib.Tactic.NormNum
import Mathlib.Tactic.FieldSimp
import Mathlib.Tactic.Ring

namespace Lib

/-! ## 1. Digits -/

/-- `u8::is_ascii_digit`. -/
def isDigit (b : UInt8) : Bool := 48 ≤ b.toNat && b.toNat ≤ 57

def digitVal (b : UInt8) : Nat := b.toNat - 48

theorem isDigit_iff {b : UInt8} : isDigit b = true ↔ 48 ≤ b.toNat ∧ b.toNat ≤ 57 := by
  simp [isDigit]

theorem digitVal_lt {b : UInt8} (h : isDigit b = true) : digitVal b < 10 := by
  have := isDigit_iff.mp h
  unfold digitVal
  omega

theorem digitVal_eq_zero_iff {b : UInt8} (h : isDigit b = true) : digitVal b = 0 ↔ b = 48 := by
  have hb := isDigit_iff.mp h
  unfold digitVal
  constructor
  · intro h0
    apply UInt8.toNat_inj.mp
    change b.toNat = 48
    omega
  · rintro rfl
    rfl

/-- Every byte is a digit. -/
def AllDigits (ds : List UInt8) : Prop := ∀ b ∈ ds, isDigit b = true

@[simp] theorem allDigits_nil : AllDigits [] := by simp [AllDigits]

@[simp] theorem allDigits_cons {b : UInt8} {ds : List UInt8} :
    AllDigits (b :: ds) ↔ isDigit b = true ∧ AllDigits ds := by simp [AllDigits]

@[simp] theorem allDigits_append {a b : List UInt8} :
    AllDigits (a ++ b) ↔ AllDigits a ∧ AllDigits b := by
  simp [AllDigits, or_imp, forall_and]

theorem AllDigits.sublist {a b : List UInt8} (h : AllDigits b) (hs : a.Sublist b) : AllDigits a :=
  fun x hx => h x (hs.subset hx)

/-- The number a run of digits stands for, its first digit the highest. -/
def coefficient (ds : List UInt8) : Nat := Nat.ofDigits 10 (ds.reverse.map digitVal)

@[simp] theorem coefficient_nil : coefficient [] = 0 := rfl

theorem coefficient_append (a b : List UInt8) :
    coefficient (a ++ b) = coefficient a * 10 ^ b.length + coefficient b := by
  simp only [coefficient, List.reverse_append, List.map_append, Nat.ofDigits_append,
    List.length_map, List.length_reverse]
  ring

theorem coefficient_cons (b : UInt8) (ds : List UInt8) :
    coefficient (b :: ds) = digitVal b * 10 ^ ds.length + coefficient ds := by
  simpa [coefficient] using coefficient_append [b] ds

theorem coefficient_snoc (ds : List UInt8) (b : UInt8) :
    coefficient (ds ++ [b]) = coefficient ds * 10 + digitVal b := by
  simpa [coefficient] using coefficient_append ds [b]

theorem coefficient_lt {ds : List UInt8} (h : AllDigits ds) :
    coefficient ds < 10 ^ ds.length := by
  have hlt : ∀ x ∈ ds.reverse.map digitVal, x < 10 := by
    intro x hx
    obtain ⟨b, hb, rfl⟩ := List.mem_map.mp hx
    exact digitVal_lt (h b (List.mem_reverse.mp hb))
  simpa [coefficient] using Nat.ofDigits_lt_base_pow_length (by decide) hlt

/-- **A run of digits stands for zero exactly when every digit is zero.** -/
theorem coefficient_eq_zero_iff {ds : List UInt8} (h : AllDigits ds) :
    coefficient ds = 0 ↔ ∀ b ∈ ds, b = 48 := by
  induction ds with
  | nil => simp
  | cons b ds ih =>
    obtain ⟨hb, hds⟩ := allDigits_cons.mp h
    rw [coefficient_cons, Nat.add_eq_zero_iff, Nat.mul_eq_zero, digitVal_eq_zero_iff hb, ih hds]
    simp

theorem le_coefficient {b : UInt8} {ds : List UInt8} (hb : isDigit b = true) (hne : b ≠ 48) :
    10 ^ ds.length ≤ coefficient (b :: ds) := by
  rw [coefficient_cons]
  have hpos : 1 ≤ digitVal b := by
    have := mt (digitVal_eq_zero_iff hb).mp hne
    omega
  calc 10 ^ ds.length = 1 * 10 ^ ds.length := (one_mul _).symm
    _ ≤ digitVal b * 10 ^ ds.length := Nat.mul_le_mul_right _ hpos
    _ ≤ _ := Nat.le_add_right _ _

/-- Leading zeros do not count. -/
theorem coefficient_dropWhile (ds : List UInt8) :
    coefficient (ds.dropWhile (· = 48)) = coefficient ds := by
  induction ds with
  | nil => rfl
  | cons b ds ih =>
    by_cases hb : b = 48
    · rw [List.dropWhile_cons_of_pos (by simpa using hb), ih, coefficient_cons, hb]
      simp [digitVal]
    · rw [List.dropWhile_cons_of_neg (by simpa using hb)]

/-! ## 2. The decimal of a natural number -/

/-- The digits a natural number is printed with. -/
def decimal (n : Nat) : List UInt8 := (Nat.toDigits 10 n).map fun c => c.toNat.toUInt8

theorem decimal_of_lt {n : Nat} (h : n < 10) : decimal n = [(48 + n).toUInt8] := by
  rw [decimal, Nat.toDigits_of_lt_base h]
  interval_cases n <;> rfl

theorem decimal_of_le {n : Nat} (h : 10 ≤ n) :
    decimal n = decimal (n / 10) ++ [(48 + n % 10).toUInt8] := by
  have hmod : n % 10 < 10 := Nat.mod_lt n (by decide)
  rw [← decimal_of_lt hmod, decimal, decimal, decimal, Nat.toDigits_of_base_le (by decide) h,
    Nat.toDigits_of_lt_base hmod, List.map_append]

theorem toNat_digit {n : Nat} (h : n < 10) : ((48 + n).toUInt8).toNat = 48 + n := by
  interval_cases n <;> rfl

theorem isDigit_digit {n : Nat} (h : n < 10) : isDigit (48 + n).toUInt8 = true := by
  rw [isDigit_iff, toNat_digit h]
  omega

theorem digitVal_digit {n : Nat} (h : n < 10) : digitVal (48 + n).toUInt8 = n := by
  rw [digitVal, toNat_digit h]
  omega

theorem allDigits_decimal (n : Nat) : AllDigits (decimal n) := by
  induction n using Nat.strong_induction_on with
  | _ n ih =>
    by_cases h : n < 10
    · rw [decimal_of_lt h]
      simpa using isDigit_digit h
    · have hmod : n % 10 < 10 := Nat.mod_lt n (by decide)
      rw [decimal_of_le (by omega), allDigits_append]
      exact ⟨ih (n / 10) (by omega), allDigits_cons.mpr ⟨isDigit_digit hmod, allDigits_nil⟩⟩

@[simp] theorem coefficient_decimal (n : Nat) : coefficient (decimal n) = n := by
  induction n using Nat.strong_induction_on with
  | _ n ih =>
    by_cases h : n < 10
    · rw [decimal_of_lt h]
      simpa [coefficient] using digitVal_digit h
    · rw [decimal_of_le (by omega), coefficient_snoc, ih (n / 10) (by omega),
        digitVal_digit (Nat.mod_lt n (by decide))]
      omega

theorem decimal_ne_nil (n : Nat) : decimal n ≠ [] := by
  by_cases h : n < 10
  · rw [decimal_of_lt h]
    simp
  · rw [decimal_of_le (by omega)]
    simp

/-- The decimal of a positive number does not start with zero. -/
theorem head_decimal {n : Nat} (hn : 0 < n) : ∃ b ds, decimal n = b :: ds ∧ b ≠ 48 := by
  induction n using Nat.strong_induction_on with
  | _ n ih =>
    by_cases h : n < 10
    · refine ⟨_, [], decimal_of_lt h, ?_⟩
      intro h48
      have := congrArg UInt8.toNat h48
      rw [toNat_digit h] at this
      change 48 + n = 48 at this
      omega
    · obtain ⟨b, ds, hds, hb⟩ := ih (n / 10) (by omega) (by omega)
      exact ⟨b, _, by rw [decimal_of_le (by omega), hds]; rfl, hb⟩

/-! ## 3. Spellings -/

/-- `int = zero / ( digit1-9 *DIGIT )`. -/
inductive Whole : List UInt8 → Prop where
  | zero : Whole [48]
  | positive {b : UInt8} {ds : List UInt8} (hb : isDigit b = true) (hne : b ≠ 48)
      (hds : AllDigits ds) : Whole (b :: ds)

theorem Whole.allDigits {ds : List UInt8} (h : Whole ds) : AllDigits ds := by
  cases h with
  | zero => exact allDigits_cons.mpr ⟨rfl, allDigits_nil⟩
  | positive hb _ hds => exact allDigits_cons.mpr ⟨hb, hds⟩

theorem whole_decimal (n : Nat) : Whole (decimal n) := by
  by_cases hn : n = 0
  · rw [hn, decimal_of_lt (by decide)]
    exact Whole.zero
  · obtain ⟨b, ds, hds, hb⟩ := head_decimal (Nat.pos_of_ne_zero hn)
    have hall := allDigits_decimal n
    rw [hds] at hall ⊢
    exact Whole.positive (allDigits_cons.mp hall).1 hb (allDigits_cons.mp hall).2

/-- The sign an exponent is written with. -/
inductive ExponentSign where
  | bare
  | plus
  | minus
  deriving DecidableEq, Repr

def ExponentSign.text : ExponentSign → List UInt8
  | .bare => []
  | .plus => [43]
  | .minus => [45]

/-- `exp = e [ minus / plus ] 1*DIGIT`. -/
structure Exponent where
  mark : UInt8
  sign : ExponentSign
  digits : List UInt8
  mark_ok : mark = 101 ∨ mark = 69
  digits_ok : AllDigits digits
  digits_ne : digits ≠ []

namespace Exponent

def text (e : Exponent) : List UInt8 := e.mark :: (e.sign.text ++ e.digits)

def value (e : Exponent) : Int :=
  if e.sign = .minus then -(coefficient e.digits : Int) else coefficient e.digits

end Exponent

/-- `number = [ minus ] int [ frac ] [ exp ]`; no fraction digits stand for no fraction. -/
structure JsonNumber where
  negative : Bool
  whole : List UInt8
  fraction : List UInt8
  exponent : Option Exponent
  whole_ok : Whole whole
  fraction_ok : AllDigits fraction

namespace JsonNumber

def fractionText (fraction : List UInt8) : List UInt8 :=
  if fraction = [] then [] else 46 :: fraction

/-- The bytes of the spelling. -/
def text (n : JsonNumber) : List UInt8 :=
  (if n.negative then [45] else []) ++ n.whole ++ fractionText n.fraction ++
    (n.exponent.map Exponent.text).getD []

/-- The exponent, an absent one standing for zero. -/
def exponentValue (n : JsonNumber) : Int := (n.exponent.map Exponent.value).getD 0

/-- The power of ten the digits are scaled by. -/
def scale (n : JsonNumber) : Int := n.exponentValue - n.fraction.length

/-- The digits of the spelling, as one natural number. -/
def magnitude (n : JsonNumber) : Nat := coefficient (n.whole ++ n.fraction)

/-- **The exact decimal value.** -/
def value (n : JsonNumber) : ℚ :=
  (if n.negative then -1 else 1) * n.magnitude * 10 ^ n.scale

/-- The spelling a natural number is printed with. -/
def ofNat (n : Nat) : JsonNumber where
  negative := false
  whole := decimal n
  fraction := []
  exponent := none
  whole_ok := whole_decimal n
  fraction_ok := allDigits_nil

@[simp] theorem text_ofNat (n : Nat) : (ofNat n).text = decimal n := by
  simp [ofNat, text, fractionText]

@[simp] theorem value_ofNat (n : Nat) : (ofNat n).value = n := by
  simp [ofNat, value, scale, exponentValue, magnitude]

theorem length_fractionText (fraction : List UInt8) :
    fraction.length ≤ (fractionText fraction).length := by
  unfold fractionText
  split
  · simp_all
  · simp

/-- The digits are part of the spelling, and so are those of the exponent. -/
theorem digits_length_le (n : JsonNumber) :
    n.whole.length + n.fraction.length +
      ((n.exponent.map Exponent.text).getD []).length ≤ n.text.length := by
  have hfraction := length_fractionText n.fraction
  simp only [text, List.length_append]
  omega

end JsonNumber

/-! ## 4. Scaled coefficients -/

theorem scaled_eq_iff_of_nonneg (c n : Nat) {s : Int} (hs : 0 ≤ s) :
    (c : ℚ) * 10 ^ s = n ↔ c * 10 ^ s.toNat = n := by
  obtain ⟨k, rfl⟩ := Int.eq_ofNat_of_zero_le hs
  rw [Int.toNat_natCast, zpow_natCast]
  exact_mod_cast Iff.rfl

/-- **A scaled coefficient is a natural number exactly when the division leaves no remainder.** -/
theorem scaled_eq_iff_of_neg (c n : Nat) {s : Int} (hs : s < 0) :
    (c : ℚ) * 10 ^ s = n ↔ c = n * 10 ^ s.natAbs := by
  obtain ⟨k, rfl⟩ := Int.eq_negSucc_of_lt_zero hs
  rw [Int.natAbs_negSucc, zpow_negSucc, ← div_eq_mul_inv, div_eq_iff (by positivity)]
  exact_mod_cast Iff.rfl

end Lib
