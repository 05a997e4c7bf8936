/-
  File:      Aios/Providers/Clock.lean
  Subject:   TWO CLOCKS OVER ONE TEXT: the instant the code reads from an RFC 3339 text and the order
             the triggers compute from it.

  A trigger has no date-time parser of its own. It takes the second from `strftime`, falls back to
  offset arithmetic on the last six characters where `strftime` refuses a far offset, and compares
  the fractions as nine padded characters (`sqlSecond`, `sqlFraction`, `sqlNotAfter`).

  What the triggers call ordered is ordered as instants (`sqlNotAfter_le`).
-/
import Mathlib.Tactic.Ring
import Aios.Registry.Version

namespace Aios.Providers

/-! ## 1. The spelling of a date-time -/

inductive Zone where
  | zulu (upper : Bool)
  | offset (east : Bool) (hours : Fin 24) (minutes : Fin 60)
  deriving DecidableEq, Repr

namespace Zone

def twoDigits (n : Nat) : List Char := [(n / 10).digitChar, (n % 10).digitChar]

def text : Zone → List Char
  | .zulu true => ['Z']
  | .zulu false => ['z']
  | .offset east hours minutes =>
      (if east then '+' else '-') :: (twoDigits hours ++ ':' :: twoDigits minutes)

/-- The offset in seconds. -/
def seconds : Zone → Int
  | .zulu _ => 0
  | .offset east hours minutes => (if east then 1 else -1) * (hours * 3600 + minutes * 60)

end Zone

/-- A date-time taken apart: the nineteen characters up to the seconds, the digits of the fraction
    (none where there is no point) and the zone. -/
structure Spelled where
  head : List Char
  fraction : List Char
  zone : Zone
  length_head : head.length = 19
  digits : fraction.all isAsciiDigit = true

def nineZeros : List Char := List.replicate 9 '0'

namespace Spelled

def fractionText (p : Spelled) : List Char := if p.fraction = [] then [] else '.' :: p.fraction

def text (p : Spelled) : List Char := p.head ++ (p.fractionText ++ p.zone.text)

/-- The fraction to nine places, further digits cut off. -/
def nineDigits (p : Spelled) : List Char := (p.fraction ++ nineZeros).take 9

def nanos (p : Spelled) : Int := digitsValue p.nineDigits

end Spelled

/-- The two readers of a date-time: `OffsetDateTime::parse` in nanoseconds and `strftime('%s')`. -/
structure Readers where
  instant : List Char → Option Int
  strftime : List Char → Option Int

/-- Readers that read the civil time of the same nineteen characters where both accept them. The
    parser takes leap seconds and every offset, `strftime` neither. -/
structure TimeEnv extends Readers where
  /-- The civil time of the first nineteen characters, in seconds. -/
  civil : List Char → Option Int
  instant_spec : ∀ x t, instant x = some t → ∃ p : Spelled, x = p.text ∧
    ∀ c, civil p.head = some c → t = (c - p.zone.seconds) * 1000000000 + p.nanos
  strftime_spec : ∀ (p : Spelled) s, strftime p.text = some s →
    ∃ c, civil p.head = some c ∧ s = c - p.zone.seconds
  /-- A whole second of universal time is read by both. -/
  whole : ∀ (p : Spelled) c, civil p.head = some c → p.fraction = [] → p.zone = .zulu true →
    instant p.text = some (c * 1000000000) ∧ strftime p.text = some c

instance : Coe TimeEnv Readers := ⟨TimeEnv.toReaders⟩

/-! ## 2. What the triggers compute -/

section Sql

variable (env : Readers)

/-- `GLOB '[0-2][0-9]:[0-5][0-9]'` and hours up to 23: the hours and minutes. -/
def globOffset (h h' colon m m' : Char) : Option (Nat × Nat) :=
  if '0' ≤ h ∧ h ≤ '2' ∧ isAsciiDigit h' = true ∧ colon = ':' ∧ '0' ≤ m ∧ m ≤ '5' ∧ isAsciiDigit m' = true ∧
      digitsValue [h, h'] ≤ 23 then
    some (digitsValue [h, h'], digitsValue [m, m'])
  else none

/-- The arithmetic on the last six characters. -/
def offsetSecond (x : List Char) : Option Int :=
  match x.drop (x.length - 6) with
  | [sign, h, h', colon, m, m'] =>
      if sign = '+' ∨ sign = '-' then
        (globOffset h h' colon m m').bind fun (hours, minutes) =>
          (env.strftime (x.take (x.length - 6) ++ ['Z'])).map fun second =>
            second - (if sign = '+' then 1 else -1) * ((hours : Int) * 3600 + minutes * 60)
      else none
  | _ => none

/-- `COALESCE(CAST(strftime('%s', x) AS INTEGER), …)`. -/
def sqlSecond (x : List Char) : Option Int := (env.strftime x).or (offsetSecond env x)

def endsFraction (c : Char) : Bool := c = '+' || c = '-' || c = 'Z' || c = 'z'

/-- `substr(x, 21, instr(…, 'Z') - 1)`. -/
def fractionDigits (x : List Char) : List Char :=
  if (x.drop 20).any endsFraction then (x.drop 20).takeWhile fun c => !endsFraction c
  -- A negative length takes the character before the start.
  else (x.drop 19).take 1

def sqlFraction (x : List Char) : List Char :=
  ((if (x.drop 19).take 1 = ['.'] then fractionDigits x else []) ++ nineZeros).take 9

/-- The order of two texts. -/
def textLe : List Char → List Char → Bool
  | [], _ => true
  | _ :: _, [] => false
  | c :: a, d :: b => c < d || (c = d && textLe a b)

/-- `a` is not after `b`: by the second, then by the padded fraction as text. -/
def sqlNotAfter (a b : List Char) : Bool :=
  match sqlSecond env a, sqlSecond env b with
  | some s, some t => s < t || (s = t && textLe (sqlFraction a) (sqlFraction b))
  | _, _ => false

end Sql

/-! ## 3. Digits as text and as numbers -/

@[simp] theorem textLe_refl : ∀ l : List Char, textLe l l = true
  | [] => rfl
  | c :: l => by rw [textLe, textLe_refl l, decide_eq_true rfl, Bool.and_true, Bool.or_true]

theorem foldl_digits (l : List Char) (n : Nat) :
    l.foldl (fun n c => 10 * n + (c.toNat - '0'.toNat)) n = 10 ^ l.length * n + digitsValue l := by
  induction l generalizing n with
  | nil => simp [digitsValue]
  | cons c l ih =>
      have hcons : digitsValue (c :: l) = l.foldl (fun n c => 10 * n + (c.toNat - '0'.toNat)) (10 * 0 + _) := rfl
      rw [hcons, List.foldl_cons, ih, ih, List.length_cons, pow_succ]
      ring

theorem digitsValue_cons (c : Char) (l : List Char) :
    digitsValue (c :: l) = 10 ^ l.length * (c.toNat - '0'.toNat) + digitsValue l := by
  unfold digitsValue
  rw [List.foldl_cons, foldl_digits, Nat.mul_zero, Nat.zero_add]
  rfl

theorem toNat_of_isAsciiDigit {c : Char} (h : isAsciiDigit c = true) : 48 ≤ c.toNat ∧ c.toNat ≤ 57 := by
  unfold isAsciiDigit at h
  rw [Bool.and_eq_true, decide_eq_true_eq, decide_eq_true_eq] at h
  exact ⟨h.1, h.2⟩

theorem digitsValue_lt : ∀ {l : List Char}, l.all isAsciiDigit = true → digitsValue l < 10 ^ l.length
  | [], _ => by decide
  | c :: l, h => by
      rw [List.all_cons, Bool.and_eq_true] at h
      have hc := toNat_of_isAsciiDigit h.1
      have ih := digitsValue_lt h.2
      have hzero : '0'.toNat = 48 := rfl
      rw [digitsValue_cons, List.length_cons, pow_succ, hzero]
      have hle : 10 ^ l.length * (c.toNat - 48) ≤ 10 ^ l.length * 9 := Nat.mul_le_mul_left _ (by omega)
      omega

/-- Digits of one length: the order of the texts is that of the numbers. -/
theorem digitsValue_le : ∀ {a b : List Char}, a.all isAsciiDigit = true → b.all isAsciiDigit = true →
    a.length = b.length → textLe a b = true → digitsValue a ≤ digitsValue b
  | [], [], _, _, _, _ => le_refl _
  | [], _ :: _, _, _, hlen, _ => by simp at hlen
  | _ :: _, [], _, _, hlen, _ => by simp at hlen
  | c :: a, d :: b, ha, hb, hlen, hle => by
      rw [List.all_cons, Bool.and_eq_true] at ha hb
      have htails : a.length = b.length := Nat.succ.inj hlen
      have hc := toNat_of_isAsciiDigit ha.1
      have hd := toNat_of_isAsciiDigit hb.1
      have hzero : '0'.toNat = 48 := rfl
      rw [digitsValue_cons, digitsValue_cons, hzero, htails]
      rw [textLe, Bool.or_eq_true, Bool.and_eq_true, decide_eq_true_eq, decide_eq_true_eq] at hle
      rcases hle with hlt | ⟨rfl, hle⟩
      · have hlt : c.toNat < d.toNat := hlt
        have ha' := digitsValue_lt ha.2
        rw [htails] at ha'
        have hstep : 10 ^ b.length * (c.toNat - 48) + 10 ^ b.length ≤ 10 ^ b.length * (d.toNat - 48) := by
          rw [← Nat.mul_succ]
          exact Nat.mul_le_mul_left _ (by omega)
        omega
      · have ih := digitsValue_le ha.2 hb.2 htails hle
        omega

/-! ## 4. The triggers read a spelled date-time -/

namespace Spelled

variable (p : Spelled)

theorem digits_nineDigits : p.nineDigits.all isAsciiDigit = true := by
  rw [List.all_eq_true]
  intro c hc
  rcases List.mem_append.mp (List.mem_of_mem_take hc) with h | h
  · exact List.all_eq_true.mp p.digits c h
  · rw [List.eq_of_mem_replicate h]
    decide

theorem length_nineDigits : p.nineDigits.length = 9 := by
  unfold nineDigits nineZeros
  rw [List.length_take, List.length_append, List.length_replicate]
  omega

theorem nanos_nonneg : 0 ≤ p.nanos := Int.natCast_nonneg _

theorem nanos_lt : p.nanos < 1000000000 := by
  have h := digitsValue_lt p.digits_nineDigits
  rw [p.length_nineDigits] at h
  unfold nanos
  omega

theorem drop_text : p.text.drop 19 = p.fractionText ++ p.zone.text := by
  unfold text
  rw [List.drop_append_of_le_length (le_of_eq p.length_head.symm), ← p.length_head, List.drop_length,
    List.nil_append]

/-- The zone starts with the character that ends the fraction. -/
theorem zone_text : ∃ c rest, p.zone.text = c :: rest ∧ endsFraction c = true ∧ c ≠ '.' := by
  cases h : p.zone with
  | zulu upper => cases upper <;> exact ⟨_, _, rfl, by decide, by decide⟩
  | offset east hours minutes => cases east <;> exact ⟨_, _, rfl, by decide, by decide⟩

theorem not_endsFraction {c : Char} (h : isAsciiDigit c = true) : endsFraction c = false := by
  have hc := toNat_of_isAsciiDigit h
  unfold endsFraction
  by_contra hends
  rw [Bool.not_eq_false, Bool.or_eq_true, Bool.or_eq_true, Bool.or_eq_true] at hends
  simp only [decide_eq_true_eq] at hends
  rcases hends with ((rfl | rfl) | rfl) | rfl <;> revert hc <;> decide

/-- The padded text is the fraction to nine places. -/
theorem sqlFraction_text : sqlFraction p.text = p.nineDigits := by
  obtain ⟨c, rest, hzone, hends, hpoint⟩ := p.zone_text
  unfold sqlFraction nineDigits
  by_cases hf : p.fraction = []
  · have htail : p.text.drop 19 = c :: rest := by rw [p.drop_text, fractionText, if_pos hf, hzone, List.nil_append]
    rw [htail, if_neg (by simpa using hpoint), hf]
  · have htail : p.text.drop 19 = '.' :: (p.fraction ++ c :: rest) := by
      rw [p.drop_text, fractionText, if_neg hf, hzone, List.cons_append]
    have hrest : p.text.drop 20 = p.fraction ++ c :: rest := by
      rw [← List.drop_drop (i := 1) (j := 19), htail]
      rfl
    have hany : (p.fraction ++ c :: rest).any endsFraction = true :=
      List.any_eq_true.mpr ⟨c, List.mem_append_right _ List.mem_cons_self, hends⟩
    rw [if_pos (by rw [htail]; rfl), fractionDigits, hrest, if_pos hany]
    rw [List.takeWhile_append_of_pos fun d hd => by
      rw [not_endsFraction (List.all_eq_true.mp p.digits d hd)]
      rfl]
    rw [List.takeWhile_cons_of_neg (by rw [hends]; decide), List.append_nil]

@[simp] theorem length_zone_offset (east : Bool) (hours : Fin 24) (minutes : Fin 60) :
    (Zone.offset east hours minutes).text.length = 6 := rfl

end Spelled

theorem glob_hours : ∀ h : Fin 24, '0' ≤ (h.val / 10).digitChar ∧ (h.val / 10).digitChar ≤ '2' ∧
    isAsciiDigit (h.val % 10).digitChar = true ∧ digitsValue (Zone.twoDigits h) = h := by decide

theorem glob_minutes : ∀ m : Fin 60, '0' ≤ (m.val / 10).digitChar ∧ (m.val / 10).digitChar ≤ '5' ∧
    isAsciiDigit (m.val % 10).digitChar = true ∧ digitsValue (Zone.twoDigits m) = m := by decide

theorem globOffset_twoDigits (h : Fin 24) (m : Fin 60) :
    globOffset (h.val / 10).digitChar (h.val % 10).digitChar ':' (m.val / 10).digitChar
      (m.val % 10).digitChar = some (h.val, m.val) := by
  obtain ⟨h1, h2, h3, h4⟩ := glob_hours h
  obtain ⟨m1, m2, m3, m4⟩ := glob_minutes m
  unfold Zone.twoDigits at h4 m4
  have hle : h.val ≤ 23 := by omega
  unfold globOffset
  rw [if_pos ⟨h1, h2, h3, rfl, m1, m2, m3, by rw [h4]; exact hle⟩, h4, m4]

section Offset

variable (env : Readers) {p : Spelled}

theorem offsetSecond_zulu (upper : Bool) (hp : p.zone = .zulu upper) : offsetSecond env p.text = none := by
  unfold offsetSecond
  split
  · next sign h h' colon m m' hlast =>
    -- The last character is the letter of the zone, no digit.
    obtain ⟨z, hz, hdigit⟩ : ∃ z, p.zone.text = [z] ∧ isAsciiDigit z = false := by
      rw [hp]
      cases upper <;> exact ⟨_, rfl, by decide⟩
    have htext : p.text = (p.head ++ p.fractionText) ++ [z] := by
      rw [Spelled.text, hz, List.append_assoc]
    have hlen : p.text.length - 6 ≤ (p.head ++ p.fractionText).length := by
      rw [htext, List.length_append, List.length_singleton]
      omega
    have hdrop : ∀ k ≤ (p.head ++ p.fractionText).length,
        p.text.drop k = (p.head ++ p.fractionText).drop k ++ [z] := fun k hk => by
      rw [htext, List.drop_append_of_le_length hk]
    rw [hdrop _ hlen] at hlast
    have hm : m' = z := by
      have e := congrArg List.getLast? hlast
      rw [List.getLast?_append] at e
      exact (Option.some.inj e).symm
    have hnone : globOffset h h' colon m m' = none := by
      unfold globOffset
      rw [if_neg]
      rintro ⟨-, -, -, -, -, -, hd, -⟩
      rw [hm, hdigit] at hd
      cases hd
    rw [hnone, Option.bind_none, ite_self]
  · rfl

theorem offsetSecond_offset (east : Bool) (h : Fin 24) (m : Fin 60) (hp : p.zone = .offset east h m) :
    offsetSecond env p.text =
      (env.strftime ({ p with zone := .zulu true } : Spelled).text).map fun s => s - p.zone.seconds := by
  have htext : p.text = (p.head ++ p.fractionText) ++ p.zone.text := by
    rw [Spelled.text, List.append_assoc]
  have hlen : p.text.length - 6 = (p.head ++ p.fractionText).length := by
    rw [htext, List.length_append, hp, Spelled.length_zone_offset]
    omega
  have hdrop : p.text.drop (p.text.length - 6) = p.zone.text := by
    rw [hlen, htext, List.drop_left]
  have htake : p.text.take (p.text.length - 6) ++ ['Z'] = ({ p with zone := .zulu true } : Spelled).text := by
    rw [hlen, htext, List.take_left, List.append_assoc]
    rfl
  unfold offsetSecond
  rw [hdrop, htake, hp]
  cases east
  · simp only [Zone.text, Zone.twoDigits, List.cons_append, List.nil_append, Bool.false_eq_true, if_false,
      or_true, if_true, globOffset_twoDigits, Option.bind_some, Zone.seconds]
    rfl
  · simp only [Zone.text, Zone.twoDigits, List.cons_append, List.nil_append, true_or, if_true,
      globOffset_twoDigits, Option.bind_some, Zone.seconds]

end Offset

section Reading

variable (env : TimeEnv) {p q : Spelled}

/-- The second of a trigger is the civil time less the offset. -/
theorem sqlSecond_spec {s : Int} (h : sqlSecond env p.text = some s) :
    ∃ c, env.civil p.head = some c ∧ s = c - p.zone.seconds := by
  unfold sqlSecond at h
  cases hstrf : env.strftime p.text with
  | some s' =>
      rw [hstrf, Option.some_or] at h
      obtain ⟨c, hc, hs⟩ := env.strftime_spec p s' hstrf
      exact ⟨c, hc, by rw [← Option.some.inj h, hs]⟩
  | none =>
      rw [hstrf, Option.none_or] at h
      cases hp : p.zone with
      | zulu upper =>
          rw [offsetSecond_zulu env upper hp] at h
          cases h
      | offset east hours minutes =>
          rw [offsetSecond_offset env east hours minutes hp, hp, Option.map_eq_some_iff] at h
          obtain ⟨c', hc', hs⟩ := h
          obtain ⟨c, hc, hcc⟩ := env.strftime_spec _ c' hc'
          have hzero : (Zone.zulu true).seconds = 0 := rfl
          rw [hzero, sub_zero] at hcc
          exact ⟨c, hc, by rw [← hs, hcc]⟩

/-! ## 5. The two clocks agree -/

/-- **What the triggers call ordered is ordered as instants.** -/
theorem sqlNotAfter_le {a b : List Char} {s t : Int} (ha : env.instant a = some s)
    (hb : env.instant b = some t) (h : sqlNotAfter env a b = true) : s ≤ t := by
  obtain ⟨p, rfl, hp⟩ := env.instant_spec a s ha
  obtain ⟨q, rfl, hq⟩ := env.instant_spec b t hb
  unfold sqlNotAfter at h
  split at h
  · next u v hu hv =>
    obtain ⟨c, hc, rfl⟩ := sqlSecond_spec env hu
    obtain ⟨d, hd, rfl⟩ := sqlSecond_spec env hv
    have hs := hp c hc
    have ht := hq d hd
    have p0 := p.nanos_nonneg
    have p1 := p.nanos_lt
    have q0 := q.nanos_nonneg
    rw [Bool.or_eq_true, Bool.and_eq_true, decide_eq_true_eq, decide_eq_true_eq, p.sqlFraction_text,
      q.sqlFraction_text] at h
    rcases h with hlt | ⟨heq, hle⟩
    · omega
    · have hn := digitsValue_le p.digits_nineDigits q.digits_nineDigits
        (by rw [p.length_nineDigits, q.length_nineDigits]) hle
      have hn : p.nanos ≤ q.nanos := Int.ofNat_le.mpr hn
      rw [hs, ht, heq]
      omega
  · cases h

end Reading

end Aios.Providers
