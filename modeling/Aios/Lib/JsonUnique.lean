/-
  File:      Aios/Lib/JsonUnique.lean
  Subject:   THE GRAMMAR OF JSON IS UNAMBIGUOUS: a text is the text of at most one document.

  A value is told from the others by its first byte; a number ends where no byte continues it, a gap
  where a byte stands that no gap holds. The gaps may hold any byte that no token starts or goes on
  with (`separates`), so the result is as good for a lenient reader as for a strict one.
-/
import Aios.Lib.JsonText

namespace Lib.JsonText

/-! ## 1. Numbers -/

/-- A run of bytes of one kind ends where the kind ends. -/
theorem run_unique {p : UInt8 → Bool} {l r x y : List UInt8} (hl : ∀ b ∈ l, p b = true)
    (hr : ∀ b ∈ r, p b = true) (hx : ∀ b ∈ x.head?, p b = false) (hy : ∀ b ∈ y.head?, p b = false)
    (h : l ++ x = r ++ y) : l = r ∧ x = y := by
  have hrun : ∀ {run rest : List UInt8}, (∀ b ∈ run, p b = true) → (∀ b ∈ rest.head?, p b = false) →
      (run ++ rest).takeWhile p = run := by
    intro run rest hrun hrest
    rw [List.takeWhile_append_of_pos hrun]
    cases rest with
    | nil => simp
    | cons b rest => simp [hrest b rfl]
  have e : l = r := by rw [← hrun hl hx, h, hrun hr hy]
  rw [e] at h
  exact ⟨e, List.append_cancel_left h⟩

/-- What may follow a number: nothing, or a byte that does not continue it. -/
def Ends (rest : List UInt8) : Prop :=
  ∀ b ∈ rest.head?, isDigit b = false ∧ b ≠ 46 ∧ b ≠ 101 ∧ b ≠ 69

variable {t u gap x : List UInt8}

theorem exponent_unique {e e' : Option Exponent} (ht : Ends t) (hu : Ends u)
    (h : (e.map Exponent.text).getD [] ++ t = (e'.map Exponent.text).getD [] ++ u) : e = e' ∧ t = u := by
  have hmark : ∀ {x : Exponent} {r s : List UInt8}, Ends r → x.text ++ s ≠ r := by
    intro x r s hr e
    have hhead : x.mark ∈ r.head? := by rw [← e]; rfl
    obtain ⟨_, _, h101, h69⟩ := hr _ hhead
    rcases x.mark_ok with h | h
    · exact h101 h
    · exact h69 h
  cases e with
  | none =>
      cases e' with
      | none => exact ⟨rfl, h⟩
      | some x => exact absurd h.symm (hmark ht)
  | some x =>
      cases e' with
      | none => exact absurd h (hmark hu)
      | some y =>
          have hrun : ∀ b, isDigit b = true → b ≠ 43 ∧ b ≠ 45 := fun b hb =>
            ⟨by rintro rfl; exact absurd hb (by decide), by rintro rfl; exact absurd hb (by decide)⟩
          obtain ⟨mark, sign, digits, hok, hdigits, hne⟩ := x
          obtain ⟨mark', sign', digits', hok', hdigits', hne'⟩ := y
          simp only [Option.map_some, Option.getD_some, Exponent.text, List.cons_append,
            List.append_assoc, List.cons.injEq] at h
          obtain ⟨rfl, h⟩ := h
          have hsign : sign = sign' ∧ digits ++ t = digits' ++ u := by
            obtain ⟨d, ds, rfl⟩ := List.exists_cons_of_ne_nil hne
            obtain ⟨d', ds', rfl⟩ := List.exists_cons_of_ne_nil hne'
            obtain ⟨h43, h45⟩ := hrun d (hdigits d List.mem_cons_self)
            obtain ⟨h43', h45'⟩ := hrun d' (hdigits' d' List.mem_cons_self)
            cases sign <;> cases sign' <;>
              simp [ExponentSign.text, h43, h45, Ne.symm h43', Ne.symm h45'] at h ⊢
            all_goals exact h
          obtain ⟨rfl, hbehind⟩ := hsign
          obtain ⟨rfl, rfl⟩ := run_unique hdigits hdigits' (fun b hb => (ht b hb).1)
            (fun b hb => (hu b hb).1) hbehind
          exact ⟨rfl, rfl⟩

/-- What stands behind the digits before an exponent is no digit. -/
theorem noDigit_exponent {e : Option Exponent} (ht : Ends t) :
    ∀ b ∈ ((e.map Exponent.text).getD [] ++ t).head?, isDigit b = false := by
  intro b hb
  cases e with
  | none => exact (ht b hb).1
  | some x =>
      obtain rfl : x.mark = b := Option.some.inj hb
      rcases x.mark_ok with h | h <;> rw [h] <;> decide

/-- What stands behind the whole part of a number is no digit. -/
theorem noDigit_behind {fraction : List UInt8} {e : Option Exponent} (ht : Ends t) :
    ∀ b ∈ (JsonNumber.fractionText fraction ++ ((e.map Exponent.text).getD [] ++ t)).head?,
      isDigit b = false := by
  intro b hb
  unfold JsonNumber.fractionText at hb
  by_cases hf : fraction = []
  · rw [if_pos hf, List.nil_append] at hb
    exact noDigit_exponent ht b hb
  · rw [if_neg hf] at hb
    obtain rfl : 46 = b := Option.some.inj hb
    decide

theorem fraction_unique {f f' : List UInt8} {e e' : Option Exponent}
    (hf : AllDigits f) (hf' : AllDigits f') (ht : Ends t) (hu : Ends u)
    (h : JsonNumber.fractionText f ++ ((e.map Exponent.text).getD [] ++ t) =
      JsonNumber.fractionText f' ++ ((e'.map Exponent.text).getD [] ++ u)) :
    f = f' ∧ (e.map Exponent.text).getD [] ++ t = (e'.map Exponent.text).getD [] ++ u := by
  have hpoint : ∀ {e : Option Exponent} {t : List UInt8}, Ends t →
      ((e.map Exponent.text).getD [] ++ t).head? ≠ some 46 := by
    intro e t ht h46
    cases e with
    | none => exact (ht 46 h46).2.1 rfl
    | some x =>
        have e46 : x.mark = 46 := Option.some.inj h46
        rcases x.mark_ok with h | h <;> rw [h] at e46 <;> exact absurd e46 (by decide)
  unfold JsonNumber.fractionText at h
  by_cases hnil : f = []
  · by_cases hnil' : f' = []
    · rw [if_pos hnil, if_pos hnil'] at h
      exact ⟨hnil.trans hnil'.symm, h⟩
    · rw [if_pos hnil, if_neg hnil', List.nil_append] at h
      exact absurd (by rw [h]; rfl) (hpoint ht)
  · by_cases hnil' : f' = []
    · rw [if_neg hnil, if_pos hnil', List.nil_append] at h
      exact absurd (by rw [← h]; rfl) (hpoint hu)
    · rw [if_neg hnil, if_neg hnil', List.cons_append, List.cons_append, List.cons.injEq] at h
      exact run_unique hf hf' (noDigit_exponent ht) (noDigit_exponent hu) h.2

/-- **A text starts with the text of at most one number that ends there.** -/
theorem number_unique {n m : JsonNumber} (ht : Ends t) (hu : Ends u)
    (h : n.text ++ t = m.text ++ u) : n = m ∧ t = u := by
  obtain ⟨negative, whole, fraction, e, hwhole, hfraction⟩ := n
  obtain ⟨negative', whole', fraction', e', hwhole', hfraction'⟩ := m
  simp only [JsonNumber.text, List.append_assoc] at h
  have hhead : ∀ {w r : List UInt8}, Whole w → (w ++ r).head? ≠ some 45 := by
    intro w r hw
    cases hw with
    | zero => simp
    | positive hb _ _ =>
        simp only [List.cons_append, List.head?_cons, ne_eq, Option.some.injEq]
        rintro rfl
        exact absurd hb (by decide)
  have hsign : negative = negative' ∧
      whole ++ (JsonNumber.fractionText fraction ++ ((e.map Exponent.text).getD [] ++ t)) =
        whole' ++ (JsonNumber.fractionText fraction' ++ ((e'.map Exponent.text).getD [] ++ u)) := by
    cases negative with
    | false =>
        cases negative' with
        | false => exact ⟨rfl, by simpa using h⟩
        | true => exact absurd (by rw [show whole ++ _ = _ from h]; rfl) (hhead hwhole)
    | true =>
        cases negative' with
        | false => exact absurd (by rw [show whole' ++ _ = _ from h.symm]; rfl) (hhead hwhole')
        | true => exact ⟨rfl, by simpa using h⟩
  obtain ⟨rfl, hunsigned⟩ := hsign
  obtain ⟨rfl, hscaled⟩ := run_unique hwhole.allDigits hwhole'.allDigits (noDigit_behind ht)
    (noDigit_behind hu) hunsigned
  obtain ⟨rfl, hexponent⟩ := fraction_unique hfraction hfraction' ht hu hscaled
  obtain ⟨rfl, rfl⟩ := exponent_unique ht hu hexponent
  exact ⟨rfl, rfl⟩

/-! ## 2. Values -/

/-- The byte a value starts with. -/
def startsValue (b : UInt8) : Bool :=
  b = 34 || b = 91 || b = 123 || b = 116 || b = 102 || b = 110 || startsNumber b

/-- A byte no token starts or goes on with. -/
def separates (b : UInt8) : Bool :=
  !startsValue b && b ≠ 44 && b ≠ 58 && b ≠ 93 && b ≠ 125 && b ≠ 46 && b ≠ 101 && b ≠ 69

theorem number_head (n : JsonNumber) : ∃ b rest, n.text = b :: rest ∧ startsNumber b = true := by
  obtain ⟨negative, whole, fraction, e, hwhole, hfraction⟩ := n
  cases negative with
  | true => exact ⟨45, _, rfl, rfl⟩
  | false =>
      cases hwhole with
      | zero => exact ⟨48, _, rfl, rfl⟩
      | @positive b ds hb hne hds => exact ⟨b, _, rfl, by simp [startsNumber, hb]⟩

/-- The bytes a number is made of. -/
theorem number_byte (n : JsonNumber) : ∀ b ∈ n.text,
    isDigit b = true ∨ b = 45 ∨ b = 43 ∨ b = 46 ∨ b = 101 ∨ b = 69 := by
  intro b hb
  simp only [JsonNumber.text, List.mem_append] at hb
  rcases hb with ((hsign | hwhole) | hfraction) | hexponent
  · cases hn : n.negative <;> simp [hn] at hsign
    exact .inr (.inl hsign)
  · exact .inl (n.whole_ok.allDigits b hwhole)
  · unfold JsonNumber.fractionText at hfraction
    split at hfraction
    · cases hfraction
    · rcases List.mem_cons.mp hfraction with rfl | hdigit
      · simp
      · exact .inl (n.fraction_ok b hdigit)
  · cases he : n.exponent with
    | none => simp [he] at hexponent
    | some e =>
        simp only [he, Option.map_some, Option.getD_some, Exponent.text, List.mem_cons,
          List.mem_append] at hexponent
        rcases hexponent with rfl | hsign | hdigit
        · rcases e.mark_ok with h | h <;> simp [h]
        · cases hs : e.sign <;> simp [hs, ExponentSign.text] at hsign
          · simp [hsign]
          · simp [hsign]
        · exact .inl (e.digits_ok b hdigit)

/-- What kind of value starts with the byte. -/
def leadOf (b : UInt8) : Nat :=
  if b = 34 then 0 else if b = 91 then 1 else if b = 123 then 2 else if startsNumber b then 3 else 4

def Value.lead : Value → Nat
  | .string _ => 0
  | .emptyArray _ | .array _ => 1
  | .emptyObject _ | .object _ => 2
  | .number _ => 3
  | .literal _ => 4

theorem Value.head (v : Value) :
    ∃ b rest, v.text = b :: rest ∧ startsValue b = true ∧ leadOf b = v.lead := by
  cases v with
  | literal l => cases l <;> exact ⟨_, _, rfl, by decide, by decide⟩
  | number n =>
      obtain ⟨b, rest, htext, hb⟩ := number_head n
      refine ⟨b, rest, htext, by simp [startsValue, hb], ?_⟩
      have h34 : b ≠ 34 := startsNumber_ne_quote hb
      have h91 : b ≠ 91 := by rintro rfl; exact absurd hb (by decide)
      have h123 : b ≠ 123 := by rintro rfl; exact absurd hb (by decide)
      simp [leadOf, Value.lead, h34, h91, h123, hb]
  | string q => exact ⟨_, _, rfl, by decide, rfl⟩
  | emptyArray gap => exact ⟨_, _, rfl, by decide, rfl⟩
  | array items => exact ⟨_, _, rfl, by decide, rfl⟩
  | emptyObject gap => exact ⟨_, _, rfl, by decide, rfl⟩
  | object fields => exact ⟨_, _, rfl, by decide, rfl⟩

/-- Equal texts start with values of one kind. -/
theorem lead_eq {v w : Value} (h : v.text ++ t = w.text ++ u) : v.lead = w.lead := by
  obtain ⟨b, _, htext, _, hb⟩ := v.head
  obtain ⟨c, _, htext', _, hc⟩ := w.head
  rw [htext, htext', List.cons_append, List.cons_append, List.cons.injEq] at h
  rw [← hb, ← hc, h.1]

/-- Neither a value nor a bracket, brace, colon or comma goes on with a gap. -/
def Solid (rest : List UInt8) : Prop := ∀ b ∈ rest.head?, separates b = false

theorem solid_cons {b : UInt8} {rest : List UInt8} (h : separates b = false) : Solid (b :: rest) := by
  intro c hc
  rw [← Option.some.inj hc]
  exact h

theorem Value.solid (v : Value) (rest : List UInt8) : Solid (v.text ++ rest) := by
  obtain ⟨b, tail, htext, hb, _⟩ := v.head
  rw [htext]
  exact solid_cons (by simp [separates, hb])

theorem Quoted.solid (q : Quoted) (rest : List UInt8) : Solid (q.text ++ rest) :=
  solid_cons (by decide)

/-- A gap, and what follows it, is no part of a number. -/
theorem ends_gap {gap rest : List UInt8} (h : Gap separates gap) (hrest : Ends rest) :
    Ends (gap ++ rest) := by
  cases gap with
  | nil => exact hrest
  | cons b gap =>
      intro c hc
      obtain rfl : b = c := Option.some.inj hc
      have hb := h b List.mem_cons_self
      simp only [separates, startsValue, startsNumber, Bool.and_eq_true, Bool.not_eq_true',
        Bool.or_eq_false_iff, decide_eq_true_eq] at hb
      obtain ⟨⟨⟨⟨⟨⟨⟨⟨_, _, hdigit⟩, _⟩, _⟩, _⟩, _⟩, h46⟩, h101⟩, h69⟩ := hb
      exact ⟨hdigit, h46, h101, h69⟩

theorem ends_cons {b : UInt8} {rest : List UInt8} (h : isDigit b = false ∧ b ≠ 46 ∧ b ≠ 101 ∧ b ≠ 69) :
    Ends (b :: rest) := by
  intro c hc
  rw [← Option.some.inj hc]
  exact h

theorem gap_unique {gap gap' x y : List UInt8} (hg : Gap separates gap) (hg' : Gap separates gap')
    (hx : Solid x) (hy : Solid y) (h : gap ++ x = gap' ++ y) : gap = gap' ∧ x = y :=
  run_unique hg hg' hx hy h

theorem quoted_unique {q r : Quoted} (h : q.text ++ t = r.text ++ u) : q = r ∧ t = u := by
  obtain ⟨body, hbody⟩ := q
  obtain ⟨body', hbody'⟩ := r
  simp only [Quoted.text, List.cons_append, List.append_assoc, List.nil_append, List.cons.injEq,
    true_and] at h
  have hsplit := splitBody_append hbody t
  rw [h, splitBody_append hbody', Option.some.injEq, Prod.mk.injEq] at hsplit
  obtain ⟨rfl, rfl⟩ := hsplit
  exact ⟨rfl, rfl⟩

theorem literal_unique {l r : Literal} (h : l.text ++ t = r.text ++ u) : l = r ∧ t = u := by
  cases l <;> cases r <;> simp [Literal.text] at h ⊢
  all_goals exact h

/-- A comma or a closing bracket or brace. -/
def closes (b : UInt8) : Bool := b = 44 || b = 93 || b = 125

theorem closes_spec {b : UInt8} (h : closes b = true) (rest : List UInt8) :
    Solid (b :: rest) ∧ Ends (b :: rest) := by
  simp only [closes, Bool.or_eq_true, decide_eq_true_eq] at h
  rcases h with (rfl | rfl) | rfl <;>
    exact ⟨solid_cons (by decide), ends_cons (by decide)⟩

/-- The values of two equal texts agree wherever they stand. -/
def ValueUnique (v w : Value) : Prop :=
  ∀ t u : List UInt8, Ends t → Ends u → v.text ++ t = w.text ++ u → v = w ∧ t = u

/-- A value between two gaps, up to the byte that closes it. -/
theorem slot_unique {before before' after after' x y : List UInt8} {v w : Value} {c d : UInt8}
    (hb : Gap separates before) (hb' : Gap separates before') (ha : Gap separates after)
    (ha' : Gap separates after') (hc : closes c = true) (hd : closes d = true)
    (hvalue : ValueUnique v w)
    (h : before ++ (v.text ++ (after ++ c :: x)) = before' ++ (w.text ++ (after' ++ d :: y))) :
    before = before' ∧ v = w ∧ after = after' ∧ c = d ∧ x = y := by
  obtain ⟨hsolid, hends⟩ := closes_spec hc x
  obtain ⟨hsolid', hends'⟩ := closes_spec hd y
  obtain ⟨rfl, hfirst⟩ := gap_unique hb hb' (v.solid _) (w.solid _) h
  obtain ⟨rfl, hbehind⟩ := hvalue _ _ (ends_gap ha hends) (ends_gap ha' hends') hfirst
  obtain ⟨rfl, hlast⟩ := gap_unique ha ha' hsolid hsolid' hbehind
  exact ⟨rfl, rfl, rfl, List.cons.inj hlast⟩

/-- A member, up to the byte that closes it. -/
theorem member_unique {before before' mid mid' gap gap' after after' x y : List UInt8}
    {q r : Quoted} {v w : Value} {c d : UInt8}
    (hb : Gap separates before) (hb' : Gap separates before') (hm : Gap separates mid)
    (hm' : Gap separates mid') (hg : Gap separates gap) (hg' : Gap separates gap')
    (ha : Gap separates after) (ha' : Gap separates after') (hc : closes c = true)
    (hd : closes d = true) (hvalue : ValueUnique v w)
    (h : before ++ (q.text ++ (mid ++ 58 :: (gap ++ (v.text ++ (after ++ c :: x))))) =
      before' ++ (r.text ++ (mid' ++ 58 :: (gap' ++ (w.text ++ (after' ++ d :: y)))))) :
    before = before' ∧ q = r ∧ mid = mid' ∧ gap = gap' ∧ v = w ∧ after = after' ∧ c = d ∧ x = y := by
  obtain ⟨rfl, hkey⟩ := gap_unique hb hb' (q.solid _) (r.solid _) h
  obtain ⟨rfl, hmid⟩ := quoted_unique hkey
  obtain ⟨rfl, hcolon⟩ := gap_unique hm hm' (solid_cons (by decide)) (solid_cons (by decide)) hmid
  obtain ⟨rfl, rfl, rfl, rfl, rfl⟩ := slot_unique hg hg' ha ha' hc hd hvalue (List.cons.inj hcolon).2
  exact ⟨rfl, rfl, rfl, rfl, rfl, rfl, rfl, rfl⟩

/-- A gap and a closing byte are not the beginning of anything that starts otherwise. -/
theorem empty_ne {gap before x y : List UInt8} {b : UInt8} (hg : Gap separates gap)
    (hb : Gap separates before) (hclose : closes b = true) (hy : Solid y)
    (hhead : y.head? ≠ some b) : gap ++ b :: x ≠ before ++ y := by
  intro h
  obtain ⟨_, e⟩ := gap_unique hg hb (closes_spec hclose x).1 hy h
  rw [← e] at hhead
  exact hhead rfl

/-- No value starts with the bracket that closes an array. -/
theorem Value.head_ne (v : Value) (rest : List UInt8) : (v.text ++ rest).head? ≠ some 93 := by
  intro h
  obtain ⟨b, _, htext, hb, _⟩ := v.head
  rw [htext] at h
  rw [Option.some.inj h] at hb
  exact absurd hb (by decide)

theorem Quoted.head_ne (q : Quoted) (rest : List UInt8) : (q.text ++ rest).head? ≠ some 125 := by
  simp [Quoted.text]

theorem Items.split {space : UInt8 → Bool} {items : Items} (h : items.Spaced space) :
    ∃ gap v rest, Gap space gap ∧ items.text = gap ++ (Value.text v ++ rest) := by
  cases items with
  | last before v after => exact ⟨before, v, _, h.1, rfl⟩
  | more before v after rest => exact ⟨before, v, _, h.1, rfl⟩

theorem Fields.split {space : UInt8 → Bool} {fields : Fields} (h : fields.Spaced space) :
    ∃ gap q rest, Gap space gap ∧ fields.text = gap ++ (Quoted.text q ++ rest) := by
  cases fields with
  | last before q mid gap v after => exact ⟨before, q, _, h.1, rfl⟩
  | more before q mid gap v after rest => exact ⟨before, q, _, h.1, rfl⟩

theorem Items.empty_ne (hg : Gap separates gap) (items : Items)
    (h : items.Spaced separates) : gap ++ 93 :: x ≠ items.text ++ t := by
  obtain ⟨before, v, rest, hb, htext⟩ := Items.split h
  rw [htext, List.append_assoc, List.append_assoc]
  exact JsonText.empty_ne hg hb (by decide) (v.solid _) (v.head_ne _)

theorem Fields.empty_ne (hg : Gap separates gap) (fields : Fields)
    (h : fields.Spaced separates) : gap ++ 125 :: x ≠ fields.text ++ t := by
  obtain ⟨before, q, rest, hb, htext⟩ := Fields.split h
  rw [htext, List.append_assoc, List.append_assoc]
  exact JsonText.empty_ne hg hb (by decide) (q.solid _) (q.head_ne _)

mutual

/-- **A text starts with the text of at most one value that ends there.** -/
theorem Value.unique : ∀ (v w : Value), v.Spaced separates → w.Spaced separates → ValueUnique v w
  | .literal l, w, _, _ => by
    intro t u _ _ h
    cases w with
    | literal r =>
        obtain ⟨rfl, rfl⟩ := literal_unique h
        exact ⟨rfl, rfl⟩
    | _ => exact absurd (lead_eq h) (by simp [Value.lead])
  | .number n, w, _, _ => by
    intro t u ht hu h
    cases w with
    | number m =>
        obtain ⟨rfl, rfl⟩ := number_unique ht hu h
        exact ⟨rfl, rfl⟩
    | _ => exact absurd (lead_eq h) (by simp [Value.lead])
  | .string q, w, _, _ => by
    intro t u _ _ h
    cases w with
    | string r =>
        obtain ⟨rfl, rfl⟩ := quoted_unique h
        exact ⟨rfl, rfl⟩
    | _ => exact absurd (lead_eq h) (by simp [Value.lead])
  | .emptyArray gap, w, hv, hw => by
    intro t u _ _ h
    cases w with
    | emptyArray gap' =>
        simp only [Value.text, List.cons_append, List.append_assoc, List.cons.injEq, true_and] at h
        obtain ⟨rfl, htail⟩ := gap_unique hv hw (solid_cons (by decide)) (solid_cons (by decide)) h
        exact ⟨rfl, (List.cons.inj htail).2⟩
    | array items =>
        simp only [Value.text, List.cons_append, List.append_assoc, List.cons.injEq, true_and] at h
        exact absurd h (items.empty_ne hv hw)
    | _ => exact absurd (lead_eq h) (by simp [Value.lead])
  | .array items, w, hv, hw => by
    intro t u _ _ h
    cases w with
    | emptyArray gap =>
        simp only [Value.text, List.cons_append, List.append_assoc, List.cons.injEq, true_and] at h
        exact absurd h.symm (items.empty_ne hw hv)
    | array items' =>
        simp only [Value.text, List.cons_append, List.cons.injEq, true_and] at h
        obtain ⟨rfl, rfl⟩ := Items.unique items items' hv hw h
        exact ⟨rfl, rfl⟩
    | _ => exact absurd (lead_eq h) (by simp [Value.lead])
  | .emptyObject gap, w, hv, hw => by
    intro t u _ _ h
    cases w with
    | emptyObject gap' =>
        simp only [Value.text, List.cons_append, List.append_assoc, List.cons.injEq, true_and] at h
        obtain ⟨rfl, htail⟩ := gap_unique hv hw (solid_cons (by decide)) (solid_cons (by decide)) h
        exact ⟨rfl, (List.cons.inj htail).2⟩
    | object fields =>
        simp only [Value.text, List.cons_append, List.append_assoc, List.cons.injEq, true_and] at h
        exact absurd h (fields.empty_ne hv hw)
    | _ => exact absurd (lead_eq h) (by simp [Value.lead])
  | .object fields, w, hv, hw => by
    intro t u _ _ h
    cases w with
    | emptyObject gap =>
        simp only [Value.text, List.cons_append, List.append_assoc, List.cons.injEq, true_and] at h
        exact absurd h.symm (fields.empty_ne hw hv)
    | object fields' =>
        simp only [Value.text, List.cons_append, List.cons.injEq, true_and] at h
        obtain ⟨rfl, rfl⟩ := Fields.unique fields fields' hv hw h
        exact ⟨rfl, rfl⟩
    | _ => exact absurd (lead_eq h) (by simp [Value.lead])

theorem Items.unique : ∀ (a b : Items) {t u : List UInt8}, a.Spaced separates → b.Spaced separates →
    a.text ++ t = b.text ++ u → a = b ∧ t = u
  | .last before v after, b, t, u, ha, hb, h => by
    cases b with
    | last before' w after' =>
        simp only [Items.text, List.append_assoc, List.singleton_append] at h
        obtain ⟨rfl, rfl, rfl, _, rfl⟩ := slot_unique ha.1 hb.1 ha.2.2 hb.2.2 (by decide) (by decide)
          (Value.unique v w ha.2.1 hb.2.1) h
        exact ⟨rfl, rfl⟩
    | more before' w after' rest' =>
        simp only [Items.text, List.append_assoc, List.cons_append] at h
        obtain ⟨_, _, _, e, _⟩ := slot_unique ha.1 hb.1 ha.2.2 hb.2.2.1 (by decide) (by decide)
          (Value.unique v w ha.2.1 hb.2.1) h
        exact absurd e (by decide)
  | .more before v after rest, b, t, u, ha, hb, h => by
    cases b with
    | last before' w after' =>
        simp only [Items.text, List.append_assoc, List.cons_append] at h
        obtain ⟨_, _, _, e, _⟩ := slot_unique ha.1 hb.1 ha.2.2.1 hb.2.2 (by decide) (by decide)
          (Value.unique v w ha.2.1 hb.2.1) h
        exact absurd e (by decide)
    | more before' w after' rest' =>
        simp only [Items.text, List.append_assoc, List.cons_append] at h
        obtain ⟨rfl, rfl, rfl, _, hrest⟩ := slot_unique ha.1 hb.1 ha.2.2.1 hb.2.2.1 (by decide)
          (by decide) (Value.unique v w ha.2.1 hb.2.1) h
        obtain ⟨rfl, rfl⟩ := Items.unique rest rest' ha.2.2.2 hb.2.2.2 hrest
        exact ⟨rfl, rfl⟩

theorem Fields.unique : ∀ (a b : Fields) {t u : List UInt8}, a.Spaced separates → b.Spaced separates →
    a.text ++ t = b.text ++ u → a = b ∧ t = u
  | .last before key mid gap v after, b, t, u, ⟨h1, h2, h3, h4, h5⟩, hb, h => by
    cases b with
    | last before' key' mid' gap' w after' =>
        obtain ⟨k1, k2, k3, k4, k5⟩ := hb
        simp only [Fields.text, List.append_assoc, List.cons_append] at h
        obtain ⟨rfl, rfl, rfl, rfl, rfl, rfl, _, rfl⟩ := member_unique h1 k1 h2 k2 h3 k3 h5 k5
          (by decide) (by decide) (Value.unique v w h4 k4) h
        exact ⟨rfl, rfl⟩
    | more before' key' mid' gap' w after' rest' =>
        obtain ⟨k1, k2, k3, k4, k5, _⟩ := hb
        simp only [Fields.text, List.append_assoc, List.cons_append] at h
        obtain ⟨_, _, _, _, _, _, e, _⟩ := member_unique h1 k1 h2 k2 h3 k3 h5 k5
          (by decide) (by decide) (Value.unique v w h4 k4) h
        exact absurd e (by decide)
  | .more before key mid gap v after rest, b, t, u, ⟨h1, h2, h3, h4, h5, h6⟩, hb, h => by
    cases b with
    | last before' key' mid' gap' w after' =>
        obtain ⟨k1, k2, k3, k4, k5⟩ := hb
        simp only [Fields.text, List.append_assoc, List.cons_append] at h
        obtain ⟨_, _, _, _, _, _, e, _⟩ := member_unique h1 k1 h2 k2 h3 k3 h5 k5
          (by decide) (by decide) (Value.unique v w h4 k4) h
        exact absurd e (by decide)
    | more before' key' mid' gap' w after' rest' =>
        obtain ⟨k1, k2, k3, k4, k5, k6⟩ := hb
        simp only [Fields.text, List.append_assoc, List.cons_append] at h
        obtain ⟨rfl, rfl, rfl, rfl, rfl, rfl, _, hrest⟩ := member_unique h1 k1 h2 k2 h3 k3 h5 k5
          (by decide) (by decide) (Value.unique v w h4 k4) h
        obtain ⟨rfl, rfl⟩ := Fields.unique rest rest' h6 k6 hrest
        exact ⟨rfl, rfl⟩

end

/-! ## 3. Documents -/

theorem Gap.mono {space space' : UInt8 → Bool} (h : ∀ b, space b = true → space' b = true)
    (hg : Gap space gap) : Gap space' gap := fun b hb => h b (hg b hb)

section Mono

variable {space space' : UInt8 → Bool} (h : ∀ b, space b = true → space' b = true)

include h

mutual

/-- A strict reader's value is a lenient reader's. -/
theorem Value.Spaced.mono : ∀ {v : Value}, v.Spaced space → v.Spaced space'
  | .literal _, _ | .number _, _ | .string _, _ => trivial
  | .emptyArray _, hv | .emptyObject _, hv => Gap.mono h hv
  | .array _, hv => Items.Spaced.mono hv
  | .object _, hv => Fields.Spaced.mono hv

theorem Items.Spaced.mono : ∀ {items : Items}, items.Spaced space → items.Spaced space'
  | .last _ _ _, ⟨h1, h2, h3⟩ => ⟨h1.mono h, Value.Spaced.mono h2, h3.mono h⟩
  | .more _ _ _ _, ⟨h1, h2, h3, h4⟩ =>
      ⟨h1.mono h, Value.Spaced.mono h2, h3.mono h, Items.Spaced.mono h4⟩

theorem Fields.Spaced.mono : ∀ {fields : Fields}, fields.Spaced space → fields.Spaced space'
  | .last _ _ _ _ _ _, ⟨h1, h2, h3, h4, h5⟩ =>
      ⟨h1.mono h, h2.mono h, h3.mono h, Value.Spaced.mono h4, h5.mono h⟩
  | .more _ _ _ _ _ _ _, ⟨h1, h2, h3, h4, h5, h6⟩ =>
      ⟨h1.mono h, h2.mono h, h3.mono h, Value.Spaced.mono h4, h5.mono h, Fields.Spaced.mono h6⟩

end

theorem Document.Spaced.mono {d : Document} (hd : d.Spaced space) : d.Spaced space' :=
  ⟨hd.1.mono h, Value.Spaced.mono h hd.2.1, hd.2.2.mono h⟩

end Mono

theorem ends_of_gap (h : Gap separates gap) : Ends gap := by
  have hnil : Ends [] := fun b hb => by cases hb
  have hends := ends_gap h hnil
  rwa [List.append_nil] at hends

/-- **A text is the text of at most one document.** -/
theorem Document.unique {d e : Document} (hd : d.Spaced separates) (he : e.Spaced separates)
    (h : d.text = e.text) : d = e := by
  obtain ⟨before, v, after⟩ := d
  obtain ⟨before', w, after'⟩ := e
  obtain ⟨hb, hv, ha⟩ := hd
  obtain ⟨hb', hw, ha'⟩ := he
  obtain ⟨rfl, hvalue⟩ := gap_unique hb hb' (v.solid _) (w.solid _) h
  obtain ⟨rfl, rfl⟩ := v.unique w hv hw _ _ (ends_of_gap ha) (ends_of_gap ha') hvalue
  rfl

end Lib.JsonText
