/-
  File:      Aios/Lib/JsonLexemes.lean
  Subject:   HOW A JSON DOCUMENT FALLS APART INTO LEXEMES, and what a rewriting of the lexemes does
             to the document.

  A rewriting that maps number tokens to number tokens and keeps everything else (`Rewrites`) maps
  documents to documents, and what it maps to a document was one.
-/
import Aios.Lib.JsonUnique

namespace Lib.JsonText

/-! ## 1. Lexemes -/

mutual

def Value.lexemes : Value → List Lexeme
  | .literal l => l.text.map .other
  | .number n => [.token n.text]
  | .string q => [.quoted q.body]
  | .emptyArray gap => .other 91 :: (gap.map .other ++ [.other 93])
  | .array items => .other 91 :: items.lexemes
  | .emptyObject gap => .other 123 :: (gap.map .other ++ [.other 125])
  | .object fields => .other 123 :: fields.lexemes

def Items.lexemes : Items → List Lexeme
  | .last before value after =>
      before.map .other ++ (value.lexemes ++ (after.map .other ++ [.other 93]))
  | .more before value after rest =>
      before.map .other ++ (value.lexemes ++ (after.map .other ++ .other 44 :: rest.lexemes))

def Fields.lexemes : Fields → List Lexeme
  | .last before key mid gap value after =>
      before.map .other ++ .quoted key.body :: (mid.map .other ++ .other 58 :: (gap.map .other ++
        (value.lexemes ++ (after.map .other ++ [.other 125]))))
  | .more before key mid gap value after rest =>
      before.map .other ++ .quoted key.body :: (mid.map .other ++ .other 58 :: (gap.map .other ++
        (value.lexemes ++ (after.map .other ++ .other 44 :: rest.lexemes))))

end

def Document.lexemes (d : Document) : List Lexeme :=
  d.before.map .other ++ (d.value.lexemes ++ d.after.map .other)

theorem textOf_append (a b : List Lexeme) : textOf (a ++ b) = textOf a ++ textOf b := by
  simp [textOf]

theorem textOf_other (bytes : List UInt8) : textOf (bytes.map Lexeme.other) = bytes := by
  induction bytes with
  | nil => rfl
  | cons b bytes ih => rw [List.map_cons, textOf_cons, ih]; rfl

mutual

theorem Value.textOf_lexemes : ∀ v : Value, textOf v.lexemes = v.text
  | .literal _ => textOf_other _
  | .number n => List.append_nil n.text
  | .string q => List.append_nil q.text
  | .emptyArray gap | .emptyObject gap => by
      simp [Value.lexemes, Value.text, textOf_append, textOf_other, Lexeme.text]
  | .array items => by
      simp [Value.lexemes, Value.text, Lexeme.text, items.textOf_lexemes]
  | .object fields => by
      simp [Value.lexemes, Value.text, Lexeme.text, fields.textOf_lexemes]

theorem Items.textOf_lexemes : ∀ items : Items, textOf items.lexemes = items.text
  | .last _ value _ => by
      simp [Items.lexemes, Items.text, textOf_append, textOf_other, Lexeme.text, value.textOf_lexemes]
  | .more _ value _ rest => by
      simp [Items.lexemes, Items.text, textOf_append, textOf_other, Lexeme.text, value.textOf_lexemes,
        rest.textOf_lexemes]

theorem Fields.textOf_lexemes : ∀ fields : Fields, textOf fields.lexemes = fields.text
  | .last _ _ _ _ value _ => by
      simp [Fields.lexemes, Fields.text, textOf_append, textOf_other, Lexeme.text, Quoted.text,
        value.textOf_lexemes]
  | .more _ _ _ _ value _ rest => by
      simp [Fields.lexemes, Fields.text, textOf_append, textOf_other, Lexeme.text, Quoted.text,
        value.textOf_lexemes, rest.textOf_lexemes]

end

theorem Document.textOf_lexemes (d : Document) : textOf d.lexemes = d.text := by
  simp [Document.lexemes, Document.text, textOf_append, textOf_other, d.value.textOf_lexemes]

/-- Bytes that are no part of a string or a number are lexemes of their own. -/
theorem lexed_other {bytes : List UInt8} (h : ∀ b ∈ bytes, b ≠ 34 ∧ startsNumber b = false)
    {ls : List Lexeme} (hls : Lexed ls) : Lexed (bytes.map Lexeme.other ++ ls) := by
  induction bytes with
  | nil => exact hls
  | cons b bytes ih =>
      obtain ⟨hquote, hnumber⟩ := h b List.mem_cons_self
      exact .other hquote hnumber (ih fun c hc => h c (List.mem_cons_of_mem _ hc))

theorem isSpace_cases {b : UInt8} (h : isSpace b = true) : b = 32 ∨ b = 9 ∨ b = 10 ∨ b = 13 := by
  simpa [isSpace, or_assoc] using h

theorem separates_of_isSpace (b : UInt8) (h : isSpace b = true) : separates b = true := by
  rcases isSpace_cases h with rfl | rfl | rfl | rfl <;> decide

theorem lexed_gap {gap : List UInt8} (h : Gap isSpace gap) {ls : List Lexeme} (hls : Lexed ls) :
    Lexed (gap.map Lexeme.other ++ ls) := by
  refine lexed_other (fun b hb => ?_) hls
  rcases isSpace_cases (h b hb) with rfl | rfl | rfl | rfl <;> decide

theorem delimited_gap {gap : List UInt8} (h : Gap isSpace gap) {ls : List Lexeme}
    (hls : Delimited (textOf ls)) : Delimited (textOf (gap.map Lexeme.other ++ ls)) := by
  rw [textOf_append, textOf_other]
  cases gap with
  | nil => exact hls
  | cons b gap =>
      intro c hc
      rw [← Option.some.inj hc]
      rcases isSpace_cases (h b List.mem_cons_self) with rfl | rfl | rfl | rfl <;> decide

theorem delimited_close {b : UInt8} (h : closes b = true) (ls : List Lexeme) :
    Delimited (textOf (.other b :: ls)) := by
  intro c hc
  rw [← Option.some.inj hc]
  simp only [closes, Bool.or_eq_true, decide_eq_true_eq] at h
  rcases h with (rfl | rfl) | rfl <;> decide

/-- No byte of a number token ends it. -/
theorem number_not_delimiter (n : JsonNumber) : ∀ b ∈ n.text, isDelimiter b = false := by
  intro b hb
  rcases number_byte n b hb with hdigit | rfl | rfl | rfl | rfl | rfl
  · exact startsNumber_not_delimiter (by simp [startsNumber, hdigit])
  all_goals decide

theorem lexed_number (n : JsonNumber) {ls : List Lexeme} (hls : Lexed ls)
    (hend : Delimited (textOf ls)) : Lexed (.token n.text :: ls) := by
  obtain ⟨b, rest, htext, hb⟩ := number_head n
  rw [htext]
  refine .token hb (fun x hx => number_not_delimiter n x ?_) hend hls
  rw [htext]
  exact List.mem_cons_of_mem _ hx

mutual

/-- **How a value falls apart into lexemes.** -/
theorem Value.lexed : ∀ {v : Value}, v.Spaced isSpace → ∀ {ls : List Lexeme}, Lexed ls →
    Delimited (textOf ls) → Lexed (v.lexemes ++ ls)
  | .literal l, _, _, hls, _ => by
      refine lexed_other (fun b hb => ?_) hls
      have hall : (l.text.all fun b => decide (b ≠ 34 ∧ startsNumber b = false)) = true := by
        cases l <;> rfl
      exact of_decide_eq_true (List.all_eq_true.mp hall b hb)
  | .number n, _, _, hls, hend => lexed_number n hls hend
  | .string q, _, _, hls, _ => .quoted q.ok hls
  | .emptyArray gap, hv, ls, hls, _ => by
      have hrest : Lexed (gap.map Lexeme.other ++ .other 93 :: ls) :=
        lexed_gap hv (.other (by decide) (by decide) hls)
      rw [Value.lexemes, List.cons_append, List.append_assoc]
      exact .other (by decide) (by decide) hrest
  | .emptyObject gap, hv, ls, hls, _ => by
      have hrest : Lexed (gap.map Lexeme.other ++ .other 125 :: ls) :=
        lexed_gap hv (.other (by decide) (by decide) hls)
      rw [Value.lexemes, List.cons_append, List.append_assoc]
      exact .other (by decide) (by decide) hrest
  | .array items, hv, _, hls, _ => .other (by decide) (by decide) (Items.lexed hv hls)
  | .object fields, hv, _, hls, _ => .other (by decide) (by decide) (Fields.lexed hv hls)

theorem Items.lexed : ∀ {items : Items}, items.Spaced isSpace → ∀ {ls : List Lexeme}, Lexed ls →
    Lexed (items.lexemes ++ ls)
  | .last before value after, ⟨hb, hv, ha⟩, ls, hls => by
      have hclose : Lexed (.other 93 :: ls) := .other (by decide) (by decide) hls
      simp only [Items.lexemes, List.append_assoc, List.singleton_append]
      exact lexed_gap hb (Value.lexed hv (lexed_gap ha hclose)
        (delimited_gap ha (delimited_close (by decide) ls)))
  | .more before value after rest, ⟨hb, hv, ha, hr⟩, ls, hls => by
      have hclose : Lexed (.other 44 :: (rest.lexemes ++ ls)) :=
        .other (by decide) (by decide) (Items.lexed hr hls)
      simp only [Items.lexemes, List.append_assoc, List.cons_append]
      exact lexed_gap hb (Value.lexed hv (lexed_gap ha hclose)
        (delimited_gap ha (delimited_close (by decide) _)))

theorem Fields.lexed : ∀ {fields : Fields}, fields.Spaced isSpace → ∀ {ls : List Lexeme}, Lexed ls →
    Lexed (fields.lexemes ++ ls)
  | .last before key mid gap value after, ⟨hb, hm, hg, hv, ha⟩, ls, hls => by
      have hclose : Lexed (.other 125 :: ls) := .other (by decide) (by decide) hls
      simp only [Fields.lexemes, List.append_assoc, List.cons_append, List.nil_append]
      exact lexed_gap hb (.quoted key.ok (lexed_gap hm (.other (by decide) (by decide) (lexed_gap hg
        (Value.lexed hv (lexed_gap ha hclose) (delimited_gap ha (delimited_close (by decide) ls)))))))
  | .more before key mid gap value after rest, ⟨hb, hm, hg, hv, ha, hr⟩, ls, hls => by
      have hclose : Lexed (.other 44 :: (rest.lexemes ++ ls)) :=
        .other (by decide) (by decide) (Fields.lexed hr hls)
      simp only [Fields.lexemes, List.append_assoc, List.cons_append]
      exact lexed_gap hb (.quoted key.ok (lexed_gap hm (.other (by decide) (by decide) (lexed_gap hg
        (Value.lexed hv (lexed_gap ha hclose) (delimited_gap ha (delimited_close (by decide) _)))))))

end

theorem Document.lexed {d : Document} (h : d.Spaced isSpace) : Lexed d.lexemes := by
  have hgap : Lexed (d.after.map Lexeme.other) := by
    have hall := lexed_gap h.2.2 .nil
    rwa [List.append_nil] at hall
  have hend : Delimited (textOf (d.after.map Lexeme.other)) := by
    have hnil : Delimited (textOf []) := fun b hb => by cases hb
    have hall := delimited_gap h.2.2 hnil
    rwa [List.append_nil] at hall
  exact lexed_gap h.1 (Value.lexed h.2.1 hgap hend)

/-! ## 2. Rewriting the lexemes -/

section Rewrite

variable {marks : Quoted → Bool} {g : Lexeme → Lexeme} {f : JsonNumber → JsonNumber}

/-- The rewriting changes number tokens only, and every number token to a number token. -/
structure Rewrites (g : Lexeme → Lexeme) (f : JsonNumber → JsonNumber) : Prop where
  other : ∀ b, g (.other b) = .other b
  quoted : ∀ body, g (.quoted body) = .quoted body
  token : ∀ n : JsonNumber, g (.token n.text) = .token (f n).text
  other_back : ∀ l b, g l = .other b → l = .other b
  quoted_back : ∀ l body, g l = .quoted body → l = .quoted body
  token_back : ∀ l (n : JsonNumber), g l = .token n.text → ∃ m : JsonNumber, l = .token m.text ∧ f m = n

variable (h : Rewrites g f)

include h

theorem Rewrites.map_other (bytes : List UInt8) :
    (bytes.map Lexeme.other).map g = bytes.map Lexeme.other := by
  rw [List.map_map]
  exact List.map_congr_left fun b _ => h.other b

mutual

/-- The lexemes of a renumbered value are those of the value, rewritten. -/
theorem Rewrites.value (below : Bool) : ∀ v : Value,
    (v.renumber marks (fun _ => f) below).lexemes = v.lexemes.map g
  | .literal l => (h.map_other l.text).symm
  | .number n => by
      simp only [Value.renumber, Value.lexemes, List.map_cons, List.map_nil, h.token]
  | .string q => by
      simp only [Value.renumber, Value.lexemes, List.map_cons, List.map_nil, h.quoted]
  | .emptyArray gap | .emptyObject gap => by
      simp only [Value.renumber, Value.lexemes, List.map_cons, List.map_append, List.map_nil,
        h.map_other, h.other]
  | .array items => by
      simp only [Value.renumber, Value.lexemes, List.map_cons, h.other, Rewrites.items below items]
  | .object fields => by
      simp only [Value.renumber, Value.lexemes, List.map_cons, h.other, Rewrites.fields below fields]

theorem Rewrites.items (below : Bool) : ∀ items : Items,
    (items.renumber marks (fun _ => f) below).lexemes = items.lexemes.map g
  | .last _ value _ => by
      simp only [Items.renumber, Items.lexemes, List.map_append, List.map_cons, List.map_nil,
        h.map_other, h.other, Rewrites.value below value]
  | .more _ value _ rest => by
      simp only [Items.renumber, Items.lexemes, List.map_append, List.map_cons, h.map_other, h.other,
        Rewrites.value below value, Rewrites.items below rest]

theorem Rewrites.fields (below : Bool) : ∀ fields : Fields,
    (fields.renumber marks (fun _ => f) below).lexemes = fields.lexemes.map g
  | .last _ key _ _ value _ => by
      simp only [Fields.renumber, Fields.lexemes, List.map_append, List.map_cons, List.map_nil,
        h.map_other, h.other, h.quoted, Rewrites.value (below || marks key) value]
  | .more _ key _ _ value _ rest => by
      simp only [Fields.renumber, Fields.lexemes, List.map_append, List.map_cons, h.map_other,
        h.other, h.quoted, Rewrites.value (below || marks key) value, Rewrites.fields below rest]

end

theorem Rewrites.document (d : Document) :
    (d.renumber marks fun _ => f).lexemes = d.lexemes.map g := by
  simp only [Document.renumber, Document.lexemes, List.map_append, h.map_other,
    Rewrites.value h false d.value]

theorem Rewrites.other_split {bytes : List UInt8} {ls tail : List Lexeme}
    (e : ls.map g = bytes.map Lexeme.other ++ tail) :
    ∃ rest, ls = bytes.map Lexeme.other ++ rest ∧ rest.map g = tail := by
  induction bytes generalizing ls with
  | nil => exact ⟨ls, rfl, e⟩
  | cons b bytes ih =>
      obtain ⟨l, ls, rfl, hl, hrest⟩ := List.map_eq_cons_iff.mp e
      obtain ⟨rest, rfl, htail⟩ := ih hrest
      rw [h.other_back l b hl]
      exact ⟨rest, rfl, htail⟩

theorem Rewrites.cons_split {b : UInt8} {ls tail : List Lexeme} (e : ls.map g = .other b :: tail) :
    ∃ rest, ls = .other b :: rest ∧ rest.map g = tail := by
  obtain ⟨l, ls, rfl, hl, hrest⟩ := List.map_eq_cons_iff.mp e
  rw [h.other_back l b hl]
  exact ⟨ls, rfl, hrest⟩

theorem Rewrites.quoted_split {body : List UInt8} {ls tail : List Lexeme}
    (e : ls.map g = .quoted body :: tail) : ∃ rest, ls = .quoted body :: rest ∧ rest.map g = tail := by
  obtain ⟨l, ls, rfl, hl, hrest⟩ := List.map_eq_cons_iff.mp e
  rw [h.quoted_back l body hl]
  exact ⟨ls, rfl, hrest⟩

mutual

/-- **What is rewritten to a value was a value.** -/
theorem Rewrites.value_back (below : Bool) : ∀ (v : Value) {ls tail : List Lexeme},
    ls.map g = v.lexemes ++ tail → ∃ (w : Value) (rest : List Lexeme), ls = w.lexemes ++ rest ∧
      rest.map g = tail ∧ w.renumber marks (fun _ => f) below = v
  | .literal l, ls, tail, e => by
      obtain ⟨rest, rfl, htail⟩ := h.other_split e
      exact ⟨.literal l, rest, rfl, htail, rfl⟩
  | .number n, ls, tail, e => by
      obtain ⟨l, ls, rfl, hl, hrest⟩ := List.map_eq_cons_iff.mp e
      obtain ⟨m, rfl, rfl⟩ := h.token_back l n hl
      exact ⟨.number m, ls, rfl, hrest, rfl⟩
  | .string q, ls, tail, e => by
      obtain ⟨rest, rfl, htail⟩ := h.quoted_split e
      exact ⟨.string q, rest, rfl, htail, rfl⟩
  | .emptyArray gap, ls, tail, e => by
      rw [Value.lexemes, List.cons_append, List.append_assoc] at e
      obtain ⟨ls, rfl, e1⟩ := h.cons_split e
      obtain ⟨ls, rfl, e2⟩ := h.other_split e1
      obtain ⟨rest, rfl, htail⟩ := h.cons_split e2
      exact ⟨.emptyArray gap, rest, by simp [Value.lexemes], htail, rfl⟩
  | .emptyObject gap, ls, tail, e => by
      rw [Value.lexemes, List.cons_append, List.append_assoc] at e
      obtain ⟨ls, rfl, e1⟩ := h.cons_split e
      obtain ⟨ls, rfl, e2⟩ := h.other_split e1
      obtain ⟨rest, rfl, htail⟩ := h.cons_split e2
      exact ⟨.emptyObject gap, rest, by simp [Value.lexemes], htail, rfl⟩
  | .array items, ls, tail, e => by
      obtain ⟨ls, rfl, e1⟩ := h.cons_split e
      obtain ⟨w, rest, rfl, htail, rfl⟩ := Rewrites.items_back below items e1
      exact ⟨.array w, rest, rfl, htail, rfl⟩
  | .object fields, ls, tail, e => by
      obtain ⟨ls, rfl, e1⟩ := h.cons_split e
      obtain ⟨w, rest, rfl, htail, rfl⟩ := Rewrites.fields_back below fields e1
      exact ⟨.object w, rest, rfl, htail, rfl⟩

theorem Rewrites.items_back (below : Bool) : ∀ (items : Items) {ls tail : List Lexeme},
    ls.map g = items.lexemes ++ tail → ∃ (w : Items) (rest : List Lexeme), ls = w.lexemes ++ rest ∧
      rest.map g = tail ∧ w.renumber marks (fun _ => f) below = items
  | .last before value after, ls, tail, e => by
      simp only [Items.lexemes, List.append_assoc, List.singleton_append] at e
      obtain ⟨ls, rfl, e1⟩ := h.other_split e
      obtain ⟨w, ls, rfl, e2, rfl⟩ := Rewrites.value_back below value e1
      obtain ⟨ls, rfl, e3⟩ := h.other_split e2
      obtain ⟨rest, rfl, htail⟩ := h.cons_split e3
      exact ⟨.last before w after, rest, by simp [Items.lexemes], htail, rfl⟩
  | .more before value after items, ls, tail, e => by
      simp only [Items.lexemes, List.append_assoc, List.cons_append] at e
      obtain ⟨ls, rfl, e1⟩ := h.other_split e
      obtain ⟨w, ls, rfl, e2, rfl⟩ := Rewrites.value_back below value e1
      obtain ⟨ls, rfl, e3⟩ := h.other_split e2
      obtain ⟨ls, rfl, e4⟩ := h.cons_split e3
      obtain ⟨ws, rest, rfl, htail, rfl⟩ := Rewrites.items_back below items e4
      exact ⟨.more before w after ws, rest, by simp [Items.lexemes], htail, rfl⟩

theorem Rewrites.fields_back (below : Bool) : ∀ (fields : Fields) {ls tail : List Lexeme},
    ls.map g = fields.lexemes ++ tail → ∃ (w : Fields) (rest : List Lexeme),
      ls = w.lexemes ++ rest ∧ rest.map g = tail ∧ w.renumber marks (fun _ => f) below = fields
  | .last before key mid gap value after, ls, tail, e => by
      simp only [Fields.lexemes, List.append_assoc, List.cons_append, List.nil_append] at e
      obtain ⟨ls, rfl, e1⟩ := h.other_split e
      obtain ⟨ls, rfl, e2⟩ := h.quoted_split e1
      obtain ⟨ls, rfl, e3⟩ := h.other_split e2
      obtain ⟨ls, rfl, e4⟩ := h.cons_split e3
      obtain ⟨ls, rfl, e5⟩ := h.other_split e4
      obtain ⟨w, ls, rfl, e6, rfl⟩ := Rewrites.value_back (below || marks key) value e5
      obtain ⟨ls, rfl, e7⟩ := h.other_split e6
      obtain ⟨rest, rfl, htail⟩ := h.cons_split e7
      exact ⟨.last before key mid gap w after, rest, by simp [Fields.lexemes], htail, rfl⟩
  | .more before key mid gap value after fields, ls, tail, e => by
      simp only [Fields.lexemes, List.append_assoc, List.cons_append] at e
      obtain ⟨ls, rfl, e1⟩ := h.other_split e
      obtain ⟨ls, rfl, e2⟩ := h.quoted_split e1
      obtain ⟨ls, rfl, e3⟩ := h.other_split e2
      obtain ⟨ls, rfl, e4⟩ := h.cons_split e3
      obtain ⟨ls, rfl, e5⟩ := h.other_split e4
      obtain ⟨w, ls, rfl, e6, rfl⟩ := Rewrites.value_back (below || marks key) value e5
      obtain ⟨ls, rfl, e7⟩ := h.other_split e6
      obtain ⟨ls, rfl, e8⟩ := h.cons_split e7
      obtain ⟨ws, rest, rfl, htail, rfl⟩ := Rewrites.fields_back below fields e8
      exact ⟨.more before key mid gap w after ws, rest, by simp [Fields.lexemes], htail, rfl⟩

end

/-- **What is rewritten to a document was a document.** -/
theorem Rewrites.document_back {d : Document} {ls : List Lexeme} (e : ls.map g = d.lexemes) :
    ∃ w : Document, ls = w.lexemes ∧ w.renumber marks (fun _ => f) = d := by
  obtain ⟨before, value, after⟩ := d
  obtain ⟨ls, rfl, e1⟩ := h.other_split e
  obtain ⟨w, ls, rfl, e2, rfl⟩ : ∃ (w : Value) (rest : List Lexeme), ls = w.lexemes ++ rest ∧
      rest.map g = after.map .other ++ [] ∧ w.renumber marks (fun _ => f) false = value := by
    rw [List.append_nil]
    exact h.value_back false value e1
  obtain ⟨rest, rfl, e3⟩ := h.other_split e2
  obtain rfl := List.map_eq_nil_iff.mp e3
  exact ⟨⟨before, w, after⟩, by simp [Document.lexemes], rfl⟩

end Rewrite

end Lib.JsonText
