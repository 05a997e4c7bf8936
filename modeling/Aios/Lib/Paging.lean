/-
  File:      Aios/Lib/Paging.lean
  Subject:   READING A LIST PAGE BY PAGE: a page asks for one item more than its limit, and the
             item beyond the limit says that there is a next page.

  The rows after a cursor are the surroundings' (`rest`). All they owe is that the cursor of a row
  leads to the rows behind it. Then the pages, one after the other, are the whole list
  (`pages_iff`): no row is lost, none is read twice, and a row that cannot be read stops the walk.
-/
import Aios.Lib.Except

namespace Lib

variable {δ ε α β γ : Type}

/-- Reading every element succeeds on a joined list exactly when it does on both parts. -/
theorem mapM_append_ok {f : α → Except ε β} {l r : List α} {out : List β} :
    (l ++ r).mapM f = .ok out ↔
      ∃ front back, l.mapM f = .ok front ∧ r.mapM f = .ok back ∧ out = front ++ back := by
  rw [List.mapM_append]
  simp only [bind_eq_ok']
  constructor
  · intro ⟨front, hfront, back, hback, e⟩
    exact ⟨front, back, hfront, hback, (Except.ok.inj e).symm⟩
  · intro ⟨front, back, hfront, hback, e⟩
    exact ⟨front, hfront, back, hback, by rw [e]; rfl⟩

/-- One page of these rows: at most `limit` items, and the cursor of the last of them where a
    further row was there to be read. -/
def readPage (load : α → Except ε β) (cursorOf : β → γ) (limit : Nat) (rows : List α) :
    Except ε (List β × Option γ) := do
  let items ← (rows.take (limit + 1)).mapM load
  if limit < items.length then return (items.dropLast, items.dropLast.getLast?.map cursorOf)
  else return (items, none)

/-- The items of the pages from a cursor on, each page read after the last item of the one before
    it. -/
inductive Pages (fetch : Option γ → Except δ (List β × Option γ)) : Option γ → List β → Prop where
  | last {cursor : Option γ} {items : List β} : fetch cursor = .ok (items, none) →
      Pages fetch cursor items
  | more {cursor : Option γ} {next : γ} {items rest : List β} :
      fetch cursor = .ok (items, some next) → Pages fetch (some next) rest →
      Pages fetch cursor (items ++ rest)

section Walk

variable {load : α → Except ε β} {cursorOf : β → γ} {limit : Nat}

/-- A page of few rows is all of them. -/
theorem readPage_short {rows : List α} (h : rows.length ≤ limit) {items : List β} :
    readPage load cursorOf limit rows = .ok (items, none) ↔ rows.mapM load = .ok items := by
  have htake : rows.take (limit + 1) = rows := List.take_of_length_le (by omega)
  unfold readPage
  rw [htake, bind_eq_ok']
  constructor
  · intro ⟨found, hfound, h'⟩
    have hlength := (mapM_ok.mp hfound).length_eq
    rw [if_neg (by omega)] at h'
    have e : (found, none) = (items, (none : Option γ)) := Except.ok.inj h'
    rw [hfound, (Prod.mk.inj e).1]
  · intro hitems
    have hlength := (mapM_ok.mp hitems).length_eq
    exact ⟨items, hitems, by rw [if_neg (by omega)]; rfl⟩

/-- A page of more rows than its limit: it holds the rows up to the last one it may hold, whose
    cursor it returns, and the row behind them could be read as well. -/
theorem readPage_long {front back : List α} {a x : α} (h : front.length + 1 = limit)
    {page : List β × Option γ} :
    readPage load cursorOf limit (front ++ a :: x :: back) = .ok page ↔
      ∃ items b y, front.mapM load = .ok items ∧ load a = .ok b ∧ load x = .ok y ∧
        page = (items ++ [b], some (cursorOf b)) := by
  have htake : (front ++ a :: x :: back).take (limit + 1) = front ++ [a, x] := by
    rw [← h, show front.length + 1 + 1 = front.length + 2 from rfl, List.take_length_add_append]
    rfl
  have htwo : ∀ tail, [a, x].mapM load = .ok tail ↔ ∃ b y, load a = .ok b ∧ load x = .ok y ∧
      tail = [b, y] := by
    intro tail
    rw [mapM_ok]
    constructor
    · rintro (_ | ⟨ha, _ | ⟨hx, _ | _⟩⟩)
      exact ⟨_, _, ha, hx, rfl⟩
    · rintro ⟨b, y, ha, hx, rfl⟩
      exact .cons ha (.cons hx .nil)
  unfold readPage
  rw [htake, bind_eq_ok']
  simp only [mapM_append_ok, htwo]
  constructor
  · rintro ⟨found, ⟨items, tail, hitems, ⟨b, y, hb, hy, rfl⟩, rfl⟩, hpage⟩
    have hlength := (mapM_ok.mp hitems).length_eq
    have hdrop : (items ++ [b, y]).dropLast = items ++ [b] := by
      rw [show items ++ [b, y] = (items ++ [b]) ++ [y] by simp, List.dropLast_concat]
    rw [if_pos (by simp; omega), hdrop, List.getLast?_concat] at hpage
    exact ⟨items, b, y, hitems, hb, hy, (Except.ok.inj hpage).symm⟩
  · rintro ⟨items, b, y, hitems, hb, hy, rfl⟩
    have hlength := (mapM_ok.mp hitems).length_eq
    have hdrop : (items ++ [b, y]).dropLast = items ++ [b] := by
      rw [show items ++ [b, y] = (items ++ [b]) ++ [y] by simp, List.dropLast_concat]
    refine ⟨items ++ [b, y], ⟨items, [b, y], hitems, ⟨b, y, hb, hy, rfl⟩, rfl⟩, ?_⟩
    rw [if_pos (by simp; omega), hdrop, List.getLast?_concat]
    rfl

/-- More rows than the limit, split behind the last one a page may hold. -/
theorem split_long {rows : List α} (hlimit : 0 < limit) (h : limit < rows.length) :
    ∃ front a x back, rows = front ++ a :: x :: back ∧ front.length + 1 = limit := by
  obtain ⟨n, rfl⟩ : ∃ n, limit = n + 1 := ⟨limit - 1, by omega⟩
  have hdrop : (rows.drop n).length = rows.length - n := List.length_drop
  match hr : rows.drop n with
  | [] => rw [hr] at hdrop; simp at hdrop; omega
  | [_] => rw [hr] at hdrop; simp at hdrop; omega
  | a :: x :: back =>
      refine ⟨rows.take n, a, x, back, ?_, ?_⟩
      · rw [← hr, List.take_append_drop]
      · rw [List.length_take]
        omega

/-- **The pages are the whole list**, where every cursor leads to the rows behind its row. -/
theorem pages_iff {fetch : Option γ → Except δ (List β × Option γ)} {rest : Option γ → List α}
    {Good : Option γ → Prop} (hlimit : 0 < limit)
    (hfetch : ∀ cursor, Good cursor → ∀ page,
      fetch cursor = .ok page ↔ readPage load cursorOf limit (rest cursor) = .ok page)
    (hrest : ∀ cursor, Good cursor → ∀ front a back b, rest cursor = front ++ a :: back →
      load a = .ok b → Good (some (cursorOf b)) ∧ rest (some (cursorOf b)) = back)
    {cursor : Option γ} (h : Good cursor) {items : List β} :
    Pages fetch cursor items ↔ (rest cursor).mapM load = .ok items := by
  constructor
  · intro hpages
    induction hpages with
    | @last cursor items hpage =>
        rw [hfetch cursor h _] at hpage
        by_cases hshort : (rest cursor).length ≤ limit
        · exact (readPage_short hshort).mp hpage
        · obtain ⟨front, a, x, back, e, hfront⟩ := split_long hlimit (Nat.lt_of_not_le hshort)
          rw [e, readPage_long hfront] at hpage
          obtain ⟨_, _, _, _, _, _, e⟩ := hpage
          cases e
    | @more cursor next page items hpage _ ih =>
        rw [hfetch cursor h _] at hpage
        by_cases hshort : (rest cursor).length ≤ limit
        · unfold readPage at hpage
          rw [List.take_of_length_le (by omega), bind_eq_ok'] at hpage
          obtain ⟨found, hfound, hpage⟩ := hpage
          have hlength := (mapM_ok.mp hfound).length_eq
          rw [if_neg (by omega)] at hpage
          cases hpage
        · obtain ⟨front, a, x, back, e, hfront⟩ := split_long hlimit (Nat.lt_of_not_le hshort)
          rw [e, readPage_long hfront] at hpage
          obtain ⟨before, b, y, hbefore, hb, _, hp⟩ := hpage
          simp only [Prod.mk.injEq, Option.some.injEq] at hp
          obtain ⟨rfl, rfl⟩ := hp
          obtain ⟨hgood, hback⟩ := hrest cursor h front a (x :: back) b e hb
          have hitems := ih hgood
          rw [hback] at hitems
          rw [e, mapM_append_ok]
          refine ⟨before, b :: items, hbefore, ?_, by simp⟩
          exact mapM_ok.mpr (.cons hb (mapM_ok.mp hitems))
  · intro hall
    -- along the number of rows that are left
    induction hn : (rest cursor).length using Nat.strongRecOn generalizing cursor items with
    | _ n ih =>
        by_cases hshort : (rest cursor).length ≤ limit
        · refine .last ?_
          rw [hfetch cursor h _]
          exact (readPage_short hshort).mpr hall
        · obtain ⟨front, a, x, back, e, hfront⟩ := split_long hlimit (Nat.lt_of_not_le hshort)
          rw [e, mapM_append_ok] at hall
          obtain ⟨before, tail, hbefore, htail, rfl⟩ := hall
          obtain ⟨b, after, hb, hafter, rfl⟩ := List.forall₂_cons_left_iff.mp (mapM_ok.mp htail)
          obtain ⟨hgood, hback⟩ := hrest cursor h front a (x :: back) b e hb
          obtain ⟨y, _, hy, _, _⟩ := List.forall₂_cons_left_iff.mp hafter
          have hfewer : (rest (some (cursorOf b))).length < n := by
            rw [hback, ← hn, e]
            simp only [List.length_append, List.length_cons]
            omega
          have hbehind : (rest (some (cursorOf b))).mapM load = .ok after := by
            rw [hback]
            exact mapM_ok.mpr hafter
          have hnext := ih _ hfewer hgood hbehind rfl
          have hpage : fetch cursor = .ok (before ++ [b], some (cursorOf b)) := by
            rw [hfetch cursor h _, e]
            exact (readPage_long hfront).mpr ⟨before, b, y, hbefore, hb, hy, rfl⟩
          have hwhole := Pages.more hpage hnext
          rwa [List.append_assoc, List.singleton_append] at hwhole

end Walk

end Lib
