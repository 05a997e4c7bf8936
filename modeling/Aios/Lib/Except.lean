/-
  File:      Aios/Lib/Except.lean
  Subject:   Checks and loops that stop at the first error, with one inversion law each.

  * `rejectIf bad e` -- `if bad { return Err(e) }`;
  * `expect o e` -- the value of `o`, or the error of a missing one;
  * `forEach l f` -- run a check on every element, in order;
  * `collect l f` -- run `f` on every element and join the lists it returns.

  A proof about a function written with them peels the function apart with `bind_eq_ok` and these
  laws and never unfolds the monad.
-/
import Mathlib.Data.List.Forall2

namespace Lib

variable {ε α β : Type}

theorem bind_eq_ok {x : Except ε α} {f : α → Except ε β} {b : β} :
    x.bind f = .ok b ↔ ∃ a, x = .ok a ∧ f a = .ok b := by
  cases x with
  | error e => simp [Except.bind]
  | ok a => simp [Except.bind]

theorem bind_eq_ok' {x : Except ε α} {f : α → Except ε β} {b : β} :
    (x >>= f) = .ok b ↔ ∃ a, x = .ok a ∧ f a = .ok b := bind_eq_ok

theorem map_eq_ok {x : Except ε α} {f : α → β} {b : β} : x.map f = .ok b ↔ ∃ a, x = .ok a ∧ f a = b := by
  cases x with
  | error e => simp [Except.map]
  | ok a => simp [Except.map]

theorem mapError_eq_ok {δ : Type} {x : Except ε α} {f : ε → δ} {a : α} :
    x.mapError f = .ok a ↔ x = .ok a := by
  cases x <;> simp [Except.mapError]

theorem ok_bind {a : α} {f : α → Except ε β} : (Except.ok a >>= f) = f a := rfl

/-- A check that leaves nothing behind precedes `f`. -/
theorem unit_bind_eq_ok {x : Except ε Unit} {f : Unit → Except ε β} {b : β} :
    (x >>= f) = .ok b ↔ x = .ok () ∧ f () = .ok b := by
  rw [bind_eq_ok']
  exact ⟨fun ⟨_, h⟩ => h, fun h => ⟨(), h⟩⟩

theorem exists_unit {P : Unit → Prop} : (∃ u, P u) ↔ P () := ⟨fun ⟨_, h⟩ => h, fun h => ⟨(), h⟩⟩

/-- Fails with `e` where the condition holds. -/
def rejectIf (bad : Bool) (e : ε) : Except ε Unit := if bad then .error e else .ok ()

@[simp] theorem rejectIf_ok {bad : Bool} {e : ε} {u : Unit} :
    rejectIf bad e = .ok u ↔ bad = false := by
  cases bad <;> simp [rejectIf]

/-- The value, or the error of a missing one. -/
def expect (o : Option α) (e : ε) : Except ε α :=
  match o with
  | some a => .ok a
  | none => .error e

@[simp] theorem expect_ok {o : Option α} {e : ε} {a : α} : expect o e = .ok a ↔ o = some a := by
  cases o <;> simp [expect]

/-! ## What a failure is like -/

/-- Whatever error the computation ends with has the property. -/
def FailsWith (P : ε → Prop) (x : Except ε α) : Prop := ∀ e, x = .error e → P e

theorem failsWith_ok {P : ε → Prop} {a : α} : FailsWith P (.ok a) := fun _ h => by cases h

theorem failsWith_bind {P : ε → Prop} {x : Except ε α} {f : α → Except ε β} (hx : FailsWith P x)
    (hf : ∀ a, FailsWith P (f a)) : FailsWith P (x >>= f) := by
  intro e h
  cases x with
  | error d =>
      have e' : d = e := Except.error.inj h
      exact hx e (by rw [e'])
  | ok a => exact hf a e h

theorem failsWith_rejectIf {P : ε → Prop} {bad : Bool} {e : ε} (h : P e) :
    FailsWith P (rejectIf bad e) := by
  intro d hd
  cases bad with
  | false => cases hd
  | true =>
      have e' : e = d := Except.error.inj hd
      rw [← e']
      exact h

theorem failsWith_expect {P : ε → Prop} {o : Option α} {e : ε} (h : P e) : FailsWith P (expect o e) := by
  intro d hd
  cases o with
  | some a => cases hd
  | none =>
      have e' : e = d := Except.error.inj hd
      rw [← e']
      exact h

theorem failsWith_mapError {δ : Type} {P : ε → Prop} {x : Except δ α} {f : δ → ε}
    (h : ∀ d, P (f d)) : FailsWith P (x.mapError f) := by
  intro e he
  cases x with
  | error d =>
      have e' : f d = e := Except.error.inj he
      rw [← e']
      exact h d
  | ok a => cases he

/-! ## Loops -/

/-- Runs a check on every element, up to the first failure. -/
def forEach : List α → (α → Except ε Unit) → Except ε Unit
  | [], _ => .ok ()
  | a :: l, f => do f a; forEach l f

/-- **A loop of checks passes exactly when every check passes.** -/
theorem forEach_ok {l : List α} {f : α → Except ε Unit} {u : Unit} :
    forEach l f = .ok u ↔ ∀ a ∈ l, f a = .ok () := by
  induction l with
  | nil => simp [forEach]
  | cons a l ih =>
      rw [forEach, unit_bind_eq_ok, ih]
      simp

/-- Runs `f` on every element and joins what it returns, up to the first failure. -/
def collect : List α → (α → Except ε (List β)) → Except ε (List β)
  | [], _ => .ok []
  | a :: l, f => do
      let xs ← f a
      let ys ← collect l f
      return xs ++ ys

/-- A joined result is that of the elements, and each element's run succeeded. -/
theorem mem_collect {l : List α} {f : α → Except ε (List β)} {r : List β} (h : collect l f = .ok r) :
    (∀ a ∈ l, ∃ xs, f a = .ok xs ∧ ∀ x ∈ xs, x ∈ r) ∧
      ∀ x ∈ r, ∃ a ∈ l, ∃ xs, f a = .ok xs ∧ x ∈ xs := by
  induction l generalizing r with
  | nil =>
      simp only [collect, Except.ok.injEq] at h
      subst h
      simp
  | cons a l ih =>
      rw [collect, bind_eq_ok'] at h
      obtain ⟨xs, hxs, h⟩ := h
      rw [bind_eq_ok'] at h
      obtain ⟨ys, hys, h⟩ := h
      have e : xs ++ ys = r := by simpa [pure, Except.pure] using h
      subst e
      obtain ⟨h1, h2⟩ := ih hys
      refine ⟨fun b hb => ?_, fun x hx => ?_⟩
      · rcases List.mem_cons.mp hb with rfl | hb
        · exact ⟨xs, hxs, fun x hx => List.mem_append_left _ hx⟩
        · obtain ⟨zs, hz, hin⟩ := h1 b hb
          exact ⟨zs, hz, fun x hx => List.mem_append_right _ (hin x hx)⟩
      · rcases List.mem_append.mp hx with hx | hx
        · exact ⟨a, List.mem_cons_self, xs, hxs, hx⟩
        · obtain ⟨b, hb, zs, hz, hin⟩ := h2 x hx
          exact ⟨b, List.mem_cons_of_mem _ hb, zs, hz, hin⟩

/-- **A joined result is empty exactly when every run returned nothing.** -/
theorem collect_nil {l : List α} {f : α → Except ε (List β)} :
    collect l f = .ok [] ↔ ∀ a ∈ l, f a = .ok [] := by
  induction l with
  | nil => simp [collect]
  | cons a l ih =>
      rw [collect, bind_eq_ok']
      constructor
      · rintro ⟨xs, hxs, h⟩
        rw [bind_eq_ok'] at h
        obtain ⟨ys, hys, h⟩ := h
        have e : xs ++ ys = [] := by simpa [pure, Except.pure] using h
        obtain ⟨rfl, rfl⟩ := List.append_eq_nil_iff.mp e
        intro b hb
        rcases List.mem_cons.mp hb with rfl | hb
        · exact hxs
        · exact ih.mp hys b hb
      · intro h
        refine ⟨[], h a List.mem_cons_self, ?_⟩
        rw [bind_eq_ok']
        exact ⟨[], ih.mpr fun b hb => h b (List.mem_cons_of_mem _ hb), rfl⟩

/-- A loop whose every run succeeds succeeds. -/
theorem collect_total {l : List α} {f : α → Except ε (List β)} (h : ∀ a ∈ l, ∃ xs, f a = .ok xs) :
    ∃ r, collect l f = .ok r := by
  induction l with
  | nil => exact ⟨[], rfl⟩
  | cons a l ih =>
      obtain ⟨xs, hxs⟩ := h a List.mem_cons_self
      obtain ⟨ys, hys⟩ := ih fun b hb => h b (List.mem_cons_of_mem _ hb)
      exact ⟨xs ++ ys, by rw [collect, hxs, hys]; rfl⟩

/-- **A map of fallible steps succeeds exactly when every step does, element by element.** -/
theorem mapM_ok {l : List α} {f : α → Except ε β} {r : List β} :
    l.mapM f = .ok r ↔ List.Forall₂ (fun a b => f a = .ok b) l r := by
  induction l generalizing r with
  | nil =>
      rw [List.mapM_nil, List.forall₂_nil_left_iff]
      exact ⟨fun h => (Except.ok.inj h).symm, fun h => by rw [h]; rfl⟩
  | cons a l ih =>
      rw [List.mapM_cons, bind_eq_ok', List.forall₂_cons_left_iff]
      constructor
      · rintro ⟨b, hb, h⟩
        rw [bind_eq_ok'] at h
        obtain ⟨bs, hbs, h⟩ := h
        exact ⟨b, bs, hb, ih.mp hbs, (Except.ok.inj h).symm⟩
      · rintro ⟨b, bs, hb, hbs, rfl⟩
        exact ⟨b, hb, bind_eq_ok'.mpr ⟨bs, ih.mpr hbs, rfl⟩⟩

/-- What every step keeps, the map keeps in order. -/
theorem map_of_mapM {γ : Type} {l : List α} {f : α → Except ε β} {r : List β} {g : β → γ} {k : α → γ}
    (hstep : ∀ a b, f a = .ok b → g b = k a) (h : l.mapM f = .ok r) : r.map g = l.map k := by
  have hall := mapM_ok.mp h
  clear h
  induction hall with
  | nil => rfl
  | cons hab _ ih => rw [List.map_cons, List.map_cons, ih, hstep _ _ hab]

/-- Every element of the result is that of some step. -/
theorem exists_of_mem_mapM {l : List α} {f : α → Except ε β} {r : List β} (h : l.mapM f = .ok r) {b : β}
    (hb : b ∈ r) : ∃ a ∈ l, f a = .ok b := by
  have hall := mapM_ok.mp h
  clear h
  induction hall with
  | nil => cases hb
  | cons hstep _ ih =>
      rcases List.mem_cons.mp hb with rfl | hb
      · exact ⟨_, List.mem_cons_self, hstep⟩
      · obtain ⟨a, ha, hf⟩ := ih hb
        exact ⟨a, List.mem_cons_of_mem _ ha, hf⟩

/-- A computation that succeeds, with its value named by a fallback that is not used. -/
theorem eq_ok_getD {x : Except ε α} (h : x.toOption.isSome = true) (fallback : α) :
    x = .ok (x.toOption.getD fallback) := by
  cases x with
  | error e => cases h
  | ok a => rfl

end Lib
