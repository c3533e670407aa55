import Mathlib.Data.List.Forall2

/-! Results of steps that may fail: what a result that is there has come through, when two
results fail alike, and what all failures have in common. -/

namespace GuardedSql.Result

variable {α α' β β' γ ε ε' : Type}

theorem bind_eq_ok {x : Except ε α} {f : α → Except ε β} {b : β} (h : (x >>= f) = .ok b) :
    ∃ a, x = .ok a ∧ f a = .ok b := by
  cases x with
  | error e => cases h
  | ok a => exact ⟨a, rfl, h⟩

theorem map_eq_ok {x : Except ε α} {f : α → β} {b : β} (h : x.map f = .ok b) :
    ∃ a, x = .ok a ∧ f a = b := by
  cases x with
  | error e => cases h
  | ok a => exact ⟨a, rfl, Except.ok.inj h⟩

theorem mapError_eq_ok {x : Except ε α} {f : ε → ε'} {a : α} (h : x.mapError f = .ok a) :
    x = .ok a := by
  cases x with
  | error e => cases h
  | ok b => exact congrArg Except.ok (Except.ok.inj h)

theorem forall₂_of_mapM {f : α → Except ε β} {l : List α} {r : List β}
    (h : l.mapM f = .ok r) : List.Forall₂ (fun a b => f a = .ok b) l r := by
  induction l generalizing r with
  | nil =>
    obtain rfl := Except.ok.inj h
    exact .nil
  | cons a l ih =>
    rw [List.mapM_cons] at h
    obtain ⟨b, ha, htail⟩ := bind_eq_ok h
    obtain ⟨bs, hl, hr⟩ := bind_eq_ok htail
    obtain rfl := Except.ok.inj hr
    exact .cons ha (ih hl)

theorem exists_of_mem_mapM {f : α → Except ε β} {l : List α} {r : List β}
    (h : l.mapM f = .ok r) {b : β} (hb : b ∈ r) : ∃ a ∈ l, f a = .ok b := by
  have hsteps := forall₂_of_mapM h
  clear h
  induction hsteps with
  | nil => cases hb
  | cons ha _ ih =>
    cases hb with
    | head => exact ⟨_, List.mem_cons_self, ha⟩
    | tail _ hb =>
      obtain ⟨a, hmem, ha⟩ := ih hb
      exact ⟨a, List.mem_cons_of_mem _ hmem, ha⟩

/-- Two results that look the same are both failures, and the same one, or both there. -/
theorem map_eq_map_cases {f : α → γ} {g : β → γ} {x : Except ε α} {y : Except ε β}
    (h : x.map f = y.map g) :
    (∃ e, x = .error e ∧ y = .error e) ∨ ∃ a b, x = .ok a ∧ y = .ok b ∧ f a = g b := by
  cases x with
  | error e =>
    cases y with
    | error e' => exact .inl ⟨e, rfl, by rw [Except.error.inj h]⟩
    | ok b => cases h
  | ok a =>
    cases y with
    | error e => cases h
    | ok b => exact .inr ⟨a, b, rfl, rfl, Except.ok.inj h⟩

/-- Two traversals whose steps look the same look the same. -/
theorem mapM_congr {f : α → Except ε β} {g : α' → Except ε β'} {view : α → β → γ}
    {view' : α' → β' → γ} {l : List α} {l' : List α'}
    (h : List.Forall₂ (fun a a' => (f a).map (view a) = (g a').map (view' a')) l l') :
    (l.mapM f).map (fun r => (l.zip r).map fun p => view p.1 p.2)
      = (l'.mapM g).map fun r => (l'.zip r).map fun p => view' p.1 p.2 := by
  induction h with
  | nil => rfl
  | cons hstep _ ih =>
    rw [List.mapM_cons, List.mapM_cons]
    rcases map_eq_map_cases hstep with ⟨e, hf, hg⟩ | ⟨b, b', hf, hg, hview⟩
    · rw [hf, hg]
      rfl
    · rw [hf, hg]
      rcases map_eq_map_cases ih with ⟨e, hf', hg'⟩ | ⟨bs, bs', hf', hg', hviews⟩
      · simp only [bind, Except.bind, hf', hg']
        rfl
      · simp only [bind, Except.bind, hf', hg', pure, Except.pure, Except.map, List.zip_cons_cons,
          List.map_cons, hview, hviews]

/-- A traversal succeeds exactly if all of its steps do. -/
theorem exists_mapM_eq_ok_iff {f : α → Except ε β} {l : List α} :
    (∃ r, l.mapM f = .ok r) ↔ ∀ a ∈ l, ∃ b, f a = .ok b := by
  induction l with
  | nil => exact ⟨fun _ a ha => (by cases ha), fun _ => ⟨[], rfl⟩⟩
  | cons a l ih =>
    rw [List.forall_mem_cons, ← ih, List.mapM_cons]
    constructor
    · rintro ⟨r, h⟩
      obtain ⟨b, ha, htail⟩ := bind_eq_ok h
      obtain ⟨bs, hl, -⟩ := bind_eq_ok htail
      exact ⟨⟨b, ha⟩, bs, hl⟩
    · rintro ⟨⟨b, ha⟩, bs, hl⟩
      exact ⟨b :: bs, by rw [ha]; simp only [bind, Except.bind, hl]; rfl⟩

theorem mapM_cons_eq_error_iff {f : α → Except ε β} {a : α} {l : List α} {e : ε} :
    (a :: l).mapM f = .error e ↔ f a = .error e ∨ (∃ b, f a = .ok b) ∧ l.mapM f = .error e := by
  rw [List.mapM_cons]
  cases f a with
  | error e' => simp [bind, Except.bind]
  | ok b => cases l.mapM f <;> simp [bind, Except.bind, pure, Except.pure]

theorem mapM_append_eq_error_iff {f : α → Except ε β} {l l' : List α} {e : ε} :
    (l ++ l').mapM f = .error e ↔
      l.mapM f = .error e ∨ (∃ r, l.mapM f = .ok r) ∧ l'.mapM f = .error e := by
  rw [List.mapM_append]
  cases l.mapM f with
  | error e' => simp [bind, Except.bind]
  | ok r => cases l'.mapM f <;> simp [bind, Except.bind, pure, Except.pure]

/-- A traversal fails as the first of its steps does that fails. -/
theorem mapM_eq_error_iff {f : α → Except ε β} {l : List α} {e : ε} :
    l.mapM f = .error e ↔ ∃ front a back, l = front ++ a :: back ∧
      (∀ x ∈ front, ∃ b, f x = .ok b) ∧ f a = .error e := by
  induction l with
  | nil => simp [pure, Except.pure]
  | cons c l ih =>
    rw [mapM_cons_eq_error_iff, ih]
    constructor
    · rintro (hc | ⟨hc, front, a, back, rfl, hfront, ha⟩)
      · exact ⟨[], c, l, rfl, by simp, hc⟩
      · exact ⟨c :: front, a, back, rfl, List.forall_mem_cons.mpr ⟨hc, hfront⟩, ha⟩
    · rintro ⟨front, a, back, hl, hfront, ha⟩
      cases front with
      | nil =>
        obtain ⟨rfl, rfl⟩ := List.cons.inj hl
        exact .inl ha
      | cons x front =>
        obtain ⟨rfl, rfl⟩ := List.cons.inj hl
        obtain ⟨hc, hfront⟩ := List.forall_mem_cons.mp hfront
        exact .inr ⟨hc, front, a, back, rfl, hfront, ha⟩

theorem bind_eq_error_iff {x : Except ε α} {f : α → Except ε β} {e : ε} :
    (x >>= f) = .error e ↔ x = .error e ∨ ∃ a, x = .ok a ∧ f a = .error e := by
  cases x <;> simp [bind, Except.bind]

theorem map_eq_error_iff {x : Except ε α} {f : α → β} {e : ε} :
    x.map f = .error e ↔ x = .error e := by
  cases x <;> simp [Except.map]

theorem mapError_eq_error_iff {x : Except ε α} {f : ε → ε'} {e : ε'} :
    x.mapError f = .error e ↔ ∃ e', x = .error e' ∧ f e' = e := by
  cases x <;> simp [Except.mapError]

/-- Of results that fail alike, one is there if the other is. -/
theorem exists_eq_ok_congr {x : Except ε α} {y : Except ε β}
    (h : ∀ e, x = .error e ↔ y = .error e) : (∃ a, x = .ok a) ↔ ∃ b, y = .ok b := by
  cases x with
  | error e => simp [(h e).mp rfl]
  | ok a =>
    cases y with
    | error e => cases (h e).mpr rfl
    | ok b => simp

/-- A condition that every failure meets. -/
def Fails (P : ε → Prop) (x : Except ε α) : Prop := ∀ e, x = .error e → P e

section Fails

variable {P : ε → Prop}

theorem fails_ok (a : α) : Fails P (.ok a : Except ε α) := by
  rintro e ⟨⟩

theorem fails_error {e : ε} (h : P e) : Fails P (.error e : Except ε α) := by
  rintro e' ⟨⟩
  exact h

theorem Fails.bind {x : Except ε α} {f : α → Except ε β} (hx : Fails P x)
    (hf : ∀ a, Fails P (f a)) : Fails P (x >>= f) := by
  intro e he
  cases x with
  | error e' =>
    obtain rfl := Except.error.inj he
    exact hx e' rfl
  | ok a => exact hf a e he

theorem Fails.map {x : Except ε α} (hx : Fails P x) (f : α → β) : Fails P (x.map f) := by
  intro e he
  cases x with
  | error e' =>
    obtain rfl := Except.error.inj he
    exact hx e' rfl
  | ok a => cases he

theorem Fails.mapError {Q : ε' → Prop} {x : Except ε α} (hx : Fails P x) {f : ε → ε'}
    (h : ∀ e, P e → Q (f e)) : Fails Q (x.mapError f) := by
  intro e he
  cases x with
  | error e' =>
    obtain rfl := Except.error.inj he
    exact h e' (hx e' rfl)
  | ok a => cases he

theorem fails_mapError {Q : ε' → Prop} {f : ε → ε'} (h : ∀ e, Q (f e)) (x : Except ε α) :
    Fails Q (x.mapError f) :=
  Fails.mapError (fun _ _ => trivial : Fails (fun _ => True) x) fun e _ => h e

theorem Fails.mapM {f : α → Except ε β} (hf : ∀ a, Fails P (f a)) (l : List α) :
    Fails P (l.mapM f) := by
  induction l with
  | nil => exact fails_ok _
  | cons a l ih =>
    rw [List.mapM_cons]
    exact (hf a).bind fun _ => ih.bind fun _ => fails_ok _

theorem Fails.mono {Q : ε → Prop} (h : ∀ e, P e → Q e) {x : Except ε α} (hx : Fails P x) :
    Fails Q x := by
  intro e he
  exact h e (hx e he)

end Fails

end GuardedSql.Result
