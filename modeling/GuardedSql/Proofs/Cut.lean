import GuardedSql.Sql.Lexer

/-! Where a cut ends. A literal that is closed by its own last quote ends there whatever follows,
unless a quote follows: then it goes on, as if the two quotes were a doubled one. A comment ends
where it ends whatever follows, unless it runs to the end of the text. -/

namespace GuardedSql.Sql

/-! Literals -/

theorem literalCut_cons {escapes : Bool} {c : Char} (hq : c ≠ '\'')
    (hb : c = '\\' → escapes = false) (t : Text) :
    literalCut escapes (c :: t) = (literalCut escapes t).after c := by
  by_cases hc : c = '\\'
  · subst hc
    cases t with
    | nil => simp [literalCut]
    | cons d t => simp [literalCut, hb rfl]
  · rw [literalCut] <;> simp_all

theorem literalCut_quote {t : Text} (h : t.head? ≠ some '\'') (escapes : Bool) :
    literalCut escapes ('\'' :: t) = ⟨['\''], t, true⟩ := by
  cases t with
  | nil => simp [literalCut]
  | cons c t => rw [literalCut]; simp_all

theorem Cut.after_eq {c : Char} {cut : Cut} {body rest : Text} {closed : Bool}
    (h : cut.after c = ⟨c :: body, rest, closed⟩) : cut = ⟨body, rest, closed⟩ := by
  cases cut
  simpa [Cut.after] using h

/-- A cut puts into its own text an end of the same kind. -/
theorem literalCut_taken (escapes : Bool) (t : Text) :
    literalCut escapes (literalCut escapes t).taken
      = ⟨(literalCut escapes t).taken, [], (literalCut escapes t).closed⟩ := by
  fun_induction literalCut escapes t with
  | case1 => simp [literalCut]
  | case2 rest ih => simp [Cut.after, literalCut, ih]
  | case3 rest h => simp [literalCut]
  | case4 c rest h ih =>
    subst h
    simp [Cut.after, literalCut, ih]
  | case5 c rest h ih =>
    have hb : escapes = false := by simpa using h
    rw [Cut.after, literalCut_cons (by decide) (fun _ => hb), ih, Cut.after]
  | case6 c rest h₁ h₂ h₃ ih =>
    have hb : c = '\\' → rest = [] := by
      intro hc
      cases rest with
      | nil => rfl
      | cons d rest => exact absurd rfl (h₃ d rest hc)
    by_cases hc : c = '\\'
    · subst hc
      simp [hb rfl, literalCut, Cut.after]
    · rw [Cut.after, literalCut_cons (fun h => h₂ h) (fun h => absurd h hc), ih, Cut.after]

/-- A cut ends only at the end of the text or before a character that is no quote. -/
theorem literalCut_rest (escapes : Bool) (t : Text) :
    ((literalCut escapes t).closed = true → (literalCut escapes t).rest.head? ≠ some '\'') ∧
      ((literalCut escapes t).closed = false → (literalCut escapes t).rest = []) := by
  fun_induction literalCut escapes t with
  | case1 => simp
  | case2 rest ih => simpa [Cut.after] using ih
  | case3 rest h => cases rest <;> simp_all
  | case4 c rest h ih => simpa [Cut.after] using ih
  | case5 c rest h ih => simpa [Cut.after] using ih
  | case6 c rest h₁ h₂ h₃ ih => simpa [Cut.after] using ih

/-- A closed literal with something behind it. With a quote there it goes on. -/
theorem literalCut_append_of_closed {escapes : Bool} {body : Text}
    (h : literalCut escapes body = ⟨body, [], true⟩) :
    (∀ t : Text, t.head? ≠ some '\'' → literalCut escapes (body ++ t) = ⟨body, t, true⟩) ∧
      ∀ t : Text, literalCut escapes (body ++ '\'' :: t)
        = ⟨body ++ '\'' :: (literalCut escapes t).taken, (literalCut escapes t).rest,
            (literalCut escapes t).closed⟩ := by
  fun_induction literalCut escapes body with
  | case1 => simp at h
  | case2 rest ih =>
    obtain ⟨ih₁, ih₂⟩ := ih (Cut.after_eq (Cut.after_eq h))
    constructor
    · intro t ht
      simp [literalCut, ih₁ t ht, Cut.after]
    · intro t
      simp [literalCut, ih₂ t, Cut.after]
  | case3 rest _ =>
    obtain rfl : rest = [] := by simpa using h
    constructor
    · intro t ht
      simpa using literalCut_quote ht escapes
    · intro t
      simp [literalCut, Cut.after]
  | case4 c rest he ih =>
    subst he
    obtain ⟨ih₁, ih₂⟩ := ih (Cut.after_eq (Cut.after_eq h))
    constructor
    · intro t ht
      simp [literalCut, ih₁ t ht, Cut.after]
    · intro t
      simp [literalCut, ih₂ t, Cut.after]
  | case5 c rest he ih =>
    have hb : escapes = false := by simpa using he
    obtain ⟨ih₁, ih₂⟩ := ih (Cut.after_eq h)
    constructor
    · intro t ht
      rw [List.cons_append, literalCut_cons (by decide) (fun _ => hb), ih₁ t ht, Cut.after]
    · intro t
      rw [List.cons_append, literalCut_cons (by decide) (fun _ => hb), ih₂ t, Cut.after]
      rfl
  | case6 c rest h₁ h₂ h₃ ih =>
    have hrest := Cut.after_eq h
    obtain ⟨ih₁, ih₂⟩ := ih hrest
    have hc : c ≠ '\\' := by
      intro hc
      cases rest with
      | nil => simp [literalCut] at hrest
      | cons d rest => exact h₃ d rest hc rfl
    constructor
    · intro t ht
      rw [List.cons_append, literalCut_cons h₂ (fun h => absurd h hc), ih₁ t ht, Cut.after]
    · intro t
      rw [List.cons_append, literalCut_cons h₂ (fun h => absurd h hc), ih₂ t, Cut.after]
      rfl

/-! Comments -/

theorem lineCut_taken_ne_nil (c : Char) (t : Text) : (lineCut (c :: t)).taken ≠ [] := by
  rw [lineCut]
  split <;> simp [Cut.after]

theorem blockCut_taken_ne_nil (c : Char) (t : Text) : (blockCut (c :: t)).taken ≠ [] := by
  rw [blockCut.eq_def]
  split <;> simp_all [Cut.after]

theorem lineCut_append_congr {body t u : Text} {closed : Bool}
    (h : lineCut (body ++ t) = ⟨body, t, closed⟩) (htu : t = [] → u = []) :
    lineCut (body ++ u) = ⟨body, u, closed⟩ := by
  induction body with
  | nil =>
    cases t with
    | nil => simpa [htu rfl] using h
    | cons c t => exact absurd (congrArg Cut.taken h) (lineCut_taken_ne_nil c t)
  | cons c body ih =>
    simp only [List.cons_append, lineCut] at h ⊢
    split at h
    · rename_i hc
      simp only [Cut.mk.injEq, List.cons.injEq, true_and] at h
      obtain ⟨hbody, -, hclosed⟩ := h
      simp [hc, ← hbody, hclosed]
    · rename_i hc
      rw [if_neg hc, ih (Cut.after_eq h), Cut.after]

theorem blockCut_cons {c : Char} {t : Text} (h : c = '*' → t.head? ≠ some '/') :
    blockCut (c :: t) = (blockCut t).after c := by
  rw [blockCut]
  rintro v rfl rfl
  exact h rfl rfl

theorem blockCut_append_congr {body t u : Text} {closed : Bool}
    (h : blockCut (body ++ t) = ⟨body, t, closed⟩) (htu : t = [] → u = []) :
    blockCut (body ++ u) = ⟨body, u, closed⟩ := by
  fun_induction blockCut body with
  | case1 =>
    cases t with
    | nil => simpa [htu rfl] using h
    | cons c t => exact absurd (congrArg Cut.taken h) (blockCut_taken_ne_nil c t)
  | case2 body =>
    simp only [List.cons_append, blockCut, Cut.mk.injEq, List.cons.injEq, true_and] at h ⊢
    obtain ⟨hbody, -, hclosed⟩ := h
    simp [← hbody, hclosed]
  | case3 c body hne ih =>
    -- no closing mark lies across the end of the body, neither before `t` nor before `u`
    have hmark : ∀ v : Text, (v = [] ∨ body ≠ []) → c = '*' → (body ++ v).head? ≠ some '/' := by
      intro v hv hc
      cases body with
      | nil => simp_all
      | cons d body => simpa using fun hd => hne body hc (by rw [hd])
    have ht : t = [] ∨ body ≠ [] := by
      cases body with
      | cons d body => simp
      | nil =>
        cases t with
        | nil => simp
        | cons d t =>
          by_cases hd : c = '*' ∧ d = '/'
          · obtain ⟨rfl, rfl⟩ := hd
            simp [blockCut] at h
          · rw [List.cons_append, List.nil_append,
              blockCut_cons (by simpa using fun hc hd' => hd ⟨hc, hd'⟩)] at h
            exact absurd (congrArg Cut.taken (Cut.after_eq h)) (blockCut_taken_ne_nil d t)
    rw [List.cons_append, blockCut_cons (hmark t ht)] at h
    have hu : u = [] ∨ body ≠ [] := ht.imp_left htu
    rw [List.cons_append, blockCut_cons (hmark u hu), ih (Cut.after_eq h), Cut.after]

end GuardedSql.Sql
