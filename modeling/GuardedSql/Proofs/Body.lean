import GuardedSql.Literal
import GuardedSql.Proofs.Cut
import GuardedSql.Proofs.Escaping

/-! The literals of texts. In the reading that belongs to its store's mode, a body is closed by the
quote put behind it and by no other. One that only has its quotes doubled is also closed so in the
reading with backslashes, exactly when no backslash of the text takes a quote or the end with
it. -/

namespace GuardedSql

open Sql

/-- The cut of an escaped body and the quote behind it takes both and nothing more. -/
def ClosesBody (escapes : Bool) (body : Text) : Prop :=
  literalCut escapes (body ++ ['\'']) = ⟨body ++ ['\''], [], true⟩

theorem closesBody_nil (escapes : Bool) : ClosesBody escapes [] := rfl

theorem closesBody_cons_iff {escapes : Bool} {c : Char} (hq : c ≠ '\'')
    (hb : c = '\\' → escapes = false) (body : Text) :
    ClosesBody escapes (c :: body) ↔ ClosesBody escapes body := by
  unfold ClosesBody
  rw [List.cons_append, literalCut_cons hq hb]
  constructor
  · intro h
    exact Cut.after_eq h
  · intro h
    rw [h, Cut.after]

theorem closesBody_doubled_iff (escapes : Bool) (body : Text) :
    ClosesBody escapes ('\'' :: '\'' :: body) ↔ ClosesBody escapes body := by
  unfold ClosesBody
  rw [List.cons_append, List.cons_append, literalCut]
  constructor
  · intro h
    exact Cut.after_eq (Cut.after_eq h)
  · intro h
    rw [h, Cut.after, Cut.after]

theorem closesBody_backslash_iff (c : Char) (body : Text) :
    ClosesBody true ('\\' :: c :: body) ↔ ClosesBody true body := by
  unfold ClosesBody
  rw [List.cons_append, List.cons_append, literalCut, if_pos rfl]
  constructor
  · intro h
    exact Cut.after_eq (Cut.after_eq h)
  · intro h
    rw [h, Cut.after, Cut.after]

/-! Each store's escaping -/

theorem closesBody_doubled_quotes (t : Text) : ClosesBody false (doubled isQuote t) := by
  induction t with
  | nil => exact closesBody_nil false
  | cons c t ih =>
    by_cases hq : c = '\''
    · subst hq
      exact (closesBody_doubled_iff false _).mpr ih
    · have hc : doubled isQuote (c :: t) = c :: doubled isQuote t := by
        simp [doubled, isQuote, hq]
      rw [hc]
      exact (closesBody_cons_iff hq (fun _ => rfl) _).mpr ih

theorem closesBody_doubled_quotes_and_backslashes (t : Text) :
    ClosesBody true (doubled isQuoteOrBackslash t) := by
  induction t with
  | nil => exact closesBody_nil true
  | cons c t ih =>
    by_cases hq : c = '\''
    · subst hq
      exact (closesBody_doubled_iff true _).mpr ih
    · by_cases hb : c = '\\'
      · subst hb
        exact (closesBody_backslash_iff '\\' _).mpr ih
      · have hc : doubled isQuoteOrBackslash (c :: t) = c :: doubled isQuoteOrBackslash t := by
          simp [doubled, isQuoteOrBackslash, hq, hb]
        rw [hc]
        exact (closesBody_cons_iff hq (fun h => absurd h hb) _).mpr ih

/-- A character keeps its form unless a backslash is put before it. -/
theorem backslashForm_cases (c : Char) :
    (∃ e, backslashForm c = ['\\', e]) ∨ (backslashForm c = [c] ∧ c ≠ '\'' ∧ c ≠ '\\') := by
  unfold backslashForm
  split
  case h_8 => simp_all
  all_goals exact .inl ⟨_, rfl⟩

theorem closesBody_backslashForm (t : Text) : ClosesBody true (t.flatMap backslashForm) := by
  induction t with
  | nil => exact closesBody_nil true
  | cons c t ih =>
    rw [List.flatMap_cons]
    rcases backslashForm_cases c with ⟨e, he⟩ | ⟨hc, hq, hb⟩
    · rw [he]
      exact (closesBody_backslash_iff e _).mpr ih
    · rw [hc]
      exact (closesBody_cons_iff hq (fun h => absurd h hb) _).mpr ih

/-- The bodies there are: one kind for stores that take backslashes as they are, two for those that
take them as escapes. -/
theorem Mode.bodyOf_cases (mode : Mode) (t : Text) :
    (mode.backslashEscapes = false ∧ mode.bodyOf t = doubled isQuote t) ∨
      (mode.backslashEscapes = true ∧
        (mode.bodyOf t = t.flatMap backslashForm ∨
          mode.bodyOf t = doubled isQuoteOrBackslash t)) := by
  cases mode with
  | sqlite => exact .inl ⟨rfl, rfl⟩
  | mysql backslashes =>
    cases backslashes with
    | true => exact .inr ⟨rfl, .inl rfl⟩
    | false => exact .inl ⟨rfl, rfl⟩
  | postgres standardStrings =>
    cases standardStrings with
    | true => exact .inl ⟨rfl, rfl⟩
    | false => exact .inr ⟨rfl, .inr rfl⟩

/-- The body of a mode ends, in that mode's own reading, with the quote behind it. -/
theorem Mode.closesBody_bodyOf (mode : Mode) (t : Text) :
    ClosesBody mode.backslashEscapes (mode.bodyOf t) := by
  rcases mode.bodyOf_cases t with ⟨hmode, hbody⟩ | ⟨hmode, hbody | hbody⟩
  · rw [hmode, hbody]
    exact closesBody_doubled_quotes t
  · rw [hmode, hbody]
    exact closesBody_backslashForm t
  · rw [hmode, hbody]
    exact closesBody_doubled_quotes_and_backslashes t

theorem Mode.bodyOf_eq_doubled {mode : Mode} (hmode : mode.backslashEscapes = false) (t : Text) :
    mode.bodyOf t = doubled isQuote t := by
  rcases mode.bodyOf_cases t with ⟨-, hbody⟩ | ⟨htrue, -⟩
  · exact hbody
  · rw [hmode] at htrue
    cases htrue

/-- A body is empty only if its text is. -/
theorem Mode.bodyOf_ne_nil (mode : Mode) {t : Text} (h : t ≠ []) : mode.bodyOf t ≠ [] := by
  obtain ⟨c, rest, rfl⟩ := List.exists_cons_of_ne_nil h
  rcases mode.bodyOf_cases (c :: rest) with ⟨-, hbody⟩ | ⟨-, hbody | hbody⟩
  · rw [hbody, doubled_cons]
    split <;> simp
  · rw [hbody, List.flatMap_cons]
    rcases backslashForm_cases c with ⟨e, he⟩ | ⟨hc, -⟩
    · simp [he]
    · simp [hc]
  · rw [hbody, doubled_cons]
    split <;> simp

/-! The other reading -/

/-- Whether no backslash of a text, read as one that takes the next character with it, takes a
quote or finds nothing to take. -/
def sparesQuotes : Text → Bool
  | [] => true
  | '\\' :: [] => false
  | '\\' :: c :: t => c != '\'' && sparesQuotes t
  | _ :: t => sparesQuotes t

/-- Behind a quote that was taken, its twin closes the literal too early or not at all. -/
theorem not_closesBody_quote_cons (escapes : Bool) (t : Text) :
    ¬ ClosesBody escapes ('\'' :: doubled isQuote t) := by
  induction t with
  | nil => simp [ClosesBody, doubled, literalCut, Cut.after]
  | cons c t ih =>
    by_cases hq : c = '\''
    · subst hq
      exact fun h => ih ((closesBody_doubled_iff escapes _).mp h)
    · have hc : doubled isQuote (c :: t) = c :: doubled isQuote t := by
        simp [doubled, isQuote, hq]
      rw [hc, ClosesBody, List.cons_append, literalCut_quote (by simpa using hq)]
      simp

theorem closesBody_true_doubled_quotes_iff (t : Text) :
    ClosesBody true (doubled isQuote t) ↔ sparesQuotes t = true := by
  fun_induction sparesQuotes t with
  | case1 => simp [closesBody_nil, doubled]
  | case2 => simp [ClosesBody, doubled, isQuote, literalCut, Cut.after]
  | case3 c t ih =>
    by_cases hq : c = '\''
    · subst hq
      have hbody : doubled isQuote ('\\' :: '\'' :: t)
          = '\\' :: '\'' :: '\'' :: doubled isQuote t := rfl
      rw [hbody, closesBody_backslash_iff]
      simpa using not_closesBody_quote_cons true t
    · have hbody : doubled isQuote ('\\' :: c :: t) = '\\' :: c :: doubled isQuote t := by
        simp [doubled, isQuote, hq]
      rw [hbody, closesBody_backslash_iff, ih]
      simp [hq]
  | case4 c t h₁ h₂ ih =>
    have hb : c ≠ '\\' := by
      rintro rfl
      cases t with
      | nil => exact h₁ rfl rfl
      | cons c t => exact h₂ c t rfl rfl
    by_cases hq : c = '\''
    · subst hq
      exact (closesBody_doubled_iff true _).trans ih
    · have hc : doubled isQuote (c :: t) = c :: doubled isQuote t := by
        simp [doubled, isQuote, hq]
      rw [hc, closesBody_cons_iff hq (fun h => absurd h hb), ih]

/-! Literals of texts -/

namespace Literal

/-- The literal of a text is what its escaper makes of it, between quotes. -/
theorem encode_text {escape : Escaper} {v : Value} {t literal : Text} (hv : v.text? = some t)
    (h : encode escape v = .ok literal) :
    ∃ body, escape v.isMarkup (plainPunctuation t) = .ok body ∧ literal = wrapped body := by
  have hof : ofText escape v.isMarkup t = .ok literal := by
    cases v <;> simp_all [Value.text?, Value.isMarkup, encode]
  obtain ⟨body, hbody, hrest⟩ := Result.bind_eq_ok hof
  refine ⟨body, hbody, ?_⟩
  split at hrest
  · cases hrest
  · exact (Except.ok.inj hrest).symm

/-- The literal of a text is the body of the text as it is read back, between quotes. -/
theorem eq_wrapped_bodyOf {conn : Connection} {v : Value} {t literal : Text}
    (hescapes : conn.Escapes v.isMarkup) (hv : v.text? = some t)
    (h : encode conn.escaper v = .ok literal) :
    ∃ u, conn.ReadsBack (plainPunctuation t) u ∧ literal = wrapped (conn.mode.bodyOf u) := by
  obtain ⟨body, hbody, rfl⟩ := encode_text hv h
  obtain ⟨u, hu, rfl⟩ := hescapes.of_escaper hbody
  exact ⟨u, hu, rfl⟩

end Literal

end GuardedSql
