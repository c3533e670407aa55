import GuardedSql.Display
import GuardedSql.Proofs.Body
import Mathlib

/-! The literal of a text, decoded. Decoding takes the quotes off, undoes doubled quotes, then
backslashes where the store has them. Whichever escaper made the body, the second of these two
passes finds only what the first has left of that escaper's own work, and the text comes back with
its punctuation plain. -/

namespace GuardedSql

open Literal (plainPunctuation wrapped)

namespace Display

theorem unwrap_wrapped (body : Text) : unwrap (wrapped body) = body := by
  have hlast : (body ++ ['\'']).getLast? = some '\'' := List.getLast?_concat
  rw [wrapped, List.cons_append, unwrap, hlast, if_pos (by decide), List.dropLast_concat]

/-! The first pass -/

theorem undouble_cons {c : Char} (hc : c ≠ '\'') (t : Text) :
    undouble (c :: t) = c :: undouble t := by
  rw [undouble]
  rintro _ rfl
  exact absurd rfl hc

/-- A quote that no other follows is none of a pair. -/
theorem undouble_quote {t : Text} (h : t.head? ≠ some '\'') :
    undouble ('\'' :: t) = '\'' :: undouble t := by
  rw [undouble]
  rintro u - rfl
  exact h rfl

/-- Of the characters that were doubled, the quotes among them, the first pass leaves all but the
quotes so. -/
theorem undouble_doubled {marked : Char → Bool} (hquote : marked '\'' = true) (t : Text) :
    undouble (doubled marked t) = doubled (fun c => c != '\'' && marked c) t := by
  induction t with
  | nil => rfl
  | cons c t ih =>
    rw [doubled_cons, doubled_cons, ← ih]
    by_cases hc : c = '\''
    · subst hc
      rw [hquote]
      rfl
    · have hkept : (c != '\'' && marked c) = marked c := by simp [hc]
      rw [hkept]
      cases marked c with
      | true => exact (undouble_cons hc _).trans (congrArg (c :: ·) (undouble_cons hc _))
      | false => exact undouble_cons hc _

theorem undouble_doubled_quotes (t : Text) : undouble (doubled isQuote t) = t := by
  have hnone : (fun c => c != '\'' && isQuote c) = fun _ => false := by
    funext c
    exact Bool.not_and_self (c == '\'')
  rw [undouble_doubled rfl, hnone]
  exact List.flatMap_singleton' t

theorem undouble_doubled_quotes_and_backslashes (t : Text) :
    undouble (doubled isQuoteOrBackslash t) = doubled (· == '\\') t := by
  have hbackslash : (fun c => c != '\'' && isQuoteOrBackslash c) = (· == '\\') := by
    funext c
    by_cases hc : c = '\''
    · subst hc
      rfl
    · have hquote : (c == '\'') = false := by simpa using hc
      rw [isQuoteOrBackslash, bne, hquote]
      rfl
  rw [undouble_doubled rfl, hbackslash]

theorem head?_flatMap_backslashForm (t : Text) : (t.flatMap backslashForm).head? ≠ some '\'' := by
  cases t with
  | nil => simp
  | cons c t =>
    rw [List.flatMap_cons]
    rcases backslashForm_cases c with ⟨e, he⟩ | ⟨hc, hq, -⟩
    · simp [he]
    · simpa [hc] using hq

/-- Where every quote has a backslash before it no two stand together. -/
theorem undouble_flatMap_backslashForm (t : Text) :
    undouble (t.flatMap backslashForm) = t.flatMap backslashForm := by
  induction t with
  | nil => rfl
  | cons c t ih =>
    rw [List.flatMap_cons]
    rcases backslashForm_cases c with ⟨e, he⟩ | ⟨hc, hq, -⟩
    · rw [he, List.cons_append, undouble_cons (by decide), List.singleton_append]
      by_cases hquote : e = '\''
      · rw [hquote, undouble_quote (head?_flatMap_backslashForm t), ih]
      · rw [undouble_cons hquote, ih]
    · rw [hc, List.singleton_append, undouble_cons hq, ih]

/-! The second pass -/

theorem unbackslash_cons {c : Char} (hc : c ≠ '\\') (t : Text) :
    unbackslash (c :: t) = c :: unbackslash t := by
  rw [unbackslash]
  rintro _ _ rfl
  exact absurd rfl hc

theorem unbackslash_doubled_backslashes (t : Text) : unbackslash (doubled (· == '\\') t) = t := by
  induction t with
  | nil => rfl
  | cons c t ih =>
    rw [doubled_cons]
    by_cases hc : c = '\\'
    · subst hc
      exact congrArg ('\\' :: ·) ih
    · have hmark : (c == '\\') = false := by simpa using hc
      rw [hmark, if_neg (by decide), List.singleton_append, unbackslash_cons hc, ih]

/-- A letter behind a backslash stands for the character that was given this form. -/
theorem unescapedChar_of_backslashForm {c e : Char} (h : backslashForm c = ['\\', e]) :
    unescapedChar e = c := by
  unfold backslashForm at h
  split at h
  case h_8 => simp at h
  all_goals
    obtain rfl : _ = e := by simpa using h
    rfl

theorem unbackslash_flatMap_backslashForm (t : Text) :
    unbackslash (t.flatMap backslashForm) = t := by
  induction t with
  | nil => rfl
  | cons c t ih =>
    rw [List.flatMap_cons]
    rcases backslashForm_cases c with ⟨e, he⟩ | ⟨hc, -, hb⟩
    · rw [he, List.cons_append, List.singleton_append, unbackslash, ih,
        unescapedChar_of_backslashForm he]
    · rw [hc, List.singleton_append, unbackslash_cons hb, ih]

/-! Both -/

theorem decode_wrapped_bodyOf (mode : Mode) (t : Text) :
    decode mode.backslashEscapes (wrapped (mode.bodyOf t)) = t := by
  rw [decode, unwrap_wrapped]
  rcases mode.bodyOf_cases t with ⟨hmode, hbody⟩ | ⟨hmode, hbody | hbody⟩
  · rw [hmode, hbody, if_neg (by decide), undouble_doubled_quotes]
  · rw [hmode, hbody, if_pos rfl, undouble_flatMap_backslashForm,
      unbackslash_flatMap_backslashForm]
  · rw [hmode, hbody, if_pos rfl, undouble_doubled_quotes_and_backslashes,
      unbackslash_doubled_backslashes]

end Display

end GuardedSql
