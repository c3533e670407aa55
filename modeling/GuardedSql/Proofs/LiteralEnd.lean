import GuardedSql.Proofs.Body
import GuardedSql.Proofs.Layout
import Mathlib

/-! Where the literal of a text ends, between any other texts. The cut that a scan makes at its
opening quote ends with the quote that was put there to close it, unless another quote follows; then
the two are read as a doubled one, and the cut goes on over both. It is so wherever backslashes
escape, or do not, as the body was escaped for. Behind a lone `e`, where quotes are only doubled,
it is so exactly if the text's backslashes spare its quotes and its end. -/

namespace GuardedSql

open Sql
open Literal (wrapped)

/-- Behind `before`, the literal of a text is read to its own end: backslashes escape there as the
mode has it, or a mark alone turns them on and they take no quote of the text, nor its end. -/
def Mode.ReadsWhole (mode : Mode) (before t : Text) : Prop :=
  mode.backslashEscapes = true ∨ followsEscapeMark before.reverse = false ∨ sparesQuotes t = true

namespace Sql

variable {escapes : Bool} {body after : Text}

/-- What closes a body at the end of a text closes it before any other text but a quote. -/
theorem literalCut_eq_iff_closesBody (hafter : after.head? ≠ some '\'') :
    literalCut escapes (body ++ '\'' :: after) = ⟨body ++ ['\''], after, true⟩ ↔
      ClosesBody escapes body := by
  constructor
  · intro h
    have htaken := literalCut_taken escapes (body ++ '\'' :: after)
    rwa [h] at htaken
  · intro h
    have hcut := (literalCut_append_of_closed h).1 after hafter
    rwa [List.append_assoc, List.singleton_append] at hcut

/-- No cut ends where a quote follows. -/
theorem literalCut_taken_ne_of_quote (hafter : after.head? = some '\'') :
    (literalCut escapes (body ++ '\'' :: after)).taken ≠ body ++ ['\''] := by
  intro htaken
  have happend := literalCut_append escapes (body ++ '\'' :: after)
  obtain ⟨hclosed, hopen⟩ := literalCut_rest escapes (body ++ '\'' :: after)
  have hrest : (literalCut escapes (body ++ '\'' :: after)).rest = after := by
    rw [htaken] at happend
    simpa using happend
  rw [hrest] at hclosed hopen
  cases hcut : (literalCut escapes (body ++ '\'' :: after)).closed with
  | true => exact hclosed hcut hafter
  | false =>
    rw [hopen hcut] at hafter
    cases hafter

end Sql

/-- A body with a quote behind its closing one goes on over both. -/
theorem ClosesBody.prefix_taken {escapes : Bool} {body after : Text}
    (h : ClosesBody escapes body) (hafter : after.head? = some '\'') :
    body ++ ['\'', '\''] <+: (literalCut escapes (body ++ '\'' :: after)).taken := by
  obtain ⟨t, rfl⟩ := List.head?_eq_some_iff.mp hafter
  have hcut := (literalCut_append_of_closed h).2 t
  rw [List.append_assoc, List.singleton_append] at hcut
  rw [hcut]
  exact ⟨(literalCut escapes t).taken, by simp⟩

/-- How a body is closed in the reading of its mode, and in that with backslashes. -/
theorem Mode.closesBody_bodyOf_iff (mode : Mode) (before t : Text) :
    ClosesBody (mode.backslashEscapes || followsEscapeMark before.reverse) (mode.bodyOf t) ↔
      mode.ReadsWhole before t := by
  have hown := mode.closesBody_bodyOf t
  unfold ReadsWhole
  cases hmode : mode.backslashEscapes with
  | true =>
    rw [hmode] at hown
    simpa using hown
  | false =>
    rw [Mode.bodyOf_eq_doubled hmode] at hown ⊢
    rw [hmode] at hown
    cases followsEscapeMark before.reverse with
    | true => simpa using closesBody_true_doubled_quotes_iff t
    | false => simpa using hown

/-- The cut that a scan makes at the literal of a text, wherever it stands. Behind a mark it is the
text as the client's encoding reads it back whose backslashes are asked for. -/
theorem cut_of_escaped {conn : Connection} {marked : Bool} {t body : Text}
    (hescapes : conn.Escapes marked) (h : conn.escaper marked t = .ok body) :
    ∃ u, conn.ReadsBack t u ∧ ∀ before after, ∃ opener,
      opener? conn.mode.dialect before.reverse (wrapped body ++ after) = some opener ∧
        (after.head? ≠ some '\'' →
          (opener.cut (body ++ '\'' :: after) = ⟨body ++ ['\''], after, true⟩ ↔
            conn.mode.ReadsWhole before u)) ∧
        (after.head? = some '\'' →
          (opener.cut (body ++ '\'' :: after)).taken ≠ body ++ ['\''] ∧
            (conn.mode.ReadsWhole before u →
              body ++ ['\'', '\''] <+: (opener.cut (body ++ '\'' :: after)).taken)) := by
  obtain ⟨u, hu, rfl⟩ := hescapes.of_escaper h
  refine ⟨u, hu, ?_⟩
  intro before after
  have hcloses := conn.mode.closesBody_bodyOf_iff before u
  refine ⟨_, opener?_quote conn.mode.dialect before.reverse _, ?_, ?_⟩
  · intro hafter
    exact (literalCut_eq_iff_closesBody hafter).trans hcloses
  · intro hafter
    refine ⟨literalCut_taken_ne_of_quote hafter, ?_⟩
    intro hreads
    exact ClosesBody.prefix_taken (hcloses.mpr hreads) hafter

/-- Behind a mark, where quotes are only doubled, a text whose backslash spares its quote. -/
theorem cut_of_escaped_behind_mark :
    (⟨.postgres true, {}, none⟩ : Connection).escaper false "\\n'".toList = .ok "\\n''".toList ∧
    opener? (Mode.postgres true).dialect "SELECT E".toList.reverse "'\\n''' -- ".toList
      = some (.literal true) ∧
    (Opener.literal true).cut "\\n''' -- ".toList = ⟨"\\n'''".toList, " -- ".toList, true⟩ := by
  have hescape : (⟨.postgres true, {}, none⟩ : Connection).escaper false "\\n'".toList
      = .ok "\\n''".toList := by
    cbv
  obtain ⟨u, hu, hcuts⟩ :=
    cut_of_escaped (Connection.escapes_documented Codec.spells_utf8 _ none false) hescape
  obtain rfl : u = "\\n'".toList := hu.eq_of_spells rfl Codec.spells_utf8
  obtain ⟨opener, hopener, hends, -⟩ := hcuts "SELECT E".toList " -- ".toList
  obtain rfl : Opener.literal true = opener := Option.some.inj hopener
  exact ⟨hescape, hopener, (hends (by decide)).mpr (.inr (.inr rfl))⟩

end GuardedSql
