import GuardedSql.Proofs.Filling

/-! How the literals of a filled template are read. A lone `e` before its quote makes a literal
one with backslash escapes. The scan of the statement goes along with that of the template and
reads every literal as it does, unless a hole touches such a mark: then there may be one more of
them or one less. -/

namespace GuardedSql.Template

open Sql Literal

/-! Holes and what they touch -/

/-- The text of the parts before a place, backwards; the nearest part comes first. -/
def textBefore (before : List Part) : Text := before.flatMap fun p => p.kept.text.reverse

def textAfter (after : List Part) : Text := textOf (after.map Part.kept)

/-- Whether what stands directly before a place makes a literal there one with backslash escapes:
a lone `e` or `E`, or a literal that has one before it, which a quote would continue. -/
def isMarked : List Part → Bool
  | .literal .. :: before => isMarked before
  | before => followsEscapeMark (textBefore before)

/-- Whether a text starts with a mark and the quote of its literal. -/
def startsWithMark : Text → Bool
  | c :: '\'' :: _ => c == 'e' || c == 'E'
  | _ => false

/-- A hole of a template with the parts before it, the nearest first, and those behind it. -/
structure Site where
  before : List Part
  after : List Part
  deriving DecidableEq, Repr

/-- A hole that touches nothing that has to do with backslash escapes. -/
def Site.isClear (s : Site) : Bool := !isMarked s.before && !startsWithMark (textAfter s.after)

/-- The holes among parts, given those before them. -/
def sitesAfter (before : List Part) : List Part → List Site
  | [] => []
  | .hole token :: rest => ⟨before, rest⟩ :: sitesAfter (.hole token :: before) rest
  | p :: rest => sitesAfter (p :: before) rest

/-- The holes of a template. -/
def sites (dialect : Dialect) (template : Text) : List Site :=
  sitesAfter [] (parts dialect template)

/-! Readings of literals -/

/-- Literals that end with their quotes in the reading of the store's plain literals. -/
def Closes (d : Dialect) (entry : Entry) : Prop :=
  entry.1.text?.isSome = true → ∀ body, entry.2 = wrapped body → ClosesBody d.backslashEscapes body

/-- What a scan of the statement carries agrees with what a scan of the template carries at the
same place: they read a literal there alike, and see the same character before it. There are two
exceptions. Behind a hole the characters differ, but then no mark follows; and of a mark right
behind a hole only the template may be sure, but then no literal follows. -/
structure Agrees (before : List Part) (marked : Bool) (textBehind : Text) (after : List Part) :
    Prop where
  mark : isMarked before = marked ∨
    (isMarked before = true ∧ (textAfter after).head? ≠ some '\'')
  last : (textBefore before).head? = textBehind.head? ∨
    ((textBefore before).head? = some '\x7d' ∧ startsWithMark (textAfter after) = false)

theorem followsEscapeMark_cons_congr {c : Char} {b b' : Text} (h : b.head? = b'.head?) :
    followsEscapeMark (c :: b) = followsEscapeMark (c :: b') := by
  simp [followsEscapeMark, h]

/-- Nothing that stands before a character other than a mark makes it one. -/
theorem followsEscapeMark_append_cons {c : Char} (hc : c ≠ 'e' ∧ c ≠ 'E') (t b b' : Text) :
    followsEscapeMark (t ++ c :: b) = followsEscapeMark (t ++ c :: b') := by
  cases t with
  | nil => simp [followsEscapeMark, beq_eq_false_iff_ne.mpr hc.1, beq_eq_false_iff_ne.mpr hc.2]
  | cons x t =>
    refine followsEscapeMark_cons_congr ?_
    cases t <;> rfl

theorem textAfter_cons (p : Part) (after : List Part) :
    textAfter (p :: after) = p.kept.text ++ textAfter after := textOf_cons _ _

theorem Agrees.char {before after : List Part} {marked : Bool} {b : Text} {c : Char}
    (h : Agrees before marked b (.char c :: after)) :
    Agrees (.char c :: before) (followsEscapeMark (c :: b)) (c :: b) after where
  mark := by
    have hmarked : isMarked (.char c :: before) = followsEscapeMark (c :: textBefore before) := rfl
    rw [hmarked]
    rcases h.last with hsame | ⟨hhole, hnext⟩
    · exact .inl (followsEscapeMark_cons_congr hsame)
    · by_cases hc : (c == 'e' || c == 'E') = true
      · have hedge : Text.atEdge (some '\x7d') = true := by decide
        refine .inr ⟨by simp [followsEscapeMark, hc, hhole, hedge], ?_⟩
        intro hquote
        obtain ⟨u, hu⟩ := List.head?_eq_some_iff.mp hquote
        rw [textAfter_cons, hu] at hnext
        simp [Part.kept, Segment.text, startsWithMark] at hnext
        simp_all
      · exact .inl (by simp [followsEscapeMark, hc])
  last := .inl rfl

/-- A value's literal is no mark, whatever kind it is of. -/
theorem Agrees.hole {before after : List Part} {token : Text}
    (hnext : startsWithMark (textAfter after) = false) (b : Text) :
    Agrees (.hole token :: before) false b after where
  mark := by
    have hhole : isMarked (.hole token :: before)
        = followsEscapeMark ((Piece.hole token).text.reverse ++ textBefore before) := rfl
    simp [hhole, Piece.text, followsEscapeMark]
  last := by
    have hhole : textBefore (.hole token :: before)
        = (Piece.hole token).text.reverse ++ textBefore before := rfl
    exact .inr ⟨by simp [hhole, Piece.text], hnext⟩

theorem Agrees.mark_eq {before after : List Part} {marked : Bool} {b : Text}
    (h : Agrees before marked b after) (hquote : (textAfter after).head? = some '\'') :
    isMarked before = marked := by
  rcases h.mark with heq | ⟨-, hne⟩
  · exact heq
  · exact absurd hquote hne

theorem head?_reverse_append {t : Text} (hne : t ≠ []) (u v : Text) :
    (t.reverse ++ u).head? = (t.reverse ++ v).head? := by
  cases ht : t.reverse with
  | nil => simp_all
  | cons c s => rfl

theorem Agrees.literal {before after : List Part} {marked closed : Bool} {b t : Text}
    (h : Agrees before marked b (.literal t closed :: after)) (ht : t.head? = some '\'') :
    Agrees (.literal t closed :: before) marked (t.reverse ++ b) after where
  mark := by
    obtain ⟨u, rfl⟩ := List.head?_eq_some_iff.mp ht
    exact .inl (h.mark_eq (by simp [textAfter_cons, Part.kept, Segment.text]))
  last := .inl (head?_reverse_append (by rintro rfl; simp at ht) _ _)

theorem Agrees.comment {d : Dialect} {before after : List Part} {closed : Bool} {t u : Text}
    (ht : IsComment d u t closed) (b : Text) :
    Agrees (.comment t closed :: before) (followsEscapeMark (t.reverse ++ b)) (t.reverse ++ b)
      after where
  mark := by
    have hmarked : isMarked (.comment t closed :: before)
        = followsEscapeMark (t.reverse ++ textBefore before) := rfl
    rw [hmarked]
    cases ht <;>
      exact .inl (by
        simp only [List.reverse_cons, List.append_assoc, List.cons_append, List.nil_append]
        exact followsEscapeMark_append_cons (by decide) _ _ _)
  last := .inl (head?_reverse_append ht.ne_nil _ _)

/-- What carries the reading along: all literals of the store are read alike, or the two scans
agree and no hole that is left touches a mark. -/
def Steady (d : Dialect) (before : List Part) (marked : Bool) (b : Text) (after : List Part) :
    Prop :=
  d.backslashEscapes = true ∨
    Agrees before marked b after ∧ ∀ s ∈ sitesAfter before after, s.isClear = true

section Steady

variable {d : Dialect} {before after : List Part} {marked : Bool} {b : Text}

theorem Steady.char {c : Char} (h : Steady d before marked b (.char c :: after)) :
    Steady d (.char c :: before) (followsEscapeMark (c :: b)) (c :: b) after := by
  refine h.imp_right ?_
  rintro ⟨ha, hsites⟩
  exact ⟨ha.char, hsites⟩

/-- A literal in the place of a hole is read as the store reads a plain one. -/
theorem Steady.plain {token : Text} (h : Steady d before marked b (.hole token :: after)) :
    (d.backslashEscapes || marked) = d.backslashEscapes := by
  rcases h with hd | ⟨ha, hsites⟩
  · rw [hd, Bool.true_or]
  · have hclear := hsites _ (List.mem_cons_self ..)
    simp only [Site.isClear, Bool.and_eq_true, Bool.not_eq_true'] at hclear
    rcases ha.mark with heq | ⟨htrue, -⟩
    · rw [← heq, hclear.1, Bool.or_false]
    · rw [hclear.1] at htrue
      cases htrue

theorem Steady.hole {token : Text} (h : Steady d before marked b (.hole token :: after))
    {marked' : Bool} (hm : marked' = marked ∨ marked' = false) (b' : Text) :
    Steady d (.hole token :: before) marked' b' after := by
  have hplain := h.plain
  rcases h with hd | ⟨-, hsites⟩
  · exact .inl hd
  · cases hd : d.backslashEscapes with
    | true => exact .inl hd
    | false =>
      obtain rfl : marked' = false := by
        rw [hd, Bool.false_or] at hplain
        rcases hm with rfl | rfl
        · exact hplain
        · rfl
      have hclear := hsites _ (List.mem_cons_self ..)
      simp only [Site.isClear, Bool.and_eq_true, Bool.not_eq_true'] at hclear
      refine .inr ⟨Agrees.hole hclear.2 b', ?_⟩
      intro s hs
      exact hsites s (List.mem_cons_of_mem _ hs)

/-- A literal of the template is read as it was there. -/
theorem Steady.reading {t : Text} {closed : Bool}
    (h : Steady d before marked b (.literal t closed :: after)) (ht : t.head? = some '\'') :
    (d.backslashEscapes || marked) = (d.backslashEscapes || isMarked before) := by
  rcases h with hd | ⟨ha, -⟩
  · rw [hd, Bool.true_or, Bool.true_or]
  · obtain ⟨u, rfl⟩ := List.head?_eq_some_iff.mp ht
    rw [ha.mark_eq (by simp [textAfter_cons, Part.kept, Segment.text])]

theorem Steady.literal {t : Text} {closed : Bool}
    (h : Steady d before marked b (.literal t closed :: after)) (ht : t.head? = some '\'') :
    Steady d (.literal t closed :: before) marked (t.reverse ++ b) after := by
  refine h.imp_right ?_
  rintro ⟨ha, hsites⟩
  exact ⟨ha.literal ht, hsites⟩

theorem Steady.comment {t u : Text} {closed : Bool}
    (h : Steady d before marked b (.comment t closed :: after)) (ht : IsComment d u t closed) :
    Steady d (.comment t closed :: before) (followsEscapeMark (t.reverse ++ b)) (t.reverse ++ b)
      after := by
  refine h.imp_right ?_
  rintro ⟨-, hsites⟩
  exact ⟨Agrees.comment ht b, hsites⟩

end Steady

/-- In a filled template every literal ends where it should, as long as the reading is steady. -/
theorem whole_filled {d : Dialect} {entries : List Entry} {ps : List Part} {marked : Bool}
    {b : Text} (before : List Part) (hl : Laid d (ps.map Part.kept))
    (hw : Whole d (isMarked before) (textBefore before) (ps.map Part.kept))
    (hs : Supplied d entries ps) (hc : ∀ entry ∈ entries, Closes d entry)
    (h : Steady d before marked b ps) : Whole d marked b (ps.map (Part.filled entries)) := by
  induction ps generalizing before marked b with
  | nil => trivial
  | cons p ps ih =>
    rw [List.map_cons] at hl hw ⊢
    cases p with
    | char c => exact ih (.char c :: before) hl.2.2 hw hs.tail h.char
    | hole token =>
      obtain ⟨entry, hget, hfits⟩ := hs token (by simp)
      have hrest : ∀ m b', m = marked ∨ m = false →
          Whole d m b' (ps.map (Part.filled entries)) := by
        intro m b' hm
        exact ih (.hole token :: before) hl.2.2 hw hs.tail (h.hole hm b')
      simp only [Part.filled, hget]
      cases hfits with
      | @text v body hv =>
        rw [Part.inserted, if_pos hv]
        refine ⟨?_, hrest _ _ (.inl rfl)⟩
        rw [h.plain]
        exact hc _ (List.mem_of_getElem? hget) hv body rfl
      | @code v literal hv hfits =>
        rw [Part.inserted, if_neg (by simp [hv])]
        exact hrest _ _ (.inr (hfits.unmarked b))
    | literal t closed =>
      obtain ⟨hquote, -, hrest⟩ := hl
      obtain ⟨hcut, hwrest⟩ := hw
      refine ⟨?_, ih (.literal t closed :: before) hrest hwrest hs.tail (h.literal hquote)⟩
      rw [h.reading hquote]
      exact hcut
    | comment t closed =>
      obtain ⟨hcomment, hrest⟩ := hl
      exact ih (.comment t closed :: before) hrest hw hs.tail (h.comment hcomment)

/-! Whole templates -/

theorem laid_parts (d : Dialect) (t : Text) : Laid d ((parts d t).map Part.kept) :=
  laid_kept (laid_segmentsAfter d [] t)

theorem whole_parts (d : Dialect) (t : Text) : Whole d false [] ((parts d t).map Part.kept) :=
  whole_kept (laid_segmentsAfter d [] t) (whole_segmentsAfter d [] t)

theorem agrees_start (d : Dialect) (t : Text) : Agrees [] false [] (parts d t) :=
  ⟨.inl rfl, .inl rfl⟩

theorem whole_filled_parts {d : Dialect} {t : Text} {entries : List Entry}
    (hs : Supplied d entries (parts d t)) (hc : ∀ entry ∈ entries, Closes d entry)
    (h : d.backslashEscapes = true ∨ ∀ s ∈ sites d t, s.isClear = true) :
    Whole d false [] ((parts d t).map (Part.filled entries)) :=
  whole_filled [] (laid_parts d t) (whole_parts d t) hs hc
    (h.imp_right fun hsites => ⟨agrees_start d t, hsites⟩)

end GuardedSql.Template
