import GuardedSql.Proofs.Number
import GuardedSql.Proofs.Verdict

/-! What may stand in front of a statement and hide nothing: blanks, semicolons, and comments
that end by themselves and are not run. None of it runs on into the statement, and behind it a
scan starts afresh, since it leaves no word character for a mark to join. To the guard it brings
no fault, no content and no keyword. -/

namespace GuardedSql

open Sql
open Text (isBlank allBlank isWordChar atEdge)

namespace Sql

/-! A scan that starts afresh -/

theorem opener?_congr_before {b b' : Text} (h : followsEscapeMark b = followsEscapeMark b')
    (d : Dialect) (t : Text) : opener? d b t = opener? d b' t := by
  cases t with
  | nil => rfl
  | cons c t =>
    by_cases hc : c = '\''
    · rw [hc, opener?_quote, opener?_quote, h]
    · exact opener?_before hc b b' t

/-- A scan minds what stands before only for the marks that it completes. -/
theorem segmentsAfter_congr_before {d : Dialect} {b b' t : Text}
    (h : ∀ u, followsEscapeMark (u ++ b) = followsEscapeMark (u ++ b')) :
    segmentsAfter d b t = segmentsAfter d b' t := by
  revert b'
  fun_induction segmentsAfter d b t with
  | case1 b =>
    intro b' h
    rw [segmentsAfter]
  | case2 b c t hopen ih =>
    intro b' h
    have hmark : followsEscapeMark b = followsEscapeMark b' := h []
    rw [opener?_congr_before hmark d] at hopen
    rw [segmentsAfter_of_none hopen, ih fun u => by simpa using h (u ++ [c])]
  | case3 b c t o hopen cut =>
    rename_i ih
    intro b' h
    have hmark : followsEscapeMark b = followsEscapeMark b' := h []
    rw [opener?_congr_before hmark d] at hopen
    rw [segmentsAfter_of_some hopen, ih fun u => by simpa using h (u ++ (cut.taken.reverse ++ [c]))]

theorem followsEscapeMark_append_of_atEdge {b : Text} (h : atEdge b.head? = true) (u : Text) :
    followsEscapeMark (u ++ b) = followsEscapeMark u := by
  cases u with
  | cons c u =>
    cases u with
    | nil => rw [List.singleton_append, followsEscapeMark, followsEscapeMark, h]; rfl
    | cons e u => rfl
  | nil =>
    cases b with
    | nil => rfl
    | cons c b =>
      rw [List.head?_cons] at h
      have hc : (c == 'e' || c == 'E') = false := by
        by_contra hmark
        rw [Bool.not_eq_false, Bool.or_eq_true, beq_iff_eq, beq_iff_eq] at hmark
        have hword : atEdge (some c) = false := by rcases hmark with rfl | rfl <;> decide
        rw [hword] at h
        cases h
      simp [followsEscapeMark, hc]

theorem segmentsAfter_of_atEdge {d : Dialect} {b : Text} (h : atEdge b.head? = true) (t : Text) :
    segmentsAfter d b t = segments d t :=
  segmentsAfter_congr_before fun u => by simpa using followsEscapeMark_append_of_atEdge h u

/-! Comments that end by themselves -/

theorem EndsLine.of_newline {t after : Text} (h : EndsLine t after) (ht : '\n' ∈ t) (u : Text) :
    EndsLine t u := by
  rcases h with hends | ⟨hno, -⟩
  · exact .inl hends
  · exact absurd ht hno

/-- A closed block, or a line with its newline, is a comment before any text. -/
theorem IsComment.of_ended {d : Dialect} {after t : Text} (h : IsComment d after t true)
    (hend : ¬ ['/', '*'] <+: t → t.getLast? = some '\n') (u : Text) : IsComment d u t true := by
  cases h with
  | @hash body _ hd hcut =>
    have hline : '\n' ∈ body := by
      simpa using List.mem_of_getLast? (hend (by simp))
    obtain ⟨hends, -⟩ := (lineCut_eq_iff _ _ _).mp hcut
    exact .hash hd ((lineCut_eq_iff _ _ _).mpr ⟨hends.of_newline hline u, rfl⟩)
  | @dashes body _ hd hcut =>
    have hline : '\n' ∈ body := by
      simpa using List.mem_of_getLast? (hend (by simp))
    obtain ⟨hends, -⟩ := (lineCut_eq_iff _ _ _).mp hcut
    refine .dashes ?_ ((lineCut_eq_iff _ _ _).mpr ⟨hends.of_newline hline u, rfl⟩)
    cases body with
    | nil => cases hline
    | cons c body => exact hd
  | @block body _ hcut =>
    refine .block ((blockCut_eq_iff _ _ _).mpr ?_)
    cases (blockCut_eq_iff _ _ _).mp hcut with
    | closed hbody => exact .closed hbody

theorem IsComment.atEdge_getLast? {d : Dialect} {after t : Text} (h : IsComment d after t true)
    (hend : ¬ ['/', '*'] <+: t → t.getLast? = some '\n') : atEdge t.getLast? = true := by
  by_cases hblock : ['/', '*'] <+: t
  · cases h with
    | hash hd hcut => simp at hblock
    | dashes hd hcut => simp at hblock
    | block hcut =>
      cases (blockCut_eq_iff _ _ _).mp hcut with
      | @closed body hbody =>
        have hlast : ('/' :: '*' :: (body ++ ['*', '/'])).getLast? = some '/' := by
          simp [List.getLast?_cons, List.getLast?_append]
        rw [hlast]
        decide
  · rw [hend hblock]
    decide

/-! Code put in front -/

theorem codeText_consCode (c : Char) (segs : List Segment) :
    codeText (consCode c segs) = c :: codeText segs := by
  cases segs with
  | nil => rfl
  | cons s rest => cases s <;> rfl

end Sql

namespace Guard

/-! Stretches and their content -/

theorem length_statements (segs : List Segment) :
    (statements segs).length = (stretches segs).countP hasContent := by
  rw [statements, List.length_map, ← List.countP_eq_length_filter]

theorem countP_consSegment_congr {s s' : Segment} (h : s.hasContent = s'.hasContent)
    (parts : List (List Segment)) :
    (consSegment s parts).countP hasContent = (consSegment s' parts).countP hasContent := by
  cases parts <;> simp [consSegment, List.countP_cons, hasContent, h]

/-- What has no content itself gives none to the stretch that it joins. -/
theorem countP_consSegment {s : Segment} (h : s.hasContent = false) {parts : List (List Segment)}
    (hne : parts ≠ []) : (consSegment s parts).countP hasContent = parts.countP hasContent := by
  cases parts with
  | nil => exact absurd rfl hne
  | cons part parts => simp [consSegment, List.countP_cons, hasContent, h]

theorem countP_prependParts_splitCode_cons {c : Char} (hc : isIdle c = true) (t : Text)
    (parts : List (List Segment)) :
    (prependParts (splitCode (c :: t)) parts).countP hasContent
      = (prependParts (splitCode t) parts).countP hasContent := by
  obtain ⟨code, codes, hcodes⟩ := List.exists_cons_of_ne_nil (splitCode_ne_nil t)
  rw [splitCode]
  by_cases hsemicolon : c = ';'
  · have hempty : hasContent [.code []] = false := rfl
    rw [hsemicolon, if_pos (by decide), hcodes, prependParts,
      List.countP_cons_of_neg (by simp [hempty])]
    simp
  · have hblank : isBlank c = true := by simpa [isIdle, hsemicolon] using hc
    have hsame : (Segment.code (c :: code)).hasContent = (Segment.code code).hasContent := by
      simp [Segment.hasContent, allBlank, hblank]
    rw [if_neg (by simpa using hsemicolon), hcodes]
    cases codes with
    | nil => exact countP_consSegment_congr hsame parts
    | cons next codes =>
      have hstretch : hasContent [.code (c :: code)] = hasContent [.code code] := by
        rw [hasContent, hasContent, List.any_cons, List.any_cons, hsame]
      have hparts : ∀ first, prependParts (first :: next :: codes) parts
          = [.code first] :: prependParts (next :: codes) parts := fun _ => rfl
      rw [hparts, hparts, List.countP_cons, List.countP_cons, hstretch]

theorem length_statements_consCode {c : Char} (hc : isIdle c = true) (segs : List Segment) :
    (statements (consCode c segs)).length = (statements segs).length := by
  rw [length_statements, length_statements]
  have hlone : (stretches (.code [c] :: segs)).countP hasContent
      = (stretches segs).countP hasContent := by
    rw [stretches, countP_prependParts_splitCode_cons hc]
    exact countP_consSegment rfl (stretches_ne_nil segs)
  cases segs with
  | nil => exact hlone
  | cons s rest =>
    cases s with
    | literal t closed => exact hlone
    | comment t closed => exact hlone
    | code t => exact countP_prependParts_splitCode_cons hc t (stretches rest)

/-! The verdict on segments -/

/-- The judgement of a statement that is not blank, as its segments give it. -/
def verdict (g : Guard) (segs : List Segment) : Except GuardFault CommandKind :=
  match segs.findSome? segmentFault? with
  | some f => .error f
  | none => if 1 < (statements segs).length then .error .stacked else g.judgeCode (leadingCode segs)

theorem judge_eq_verdict (g : Guard) {statement : Text} (h : allBlank statement = false) :
    g.judge statement = g.verdict (segments g.dialect statement) := by
  rw [judge, if_neg (by simp [h])]
  rfl

theorem findSome?_segmentFault?_consCode (c : Char) (segs : List Segment) :
    (consCode c segs).findSome? segmentFault? = segs.findSome? segmentFault? := by
  cases segs with
  | nil => rfl
  | cons s rest => cases s <;> rfl

theorem verdict_consCode (g : Guard) {c : Char} (hc : isIdle c = true) (segs : List Segment) :
    g.verdict (consCode c segs) = g.verdict segs := by
  have hcode : leadingCode (consCode c segs) = leadingCode segs := by
    rw [leadingCode, codeText_consCode]
    exact List.dropWhile_cons_of_pos hc
  rw [verdict, findSome?_segmentFault?_consCode, length_statements_consCode hc, hcode]
  rfl

theorem verdict_foldr_consCode (g : Guard) {t : Text} (h : ∀ c ∈ t, isIdle c = true)
    (segs : List Segment) : g.verdict (t.foldr consCode segs) = g.verdict segs := by
  induction t with
  | nil => rfl
  | cons c t ih =>
    obtain ⟨hc, ht⟩ := List.forall_mem_cons.mp h
    rw [List.foldr_cons, verdict_consCode g hc, ih ht]

theorem verdict_comment (g : Guard) {t : Text} (h : ¬ ['/', '*', '!'] <+: t)
    (segs : List Segment) : g.verdict (.comment t true :: segs) = g.verdict segs := by
  have hfault : segmentFault? (.comment t true) = none :=
    (segmentFault?_eq_none_iff _).mpr ⟨rfl, fun _ => h⟩
  have hcount : (statements (.comment t true :: segs)).length = (statements segs).length := by
    rw [length_statements, length_statements]
    exact countP_consSegment rfl (stretches_ne_nil segs)
  have hcode : leadingCode (.comment t true :: segs) = leadingCode segs := rfl
  rw [verdict, List.findSome?_cons, hfault, hcount, hcode]
  rfl

/-! The preamble -/

/-- A segment that a guard passes over in front of a statement: code of blanks and semicolons,
or a closed comment that is not run. A comment that is no block ends with its newline. -/
inductive Idle : Segment → Prop
  | code {t : Text} : (∀ c ∈ t, isIdle c = true) → Idle (.code t)
  | comment {t : Text} : ¬ ['/', '*', '!'] <+: t →
      (¬ ['/', '*'] <+: t → t.getLast? = some '\n') → Idle (.comment t true)

theorem mayOpen_of_isIdle {c : Char} (h : isIdle c = true) : Literal.mayOpen c = false := by
  by_contra hopens
  simp only [Literal.mayOpen, Bool.not_eq_false, Bool.or_eq_true, beq_iff_eq] at hopens
  rcases hopens with ((rfl | rfl) | rfl) | rfl <;> revert h <;> decide

/-- Segments that are passed over change no verdict on what follows them. The induction goes
along them; behind each one the scan still stands where no word goes on. -/
theorem verdict_segmentsAfter_of_idle {g : Guard} {segs : List Segment}
    (hl : Laid g.dialect segs) (hidle : ∀ s ∈ segs, Idle s) {b : Text}
    (hb : atEdge b.head? = true) (t : Text) :
    g.verdict (segmentsAfter g.dialect b (textOf segs ++ t))
      = g.verdict (segments g.dialect t) := by
  induction segs generalizing b with
  | nil => rw [← segmentsAfter_of_atEdge hb t]; rfl
  | cons s rest ih =>
    obtain ⟨hs, hrest⟩ := List.forall_mem_cons.mp hidle
    rw [textOf_cons, List.append_assoc]
    cases hs with
    | @code u hu =>
      obtain ⟨hne, -, hlrest⟩ := hl
      have hplain : Plain g.dialect (textOf rest ++ t) u :=
        Literal.plain_of_forall fun c hc => mayOpen_of_isIdle (hu c hc)
      have hedge : atEdge (u.reverse ++ b).head? = true := by
        rw [← List.dropLast_append_getLast hne, List.reverse_append]
        simp [atEdge, isWordChar_of_isIdle (hu _ (List.getLast_mem hne))]
      rw [Segment.text, segmentsAfter_plain hplain, verdict_foldr_consCode g hu]
      exact ih hlrest hrest hedge
    | @comment u hinert hend =>
      obtain ⟨hcomment, hlrest⟩ := hl
      have hedge : atEdge (u.reverse ++ b).head? = true := by
        have hlast := hcomment.atEdge_getLast? hend
        rw [← List.head?_reverse] at hlast
        have hne : u.reverse ≠ [] := List.reverse_ne_nil_iff.mpr hcomment.ne_nil
        obtain ⟨c, v, hv⟩ := List.exists_cons_of_ne_nil hne
        rw [hv] at hlast ⊢
        exact hlast
      rw [Segment.text, segmentsAfter_comment (hcomment.of_ended hend _), verdict_comment g hinert]
      exact ih hlrest hrest hedge

/-- A statement is judged alike with and without a preamble that hides nothing. -/
theorem classify_append_of_idle {g : Guard} {preamble statement : Text}
    (hidle : ∀ s ∈ segments g.dialect preamble, Idle s) (hstatement : allBlank statement = false) :
    g.classify (.text (preamble ++ statement)) = g.classify (.text statement) := by
  have hwhole : allBlank (preamble ++ statement) = false := by
    rw [allBlank, List.all_append, Bool.and_eq_false_iff]
    exact .inr hstatement
  have hlaid : Laid g.dialect (segments g.dialect preamble) := laid_segmentsAfter _ [] preamble
  have hverdict := verdict_segmentsAfter_of_idle hlaid hidle rfl statement (b := [])
  rw [textOf_segments] at hverdict
  exact (g.judge_eq_verdict hwhole).trans (hverdict.trans (g.judge_eq_verdict hstatement).symm)

theorem classify_append_comments :
    (∀ s ∈ segments (Mode.mysql true).dialect " ;/* ' */# it's\n".toList, Idle s) ∧
      allBlank "e'\\''; DROP TABLE t".toList = false ∧
      (Guard.mk true (Mode.mysql true).dialect).classify
          (.text (" ;/* ' */# it's\n".toList ++ "e'\\''; DROP TABLE t".toList))
        = .error .stacked := by
  have hsegments : segments (Mode.mysql true).dialect " ;/* ' */# it's\n".toList
      = [.code " ;".toList, .comment "/* ' */".toList true, .comment "# it's\n".toList true] := by
    cbv
  have hidle : ∀ s ∈ segments (Mode.mysql true).dialect " ;/* ' */# it's\n".toList, Idle s := by
    rw [hsegments]
    simp only [List.forall_mem_cons, List.not_mem_nil, false_imp_iff, implies_true, and_true]
    refine ⟨.code (List.all_eq_true.mp ?_), .comment (by decide) (by decide),
      .comment (by decide) (by decide)⟩
    cbv
  have hjudged : (Guard.mk true (Mode.mysql true).dialect).classify
      (.text "e'\\''; DROP TABLE t".toList) = .error .stacked := by
    cbv
  exact ⟨hidle, by decide, (classify_append_of_idle hidle (by decide)).trans hjudged⟩

end Guard

end GuardedSql
