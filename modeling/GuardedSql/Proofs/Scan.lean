import GuardedSql.Proofs.Lexeme
import Mathlib.Data.List.Chain

/-! A text has exactly one list of segments. What such a list is like is said of the list and of
the text alone, segment by segment; the scan finds it, and there is no other. The induction goes
along the segments: what opens at the front of a text decides what its first one is. -/

namespace GuardedSql.Sql

/-- Only comments touch one another. -/
def Apart (segs : List Segment) : Prop :=
  segs.IsChain fun s s' => s.kind = s'.kind → s.kind = .comment

/-- The segments of a text that stands behind another. -/
structure IsScan (d : Dialect) (before t : Text) (segs : List Segment) : Prop where
  text : textOf segs = t
  ne_nil : ∀ s ∈ segs, s.text ≠ []
  apart : Apart segs
  /-- Only the last one may be left open. -/
  closed : ∀ front s rest, segs = front ++ s :: rest → s.closed = false →
    rest = [] ∧ (s.kind = .literal ∨ s.kind = .comment ∧ ['/', '*'] <+: s.text)
  segment : ∀ front s rest, segs = front ++ s :: rest →
    IsSegment d (before ++ textOf front) (textOf rest) s

variable {d : Dialect} {before t : Text} {segs : List Segment}

theorem Apart.tail {s : Segment} (h : Apart (s :: segs)) : Apart segs := (List.isChain_cons.mp h).2

theorem Apart.next_ne_code {t : Text} (h : Apart (.code t :: segs)) :
    ∀ s ∈ segs.head?, s.kind ≠ .code := by
  intro s hs hkind
  simpa [Segment.kind] using (List.isChain_cons.mp h).1 s hs hkind.symm

theorem isScan_nil : IsScan d before t [] ↔ t = [] := by
  constructor
  · intro h
    exact h.text.symm
  · rintro rfl
    exact ⟨rfl, by simp, .nil, by simp, by simp⟩

theorem isScan_cons {s : Segment} : IsScan d before t (s :: segs) ↔
    t = s.text ++ textOf segs ∧ s.text ≠ [] ∧
      (∀ s' ∈ segs.head?, s.kind = s'.kind → s.kind = .comment) ∧
      (s.closed = false →
        segs = [] ∧ (s.kind = .literal ∨ s.kind = .comment ∧ ['/', '*'] <+: s.text)) ∧
      IsSegment d before (textOf segs) s ∧
      IsScan d (before ++ s.text) (textOf segs) segs := by
  constructor
  · rintro ⟨htext, hne, hapart, hclosed, hsegment⟩
    obtain ⟨hhead, hapart⟩ := List.isChain_cons.mp hapart
    obtain ⟨hs, hne⟩ := List.forall_mem_cons.mp hne
    refine ⟨by rw [← htext, textOf_cons], hs, hhead, hclosed [] s segs rfl, ?_, rfl, hne, hapart,
      ?_, ?_⟩
    · simpa [textOf] using hsegment [] s segs rfl
    · intro front s' rest heq
      exact hclosed (s :: front) s' rest (by simp [heq])
    · intro front s' rest heq
      have := hsegment (s :: front) s' rest (by simp [heq])
      rwa [textOf_cons, ← List.append_assoc] at this
  · rintro ⟨rfl, hs, hhead, hclosed, hsegment, hscan⟩
    refine ⟨textOf_cons s segs, List.forall_mem_cons.mpr ⟨hs, hscan.ne_nil⟩,
      List.isChain_cons.mpr ⟨hhead, hscan.apart⟩, ?_, ?_⟩
    · intro front s' rest heq
      cases front with
      | nil =>
        obtain ⟨rfl, rfl⟩ := List.cons.inj heq
        exact hclosed
      | cons e front =>
        obtain ⟨rfl, rfl⟩ := List.cons.inj heq
        exact hscan.closed front s' rest rfl
    · intro front s' rest heq
      cases front with
      | nil =>
        obtain ⟨rfl, rfl⟩ := List.cons.inj heq
        simpa [textOf] using hsegment
      | cons e front =>
        obtain ⟨rfl, rfl⟩ := List.cons.inj heq
        have := hscan.segment front s' rest rfl
        rwa [List.append_assoc, ← textOf_cons] at this

/-! The scan finds the segments -/

/-- A character at which nothing opens joins the code behind it. -/
theorem IsScan.consCode {c : Char} (h : ¬ Opens d (c :: t))
    (hs : IsScan d (before ++ [c]) t segs) : IsScan d before (c :: t) (consCode c segs) := by
  have hc := (opener?_eq_none_iff d [] c t).mpr h
  obtain rfl := hs.text
  have hlone : (∀ s' ∈ segs.head?, SegmentKind.code = s'.kind → SegmentKind.code = .comment) →
      IsScan d before (c :: textOf segs) (.code [c] :: segs) := by
    intro hhead
    refine isScan_cons.mpr ⟨rfl, by simp [Segment.text], hhead, by simp [Segment.closed], ?_, hs⟩
    exact (plain_iff d before (textOf segs) [c]).mp ⟨hc, trivial⟩
  cases segs with
  | nil => exact hlone (by simp)
  | cons s rest =>
    cases s with
    | literal u closed => exact hlone (by simp [Segment.kind])
    | comment u closed => exact hlone (by simp [Segment.kind])
    | code u =>
      obtain ⟨-, hne, hhead, hclosed, hcode, hrest⟩ := isScan_cons.mp hs
      have hplain := (plain_iff d _ (textOf rest) u).mpr hcode
      refine isScan_cons.mpr ⟨by simp [textOf_cons, Segment.text], by simp [Segment.text], hhead,
        by simp [Segment.closed], (plain_iff d _ (textOf rest) (c :: u)).mp ⟨?_, hplain⟩, ?_⟩
      · simpa [textOf_cons, Segment.text] using hc
      · simpa [Segment.text] using hrest

theorem IsScan.eq_nil (h : IsScan d before [] segs) : segs = [] := by
  cases segs with
  | nil => rfl
  | cons s rest =>
    obtain ⟨htext, hne, -⟩ := isScan_cons.mp h
    exact absurd (List.append_eq_nil_iff.mp htext.symm).1 hne

/-- A literal or a comment may stand before any segments that go on where it ends. -/
theorem IsSegment.scan_cons {s : Segment} (hs : IsSegment d before (textOf segs) s)
    (hkind : s.kind ≠ .code) (h : IsScan d (before ++ s.text) (textOf segs) segs) :
    IsScan d before (s.text ++ textOf segs) (s :: segs) := by
  refine isScan_cons.mpr ⟨rfl, hs.text_ne_nil hkind, ?_, ?_, hs, h⟩
  · intro s' hs' hsame
    cases s with
    | code u => exact absurd rfl hkind
    | comment u closed => rfl
    | literal u closed =>
      -- another literal would begin with the quote that may not follow
      obtain ⟨rest, rfl⟩ := List.head?_eq_some_iff.mp hs'
      obtain ⟨v, closed', rfl⟩ : ∃ v closed', s' = .literal v closed' := by
        cases s' <;> simp_all [Segment.kind]
      obtain ⟨-, -, -, -, hnext, -⟩ := isScan_cons.mp h
      obtain ⟨body, rfl⟩ := hnext.literal_head
      exact absurd rfl hs.literal_after
  · intro hclosed
    obtain ⟨hafter, hs'⟩ := hs.of_not_closed hclosed
    rw [hafter] at h
    exact ⟨h.eq_nil, hs'⟩

theorem isScan_segmentsAfter (d : Dialect) (before t : Text) :
    IsScan d before.reverse t (segmentsAfter d before t) := by
  fun_induction segmentsAfter d before t with
  | case1 before => exact isScan_nil.mpr rfl
  | case2 before c t h ih =>
    refine IsScan.consCode ((opener?_eq_none_iff d before c t).mp h) ?_
    simpa using ih
  | case3 before c t o h cut ih =>
    have happend : cut.taken ++ cut.rest = t := o.cut_append t
    have hsegment : (o.segment c cut).kind ≠ .code ∧
        IsSegment d before.reverse cut.rest (o.segment c cut) := by
      by_cases hc : c = '\''
      · subst hc
        obtain rfl := Option.some.inj ((opener?_quote d before t).symm.trans h)
        refine ⟨by simp [Opener.segment, Segment.kind], (isLiteral_iff d _ _ _ _).mp ?_⟩
        rw [List.reverse_reverse, happend]
        rfl
      · obtain ⟨hseg, hcomment⟩ := isComment_of_opener? hc h
        rw [hseg]
        exact ⟨by simp [Segment.kind], (isComment_iff d _ _ _ _).mp hcomment⟩
    have hrest := textOf_segmentsAfter d (cut.taken.reverse ++ c :: before) cut.rest
    generalize segmentsAfter d (cut.taken.reverse ++ c :: before) cut.rest = found at hrest ih ⊢
    rw [← hrest] at happend hsegment ih
    have htext := o.text_segment c cut
    have hscan := hsegment.2.scan_cons hsegment.1 (by rw [htext]; simpa using ih)
    rwa [htext, List.cons_append, happend] at hscan

/-! There are no others -/

theorem foldr_consCode {u : Text} (hne : u ≠ []) (h : ∀ s ∈ segs.head?, s.kind ≠ .code) :
    u.foldr consCode segs = .code u :: segs := by
  induction u with
  | nil => exact absurd rfl hne
  | cons c u ih =>
    rw [List.foldr_cons]
    cases u with
    | cons e u => rw [ih (by simp)]; rfl
    | nil =>
      rw [List.foldr_nil]
      unfold consCode
      split
      · exact absurd rfl (h _ rfl)
      · rfl

theorem IsScan.eq_segmentsAfter (h : IsScan d before t segs) :
    segs = segmentsAfter d before.reverse t := by
  induction segs generalizing before t with
  | nil => rw [isScan_nil.mp h, segmentsAfter]
  | cons s rest ih =>
    obtain ⟨rfl, hne, -, -, hsegment, hrest⟩ := isScan_cons.mp h
    have hback := ih hrest
    rw [List.reverse_append] at hback
    cases s with
    | code u =>
      have hplain := (plain_iff d before (textOf rest) u).mpr hsegment
      have hnext := h.apart.next_ne_code
      simp only [Segment.text] at hback hne ⊢
      rw [segmentsAfter_plain hplain, ← hback, foldr_consCode hne hnext]
    | comment u closed =>
      have hcomment := (isComment_iff d before (textOf rest) u closed).mpr hsegment
      simp only [Segment.text] at hback ⊢
      rw [segmentsAfter_comment hcomment, ← hback]
    | literal u closed =>
      obtain ⟨body, rfl⟩ := hsegment.literal_head
      have hcut := (isLiteral_iff d before (textOf rest) body closed).mpr hsegment
      simp only [Segment.text, List.reverse_cons, List.append_assoc, List.singleton_append]
        at hback ⊢
      rw [List.cons_append, segmentsAfter_of_some (opener?_quote d before.reverse _)]
      simp only [Opener.cut, Opener.segment, hcut, ← hback]

/-- The scan of a text is the one list of segments that the text has. -/
theorem isScan_iff_eq_segments (d : Dialect) (sql : Text) (segs : List Segment) :
    IsScan d [] sql segs ↔ segs = segments d sql := by
  constructor
  · intro h
    exact h.eq_segmentsAfter
  · rintro rfl
    exact isScan_segmentsAfter d [] sql

end GuardedSql.Sql
