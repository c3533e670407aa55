import GuardedSql.Proofs.Filling
import GuardedSql.Proofs.Scan
import GuardedSql.Sql.Redaction

/-! A statement with its literals hidden, read again. Hiding puts one closed literal in the place
of each and leaves the rest as it is. The new literal closes in either reading, starts with the
quote that stood there, and no quote follows it; so the scan of the shown text finds the segments
of the statement, and what is shown tells the statement apart from any other but for the bodies of
its literals. -/

namespace GuardedSql.Sql

open Template (LooksLike opener?_congr)

/-- A segment as it is shown: of a literal only that there is one. -/
def Segment.hidden : Segment → Segment
  | .literal .. => .literal hiddenLiteral true
  | s => s

/-- Two segments that are the same, or literals both. -/
inductive SameButBody : Segment → Segment → Prop
  | same {s : Segment} : SameButBody s s
  | literals {t u : Text} {closed closed' : Bool} :
      SameButBody (.literal t closed) (.literal u closed')

@[simp]
theorem kind_hidden (s : Segment) : s.hidden.kind = s.kind := by
  cases s <;> rfl

theorem redact_eq_textOf_hidden (segs : List Segment) :
    redact segs = textOf (segs.map Segment.hidden) := by
  induction segs with
  | nil => rfl
  | cons s rest ih =>
    rw [List.map_cons, textOf_cons, ← ih]
    cases s <;> rfl

theorem exists_eq_literal {s : Segment} (h : s.kind = .literal) :
    ∃ t closed, s = .literal t closed := by
  cases s with
  | literal t closed => exact ⟨t, closed, rfl⟩
  | code t => cases h
  | comment t closed => cases h

theorem hidden_of_kind_ne {s : Segment} (h : s.kind ≠ .literal) : s.hidden = s := by
  cases s with
  | literal t closed => exact absurd rfl h
  | code t => rfl
  | comment t closed => rfl

theorem hidden_eq_iff {s s' : Segment} : s.hidden = s'.hidden ↔ SameButBody s s' := by
  constructor
  · intro h
    have hkind : s.kind = s'.kind := by rw [← kind_hidden s, h, kind_hidden]
    by_cases hliteral : s.kind = .literal
    · obtain ⟨u, closed', rfl⟩ := exists_eq_literal (hkind ▸ hliteral)
      obtain ⟨t, closed, rfl⟩ := exists_eq_literal hliteral
      exact .literals
    · rw [hidden_of_kind_ne hliteral, hidden_of_kind_ne (hkind ▸ hliteral)] at h
      rw [h]
      exact .same
  · intro h
    cases h with
    | same => rfl
    | literals => rfl

theorem map_hidden_eq_iff {segs segs' : List Segment} :
    segs.map Segment.hidden = segs'.map Segment.hidden ↔ List.Forall₂ SameButBody segs segs' := by
  simp only [← List.forall₂_eq_eq_eq, List.forall₂_map_left_iff, List.forall₂_map_right_iff,
    hidden_eq_iff]

/-! What follows a segment looks the same -/

section Front

variable {d : Dialect} {before t : Text} {segs : List Segment}

theorem head?_textOf_hidden (h : IsScan d before t segs) :
    (textOf (segs.map Segment.hidden)).head? = (textOf segs).head? := by
  cases segs with
  | nil => rfl
  | cons s rest =>
    obtain ⟨-, hne, -, -, hs, -⟩ := isScan_cons.mp h
    rw [List.map_cons, textOf_cons, textOf_cons]
    by_cases hliteral : s.kind = .literal
    · obtain ⟨u, closed, rfl⟩ := exists_eq_literal hliteral
      obtain ⟨body, rfl⟩ := hs.literal_head
      rfl
    · rw [hidden_of_kind_ne hliteral, List.head?_append_of_ne_nil _ hne,
        List.head?_append_of_ne_nil _ hne]

theorem looksLike_append_hidden (h : IsScan d before t segs) (u : Text) :
    LooksLike (u ++ textOf segs) (u ++ textOf (segs.map Segment.hidden)) := by
  left
  cases u with
  | nil => exact (head?_textOf_hidden h).symm
  | cons c u => rfl

/-- Of two minus signs one may end a code and the other start what follows it. -/
theorem minus_hidden (h : IsScan d before t segs) {u : Text} (hu : textOf segs = '-' :: u) :
    ∃ v, textOf (segs.map Segment.hidden) = '-' :: v ∧ LooksLike u v := by
  cases segs with
  | nil => cases hu
  | cons s rest =>
    obtain ⟨-, hne, -, -, hs, hrest⟩ := isScan_cons.mp h
    rw [textOf_cons] at hu
    have hkind : s.kind ≠ .literal := by
      intro hliteral
      obtain ⟨v, closed, rfl⟩ := exists_eq_literal hliteral
      obtain ⟨body, rfl⟩ := hs.literal_head
      cases hu
    obtain ⟨c, v, hv⟩ := List.exists_cons_of_ne_nil hne
    rw [hv] at hu
    obtain ⟨rfl, rfl⟩ := List.cons.inj hu
    rw [List.map_cons, textOf_cons, hidden_of_kind_ne hkind, hv]
    exact ⟨_, rfl, looksLike_append_hidden hrest v⟩

theorem plain_hidden (h : IsScan d before t segs) {u : Text} (hu : Plain d (textOf segs) u) :
    Plain d (textOf (segs.map Segment.hidden)) u := by
  induction u with
  | nil => trivial
  | cons c u ih =>
    obtain ⟨hc, hu⟩ := hu
    refine ⟨opener?_congr hc (looksLike_append_hidden h u) ?_, ih hu⟩
    intro v hv
    cases u with
    | nil => exact minus_hidden h hv
    | cons e u =>
      obtain ⟨rfl, rfl⟩ := List.cons.inj hv
      exact ⟨_, rfl, looksLike_append_hidden h u⟩

/-! The scan -/

/-- A literal that hides another ends where it ends, in either reading. -/
theorem literalCut_hiddenLiteral (escapes : Bool) {after : Text} (h : after.head? ≠ some '\'') :
    literalCut escapes (hiddenLiteral.tail ++ after) = ⟨hiddenLiteral.tail, after, true⟩ := by
  have hcut : literalCut escapes ('?' :: '\'' :: after)
      = (literalCut escapes ('\'' :: after)).after '?' :=
    literalCut_cons (by decide) (fun hc => absurd hc (by decide)) _
  rw [literalCut_quote h] at hcut
  exact hcut

/-- What stands before a segment matters to literals alone, and to a hidden one it does not. -/
theorem IsSegment.hidden {s : Segment} (hs : IsSegment d before (textOf segs) s)
    (h : IsScan d (before ++ s.text) t segs) (before' : Text) :
    IsSegment d before' (textOf (segs.map Segment.hidden)) s.hidden := by
  cases s with
  | code u => exact (plain_iff d _ _ u).mp (plain_hidden h ((plain_iff d before _ u).mpr hs))
  | comment u closed =>
    refine (isComment_iff d _ _ u closed).mp ?_
    refine ((isComment_iff d before _ u closed).mpr hs).congr ?_
    intro hnil
    have hsegs : segs = [] := by
      rw [← h.text, hnil] at h
      exact h.eq_nil
    rw [hsegs]
    rfl
  | literal u closed =>
    refine (isLiteral_iff d before' _ hiddenLiteral.tail true).mp (literalCut_hiddenLiteral _ ?_)
    rw [head?_textOf_hidden h]
    exact hs.literal_after

theorem IsScan.hidden (h : IsScan d before t segs) (before' : Text) :
    IsScan d before' (textOf (segs.map Segment.hidden)) (segs.map Segment.hidden) := by
  induction segs generalizing before before' t with
  | nil => exact isScan_nil.mpr rfl
  | cons s rest ih =>
    obtain ⟨-, hne, hhead, hclosed, hs, hrest⟩ := isScan_cons.mp h
    refine isScan_cons.mpr ⟨textOf_cons _ _, ?_, ?_, ?_, hs.hidden hrest before', ih hrest _⟩
    · cases s with
      | literal u closed => exact List.cons_ne_nil _ _
      | code u => exact hne
      | comment u closed => exact hne
    · intro s' hs' hsame
      rw [List.head?_map, Option.mem_def, Option.map_eq_some_iff] at hs'
      obtain ⟨next, hnext, rfl⟩ := hs'
      rw [kind_hidden] at hsame ⊢
      rw [kind_hidden] at hsame
      exact hhead next hnext hsame
    · intro hopen
      cases s with
      | literal u closed => cases hopen
      | code u => cases hopen
      | comment u closed =>
        obtain ⟨hrest, hblock⟩ := hclosed hopen
        exact ⟨by rw [hrest]; rfl, hblock⟩

end Front

theorem segments_redact (d : Dialect) (sql : Text) :
    segments d (redact (segments d sql)) = (segments d sql).map Segment.hidden := by
  have hscan : IsScan d [] sql (segments d sql) := isScan_segmentsAfter d [] sql
  rw [redact_eq_textOf_hidden]
  exact (hscan.hidden []).eq_segmentsAfter.symm

theorem redact_redact (d : Dialect) (sql : Text) :
    redact (segments d (redact (segments d sql))) = redact (segments d sql) := by
  rw [segments_redact, redact_eq_textOf_hidden, redact_eq_textOf_hidden, List.map_map]
  refine congrArg textOf ?_
  exact List.map_congr_left fun s _ => by cases s <;> rfl

/-- Statements are shown alike exactly if they differ in the bodies of their literals at most. -/
theorem redact_eq_redact_iff (d : Dialect) (sql sql' : Text) :
    redact (segments d sql) = redact (segments d sql') ↔
      List.Forall₂ SameButBody (segments d sql) (segments d sql') := by
  rw [← map_hidden_eq_iff]
  constructor
  · intro h
    rw [← segments_redact, h, segments_redact]
  · intro h
    rw [redact_eq_textOf_hidden, h, redact_eq_textOf_hidden]

/-- What is shown of a statement reads as the statement's own segments with its literals hidden;
shown once more it stays as it is, and it is shown of no statement that differs elsewhere. -/
theorem redact_stable_and_complete (d : Dialect) (sql : Text) :
    segments d (redact (segments d sql)) = (segments d sql).map Segment.hidden ∧
      redact (segments d (redact (segments d sql))) = redact (segments d sql) ∧
      ∀ sql', redact (segments d sql) = redact (segments d sql') ↔
        List.Forall₂ SameButBody (segments d sql) (segments d sql') :=
  ⟨segments_redact d sql, redact_redact d sql, redact_eq_redact_iff d sql⟩

end GuardedSql.Sql
