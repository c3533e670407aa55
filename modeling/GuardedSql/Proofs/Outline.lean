import GuardedSql.Guard
import GuardedSql.Proofs.Layout
import GuardedSql.Sql.Redaction
import GuardedSql.Template

/-! What is left of a statement when its literals are hidden: its outline. The checks of a filled
template, the guard and the log see no more of a statement than that. For each function the
lemma is the same: it takes the hidden segments for the segments themselves. -/

namespace GuardedSql

open Text (isBlank allBlank)

namespace Sql

/-- A segment; of a literal only that there is one, and whether it is closed. -/
def Segment.masked : Segment → Segment
  | .literal _ closed => .literal hiddenLiteral closed
  | s => s

def masked (segs : List Segment) : List Segment := segs.map Segment.masked

/-- The segments of a statement with its literals hidden. -/
def outline (dialect : Dialect) (statement : Text) : List Segment :=
  masked (segments dialect statement)

@[simp]
theorem kind_masked (s : Segment) : s.masked.kind = s.kind := by
  cases s <;> rfl

@[simp]
theorem closed_masked (s : Segment) : s.masked.closed = s.closed := by
  cases s <;> rfl

@[simp]
theorem code?_masked (s : Segment) : s.masked.code? = s.code? := by
  cases s <;> rfl

@[simp]
theorem hasContent_segment_masked (s : Segment) : s.masked.hasContent = s.hasContent := by
  cases s <;> rfl

@[simp]
theorem masked_code (t : Text) (rest : List Segment) :
    masked (.code t :: rest) = .code t :: masked rest := rfl

@[simp]
theorem masked_literal (t : Text) (closed : Bool) (rest : List Segment) :
    masked (.literal t closed :: rest) = .literal hiddenLiteral closed :: masked rest := rfl

@[simp]
theorem masked_comment (t : Text) (closed : Bool) (rest : List Segment) :
    masked (.comment t closed :: rest) = .comment t closed :: masked rest := rfl

@[simp]
theorem masked_masked (segs : List Segment) : masked (masked segs) = masked segs := by
  induction segs with
  | nil => rfl
  | cons s rest ih => cases s <;> simp [ih]

theorem countKind_masked (kind : SegmentKind) (segs : List Segment) :
    countKind kind (masked segs) = countKind kind segs := by
  rw [countKind, countKind, masked, List.countP_map]
  exact List.countP_congr fun s _ => by simp

/-- Only the code of segments is searched for the holes in it. -/
theorem tokensIn_code_masked (segs : List Segment) :
    tokensIn .code (masked segs) = tokensIn .code segs := by
  induction segs with
  | nil => rfl
  | cons s rest ih => cases s <;> simp_all [tokensIn, Segment.kind]

theorem codeText_masked (segs : List Segment) : codeText (masked segs) = codeText segs := by
  induction segs with
  | nil => rfl
  | cons s rest ih => cases s <;> simp_all [codeText]

theorem redact_eq_textOf_masked (segs : List Segment) : redact segs = textOf (masked segs) := by
  induction segs with
  | nil => rfl
  | cons s rest ih => cases s <;> simp_all [redact, textOf, Segment.text]

/-- A literal has a quote at least, so that no text with one is blank. -/
theorem allBlank_textOf_masked {d : Dialect} {segs : List Segment} (hl : Laid d segs) :
    allBlank (textOf (masked segs)) = allBlank (textOf segs) := by
  have happend : ∀ t u : Text, allBlank (t ++ u) = (allBlank t && allBlank u) := by
    intro t u
    exact List.all_append
  induction segs with
  | nil => rfl
  | cons s rest ih =>
    rw [textOf_cons, happend]
    cases s with
    | code t => rw [masked_code, textOf_cons, happend, ih hl.2.2]
    | comment t closed => rw [masked_comment, textOf_cons, happend, ih hl.2]
    | literal t closed =>
      obtain ⟨u, rfl⟩ := List.head?_eq_some_iff.mp hl.1
      have hquote : isBlank '\'' = false := by decide
      rw [masked_literal, textOf_cons]
      simp [Segment.text, hiddenLiteral, allBlank, hquote]

/-! Statements -/

theorem masked_consSegment (s : Segment) (parts : List (List Segment)) :
    (consSegment s parts).map masked = consSegment s.masked (parts.map masked) := by
  cases parts <;> rfl

theorem masked_prependParts (codes : List Text) (parts : List (List Segment)) :
    (prependParts codes parts).map masked = prependParts codes (parts.map masked) := by
  fun_induction prependParts codes parts with
  | case1 => rfl
  | case2 code parts => exact masked_consSegment _ _
  | case3 code codes parts hne ih =>
    rw [List.map_cons, ih, prependParts]
    · rfl
    · exact hne

theorem stretches_masked (segs : List Segment) :
    stretches (masked segs) = (stretches segs).map masked := by
  induction segs with
  | nil => rfl
  | cons s rest ih =>
    cases s with
    | code t => rw [masked_code, stretches, stretches, ih, masked_prependParts]
    | literal t closed => exact (congrArg _ ih).trans (masked_consSegment _ _).symm
    | comment t closed => exact (congrArg _ ih).trans (masked_consSegment _ _).symm

theorem hasContent_masked (segs : List Segment) : hasContent (masked segs) = hasContent segs := by
  simp [hasContent, masked, List.any_map, Function.comp_def]

/-- What stands in literals neither makes a statement nor parts it. -/
theorem length_statements_masked (segs : List Segment) :
    (statements (masked segs)).length = (statements segs).length := by
  have hcontent : hasContent ∘ masked = hasContent := funext hasContent_masked
  rw [statements, statements, List.length_map, List.length_map, stretches_masked,
    List.filter_map, List.length_map, hcontent]

/-! Layouts -/

theorem masked_foldr_consCode (t : Text) (segs : List Segment) :
    masked (t.foldr consCode segs) = t.foldr consCode (masked segs) := by
  induction t with
  | nil => rfl
  | cons c t ih =>
    rw [List.foldr_cons, List.foldr_cons, ← ih]
    generalize t.foldr consCode segs = tail
    cases tail with
    | nil => rfl
    | cons s rest => cases s <;> rfl

theorem masked_assemble (segs : List Segment) :
    masked (assemble segs) = assemble (masked segs) := by
  fun_induction assemble segs with
  | case1 => rfl
  | case2 t rest ih =>
    rw [masked_foldr_consCode, ih]
    rfl
  | case3 t closed rest ih => exact congrArg _ ih
  | case4 t closed rest ih => exact congrArg _ ih

theorem masked_joinLiteral (t u : Text) (closed : Bool) (segs : List Segment) :
    masked (joinLiteral t closed segs) = masked (joinLiteral u closed (masked segs)) := by
  cases segs with
  | nil => rfl
  | cons s rest => cases s <;> simp [joinLiteral]

/-- How literals run together is told by where they stand alone. -/
theorem masked_joinLiterals (segs : List Segment) :
    masked (joinLiterals segs) = masked (joinLiterals (masked segs)) := by
  induction segs with
  | nil => rfl
  | cons s rest ih =>
    cases s with
    | code t => rw [joinLiterals, masked_code, ih, masked_code, joinLiterals, masked_code]
    | comment t closed =>
      rw [joinLiterals, masked_comment, ih, masked_comment, joinLiterals, masked_comment]
    | literal t closed =>
      rw [joinLiterals, masked_joinLiteral t hiddenLiteral, ih,
        ← masked_joinLiteral hiddenLiteral hiddenLiteral, masked_literal, joinLiterals]

/-! What reads an outline only -/

theorem findSome?_masked {α : Type} {f : Segment → Option α} (hf : ∀ s, f s.masked = f s)
    (segs : List Segment) : (masked segs).findSome? f = segs.findSome? f := by
  rw [masked, List.findSome?_map]
  exact congrArg (List.findSome? · segs) (funext hf)

end Sql

open Sql

namespace Template

theorem countFault?_masked (segs : List Segment) (kind : SegmentKind) (expected : Option Int) :
    countFault? (masked segs) kind expected = countFault? segs kind expected := by
  unfold countFault?
  rw [countKind_masked]

theorem structureFault?_congr {d : Dialect} {statement statement' : Text}
    (h : outline d statement = outline d statement') (literals comments : Option Int) :
    structureFault? d statement literals comments
      = structureFault? d statement' literals comments := by
  have hfaults : ∀ s : Segment, (unclosedFault? s.masked <|> strayFault? s.masked)
      = (unclosedFault? s <|> strayFault? s) := by
    intro s
    simp [unclosedFault?, strayFault?]
  have hreads : ∀ t, structureFault? d t literals comments
      = (((outline d t).findSome? fun s => unclosedFault? s <|> strayFault? s)
        <|> ((tokensIn .code (outline d t)).head?.map .leftoverHole)
        <|> countFault? (outline d t) .literal literals
        <|> countFault? (outline d t) .comment comments) := by
    intro t
    rw [outline, findSome?_masked hfaults, tokensIn_code_masked, countFault?_masked,
      countFault?_masked, structureFault?]
  rw [hreads, hreads, h]

end Template

namespace Guard

theorem segmentFault?_masked (s : Segment) : segmentFault? s.masked = segmentFault? s := by
  cases s <;> simp [segmentFault?, isExecutable, Segment.masked, Segment.kind, Segment.closed]

theorem leadingCode_masked (segs : List Segment) :
    leadingCode (masked segs) = leadingCode segs := by
  rw [leadingCode, leadingCode, codeText_masked]

theorem allBlank_congr {d : Dialect} {statement statement' : Text}
    (h : outline d statement = outline d statement') :
    allBlank statement = allBlank statement' := by
  have hreads : ∀ t, allBlank t = allBlank (textOf (outline d t)) := by
    intro t
    have hlaid : Laid d (segments d t) := laid_segmentsAfter d [] t
    rw [outline, allBlank_textOf_masked hlaid, textOf_segments]
  rw [hreads, hreads statement', h]

theorem judge_congr {g : Guard} {statement statement' : Text}
    (h : outline g.dialect statement = outline g.dialect statement') :
    g.judge statement = g.judge statement' := by
  have hfault : (segments g.dialect statement).findSome? segmentFault?
      = (segments g.dialect statement').findSome? segmentFault? := by
    rw [← findSome?_masked segmentFault?_masked, ← outline, h, outline,
      findSome?_masked segmentFault?_masked]
  have hcount : (statements (segments g.dialect statement)).length
      = (statements (segments g.dialect statement')).length := by
    rw [← length_statements_masked, ← outline, h, outline, length_statements_masked]
  have hcode : leadingCode (segments g.dialect statement)
      = leadingCode (segments g.dialect statement') := by
    rw [← leadingCode_masked, ← outline, h, outline, leadingCode_masked]
  simp only [judge, allBlank_congr h, hfault, hcount, hcode]

end Guard

theorem redact_congr {d : Dialect} {statement statement' : Text}
    (h : outline d statement = outline d statement') :
    redact (segments d statement) = redact (segments d statement') := by
  rw [redact_eq_textOf_masked, redact_eq_textOf_masked]
  exact congrArg textOf h

end GuardedSql
