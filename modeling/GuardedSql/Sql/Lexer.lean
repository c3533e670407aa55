import GuardedSql.Sql.Segment

/-! The cutting of SQL text into segments. A literal opens at a single quote, a comment at `--`,
`#` or a slash and a star, as the dialect has it; what is neither is code. Openers are looked
for in code only, so the first one decides what the characters behind it mean.

A cut takes characters from the front of a text. It loses none (`literalCut_append` and its
companions), which is also why the scan ends. -/

namespace GuardedSql.Sql

open Text (isBlank atEdge)

/-- A part taken from the front of a text, the rest, and whether its closing mark was met. -/
structure Cut where
  taken : Text
  rest : Text
  closed : Bool
  deriving DecidableEq, Repr

/-- A character taken before the cut. -/
def Cut.after (c : Char) (cut : Cut) : Cut := { cut with taken := c :: cut.taken }

theorem Cut.after_append (c : Char) (cut : Cut) :
    (cut.after c).taken ++ (cut.after c).rest = c :: (cut.taken ++ cut.rest) := rfl

/-- The body of a literal and its closing quote. A doubled quote belongs to the body, and so
does any character behind a backslash where backslashes escape. -/
def literalCut (escapes : Bool) : Text → Cut
  | [] => ⟨[], [], false⟩
  | '\'' :: '\'' :: rest => ((literalCut escapes rest).after '\'').after '\''
  | '\'' :: rest => ⟨['\''], rest, true⟩
  | '\\' :: c :: rest =>
    if escapes then ((literalCut escapes rest).after c).after '\\'
    else (literalCut escapes (c :: rest)).after '\\'
  | c :: rest => (literalCut escapes rest).after c

/-- The rest of a line with its newline; the end of the text ends a line as well. -/
def lineCut : Text → Cut
  | [] => ⟨[], [], true⟩
  | c :: rest => if c == '\n' then ⟨[c], rest, true⟩ else (lineCut rest).after c

/-- Everything through the first star and slash. -/
def blockCut : Text → Cut
  | [] => ⟨[], [], false⟩
  | '*' :: '/' :: rest => ⟨['*', '/'], rest, true⟩
  | c :: rest => (blockCut rest).after c

theorem literalCut_append (escapes : Bool) (t : Text) :
    (literalCut escapes t).taken ++ (literalCut escapes t).rest = t := by
  fun_induction literalCut escapes t <;> simp_all [Cut.after]

theorem lineCut_append (t : Text) : (lineCut t).taken ++ (lineCut t).rest = t := by
  fun_induction lineCut t <;> simp_all [Cut.after]

theorem blockCut_append (t : Text) : (blockCut t).taken ++ (blockCut t).rest = t := by
  fun_induction blockCut t <;> simp_all [Cut.after]

inductive Opener where
  /-- A quote; `escapes` tells whether backslashes escape in this literal. -/
  | literal (escapes : Bool)
  | line
  | block
  deriving DecidableEq, Repr

/-- Whether a lone `e` or `E` stands directly before, which makes a literal one with backslash
escapes. What stands before is given backwards. -/
def followsEscapeMark : Text → Bool
  | [] => false
  | mark :: before => (mark == 'e' || mark == 'E') && atEdge before.head?

/-- The opener at the front of a text, given what stands before it, backwards. -/
def opener? (dialect : Dialect) (before : Text) : Text → Option Opener
  | '\'' :: _ => some (.literal (dialect.backslashEscapes || followsEscapeMark before))
  | '#' :: _ => if dialect.hashComments then some .line else none
  | '-' :: '-' :: rest =>
    if !dialect.hashComments || rest.head?.all isBlank then some .line else none
  | '/' :: '*' :: _ => some .block
  | _ => none

namespace Opener

/-- What an opener opens, cut from behind its first character. A star right behind a slash
belongs to the opener and closes nothing. -/
def cut : Opener → Text → Cut
  | .literal escapes, t => literalCut escapes t
  | .line, t => lineCut t
  | .block, [] => ⟨[], [], false⟩
  | .block, star :: t => (blockCut t).after star

def segment (first : Char) (cut : Cut) : Opener → Segment
  | .literal _ => .literal (first :: cut.taken) cut.closed
  | .line | .block => .comment (first :: cut.taken) cut.closed

theorem cut_append (o : Opener) (t : Text) : (o.cut t).taken ++ (o.cut t).rest = t := by
  unfold cut
  split
  · exact literalCut_append _ _
  · exact lineCut_append _
  · rfl
  · rw [Cut.after_append, blockCut_append]

theorem text_segment (first : Char) (cut : Cut) (o : Opener) :
    (o.segment first cut).text = first :: cut.taken := by
  cases o <;> rfl

theorem length_cut_rest (o : Opener) (t : Text) : (o.cut t).rest.length ≤ t.length := by
  have h := congrArg List.length (o.cut_append t)
  simp only [List.length_append] at h
  omega

end Opener

/-- The segments of a text, given what stands before it, backwards. -/
def segmentsAfter (dialect : Dialect) (before : Text) : Text → List Segment
  | [] => []
  | c :: t =>
    match opener? dialect before (c :: t) with
    | none => consCode c (segmentsAfter dialect (c :: before) t)
    | some o =>
      let cut := o.cut t
      o.segment c cut :: segmentsAfter dialect (cut.taken.reverse ++ c :: before) cut.rest
termination_by t => t.length
decreasing_by
  · simp
  · have := o.length_cut_rest t
    simp only [List.length_cons]
    omega

def segments (dialect : Dialect) (sql : Text) : List Segment := segmentsAfter dialect [] sql

theorem textOf_segmentsAfter (dialect : Dialect) (before t : Text) :
    textOf (segmentsAfter dialect before t) = t := by
  fun_induction segmentsAfter dialect before t with
  | case1 => rfl
  | case2 before c t h ih => rw [textOf_consCode, ih]
  | case3 before c t o h cut ih =>
    rw [textOf_cons, ih, Opener.text_segment, List.cons_append, Opener.cut_append]

theorem textOf_segments (dialect : Dialect) (sql : Text) : textOf (segments dialect sql) = sql :=
  textOf_segmentsAfter dialect [] sql

end GuardedSql.Sql
