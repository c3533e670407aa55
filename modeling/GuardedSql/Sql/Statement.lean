import GuardedSql.Sql.Segment

/-! The statements of a text: the stretches between semicolons in code. A semicolon in a literal
or a comment separates nothing. A stretch of blanks and comments alone is no statement, so that
a semicolon may stand at the end. -/

namespace GuardedSql.Sql

open Text (strip allBlank)

/-- The parts of a code text between its semicolons. -/
def splitCode : Text → List Text
  | [] => [[]]
  | c :: t =>
    if c == ';' then [] :: splitCode t
    else
      match splitCode t with
      | [] => [[c]]
      | part :: parts => (c :: part) :: parts

/-- Puts a segment in front of the first stretch. -/
def consSegment (s : Segment) : List (List Segment) → List (List Segment)
  | [] => [[s]]
  | stretch :: stretches => (s :: stretch) :: stretches

/-- Puts code parts in front: the last joins the first stretch, each other is one by itself. -/
def prependParts : List Text → List (List Segment) → List (List Segment)
  | [], stretches => stretches
  | [part], stretches => consSegment (.code part) stretches
  | part :: parts, stretches => [.code part] :: prependParts parts stretches

/-- Segments cut at the semicolons in code. -/
def stretches : List Segment → List (List Segment)
  | [] => [[]]
  | .code t :: rest => prependParts (splitCode t) (stretches rest)
  | s :: rest => consSegment s (stretches rest)

theorem splitCode_ne_nil (t : Text) : splitCode t ≠ [] := by
  fun_induction splitCode t <;> simp

/-- Joined by semicolons the parts are the text again. -/
theorem intercalate_splitCode (t : Text) : [';'].intercalate (splitCode t) = t := by
  fun_induction splitCode t with
  | case1 => rfl
  | case2 c t hc ih =>
    have hne := splitCode_ne_nil t
    simp only [beq_iff_eq] at hc
    cases hs : splitCode t with
    | nil => exact absurd hs hne
    | cons part parts =>
      rw [hs] at ih
      simp [List.intercalate_cons_cons, hc, ih]
  | case3 c t hc hs => exact absurd hs (splitCode_ne_nil t)
  | case4 c t hc part parts hs ih =>
    rw [hs] at ih
    cases parts with
    | nil => simpa using ih
    | cons next rest =>
      rw [List.intercalate_cons_cons] at ih ⊢
      simp [← ih]

/-- Stretches joined by the semicolons between them. -/
def joined (stretches : List (List Segment)) : Text := [';'].intercalate (stretches.map textOf)

theorem consSegment_ne_nil (s : Segment) (stretches : List (List Segment)) :
    consSegment s stretches ≠ [] := by
  cases stretches <;> simp [consSegment]

theorem joined_consSegment (s : Segment) (stretches : List (List Segment)) :
    joined (consSegment s stretches) = s.text ++ joined stretches := by
  cases stretches with
  | nil => simp [consSegment, joined, textOf]
  | cons stretch rest =>
    cases rest with
    | nil => simp [consSegment, joined, textOf]
    | cons next rest => simp [consSegment, joined, textOf, List.intercalate_cons_cons]

theorem prependParts_ne_nil (parts : List Text) {stretches : List (List Segment)}
    (h : stretches ≠ []) : prependParts parts stretches ≠ [] := by
  fun_cases prependParts parts stretches with
  | case1 => exact h
  | case2 => exact consSegment_ne_nil _ _
  | case3 => simp

theorem joined_cons (stretch : List Segment) {rest : List (List Segment)} (h : rest ≠ []) :
    joined (stretch :: rest) = textOf stretch ++ ';' :: joined rest := by
  cases rest with
  | nil => exact absurd rfl h
  | cons next rest => simp [joined, List.intercalate_cons_cons]

theorem joined_prependParts {parts : List Text} {stretches : List (List Segment)}
    (hp : parts ≠ []) (hs : stretches ≠ []) :
    joined (prependParts parts stretches) = [';'].intercalate parts ++ joined stretches := by
  fun_induction prependParts parts stretches with
  | case1 => exact absurd rfl hp
  | case2 part stretches => simp [joined_consSegment, Segment.text]
  | case3 part parts stretches hparts ih =>
    cases parts with
    | nil => exact absurd rfl hparts
    | cons next rest =>
      rw [joined_cons _ (prependParts_ne_nil _ hs), ih (by simp) hs, List.intercalate_cons_cons]
      simp [textOf, Segment.text]

theorem stretches_ne_nil (segments : List Segment) : stretches segments ≠ [] := by
  fun_induction stretches segments with
  | case1 => simp
  | case2 t rest ih => exact prependParts_ne_nil _ ih
  | case3 s rest _ ih => exact consSegment_ne_nil _ _

/-- Nothing is lost: joined by semicolons the stretches are the text that was cut. -/
theorem joined_stretches (segments : List Segment) :
    joined (stretches segments) = textOf segments := by
  fun_induction stretches segments with
  | case1 => rfl
  | case2 t rest ih =>
    rw [joined_prependParts (splitCode_ne_nil t) (stretches_ne_nil rest), ih,
      intercalate_splitCode, textOf_cons]
    rfl
  | case3 s rest _ ih => rw [joined_consSegment, ih, textOf_cons]

def Segment.hasContent : Segment → Bool
  | .code t => !allBlank t
  | .literal .. => true
  | .comment .. => false

def hasContent (stretch : List Segment) : Bool := stretch.any Segment.hasContent

def statements (segments : List Segment) : List Text :=
  ((stretches segments).filter hasContent).map fun stretch => strip (textOf stretch)

end GuardedSql.Sql
