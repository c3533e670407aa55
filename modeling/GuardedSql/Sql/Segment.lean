import GuardedSql.Text.Word

/-! SQL text cut into segments. A segment is a stretch of code, a quoted literal or a comment; a
literal or a comment that the text ends in the middle of is not closed. -/

namespace GuardedSql.Sql

/-- The lexical rules in which stores differ: whether a backslash in a literal takes the next
character with it, and whether `#` opens a comment and `--` needs a blank behind it. -/
structure Dialect where
  backslashEscapes : Bool := false
  hashComments : Bool := false
  deriving DecidableEq, Repr

inductive SegmentKind where
  | code | literal | comment
  deriving DecidableEq, Repr

def SegmentKind.name : SegmentKind → String
  | .code => "code"
  | .literal => "literal"
  | .comment => "comment"

inductive Segment where
  | code (text : Text)
  | literal (text : Text) (closed : Bool)
  | comment (text : Text) (closed : Bool)
  deriving DecidableEq, Repr

namespace Segment

def kind : Segment → SegmentKind
  | .code _ => .code
  | .literal .. => .literal
  | .comment .. => .comment

def text : Segment → Text
  | .code t | .literal t _ | .comment t _ => t

def closed : Segment → Bool
  | .code _ => true
  | .literal _ c | .comment _ c => c

/-- The code of a segment; a literal or comment has none. -/
def code? : Segment → Option Text
  | .code t => some t
  | _ => none

end Segment

/-- The text that segments were cut from. -/
def textOf (segments : List Segment) : Text := segments.flatMap Segment.text

def countKind (kind : SegmentKind) (segments : List Segment) : Nat :=
  segments.countP (·.kind == kind)

/-- Puts a code character in front; it joins the code segment that stands there. -/
def consCode (c : Char) : List Segment → List Segment
  | .code t :: rest => .code (c :: t) :: rest
  | segments => .code [c] :: segments

theorem textOf_cons (s : Segment) (rest : List Segment) :
    textOf (s :: rest) = s.text ++ textOf rest := by
  simp [textOf]

theorem textOf_consCode (c : Char) (segments : List Segment) :
    textOf (consCode c segments) = c :: textOf segments := by
  unfold consCode
  split <;> simp [textOf, Segment.text]

/-- The text that stands for the statement's code: a literal counts as an empty one, a comment
as a space. -/
def codeText (segments : List Segment) : Text :=
  segments.flatMap fun
    | .code t => t
    | .literal .. => ['\'', '\'']
    | .comment .. => [' ']

end GuardedSql.Sql
