import GuardedSql.Literal
import GuardedSql.Sql.Hole
import GuardedSql.Sql.Lexer

/-! Statements from templates. A template's holes are filled with the literals of the values, in
code position only. The finished text is then scanned again by itself: it must be closed, hold
no stray delimiter and no hole, and have as many literals and comments as the template and the
inserted texts account for. -/

namespace GuardedSql.Template

open Sql
open Text (isNumeral natValue)

def fault (f : TemplateFault) : Failure := .ofFault (.template f)

/-- Puts an index into a sorted list unless it is there. -/
def insertIndex {α : Type} [LT α] [DecidableLT α] [BEq α] (i : α) : List α → List α
  | [] => [i]
  | j :: rest =>
    if i == j then j :: rest
    else if i < j then i :: j :: rest
    else j :: insertIndex i rest

def sortedIndices {α : Type} [LT α] [DecidableLT α] [BEq α] (indices : List α) : List α :=
  indices.foldr insertIndex []

def index? : Value → Option Int
  | .int n => some n
  | _ => none

def valueAt (entries : List (Value × Value)) (i : Nat) : Option Value :=
  (entries.find? fun e => index? e.1 == some (i : Int)).map (·.2)

/-- The values in the order of their indices, from a sequence or from a mapping whose keys are
the integers from zero on. -/
def replacementValues : Value → Except TemplateFault (List Value)
  | .list values | .tuple values => .ok values
  | .mapping entries =>
    match entries.find? fun e => (index? e.1).isNone with
    | some e => .error (.notIndex e.1)
    | none =>
      let indices := sortedIndices (entries.filterMap fun e => index? e.1)
      if indices == (List.range entries.length).map Int.ofNat then
        .ok ((List.range entries.length).filterMap (valueAt entries))
      else .error (.notContiguous indices)
  | v => .error (.notReplacements v.typeName)

/-- The refusal of replacement values. It comes to nothing over an integer that is too long to be
told. -/
def refusal (f : TemplateFault) : Failure :=
  if f.isWritable then fault f else .overlongInteger

/-- The index that a numeral writes; one of too many digits, zeros in front counted, is not
read. -/
def readIndex (token : Text) : Except Failure Nat :=
  if token.length ≤ Value.digitLimit then .ok (natValue token)
  else .error (.tooManyDigits token.length)

/-- The indices that a template's code asks for, sorted, each once. The template is read in the
plain dialect. -/
def indices (template : Text) : Except Failure (List Nat) :=
  (((tokensIn .code (segments {} template)).filter isNumeral).mapM readIndex).map sortedIndices

/-- A hole in a literal or a comment would never be filled. -/
def checkHoles (segs : List Segment) : Except TemplateFault Unit :=
  match (tokensIn .literal segs).find? isNumeral with
  | some token => .error (.holeInside .literal token)
  | none =>
    match (tokensIn .comment segs).find? isNumeral with
    | some token => .error (.holeInside .comment token)
    | none => .ok ()

def fillPiece (literals : List Text) : Piece → Except Failure Text
  | .char c => .ok [c]
  | .hole token =>
    if isNumeral token then do
      let i ← readIndex token
      match literals[i]? with
      | some literal => return literal
      | none => throw (fault (.missingValue i literals.length))
    else .error (fault (.malformedHole token))

def fillSegment (literals : List Text) : Segment → Except Failure Text
  | .code t => ((pieces t).mapM (fillPiece literals)).map List.flatten
  | s => .ok s.text

def unclosedFault? (s : Segment) : Option TemplateFault :=
  if s.closed then none else some (.unterminated s.kind)

/-- Quotes of names are not written by this library, so one in code is out of place. -/
def strayFault? (s : Segment) : Option TemplateFault :=
  match s.code? with
  | none => none
  | some t =>
    if t.contains '"' then some (.stray '"')
    else if t.contains '\x60' then some (.stray '\x60')
    else none

def countFault? (segs : List Segment) (kind : SegmentKind) (expected : Option Int) :
    Option TemplateFault :=
  let found := countKind kind segs
  match expected with
  | some n => if (found : Int) == n then none else some (.miscount kind found n)
  | none => none

/-- What is wrong with a finished statement, if anything; counts that are not given are not
checked. -/
def structureFault? (dialect : Dialect) (statement : Text) (literals comments : Option Int) :
    Option TemplateFault :=
  let segs := segments dialect statement
  (segs.findSome? fun s => unclosedFault? s <|> strayFault? s)
    <|> ((tokensIn .code segs).head?.map .leftoverHole)
    <|> countFault? segs .literal literals
    <|> countFault? segs .comment comments

/-- The indices that a template's code asks for, in order and with repetitions. -/
def usedIndices (segs : List Segment) : List Nat := (tokensIn .code segs).map natValue

def isTextAt (literals : List Text) (i : Nat) : Bool := literals[i]?.any Literal.isText

def fill (dialect : Dialect) (template : Text) (literals : List Text) : Except Failure Text := do
  let segs := segments dialect template
  (checkHoles segs).mapError fault
  let statement := (← segs.mapM (fillSegment literals)).flatten
  let used := usedIndices segs
  match (List.range literals.length).find? (!used.contains ·) with
  | some i => throw (fault (.unusedValue i))
  | none =>
    let inserted := used.countP (isTextAt literals)
    match structureFault? dialect statement (some (countKind .literal segs + inserted : Nat))
        (some (countKind .comment segs : Nat)) with
    | some f => throw (fault f)
    | none => return statement

/-- The statement of a template and its replacement values. -/
def substitute (dialect : Dialect) (escape : Escaper) (template replacements : Value) :
    Except Failure Text :=
  match template.text? with
  | none => .error (fault (.notText template.typeName))
  | some t => do
    let values ← (replacementValues replacements).mapError refusal
    let literals ← values.mapM (Literal.encode escape)
    fill dialect t literals

end GuardedSql.Template
