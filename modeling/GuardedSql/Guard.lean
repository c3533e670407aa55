import GuardedSql.Fault
import GuardedSql.Sql.Lexer
import GuardedSql.Sql.Statement
import GuardedSql.Text.Keyword

/-! The judgement of a finished statement: the command it leads with, or why it may not run. It
is read through its segments, so that a word in a literal means nothing and a comment hides
nothing. A DELETE passes only where rows may be deleted at all, and only with a LIMIT. -/

namespace GuardedSql

open Sql
open Text (isBlank allBlank findWord hasWord capital)

structure Guard where
  /-- Rows are retired by a flag, so that no statement may delete. -/
  softDelete : Bool
  dialect : Dialect := {}
  deriving DecidableEq, Repr

namespace Guard

def destructiveWords : List Text :=
  ["DROP", "TRUNCATE", "ALTER", "CREATE", "GRANT", "REVOKE", "RENAME", "OUTFILE", "DUMPFILE"].map
    String.toList

def forbiddenWords (g : Guard) : List Text :=
  destructiveWords ++ (if g.softDelete then ["DELETE".toList] else [])

/-- MySQL runs the body of a comment that opens with a slash, a star and an exclamation mark. -/
def isExecutable (s : Segment) : Bool :=
  s.kind == .comment && ['/', '*', '!'].isPrefixOf s.text

def segmentFault? (s : Segment) : Option GuardFault :=
  if !s.closed then some (.unterminated s.kind)
  else if isExecutable s then some .executableComment
  else none

def isCommandChar (c : Char) : Bool := c.isAlpha || c == '_'

/-- The code from its first character that is no blank and no semicolon. -/
def leadingCode (segs : List Segment) : Text :=
  (codeText segs).dropWhile fun c => isBlank c || c == ';'

/-- The command that a keyword names, if the code may run it. -/
def command? (g : Guard) (code keyword : Text) : Option CommandKind :=
  match CommandKind.ofName? (String.ofList keyword) with
  | some .delete => if !g.softDelete && hasWord "LIMIT".toList code then some .delete else none
  | kind => kind

def judgeCode (g : Guard) (code : Text) : Except GuardFault CommandKind :=
  let keyword := (code.takeWhile isCommandChar).map Char.toUpper
  if keyword.isEmpty then .error .noKeyword
  else
    match g.command? code keyword with
    | none => .error (.disallowed keyword)
    | some kind =>
      match findWord g.forbiddenWords none code with
      | some word => .error (.destructive (word.map capital) keyword)
      | none => .ok kind

def judge (g : Guard) (statement : Text) : Except GuardFault CommandKind :=
  if allBlank statement then .error .empty
  else
    let segs := segments g.dialect statement
    match segs.findSome? segmentFault? with
    | some f => .error f
    | none =>
      if 1 < (statements segs).length then .error .stacked
      else g.judgeCode (leadingCode segs)

/-- The judgement of any value; what is no text is no statement. -/
def classify (g : Guard) (statement : Value) : Except GuardFault CommandKind :=
  match statement.text? with
  | none => .error .empty
  | some t => g.judge t

end Guard

end GuardedSql
