import GuardedSql.Fault

/-! How a store reads quoted literals. A mode is what a connection tells of itself at a moment:
whether the MySQL server takes backslashes as escapes, and whether PostgreSQL's strings are
standard ones. -/

namespace GuardedSql

open Sql (Dialect)

inductive Mode where
  | sqlite
  | mysql (backslashes : Bool)
  | postgres (standardStrings : Bool)
  deriving DecidableEq, Repr

/-- The text with the marked characters written twice. -/
def doubled (marked : Char → Bool) (t : Text) : Text :=
  t.flatMap fun c => if marked c then [c, c] else [c]

def isQuote (c : Char) : Bool := c == '\''

def isQuoteOrBackslash (c : Char) : Bool := c == '\'' || c == '\\'

/-- A character as a backslash and a letter, where it has such a form. -/
def backslashForm (c : Char) : Text :=
  match c with
  | '\x00' => ['\\', '0']
  | '\n' => ['\\', 'n']
  | '\r' => ['\\', 'r']
  | '\x1a' => ['\\', 'Z']
  | '"' => ['\\', '"']
  | '\'' => ['\\', '\'']
  | '\\' => ['\\', '\\']
  | c => [c]

namespace Mode

def product : Mode → Product
  | .sqlite => .sqlite
  | .mysql _ => .mysql
  | .postgres _ => .postgres

/-- Whether a backslash in a plain literal takes the next character with it. -/
def backslashEscapes : Mode → Bool
  | .sqlite => false
  | .mysql backslashes => backslashes
  | .postgres standardStrings => !standardStrings

def dialect (mode : Mode) : Dialect := ⟨mode.backslashEscapes, mode.product == .mysql⟩

/-- The body of a literal that the store reads as a text. -/
def bodyOf (mode : Mode) (t : Text) : Text :=
  match mode with
  | .sqlite | .mysql false | .postgres true => doubled isQuote t
  | .mysql true => t.flatMap backslashForm
  | .postgres false => doubled isQuoteOrBackslash t

/-- The server's status changes; only a MySQL server has one. -/
def withBackslashes (backslashes : Bool) : Mode → Mode
  | .mysql _ => .mysql backslashes
  | mode => mode

/-- The setting of the server's strings changes; only PostgreSQL has it. -/
def withStandardStrings (standardStrings : Bool) : Mode → Mode
  | .postgres _ => .postgres standardStrings
  | mode => mode

end Mode

end GuardedSql
