import GuardedSql.Config.Problem
import GuardedSql.Sql.Command
import GuardedSql.Sql.Redaction
import GuardedSql.Store.Error

/-! What can go wrong, and how it is told. A fault is a cause; its kind and its wording are
functions of it. The wording is for a log: a caller is told the kind in general words only
(`DatabaseError.generic`). A failure is a fault or something that passes through unworded. -/

namespace GuardedSql

open Sql (SegmentKind CommandKind)

inductive ErrorKind where
  | general | connection | encoding | template | guard | execution | shape
  deriving DecidableEq, Repr

namespace ErrorKind

def name : ErrorKind → String
  | .general => "SafeQueryError"
  | .connection => "DBConnectionError"
  | .encoding => "EncodingError"
  | .template => "TemplateError"
  | .guard => "GuardError"
  | .execution => "ExecutionError"
  | .shape => "ShapeError"

def publicMessage : ErrorKind → String
  | .general => "Database error."
  | .connection => "Database connection unavailable."
  | .encoding => "Database error: unsupported query value."
  | .template => "Database error: invalid query template."
  | .guard => "Database error: statement not permitted."
  | .execution => "Database error: query failed."
  | .shape => "Database error: unexpected result shape."

/-- The log category of every kind. -/
def category (_ : ErrorKind) : String := "database"

end ErrorKind

/-- An error as it is raised: its kind, its diagnostic and the name of the error behind it. -/
structure DatabaseError where
  kind : ErrorKind
  detail : String := ""
  cause : Option String := none
  deriving DecidableEq, Repr

namespace DatabaseError

/-- The diagnostic, or the general words where there is none. -/
def text (e : DatabaseError) : String :=
  if e.detail.isEmpty then e.kind.publicMessage else e.detail

/-- The error as a caller is told it, without its diagnostic. -/
def generic (e : DatabaseError) : DatabaseError := { kind := e.kind }

end DatabaseError

inductive ConnectionFault where
  | failed (product : Product) (database : Text) (error : StoreError)
  | closed
  deriving Repr

inductive EncodingFault where
  | integerRange (bits : Nat)
  | notFinite (bits : UInt64)
  | emptyLiteral (length : Nat)
  | unsupported (typeName : String)
  | nul (product : Product)
  | unwritable (encoding report : String)
  deriving Repr

inductive TemplateFault where
  | notText (typeName : String)
  | notIndex (key : Value)
  | notContiguous (indices : List Int)
  | notReplacements (typeName : String)
  | holeInside (kind : SegmentKind) (token : Text)
  | malformedHole (token : Text)
  | missingValue (index count : Nat)
  | unusedValue (index : Nat)
  | unterminated (kind : SegmentKind)
  | stray (delimiter : Char)
  | leftoverHole (token : Text)
  | miscount (kind : SegmentKind) (found : Nat) (expected : Int)
  deriving Repr

inductive GuardFault where
  | empty
  | unterminated (kind : SegmentKind)
  | executableComment
  | stacked
  | noKeyword
  | disallowed (keyword : Text)
  | destructive (word keyword : Text)
  deriving DecidableEq, Repr

inductive ExecutionFault where
  /-- The store refused the statement. -/
  | refused (error : StoreError)
  /-- The store failed while its result was read. -/
  | unreadable (error : StoreError)
  deriving Repr

inductive ShapeFault where
  | noRowSet
  | rowCount (found : Int)
  | missingColumn (name : Text)
  | notSelect (kind : CommandKind)
  deriving DecidableEq, Repr

inductive Fault where
  | connection (fault : ConnectionFault)
  | encoding (fault : EncodingFault)
  | template (fault : TemplateFault)
  | guard (fault : GuardFault)
  | execution (fault : ExecutionFault)
  | shape (fault : ShapeFault)
  deriving Repr

def shownHole (token : Text) : String := "\x7b" ++ String.ofList token ++ "\x7d"

def ConnectionFault.detail : ConnectionFault → String
  | .failed product database error =>
    "connect to " ++ product.name ++ " database " ++ String.ofList (Text.quoted database)
      ++ " failed: " ++ error.className ++ ": " ++ String.ofList error.shown
  | .closed => "query on a closed Database"

def EncodingFault.detail : EncodingFault → String
  | .integerRange bits =>
    "integer outside the signed 64-bit range (" ++ toString bits ++ " bits)"
  | .notFinite bits =>
    "non-finite float " ++ String.ofList (Decimal.text bits) ++ " has no SQL literal"
  | .emptyLiteral length =>
    "escaping produced an empty literal for a " ++ toString length ++ "-character string"
  | .unsupported typeName => "unsupported replacement type " ++ typeName
  | .nul product => "NUL character cannot be stored in " ++ product.name ++ " text"
  | .unwritable encoding report => "value not representable in " ++ encoding ++ ": " ++ report

def TemplateFault.detail : TemplateFault → String
  | .notText typeName => "template must be a string, not " ++ typeName
  | .notIndex key => "replacement index " ++ String.ofList key.quoted ++ " is not an integer"
  | .notContiguous indices =>
    "replacement indices must be contiguous from 0, got "
      ++ String.ofList (Value.list (indices.map Value.int)).quoted
  | .notReplacements typeName =>
    "replacements must be a list, tuple or int-keyed mapping, not " ++ typeName
  | .holeInside kind token =>
    "placeholder " ++ shownHole token ++ " inside "
      ++ (match kind with
          | .literal => "a quoted literal"
          | .comment => "a comment"
          | .code => "code")
  | .malformedHole token => "malformed placeholder " ++ shownHole token
  | .missingValue index count =>
    "missing replacement for placeholder " ++ shownHole (toString index).toList ++ " ("
      ++ toString count ++ " given)"
  | .unusedValue index => "replacement " ++ toString index ++ " is not referenced by the template"
  | .unterminated kind => "unterminated " ++ kind.name ++ " in statement"
  | .stray delimiter => "stray " ++ delimiter.toString ++ " outside a quoted literal"
  | .leftoverHole token => "missing replacement for placeholder " ++ shownHole token
  | .miscount kind found expected =>
    "substitution changed statement structure: " ++ toString found ++ " " ++ kind.name
      ++ " segments, expected " ++ toString expected

/-- Whether what a fault tells of values can be written. -/
def TemplateFault.isWritable : TemplateFault → Bool
  | .notIndex key => key.isWritable
  | .notContiguous indices => (Value.list (indices.map Value.int)).isWritable
  | _ => true

def GuardFault.detail : GuardFault → String
  | .empty => "empty statement"
  | .unterminated kind => "unterminated " ++ kind.name ++ " in statement"
  | .executableComment => "executable comment in statement"
  | .stacked => "stacked statements"
  | .noKeyword => "statement does not start with a command keyword"
  | .disallowed keyword => "disallowed command " ++ String.ofList keyword
  | .destructive word keyword =>
    "destructive keyword " ++ String.ofList word ++ " in " ++ String.ofList keyword ++ " statement"

def ExecutionFault.error : ExecutionFault → StoreError
  | .refused e | .unreadable e => e

def ExecutionFault.detail : ExecutionFault → String
  | .refused e => e.className ++ ": " ++ String.ofList (Sql.redactMessage e.message)
  | .unreadable e =>
    e.className ++ " reading result: " ++ String.ofList (Sql.redactMessage e.message)

def ShapeFault.detail : ShapeFault → String
  | .noRowSet => "expected a row set, statement returned no rows"
  | .rowCount found => "expected exactly one row, found " ++ toString found
  | .missingColumn name => "column " ++ String.ofList (Text.quoted name) ++ " not in result"
  | .notSelect kind => "single-row query needs a SELECT, got " ++ kind.name

namespace Fault

def kind : Fault → ErrorKind
  | .connection _ => .connection
  | .encoding _ => .encoding
  | .template _ => .template
  | .guard _ => .guard
  | .execution _ => .execution
  | .shape _ => .shape

def detail : Fault → String
  | .connection f => f.detail
  | .encoding f => f.detail
  | .template f => f.detail
  | .guard f => f.detail
  | .execution f => f.detail
  | .shape f => f.detail

/-- The name of the error behind a fault, where one is kept. -/
def cause : Fault → Option String
  | .encoding (.unwritable ..) => some "UnicodeEncodeError"
  | .execution f => some f.error.className
  | _ => none

def error (f : Fault) : DatabaseError := ⟨f.kind, f.detail, f.cause⟩

end Fault

inductive Failure where
  | database (error : DatabaseError)
  /-- An error of the store, as it was raised. -/
  | raised (error : StoreError)
  | invalid (problems : List Config.Problem)
  /-- An index of more digits than are read as a number. -/
  | tooManyDigits (digits : Nat)
  /-- An integer of more digits than are written, in what is told. -/
  | overlongInteger
  /-- An escaped text that the client's encoding cannot read back, with the report of it. -/
  | undecodable (report : String)
  /-- A row with fewer values than there are columns. -/
  | shortRow
  /-- A row with more values than there are columns. -/
  | longRow
  /-- The first value was asked of a row that has none. -/
  | emptyRow
  /-- A row was asked of a result that has none. -/
  | noRow
  | unsupportedProduct (name : String)
  | noDefaultPort (name : String)
  deriving Repr

namespace Failure

def ofFault (f : Fault) : Failure := .database f.error

/-- A driver's error becomes a fault of the given form; any other passes. -/
def ofStoreError (form : StoreError → ExecutionFault) (e : StoreError) : Failure :=
  if e.fromDriver then .ofFault (.execution (form e)) else .raised e

/-- A failure of the reading of a result: a driver's error becomes a fault of it. -/
def whileReading : Failure → Failure
  | .raised e => ofStoreError .unreadable e
  | f => f

def message : Failure → String
  | .database e => e.text
  | .raised e => String.ofList e.shown
  | .invalid _ => ""
  | .tooManyDigits digits =>
    "Exceeds the limit (" ++ toString Value.digitLimit
      ++ " digits) for integer string conversion: value has " ++ toString digits
      ++ " digits; use sys.set_int_max_str_digits() to increase the limit"
  | .overlongInteger =>
    "Exceeds the limit (" ++ toString Value.digitLimit ++ " digits) for integer string conversion; "
      ++ "use sys.set_int_max_str_digits() to increase the limit"
  | .undecodable report => report
  | .shortRow => "zip() argument 2 is shorter than argument 1"
  | .longRow => "zip() argument 2 is longer than argument 1"
  | .emptyRow => "tuple index out of range"
  | .noRow => "list index out of range"
  | .unsupportedProduct name => "Unsupported product_type: " ++ name
  | .noDefaultPort name => String.ofList (Text.quoted name.toList)

end Failure

end GuardedSql
