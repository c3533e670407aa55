import GuardedSql.Config.Settings
import GuardedSql.Display
import GuardedSql.Execution
import GuardedSql.Guard
import GuardedSql.Store.Opening
import GuardedSql.Template

/-! Sessions: one connection, the queries over it, and its end. A query is a template and its
values; the statement made of them is judged, run once and recorded. A failure is recorded with
its diagnostic, and the caller is told its kind in general words. A session is a value, and a
step gives the next one with the step's answer, records and calls to the store. -/

namespace GuardedSql

open Sql (CommandKind segments redact)
open Config (DataSource Settings)

inductive Level where
  | debug | warning | error
  deriving DecidableEq, Repr

def Level.name : Level → String
  | .debug => "DEBUG"
  | .warning => "WARNING"
  | .error => "ERROR"

/-- An entry of the log. -/
inductive Record where
  | executed (kind : CommandKind) (redacted : Text)
  /-- A failure, with the template as it may be shown, if it was a query's. -/
  | failed (error : DatabaseError) (template : Option Text)
  | closeFailed (error : StoreError)
  deriving Repr

namespace Record

def level : Record → Level
  | .executed .. => .debug
  | .failed .. => .error
  | .closeFailed _ => .warning

def message : Record → String
  | .executed kind redacted => "Executed " ++ kind.name ++ ": " ++ String.ofList redacted
  | .failed error template =>
    error.kind.name ++ ": " ++ error.text ++ " (template: "
      ++ String.ofList (template.getD ['-']) ++ ")"
  | .closeFailed error => "Database close failed: " ++ String.ofList error.shown

/-- The error of a failure that was recorded. -/
def error? : Record → Option DatabaseError
  | .failed error _ => some error
  | _ => none

end Record

structure Session where
  product : Product
  softDelete : Bool
  /-- None once the session is closed. -/
  connection : Option Connection

inductive Step where
  | query (template replacements : Value) (reply : Reply)
  | querySingleRow (template replacements : Value) (column : Option Text) (reply : Reply)
  | unescape (encoded : Text)
  | close
  | enter
  | exit
  /-- The server starts or stops to take backslashes as escapes. -/
  | setBackslashes (backslashes : Bool)
  /-- The server starts or stops to take its plain strings as standard ones. -/
  | setStandardStrings (standardStrings : Bool)
  deriving Repr

inductive Answer where
  | outcome (outcome : Outcome)
  | row (row : Row)
  | value (value : Value)
  | text (text : Text)
  /-- The session itself. -/
  | itself
  | nothing
  deriving Repr

/-- What a step comes to. -/
structure Effect where
  session : Session
  answer : Except Failure Answer
  records : List Record := []
  calls : List Call := []

/-- What opening a session comes to. -/
structure Start where
  session : Except Failure Session
  openings : List Opening := []
  records : List Record := []

namespace Session

def closed (s : Session) : Bool := s.connection.isNone

/-- The data source of a new session: the one given, over another database if one is named, or
the one of the settings. -/
def chooseSource (settings : Settings) (given : Option DataSource) (database : Option Text) :
    Except (List Config.Problem) DataSource :=
  match given with
  | none => settings.dataSource database
  | some ds => .ok (match database with
    | none => ds
    | some name => { ds with database := name })

/-- Opens a session. `connect` is what the driver of a product gives or raises. -/
def start (settings : Settings) (given : Option DataSource) (database : Option Text)
    (softDelete : Option Bool) (connect : Product → Except StoreError Connection) : Start :=
  match chooseSource settings given database with
  | .error problems => { session := .error (.invalid problems) }
  | .ok ds =>
    let openings := [Opening.plan settings.connectTimeout ds]
    match connect ds.product with
    | .ok conn =>
      { session := .ok ⟨ds.product, softDelete.getD settings.softDelete, some conn⟩, openings }
    | .error e =>
      if e.fromDriver || e.fromSystem then
        let error := (Fault.connection (.failed ds.product ds.database e)).error
        { session := .error (.database error.generic), openings, records := [.failed error none] }
      else { session := .error (.raised e), openings }

/-- The statement of a query and the command it was judged to be. -/
def prepare (softDelete rowsExpected : Bool) (conn : Connection) (template replacements : Value) :
    Except Failure (Text × CommandKind) := do
  let dialect := conn.mode.dialect
  let statement ← Template.substitute dialect conn.escaper template replacements
  let kind ← (Guard.judge ⟨softDelete, dialect⟩ statement).mapError fun f => .ofFault (.guard f)
  if rowsExpected && kind != .select then
    throw (.ofFault (.shape (.notSelect kind)))
  return (statement, kind)

/-- Prepares a statement and runs it, unless the session is closed. Nothing is called before the
statement is accepted, and only a result that was read is recorded. -/
def run (s : Session) (rowsExpected : Bool) (template replacements : Value) (reply : Reply) :
    List Call × List Record × Except Failure Outcome :=
  match s.connection with
  | none => ([], [], .error (.ofFault (.connection .closed)))
  | some conn =>
    match prepare s.softDelete rowsExpected conn template replacements with
    | .error f => ([], [], .error f)
    | .ok (statement, kind) =>
      match Execution.run s.product kind statement reply with
      | (calls, .error f) => (calls, [], .error f)
      | (calls, .ok outcome) =>
        (calls, [.executed kind (redact (segments conn.mode.dialect statement))], .ok outcome)

/-- The error that a failure is recorded as. What no kind of error stands for is not recorded. -/
def reported? : Failure → Option DatabaseError
  | .database e => some e
  | .raised e => if e.fromDriver then some (Fault.execution (.refused e)).error else none
  | _ => none

/-- A template as the log may show it: its literals hidden, or the name of its type. Null is no
template at all. -/
def shownTemplate? : Value → Option Text
  | .null => none
  | .text t | .markup t => some (redact (segments {} t))
  | v => some ('<' :: v.typeName.toList ++ ['>'])

/-- The effect of a query: the session stays as it is; a failure is recorded in full and told
in general words. -/
def conclude (s : Session) (template : Value) (calls : List Call) (records : List Record)
    (result : Except Failure Answer) : Effect :=
  match result with
  | .ok answer => ⟨s, .ok answer, records, calls⟩
  | .error f =>
    match reported? f with
    | some e =>
      ⟨s, .error (.database e.generic), records ++ [.failed e (shownTemplate? template)], calls⟩
    | none => ⟨s, .error f, records, calls⟩

def query (s : Session) (template replacements : Value) (reply : Reply) : Effect :=
  let (calls, records, result) := s.run false template replacements reply
  s.conclude template calls records (result.map .outcome)

def answerOfSingle : Row ⊕ Value → Answer
  | .inl row => .row row
  | .inr v => .value v

def querySingleRow (s : Session) (template replacements : Value) (column : Option Text)
    (reply : Reply) : Effect :=
  let (calls, records, result) := s.run true template replacements reply
  s.conclude template calls records ((result.bind (Outcome.single column)).map answerOfSingle)

/-- Decodes a literal for show. A closed session goes by what its product does by default. -/
def unescape (s : Session) (encoded : Text) : Text :=
  let backslashes :=
    match s.connection with
    | some conn => conn.mode.backslashEscapes
    | none => s.product == .mysql
  Display.decode backslashes encoded

/-- Closes the connection, once. The session is closed even if the driver fails to close it;
the driver's own errors are recorded, others are raised. -/
def close (s : Session) : Effect :=
  match s.connection with
  | none => ⟨s, .ok .nothing, [], []⟩
  | some conn =>
    let closed := { s with connection := none }
    match conn.closeError with
    | none => ⟨closed, .ok .nothing, [], [.closeConnection]⟩
    | some e =>
      if e.fromDriver then ⟨closed, .ok .nothing, [.closeFailed e], [.closeConnection]⟩
      else ⟨closed, .error (.raised e), [], [.closeConnection]⟩

/-- The store under an open session goes over to another mode. -/
def changeMode (s : Session) (change : Mode → Mode) : Session :=
  { s with connection := s.connection.map fun conn => { conn with mode := change conn.mode } }

def step (s : Session) : Step → Effect
  | .query template replacements reply => s.query template replacements reply
  | .querySingleRow template replacements column reply =>
    s.querySingleRow template replacements column reply
  | .unescape encoded => ⟨s, .ok (.text (s.unescape encoded)), [], []⟩
  | .close | .exit => s.close
  | .enter => ⟨s, .ok .itself, [], []⟩
  | .setBackslashes backslashes =>
    ⟨s.changeMode (Mode.withBackslashes backslashes), .ok .nothing, [], []⟩
  | .setStandardStrings standardStrings =>
    ⟨s.changeMode (Mode.withStandardStrings standardStrings), .ok .nothing, [], []⟩

/-- The effects of steps, in order. -/
def steps (s : Session) : List Step → List Effect
  | [] => []
  | first :: rest =>
    let effect := s.step first
    effect :: effect.session.steps rest

end Session

end GuardedSql
