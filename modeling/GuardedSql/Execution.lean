import GuardedSql.Config.Field
import GuardedSql.Fault
import GuardedSql.Store.Reply

/-! One run of a statement on a store. The statement is executed once; a cursor that was opened
is closed, whatever happened. Errors of the driver from executing and from reading become faults
in redacted words; the error of a close takes the place of what there was before. -/

namespace GuardedSql

open Sql (CommandKind)

inductive Outcome where
  | rowSet (rows : List Row) (count : Int)
  | written (affected : Int) (lastId : Option Int)
  deriving Repr

namespace Execution

/-- A row as its columns name it; it must have as many values as there are columns. -/
def nameRow (columns : List Text) (values : List Value) : Except Failure Row :=
  if values.length < columns.length then .error .shortRow
  else if columns.length < values.length then .error .longRow
  else .ok (Row.ofColumns columns values)

/-- The rows that a store has ready, with the calls made for them: none if the statement has no
columns. An error of the store is raised as it is. -/
def readRows (reply : Reply) : List Call × Except Failure (List Row) :=
  if reply.columns.isEmpty then ([], .ok [])
  else
    match reply.fetchError with
    | some e => ([.fetch], .error (.raised e))
    | none => ([.fetch], reply.rows.mapM (nameRow reply.columns))

/-- The id of the last row inserted. PostgreSQL tells it as the first value of the last row that
the statement returns; for the others it is what the cursor holds, if it holds something. -/
def lastInsertId (product : Product) (reply : Reply) : List Call × Except Failure Value :=
  if product == .postgres then
    if reply.columns.isEmpty then ([], .ok .null)
    else
      match reply.fetchError with
      | some e => ([.fetch], .error (.raised e))
      | none =>
        match reply.rows.getLast? with
        | none => ([.fetch], .ok .null)
        | some [] => ([.fetch], .error .emptyRow)
        | some (first :: _) => ([.fetch], .ok first)
  else ([], .ok (if reply.lastRowId.isTruthy then reply.lastRowId else .null))

def affectedRows (reply : Reply) : Int :=
  match reply.rowCount with
  | some n => if 0 ≤ n then n else 0
  | none => 0

/-- The outcome of a write; its id must be an integer if there is one. -/
def writeOutcome (affected : Int) (id : Value) : Except Failure Outcome :=
  match Config.optional Config.readInteger id with
  | .ok lastId => .ok (.written affected lastId)
  | .error kind => .error (.invalid [⟨some "last_insert_id", kind⟩])

def readOutcome (product : Product) (kind : CommandKind) (reply : Reply) :
    List Call × Except Failure Outcome :=
  match kind with
  | .select =>
    let (calls, rows) := readRows reply
    (calls, rows.map fun rows => .rowSet rows rows.length)
  | .insert =>
    let (calls, id) := lastInsertId product reply
    (calls, id.bind (writeOutcome (affectedRows reply)))
  | .update | .delete => ([], .ok (.written (affectedRows reply) none))

/-- Runs a statement, and words what a driver reports of it. The calls are those that were made,
in order. -/
def run (product : Product) (kind : CommandKind) (statement : Text) (reply : Reply) :
    List Call × Except Failure Outcome :=
  match reply.openError with
  | some e => ([], .error (.ofStoreError .refused e))
  | none =>
    match reply.executeError with
    | some e =>
      ([.openCursor, .execute statement, .closeCursor],
        .error (.ofStoreError .refused (reply.closeError.getD e)))
    | none =>
      let (calls, result) := readOutcome product kind reply
      (.openCursor :: .execute statement :: calls ++ [.closeCursor],
        match reply.closeError with
        | some e => .error (.raised e)
        | none => result.mapError .whileReading)

end Execution

namespace Outcome

/-- The only row of an outcome, or its value in a column. -/
def single (column : Option Text) : Outcome → Except Failure (Row ⊕ Value)
  | .written .. => .error (.ofFault (.shape .noRowSet))
  | .rowSet rows count =>
    if count != 1 then .error (.ofFault (.shape (.rowCount count)))
    else
      match rows, column with
      | [], _ => .error .noRow
      | row :: _, none => .ok (.inl row)
      | row :: _, some name =>
        match row.get? name with
        | some v => .ok (.inr v)
        | none => .error (.ofFault (.shape (.missingColumn name)))

end Outcome

end GuardedSql
