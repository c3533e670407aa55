import GuardedSql.Store.Error

/-! What a store answers to one statement, as far as anybody asks: the calls made to it and the
answers it has ready. A row is read by column names. -/

namespace GuardedSql

/-- The answers of a store to one statement, or the errors it raises instead. No columns mean
that the statement returns no rows. -/
structure Reply where
  columns : List Text := []
  rows : List (List Value) := []
  rowCount : Option Int := some (-1)
  lastRowId : Value := .null
  openError : Option StoreError := none
  executeError : Option StoreError := none
  fetchError : Option StoreError := none
  closeError : Option StoreError := none
  deriving Repr

/-- A call to a store. A cursor that could not be opened counts as not called for. -/
inductive Call where
  | openCursor
  | execute (sql : Text)
  | fetch
  | closeCursor
  | closeConnection
  deriving DecidableEq, Repr

abbrev Row := List (Text × Value)

namespace Row

/-- Sets the value of a column; a column keeps the place of its first mention. -/
def put (row : Row) (name : Text) (value : Value) : Row :=
  match row with
  | [] => [(name, value)]
  | (n, v) :: rest => if n == name then (n, value) :: rest else (n, v) :: put rest name value

def get? (row : Row) (name : Text) : Option Value := (row.find? (·.1 == name)).map (·.2)

def ofColumns (columns : List Text) (values : List Value) : Row :=
  (columns.zip values).foldl (fun row e => row.put e.1 e.2) []

end Row

end GuardedSql
