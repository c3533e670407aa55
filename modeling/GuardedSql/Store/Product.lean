/-! The database products that statements are written for. -/

namespace GuardedSql

inductive Product where
  | sqlite | mysql | postgres
  deriving DecidableEq, Repr

namespace Product

def all : List Product := [.sqlite, .mysql, .postgres]

def name : Product → String
  | .sqlite => "sqlite"
  | .mysql => "mysql"
  | .postgres => "postgres"

def ofName? (name : String) : Option Product := all.find? (·.name == name)

/-- The port that a product's server listens on; a file has none. -/
def defaultPort? : Product → Option Int
  | .sqlite => none
  | .mysql => some 3306
  | .postgres => some 5432

end Product

end GuardedSql
