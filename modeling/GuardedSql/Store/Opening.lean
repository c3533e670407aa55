import GuardedSql.Config.DataSource
import GuardedSql.Fault

/-! The call to a driver that opens a connection: a file by its name, a server with all it takes
to log in. Connections commit every statement by itself. -/

namespace GuardedSql

open Config (DataSource)

inductive Opening where
  | file (database : Text) (timeout : Int)
  | server (product : Product) (host : Option Text) (port : Int) (database : Text)
      (username : Option Text) (password : Text) (timeout : Int)
  deriving DecidableEq, Repr

namespace Opening

/-- A port of zero is none. -/
def givenPort? (port : Option Int) : Option Int := port.filter (· != 0)

def plan (timeout : Int) (ds : DataSource) : Opening :=
  match ds.product.defaultPort? with
  | none => .file ds.database timeout
  | some default =>
    .server ds.product ds.host ((givenPort? ds.port).getD default) ds.database ds.username
      ds.password timeout

/-- Why no connection can be opened to a product that is not known. -/
def refusal (product : String) (port : Option Int) : Failure :=
  match givenPort? port with
  | none => .noDefaultPort product
  | some _ => .unsupportedProduct product

end Opening

end GuardedSql
