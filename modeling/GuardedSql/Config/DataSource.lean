import GuardedSql.Config.Field

/-! The parameters of a connection, and the checks on them. Every field is checked by itself and
all their problems are told; only if there are none, a server product must also have a host and
a user. -/

namespace GuardedSql.Config

structure DataSource where
  product : Product
  host : Option Text := none
  port : Option Int := none
  database : Text
  username : Option Text := none
  password : Text := []
  deriving DecidableEq, Repr

namespace DataSource

def isMissing (t : Option Text) : Bool := t.all List.isEmpty

/-- What a server product lacks, the host before the user. -/
def serverProblem? (ds : DataSource) : Option Problem :=
  if ds.product == .sqlite then none
  else if isMissing ds.host then some ⟨none, .required "host" ds.product.name⟩
  else if isMissing ds.username then some ⟨none, .required "username" ds.product.name⟩
  else none

def checkServer (ds : DataSource) : Except (List Problem) DataSource :=
  match ds.serverProblem? with
  | some p => .error [p]
  | none => .ok ds

/-- A data source from its checked fields, or the problems of all that failed. -/
def assemble (product : Except ProblemKind Product) (host : Except ProblemKind (Option Text))
    (port : Except ProblemKind (Option Int)) (database : Except ProblemKind Text)
    (username : Except ProblemKind (Option Text)) (password : Except ProblemKind Text) :
    Except (List Problem) DataSource :=
  match product, host, port, database, username, password with
  | .ok product, .ok host, .ok port, .ok database, .ok username, .ok password =>
    checkServer ⟨product, host, port, database, username, password⟩
  | _, _, _, _, _, _ =>
    .error ([problem? "product_type" product, problem? "host" host, problem? "port" port,
      problem? "database" database, problem? "username" username,
      problem? "password" password].filterMap id)

def checkName : Text → Except ProblemKind Text := bounded 0 255

def checkPort : Int → Except ProblemKind Int := within 1 65535

def checkDatabase : Text → Except ProblemKind Text := bounded 1 1024

def checkPassword : Text → Except ProblemKind Text := bounded 0 512

/-- A data source from named values; names that are not known are passed over. -/
def ofFields (fields : List (String × Value)) : Except (List Problem) DataSource :=
  let read {α : Type} (name : String) (default : Except ProblemKind α)
      (field : Value → Except ProblemKind α) : Except ProblemKind α :=
    match fields.lookup name with
    | some v => field v
    | none => default
  assemble (read "product_type" (.ok .sqlite) readProduct)
    (read "host" (.ok none) (optional fun v => readText v >>= checkName))
    (read "port" (.ok none) (optional fun v => readInteger v >>= checkPort))
    (read "database" (.error .missing) fun v => readText v >>= checkDatabase)
    (read "username" (.ok none) (optional fun v => readText v >>= checkName))
    (read "password" (.ok []) fun v => readText v >>= checkPassword)

end DataSource

end GuardedSql.Config
