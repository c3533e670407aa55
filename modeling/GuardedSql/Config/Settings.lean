import GuardedSql.Config.DataSource

/-! Settings of a deployment, read from environment variables and from a file of assignments.
The names of the variables share a beginning, and their case does not matter. A variable wins
over an assignment; an empty one counts as not set. -/

namespace GuardedSql.Config

structure Settings where
  product : Product := .sqlite
  host : Option Text := none
  port : Option Int := none
  database : Text := ":memory:".toList
  username : Option Text := none
  password : Text := []
  /-- In seconds. -/
  connectTimeout : Int := 10
  softDelete : Bool := true
  deriving DecidableEq, Repr

abbrev Assignments := List (Text × Text)

namespace Settings

/-- The assignment on a line; a comment or a line without a name and an equals sign is none. -/
def assignment? (line : Text) : Option (Text × Text) :=
  let name := Text.strip (line.takeWhile (· != '='))
  if line.contains '=' && name.head?.any (· != '#') then
    some (name, Text.strip ((line.dropWhile (· != '=')).drop 1))
  else none

/-- The lines of a text; a carriage return belongs to the end of a line. -/
def linesOf : Text → List Text
  | [] => [[]]
  | c :: t =>
    if c == '\n' || c == '\r' then [] :: linesOf t
    else
      match linesOf t with
      | [] => [[c]]
      | line :: lines => (c :: line) :: lines

/-- Of several assignments to one name the last holds, at the place of the first. -/
def assign (done : Assignments) (name value : Text) : Assignments :=
  match done with
  | [] => [(name, value)]
  | (n, v) :: rest => if n == name then (n, value) :: rest else (n, v) :: assign rest name value

def ofFile (content : Text) : Assignments :=
  ((linesOf content).filterMap assignment?).foldl (fun done e => assign done e.1 e.2) []

def folded (t : Text) : Text := t.map Char.toLower

/-- The value set for a name in any case; of several the last. -/
def lookup (assignments : Assignments) (name : Text) : Option Text :=
  ((assignments.filter fun e => !e.2.isEmpty && folded e.1 == folded name).getLast?).map (·.2)

/-- Settings read from variables whose names begin with `scope`. -/
def read (scope : Text) (environment file : Assignments) : Except (List Problem) Settings :=
  let field {α : Type} (name : String) (default : α) (parse : Text → Except ProblemKind α) :
      Except ProblemKind α :=
    let full := scope ++ name.toList
    match lookup environment full <|> lookup file full with
    | some t => parse t
    | none => .ok default
  let integer (t : Text) : Except ProblemKind Int := readInteger (.text t)
  let product := field "DB_PRODUCT_TYPE" .sqlite fun t => readProduct (.text t)
  let host := field "DB_HOST" none fun t => .ok (some t)
  let port := field "DB_PORT" none fun t => (integer t).map some
  let database := field "DB_DATABASE" ":memory:".toList .ok
  let username := field "DB_USERNAME" none fun t => .ok (some t)
  let password := field "DB_PASSWORD" [] .ok
  let timeout := field "DB_CONNECT_TIMEOUT" 10 integer
  let softDelete := field "SOFT_DELETE_ENFORCED" true parseBool
  match product, host, port, database, username, password, timeout, softDelete with
  | .ok product, .ok host, .ok port, .ok database, .ok username, .ok password, .ok timeout,
    .ok softDelete =>
    .ok ⟨product, host, port, database, username, password, timeout, softDelete⟩
  | _, _, _, _, _, _, _, _ =>
    .error ([problem? "DB_PRODUCT_TYPE" product, problem? "DB_HOST" host,
      problem? "DB_PORT" port, problem? "DB_DATABASE" database, problem? "DB_USERNAME" username,
      problem? "DB_PASSWORD" password, problem? "DB_CONNECT_TIMEOUT" timeout,
      problem? "SOFT_DELETE_ENFORCED" softDelete].filterMap id)

/-- The data source that the settings describe; a database that is given and not empty takes
the place of theirs. -/
def dataSource (settings : Settings) (database : Option Text) :
    Except (List Problem) DataSource :=
  let chosen := (database.filter (!·.isEmpty)).getD settings.database
  DataSource.assemble (.ok settings.product)
    (optionally DataSource.checkName settings.host)
    (optionally DataSource.checkPort settings.port)
    (DataSource.checkDatabase chosen)
    (optionally DataSource.checkName settings.username)
    (DataSource.checkPassword settings.password)

end Settings

end GuardedSql.Config
