/-! The commands that a statement may lead with. -/

namespace GuardedSql.Sql

inductive CommandKind where
  | select | insert | update | delete
  deriving DecidableEq, Repr

namespace CommandKind

def all : List CommandKind := [.select, .insert, .update, .delete]

def name : CommandKind → String
  | .select => "SELECT"
  | .insert => "INSERT"
  | .update => "UPDATE"
  | .delete => "DELETE"

def ofName? (name : String) : Option CommandKind := all.find? (·.name == name)

end CommandKind

end GuardedSql.Sql
