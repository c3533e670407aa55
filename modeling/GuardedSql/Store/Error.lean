import GuardedSql.Store.Product
import GuardedSql.Store.SystemError

/-! Errors that a store's driver or the system under it raises. What a driver raises beside its
errors, and the system's errors, are not handled where statements run. -/

namespace GuardedSql

inductive ErrorOrigin where
  | driver (product : Product)
  | system
  deriving DecidableEq, Repr

structure StoreError where
  origin : ErrorOrigin
  className : String
  args : List Value
  deriving Repr

namespace StoreError

/-- The error that is raised under a name; the system may find a narrower class for it. -/
def ofName (origin : ErrorOrigin) (name : String) (args : List Value) : StoreError :=
  match origin with
  | .system => ⟨.system, SystemError.classOf name args, args⟩
  | .driver _ => ⟨origin, name, args⟩

/-- What drivers raise that is no error: a warning, what warnings and errors have in common, and
the end of a transaction. -/
def harmlessNames : List String := ["Warning", "MySQLError", "Rollback"]

/-- Whether the error is one that a driver reports about a connection or a statement. -/
def fromDriver (e : StoreError) : Bool :=
  e.origin != .system && !harmlessNames.contains e.className

/-- Whether the operating system reports the error. -/
def fromSystem (e : StoreError) : Bool :=
  e.origin == .system && SystemError.isOperation e.className

/-- The text of an error. -/
def shown (e : StoreError) : Text :=
  match e.origin with
  | .system => SystemError.text e.className e.args
  | .driver _ => argumentsText e.args

/-- The plain message of an error. The MySQL driver gives a code and a message. -/
def message (e : StoreError) : Text :=
  match e.origin, e.fromDriver, e.args with
  | .driver .mysql, true, [code, message] => '(' :: code.shown ++ ')' :: ' ' :: message.shown
  | _, _, _ => e.shown

end StoreError

end GuardedSql
