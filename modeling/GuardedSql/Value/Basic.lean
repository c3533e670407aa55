import GuardedSql.Decimal.Exact
import GuardedSql.Text.Utf8

/-! The values that callers hand in and stores hand out. Only null, booleans, integers, floats
and texts have a SQL literal; the rest can be shown, named and passed through. A float is kept as
its bit pattern, so that no two of them are confused. -/

namespace GuardedSql

open Decimal (Binary64 Exact Number)

/-- A value whose type is not looked into, by what it tells of itself. -/
structure Foreign where
  typeName : String
  /-- Its form inside other values and in diagnostics. -/
  quoted : Text
  shown : Text
  isTruthy : Bool
  /-- Whether it equals every value of its type that has the same form; else it equals itself
  only. -/
  hasEquals : Bool
  deriving DecidableEq, Repr

inductive Value where
  | null
  | bool (b : Bool)
  | int (n : Int)
  | float (bits : UInt64)
  | text (t : Text)
  /-- Text that is safe to show on a page as it is. -/
  | markup (t : Text)
  | list (items : List Value)
  | tuple (items : List Value)
  | mapping (entries : List (Value × Value))
  | bytes (content : Bytes) (isMutable : Bool)
  | decimal (number : Exact)
  | foreign (other : Foreign)
  deriving Repr

namespace Value

/-- The text that a value is, marked safe or not. -/
def text? : Value → Option Text
  | .text t | .markup t => some t
  | _ => none

/-- Whether a text is marked as safe. -/
def isMarkup : Value → Bool
  | .markup _ => true
  | _ => false

def bytes? : Value → Option Bytes
  | .bytes content _ => some content
  | _ => none

def typeName : Value → String
  | .null => "NoneType"
  | .bool _ => "bool"
  | .int _ => "int"
  | .float _ => "float"
  | .text _ => "str"
  | .markup _ => "Markup"
  | .list _ => "list"
  | .tuple _ => "tuple"
  | .mapping _ => "dict"
  | .bytes _ isMutable => if isMutable then "bytearray" else "bytes"
  | .decimal _ => "Decimal"
  | .foreign other => other.typeName

/-- The integer that a value is; the truth values are one and zero. -/
def integer? : Value → Option Int
  | .bool b => some (if b then 1 else 0)
  | .int n => some n
  | _ => none

/-- The number that a value equals. -/
def number? : Value → Option Number
  | .float bits => (Binary64.ofBits bits).number?
  | .decimal number => number.number?
  | v => v.integer?.map fun n => .finite n

/-- The items of a value that holds some: the keys of a mapping, the characters of a text, bytes
as integers. -/
def items : Value → List Value
  | .list vs | .tuple vs => vs
  | .text t | .markup t => t.map fun c => .text [c]
  | .mapping entries => entries.map (·.1)
  | .bytes content _ => content.map fun b => .int b.toNat
  | _ => []

/-- Whether a value counts as present: zeros and empty things do not. -/
def isTruthy : Value → Bool
  | .null => false
  | .text t | .markup t => !t.isEmpty
  | .list items | .tuple items => !items.isEmpty
  | .mapping entries => !entries.isEmpty
  | .bytes content _ => !content.isEmpty
  | .foreign other => other.isTruthy
  | v => v.number? != some (.finite 0)

mutual

/-- Whether two values are one key of a mapping. Numbers are compared by value, whatever their
type; marked text is its text. -/
def sameKey : Value → Value → Bool
  | .null, .null => true
  | .tuple a, .tuple b => sameKeys a b
  | .bytes a _, .bytes b _ => a == b
  | .foreign a, .foreign b => a == b && a.hasEquals
  | a, b =>
    match a.text?, b.text? with
    | some s, some t => s == t
    | _, _ =>
      match a.number?, b.number? with
      | some x, some y => x == y
      | _, _ => false

def sameKeys : List Value → List Value → Bool
  | [], [] => true
  | a :: as, b :: bs => sameKey a b && sameKeys as bs
  | _, _ => false

end

/-- Sets the value of a key; the key keeps the place and the form of its first mention. -/
def put (key value : Value) : List (Value × Value) → List (Value × Value)
  | [] => [(key, value)]
  | (k, v) :: rest =>
    if sameKey k key then (k, value) :: rest else (k, v) :: put key value rest

def ofEntries (entries : List (Value × Value)) : Value :=
  .mapping (entries.foldl (fun done e => put e.1 e.2 done) [])

end Value

end GuardedSql
