import GuardedSql.Value.Basic
import GuardedSql.Text.Quoted
import GuardedSql.Decimal.Notation

/-! The texts of values in diagnostics and on pages. Inside other values, and wherever a
diagnostic asks for it, a value is written in its quoted form; a text shown by itself is
written as it is. -/

namespace GuardedSql

namespace Value

/-- The most digits of an integer that is read from a text or written as one. -/
def digitLimit : Nat := 4300

def commaSeparated (items : List Text) : Text := [',', ' '].intercalate items

def intText (n : Int) : Text :=
  if n < 0 then '-' :: Decimal.natText n.natAbs else Decimal.natText n.natAbs

/-- A byte as its character, where it has a visible form in ASCII. -/
def quotedByte (quote : Char) (b : UInt8) : Text :=
  let c := Char.ofNat b.toNat
  if b < 0x7f then Text.quotedChar quote c else Text.codePointEscape c

def quotedBytes (content : Bytes) : Text :=
  let quote := Text.quoteFor (content.map fun b => Char.ofNat b.toNat)
  'b' :: quote :: content.flatMap (quotedByte quote) ++ [quote]

mutual

def quoted : Value → Text
  | .null => "None".toList
  | .bool b => (if b then "True" else "False").toList
  | .int n => intText n
  | .float bits => Decimal.text bits
  | .text t => Text.quoted t
  | .markup t => "Markup(".toList ++ Text.quoted t ++ [')']
  | .list items => '[' :: commaSeparated (quotedItems items) ++ [']']
  | .tuple [item] => '(' :: quoted item ++ [',', ')']
  | .tuple items => '(' :: commaSeparated (quotedItems items) ++ [')']
  | .mapping entries => '\x7b' :: commaSeparated (quotedEntries entries) ++ ['\x7d']
  | .bytes content isMutable =>
    if isMutable then "bytearray(".toList ++ quotedBytes content ++ [')'] else quotedBytes content
  | .decimal number => "Decimal('".toList ++ number.text ++ ['\'', ')']
  | .foreign other => other.quoted

def quotedItems : List Value → List Text
  | [] => []
  | v :: rest => quoted v :: quotedItems rest

def quotedEntries : List (Value × Value) → List Text
  | [] => []
  | (k, v) :: rest => (quoted k ++ ':' :: ' ' :: quoted v) :: quotedEntries rest

end

/-- A value shown by itself. -/
def shown : Value → Text
  | .text t | .markup t => t
  | .decimal number => number.text
  | .foreign other => other.shown
  | v => v.quoted

mutual

/-- Whether a value has a text: none of the integers in it has too many digits. -/
def isWritable : Value → Bool
  | .int n => n.natAbs < Nat.pow 10 digitLimit
  | .list items | .tuple items => areWritable items
  | .mapping entries => areEntriesWritable entries
  | _ => true

def areWritable : List Value → Bool
  | [] => true
  | v :: rest => isWritable v && areWritable rest

def areEntriesWritable : List (Value × Value) → Bool
  | [] => true
  | (k, v) :: rest => isWritable k && isWritable v && areEntriesWritable rest

end

end Value

end GuardedSql
