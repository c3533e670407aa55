import GuardedSql.Store.Connection

/-! SQL literals for values. Only null, booleans, 64-bit integers, finite floats and texts have
one. The body of a text is escaped by the store's escaper; here its punctuation is made plain
before, and the quotes are put around it after. -/

namespace GuardedSql.Literal

/-- Curly quotes and the long dash, also as the control characters that stand for them in text
read in the wrong encoding, become plain ones. -/
def plainChar (c : Char) : Char :=
  match c with
  | '\u2018' | '\u2019' | '\x91' | '\x92' => '\''
  | '\u201c' | '\u201d' | '\x93' | '\x94' => '"'
  | '\u2014' | '\x97' => '-'
  | c => c

def plainPunctuation (t : Text) : Text := t.map plainChar

def wrapped (body : Text) : Text := '\'' :: body ++ ['\'']

/-- A negative number stands in brackets, so that a minus sign before it opens no comment. -/
def ofNumber (t : Text) : Text :=
  if t.head? == some '-' then '(' :: t ++ [')'] else t

def leastInteger : Int := -Nat.pow 2 63

def greatestInteger : Int := Nat.pow 2 63 - 1

def bitLength (n : Nat) : Nat := if n == 0 then 0 else n.log2 + 1

def ofInt (n : Int) : Except EncodingFault Text :=
  if leastInteger ≤ n && n ≤ greatestInteger then .ok (ofNumber (Value.intText n))
  else .error (.integerRange (bitLength n.natAbs))

def ofFloat (bits : UInt64) : Except EncodingFault Text :=
  if (Decimal.Binary64.ofBits bits).isFinite then .ok (ofNumber (Decimal.text bits))
  else .error (.notFinite bits)

/-- An escaper that loses a whole text is not believed. -/
def ofText (escape : Escaper) (marked : Bool) (t : Text) : Except Failure Text := do
  let plain := plainPunctuation t
  let body ← escape marked plain
  if !plain.isEmpty && body.isEmpty then
    throw (.ofFault (.encoding (.emptyLiteral t.length)))
  return wrapped body

def encode (escape : Escaper) : Value → Except Failure Text
  | .null => .ok "NULL".toList
  | .bool b => .ok (if b then "TRUE" else "FALSE").toList
  | .int n => (ofInt n).mapError fun f => .ofFault (.encoding f)
  | .float bits => (ofFloat bits).mapError fun f => .ofFault (.encoding f)
  | .text t => ofText escape false t
  | .markup t => ofText escape true t
  | v => .error (.ofFault (.encoding (.unsupported v.typeName)))

def isText (literal : Text) : Bool := literal.head? == some '\''

end GuardedSql.Literal
