import GuardedSql.Store.Codec
import GuardedSql.Store.Mode

/-! Connections, and the escaping of texts over them. SQLite's is done here. The MySQL driver
escapes texts itself; for PostgreSQL a text is written in the client's encoding, its bytes are
escaped by the client and read back. What the drivers do is theirs to answer, with a result or
an error: a connection carries it as functions. -/

namespace GuardedSql

/-- A way to escape the body of a literal. Text that is marked safe may be escaped otherwise. -/
abbrev Escaper := (marked : Bool) → Text → Except Failure Text

/-- The bytes with each quote written twice, and each backslash if strings are not standard. -/
def doubledBytes (standardStrings : Bool) (raw : Bytes) : Bytes :=
  raw.flatMap fun b => if b == 0x27 || (!standardStrings && b == 0x5c) then [b, b] else [b]

/-- What the drivers answer. Unless it is told otherwise, they escape as they document it, and the
encoding is UTF-8. -/
structure Client where
  /-- The escaping of texts for MySQL. -/
  escapeText : (backslashes marked : Bool) → Text → Except StoreError Text :=
    fun backslashes _ t => .ok ((Mode.mysql backslashes).bodyOf t)
  /-- The encoding that a PostgreSQL connection reports. -/
  codec : Except StoreError Codec := .ok .utf8
  /-- The escaping of bytes for PostgreSQL. -/
  escapeBytes : (standardStrings : Bool) → Bytes → Except StoreError Bytes :=
    fun standardStrings raw => .ok (doubledBytes standardStrings raw)

def refuseNul (product : Product) (t : Text) : Except Failure Unit :=
  if t.contains '\x00' then .error (.ofFault (.encoding (.nul product))) else .ok ()

/-- A text escaped in the client's encoding. -/
def Client.escapeEncoded (client : Client) (standardStrings : Bool) (t : Text) :
    Except Failure Text := do
  let codec ← client.codec.mapError .raised
  let raw ← (codec.encode t).mapError fun report =>
    .ofFault (.encoding (.unwritable codec.name report))
  let escaped ← (client.escapeBytes standardStrings raw).mapError .raised
  (codec.decode escaped).mapError .undecodable

/-- A product that no escaping is known for. -/
def unsupportedEscaper (name : String) : Escaper := fun _ _ => .error (.unsupportedProduct name)

/-- A connection to a store, and the error that the driver raises from closing it. -/
structure Connection where
  mode : Mode
  client : Client := {}
  closeError : Option StoreError := none

namespace Connection

def escaper (conn : Connection) : Escaper := fun marked t =>
  match conn.mode with
  | .sqlite => do
    refuseNul .sqlite t
    return doubled isQuote t
  | .mysql backslashes => (conn.client.escapeText backslashes marked t).mapError .raised
  | .postgres standardStrings => do
    refuseNul .postgres t
    conn.client.escapeEncoded standardStrings t

end Connection

end GuardedSql
