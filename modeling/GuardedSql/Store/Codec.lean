import GuardedSql.Text.Uncodable

/-! Encodings that a store's client may speak. An encoding is known by what it writes and reads; a
narrow one has one byte for each of its characters, the code points below its limit. -/

namespace GuardedSql

/-- An encoding, by its name: a text as bytes and bytes as a text, or the report of what cannot be
written or read. -/
structure Codec where
  name : String
  encode : Text → Except String Bytes
  decode : Bytes → Except String Text

/-- The first run of characters of a text that an encoding cannot write. -/
structure Unwritable where
  first : Char
  start : Nat
  length : Nat
  deriving DecidableEq, Repr

namespace Unwritable

def find? (canWrite : Char → Bool) (t : Text) : Option Unwritable :=
  let tail := t.dropWhile canWrite
  tail.head?.map fun first =>
    ⟨first, t.length - tail.length, (tail.takeWhile (!canWrite ·)).length⟩

theorem find?_eq_none_iff {canWrite : Char → Bool} {t : Text} :
    find? canWrite t = none ↔ ∀ c ∈ t, canWrite c = true := by
  simp only [find?, Option.map_eq_none_iff, List.head?_eq_none_iff]
  induction t with
  | nil => simp
  | cons c t ih =>
    by_cases h : canWrite c = true <;> simp [h, ih]

def message (u : Unwritable) (reason : String) : Text :=
  let item := if u.length ≤ 1 then some (Text.uncodableChar u.first) else none
  Text.uncodable "encode" "character" item u.start (u.start + u.length - 1) reason.toList

end Unwritable

/-- The telling of bytes that cannot be read, at a place. -/
def unreadableBytes (start : Nat) (raw : Bytes) (reason : String) : Text :=
  let item := if raw.length ≤ 1 then raw.head?.map Text.uncodableByte else none
  Text.uncodable "decode" "byte" item start (start + raw.length - 1) reason.toList

namespace Codec

def report (coder : String) (telling : Text) : String :=
  String.ofList (Text.coderReport coder.toList telling)

def utf8 : Codec where
  name := "utf-8"
  encode t := .ok (Utf8.encode t)
  decode raw :=
    match Utf8.decode? raw, Utf8.malformed? 0 raw with
    | some t, _ => .ok t
    | none, some m => .error (report "utf-8" (unreadableBytes m.start m.bytes m.reason))
    | none, none => .error ""

/-- An encoding of the code points below a limit, one byte each. A connection may report it under
another name than its coder does. -/
def narrow (name coder : String) (limit : Nat) : Codec where
  name
  encode t :=
    match Unwritable.find? (·.toNat < limit) t with
    | some u =>
      .error (report coder (u.message ("ordinal not in range(" ++ toString limit ++ ")")))
    | none => .ok (t.map fun c => UInt8.ofNat c.toNat)
  decode raw :=
    match raw.dropWhile (·.toNat < limit) with
    | b :: rest =>
      .error (report coder (unreadableBytes (raw.length - rest.length - 1) [b]
        ("ordinal not in range(" ++ toString limit ++ ")")))
    | [] => .ok (raw.map fun b => Char.ofNat b.toNat)

def latin1 : Codec := narrow "iso8859-1" "latin-1" 256

def ascii : Codec := narrow "ascii" "ascii" 128

end Codec

end GuardedSql
