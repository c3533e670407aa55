import GuardedSql.Text.Blank

/-! Bytes, and texts written as bytes in UTF-8. Bytes that write no text are told by the first
place where they go wrong. -/

namespace GuardedSql

abbrev Bytes := List UInt8

namespace Utf8

def encode (t : Text) : Bytes := t.flatMap String.utf8EncodeChar

def decode? (raw : Bytes) : Option Text := raw.toByteArray.utf8Decode?.map Array.toList

theorem decode?_encode (t : Text) : decode? (encode t) = some t := by
  show t.utf8Encode.utf8Decode?.map Array.toList = some t
  rw [List.utf8Decode?_utf8Encode]
  rfl

/-- How many bytes a first byte calls for, and the bounds of the next one. -/
def calledFor? (first : UInt8) : Option (Nat × UInt8 × UInt8) :=
  if first < 0x80 then some (0, 0x80, 0xbf)
  else if first < 0xc2 then none
  else if first < 0xe0 then some (1, 0x80, 0xbf)
  else if first == 0xe0 then some (2, 0xa0, 0xbf)
  else if first == 0xed then some (2, 0x80, 0x9f)
  else if first < 0xf0 then some (2, 0x80, 0xbf)
  else if first == 0xf0 then some (3, 0x90, 0xbf)
  else if first < 0xf4 then some (3, 0x80, 0xbf)
  else if first == 0xf4 then some (3, 0x80, 0x8f)
  else none

/-- The bytes, so many at most, that a character can go on with. -/
def continuation (low high : UInt8) : Nat → Bytes → Bytes
  | count + 1, b :: rest =>
    if low ≤ b && b ≤ high then b :: continuation 0x80 0xbf count rest else []
  | _, _ => []

/-- Bytes at a place that write no character, and why. -/
structure Malformed where
  start : Nat
  bytes : Bytes
  reason : String
  deriving DecidableEq, Repr

/-- The first malformed bytes of some that start at a place. -/
def malformed? (start : Nat) (raw : Bytes) : Option Malformed :=
  match raw with
  | [] => none
  | first :: rest =>
    match calledFor? first with
    | none => some ⟨start, [first], "invalid start byte"⟩
    | some (count, low, high) =>
      let taken := continuation low high count rest
      if taken.length == count then malformed? (start + 1 + count) (rest.drop count)
      else if taken.length == rest.length then
        some ⟨start, first :: taken, "unexpected end of data"⟩
      else some ⟨start, first :: taken, "invalid continuation byte"⟩
termination_by raw.length
decreasing_by
  simp only [List.length_drop, List.length_cons]
  omega

end Utf8

end GuardedSql
