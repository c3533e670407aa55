import GuardedSql.Text.Quoted
import GuardedSql.Text.Utf8

/-! The telling of what an encoding cannot write or read: one item, in a form of its own, or the
items from a first position to a last. -/

namespace GuardedSql.Text

def uncodable (verb unit : String) (item : Option Text) (first last : Int) (reason : Text) : Text :=
  let position (n : Int) : Text := (toString n).toList
  "can't ".toList ++ verb.toList ++ ' ' :: unit.toList
    ++ (match item with
        | some form => ' ' :: form ++ " in position ".toList ++ position first
        | none => "s in position ".toList ++ position first ++ '-' :: position last)
    ++ ':' :: ' ' :: reason

/-- The form of a character that cannot be coded: its code point, between quotes. -/
def uncodableChar (c : Char) : Text := '\'' :: codePointEscape c ++ ['\'']

/-- The form of a byte that cannot be decoded. -/
def uncodableByte (b : UInt8) : Text := '0' :: 'x' :: hexDigits 2 b.toNat

/-- What a coder of some name reports. -/
def coderReport (coder report : Text) : Text := '\'' :: coder ++ "' codec ".toList ++ report

end GuardedSql.Text
