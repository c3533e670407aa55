import GuardedSql.Text.Blank
import GuardedSql.Text.AlnumRanges

/-! Word characters: letters, numbers and the underscore. A word ends where a word character
meets one that is none, or an end of the text. -/

namespace GuardedSql.Text

def inRanges (ranges : List (Nat × Nat)) (c : Char) : Bool :=
  ranges.any fun r => r.1 ≤ c.toNat && c.toNat ≤ r.2

/-- Letters and numbers of every script; for ASCII no table is read. -/
def isAlnum (c : Char) : Bool :=
  if c.toNat < 128 then c.isAlphanum else inRanges alnumRanges c

def isWordChar (c : Char) : Bool := isAlnum c || c == '_'

/-- Whether the text before or after a place, given by the nearest character, has no word
character there. -/
def atEdge : Option Char → Bool
  | none => true
  | some c => !isWordChar c

def isDigit (c : Char) : Bool := '0' ≤ c && c ≤ '9'

def digitValue (c : Char) : Nat := c.toNat - '0'.toNat

/-- The number that a text of ASCII digits writes. -/
def natValue (t : Text) : Nat := t.foldl (fun n c => 10 * n + digitValue c) 0

def isNumeral (t : Text) : Bool := !t.isEmpty && t.all isDigit

end GuardedSql.Text
