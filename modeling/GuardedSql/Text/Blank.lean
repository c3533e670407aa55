/-! Texts and the blanks in them. A text is the list of its characters, so that positions and
lengths count code points. The blanks are the white space of Unicode together with the four
ASCII separators 28 to 31; U+200B and U+FEFF are none. -/

namespace GuardedSql

abbrev Text := List Char

namespace Text

def isBlank (c : Char) : Bool :=
  let n := c.toNat
  (9 ≤ n && n ≤ 13) || (28 ≤ n && n ≤ 32) || n == 0x85 || n == 0xA0 || n == 0x1680 ||
    (0x2000 ≤ n && n ≤ 0x200A) || n == 0x2028 || n == 0x2029 || n == 0x202F || n == 0x205F ||
    n == 0x3000

def trimLeft (t : Text) : Text := t.dropWhile isBlank

/-- The text without the blanks at its two ends. -/
def strip (t : Text) : Text := (trimLeft (trimLeft t).reverse).reverse

/-- White space in the narrower sense, without the four separators. -/
def isSpace (c : Char) : Bool := isBlank c && !(28 ≤ c.toNat && c.toNat ≤ 31)

def trimSpace (t : Text) : Text := ((t.dropWhile isSpace).reverse.dropWhile isSpace).reverse

def allBlank (t : Text) : Bool := t.all isBlank

end Text

end GuardedSql
