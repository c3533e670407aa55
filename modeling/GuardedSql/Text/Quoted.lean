import GuardedSql.Text.Word
import GuardedSql.Text.UnprintableRanges

/-! The quoted form of a text in a diagnostic. It stands in single quotes, or in double quotes
if it has a single one and no double one; the quote in use, the backslash and characters with
no visible form are escaped. -/

namespace GuardedSql.Text

def isPrintable (c : Char) : Bool :=
  if c.toNat < 127 then 32 ≤ c.toNat else !inRanges unprintableRanges c

/-- The last `width` hexadecimal digits of a number, in lower case. -/
def hexDigits (width n : Nat) : Text :=
  match width with
  | 0 => []
  | w + 1 => hexDigits w (n / 16) ++ [(n % 16).digitChar]

/-- A character by its code point: two, four or eight hexadecimal digits. -/
def codePointEscape (c : Char) : Text :=
  let n := c.toNat
  if n < 0x100 then '\\' :: 'x' :: hexDigits 2 n
  else if n < 0x10000 then '\\' :: 'u' :: hexDigits 4 n
  else '\\' :: 'U' :: hexDigits 8 n

/-- The quote that the quoted form of a text stands in. -/
def quoteFor (t : Text) : Char :=
  if t.contains '\'' && !t.contains '"' then '"' else '\''

def quotedChar (quote c : Char) : Text :=
  if c == quote || c == '\\' then ['\\', c]
  else if c == '\n' then ['\\', 'n']
  else if c == '\r' then ['\\', 'r']
  else if c == '\t' then ['\\', 't']
  else if isPrintable c then [c]
  else codePointEscape c

def quoted (t : Text) : Text :=
  let quote := quoteFor t
  quote :: t.flatMap (quotedChar quote) ++ [quote]

end GuardedSql.Text
