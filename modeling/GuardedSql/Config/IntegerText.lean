import GuardedSql.Text.Word

/-! Integers in texts. The plain form of an integer is a minus sign or none, and a numeral with no
zero in front. A text that is not in plain form is cleaned and then read again: blanks around it,
a plus sign, zeros before the first digit that counts, a fraction of zeros, and underscores
between digits are left out. A minus sign is kept apart while the rest is cleaned. -/

namespace GuardedSql.Config

open Text (isDigit isNumeral natValue)

def isNonzeroDigit (c : Char) : Bool := isDigit c && c != '0'

/-- The most digits of an integer that is read; its sign does not count. -/
def integerLimit : Nat := 4300

/-- The number that a numeral with no zero in front writes, unless it is too long. -/
def plainNatural? (t : Text) : Option Nat :=
  if isNumeral t && (t.head? != some '0' || t.length == 1) && t.length ≤ integerLimit then
    some (natValue t)
  else none

/-- The integer that a text is the plain form of. -/
def plainInteger? : Text → Option Int
  | '-' :: digits => (plainNatural? digits).map fun n => -(n : Int)
  | digits => (plainNatural? digits).map Int.ofNat

/-- Whether a text begins with the digits of a number that is too long to be read. -/
def hasOverlongNumeral (t : Text) : Bool :=
  t.head?.any isNonzeroDigit && integerLimit < (t.takeWhile isDigit).length

/-- Whether a text begins with the plain form of an integer that is too long to be read. -/
def isOverlong : Text → Bool
  | '-' :: digits => hasOverlongNumeral digits
  | digits => hasOverlongNumeral digits

/-- The text without a plus sign in front, unless a minus sign comes after it. -/
def withoutPlus : Text → Option Text
  | '+' :: '-' :: _ => none
  | '+' :: t => some t
  | t => some t

/-- The rest of a text after a zero or an underscore, less all of those that follow. The last of
them is kept where the whole number ends with it; a minus sign may still follow. -/
def skipZeros (last : Char) : Text → Option Text
  | [] => some [last]
  | c :: t =>
    if c == '0' || c == '_' then skipZeros c t
    else if isNonzeroDigit c || c == '-' then some (c :: t)
    else if c == '.' then some (last :: c :: t)
    else none

/-- The text without zeros in front; it must begin with a digit. -/
def withoutZeros : Text → Option Text
  | [] => none
  | c :: t =>
    if c == '0' then skipZeros c t
    else if isNonzeroDigit c then some (c :: t)
    else none

/-- The text without a point and the zeros after it, at least one. -/
def withoutFraction (t : Text) : Text :=
  match t.dropWhile (· != '.') with
  | _ :: zeros =>
    if !zeros.isEmpty && zeros.all (· == '0') then t.takeWhile (· != '.') else t
  | [] => t

def doubleUnderscore : Text → Bool
  | '_' :: '_' :: _ => true
  | _ :: t => doubleUnderscore t
  | [] => false

/-- The text without its underscores, if they stand one by one and not at an end. -/
def withoutUnderscores (t : Text) : Text :=
  if t.head? == some '_' || t.getLast? == some '_' || doubleUnderscore t then t
  else t.filter (· != '_')

/-- The digits of a number, cleaned of all that does not count. -/
def cleanedDigits (t : Text) : Option Text :=
  (withoutZeros t).map fun digits => withoutUnderscores (withoutFraction digits)

def cleaned (t : Text) : Option Text :=
  (withoutPlus (Text.trimSpace t)).bind fun
    | '-' :: digits => (cleanedDigits digits).map ('-' :: ·)
    | digits => cleanedDigits digits

/-- The integer that a text writes, in plain form or after cleaning. -/
def parseInteger (t : Text) : Option Int :=
  plainInteger? t <|> (cleaned t).bind plainInteger?

end GuardedSql.Config
