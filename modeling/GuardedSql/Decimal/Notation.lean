import GuardedSql.Text.Blank
import GuardedSql.Decimal.Binary64
import GuardedSql.Decimal.Shortest

/-! The written form of a binary number: its shortest digits, either with a point at its place
or as one digit, a fraction and an exponent. Numbers from 0.0001 to below 10 ^ 16 are written in
place, and a whole one ends in `.0`; others have a signed exponent of at least two digits. -/

namespace GuardedSql.Decimal

def natText (n : Nat) : Text := Nat.toDigits 10 n

/-- Digits without the zeros at their end, but for the first digit. -/
def significant (digits : Text) : Text :=
  digits.take 1 ++ ((digits.drop 1).reverse.dropWhile (· == '0')).reverse

def zeros (n : Nat) : Text := List.replicate n '0'

def signText (negative : Bool) : Text := if negative then ['-'] else []

/-- Digits whose point stands after the first `point` of them; `ending` is put behind a whole
number. -/
def inPlace (ending digits : Text) (point : Int) : Text :=
  if point ≤ 0 then '0' :: '.' :: zeros (-point).toNat ++ digits
  else
    let n := point.toNat
    if digits.length ≤ n then digits ++ zeros (n - digits.length) ++ ending
    else digits.take n ++ '.' :: digits.drop n

def exponentText (e : Int) : Text :=
  let digits := natText e.natAbs
  (if e < 0 then ['-'] else ['+']) ++ zeros (2 - digits.length) ++ digits

def scientific (digits : Text) (e : Int) : Text :=
  let fraction := digits.drop 1
  digits.take 1 ++ (if fraction.isEmpty then [] else '.' :: fraction) ++ 'e' :: exponentText e

def magnitudeText (s : Scaled) : Text :=
  let written := natText s.digits
  let digits := significant written
  let e : Int := if s.digits == 0 then 0 else (written.length : Int) + s.scale - 1
  if -4 ≤ e && e < 16 then inPlace ['.', '0'] digits (e + 1) else scientific digits e

def write : Binary64 → Text
  | .finite negative m q => signText negative ++ magnitudeText (shortest m q)
  | .infinite negative => signText negative ++ "inf".toList
  | .notANumber => "nan".toList

/-- The text of a 64-bit pattern. -/
def text (bits : UInt64) : Text := write (.ofBits bits)

end GuardedSql.Decimal
