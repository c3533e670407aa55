import GuardedSql.Decimal.Notation

/-! Decimal numbers that keep the digits they were written with. -/

namespace GuardedSql.Decimal

/-- `digits * 10 ^ exponent`, an infinity, or what is no number, as it is written. -/
inductive Exact where
  | finite (negative : Bool) (digits : Nat) (exponent : Int)
  | infinite (negative : Bool)
  | notANumber (form : Text)
  deriving DecidableEq, Repr

namespace Exact

def number? : Exact → Option Number
  | .finite negative digits exponent => some (.scaled negative digits 10 exponent)
  | .infinite negative => some (.infinite negative)
  | .notANumber _ => none

/-- The exponent of a number that is not written in place: a sign and no more digits than it
needs. -/
def exponentText (e : Int) : Text :=
  'E' :: (if e < 0 then '-' else '+') :: natText e.natAbs

/-- A number is written in place unless that takes zeros behind its digits, or more than five
between the point and them. -/
def text : Exact → Text
  | .finite negative digits exponent =>
    let written := natText digits
    let point : Int := written.length + exponent
    signText negative ++
      if exponent ≤ 0 && -6 < point then inPlace [] written point
      else inPlace [] written 1 ++ exponentText (point - 1)
  | .infinite negative => signText negative ++ "Infinity".toList
  | .notANumber form => form

end Exact

end GuardedSql.Decimal
