/-! The numbers that written and binary numbers stand for: rational ones, and the two infinities. -/

namespace GuardedSql.Decimal

inductive Number where
  | finite (q : Rat)
  | infinite (negative : Bool)
  deriving DecidableEq

namespace Number

/-- `m * base ^ e`, or its opposite. -/
def scaled (negative : Bool) (m : Nat) (base : Nat) (e : Int) : Number :=
  let signed : Int := if negative then -m else m
  .finite (mkRat (signed * Nat.pow base e.toNat) (Nat.pow base (-e).toNat))

/-- The integer that a number is, if it is one. -/
def toInt? : Number → Option Int
  | .finite q => if q.den == 1 then some q.num else none
  | .infinite _ => none

end Number

end GuardedSql.Decimal
