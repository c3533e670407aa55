import GuardedSql.Decimal.Number

/-! The reading of a 64-bit pattern as a binary floating-point number: a sign, eleven bits of
exponent and fifty-two of fraction. A finite number is `significand * 2 ^ exponent`. -/

namespace GuardedSql.Decimal

inductive Binary64 where
  | finite (negative : Bool) (significand : Nat) (exponent : Int)
  | infinite (negative : Bool)
  | notANumber
  deriving DecidableEq, Repr

namespace Binary64

def ofBits (bits : UInt64) : Binary64 :=
  let n : Nat := bits.toNat
  let negative := n / Nat.pow 2 63 == 1
  let field : Nat := n / Nat.pow 2 52 % Nat.pow 2 11
  let fraction : Nat := n % Nat.pow 2 52
  if field == Nat.pow 2 11 - 1 then
    if fraction == 0 then .infinite negative else .notANumber
  else if field == 0 then .finite negative fraction (-1074)
  else .finite negative (Nat.pow 2 52 + fraction) ((field : Int) - 1075)

def isFinite : Binary64 → Bool
  | .finite .. => true
  | _ => false

def number? : Binary64 → Option Number
  | .finite negative significand exponent => some (.scaled negative significand 2 exponent)
  | .infinite negative => some (.infinite negative)
  | .notANumber => none

end Binary64

end GuardedSql.Decimal
