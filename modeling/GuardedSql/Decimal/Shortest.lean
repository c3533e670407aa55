/-! The shortest decimal that reads back as a given binary number. The reals that round to
`m * 2 ^ q` form an interval around it, whose ends belong to it when `m` is even. For one digit,
two, and so on up to seventeen, the two neighbours of the number on the grid of decimals with
that many digits are tried; the first grid with a neighbour inside the interval gives the
answer, the nearer of two, and the even one of two as near. All arithmetic is exact. -/

namespace GuardedSql.Decimal

/-- A decimal `digits * 10 ^ scale`. -/
structure Scaled where
  digits : Nat
  scale : Int
  deriving DecidableEq, Repr

/-- The interval of a number, with its ends and middle as multiples of `1 / den`. -/
structure Interval where
  low : Nat
  middle : Nat
  high : Nat
  den : Nat
  closed : Bool
  deriving Repr

/-- Below the least significand of its binade the gap downwards is half the gap upwards. -/
def Interval.around (m : Nat) (q : Int) : Interval :=
  let narrow := m == Nat.pow 2 52 && q != -1074
  let num (n : Nat) : Nat := n * Nat.pow 2 q.toNat
  ⟨num (4 * m - (if narrow then 1 else 2)), num (4 * m), num (4 * m + 2),
    4 * Nat.pow 2 (-q).toNat, m % 2 == 0⟩

/-- Whether `n * 10 ^ scale` lies in the interval. -/
def Interval.holds (i : Interval) (n : Nat) (scale : Int) : Bool :=
  let x := n * Nat.pow 10 scale.toNat * i.den
  let by10 := Nat.pow 10 (-scale).toNat
  if i.closed then i.low * by10 ≤ x && x ≤ i.high * by10
  else i.low * by10 < x && x < i.high * by10

/-- The neighbour below of the middle on the grid of multiples of `10 ^ scale`, with what is
left over as a fraction of the step. -/
def Interval.below (i : Interval) (scale : Int) : Nat × Nat × Nat :=
  let num := i.middle * Nat.pow 10 (-scale).toNat
  let den := i.den * Nat.pow 10 scale.toNat
  (num / den, num % den, den)

def Interval.onGrid (i : Interval) (scale : Int) : Option Scaled :=
  let (n, rest, step) := i.below scale
  let lower := i.holds n scale
  let upper := i.holds (n + 1) scale
  if lower && upper then
    if 2 * rest < step || (2 * rest == step && n % 2 == 0) then some ⟨n, scale⟩
    else some ⟨n + 1, scale⟩
  else if lower then some ⟨n, scale⟩
  else if upper then some ⟨n + 1, scale⟩
  else none

def digitCount (n : Nat) : Nat := (Nat.toDigits 10 n).length

/-- The number of digits before the point. Below one it is zero or less, by the zeros that
follow the point. -/
def Interval.magnitude (i : Interval) : Int :=
  if i.den ≤ i.middle then digitCount (i.middle / i.den)
  else 1 - digitCount ((i.den - 1) / i.middle)

/-- Seventeen digits always tell a number from its neighbours, so some grid has a hit. -/
def shortest (m : Nat) (q : Int) : Scaled :=
  if m == 0 then ⟨0, 0⟩
  else
    let i := Interval.around m q
    let grids := (List.range 17).map fun k => i.magnitude - (k + 1 : Nat)
    (grids.findSome? i.onGrid).getD ⟨m, 0⟩

end GuardedSql.Decimal
