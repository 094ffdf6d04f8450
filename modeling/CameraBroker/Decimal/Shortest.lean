import CameraBroker.Decimal.Binary

/-! The fewest decimal digits that read back as a given binary64 number, and of those
the ones nearest to it. -/
namespace CameraBroker.Decimal

/-- The decimal `digits * 10 ^ exponent`. -/
structure Digits where
  digits : Nat
  exponent : Int
deriving DecidableEq, Repr

/-- The quotients between `lo / den` and `hi / den` round to `mid / den`. The ends
themselves do exactly if `closed`. -/
structure Interval where
  lo : Nat
  mid : Nat
  hi : Nat
  den : Nat
  closed : Bool
deriving DecidableEq, Repr

/-- The quotients that round to `b`. Below a power of two the neighbour is half as far. -/
def Binary.interval (b : Binary) : Interval :=
  let unit := if 0 ≤ b.exponent then Nat.pow 2 b.exponent.toNat else 1
  let below := if b.significand = Nat.pow 2 52 ∧ -1074 < b.exponent then unit else 2 * unit
  { lo := 4 * b.ratio.1 - below
    mid := 4 * b.ratio.1
    hi := 4 * b.ratio.1 + 2 * unit
    den := 4 * b.ratio.2
    closed := b.significand % 2 = 0 }

/-- `d` as a multiple of `1 / den`, over a second denominator that keeps it whole. -/
def Digits.over (d : Digits) (den : Nat) : Nat × Nat :=
  if 0 ≤ d.exponent then (d.digits * Nat.pow 10 d.exponent.toNat * den, 1)
  else (d.digits * den, Nat.pow 10 (-d.exponent).toNat)

def Interval.contains (i : Interval) (d : Digits) : Bool :=
  let x := d.over i.den
  if i.closed then i.lo * x.2 ≤ x.1 && x.1 ≤ i.hi * x.2
  else i.lo * x.2 < x.1 && x.1 < i.hi * x.2

/-- How far `d` lies from the middle, over the second denominator. -/
def Interval.distance (i : Interval) (d : Digits) : Nat :=
  let x := d.over i.den
  (x.1 - i.mid * x.2) + (i.mid * x.2 - x.1)

def digitCount (n : Nat) : Nat := (Nat.toDigits 10 n).length

/-- The power of ten at or below `num / den`. -/
def decimalOrder (num den : Nat) : Int :=
  if den ≤ num then digitCount (num / den) - 1
  else -(digitCount ((den + num - 1) / num - 1) : Int)

/-- The two neighbours of the middle on the grid of multiples of `10 ^ e`. -/
def Interval.neighbours (i : Interval) (e : Int) : List Digits :=
  let q := if 0 ≤ e then i.mid / (i.den * Nat.pow 10 e.toNat)
    else i.mid * Nat.pow 10 (-e).toNat / i.den
  [⟨q, e⟩, ⟨q + 1, e⟩]

/-- The nearest neighbour on the grid that reads back, if any does. -/
def Interval.onGrid? (i : Interval) (e : Int) : Option Digits :=
  match (i.neighbours e).filter i.contains with
  | [] => none
  | [d] => some d
  | a :: b :: _ =>
    if i.distance a < i.distance b then some a
    else if i.distance b < i.distance a then some b
    else if a.digits % 2 = 0 then some a else some b

/-- Tries grids of growing fineness, from the power of ten above, and the coarsest hit wins. -/
def Interval.search (i : Interval) (order : Int) : List Nat → Digits
  | [] => ⟨i.mid / i.den, 0⟩
  | n :: rest => (i.onGrid? (order + 1 - n)).getD (i.search order rest)

/-- The shortest decimal of a positive number. -/
def Binary.shortest (b : Binary) : Digits :=
  if b.significand = 0 then ⟨0, 0⟩
  else b.interval.search (decimalOrder b.ratio.1 b.ratio.2) (List.range 18)

end CameraBroker.Decimal
