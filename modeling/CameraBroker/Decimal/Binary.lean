/-! The binary64 numbers and rounding to them in exact arithmetic on naturals: a quotient
goes to the nearest number with a 53-bit significand, and a tie to the even one. -/
namespace CameraBroker.Decimal

/-- The finite number `significand * 2 ^ exponent`. -/
structure Binary where
  significand : Nat
  exponent : Int
deriving DecidableEq, Repr

/-- The quotient rounded to the nearest natural, a tie to the even one. -/
def roundDiv (num den : Nat) : Nat :=
  let q := num / den
  let r := num % den
  if 2 * r < den then q
  else if den < 2 * r then q + 1
  else if q % 2 = 0 then q else q + 1

/-- `num / den` as a multiple of `2 ^ e`: numerator and denominator of the multiple. -/
def scaled (num den : Nat) (e : Int) : Nat × Nat :=
  if 0 ≤ e then (num, den * Nat.pow 2 e.toNat) else (num * Nat.pow 2 (-e).toNat, den)

/-- The number nearest to `num / den`, or nothing when that lies beyond the largest. -/
def nearest? (num den : Nat) : Option Binary :=
  if num = 0 then some ⟨0, -1074⟩ else
  let guess : Int := (num.log2 : Int) - den.log2 - 53
  let q := (scaled num den guess).1 / (scaled num den guess).2
  let e := max (-1074) (if q < Nat.pow 2 53 then guess else guess + 1)
  let m := roundDiv (scaled num den e).1 (scaled num den e).2
  let b : Binary := if m = Nat.pow 2 53 then ⟨Nat.pow 2 52, e + 1⟩ else ⟨m, e⟩
  if b.exponent ≤ 971 then some b else none

namespace Binary

/-- Numerator and denominator of the value. -/
def ratio (b : Binary) : Nat × Nat :=
  if 0 ≤ b.exponent then (b.significand * Nat.pow 2 b.exponent.toNat, 1)
  else (b.significand, Nat.pow 2 (-b.exponent).toNat)

end Binary

end CameraBroker.Decimal
