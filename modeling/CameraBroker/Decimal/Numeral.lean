import CameraBroker.Mismatch

/-! Reading a numeral: sign, digits, fraction and power of ten. A numeral of digits alone is
whole, any other is not, whatever its value. -/
namespace CameraBroker.Decimal

structure Numeral where
  negative : Bool
  digits : Nat
  exponent : Int
  whole : Bool
deriving DecidableEq, Repr

def digitsValue (ds : List Char) : Nat := ds.foldl (fun n c => 10 * n + (c.toNat - 48)) 0

/-- A leading minus, and what follows it. -/
def takeSign : List Char → Bool × List Char
  | '-' :: rest => (true, rest)
  | '+' :: rest => (false, rest)
  | cs => (false, cs)

/-- The power of ten after an `e`, which is the rest of the numeral. -/
def power? : List Char → Option (Option Int)
  | [] => some none
  | c :: rest =>
    let (negative, ds) := takeSign rest
    if (c = 'e' ∨ c = 'E') ∧ ds ≠ [] ∧ ds.all Char.isDigit then
      some (some (if negative then -(digitsValue ds : Int) else digitsValue ds))
    else none

def Numeral.read? (text : String) : Option Numeral :=
  let (negative, cs) := takeSign text.toList
  let ints := cs.takeWhile Char.isDigit
  let (fraction, rest, point) := match cs.dropWhile Char.isDigit with
    | '.' :: rest => (rest.takeWhile Char.isDigit, rest.dropWhile Char.isDigit, true)
    | rest => ([], rest, false)
  if ints = [] ∨ (point ∧ fraction = []) then none
  else (power? rest).map fun power =>
    { negative
      digits := digitsValue (ints ++ fraction)
      exponent := power.getD 0 - fraction.length
      whole := !point && power.isNone }

/-- What a reader finds who meets the numeral. -/
def Numeral.found (n : Numeral) : Found := .number n.negative n.digits n.exponent n.whole

end CameraBroker.Decimal
