import CameraBroker.Decimal.Shortest

/-! Texts of binary64 numbers: where the digits are written out positionally, where an
exponent takes over, and how a decimal numeral is read. -/
namespace CameraBroker.Decimal

/-- A binary64 value as it is shown: not a number, or a sign with a magnitude, where the
missing magnitude is infinity. -/
inductive Floating where
  | nan
  | signed (negative : Bool) (magnitude : Option Binary)
deriving DecidableEq, Repr

/-- The value nearest to `± digits * 10 ^ exponent`. An exponent too large or too small to
matter is cut off first, so the power of ten stays small. -/
def Floating.ofDecimal (negative : Bool) (digits : Nat) (exponent : Int) : Floating :=
  let places : Int := digitCount digits
  if digits = 0 then .signed negative (nearest? 0 1)
  else if 400 < exponent + places then .signed negative none
  else if exponent + places < -400 then .signed negative (nearest? 0 1)
  else if 0 ≤ exponent then .signed negative (nearest? (digits * Nat.pow 10 exponent.toNat) 1)
  else .signed negative (nearest? digits (Nat.pow 10 (-exponent).toNat))

def zeros (n : Nat) : List Char := List.replicate n '0'

/-- Digits with the point where it belongs and at least one digit on either side. -/
def positional (d : Digits) : List Char :=
  let ds := Nat.toDigits 10 d.digits
  let point : Int := ds.length + d.exponent
  if 0 ≤ d.exponent then ds ++ zeros d.exponent.toNat ++ ['.', '0']
  else if 0 < point then ds.take point.toNat ++ '.' :: ds.drop point.toNat
  else '0' :: '.' :: zeros (-point).toNat ++ ds

/-- One digit, the others behind a point, and the power of ten. -/
def scientific (d : Digits) : List Char :=
  let ds := Nat.toDigits 10 d.digits
  let power : Int := ds.length + d.exponent - 1
  ds.take 1 ++ (if ds.length = 1 then [] else '.' :: ds.drop 1) ++ 'e' :: (toString power).toList

/-- Positional from `1e-5` to below `1e16`, scientific elsewhere. -/
def compact (d : Digits) : List Char :=
  let point : Int := digitCount d.digits + d.exponent
  if d.digits = 0 ∨ (-5 < point ∧ point ≤ 16) then positional d else scientific d

/-- The value's text, with `digits` as the way to write a finite magnitude. -/
def Floating.text (digits : Digits → List Char) : Floating → String
  | .nan => "NaN"
  | .signed negative none => if negative then "-inf" else "inf"
  | .signed negative (some b) =>
    String.ofList ((if negative then ['-'] else []) ++ digits b.shortest)

end CameraBroker.Decimal
