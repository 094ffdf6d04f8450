import CameraBroker.Decimal.Numeral
import CameraBroker.Toml.Reader

/-! Numbers in a document: whole numbers of 64 bits in four bases and binary64 numbers.
A single underscore may stand between two digits. -/
namespace CameraBroker.Toml
open Decimal

inductive Number where
  | integer (value : Int)
  | real (value : Floating)
deriving DecidableEq, Repr

def Number.found : Number → Found
  | .integer i => .integer i
  | .real x => .floating (x.text positional)

/-- One digit or more. -/
def digits (p : Char → Bool) : Reader (List Char) := do
  let first ← one p
  let others ← many (maybe (expect ['_']) *> one p)
  pure (first :: others)

/-- Digits that are a zero alone or do not start with one. -/
def wholeDigits : Reader (List Char) := do
  match ← maybe (expect ['0']) with
  | some _ => pure ['0']
  | none => digits Char.isDigit

/-- A minus, which is `true`, or a plus or nothing. -/
def sign : Reader Bool := fun cs => some (takeSign cs)

/-- A digit in any base up to sixteen. -/
def hexValue (c : Char) : Nat :=
  if c.isDigit then c.toNat - 48 else if 'a' ≤ c then c.toNat - 87 else c.toNat - 55

def isHexDigit (c : Char) : Bool :=
  c.isDigit || ('a' ≤ c && c ≤ 'f') || ('A' ≤ c && c ≤ 'F')

/-- The value of digits in a base. -/
def baseValue (base : Nat) (ds : List Char) : Nat :=
  ds.foldl (fun n c => base * n + hexValue c) 0

def integer? (value : Int) : Option Number :=
  if -wordLimit 63 ≤ value ∧ value < wordLimit 63 then some (.integer value) else none

/-- A whole number in a base that is marked by two characters. It has no sign. -/
def marked (mark : Char) (base : Nat) : Reader Number := do
  expect ['0', mark]
  let ds ← digits fun c => isHexDigit c && hexValue c < base
  liftM (integer? (baseValue base ds))

/-- The digits behind a point. -/
def fraction : Reader (List Char) := do
  expect ['.']
  digits Char.isDigit

/-- The power of ten behind an `e`. -/
def power : Reader Int := do
  let _ ← one fun c => c = 'e' || c = 'E'
  let negative ← sign
  let ds ← digits Char.isDigit
  pure (if negative then -(digitsValue ds : Int) else digitsValue ds)

/-- A number in base ten. With a fraction or a power of ten it is real, and then too large a
positive one is refused, while a negative one becomes infinite. -/
def decimal : Reader Number := do
  let negative ← sign
  let ints ← wholeDigits
  let behind ← maybe fraction
  let exponent ← maybe power
  if behind.isNone && exponent.isNone then
    let value : Int := digitsValue ints
    liftM (integer? (if negative then -value else value))
  else
    let behind := behind.getD []
    let value := Floating.ofDecimal negative (digitsValue (ints ++ behind))
      (exponent.getD 0 - behind.length)
    if value = .signed false none then failure else pure (.real value)

/-- The numbers that have a name. -/
def special : Reader Number := do
  let negative ← sign
  (do expect "inf".toList; pure (.real (.signed negative none))) <|>
  (do expect "nan".toList; pure (.real .nan))

def number : Reader Number :=
  marked 'x' 16 <|> marked 'o' 8 <|> marked 'b' 2 <|> decimal <|> special

end CameraBroker.Toml
