/-! Whole numbers below a bound as plain digits. A text is read from left to right, and the
first fault decides what is wrong with it. -/
namespace CameraBroker.Decimal

/-- The least number that does not fit `width` bits. -/
def wordLimit (width : Nat) : Nat := Nat.pow 2 width

inductive UnsignedError where
  | empty
  | notADigit
  | tooLarge
deriving DecidableEq, Repr

def UnsignedError.message : UnsignedError → String
  | .empty => "cannot parse integer from empty string"
  | .notADigit => "invalid digit found in string"
  | .tooLarge => "number too large to fit in target type"

/-- One more digit behind a number. -/
def shiftIn (bound n : Nat) (c : Char) : Except UnsignedError Nat :=
  if c.isDigit then
    let n := 10 * n + (c.toNat - 48)
    if n < bound then .ok n else .error .tooLarge
  else .error .notADigit

/-- A plus may stand in front of the digits, but not alone. -/
def parseBelow (bound : Nat) (s : String) : Except UnsignedError Nat :=
  match s.toList with
  | [] => .error .empty
  | ['+'] => .error .notADigit
  | '+' :: ds => ds.foldlM (shiftIn bound) 0
  | ds => ds.foldlM (shiftIn bound) 0

end CameraBroker.Decimal
