import CameraBroker.Decimal.Text
import CameraBroker.Decimal.Unsigned
import CameraBroker.Text.Quoted

/-! What a reader of structured data found where something else was expected, and the one
sentence that reports it. -/
namespace CameraBroker
open Decimal

/-- A value as far as a reader describes it to someone who expected another. -/
inductive Found where
  | null
  | boolean (value : Bool)
  | integer (value : Int)
  | floating (text : String)
  | string (value : String)
  | sequence
  | map
deriving DecidableEq, Repr

def Found.describe : Found → String
  | .null => "null"
  | .boolean b => if b then "boolean `true`" else "boolean `false`"
  | .integer i => "integer `" ++ toString i ++ "`"
  | .floating t => "floating point `" ++ t ++ "`"
  | .string s => "string " ++ Text.quote s
  | .sequence => "sequence"
  | .map => "map"

inductive Mismatch where
  | kind (found : Found) (expected : String)
  | range (found : Found) (expected : String)
  | name (given : String) (known : List String)
  | refused (reason : String)
deriving DecidableEq, Repr

def Mismatch.message : Mismatch → String
  | .kind found expected => "invalid type: " ++ found.describe ++ ", expected " ++ expected
  | .range found expected => "invalid value: " ++ found.describe ++ ", expected " ++ expected
  | .name given known =>
    "unknown variant `" ++ given ++ "`, expected one of " ++
      String.intercalate ", " (known.map fun k => "`" ++ k ++ "`")
  | .refused reason => reason

/-- A number that is whole and fits 64 bits is an integer. Any other, minus zero among
them, is shown as the nearest binary64 value. -/
def Found.number (negative : Bool) (digits : Nat) (exponent : Int) (whole : Bool) : Found :=
  let value : Int := if negative then -digits else digits
  if whole ∧ -wordLimit 63 ≤ value ∧ value < wordLimit 64 ∧ ¬(negative ∧ digits = 0) then .integer value
  else .floating ((Floating.ofDecimal negative digits exponent).text compact)

end CameraBroker
