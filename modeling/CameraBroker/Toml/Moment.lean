import CameraBroker.Decimal.Numeral
import CameraBroker.Toml.Reader

/-! Dates and times of day in a document. Nobody here asks for their parts, so it is only
said which texts are one. -/
namespace CameraBroker.Toml
open Decimal

/-- A numeral of exactly `width` digits. -/
def fixedDigits : (width : Nat) → Reader (List Char)
  | 0 => pure []
  | width + 1 => do
    let c ← one Char.isDigit
    let rest ← fixedDigits width
    pure (c :: rest)

/-- A number of `width` digits between two bounds. -/
def between (width low high : Nat) : Reader Nat := do
  let n := digitsValue (← fixedDigits width)
  if low ≤ n ∧ n ≤ high then pure n else failure

def isLeapYear (year : Nat) : Bool := year % 4 = 0 && (year % 100 ≠ 0 || year % 400 = 0)

def daysInMonth (year month : Nat) : Nat :=
  if month = 2 then if isLeapYear year then 29 else 28
  else if [4, 6, 9, 11].contains month then 30 else 31

/-- A year, a month and a day that the month has. -/
def date : Reader Unit := do
  let year ← between 4 0 9999
  expect ['-']
  let month ← between 2 1 12
  expect ['-']
  let _ ← between 2 1 (daysInMonth year month)

/-- Hours, minutes and seconds, with leap seconds and any number of digits behind a point. -/
def timeOfDay : Reader Unit := do
  let _ ← between 2 0 23
  expect [':']
  let _ ← between 2 0 59
  expect [':']
  let _ ← between 2 0 60
  let _ ← maybe (do expect ['.']; let _ ← one Char.isDigit; run Char.isDigit)

/-- How far a clock is ahead of universal time. -/
def clockOffset : Reader Unit :=
  (do let _ ← one fun c => c = 'Z' || c = 'z') <|> do
  let _ ← one fun c => c = '+' || c = '-'
  let _ ← between 2 0 23
  expect [':']
  let _ ← between 2 0 59

/-- A date, a time of day, or both with a clock's offset maybe. -/
def moment : Reader Unit :=
  (do
    date
    let _ ← maybe do
      let _ ← one fun c => c = 'T' || c = 't' || c = ' '
      timeOfDay
      maybe clockOffset) <|>
  timeOfDay

end CameraBroker.Toml
