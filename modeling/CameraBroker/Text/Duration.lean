/-! How a whole number of milliseconds is written: below a second in milliseconds, from
there in seconds with the fraction's trailing zeros dropped, and zero as `0ns`. -/
namespace CameraBroker.Text

/-- The digits after the point for `ms` thousandths, shortest form. -/
def thousandths (ms : Nat) : List Char :=
  let digits := [ms / 100 % 10, ms / 10 % 10, ms % 10].map Nat.digitChar
  (digits.reverse.dropWhile (· = '0')).reverse

def durationText (ms : Nat) : String :=
  if ms = 0 then "0ns"
  else if ms < 1000 then toString ms ++ "ms"
  else match thousandths (ms % 1000) with
    | [] => toString (ms / 1000) ++ "s"
    | fraction => toString (ms / 1000) ++ "." ++ String.ofList fraction ++ "s"

end CameraBroker.Text
