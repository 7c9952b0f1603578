import GuessClient.Json.Writer

/-!
How the player sees times, numbers and values.
-/

namespace GuessClient

open GuessClient.Decimal (Format isFinite whole?)
open GuessClient.Json (Value)

def twoDigits (n : Nat) : List Char :=
  let ds := Decimal.digits n
  if ds.length < 2 then '0' :: ds else ds

def timeText (seconds : UInt64) : String :=
  String.ofList (twoDigits (seconds.toNat / 60) ++ ':' :: twoDigits (seconds.toNat % 60))

/-- A number; one below a thousand million million that is whole is written as an integer, so that
zero has no sign. -/
def numberText (x : Float) : String :=
  match whole? x with
  | some n => if n.natAbs < Nat.pow 10 15 then toString n else Format.plain.write x
  | none => Format.plain.write x

def valueText : Value → String
  | .string s => s
  | .number (.real x) => numberText x
  | v => v.compact

end GuessClient
