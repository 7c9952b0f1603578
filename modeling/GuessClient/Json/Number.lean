import GuessClient.Decimal.Reading
import GuessClient.Json.Value

/-!
The value of a JSON number. An integer that fits 64 bits is exact. Any other number is read as a
significand of 64 bits times a power of ten: digits that do not fit any more are dropped, the
significand is rounded to a floating-point number, and that is multiplied or divided by the power.
The result can differ from the nearest number in its last place.
-/

namespace GuessClient.Json

open GuessClient.Decimal

structure NumberText where
  negative : Bool
  whole : List Char
  fraction : Option (List Char)
  exponent : Option (Bool × List Char)

def significandBound : Nat := Nat.pow 2 64

/-- Appends digits to a significand as long as it stays below the bound, and counts those that do
not fit. Once a digit does not fit, none after it does. -/
def absorb (s : Nat) : List Char → Nat × Nat
  | [] => (s, 0)
  | c :: rest =>
    if 10 * s + digitValue c < significandBound then absorb (10 * s + digitValue c) rest
    else (s, rest.length + 1)

def tenPower (k : Nat) : Float := nearest false 1 k

/-- `x / 10 ^ k`, in steps of at most 308. Two steps leave nothing of any significand. -/
def divideTenPower (x : Float) (k : Nat) : Float :=
  if k ≤ 308 then x / tenPower k
  else if k ≤ 616 then x / tenPower 308 / tenPower (k - 308)
  else 0

def scale? (s : Nat) (k : Int) : Option Float :=
  let x := s.toUInt64.toFloat
  if s = 0 then some 0
  else match k with
    | .negSucc j => some (divideTenPower x (j + 1))
    | .ofNat j =>
      if j ≤ 308 && isFinite (x * tenPower j) then some (x * tenPower j) else none

def largestExponent : Nat := Nat.pow 2 31 - 1

def scaleMore? (s : Nat) (k : Int) : Option (Bool × List Char) → Option Float
  | none => scale? s k
  | some (negative, ds) =>
    let e := digitsValue 0 ds
    if largestExponent < e then if s = 0 || negative then some 0 else none
    else scale? s (if negative then k - e else k + e)

/-- An integer without a point and an exponent, which has the significand `s`. The number `-0` and
the negative numbers below 64 bits are not integers. -/
def integerValue (negative : Bool) (s : Nat) : Number :=
  if !negative then .integer s
  else if s = 0 || Nat.pow 2 63 < s then .real (-s.toUInt64.toFloat)
  else .integer (-s)

def NumberText.value? (t : NumberText) : Option Number :=
  let (s, dropped) := absorb 0 t.whole
  match t.fraction, t.exponent, dropped with
  | none, none, 0 => some (integerValue t.negative s)
  | fraction, exponent, dropped =>
    let (s, k) := match fraction with
      | none => (s, (dropped : Int))
      | some ds =>
        let (s', unread) := absorb s ds
        (s', (dropped : Int) - (ds.length - unread))
    (scaleMore? s k exponent).map fun x => .real (if t.negative then -x else x)

def Number.toFloat : Number → Float
  | .integer n => nearest (n < 0) n.natAbs 0
  | .real x => x

end GuessClient.Json
