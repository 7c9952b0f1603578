/-!
A floating-point number taken apart: a finite one is a sign, a whole number and a power of two.
-/

namespace GuessClient.Decimal

inductive Parts where
  | nan
  | infinite (negative : Bool)
  | finite (negative : Bool) (mantissa : Nat) (exponent : Int)
  deriving DecidableEq, Repr

/-- The least exponent; the numbers below `2 ^ 52 * 2 ^ leastExponent` have no higher one. -/
def leastExponent : Int := -1074

def Parts.ofBits (bits : Nat) : Parts :=
  let negative : Bool := bits / Nat.pow 2 63 % 2 = 1
  let field : Nat := bits / Nat.pow 2 52 % Nat.pow 2 11
  let fraction : Nat := bits % Nat.pow 2 52
  if field = 2047 then if fraction = 0 then .infinite negative else .nan
  else if field = 0 then .finite negative fraction leastExponent
  else .finite negative (Nat.pow 2 52 + fraction) (leastExponent + field - 1)

def Parts.ofFloat (x : Float) : Parts := .ofBits x.toBits.toNat

def isFinite (x : Float) : Bool :=
  match Parts.ofFloat x with
  | .finite .. => true
  | _ => false

def whole? (x : Float) : Option Int :=
  match Parts.ofFloat x with
  | .finite negative m e =>
    let scale := Nat.pow 2 (-e).toNat
    if m % scale = 0 then
      let n : Nat := m / scale * Nat.pow 2 e.toNat
      some (if negative then -n else n)
    else none
  | _ => none

end GuessClient.Decimal
