import GuessClient.Decimal.Parts

/-!
The shortest decimal for a floating-point number. The decimals that read back as the number fill an
interval around it. The coarsest grid of decimals `n * 10 ^ k` with a point in that interval gives the
fewest digits, and of the points of this grid in the interval the one nearest to the number is taken.
-/

namespace GuessClient.Decimal

inductive Tie where
  | up
  | toEven
  deriving DecidableEq, Repr

/-- The point of the grid `n * 10 ^ k` nearest to `m * 2 ^ e` among those that read back as it.
In units of a quarter of the last binary place, the interval reaches two units up and two units down;
only one unit down if the next number below is half as far away. Its ends belong to it if `m` is even. -/
def gridPoint? (tie : Tie) (m : Nat) (e k : Int) : Option Nat :=
  let factor := Nat.pow 2 (e - 2).toNat * Nat.pow 10 (-k).toNat
  let unit := Nat.pow 2 (2 - e).toNat * Nat.pow 10 k.toNat
  let value := 4 * m * factor
  let low := (4 * m - if m = Nat.pow 2 52 && leastExponent < e then 1 else 2) * factor
  let high := (4 * m + 2) * factor
  let inside (n : Nat) : Bool :=
    if m % 2 = 0 then low ≤ n * unit && n * unit ≤ high else low < n * unit && n * unit < high
  let below := value / unit
  let rest := value % unit
  match inside below, inside (below + 1) with
  | true, true =>
    if 2 * rest < unit then some below
    else if unit < 2 * rest then some (below + 1)
    else some (if tie = .toEven && below % 2 = 0 then below else below + 1)
  | true, false => some below
  | false, true => some (below + 1)
  | false, false => none

/-- A power of ten above `m * 2 ^ e`, estimated from its number of binary digits. -/
def topPower (m : Nat) (e : Int) : Int := (m.log2 + 1 + e) * 30103 / 100000 + 1

/-- Digits `n` and an exponent `k` with `n * 10 ^ k` the shortest decimal for `m * 2 ^ e`. -/
def shortest (tie : Tie) (m : Nat) (e : Int) : Nat × Int :=
  if m = 0 then (0, 0)
  else
    ((List.range 40).findSome? fun i : Nat =>
      (gridPoint? tie m e (topPower m e - i)).map (·, topPower m e - i)).getD (0, 0)

end GuessClient.Decimal
