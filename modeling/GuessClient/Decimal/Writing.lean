import GuessClient.Decimal.Shortest

/-!
Decimal text for floating-point numbers: the shortest digits in one of two formats, or a fixed number
of places.
-/

namespace GuessClient.Decimal

structure Format where
  /-- The exponents of the first digit that need no exponent part; `none` for all of them. -/
  positional : Option (Int × Int)
  pointZero : Bool
  tie : Tie

def Format.plain : Format := ⟨none, false, .up⟩

/-- Numbers in JSON text: the fraction shows that the number is not an integer, and numbers of more
than sixteen places get an exponent part. -/
def Format.json : Format := ⟨some (-5, 15), true, .toEven⟩

def zeros (n : Nat) : List Char := List.replicate n '0'

def digits (n : Nat) : List Char := Nat.toDigits 10 n

def positionalText (pointZero : Bool) (n : Nat) (k : Int) : List Char :=
  let ds := digits n
  match k with
  | .ofNat j => ds ++ zeros j ++ if pointZero then ['.', '0'] else []
  | .negSucc j =>
    let places := j + 1
    if ds.length ≤ places then '0' :: '.' :: zeros (places - ds.length) ++ ds
    else ds.take (ds.length - places) ++ '.' :: ds.drop (ds.length - places)

def exponentText (n : Nat) (first : Int) : List Char :=
  let mantissa := match digits n with
    | d :: e :: ds => d :: '.' :: e :: ds
    | ds => ds
  let sign := if first < 0 then '-' else '+'
  mantissa ++ 'e' :: sign :: digits first.natAbs

def Format.digitsText (f : Format) (n : Nat) (k : Int) : List Char :=
  let first := k + (digits n).length - 1
  match f.positional with
  | none => positionalText f.pointZero n k
  | some (low, high) =>
    if low ≤ first && first ≤ high then positionalText f.pointZero n k else exponentText n first

def signed (negative : Bool) (text : List Char) : List Char :=
  if negative then '-' :: text else text

def Format.write (f : Format) (x : Float) : String :=
  String.ofList <| match Parts.ofFloat x with
    | .nan => "NaN".toList
    | .infinite negative => signed negative "inf".toList
    | .finite negative m e =>
      let (n, k) := shortest f.tie m e
      signed negative (f.digitsText n k)

def roundHalfEven (num den : Nat) : Nat :=
  let q := num / den
  let r := num % den
  if 2 * r < den then q
  else if den < 2 * r then q + 1
  else q + q % 2

/-- A number with exactly one place after the point. The exact binary value is rounded, a half to the
even digit. -/
def onePlace (x : Float) : String :=
  String.ofList <| match Parts.ofFloat x with
    | .nan => "NaN".toList
    | .infinite negative => signed negative "inf".toList
    | .finite negative m e =>
      let n := roundHalfEven (10 * m * Nat.pow 2 e.toNat) (Nat.pow 2 (-e).toNat)
      signed negative (digits (n / 10) ++ '.' :: digits (n % 10))

end GuessClient.Decimal
