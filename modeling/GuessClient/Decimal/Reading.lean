import GuessClient.Decimal.Writing

/-!
Floating-point numbers from decimal text. A decimal is a ratio of whole numbers, and the number read
is the one nearest to the ratio, halves going to the even mantissa.
-/

namespace GuessClient.Decimal

def infinityBits : Nat := 2047 * Nat.pow 2 52

def signBit : Nat := Nat.pow 2 63

/-- The bits of the number nearest to `num / den`, for a positive `den`. The exponent is chosen so
that the mantissa has 53 binary digits, unless the number is too small for that; a mantissa that is
rounded up to 54 digits carries into the exponent by itself. -/
def nearestBits (num den : Nat) : Nat :=
  if num = 0 then 0
  else
    let low := max leastExponent (num.log2 - den.log2 - 53 : Int)
    let quotient (e : Int) : Nat × Nat := (num * Nat.pow 2 (-e).toNat, den * Nat.pow 2 e.toNat)
    let (n, d) := quotient low
    let e := if n / d < Nat.pow 2 53 then low else low + 1
    let (n, d) := quotient e
    min infinityBits ((e - leastExponent).toNat * Nat.pow 2 52 + roundHalfEven n d)

/-- The number nearest to `n * 10 ^ k`. Powers of ten that lead out of the range of the numbers are
not computed. -/
def nearest (negative : Bool) (n : Nat) (k : Int) : Float :=
  let first := k + (digits n).length
  let bits :=
    if n = 0 || first < -400 then 0
    else if 400 < first then infinityBits
    else nearestBits (n * Nat.pow 10 k.toNat) (Nat.pow 10 (-k).toNat)
  Float.ofBits (UInt64.ofNat (bits + if negative then signBit else 0))

def digitValue (c : Char) : Nat := c.toNat - '0'.toNat

def digitsValue (start : Nat) (ds : List Char) : Nat :=
  ds.foldl (fun n c => 10 * n + digitValue c) start

def readCount? (text : List Char) : Option UInt64 :=
  let ds := match text with
    | '+' :: ds => ds
    | ds => ds
  if ds.isEmpty || !ds.all Char.isDigit then none
  else
    let n := digitsValue 0 ds
    if n < Nat.pow 2 64 then some n.toUInt64 else none

def takeSign : List Char → Bool × List Char
  | '-' :: rest => (true, rest)
  | '+' :: rest => (false, rest)
  | rest => (false, rest)

def exponentPart? : List Char → Option Int
  | [] => some 0
  | c :: rest =>
    if c = 'e' || c = 'E' then
      let (negative, ds) := takeSign rest
      if ds.isEmpty || !ds.all Char.isDigit then none
      else
        let n : Int := digitsValue 0 ds
        some (if negative then -n else n)
    else none

def fractionPart : List Char → List Char × List Char
  | '.' :: rest => (rest.takeWhile Char.isDigit, rest.dropWhile Char.isDigit)
  | rest => ([], rest)

/-- An unsigned decimal: digits with a point anywhere or nowhere, at least one digit, and perhaps an
exponent part. -/
def decimal? (negative : Bool) (text : List Char) : Option Float :=
  let front := text.takeWhile Char.isDigit
  let (back, rest) := fractionPart (text.dropWhile Char.isDigit)
  if front.isEmpty && back.isEmpty then none
  else (exponentPart? rest).map fun k =>
    nearest negative (digitsValue 0 (front ++ back)) (k - back.length)

def wordValue? (negative : Bool) (word : String) : Option Float :=
  if word = "inf" || word = "infinity" then
    some (Float.ofBits (UInt64.ofNat (infinityBits + if negative then signBit else 0)))
  else if word = "nan" then some (0.0 / 0.0)
  else none

def read? (text : String) : Option Float :=
  let (negative, rest) := takeSign text.toList
  (decimal? negative rest) <|> wordValue? negative (String.ofList (rest.map Char.toLower))

end GuessClient.Decimal
