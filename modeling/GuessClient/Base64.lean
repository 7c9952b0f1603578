/-!
Base64 text for bytes: four symbols for three bytes, the last group filled up with padding. Decoding
accepts only what encoding writes, and says where the first fault is.
-/

namespace GuessClient.Base64

def symbol (n : Nat) : Char :=
  if n < 26 then Char.ofNat ('A'.toNat + n)
  else if n < 52 then Char.ofNat ('a'.toNat + (n - 26))
  else if n < 62 then Char.ofNat ('0'.toNat + (n - 52))
  else if n = 62 then '+'
  else '/'

def pad : Char := '='

def sextets : List UInt8 → List Nat
  | a :: b :: c :: rest =>
    a.toNat / 4 :: (a.toNat % 4 * 16 + b.toNat / 16) :: (b.toNat % 16 * 4 + c.toNat / 64)
      :: c.toNat % 64 :: sextets rest
  | [a, b] => [a.toNat / 4, a.toNat % 4 * 16 + b.toNat / 16, b.toNat % 16 * 4]
  | [a] => [a.toNat / 4, a.toNat % 4 * 16]
  | [] => []

def encode (bytes : List UInt8) : String :=
  String.ofList ((sextets bytes).map symbol ++ List.replicate ((3 - bytes.length % 3) % 3) pad)

/-- Why a text is refused. Bytes and offsets are those of its UTF-8 form. -/
inductive Fault where
  | symbol (byte : UInt8) (offset : Nat)
  | length (count : Nat)
  /-- The last symbol has bits that no byte takes up. -/
  | lastSymbol (byte : UInt8) (offset : Nat)
  | padding
  deriving DecidableEq, Repr

def Fault.message : Fault → String
  | .symbol byte offset => s!"Invalid symbol {byte}, offset {offset}."
  | .length count => s!"Invalid input length: {count}"
  | .lastSymbol byte offset => s!"Invalid last symbol {byte}, offset {offset}."
  | .padding => "Invalid padding"

def padByte : UInt8 := 61

def symbolValue? (byte : UInt8) : Option Nat :=
  let n := byte.toNat
  if 65 ≤ n && n ≤ 90 then some (n - 65)
  else if 97 ≤ n && n ≤ 122 then some (n - 97 + 26)
  else if 48 ≤ n && n ≤ 57 then some (n - 48 + 52)
  else if n = 43 then some 62
  else if n = 47 then some 63
  else none

def symbolValues (offset : Nat) : List UInt8 → Except Fault (List Nat)
  | [] => .ok []
  | byte :: rest =>
    match symbolValue? byte with
    | none => .error (.symbol byte offset)
    | some v => (symbolValues (offset + 1) rest).map (v :: ·)

def valueBytes : List Nat → List UInt8
  | a :: b :: c :: d :: rest =>
    UInt8.ofNat (a * 4 + b / 16) :: UInt8.ofNat (b % 16 * 16 + c / 4)
      :: UInt8.ofNat (c % 4 * 64 + d) :: valueBytes rest
  | [a, b, c] => [UInt8.ofNat (a * 4 + b / 16), UInt8.ofNat (b % 16 * 16 + c / 4)]
  | [a, b] => [UInt8.ofNat (a * 4 + b / 16)]
  | _ => []

def spareBits : List Nat → Nat
  | [_, b] => b % 16
  | [_, _, c] => c % 4
  | _ => 0

def decodeLast (offset : Nat) (group : List UInt8) : Except Fault (List UInt8) := do
  let symbols := group.takeWhile (· != padByte)
  let padding := group.dropWhile (· != padByte)
  let after := offset + symbols.length
  let values ← symbolValues offset symbols
  if !padding.isEmpty && (symbols.length < 2 || padding.any (· != padByte)) then
    throw (.symbol padByte after)
  if symbols.length = 1 then throw (.length after)
  if group.length % 4 ≠ 0 then throw .padding
  if spareBits values ≠ 0 then throw (.lastSymbol (symbols.getLast?.getD 0) (after - 1))
  return valueBytes values

def strayByte? (text : List UInt8) : Option Fault :=
  match text.getLast? with
  | some byte =>
    if text.length % 4 = 1 && byte != padByte && (symbolValue? byte).isNone then
      some (.symbol byte (text.length - 1))
    else none
  | none => none

/-- The bytes of a text, given as its UTF-8 form. Padding may stand in the last group only. -/
def decodeBytes (text : List UInt8) : Except Fault (List UInt8) := do
  if let some fault := strayByte? text then throw fault
  let start := (text.length - 1) / 4 * 4
  let values ← symbolValues 0 (text.take start)
  let last ← decodeLast start (text.drop start)
  return valueBytes values ++ last

def decode (text : String) : Except Fault (List UInt8) :=
  decodeBytes (text.toList.flatMap String.utf8EncodeChar)

theorem symbolValue?_symbol :
    ∀ n < 64, symbolValue? (UInt8.ofNat (symbol n).toNat) = some n := by decide

end GuessClient.Base64
