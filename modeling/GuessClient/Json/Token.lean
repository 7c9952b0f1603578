import GuessClient.Json.Number

/-!
The tokens of a JSON text. A file is read as UTF-8, but bytes that are no part of a character are
kept, because such bytes do no harm inside a string that nobody reads.
-/

namespace GuessClient.Json

/-- A text from a file: characters, and `none` for each byte that is no part of one. -/
abbrev Source := List (Option Char)

def Source.ofText (text : String) : Source := text.toList.map some

def leadingChar? (bytes : List UInt8) : Option (Char × Nat) :=
  [1, 2, 3, 4].findSome? fun n =>
    match (String.fromUTF8? ⟨(bytes.take n).toArray⟩).map String.toList with
    | some [c] => some (c, n)
    | _ => none

def charactersFrom (skip : Nat) : List UInt8 → Source
  | [] => []
  | b :: rest =>
    match skip with
    | skip + 1 => charactersFrom skip rest
    | 0 =>
      match leadingChar? (b :: rest) with
      | some (c, n) => some c :: charactersFrom (n - 1) rest
      | none => none :: charactersFrom 0 rest

def Source.ofBytes (bytes : ByteArray) : Source :=
  match String.fromUTF8? bytes with
  | some text => .ofText text
  | none => charactersFrom 0 bytes.toList

inductive Token where
  | leftBrace
  | rightBrace
  | leftBracket
  | rightBracket
  | comma
  | colon
  | null
  | bool (b : Bool)
  | number (n : Option Number)
  | string (s : Option String)

/-- A piece of a string: a character, perhaps from a short escape; a sixteen-bit unit from a long
escape; or a stray byte. -/
inductive Piece where
  | char (c : Char)
  | unit (n : Nat)
  | stray

def isHighSurrogate (n : Nat) : Bool := 0xD800 ≤ n && n < 0xDC00
def isLowSurrogate (n : Nat) : Bool := 0xDC00 ≤ n && n < 0xE000

def pairedChar (high low : Nat) : Char :=
  Char.ofNat (0x10000 + (high - 0xD800) * 0x400 + (low - 0xDC00))

/-- The characters of a string; none if it has a stray byte or a surrogate out of a pair. -/
def pieceChars? : List Piece → Option (List Char)
  | [] => some []
  | .char c :: rest => (pieceChars? rest).map (c :: ·)
  | .stray :: _ => none
  | .unit n :: .unit m :: rest =>
    if isHighSurrogate n then
      if isLowSurrogate m then (pieceChars? rest).map (pairedChar n m :: ·) else none
    else if isLowSurrogate n then none
    else (pieceChars? (.unit m :: rest)).map (Char.ofNat n :: ·)
  | .unit n :: rest =>
    if isHighSurrogate n || isLowSurrogate n then none
    else (pieceChars? rest).map (Char.ofNat n :: ·)

def hexValue? (c : Char) : Option Nat :=
  if c.isDigit then some (c.toNat - '0'.toNat)
  else if 'a' ≤ c && c ≤ 'f' then some (c.toNat - 'a'.toNat + 10)
  else if 'A' ≤ c && c ≤ 'F' then some (c.toNat - 'A'.toNat + 10)
  else none

def unitValue? (a b c d : Option Char) : Option Nat := do
  let a ← a.bind hexValue?
  let b ← b.bind hexValue?
  let c ← c.bind hexValue?
  let d ← d.bind hexValue?
  return ((a * 16 + b) * 16 + c) * 16 + d

def shortEscape? : Char → Option Char
  | '"' => some '"'
  | '\\' => some '\\'
  | '/' => some '/'
  | 'b' => some '\x08'
  | 'f' => some '\x0c'
  | 'n' => some '\n'
  | 'r' => some '\r'
  | 't' => some '\t'
  | _ => none

/-- The pieces of a string up to its closing quote, after pieces read already, and the text after
the quote. A control character is not allowed. -/
def stringPieces? (done : List Piece) : Source → Option (List Piece × Source)
  | [] => none
  | none :: rest => stringPieces? (.stray :: done) rest
  | some '"' :: rest => some (done.reverse, rest)
  | some '\\' :: some 'u' :: a :: b :: c :: d :: rest =>
    match unitValue? a b c d with
    | some n => stringPieces? (.unit n :: done) rest
    | none => none
  | some '\\' :: some e :: rest =>
    match shortEscape? e with
    | some c => stringPieces? (.char c :: done) rest
    | none => none
  | some c :: rest =>
    if c.toNat < 0x20 || c = '\\' then none else stringPieces? (.char c :: done) rest

def takeDigits : Source → List Char × Source
  | some c :: rest =>
    if c.isDigit then let (ds, rest) := takeDigits rest; (c :: ds, rest) else ([], some c :: rest)
  | rest => ([], rest)

def takeSomeDigits? (text : Source) : Option (List Char × Source) :=
  match takeDigits text with
  | ([], _) => none
  | found => some found

def wholePart? : Source → Option (List Char × Source)
  | some '0' :: rest => some (['0'], rest)
  | text => takeSomeDigits? text

def fractionPart? : Source → Option (Option (List Char) × Source)
  | some '.' :: rest => (takeSomeDigits? rest).map fun (ds, rest) => (some ds, rest)
  | text => some (none, text)

def signedDigits? : Source → Option ((Bool × List Char) × Source)
  | some '-' :: rest => (takeSomeDigits? rest).map fun (ds, rest) => ((true, ds), rest)
  | some '+' :: rest => (takeSomeDigits? rest).map fun (ds, rest) => ((false, ds), rest)
  | text => (takeSomeDigits? text).map fun (ds, rest) => ((false, ds), rest)

def exponentPart? : Source → Option (Option (Bool × List Char) × Source)
  | some 'e' :: rest => (signedDigits? rest).map fun (e, rest) => (some e, rest)
  | some 'E' :: rest => (signedDigits? rest).map fun (e, rest) => (some e, rest)
  | text => some (none, text)

def number? (negative : Bool) (text : Source) : Option (NumberText × Source) := do
  let (whole, text) ← wholePart? text
  let (fraction, text) ← fractionPart? text
  let (exponent, text) ← exponentPart? text
  return (⟨negative, whole, fraction, exponent⟩, text)

def nextToken? : Source → Option (Token × Source)
  | some '{' :: rest => some (.leftBrace, rest)
  | some '}' :: rest => some (.rightBrace, rest)
  | some '[' :: rest => some (.leftBracket, rest)
  | some ']' :: rest => some (.rightBracket, rest)
  | some ',' :: rest => some (.comma, rest)
  | some ':' :: rest => some (.colon, rest)
  | some 'n' :: some 'u' :: some 'l' :: some 'l' :: rest => some (.null, rest)
  | some 't' :: some 'r' :: some 'u' :: some 'e' :: rest => some (.bool true, rest)
  | some 'f' :: some 'a' :: some 'l' :: some 's' :: some 'e' :: rest => some (.bool false, rest)
  | some '"' :: rest =>
    (stringPieces? [] rest).map fun (pieces, rest) =>
      (.string ((pieceChars? pieces).map String.ofList), rest)
  | some '-' :: rest => (number? true rest).map fun (n, rest) => (.number n.value?, rest)
  | text => (number? false text).map fun (n, rest) => (.number n.value?, rest)

def isBlank (c : Option Char) : Bool :=
  c = some ' ' || c = some '\n' || c = some '\r' || c = some '\t'

/-- All tokens of a text, after tokens read already. Each token takes at least one character, so the
length of the text is fuel enough. -/
def tokensWith? (done : List Token) : Nat → Source → Option (List Token)
  | 0, _ => some done.reverse
  | fuel + 1, text =>
    match text.dropWhile isBlank with
    | [] => some done.reverse
    | text =>
      match nextToken? text with
      | some (token, rest) => tokensWith? (token :: done) fuel rest
      | none => none

def tokens? (text : Source) : Option (List Token) := tokensWith? [] (text.length + 1) text

end GuessClient.Json
