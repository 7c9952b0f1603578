import GuessClient.Json.Number

/-!
JSON text for values: in one line, or with a line for every item. Only quotes, backslashes and control
characters below U+0020 are escaped.
-/

namespace GuessClient.Json

open GuessClient.Decimal (Format)

def hexDigit (n : Nat) : Char := Nat.digitChar (n % 16)

def escapeChar (c : Char) : List Char :=
  if c = '"' then ['\\', '"']
  else if c = '\\' then ['\\', '\\']
  else if c = '\x08' then ['\\', 'b']
  else if c = '\x0c' then ['\\', 'f']
  else if c = '\n' then ['\\', 'n']
  else if c = '\r' then ['\\', 'r']
  else if c = '\t' then ['\\', 't']
  else if c.toNat < 0x20 then ['\\', 'u', '0', '0', hexDigit (c.toNat / 16), hexDigit c.toNat]
  else [c]

def quoted (s : String) : List Char := '"' :: (s.toList.flatMap escapeChar ++ ['"'])

def Number.write : Number → List Char
  | .integer n => (toString n).toList
  | .real x => (Format.json.write x).toList

mutual
def Value.compactChars : Value → List Char
  | .null => ['n', 'u', 'l', 'l']
  | .bool true => ['t', 'r', 'u', 'e']
  | .bool false => ['f', 'a', 'l', 's', 'e']
  | .number n => n.write
  | .string s => quoted s
  | .array [] => ['[', ']']
  | .array (v :: rest) => '[' :: (v.compactChars ++ compactItems rest)
  | .object [] => ['{', '}']
  | .object ((name, v) :: rest) =>
    '{' :: (quoted name ++ ':' :: (v.compactChars ++ compactMembers rest))

def compactItems : List Value → List Char
  | [] => [']']
  | v :: rest => ',' :: (v.compactChars ++ compactItems rest)

def compactMembers : List (String × Value) → List Char
  | [] => ['}']
  | (name, v) :: rest => ',' :: (quoted name ++ ':' :: (v.compactChars ++ compactMembers rest))
end

def Value.compact (v : Value) : String := String.ofList v.compactChars

def newLine (depth : Nat) : List Char := '\n' :: List.replicate (2 * depth) ' '

mutual
/-- A value with each item on a line of its own, two blanks deeper than its container. -/
def Value.prettyChars (depth : Nat) : Value → List Char
  | .array [] => ['[', ']']
  | .array (v :: rest) =>
    '[' :: (newLine (depth + 1) ++ v.prettyChars (depth + 1) ++ prettyItems depth rest)
  | .object [] => ['{', '}']
  | .object ((name, v) :: rest) =>
    '{' :: (newLine (depth + 1) ++ quoted name ++ [':', ' ']
      ++ v.prettyChars (depth + 1) ++ prettyMembers depth rest)
  | v => v.compactChars

def prettyItems (depth : Nat) : List Value → List Char
  | [] => newLine depth ++ [']']
  | v :: rest => ',' :: (newLine (depth + 1) ++ v.prettyChars (depth + 1) ++ prettyItems depth rest)

def prettyMembers (depth : Nat) : List (String × Value) → List Char
  | [] => newLine depth ++ ['}']
  | (name, v) :: rest =>
    ',' :: (newLine (depth + 1) ++ quoted name ++ [':', ' ']
      ++ v.prettyChars (depth + 1) ++ prettyMembers depth rest)
end

end GuessClient.Json
