import GuessClient.Json.Token

/-!
The syntax of JSON. A tree is read from its tokens, one at a time, by a machine that keeps the arrays
and objects still open on a stack; beside it stand the tokens that a tree is written with.
-/

namespace GuessClient.Json

mutual
def Tree.tokens : Tree → List Token
  | .null => [.null]
  | .bool b => [.bool b]
  | .number n => [.number n]
  | .string s => [.string s]
  | .array [] => [.leftBracket, .rightBracket]
  | .array (t :: rest) => .leftBracket :: (t.tokens ++ itemTokens rest)
  | .object [] => [.leftBrace, .rightBrace]
  | .object ((name, t) :: rest) =>
    .leftBrace :: .string name :: .colon :: (t.tokens ++ memberTokens rest)

def itemTokens : List Tree → List Token
  | [] => [.rightBracket]
  | t :: rest => .comma :: (t.tokens ++ itemTokens rest)

def memberTokens : List (Option String × Tree) → List Token
  | [] => [.rightBrace]
  | (name, t) :: rest => .comma :: .string name :: .colon :: (t.tokens ++ memberTokens rest)
end

/-- An array or object still open, with its finished parts, the last one first. -/
inductive Container where
  | array (items : List Tree)
  | object (members : List (Option String × Tree))
  | member (members : List (Option String × Tree)) (name : Option String)

inductive Due where
  | value
  | firstItem
  | name
  | firstName
  | colon
  | separator
  | nothing (tree : Tree)

structure Machine where
  due : Due
  stack : List Container

def Machine.start : Machine := ⟨.value, []⟩

def Machine.complete (t : Tree) : List Container → Option Machine
  | [] => some ⟨.nothing t, []⟩
  | .array items :: rest => some ⟨.separator, .array (t :: items) :: rest⟩
  | .member members name :: rest => some ⟨.separator, .object ((name, t) :: members) :: rest⟩
  | .object _ :: _ => none

def Machine.openValue (stack : List Container) : Token → Option Machine
  | .null => complete .null stack
  | .bool b => complete (.bool b) stack
  | .number n => complete (.number n) stack
  | .string s => complete (.string s) stack
  | .leftBracket => some ⟨.firstItem, .array [] :: stack⟩
  | .leftBrace => some ⟨.firstName, .object [] :: stack⟩
  | _ => none

def Machine.close : Token → List Container → Option Machine
  | .rightBracket, .array items :: rest => complete (.array items.reverse) rest
  | .rightBrace, .object members :: rest => complete (.object members.reverse) rest
  | _, _ => none

def Machine.openMember : Token → List Container → Option Machine
  | .string name, .object members :: rest => some ⟨.colon, .member members name :: rest⟩
  | _, _ => none

def Machine.step (m : Machine) (token : Token) : Option Machine :=
  match m.due, token with
  | .value, _ => openValue m.stack token
  | .firstItem, .rightBracket => close token m.stack
  | .firstItem, _ => openValue m.stack token
  | .name, _ => openMember token m.stack
  | .firstName, .rightBrace => close token m.stack
  | .firstName, _ => openMember token m.stack
  | .colon, .colon => some { m with due := .value }
  | .colon, _ => none
  | .separator, .comma =>
    match m.stack with
    | .array _ :: _ => some { m with due := .value }
    | .object _ :: _ => some { m with due := .name }
    | _ => none
  | .separator, _ => close token m.stack
  | .nothing _, _ => none

def Machine.tree? (m : Machine) : Option Tree :=
  match m.due with
  | .nothing t => some t
  | _ => none

def treeOfTokens? (tokens : List Token) : Option Tree :=
  (tokens.foldlM Machine.step .start).bind Machine.tree?

def tree? (source : Source) : Option Tree := (tokens? source).bind treeOfTokens?

def value? (text : String) : Option Value := (tree? (.ofText text)).bind (Tree.value? deepest)

end GuessClient.Json
