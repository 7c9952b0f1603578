import GuessClient.Json.Reader

/-!
Records with declared fields. A record is read from an object, whose other members are skipped, or
from an array that lists its fields in their order. A field may be left out where the reader of the
record has a value for that case; from an array only the last fields can be.
-/

namespace GuessClient.Json

/-- The tree of a declared field in an object; none if the object has the field twice. -/
def namedField? (members : List (Option String × Tree)) (name : String) : Option (Option Tree) :=
  match members.filter (·.1 == some name) with
  | [] => some none
  | [(_, t)] => some (some t)
  | _ => none

def fields? (names : List String) : Tree → Option (List (Option Tree))
  | .object members =>
    if members.all (·.1.isSome) then names.mapM (namedField? members) else none
  | .array items =>
    if items.length ≤ names.length then
      some (items.map some ++ List.replicate (names.length - items.length) none)
    else none
  | _ => none

def fieldDepth : Nat := deepest - 1

def Tree.string? : Tree → Option String
  | .string s => s
  | _ => none

def Tree.bool? : Tree → Option Bool
  | .bool b => some b
  | _ => none

def Tree.float? : Tree → Option Float
  | .number n => n.map Number.toFloat
  | _ => none

def Tree.count? : Tree → Option UInt64
  | .number (some (.integer n)) => if 0 ≤ n then some n.toNat.toUInt64 else none
  | _ => none

def required (field : Option Tree) (read : Tree → Option α) : Option α := field.bind read

def optional (field : Option Tree) (absent : α) (read : Tree → Option α) : Option α :=
  match field with
  | none => some absent
  | some t => read t

def Value.bool? : Value → Option Bool
  | .bool b => some b
  | _ => none

def Value.float? : Value → Option Float
  | .number n => some n.toFloat
  | _ => none

def Value.string? : Value → Option String
  | .string s => some s
  | _ => none

end GuessClient.Json
