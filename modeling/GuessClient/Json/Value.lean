/-!
JSON values as the client keeps them, and the syntax trees they are read from.
-/

namespace GuessClient.Json

inductive Number where
  | integer (n : Int)
  | real (x : Float)

/-- A value. The members of an object have ascending, distinct names. -/
inductive Value where
  | null
  | bool (b : Bool)
  | number (n : Number)
  | string (s : String)
  | array (items : List Value)
  | object (members : List (String × Value))

/-- The members of an object after one more is set: its place is found by the order of the names,
and a member of the same name is replaced. -/
def setMember (name : String) (v : Value) : List (String × Value) → List (String × Value)
  | [] => [(name, v)]
  | (n, w) :: rest =>
    if name = n then (name, v) :: rest
    else if name < n then (name, v) :: (n, w) :: rest
    else (n, w) :: setMember name v rest

def Value.member? (name : String) : Value → Option Value
  | .object members => members.lookup name
  | _ => none

/-- A tree as the text has it. A number out of range and a string that is no text are `none`: they
may stand where nobody reads them. -/
inductive Tree where
  | null
  | bool (b : Bool)
  | number (n : Option Number)
  | string (s : Option String)
  | array (items : List Tree)
  | object (members : List (Option String × Tree))

mutual
/-- The value of a tree, with arrays and objects nested at most `depth` deep. Of members of one name
the last is kept. -/
def Tree.value? (depth : Nat) : Tree → Option Value
  | .null => some .null
  | .bool b => some (.bool b)
  | .number n => n.map .number
  | .string s => s.map .string
  | .array items => if depth = 0 then none else (itemValues? (depth - 1) items).map .array
  | .object members =>
    if depth = 0 then none else (memberValues? (depth - 1) [] members).map .object

def itemValues? (depth : Nat) : List Tree → Option (List Value)
  | [] => some []
  | t :: rest => do
    let v ← t.value? depth
    let vs ← itemValues? depth rest
    return v :: vs

def memberValues? (depth : Nat) (done : List (String × Value)) :
    List (Option String × Tree) → Option (List (String × Value))
  | [] => some done
  | (name, t) :: rest => do
    let name ← name
    let v ← t.value? depth
    memberValues? depth (setMember name v done) rest
end

def deepest : Nat := 127

end GuessClient.Json
