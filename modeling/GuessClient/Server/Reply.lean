import GuessClient.Json.Record
import GuessClient.Server.Failure
import GuessClient.Text.White

/-!
The replies of the server and how they are read from the bodies of its answers.
-/

namespace GuessClient

open GuessClient.Json

structure Started where
  session : String

structure Picture where
  text : String
  start : Float
  finish : Float

structure Verdict where
  correct : Bool
  message : String

structure Evaluation where
  value : Value

structure Remark where
  text : String

structure GameResult where
  succeeded : Option Bool
  clearTime : Option Float
  formula : Option String
  whole : Value

def Picture.decode (p : Picture) : Outcome (List UInt8) :=
  match Base64.decode (Text.trim p.text) with
  | .ok bytes => .ok bytes
  | .error fault => .error (.malformed (.picture fault))

def Started.ofTree? (t : Tree) : Option Started :=
  match fields? ["session_hash"] t with
  | some [session] => do return ⟨← required session Tree.string?⟩
  | _ => none

def Picture.ofTree? (t : Tree) : Option Picture :=
  match fields? ["image_base64", "start_time", "end_time"] t with
  | some [text, start, finish] => do
    return ⟨← required text Tree.string?, ← required start Tree.float?,
      ← required finish Tree.float?⟩
  | _ => none

def Verdict.ofTree? (t : Tree) : Option Verdict :=
  match fields? ["is_correct", "message"] t with
  | some [correct, message] => do
    return ⟨← required correct Tree.bool?, ← optional message "" Tree.string?⟩
  | _ => none

def Evaluation.ofTree? (t : Tree) : Option Evaluation :=
  match fields? ["y_value"] t with
  | some [value] => do return ⟨← required value (Tree.value? fieldDepth)⟩
  | _ => none

def Remark.ofTree? (t : Tree) : Option Remark :=
  match fields? ["response"] t with
  | some [text] => do return ⟨← required text Tree.string?⟩
  | _ => none

/-- A field of an unexpected type counts as one that is not there. -/
def GameResult.ofValue (v : Value) : GameResult where
  succeeded := (v.member? "is_succeed").bind Value.bool?
  clearTime := (v.member? "clear_time").bind Value.float?
  formula := (v.member? "correct_formula").bind Value.string?
  whole := v

def readBody (read? : Tree → Option α) (body : String) : Outcome α :=
  match (tree? (.ofText body)).bind read? with
  | some a => .ok a
  | none => .error (.malformed .form)

def Started.read : String → Outcome Started := readBody ofTree?
def Picture.read : String → Outcome Picture := readBody ofTree?
def Verdict.read : String → Outcome Verdict := readBody ofTree?
def Evaluation.read : String → Outcome Evaluation := readBody ofTree?
def Remark.read : String → Outcome Remark := readBody ofTree?

def GameResult.read : String → Outcome GameResult :=
  readBody fun t => (t.value? deepest).map ofValue

end GuessClient
