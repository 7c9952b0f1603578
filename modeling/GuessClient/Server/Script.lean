import GuessClient.Decimal.Writing
import GuessClient.Server.Call

/-!
A server in memory, which answers from a script and keeps a record of the calls.
-/

namespace GuessClient

structure Script where
  session : Option String := none
  alive : Bool := false
  picture : Option Picture := none
  verdicts : List Verdict := []
  value : Option Json.Value := none
  remark : Option String := none
  result : Option Json.Value := none

structure Performance where
  script : Script
  calls : List String := []

namespace Script

def noSession : Failure := .status 404 "Session not found"

def serve (call : String) (pick : Script → Option α × Script) :
    StateM Performance (Outcome α) := fun p =>
  let (picked, script) := pick p.script
  let outcome := match picked with
    | some a => .ok a
    | none => .error noSession
  (outcome, ⟨script, p.calls ++ [call]⟩)

def recite (call : String) (pick : Script → Option α) : StateM Performance (Outcome α) :=
  serve call fun s => (pick s, s)

def nextVerdict (s : Script) : Option Verdict × Script :=
  (s.verdicts.head?, { s with verdicts := s.verdicts.tail })

def server : Server (StateM Performance) where
  alive session := recite s!"is_alive {session}" fun s => if s.alive then some () else none
  start := recite "start" fun s => s.session.map Started.mk
  picture session := recite s!"image {session}" Script.picture
  answer session formula := serve s!"answer {session} {formula}" nextVerdict
  substitute session x :=
    recite s!"input {session} {Decimal.Format.plain.write x}" fun s => s.value.map Evaluation.mk
  chat session question :=
    recite s!"chat {session} {question}" fun s => s.remark.map Remark.mk
  result session := recite s!"result {session}" fun s => s.result.map GameResult.ofValue

end Script

end GuessClient
