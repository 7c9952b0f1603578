import GuessClient.Clock
import GuessClient.Decimal.Reading
import GuessClient.Display
import GuessClient.Event
import GuessClient.Message
import GuessClient.Transition

/-!
One session of the game: what the player sees of it, and the rules by which it goes on. A session never
looks at a clock and does no work itself; each step gives the next state and the effects that somebody
has to bring about.
-/

namespace GuessClient

inductive Mode where
  | answer
  | substitute
  | chat
  deriving DecidableEq, Repr

def Mode.word : Mode → String
  | .answer => "ANS"
  | .substitute => "INPUT"
  | .chat => "CHAT"

inductive Effect where
  | fetchPicture
  | send (ticket : Ticket)
  | startCountdown
  | stopCountdown
  | navigate (route : Route) (after : Nat)

structure Loaded where
  window : Window
  picture : List UInt8
  remaining : UInt64

structure Session where
  id : String
  delay : Nat := 1500
  loaded : Option Loaded := none
  revealed : Bool := false
  ended : Bool := false
  loading : Bool := false
  leaving : Bool := false
  begun : Bool := false
  epoch : Nat := 0
  mode : Mode := .answer
  messages : List Message := []

namespace Session

def startedText : String :=
  "Game started. Begin your analysis.\nA hint image will be shown when time is running low."
def invalidText : String := "The session is invalid or has timed out."
def communicationText : String := "A server communication error occurred."
def hintText : String :=
  "⚠️ Emergency hint: time is almost up! Revealing the graph image."
def timeUpText : String := "⏰ Time's up! Moving to the results screen..."
def calculationText : String := "Calculation error. Please enter a valid number."
def analystText : String := "Failed to get a response from the AI."

def remaining (s : Session) : Option UInt64 := s.loaded.map Loaded.remaining

def hint (s : Session) : Option (List UInt8) :=
  if s.revealed then s.loaded.map Loaded.picture else none

def locked (s : Session) : Bool := s.loading || s.ended

def pictureAddress (picture : List UInt8) : String :=
  "data:image/png;base64," ++ Base64.encode picture

abbrev Step := Transition Session Effect

def log (m : Message) : Step := .change fun s => { s with messages := s.messages ++ [m] }

/-- Ends the session, in a new epoch, so that answers still on their way are out of date. -/
def finish : Step := fun s =>
  if s.ended then (s, [])
  else ({ s with ended := true, epoch := s.epoch + 1 }, [.stopCountdown])

def leave (route : Route) : Step := fun s =>
  if s.leaving then (s, []) else ({ s with leaving := true }, [.navigate route s.delay])

/-- Whether the hint has to be shown now: some time is left, but no more than the threshold. -/
def hintDue (s : Session) (l : Loaded) : Bool :=
  !s.revealed && 0 < l.remaining && l.remaining.toFloat ≤ l.window.threshold

def review : Step := fun s =>
  match s.loaded with
  | none => (s, [])
  | some l =>
    let s :=
      if s.hintDue l then
        { s with
          revealed := true
          messages := s.messages ++ [.image hintText (pictureAddress l.picture)] }
      else s
    if l.remaining = 0 then
      if s.leaving then finish s
      else (finish.andThen ((log (.error timeUpText)).andThen (leave (.result s.id)))) s
    else (s, [])

def begin : Step := fun s =>
  if s.begun then (s, []) else ({ s with begun := true }, [.fetchPicture])

def openPicture (outcome : Outcome Picture) : Outcome (Window × List UInt8) := do
  let p ← outcome
  return (⟨p.start, p.finish⟩, ← p.decode)

def loadFailureText : Failure → String
  | .status .. => invalidText
  | _ => communicationText

def onPicture (outcome : Outcome Picture) (now : Float) : Step := fun s =>
  if s.loaded.isSome || s.ended then (s, [])
  else
    match openPicture outcome with
    | .ok (window, picture) =>
      let remaining := window.remaining now
      let s :=
        { s with
          loaded := some ⟨window, picture, remaining⟩
          messages := s.messages ++ [.system startedText] }
      ((if remaining = 0 then finish else Transition.emit .startCountdown).andThen review) s
    | .error failure =>
      ((log (.error (loadFailureText failure))).andThen (finish.andThen (leave .home))) s

/-- Takes the time from the clock. A clock that goes backwards gives no time back. -/
def onCountdown (now : Float) : Step := fun s =>
  if s.ended then (s, [])
  else
    match s.loaded with
    | none => (s, [])
    | some l =>
      review { s with loaded := some { l with remaining := min l.remaining (l.window.remaining now) } }

def echo (mode : Mode) (text : String) : Message :=
  match mode with
  | .chat => .player text
  | mode => .player s!"[COMMAND: {mode.word}] {text}"

def request? (mode : Mode) (text : String) : Option Request :=
  match mode with
  | .answer => some (.answer text)
  | .substitute => ((Decimal.read? text).filter Decimal.isFinite).map (.substitute · text)
  | .chat => some (.chat text)

/-- Takes a text that the player entered; none if it is not accepted at all. -/
def submit (input : String) (s : Session) : Option (Session × List Effect) :=
  let text := Text.trim input
  if text.isEmpty || s.locked then none
  else
    some <| match request? s.mode text with
      | some r => ((log (echo s.mode text)).andThen fun s =>
          ({ s with loading := true }, [.send ⟨s.epoch, r⟩])) s
      | none => ((log (echo s.mode text)).andThen (log (.error calculationText))) s

def failureText : Request → String
  | .answer _ => communicationText
  | .substitute .. => calculationText
  | .chat _ => analystText

def answered : Request → Outcome Response → Step
  | .answer _, .ok (.verdict v) => fun s =>
    if v.correct then
      ((log (.success s!"🎉 {v.message}")).andThen (finish.andThen (leave (.result s.id)))) s
    else log (.error s!"❌ Incorrect... {v.message}") s
  | .substitute _ raw, .ok (.evaluation e) =>
    log (.system s!"📝 Result: f({raw}) = {valueText e.value}")
  | .chat _, .ok (.remark r) => log (.analyst r.text)
  | _, .ok _ => log (.error communicationText)
  | r, .error _ => log (.error (failureText r))

def unlock : Step := .change fun s => if s.leaving then s else { s with loading := false }

/-- Takes the answer to a request. One from another epoch is out of date. -/
def onReply (ticket : Ticket) (outcome : Outcome Response) : Step := fun s =>
  if ticket.epoch ≠ s.epoch then (s, [])
  else ((answered ticket.request outcome).andThen unlock) s

def toggleMode (s : Session) : Session :=
  { s with mode := if s.mode = .chat then .answer else .chat }

def toggleCommand (s : Session) : Session :=
  if s.locked then s
  else
    match s.mode with
    | .answer => { s with mode := .substitute }
    | .substitute => { s with mode := .answer }
    | .chat => s

def setMode (mode : Mode) (s : Session) : Session := { s with mode }

inductive Operation where
  | begin
  | picture (outcome : Outcome Picture) (now : Float)
  | countdown (now : Float)
  | submit (text : String)
  | reply (ticket : Ticket) (outcome : Outcome Response)
  | toggleMode
  | toggleCommand
  | setMode (mode : Mode)

def apply : Operation → Step
  | .begin => begin
  | .picture outcome now => onPicture outcome now
  | .countdown now => onCountdown now
  | .submit text => fun s => (s.submit text).getD (s, [])
  | .reply ticket outcome => onReply ticket outcome
  | .toggleMode => .change toggleMode
  | .toggleCommand => .change toggleCommand
  | .setMode mode => .change (setMode mode)

def run (operations : List Operation) : Step := .all (operations.map apply)

end Session

end GuessClient
