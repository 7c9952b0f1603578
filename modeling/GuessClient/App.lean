import GuessClient.Directories
import GuessClient.Event
import GuessClient.Session
import GuessClient.Terminal.Area

/-!
The application: which screen is there, and what the keys of the player and the replies of the server
do to it. A step gives the next state and the actions that somebody has to carry out; replies and pulses
come back as events.
-/

namespace GuessClient

inductive Screen where
  | home
  | session
  | result
  deriving DecidableEq, Repr

structure Home where
  starting : Bool := false
  notice : Option String := none

structure ResultPage where
  session : String
  result : Option GameResult := none

structure Settings where
  /-- The milliseconds between two pulses of the countdown. -/
  countdownPeriod : Nat := 1000
  /-- The milliseconds from the end of a session to the next screen. -/
  leaveDelay : Nat := 1500
  hintDirectory : String
  openHints : Bool := true

def tickPeriod : Nat := 100

structure Surroundings where
  now : Float
  blocked : Bool := false

structure App where
  screen : Screen := .home
  home : Home := {}
  /-- The session on screen, known before it is confirmed. -/
  sessionId : Option String := none
  session : Option Session := none
  result : Option ResultPage := none
  input : String := ""
  scroll : Nat := 0
  scrollLimit : Nat := 0
  notice : Option String := none
  quit : Bool := false
  counting : Bool := false

inductive Action where
  | call (c : Call)
  | startCountdown
  | stopCountdown
  | schedule (route : Route) (after : Nat)
  | write (path : String) (bytes : List UInt8)
  | view (path : String)
  | entered (route : Route)

namespace App

def startFailedText : String := "Could not start the game. Check that the server is running."
def sessionGoneText : String := "That session is not available any more."
def resultFailedText : String := "Could not load the result for that session."
def noHintText : String := "No hint image has been revealed yet."
def hintFailedText : String := "Could not save the hint image."

abbrev Step := Transition App Action

def stopCountdown : Step := fun a =>
  if a.counting then ({ a with counting := false }, [.stopCountdown]) else (a, [])

def carryOut (session : String) : Effect → Step
  | .fetchPicture => .emit (.call (.picture session))
  | .send ticket => .emit (.call (.command session ticket))
  | .startCountdown => fun a => ({ a with counting := true }, [.startCountdown])
  | .stopCountdown => stopCountdown
  | .navigate route after => .emit (.schedule route after)

def inSession (step : Session.Step) : Step := fun a =>
  match a.session with
  | none => (a, [])
  | some s =>
    let (t, effects) := step s
    Transition.all (effects.map (carryOut t.id)) { a with session := some t }

/-- Goes to a screen, whatever is on screen now. All that belongs to the screen left is dropped. -/
def navigate (route : Route) : Step := fun a =>
  let stop := if a.counting then [Action.stopCountdown] else []
  match route with
  | .home =>
    ({ home := { a.home with starting := false }, quit := a.quit }, stop ++ [.entered route])
  | .session id =>
    ({ screen := .session, home := a.home, sessionId := some id, quit := a.quit },
      stop ++ [.entered route, .call (.alive id)])
  | .result id =>
    ({ screen := .result, home := a.home, result := some { session := id }, quit := a.quit },
      stop ++ [.entered route, .call (.result id)])

def requestStart : Step := fun a =>
  if a.home.starting then (a, [])
  else ({ a with home := { starting := true } }, [.call .start])

def startGame : Step := fun a =>
  (if a.screen = .home then requestStart else (navigate .home).andThen requestStart) a

def goHome (notice : String) : Step :=
  (navigate .home).andThen (.change fun a => { a with home := { a.home with notice := some notice } })

def scrollUp (rows : Nat) (a : App) : App :=
  { a with scroll := min (Terminal.saturate (a.scroll + rows)) a.scrollLimit }

/-- The limit may have become smaller since the log was scrolled up. -/
def scrollDown (rows : Nat) (a : App) : App :=
  { a with scroll := min a.scroll a.scrollLimit - rows }

def setScrollLimit (limit : Nat) (a : App) : App := { a with scrollLimit := limit }

def saveHint (around : Surroundings) (settings : Settings) : Step := fun a =>
  match a.session with
  | none => (a, [])
  | some s =>
    match s.hint with
    | none => ({ a with notice := some noHintText }, [])
    | some picture =>
      match hintFile? around.blocked s.id picture with
      | none => ({ a with notice := some hintFailedText }, [])
      | some file =>
        let path := Environment.join settings.hintDirectory file.name
        ({ a with notice := some s!"Hint saved to {path}" },
          .write path file.bytes :: if settings.openHints then [.view path] else [])

def enter : Step := fun a =>
  match a.session with
  | none => (a, [])
  | some s =>
    match s.submit a.input with
    | none => (a, [])
    | some _ =>
      inSession (Session.apply (.submit a.input)) { a with input := "", scroll := 0 }

def edit (f : String → String) (a : App) : App :=
  match a.session with
  | none => a
  | some s => if s.locked then a else { a with input := f a.input }

def dropLast (text : String) : String := String.ofList text.toList.dropLast

def onSessionKey (around : Surroundings) (settings : Settings) (k : Key) : Step := fun a =>
  if a.session.isNone then (a, [])
  else
    match k.code with
    | .enter => enter a
    | .tab => inSession (Session.apply .toggleMode) a
    | .backTab => inSession (Session.apply .toggleCommand) a
    | .backspace => (a.edit dropLast, [])
    | .up => (a.scrollUp 1, [])
    | .down => (a.scrollDown 1, [])
    | .pageUp => (a.scrollUp 10, [])
    | .pageDown => (a.scrollDown 10, [])
    | .char c =>
      if !k.control then (a.edit (·.push c), [])
      else if c = 'o' then saveHint around settings a
      else (a, [])
    | .escape | .other => (a, [])

def isQuitKey (k : Key) : Bool := k.code = .escape || (k.control && k.code = .char 'c')

def onKey (around : Surroundings) (settings : Settings) (k : Key) : Step := fun a =>
  if isQuitKey k then ({ a with quit := true }, [])
  else
    match a.screen, k.code with
    | .home, .enter => startGame a
    | .home, _ => (a, [])
    | .session, _ => onSessionKey around settings k a
    | .result, .enter | .result, .char 'n' => startGame a
    | .result, .char 'h' => navigate .home a
    | .result, _ => (a, [])

def onStarted (outcome : Outcome Started) : Step := fun a =>
  if a.screen ≠ .home || !a.home.starting then (a, [])
  else
    match outcome with
    | .ok started => navigate (.session started.session) a
    | .error _ => ({ a with home := { notice := some startFailedText } }, [])

def onAlive (settings : Settings) (session : String) (outcome : Outcome Unit) : Step := fun a =>
  if a.session.isSome || a.sessionId ≠ some session then (a, [])
  else
    match outcome with
    | .ok () =>
      inSession Session.begin
        { a with session := some { id := session, delay := settings.leaveDelay } }
    | .error _ => goHome sessionGoneText a

def shows (a : App) (session : String) : Bool := a.session.any (·.id = session)

def onResult (session : String) (outcome : Outcome GameResult) : Step := fun a =>
  match a.result with
  | none => (a, [])
  | some page =>
    if page.session ≠ session then (a, [])
    else
      match outcome with
      | .ok result => ({ a with result := some { page with result := some result } }, [])
      | .error _ => goHome resultFailedText a

/-- A reply to something that is no longer on screen does nothing. -/
def onReply (around : Surroundings) (settings : Settings) : Reply → Step
  | .started outcome => onStarted outcome
  | .alive session outcome => onAlive settings session outcome
  | .picture session outcome => fun a =>
    if a.shows session then inSession (Session.apply (.picture outcome around.now)) a else (a, [])
  | .command session ticket outcome => fun a =>
    if a.shows session then inSession (Session.apply (.reply ticket outcome)) a else (a, [])
  | .result session outcome => onResult session outcome

def handle (around : Surroundings) (settings : Settings) : Event → Step
  | .key k => onKey around settings k
  | .resize | .tick => .stay
  | .countdown => inSession (Session.apply (.countdown around.now))
  | .reply r => onReply around settings r
  | .navigate route => navigate route

end App

end GuessClient
