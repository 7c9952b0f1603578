import GuessClient.Server.Call

/-!
What the application is told, and the screens that it can be told to show.
-/

namespace GuessClient

inductive Route where
  | home
  | session (id : String)
  | result (id : String)
  deriving DecidableEq, Repr

def Route.path : Route → String
  | .home => "/"
  | .session id => s!"/game/{id}"
  | .result id => s!"/game/{id}/result"

inductive KeyCode where
  | enter
  | tab
  | backTab
  | backspace
  | up
  | down
  | pageUp
  | pageDown
  | escape
  | char (c : Char)
  | other
  deriving DecidableEq, Repr

structure Key where
  code : KeyCode
  control : Bool := false
  deriving DecidableEq, Repr

inductive Event where
  | key (k : Key)
  | resize
  /-- Nothing happened for a while. -/
  | tick
  | countdown
  | reply (r : Reply)
  | navigate (route : Route)

end GuessClient
