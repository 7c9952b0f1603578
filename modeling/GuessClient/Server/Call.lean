import GuessClient.Server.Reply

/-!
Calls to the server, and a server as somebody who answers them.
-/

namespace GuessClient

inductive Request where
  | answer (formula : String)
  | substitute (x : Float) (raw : String)
  | chat (question : String)

/-- A request on its way, with the epoch of the session in which it was made. -/
structure Ticket where
  epoch : Nat
  request : Request

inductive Response where
  | verdict (v : Verdict)
  | evaluation (e : Evaluation)
  | remark (r : Remark)

inductive Call where
  | start
  | alive (session : String)
  | picture (session : String)
  | command (session : String) (ticket : Ticket)
  | result (session : String)

/-- What a call came to, with the words of the call that tell which one it was. -/
inductive Reply where
  | started (outcome : Outcome Started)
  | alive (session : String) (outcome : Outcome Unit)
  | picture (session : String) (outcome : Outcome Picture)
  | command (session : String) (ticket : Ticket) (outcome : Outcome Response)
  | result (session : String) (outcome : Outcome GameResult)

structure Server (m : Type → Type) where
  alive (session : String) : m (Outcome Unit)
  start : m (Outcome Started)
  picture (session : String) : m (Outcome Picture)
  answer (session formula : String) : m (Outcome Verdict)
  substitute (session : String) (x : Float) : m (Outcome Evaluation)
  chat (session question : String) : m (Outcome Remark)
  result (session : String) : m (Outcome GameResult)

def Request.perform [Monad m] (server : Server m) (session : String) :
    Request → m (Outcome Response)
  | .answer formula => return (← server.answer session formula).map .verdict
  | .substitute x _ => return (← server.substitute session x).map .evaluation
  | .chat question => return (← server.chat session question).map .remark

def Call.perform [Monad m] (server : Server m) : Call → m Reply
  | .start => return .started (← server.start)
  | .alive session => return .alive session (← server.alive session)
  | .picture session => return .picture session (← server.picture session)
  | .command session ticket =>
    return .command session ticket (← ticket.request.perform server session)
  | .result session => return .result session (← server.result session)

end GuessClient
