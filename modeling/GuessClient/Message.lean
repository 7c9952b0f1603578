/-!
The messages in the log of a session.
-/

namespace GuessClient

inductive Role where
  | player
  | system
  | analyst
  deriving DecidableEq, Repr

def Role.label : Role → String
  | .player => "You"
  | .system => "System"
  | .analyst => "AI Analyst"

inductive MessageKind where
  | text
  | success
  | error
  | image
  deriving DecidableEq, Repr

structure Message where
  role : Role
  kind : MessageKind
  body : String
  /-- The address of an attached picture, which holds the picture itself. -/
  picture : Option String := none
  deriving DecidableEq, Repr

def Message.player (body : String) : Message := ⟨.player, .text, body, none⟩
def Message.system (body : String) : Message := ⟨.system, .text, body, none⟩
def Message.success (body : String) : Message := ⟨.system, .success, body, none⟩
def Message.error (body : String) : Message := ⟨.system, .error, body, none⟩
def Message.analyst (body : String) : Message := ⟨.analyst, .text, body, none⟩
def Message.image (body picture : String) : Message := ⟨.system, .image, body, some picture⟩

end GuessClient
