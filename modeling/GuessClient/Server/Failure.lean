import GuessClient.Base64

/-!
Why a call to the server gives no reply.
-/

namespace GuessClient

inductive Defect where
  | form
  | picture (fault : Base64.Fault)
  | other (words : String)
  deriving DecidableEq, Repr

def Defect.message : Defect → String
  | .form => "unexpected form"
  | .picture fault => s!"image_base64: {fault.message}"
  | .other words => words

inductive Failure where
  | transport
  | status (code : UInt16) (body : String)
  | malformed (defect : Defect)
  deriving DecidableEq, Repr

def Failure.message : Failure → String
  | .transport => "transport error: no answer from the server"
  | .status code body => s!"server returned {code}: {body}"
  | .malformed defect => s!"malformed response: {defect.message}"

abbrev Outcome (α : Type) := Except Failure α

end GuessClient
