import GuessClient.Json.Record
import GuessClient.Json.Writer

/-!
The settings that are kept in a file. A file that cannot be read as a whole counts as no file.
-/

namespace GuessClient

open GuessClient.Json

structure Config where
  server : String := "http://127.0.0.1:8000"
  /-- The time limit for a call, in seconds, as it was set. -/
  timeout : UInt64 := 30
  logFilter : String := "info"
  deriving DecidableEq, Repr

namespace Config

/-- The time limit that is used: at least one second. -/
def callTimeout (c : Config) : UInt64 := max c.timeout 1

def ofTree? (t : Tree) : Option Config :=
  let default : Config := {}
  match fields? ["server_url", "request_timeout_secs", "log_filter"] t with
  | some [server, timeout, logFilter] => do
    return ⟨← optional server default.server Tree.string?,
      ← optional timeout default.timeout Tree.count?,
      ← optional logFilter default.logFilter Tree.string?⟩
  | _ => none

def load (file : Option ByteArray) : Config :=
  (file.bind fun bytes => (tree? (.ofBytes bytes)).bind ofTree?).getD {}

def label (name : String) : List Char := newLine 1 ++ quoted name ++ [':', ' ']

def text (c : Config) : String :=
  String.ofList <|
    '{' :: (label "server_url" ++ quoted c.server
      ++ ',' :: (label "request_timeout_secs" ++ Nat.toDigits 10 c.timeout.toNat
      ++ ',' :: (label "log_filter" ++ quoted c.logFilter ++ newLine 0 ++ ['}'])))

end Config

end GuessClient
