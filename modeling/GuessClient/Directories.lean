/-!
The directories and files of the program, and the files in which pictures of revealed hints are kept.
-/

namespace GuessClient

structure Environment where
  home : String
  configHome : Option String := none
  cacheHome : Option String := none

namespace Environment

def programName : String := "funguessr"

def endsWithSlash (path : String) : Bool := path.toList.getLast? = some '/'

def join (path part : String) : String :=
  if path.isEmpty || endsWithSlash path then path ++ part else path ++ "/" ++ part

/-- A directory from the environment if it is an absolute path, otherwise one in the home directory. -/
def directory (e : Environment) (given : Option String) (inHome : String) : String :=
  match given with
  | some path => if path.toList.head? = some '/' then path else join e.home inHome
  | none => join e.home inHome

def configFile (e : Environment) : String :=
  join (join (e.directory e.configHome ".config") programName) "config.json"

def hintDirectory (e : Environment) : String :=
  join (join (e.directory e.cacheHome ".cache") programName) "hints"

def logFile (e : Environment) : String :=
  join (join (join (join e.home ".local") "state") programName) (programName ++ ".log")

end Environment

def isNameChar (c : Char) : Bool := c.isAlphanum || c = '-' || c = '_'

/-- The file name for a session: one part of a path, whatever the session is called. -/
def hintName (session : String) : String :=
  let name := session.toList.filter isNameChar
  (if name.isEmpty then "hint" else String.ofList name) ++ ".png"

def longestName : Nat := 255

structure HintFile where
  name : String
  bytes : List UInt8
  deriving DecidableEq, Repr

def hintFile? (blocked : Bool) (session : String) (picture : List UInt8) : Option HintFile :=
  let name := hintName session
  if blocked || longestName < name.length then none else some ⟨name, picture⟩

end GuessClient
