import GuessClient.Server.Call

/-!
The address of a server, which all its calls start with.
-/

namespace GuessClient

def serverAddress (url : String) : String :=
  String.ofList ((url.toList.reverse.dropWhile (· = '/')).reverse)

def afterScheme? (address : List Char) : Option (List Char) :=
  ["http://", "https://"].findSome? fun scheme =>
    let (front, rest) := address.splitAt scheme.length
    if front.map Char.toLower = scheme.toList then some rest else none

def splitChars (c : Char) : List Char → List (List Char)
  | [] => [[]]
  | d :: rest =>
    match splitChars c rest with
    | part :: parts => if d = c then [] :: part :: parts else (d :: part) :: parts
    | [] => [[d]]

def isNumberUpTo (bound : Nat) (text : List Char) : Bool :=
  text.all Char.isDigit
    && text.foldl (fun n c => 10 * n + (c.toNat - '0'.toNat)) 0 ≤ bound

/-- A host: four numbers, or a name that does not end in a number. -/
def isHost (text : List Char) : Bool :=
  let parts := splitChars '.' text
  let isNumber (part : List Char) : Bool := !part.isEmpty && part.all Char.isDigit
  if parts.getLast?.any isNumber then
    parts.length = 4 && parts.all fun part => isNumber part && isNumberUpTo 255 part
  else !text.isEmpty && text.all fun c => c.isAlphanum || c = '-' || c = '.'

/-- Whether a server can be asked at an address: a scheme, a host, and perhaps a colon with a number of
sixteen bits. -/
def isContactable (address : String) : Bool :=
  match afterScheme? address.toList with
  | none => false
  | some rest =>
    match splitChars ':' (rest.takeWhile fun c => c ≠ '/') with
    | [host] => isHost host
    | [host, number] => isHost host && isNumberUpTo 65535 number
    | _ => false

def Server.unreachable [Monad m] : Server m where
  alive _ := return .error .transport
  start := return .error .transport
  picture _ := return .error .transport
  answer _ _ := return .error .transport
  substitute _ _ := return .error .transport
  chat _ _ := return .error .transport
  result _ := return .error .transport

end GuessClient
