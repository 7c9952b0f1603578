import GuessClient.Clock
import GuessClient.CommandLine
import GuessClient.Logging
import GuessClient.Panel.Draw
import GuessClient.Server.Address
import Std.Time.DateTime.Timestamp

/-!
The program. It shows the screen as text and takes a line at a time: each character of the line is a
key, and the end of the line is the enter key. No transport is built in, so that no server is ever
reached.
-/

namespace GuessClient.Program

def screenWidth : Nat := 80
def screenHeight : Nat := 24

def now : IO Float := do
  return epochSeconds ((← Std.Time.Timestamp.now).toNanosecondsSinceUnixEpoch.val / 1000)

def environment : IO Environment := do
  return ⟨(← IO.getEnv "HOME").getD "", ← IO.getEnv "XDG_CONFIG_HOME", ← IO.getEnv "XDG_CACHE_HOME"⟩

def readFile? (path : String) : IO (Option ByteArray) := do
  try return some (← IO.FS.readBinFile path) catch _ => return none

def parent (path : String) : String :=
  String.ofList ((path.toList.reverse.dropWhile (· ≠ '/')).drop 1).reverse

def writeFile (path : String) (bytes : ByteArray) : IO Unit := do
  IO.FS.createDirAll (parent path)
  IO.FS.writeBinFile path bytes

def carryOut : Action → IO (List Event)
  | .call c => return [.reply (Id.run (c.perform Server.unreachable))]
  | .schedule route after => do
    IO.sleep (UInt32.ofNat after)
    return [.navigate route]
  | .write path bytes => do
    writeFile path ⟨bytes.toArray⟩
    return []
  | .startCountdown | .stopCountdown | .view _ | .entered _ => return []

partial def take (settings : Settings) (a : App) (step : App.Step) : IO App := do
  let (a, actions) := step a
  let mut a := a
  for action in actions do
    for event in ← carryOut action do
      a ← take settings a (App.handle ⟨← now, false⟩ settings event)
  return a

def display (a : App) : IO Unit := do
  for row in (Panel.draw a screenWidth screenHeight).pieces do
    IO.println (String.join (row.map fun piece => String.ofList piece.1))

partial def play (settings : Settings) (a : App) : IO Unit := do
  display a
  let line ← (← IO.getStdin).getLine
  let mut a := Panel.drawn a screenWidth screenHeight
  for c in line.toList do
    let code := if c = '\n' then .enter else .char c
    a ← take settings a (App.handle ⟨← now, false⟩ settings (.key { code }))
  if !line.isEmpty && !a.quit then play settings a

def start (choices : CommandLine.Choices) : IO Unit := do
  let e ← environment
  let config := choices.over (Config.load (← readFile? e.configFile))
  let (_, unread) := Logging.choose (← IO.getEnv "RUST_LOG") config.logFilter
  for text in unread do
    IO.eprintln (Logging.warning text "unexpected form")
  if choices.saveConfig then writeFile e.configFile config.text.toUTF8
  let settings : Settings := { hintDirectory := e.hintDirectory }
  play settings (← take settings {} (App.navigate choices.route))

end GuessClient.Program

open GuessClient GuessClient.CommandLine in
def main (arguments : List String) : IO UInt32 := do
  let opening := openingOf arguments (← (← IO.getStdin).isTty)
  match opening with
  | .stopped .help => IO.println helpText
  | .stopped .version => IO.println versionText
  | .stopped (.fault f) => IO.eprintln s!"error: {f.message}"
  | .noTerminal => IO.eprintln "error: stdin must be a tty"
  | .play choices => Program.start choices
  return (opening.exit?.map fun e => e.1.toUInt32).getD 0
