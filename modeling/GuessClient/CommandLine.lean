import GuessClient.Config
import GuessClient.Decimal.Reading
import GuessClient.Event

/-!
The command line. Options stand in any order, each at most once. The value of an option is attached to
it or is the argument after it, and is looked at when the next option comes, or at the end.
-/

namespace GuessClient.CommandLine

inductive ValueOption where
  | server
  | timeout
  | session
  | result
  deriving DecidableEq, Repr

inductive Switch where
  | saveConfig
  | help
  | version
  deriving DecidableEq, Repr

inductive Meaning where
  | option (o : ValueOption)
  | switch (s : Switch)
  deriving DecidableEq, Repr

def ofLongName? : String → Option Meaning
  | "server" => some (.option .server)
  | "timeout" => some (.option .timeout)
  | "session" => some (.option .session)
  | "result" => some (.option .result)
  | "save-config" => some (.switch .saveConfig)
  | "help" => some (.switch .help)
  | "version" => some (.switch .version)
  | _ => none

def ofShortName? : Char → Option Meaning
  | 's' => some (.option .server)
  | 't' => some (.option .timeout)
  | 'h' => some (.switch .help)
  | 'V' => some (.switch .version)
  | _ => none

structure Choices where
  server : Option String := none
  timeout : Option UInt64 := none
  session : Option String := none
  result : Option String := none
  saveConfig : Bool := false

inductive Fault where
  | conflict
  | missingValue
  | badValue
  | unknown
  | unwantedValue
  deriving DecidableEq, Repr

def Fault.message : Fault → String
  | .conflict => "an option is there twice, or together with one that excludes it"
  | .missingValue => "an option has no value"
  | .badValue => "the value of an option is not a number in range"
  | .unknown => "unexpected argument"
  | .unwantedValue => "an option that has no value was given one"

inductive Stop where
  | help
  | version
  | fault (f : Fault)
  deriving DecidableEq, Repr

structure Progress where
  choices : Choices := {}
  /-- The option last met with its value as a separate argument, which may still be missing. -/
  pending : Option (ValueOption × Option String) := none
  closed : Bool := false

def chooseOnce (before : Option α) (value : Except Stop α) : Except Stop (Option α) :=
  if before.isSome then .error (.fault .conflict) else value.map some

def Choices.choose (c : Choices) (value : String) : ValueOption → Except Stop Choices
  | .server => return { c with server := ← chooseOnce c.server (.ok value) }
  | .timeout => do
    let count := match Decimal.readCount? value.toList with
      | some n => .ok n
      | none => .error (.fault .badValue)
    return { c with timeout := ← chooseOnce c.timeout count }
  | .session => return { c with session := ← chooseOnce c.session (.ok value) }
  | .result => return { c with result := ← chooseOnce c.result (.ok value) }

/-- Looks at the value of the option last met. -/
def Progress.settle (p : Progress) : Except Stop Progress :=
  match p.pending with
  | none => .ok p
  | some (_, none) => .error (.fault .missingValue)
  | some (o, some value) => return { p with choices := ← p.choices.choose value o, pending := none }

def Progress.option (p : Progress) (o : ValueOption) (attached : Option String) :
    Except Stop Progress := do
  let p ← p.settle
  match attached with
  | some value => return { p with choices := ← p.choices.choose value o }
  | none => return { p with pending := some (o, none) }

def Progress.switch (p : Progress) (s : Switch) : Except Stop Progress := do
  let p ← p.settle
  match s with
  | .help => throw .help
  | .version => throw .version
  | .saveConfig =>
    if p.choices.saveConfig then throw (.fault .conflict)
    return { p with choices := { p.choices with saveConfig := true } }

def splitAtEquals (text : List Char) : String × Option String :=
  let name := text.takeWhile (· ≠ '=')
  match text.dropWhile (· ≠ '=') with
  | [] => (String.ofList name, none)
  | _ :: value => (String.ofList name, some (String.ofList value))

def Progress.long (p : Progress) (text : List Char) : Except Stop Progress :=
  let (name, attached) := splitAtEquals text
  match ofLongName? name with
  | some (.option o) => p.option o attached
  | some (.switch s) => if attached.isSome then .error (.fault .unwantedValue) else p.switch s
  | none => .error (.fault .unknown)

def attachedValue : List Char → Option String
  | [] => none
  | '=' :: value => some (String.ofList value)
  | value => some (String.ofList value)

/-- An argument that starts with one hyphen, without it: a row of short names, the last one perhaps
with its value. -/
def Progress.short (p : Progress) : List Char → Except Stop Progress
  | [] => .ok p
  | c :: rest =>
    match ofShortName? c with
    | some (.option o) => p.option o (attachedValue rest)
    | some (.switch s) => do (← p.switch s).short rest
    | none => .error (.fault .unknown)

def Progress.plain (p : Progress) (argument : String) : Except Stop Progress :=
  match p.pending with
  | some (o, none) => .ok { p with pending := some (o, some argument) }
  | _ => .error (.fault .unknown)

def Progress.step (p : Progress) (argument : String) : Except Stop Progress :=
  if p.closed then .error (.fault .unknown)
  else
    match argument.toList with
    | ['-', '-'] => .ok { p with closed := true }
    | '-' :: '-' :: text => p.long text
    | ['-'] => p.plain argument
    | '-' :: text => p.short text
    | _ => p.plain argument

/-- Reads all arguments. A session and a result cannot both be asked for. -/
def read (arguments : List String) : Except Stop Choices := do
  let p ← arguments.foldlM Progress.step {}
  let p ← p.settle
  if p.choices.session.isSome && p.choices.result.isSome then throw (.fault .conflict)
  return p.choices

def Choices.over (c : Choices) (config : Config) : Config :=
  { config with
    server := c.server.getD config.server
    timeout := c.timeout.getD config.timeout }

def Choices.route (c : Choices) : Route :=
  match c.session, c.result with
  | some id, _ => .session id
  | none, some id => .result id
  | none, none => .home

def versionText : String := "funguessr 0.1.0"

def helpText : String :=
  "Probe a hidden function f(x) by substituting values, question an AI analyst, and submit your formula before the clock runs out.

Usage: funguessr [OPTIONS]

Options:
  -s, --server <SERVER>    base URL of the game server
  -t, --timeout <TIMEOUT>  request timeout in seconds
      --session <SESSION>  join an existing session instead of starting at the home screen
      --result <RESULT>    show the result of a finished session
      --save-config        persist the effective server and timeout settings to the config file
  -h, --help               Print help
  -V, --version            Print version"

inductive Opening where
  | stopped (why : Stop)
  | noTerminal
  | play (choices : Choices)

def openingOf (arguments : List String) (terminal : Bool) : Opening :=
  match read arguments with
  | .error why => .stopped why
  | .ok choices => if terminal then .play choices else .noTerminal

/-- The exit code of a program that does not go on, and whether what it says is an answer rather than
a complaint. -/
def Opening.exit? : Opening → Option (UInt8 × Bool)
  | .stopped (.fault _) => some (2, false)
  | .stopped _ => some (0, true)
  | .noTerminal => some (2, false)
  | .play _ => none

end GuessClient.CommandLine
