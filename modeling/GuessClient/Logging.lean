import GuessClient.Decimal.Reading
import GuessClient.Json.Writer
import GuessClient.Text.White

/-!
The log of the program. A filter is a list of directives; for an event the directive with the longest
target that the event's target starts with says up to which level it is written.
-/

namespace GuessClient.Logging

inductive Level where
  | error
  | warn
  | info
  | debug
  | trace
  deriving DecidableEq, Repr

def Level.word : Level → String
  | .error => "ERROR"
  | .warn => "WARN"
  | .info => "INFO"
  | .debug => "DEBUG"
  | .trace => "TRACE"

def Level.rank : Level → Nat
  | .error => 1
  | .warn => 2
  | .info => 3
  | .debug => 4
  | .trace => 5

structure Directive where
  target : String
  rank : Nat

def rank? (text : List Char) : Option Nat :=
  match Decimal.readCount? text with
  | some n => if n ≤ 5 then some n.toNat else none
  | none =>
    match String.ofList (text.map Char.toLower) with
    | "off" => some 0
    | "error" => some 1
    | "warn" => some 2
    | "info" => some 3
    | "debug" => some 4
    | "trace" => some 5
    | _ => none

/-- Whether a directive can start with a character: a letter, a digit or one of three signs. All that is
beyond ASCII counts as a letter. -/
def startsDirective (c : Char) : Bool :=
  c.isAlphanum || c = '-' || c = ':' || c = '_' || 0x80 ≤ c.toNat

/-- A level for all targets, a target alone, or a target with a level. A target alone and one with an
empty level are written in full. White space belongs to the target; a target with a level cannot start
with it. -/
def directive? (text : List Char) : Option Directive :=
  if !(Text.trimChars text).head?.any startsDirective then none
  else
    match text.dropWhile (· ≠ '=') with
    | [] =>
      match rank? text with
      | some rank => some ⟨"", rank⟩
      | none => some ⟨String.ofList text, 5⟩
    | _ :: level =>
      let target := text.takeWhile (· ≠ '=')
      if target.head?.any Text.isWhite then none
      else if level.isEmpty then some ⟨String.ofList target, 5⟩
      else (rank? level).map (⟨String.ofList target, ·⟩)

abbrev Filter := List Directive

def commaParts (part : List Char) : List Char → List (List Char)
  | [] => [part.reverse]
  | ',' :: rest => part.reverse :: commaParts [] rest
  | c :: rest => commaParts (c :: part) rest

def Filter.read? (text : String) : Option Filter :=
  if text.isEmpty then some [] else (commaParts [] text.toList).mapM directive?

def Directive.applies (d : Directive) (target : String) : Bool :=
  d.target.toList.isPrefixOf target.toList

/-- The directive that decides for a target: the longest, and of equals the last. -/
def Filter.deciding? (f : Filter) (target : String) : Option Directive :=
  (f.filter (·.applies target)).foldl
    (fun best d =>
      match best with
      | some b => if d.target.length < b.target.length then some b else some d
      | none => some d)
    none

def Filter.allows (f : Filter) (level : Level) (target : String) : Bool :=
  (f.deciding? target).any (level.rank ≤ ·.rank)

structure Event where
  level : Level
  target : String
  message : String
  fields : List (String × Json.Value) := []

def Event.line (e : Event) : String :=
  e.fields.foldl (fun line (name, v) => s!"{line} {name}={v.compact}")
    s!"{e.level.word} {e.target}: {e.message}"

def fallback : String := "info"

def warning (text reason : String) : String :=
  s!"WARN: log_filter '{text}' is not a valid tracing filter ({reason}); falling back to '{fallback}'"

/-- The filter to use: that of the environment if it can be read, then that of the settings, and in
place of one that cannot be read the fallback. Also the text of the filter to warn about. -/
def choose (environment : Option String) (setting : String) : Filter × Option String :=
  match environment.bind Filter.read? with
  | some f => (f, none)
  | none =>
    match Filter.read? setting with
    | some f => (f, none)
    | none => ((Filter.read? fallback).getD [], some setting)

def lines (f : Filter) (events : List Event) : List String :=
  (events.filter fun e => f.allows e.level e.target).map Event.line

end GuessClient.Logging
