import GuessClient.App
import GuessClient.Server.Script

/-!
The application with a scripted server, in a time that moves only when told to. What the application
has set going is kept as tasks; a task that is due posts an event, and events are handled in the order in
which they were posted.
-/

namespace GuessClient

inductive Task where
  | call (c : Call)
  | pulse (due : Nat)
  | navigation (route : Route) (due : Nat)

def Task.isPulse : Task → Bool
  | .pulse _ => true
  | _ => false

structure Simulation where
  settings : Settings
  blocked : Bool
  app : App := {}
  performance : Performance
  clock : Float
  time : Nat := 0
  tasks : List Task := []
  queue : List Event := []
  handled : List Event := []

namespace Simulation

def counting (w : Simulation) : Bool := w.app.counting && w.tasks.any Task.isPulse

def carryOut (w : Simulation) : Action → Simulation
  | .call c => { w with tasks := w.tasks ++ [.call c] }
  | .startCountdown =>
    { w with tasks := w.tasks.filter (!·.isPulse) ++ [.pulse w.time] }
  | .stopCountdown => { w with tasks := w.tasks.filter (!·.isPulse) }
  | .schedule route after => { w with tasks := w.tasks ++ [.navigation route (w.time + after)] }
  | .write .. | .view _ | .entered _ => w

def act (w : Simulation) (step : App.Step) : Simulation :=
  let (app, actions) := step w.app
  actions.foldl carryOut { w with app }

def handle (w : Simulation) (e : Event) : Simulation :=
  w.act (App.handle ⟨w.clock, w.blocked⟩ w.settings e)

/-- The next time of a pulse that was due: whole periods later, those missed left out. -/
def nextPulse (period due now : Nat) : Nat := due + period * ((now - due) / period + 1)

/-- A task does what is due. A countdown without a period breaks down. -/
def runTask (w : Simulation) (task : Task) : Simulation :=
  match task with
  | .call c =>
    let (reply, performance) := c.perform Script.server w.performance
    { w with performance, queue := w.queue ++ [.reply reply] }
  | .pulse due =>
    let period := w.settings.countdownPeriod
    if period = 0 then w
    else if due ≤ w.time then
      { w with
        queue := w.queue ++ [.countdown]
        tasks := w.tasks ++ [.pulse (nextPulse period due w.time)] }
    else { w with tasks := w.tasks ++ [task] }
  | .navigation route due =>
    if due ≤ w.time then { w with queue := w.queue ++ [.navigate route] }
    else { w with tasks := w.tasks ++ [task] }

def runTasks (w : Simulation) : Simulation := w.tasks.foldl runTask { w with tasks := [] }

def takeEvent (w : Simulation) : Simulation :=
  match w.queue with
  | [] => { w.handle .tick with handled := w.handled ++ [.tick] }
  | e :: rest => { w with queue := rest, handled := w.handled ++ [e] }.handle e

/-- Events are handled until the queue is empty; after each, tasks do what is due. -/
def drainWith (w : Simulation) : Nat → Simulation
  | 0 => w
  | fuel + 1 => if w.queue.isEmpty then w else w.takeEvent.runTasks.drainWith fuel

/-- An event leads to fewer than thirty others before time has to move. -/
def drain (w : Simulation) : Simulation :=
  w.drainWith (30 * (w.queue.length + w.tasks.length + 1))

def settle (w : Simulation) (oneByOne : Bool) : Simulation :=
  if oneByOne then w.runTasks else w.runTasks.drain

def quantum : Nat := 250

def tick (w : Simulation) (oneByOne : Bool) : Simulation :=
  { w with time := w.time + quantum, clock := w.clock + 0.25 }.settle oneByOne

def elapse (w : Simulation) (oneByOne : Bool) : Nat → Simulation
  | 0 => w
  | n + 1 => (w.tick oneByOne).elapse oneByOne n

def typeText (w : Simulation) (text : String) : Simulation :=
  text.toList.foldl (fun w c => w.handle (.key { code := .char c })) w

end Simulation

end GuessClient
