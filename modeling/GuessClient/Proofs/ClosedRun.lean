import GuessClient.Proofs.Stage

/-!
Closed runs: the application from its first screen on, where each call it makes is answered at
most once, in any order and with any outcome, each way it sets is gone at most once, at any time,
and the player, the clock and the screen do as they like.
-/

namespace GuessClient

structure Sent (α : Type) where
  sender : Option Nat
  content : α

structure World where
  app : App := {}
  /-- The names of the sessions that have come on screen. The number of a session is its place in
  this list, counted from one, so that the session on screen has the length of the list. -/
  visited : List String := []
  calls : List (Sent Call) := []
  ways : List (Sent Route) := []

structure Outcomes where
  started : Outcome Started := .error .transport
  alive : Outcome Unit := .error .transport
  picture : Outcome Picture := .error .transport
  command : Outcome Response := .error .transport
  result : Outcome GameResult := .error .transport

def Call.reply (outcomes : Outcomes) : Call → Reply
  | .start => .started outcomes.started
  | .alive id => .alive id outcomes.alive
  | .picture id => .picture id outcomes.picture
  | .command id ticket => .command id ticket outcomes.command
  | .result id => .result id outcomes.result

inductive Move where
  | key (k : Key)
  | resize
  | tick
  | countdown
  | answer (place : Nat) (outcomes : Outcomes)
  | leave (place : Nat)
  | draw (limit : Nat)

namespace World

def out (w : World) : List Call := w.calls.map Sent.content

def onScreen (w : World) : Option Nat := w.app.session.map fun _ => w.visited.length

def visitedAfter (visited : List String) : Option Session → Option Session → List String
  | none, some s => visited ++ [s.id]
  | _, _ => visited

def record (app : App) (calls : List Call) (ways : List Route) (w : World) : World :=
  let visited := visitedAfter w.visited w.app.session app.session
  let sender := app.session.map fun _ => visited.length
  { app, visited
    calls := w.calls ++ calls.map (Sent.mk sender)
    ways := w.ways ++ ways.map (Sent.mk sender) }

def act (step : App.Step) (w : World) : World :=
  let (app, actions) := step w.app
  w.record app (actions.filterMap Action.call?) (actions.filterMap Action.way?)

/-- A call or a way that is not there leads to nothing. -/
def move (settings : Settings) (around : Surroundings) (m : Move) (w : World) : World :=
  match m with
  | .key k => w.act (App.handle around settings (.key k))
  | .resize => w.act (App.handle around settings .resize)
  | .tick => w.act (App.handle around settings .tick)
  | .countdown => w.act (App.handle around settings .countdown)
  | .answer place outcomes =>
    match w.calls[place]? with
    | none => w
    | some c =>
      { w with calls := w.calls.eraseIdx place }.act
        (App.handle around settings (.reply (c.content.reply outcomes)))
  | .leave place =>
    match w.ways[place]? with
    | none => w
    | some way =>
      { w with ways := w.ways.eraseIdx place }.act
        (App.handle around settings (.navigate way.content))
  | .draw limit => { w with app := w.app.setScrollLimit limit }

def opened (route : Route) : World := ({} : World).act (App.navigate route)

def run (settings : Settings) (moves : List (Surroundings × Move)) (w : World) : World :=
  moves.foldl (fun w m => w.move settings m.1 m.2) w

def Reached (settings : Settings) (route : Route) (w : World) : Prop :=
  ∃ moves, run settings moves (opened route) = w

theorem reached_run {settings : Settings} {route : Route} {w : World}
    (reached : Reached settings route w) (later : List (Surroundings × Move)) :
    Reached settings route (run settings later w) := by
  obtain ⟨moves, rfl⟩ := reached
  exact ⟨moves ++ later, List.foldl_append⟩

end World

inductive Call.AnsweredBy : Call → Reply → Prop where
  | start (outcome : Outcome Started) : AnsweredBy .start (.started outcome)
  | alive (id : String) (outcome : Outcome Unit) : AnsweredBy (.alive id) (.alive id outcome)
  | picture (id : String) (outcome : Outcome Picture) :
      AnsweredBy (.picture id) (.picture id outcome)
  | command (id : String) (ticket : Ticket) (outcome : Outcome Response) :
      AnsweredBy (.command id ticket) (.command id ticket outcome)
  | result (id : String) (outcome : Outcome GameResult) :
      AnsweredBy (.result id) (.result id outcome)

theorem reply_answers (outcomes : Outcomes) (c : Call) : c.AnsweredBy (c.reply outcomes) := by
  cases c <;> constructor

namespace World

inductive Comes (w : World) : Event → List (Sent Call) → List (Sent Route) → Prop where
  | key (k : Key) : Comes w (.key k) w.calls w.ways
  | resize : Comes w .resize w.calls w.ways
  | tick : Comes w .tick w.calls w.ways
  | countdown : Comes w .countdown w.calls w.ways
  | reply {before after : List (Sent Call)} {c : Sent Call} (split : w.calls = before ++ c :: after)
      {r : Reply} (answers : c.content.AnsweredBy r) :
      Comes w (.reply r) (before ++ after) w.ways
  | navigate {before after : List (Sent Route)} {way : Sent Route}
      (split : w.ways = before ++ way :: after) :
      Comes w (.navigate way.content) w.calls (before ++ after)

theorem split_at {l : List α} {place : Nat} {x : α} (there : l[place]? = some x) :
    ∃ before after, l = before ++ x :: after ∧ l.eraseIdx place = before ++ after := by
  obtain ⟨bound, rfl⟩ := List.getElem?_eq_some_iff.mp there
  exact ⟨l.take place, l.drop (place + 1), by simp, List.eraseIdx_eq_take_drop_succ l place⟩

/-- A move brings an event, or it leaves all but the limit of scrolling as it is. Only a move that
takes a way brings one. -/
theorem move_cases (settings : Settings) (around : Surroundings) (m : Move) (w : World) :
    (∃ limit, w.move settings around m = { w with app := w.app.setScrollLimit limit }) ∨
      ∃ event calls ways, Comes w event calls ways ∧
        (∀ route, event = .navigate route → ∃ place, m = .leave place ∧ w.ways[place]? ≠ none) ∧
        w.move settings around m =
          { w with calls, ways }.act (App.handle around settings event) := by
  cases m with
  | key k => exact .inr ⟨_, _, _, .key k, fun _ => nofun, rfl⟩
  | resize => exact .inr ⟨_, _, _, .resize, fun _ => nofun, rfl⟩
  | tick => exact .inr ⟨_, _, _, .tick, fun _ => nofun, rfl⟩
  | countdown => exact .inr ⟨_, _, _, .countdown, fun _ => nofun, rfl⟩
  | answer place outcomes =>
    cases there : w.calls[place]? with
    | none => exact .inl ⟨w.app.scrollLimit, by simp [move, there, App.setScrollLimit]⟩
    | some c =>
      obtain ⟨before, after, split, rest⟩ := split_at there
      refine .inr ⟨_, _, _, .reply split (reply_answers outcomes c.content), fun _ => nofun, ?_⟩
      simp [move, there, rest]
  | leave place =>
    cases there : w.ways[place]? with
    | none => exact .inl ⟨w.app.scrollLimit, by simp [move, there, App.setScrollLimit]⟩
    | some way =>
      obtain ⟨before, after, split, rest⟩ := split_at there
      refine .inr ⟨_, _, _, .navigate split, fun _ _ => ⟨place, rfl, by simp [there]⟩, ?_⟩
      simp [move, there, rest]
  | draw limit => exact .inl ⟨limit, rfl⟩

theorem reached_induction (Holds : World → Prop) {settings : Settings} {route : Route}
    (first : Holds (opened route))
    (next : ∀ w around m, Holds w → Holds (w.move settings around m))
    {w : World} (reached : Reached settings route w) : Holds w := by
  obtain ⟨moves, rfl⟩ := reached
  suffices all : ∀ moves w, Holds w → Holds (run settings moves w) from all moves _ first
  intro moves
  induction moves with
  | nil => exact fun _ holds => holds
  | cons m rest ih => exact fun w holds => ih _ (next w m.1 m.2 holds)

end World

end GuessClient
