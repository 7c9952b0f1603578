import GuessClient.Proofs.Screen

/-!
Closed runs that keep a journal. A call keeps its number, the place where it stands among all calls
made so far, and it keeps the visit of a screen in which it was made. A move names the call that is
answered and the way that is gone by these numbers.
-/

namespace GuessClient

structure Made where
  visit : Nat
  call : Call

/-- A move of a run: what there was before it, the event that it brought and what came of that. -/
structure Line where
  around : Surroundings
  move : Move
  routes : List Route
  calls : List Made
  ways : List Route
  before : App
  event : Option Event
  after : App
  actions : List Action

structure Journal where
  app : App := {}
  routes : List Route := []
  calls : List Made := []
  ways : List Route := []
  answered : List Nat := []
  gone : List Nat := []
  lines : List Line := []

def Call.route : Call → Route
  | .start => .home
  | .alive id => .session id
  | .picture id => .session id
  | .command id _ => .session id
  | .result id => .result id

namespace Journal

def note (j : Journal) : Action → Journal
  | .call c => { j with calls := j.calls ++ [⟨j.routes.length, c⟩] }
  | .schedule route _ => { j with ways := j.ways ++ [route] }
  | .entered route => { j with routes := j.routes ++ [route] }
  | _ => j

def Out (j : Journal) (n : Nat) (c : Made) : Prop := j.calls[n]? = some c ∧ n ∉ j.answered

def Ahead (j : Journal) (n : Nat) (route : Route) : Prop := j.ways[n]? = some route ∧ n ∉ j.gone

def event? (j : Journal) : Move → Option Event
  | .key k => some (.key k)
  | .resize => some .resize
  | .tick => some .tick
  | .countdown => some .countdown
  | .answer n outcomes =>
    if n ∈ j.answered then none else j.calls[n]?.map fun c => .reply (c.call.reply outcomes)
  | .leave n => if n ∈ j.gone then none else j.ways[n]?.map .navigate
  | .draw _ => none

def step? (settings : Settings) (around : Surroundings) (j : Journal) : Move → Option App.Step
  | .draw limit => some (.change (App.setScrollLimit limit))
  | m => (j.event? m).map (App.handle around settings)

def strike (j : Journal) : Move → Journal
  | .answer n _ => { j with answered := n :: j.answered }
  | .leave n => { j with gone := n :: j.gone }
  | _ => j

def line (around : Surroundings) (m : Move) (r : App × List Action) (j : Journal) : Line :=
  { around, move := m, routes := j.routes, calls := j.calls, ways := j.ways, before := j.app,
    event := j.event? m, after := r.1, actions := r.2 }

def write (around : Surroundings) (m : Move) (r : App × List Action) (j : Journal) : Journal :=
  r.2.foldl note { j.strike m with app := r.1, lines := j.lines ++ [j.line around m r] }

def move (settings : Settings) (around : Surroundings) (m : Move) (j : Journal) : Journal :=
  match j.step? settings around m with
  | none => j
  | some step => j.write around m (step j.app)

def opened (route : Route) : Journal :=
  let (app, actions) := App.navigate route {}
  actions.foldl note { app }

def run (settings : Settings) (moves : List (Surroundings × Move)) (j : Journal) : Journal :=
  moves.foldl (fun j m => j.move settings m.1 m.2) j

theorem run_snoc (settings : Settings) (moves : List (Surroundings × Move))
    (m : Surroundings × Move) (j : Journal) :
    run settings (moves ++ [m]) j = (run settings moves j).move settings m.1 m.2 := by
  simp [run]

theorem noted_quiet {actions : List Action} (quiet : actions.filterMap Action.route? = [])
    (j : Journal) :
    actions.foldl note j =
      { j with
        calls := j.calls ++ (actions.filterMap Action.call?).map (Made.mk j.routes.length)
        ways := j.ways ++ actions.filterMap Action.way? } := by
  induction actions generalizing j with
  | nil => simp
  | cons action rest ih =>
    cases action with
    | entered => cases quiet
    | _ =>
      rw [List.foldl_cons, ih quiet]
      simp [note, Action.call?, Action.way?, List.filterMap_cons]

theorem noted_navigate (route : Route) (a : App) (j : Journal) :
    (App.navigate route a).2.foldl note j =
      { j with
        routes := j.routes ++ [route]
        calls := j.calls ++ (Stage.arrivalCalls route).map (Made.mk (j.routes.length + 1)) } := by
  cases route <;> cases counting : a.counting <;>
    simp [App.navigate, counting, note, Stage.arrivalCalls]

theorem navigate_actions (route : Route) (a : App) :
    (App.navigate route a).2.filterMap Action.call? = Stage.arrivalCalls route ∧
      (App.navigate route a).2.filterMap Action.way? = [] := by
  cases route <;> cases counting : a.counting <;> simp only [App.navigate, counting] <;>
    exact ⟨rfl, rfl⟩

/-- The screens that are entered on the way from one screen to the next. -/
inductive Enters (event : Event) (here next : Route) : List Route → Prop where
  | stays (same : next = here) : Enters event here next []
  | goes (target : event.Targets (some here) next) : Enters event here next [next]

theorem noted_moved {event : Event} {a : App} {r : App × List Action} {here next : Route}
    (moved : App.Moved (event.Targets a.route?) a r) (before : a.route? = some here)
    (after : r.1.route? = some next) :
    ∃ entered, Enters event here next entered ∧ ∀ j : Journal,
      r.2.foldl note j =
        { j with
          routes := j.routes ++ entered
          calls := j.calls ++
            (r.2.filterMap Action.call?).map (Made.mk (j.routes ++ entered).length)
          ways := j.ways ++ r.2.filterMap Action.way? } := by
  cases moved with
  | stays quiet same =>
    rw [before, after] at same
    refine ⟨[], .stays (Option.some.inj same), fun j => ?_⟩
    simp [noted_quiet quiet]
  | goes route rest target actions quiet there =>
    obtain rfl : next = route := Option.some.inj (after.symm.trans there)
    rw [before] at target
    refine ⟨[next], .goes target, fun j => ?_⟩
    -- the screen is entered first, so the calls belong to it
    obtain ⟨calls, ways⟩ := navigate_actions next a
    simp only [actions, List.foldl_append, noted_navigate, noted_quiet quiet,
      List.filterMap_append, calls, ways]
    simp

/-- All that a move can make of a journal. -/
inductive Advance (settings : Settings) (around : Surroundings) (m : Move) (j : Journal)
    (stage : Stage) : Journal → Stage → Prop where
  | silent : Advance settings around m j stage j stage
  | drawn (limit : Nat) (draws : m = .draw limit) :
      Advance settings around m j stage
        { j with
          app := j.app.setScrollLimit limit
          lines := j.lines ++ [j.line around m (j.app.setScrollLimit limit, [])] } stage
  | passed {event : Event} {next : Stage} {entered : List Route} {r : App × List Action}
      (brings : j.event? m = some event) (handled : r = App.handle around settings event j.app)
      (there : r.1.At next)
      (passage : Passage settings around.now event stage next (r.2.filterMap Action.call?)
        (r.2.filterMap Action.way?))
      (enters : Enters event stage.route next.route entered) :
      Advance settings around m j stage
        { app := r.1
          routes := j.routes ++ entered
          calls := j.calls ++
            (r.2.filterMap Action.call?).map (Made.mk (j.routes ++ entered).length)
          ways := j.ways ++ r.2.filterMap Action.way?
          answered := (j.strike m).answered
          gone := (j.strike m).gone
          lines := j.lines ++ [j.line around m r] } next

theorem strike_keeps (j : Journal) (m : Move) :
    (j.strike m).routes = j.routes ∧ (j.strike m).calls = j.calls ∧
      (j.strike m).ways = j.ways := by
  cases m <;> exact ⟨rfl, rfl, rfl⟩

theorem move_advances {j : Journal} {stage : Stage} (there : j.app.At stage) (sound : stage.Sound)
    (settings : Settings) (around : Surroundings) (m : Move) :
    ∃ next, Advance settings around m j stage (j.move settings around m) next := by
  have handled (event : Event) (brings : j.event? m = some event)
      (steps : j.step? settings around m = (j.event? m).map (App.handle around settings)) :
      ∃ next, Advance settings around m j stage (j.move settings around m) next := by
    let r := App.handle around settings event j.app
    have leads : App.Leads settings around.now event stage r := App.handle_leads there sound event
    obtain ⟨next, there', passage⟩ := leads
    have moved := App.handle_moved there around settings event
    obtain ⟨entered, enters, noted⟩ := noted_moved moved (App.at_route there) (App.at_route there')
    obtain ⟨routes, calls, ways⟩ := strike_keeps j m
    have moves : j.move settings around m = j.write around m r := by
      simp [move, steps, brings, r]
    have written := Advance.passed brings rfl there' passage enters
    refine ⟨next, ?_⟩
    rw [moves, write, noted]
    simpa only [routes, calls, ways] using written
  cases brings : j.event? m with
  | some event =>
    apply handled event brings
    cases m <;> first | rfl | cases brings
  | none =>
    refine ⟨stage, ?_⟩
    cases m with
    | draw limit => exact .drawn limit rfl
    | key | resize | tick | countdown => cases brings
    | answer n outcomes =>
      have same : j.move settings around (.answer n outcomes) = j := by
        simp [move, step?, brings]
      rw [same]
      exact .silent
    | leave n =>
      have same : j.move settings around (.leave n) = j := by
        simp [move, step?, brings]
      rw [same]
      exact .silent

end Journal

end GuessClient
