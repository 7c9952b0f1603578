import GuessClient.Proofs.Settled

/-!
Which screen the application is on and what may be there. A step stays on its screen, or it goes to
another one, and then all that belonged to the screen before is dropped first. So whatever is done
to the application, with forged replies and ways that nobody has set among it, its parts agree on
the screen that it is on.
-/

namespace GuessClient

def Action.route? : Action → Option Route
  | .entered route => some route
  | _ => none

def Stage.route : Stage → Route
  | .home _ => .home
  | .entering id => .session id
  | .playing s => .session s.id
  | .result page => .result page.session

def Event.Targets (here : Option Route) : Event → Route → Prop
  | .navigate route, target => target = route
  | .reply (.started (.ok x)), target => target = .session x.session ∧ here = some .home
  | .reply (.alive id (.error _)), target => target = .home ∧ here = some (.session id)
  | .reply (.result id (.error _)), target => target = .home ∧ here = some (.result id)
  | .key _, target => target = .home ∧ here ≠ some .home
  | _, _ => False

theorem targets_away {here : Option Route} {event : Event} {target : Route}
    (targets : event.Targets here target) (other : ∀ route, event ≠ .navigate route) :
    here ≠ some target := by
  unfold Event.Targets at targets
  split at targets
  · exact absurd rfl (other _)
  all_goals simp_all

namespace App

def route? (a : App) : Option Route :=
  match a.screen with
  | .home => some .home
  | .session => a.sessionId.map .session
  | .result => a.result.map fun page => .result page.session

/-- Nothing is entered, scrolled or noted where no session is on screen. -/
def Tidy (a : App) : Prop :=
  a.session = none → a.input = "" ∧ a.scroll = 0 ∧ a.notice = none

inductive Moved (targets : Route → Prop) (a : App) (r : App × List Action) : Prop where
  | stays (quiet : r.2.filterMap Action.route? = []) (same : r.1.route? = a.route?)
      (tidy : a.Tidy → r.1.Tidy)
  | goes (route : Route) (rest : List Action) (target : targets route)
      (actions : r.2 = (navigate route a).2 ++ rest) (quiet : rest.filterMap Action.route? = [])
      (there : r.1.route? = some route) (tidy : r.1.Tidy)

theorem at_route {a : App} {stage : Stage} (there : a.At stage) : a.route? = some stage.route := by
  cases stage with
  | home => simp [route?, Stage.route, there.1]
  | entering => simp [route?, Stage.route, there.1, there.2.1]
  | playing => simp [route?, Stage.route, there.1, there.2.1]
  | result => simp [route?, Stage.route, there.1, there.2.2.2.1]

section

variable {targets : Route → Prop} {a : App}

theorem moved_not : Moved targets a (a, []) := .stays rfl rfl fun tidy => tidy

theorem moved_shown {b : App} {actions : List Action} (quiet : actions.filterMap Action.route? = [])
    (same : b.route? = a.route?) (shown : b.session.isSome = true) :
    Moved targets a (b, actions) := by
  refine .stays quiet same fun _ hidden => ?_
  change b.session = none at hidden
  simp [hidden] at shown

theorem moved_navigate {route : Route} (target : targets route) :
    Moved targets a (navigate route a) := by
  refine .goes route [] target (List.append_nil _).symm rfl ?_ ?_
  · cases route <;> rfl
  · intro _
    cases route <;> exact ⟨rfl, rfl, rfl⟩

theorem route_home {a : App} : a.route? = some .home ↔ a.screen = .home := by
  unfold route?
  cases a.screen <;> simp

theorem moved_start (target : a.screen ≠ .home → targets .home) :
    Moved targets a (startGame a) := by
  by_cases home : a.screen = .home
  · simp only [startGame, home, ↓reduceIte, requestStart]
    split
    · exact moved_not
    · exact .stays rfl (by simp [route?, home]) fun tidy => tidy
  · simp only [startGame, home, ↓reduceIte]
    exact .goes .home [.call .start] (target home) rfl rfl rfl fun _ => ⟨rfl, rfl, rfl⟩

theorem moved_home (target : targets .home) (notice : String) :
    Moved targets a (goHome notice a) :=
  .goes .home [] target rfl rfl rfl fun _ => ⟨rfl, rfl, rfl⟩

theorem moved_session {b : App} {s : Session} (session : b.session = some s)
    (same : b.route? = a.route?) (step : Session.Step) : Moved targets a (inSession step b) := by
  simp only [inSession, session]
  have quiet : ((step s).2.filterMap fun _ : Effect => (none : Option Route)) = [] := by simp
  refine moved_shown ?_ ?_ ?_
  · rw [← quiet]
    apply carried_actions
    intro effect c
    cases effect with
    | stopCountdown => cases h : c.counting <;> simp [carryOut, stopCountdown, Action.route?, h]
    | _ => rfl
  · rw [carried_app, ← same]
    rfl
  · rw [carried_app]
    rfl

theorem moved_in_session (step : Session.Step) : Moved targets a (inSession step a) := by
  cases session : a.session with
  | none =>
    simp only [inSession, session]
    exact moved_not
  | some s => exact moved_session session rfl step

theorem moved_enter : Moved targets a (enter a) := by
  cases session : a.session with
  | none =>
    simp only [enter, session]
    exact moved_not
  | some s =>
    cases taken : s.submit a.input with
    | none =>
      simp only [enter, session, taken]
      exact moved_not
    | some _ =>
      simp only [enter, session, taken]
      apply moved_session <;> rfl

theorem moved_save (around : Surroundings) (settings : Settings) :
    Moved targets a (saveHint around settings a) := by
  cases session : a.session with
  | none =>
    simp only [saveHint, session]
    exact moved_not
  | some s =>
    simp only [saveHint, session]
    split
    · exact moved_shown rfl rfl rfl
    · split
      · exact moved_shown rfl rfl rfl
      · cases settings.openHints <;> exact moved_shown rfl rfl rfl

theorem moved_session_key (around : Surroundings) (settings : Settings) (k : Key) :
    Moved targets a (onSessionKey around settings k a) := by
  unfold onSessionKey
  split
  · exact moved_not
  · rename_i there
    have shown : a.session.isSome = true := by simpa [Option.isSome_iff_ne_none] using there
    have edited (f : String → String) : Moved targets a (a.edit f, []) := by
      unfold edit
      split
      · exact moved_not
      · split
        · exact moved_not
        · exact moved_shown rfl rfl shown
    have scrolled (rows : Nat) : Moved targets a ({ a with scroll := rows }, []) :=
      moved_shown rfl rfl shown
    split
    · exact moved_enter
    · exact moved_in_session _
    · exact moved_in_session _
    · exact edited _
    · exact scrolled _
    · exact scrolled _
    · exact scrolled _
    · exact scrolled _
    · split
      · exact edited _
      · split
        · exact moved_save around settings
        · exact moved_not
    · exact moved_not
    · exact moved_not

theorem moved_key (around : Surroundings) (settings : Settings) (k : Key) :
    Moved (Event.Targets a.route? (.key k)) a (onKey around settings k a) := by
  have away (other : a.screen ≠ .home) : Event.Targets a.route? (.key k) .home :=
    ⟨rfl, mt route_home.mp other⟩
  unfold onKey
  split
  · exact .stays rfl rfl fun tidy => tidy
  · split
    · exact moved_start away
    · exact moved_not
    · exact moved_session_key around settings k
    · exact moved_start away
    · exact moved_start away
    · rename_i screen _
      exact moved_navigate (away (by simp [screen]))
    · exact moved_not

theorem moved_started (outcome : Outcome Started) :
    Moved (Event.Targets a.route? (.reply (.started outcome))) a (onStarted outcome a) := by
  unfold onStarted
  split
  · exact moved_not
  · rename_i awaited
    cases outcome with
    | ok x =>
      have home : a.screen = .home := by
        simp only [ne_eq, Bool.or_eq_true, not_or] at awaited
        simpa using awaited.1
      exact moved_navigate ⟨rfl, route_home.mpr home⟩
    | error failure => exact .stays rfl rfl fun tidy => tidy

variable {stage : Stage} (there : a.At stage)

include there

theorem moved_alive (settings : Settings) (id : String) (outcome : Outcome Unit) :
    Moved (Event.Targets a.route? (.reply (.alive id outcome))) a (onAlive settings id outcome a) := by
  unfold onAlive
  split
  · exact moved_not
  · rename_i awaited
    cases outcome with
    | ok x => apply moved_session <;> rfl
    | error failure =>
      have sessionId : a.sessionId = some id := by simp_all
      have screen : a.screen = .session := by
        cases stage with
        | home => cases sessionId.symm.trans there.2.2.1
        | entering => exact there.1
        | playing => exact there.1
        | result => cases sessionId.symm.trans there.2.1
      have target : Event.Targets a.route? (.reply (.alive id (.error failure))) .home :=
        ⟨rfl, by simp [route?, screen, sessionId]⟩
      exact moved_home target _

theorem moved_result (id : String) (outcome : Outcome GameResult) :
    Moved (Event.Targets a.route? (.reply (.result id outcome))) a (onResult id outcome a) := by
  cases result : a.result with
  | none =>
    simp only [onResult, result]
    exact moved_not
  | some page =>
    simp only [onResult, result]
    split
    · exact moved_not
    · rename_i own
      cases outcome with
      | ok x => exact .stays rfl (by simp [route?, result]) fun tidy => tidy
      | error failure =>
        have screen : a.screen = .result := by
          cases stage with
          | home => cases result.symm.trans there.2.2.2.2.1
          | entering => cases result.symm.trans there.2.2.2.1
          | playing => cases result.symm.trans there.2.2.2.1
          | result => exact there.1
        have target : Event.Targets a.route? (.reply (.result id (.error failure))) .home :=
          ⟨rfl, by simpa [route?, screen, result] using own⟩
        exact moved_home target _

theorem handle_moved (around : Surroundings) (settings : Settings) (event : Event) :
    Moved (event.Targets a.route?) a (handle around settings event a) := by
  cases event with
  | key k => exact moved_key around settings k
  | resize => exact moved_not
  | tick => exact moved_not
  | countdown => exact moved_in_session _
  | reply r =>
    cases r with
    | started outcome => exact moved_started outcome
    | alive id outcome => exact moved_alive there settings id outcome
    | picture id outcome =>
      simp only [handle, onReply]
      split
      · exact moved_in_session _
      · exact moved_not
    | command id ticket outcome =>
      simp only [handle, onReply]
      split
      · exact moved_in_session _
      · exact moved_not
    | result id outcome => exact moved_result there id outcome
  | navigate route => exact moved_navigate rfl

end

theorem moved_tidy {targets : Route → Prop} {a : App} {r : App × List Action}
    (moved : Moved targets a r) (tidy : a.Tidy) : r.1.Tidy := by
  cases moved with
  | stays _ _ kept => exact kept tidy
  | goes _ _ _ _ _ _ tidy => exact tidy

inductive Operation where
  | handle (around : Surroundings) (event : Event)
  | navigate (route : Route)
  | startGame
  | setScrollLimit (limit : Nat)

def Operation.step (settings : Settings) : Operation → Step
  | .handle around event => App.handle around settings event
  | .navigate route => App.navigate route
  | .startGame => App.startGame
  | .setScrollLimit limit => .change (App.setScrollLimit limit)

def perform (settings : Settings) (operations : List Operation) : Step :=
  .all (operations.map (Operation.step settings))

structure Consistent (a : App) : Prop where
  session : a.screen = .session ↔ a.sessionId.isSome = true
  own : ∀ s, a.session = some s → a.sessionId = some s.id
  result : a.screen = .result ↔ a.result.isSome = true
  apart : ¬ (a.sessionId.isSome = true ∧ a.result.isSome = true)
  counting : a.counting = true ↔
    ∃ s, a.session = some s ∧ s.loaded.isSome = true ∧ s.ended = false
  beside : a.input ≠ "" ∨ a.scroll ≠ 0 ∨ a.notice ≠ none → a.session.isSome = true

theorem at_consistent {a : App} {stage : Stage} (there : a.At stage) (tidy : a.Tidy) :
    a.Consistent := by
  have beside : a.input ≠ "" ∨ a.scroll ≠ 0 ∨ a.notice ≠ none → a.session.isSome = true := by
    intro used
    rw [← Option.ne_none_iff_isSome]
    intro hidden
    obtain ⟨input, scroll, notice⟩ := tidy hidden
    simp [input, scroll, notice] at used
  cases stage with
  | home starting =>
    obtain ⟨screen, _, sessionId, session, result, counting⟩ := there
    exact ⟨by simp [screen, sessionId], by simp [session], by simp [screen, result],
      by simp [sessionId], by simp [counting, session], beside⟩
  | entering id =>
    obtain ⟨screen, sessionId, session, result, counting⟩ := there
    exact ⟨by simp [screen, sessionId], by simp [session], by simp [screen, result],
      by simp [result], by simp [counting, session], beside⟩
  | playing s =>
    obtain ⟨screen, sessionId, session, result, counting⟩ := there
    exact ⟨by simp [screen, sessionId], by simp [session, sessionId], by simp [screen, result],
      by simp [result], by simp [counting, session, Session.Status.counting, Session.status], beside⟩
  | result page =>
    obtain ⟨screen, sessionId, session, result, counting⟩ := there
    exact ⟨by simp [screen, sessionId], by simp [session], by simp [screen, result],
      by simp [sessionId], by simp [counting, session], beside⟩

/-- The application is at a stage, and there is nothing beside a session that is not there. -/
def Orderly (a : App) : Prop := (∃ stage : Stage, a.At stage ∧ stage.Sound) ∧ a.Tidy

theorem handle_orderly {a : App} (orderly : a.Orderly) (around : Surroundings)
    (settings : Settings) (event : Event) : (handle around settings event a).1.Orderly := by
  obtain ⟨⟨stage, there, sound⟩, tidy⟩ := orderly
  have leads : Leads settings around.now event stage (handle around settings event a) :=
    handle_leads there sound event
  obtain ⟨next, there', passage⟩ := leads
  exact ⟨⟨next, there', passage_sound passage sound⟩,
    moved_tidy (handle_moved there around settings event) tidy⟩

theorem start_orderly {a : App} (orderly : a.Orderly) : (startGame a).1.Orderly := by
  obtain ⟨⟨stage, there, sound⟩, tidy⟩ := orderly
  have moved : Moved (fun _ => True) a (startGame a) := moved_start fun _ => trivial
  refine ⟨?_, moved_tidy moved tidy⟩
  by_cases home : a.screen = .home
  · cases stage with
    | home starting =>
      have leads : Leads { hintDirectory := "" } 0 (.key ⟨.enter, false⟩) (.home starting)
          (startGame a) := start_leads there
      obtain ⟨next, there', passage⟩ := leads
      exact ⟨next, there', passage_sound passage sound⟩
    | entering => cases home.symm.trans there.1
    | playing => cases home.symm.trans there.1
    | result => cases home.symm.trans there.1
  · have gone : (startGame a).1 = { home := { starting := true }, quit := a.quit } := by
      simp [startGame, home, requestStart, navigate, Transition.andThen_apply]
    rw [gone]
    exact ⟨.home true, ⟨rfl, rfl, rfl, rfl, rfl, rfl⟩, trivial⟩

theorem scroll_limit_orderly {a : App} (orderly : a.Orderly) (limit : Nat) :
    (a.setScrollLimit limit).Orderly := by
  obtain ⟨⟨stage, there, sound⟩, tidy⟩ := orderly
  refine ⟨⟨stage, ?_, sound⟩, tidy⟩
  cases stage <;> exact there

theorem step_orderly {a : App} (orderly : a.Orderly) (settings : Settings)
    (operation : Operation) : (operation.step settings a).1.Orderly := by
  cases operation with
  | handle around event => exact handle_orderly orderly around settings event
  | navigate route => exact handle_orderly orderly { now := 0 } settings (.navigate route)
  | startGame => exact start_orderly orderly
  | setScrollLimit limit => exact scroll_limit_orderly orderly limit

theorem perform_orderly (settings : Settings) (operations : List Operation) {a : App}
    (orderly : a.Orderly) : (perform settings operations a).1.Orderly := by
  induction operations generalizing a with
  | nil => exact orderly
  | cons operation rest ih => exact ih (step_orderly orderly settings operation)

theorem perform_consistent (settings : Settings) (operations : List Operation) :
    (perform settings operations {}).1.Consistent := by
  have first : ({} : App).Orderly :=
    ⟨⟨.home false, ⟨rfl, rfl, rfl, rfl, rfl, rfl⟩, trivial⟩, fun _ => ⟨rfl, rfl, rfl⟩⟩
  obtain ⟨⟨stage, there, _⟩, tidy⟩ := perform_orderly settings operations first
  exact at_consistent there tidy

end App

end GuessClient
