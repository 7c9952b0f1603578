import GuessClient.App
import GuessClient.Proofs.Ending

/-!
The stages that the application goes through, and every passage from one to the next: which event
it takes, which calls it makes and which ways to another screen it sets. A stage is passed over in
silence only by events that do not concern it.
-/

namespace GuessClient

def Action.call? : Action → Option Call
  | .call c => some c
  | _ => none

def Action.way? : Action → Option Route
  | .schedule route _ => some route
  | _ => none

def Effect.call? (session : String) : Effect → Option Call
  | .fetchPicture => some (.picture session)
  | .send ticket => some (.command session ticket)
  | _ => none

def Effect.counting (before : Bool) : Effect → Bool
  | .startCountdown => true
  | .stopCountdown => false
  | _ => before

inductive Stage where
  | home (starting : Bool)
  | entering (id : String)
  | playing (s : Session)
  | result (page : ResultPage)

def Session.Status.counting (s : Session.Status) : Bool := s.loaded && !s.ended

namespace App

def At (a : App) : Stage → Prop
  | .home starting =>
    a.screen = .home ∧ a.home.starting = starting ∧ a.sessionId = none ∧ a.session = none ∧
      a.result = none ∧ a.counting = false
  | .entering id =>
    a.screen = .session ∧ a.sessionId = some id ∧ a.session = none ∧ a.result = none ∧
      a.counting = false
  | .playing s =>
    a.screen = .session ∧ a.sessionId = some s.id ∧ a.session = some s ∧ a.result = none ∧
      a.counting = s.status.counting
  | .result page =>
    a.screen = .result ∧ a.sessionId = none ∧ a.session = none ∧ a.result = some page ∧
      a.counting = false

end App

namespace Stage

def ofRoute : Route → Stage
  | .home => .home false
  | .session id => .entering id
  | .result id => .result { session := id }

def arrivalCalls : Route → List Call
  | .home => []
  | .session id => [.alive id]
  | .result id => [.result id]

/-- The event is what the stage waits for, or it takes the application away from anywhere. -/
def Concerns (stage : Stage) : Event → Prop
  | .navigate _ => True
  | .reply (.started _) => stage = .home true
  | .reply (.alive id _) => stage = .entering id
  | .reply (.picture id _) => ∃ s, stage = .playing s ∧ s.id = id
  | .reply (.command id _ _) => ∃ s, stage = .playing s ∧ s.id = id
  | .reply (.result id _) => ∃ page, stage = .result page ∧ page.session = id
  | _ => False

def Sound : Stage → Prop
  | .playing s => s.status.Sound
  | _ => True

end Stage

/-- What an event makes of the session called `id`. -/
inductive Causes (now : Float) (id : String) : Event → Session.Operation → Prop where
  | submit (k : Key) (text : String) : Causes now id (.key k) (.submit text)
  | mode (k : Key) : Causes now id (.key k) .toggleMode
  | command (k : Key) : Causes now id (.key k) .toggleCommand
  | countdown : Causes now id .countdown (.countdown now)
  | picture (outcome : Outcome Picture) :
      Causes now id (.reply (.picture id outcome)) (.picture outcome now)
  | reply (ticket : Ticket) (outcome : Outcome Response) :
      Causes now id (.reply (.command id ticket outcome)) (.reply ticket outcome)

theorem causes_remains {now : Float} {id : String} {event : Event} {operation : Session.Operation}
    (causes : Causes now id event operation) (route : Route) : event ≠ .navigate route := by
  rintro rfl
  cases causes

inductive Passage (settings : Settings) (now : Float) :
    Event → Stage → Stage → List Call → List Route → Prop where
  | stay {event : Event} {stage : Stage} (unconcerned : ¬ stage.Concerns event) :
      Passage settings now event stage stage [] []
  | start (k : Key) : Passage settings now (.key k) (.home false) (.home true) [.start] []
  | startAgain (k : Key) (page : ResultPage) :
      Passage settings now (.key k) (.result page) (.home true) [.start] []
  | turnHome (k : Key) (page : ResultPage) :
      Passage settings now (.key k) (.result page) (.home false) [] []
  | started (x : Started) :
      Passage settings now (.reply (.started (.ok x))) (.home true) (.entering x.session)
        [.alive x.session] []
  | notStarted (failure : Failure) :
      Passage settings now (.reply (.started (.error failure))) (.home true) (.home false) [] []
  | confirmed (id : String) :
      Passage settings now (.reply (.alive id (.ok ()))) (.entering id)
        (.playing { id, delay := settings.leaveDelay, begun := true }) [.picture id] []
  | gone (id : String) (failure : Failure) :
      Passage settings now (.reply (.alive id (.error failure))) (.entering id) (.home false) [] []
  | played {event : Event} {operation : Session.Operation} (s : Session)
      (causes : Causes now s.id event operation) :
      Passage settings now event (.playing s) (.playing (Session.apply operation s).1)
        ((Session.apply operation s).2.filterMap (Effect.call? s.id))
        ((Session.apply operation s).2.filterMap Effect.way?)
  | shown (page : ResultPage) (x : GameResult) :
      Passage settings now (.reply (.result page.session (.ok x))) (.result page)
        (.result { page with result := some x }) [] []
  | notShown (page : ResultPage) (failure : Failure) :
      Passage settings now (.reply (.result page.session (.error failure))) (.result page)
        (.home false) [] []
  | arrive (route : Route) (stage : Stage) :
      Passage settings now (.navigate route) stage (Stage.ofRoute route)
        (Stage.arrivalCalls route) []

namespace App

def Leads (settings : Settings) (now : Float) (event : Event) (stage : Stage)
    (r : App × List Action) : Prop :=
  ∃ next, r.1.At next ∧ Passage settings now event stage next
    (r.2.filterMap Action.call?) (r.2.filterMap Action.way?)

theorem carried_app (session : String) (effects : List Effect) (a : App) :
    (Transition.all (effects.map (carryOut session)) a).1 =
      { a with counting := effects.foldl Effect.counting a.counting } := by
  induction effects generalizing a with
  | nil => rfl
  | cons effect rest ih =>
    simp only [List.map_cons, Transition.all, Transition.andThen_apply, ih, List.foldl_cons]
    cases effect with
    | stopCountdown => cases h : a.counting <;> simp [carryOut, stopCountdown, Effect.counting, h]
    | _ => rfl

theorem carried_actions (session : String) (ofAction : Action → Option β)
    (ofEffect : Effect → Option β)
    (agree : ∀ effect a,
      (carryOut session effect a).2.filterMap ofAction = (ofEffect effect).toList)
    (effects : List Effect) (a : App) :
    (Transition.all (effects.map (carryOut session)) a).2.filterMap ofAction =
      effects.filterMap ofEffect := by
  induction effects generalizing a with
  | nil => rfl
  | cons effect rest ih =>
    simp only [List.map_cons, Transition.all, Transition.andThen_apply, List.filterMap_append, ih,
      agree]
    cases h : ofEffect effect <;> simp [h]

theorem carried_calls (session : String) (effects : List Effect) (a : App) :
    (Transition.all (effects.map (carryOut session)) a).2.filterMap Action.call? =
      effects.filterMap (Effect.call? session) := by
  apply carried_actions
  intro effect a
  cases effect with
  | stopCountdown =>
    cases h : a.counting <;> simp [carryOut, stopCountdown, Effect.call?, Action.call?, h]
  | _ => rfl

theorem carried_ways (session : String) (effects : List Effect) (a : App) :
    (Transition.all (effects.map (carryOut session)) a).2.filterMap Action.way? =
      effects.filterMap Effect.way? := by
  apply carried_actions
  intro effect a
  cases effect with
  | stopCountdown =>
    cases h : a.counting <;> simp [carryOut, stopCountdown, Effect.way?, Action.way?, h]
  | _ => rfl

theorem turn_counting {s : Session} {operation : Session.Operation} {t : Session.Status}
    {effects : List Effect} (turn : s.Turn operation t effects) :
    effects.foldl Effect.counting s.status.counting = t.counting := by
  cases turn with
  | load opens =>
    obtain ⟨_, _, _, _, _, _, live, _⟩ := opens
    simp [Effect.counting, Session.Status.counting, Session.status, live]
  | close => simp [Effect.counting, Session.Status.counting]
  | _ => rfl

theorem in_session {a : App} {s : Session} (there : a.At (.playing s))
    (sound : s.status.Sound) (operation : Session.Operation) :
    let r := inSession (Session.apply operation) a
    r.1.At (.playing (Session.apply operation s).1) ∧
      r.2.filterMap Action.call? =
        (Session.apply operation s).2.filterMap (Effect.call? s.id) ∧
      r.2.filterMap Action.way? = (Session.apply operation s).2.filterMap Effect.way? := by
  obtain ⟨screen, sessionId, session, result, counting⟩ := there
  have turn := Session.apply_turn sound operation
  have sameId := Session.apply_id sound operation
  simp only [inSession, session, carried_calls, carried_ways, carried_app, sameId]
  refine ⟨⟨screen, ?_, rfl, result, ?_⟩, trivial, trivial⟩
  · rw [sessionId, sameId]
  · rw [counting]
    exact turn_counting turn

theorem leads_stay {settings : Settings} {now : Float} {event : Event} {stage : Stage} {a : App}
    {actions : List Action} (there : a.At stage) (unconcerned : ¬ stage.Concerns event)
    (noCall : actions.filterMap Action.call? = []) (noWay : actions.filterMap Action.way? = []) :
    Leads settings now event stage (a, actions) :=
  ⟨stage, there, by rw [noCall, noWay]; exact .stay unconcerned⟩

theorem leads_played {settings : Settings} {now : Float} {event : Event} {s : Session} {a : App}
    {operation : Session.Operation} (there : a.At (.playing s)) (sound : s.status.Sound)
    (causes : Causes now s.id event operation) :
    Leads settings now event (.playing s) (inSession (Session.apply operation) a) := by
  obtain ⟨next, calls, ways⟩ := in_session there sound operation
  exact ⟨_, next, by rw [calls, ways]; exact .played s causes⟩

theorem navigate_leads (settings : Settings) (now : Float) (route : Route) (stage : Stage)
    (a : App) : Leads settings now (.navigate route) stage (navigate route a) := by
  refine ⟨Stage.ofRoute route, ?_, ?_⟩
  · cases route <;> simp [navigate, Stage.ofRoute, At]
  · have passage : Passage settings now (.navigate route) stage (Stage.ofRoute route)
        (Stage.arrivalCalls route) [] := .arrive route stage
    cases route <;> cases counting : a.counting <;> simp only [navigate, counting] <;>
      exact passage

theorem start_leads {settings : Settings} {now : Float} {k : Key} {starting : Bool} {a : App}
    (there : a.At (.home starting)) :
    Leads settings now (.key k) (.home starting) (startGame a) := by
  obtain ⟨screen, awaited, sessionId, session, result, counting⟩ := there
  cases starting with
  | false =>
    have asked : startGame a = ({ a with home := { starting := true } }, [.call .start]) := by
      simp [startGame, requestStart, screen, awaited]
    rw [asked]
    exact ⟨.home true, ⟨screen, rfl, sessionId, session, result, counting⟩, .start k⟩
  | true =>
    have same : startGame a = (a, []) := by simp [startGame, requestStart, screen, awaited]
    rw [same]
    exact leads_stay ⟨screen, awaited, sessionId, session, result, counting⟩ not_false rfl rfl

theorem start_again_leads {settings : Settings} {now : Float} {k : Key} {page : ResultPage}
    {a : App} (there : a.At (.result page)) :
    Leads settings now (.key k) (.result page) (startGame a) := by
  obtain ⟨screen, sessionId, session, result, counting⟩ := there
  have asked : startGame a =
      ({ home := { starting := true }, quit := a.quit }, [.entered .home, .call .start]) := by
    simp [startGame, requestStart, navigate, Transition.andThen_apply, screen, counting]
  rw [asked]
  exact ⟨.home true, ⟨rfl, rfl, rfl, rfl, rfl, rfl⟩, .startAgain k page⟩

theorem turn_home_leads {settings : Settings} {now : Float} {k : Key} {page : ResultPage}
    {a : App} (there : a.At (.result page)) :
    Leads settings now (.key k) (.result page) (navigate .home a) := by
  obtain ⟨_, _, _, _, counting⟩ := there
  have gone : navigate .home a =
      ({ home := { a.home with starting := false }, quit := a.quit }, [.entered .home]) := by
    simp [navigate, counting]
  rw [gone]
  exact ⟨.home false, ⟨rfl, rfl, rfl, rfl, rfl, rfl⟩, .turnHome k page⟩

theorem enter_leads {settings : Settings} {now : Float} {k : Key} {s : Session} {a : App}
    (there : a.At (.playing s)) (sound : s.status.Sound) :
    Leads settings now (.key k) (.playing s) (enter a) := by
  have session : a.session = some s := there.2.2.1
  cases taken : s.submit a.input with
  | none =>
    have same : enter a = (a, []) := by simp [enter, session, taken]
    rw [same]
    exact leads_stay there not_false rfl rfl
  | some _ =>
    have cleared : { a with input := "", scroll := 0 }.At (.playing s) := there
    have step : enter a =
        inSession (Session.apply (.submit a.input)) { a with input := "", scroll := 0 } := by
      simp [enter, session, taken]
    rw [step]
    exact leads_played cleared sound (.submit k a.input)

theorem save_leads {settings : Settings} {around : Surroundings} {k : Key} {s : Session} {a : App}
    (there : a.At (.playing s)) :
    Leads settings around.now (.key k) (.playing s) (saveHint around settings a) := by
  obtain ⟨screen, sessionId, session, result, counting⟩ := there
  simp only [saveHint, session]
  split
  · exact leads_stay ⟨screen, sessionId, rfl, result, counting⟩ not_false rfl rfl
  · split
    · exact leads_stay ⟨screen, sessionId, rfl, result, counting⟩ not_false rfl rfl
    · cases settings.openHints <;>
        exact leads_stay ⟨screen, sessionId, rfl, result, counting⟩ not_false rfl rfl

theorem edit_at {s : Session} {a : App} (there : a.At (.playing s)) (f : String → String) :
    (a.edit f).At (.playing s) := by
  obtain ⟨screen, sessionId, session, result, counting⟩ := there
  simp only [edit, session]
  split
  · exact ⟨screen, sessionId, session, result, counting⟩
  · exact ⟨screen, sessionId, rfl, result, counting⟩

theorem session_key_leads {settings : Settings} {around : Surroundings} {k : Key} {s : Session}
    {a : App} (there : a.At (.playing s)) (sound : s.status.Sound) :
    Leads settings around.now (.key k) (.playing s) (onSessionKey around settings k a) := by
  have session : a.session = some s := there.2.2.1
  have passed {b : App} (same : b.At (.playing s)) :
      Leads settings around.now (.key k) (.playing s) (b, []) :=
    leads_stay same not_false rfl rfl
  simp only [onSessionKey, session, Option.isNone_some, Bool.false_eq_true, ↓reduceIte]
  split
  · exact enter_leads there sound
  · exact leads_played there sound (.mode k)
  · exact leads_played there sound (.command k)
  · exact passed (edit_at there dropLast)
  · exact passed there
  · exact passed there
  · exact passed there
  · exact passed there
  · split
    · exact passed (edit_at there _)
    · split
      · exact save_leads there
      · exact passed there
  · exact passed there
  · exact passed there

theorem countdown_leads {settings : Settings} {around : Surroundings} {stage : Stage} {a : App}
    (there : a.At stage) (sound : stage.Sound) :
    Leads settings around.now .countdown stage
      (inSession (Session.apply (.countdown around.now)) a) := by
  cases stage with
  | playing s => exact leads_played there sound .countdown
  | home starting =>
    have session : a.session = none := there.2.2.2.1
    simp only [inSession, session]
    exact leads_stay there not_false rfl rfl
  | entering id =>
    have session : a.session = none := there.2.2.1
    simp only [inSession, session]
    exact leads_stay there not_false rfl rfl
  | result page =>
    have session : a.session = none := there.2.2.1
    simp only [inSession, session]
    exact leads_stay there not_false rfl rfl

theorem key_leads {settings : Settings} {around : Surroundings} {k : Key} {stage : Stage} {a : App}
    (there : a.At stage) (sound : stage.Sound) :
    Leads settings around.now (.key k) stage (onKey around settings k a) := by
  have passed {b : App} (same : b.At stage) : Leads settings around.now (.key k) stage (b, []) :=
    leads_stay same not_false rfl rfl
  unfold onKey
  split
  · cases stage <;> exact passed there
  cases stage with
  | home starting =>
    have screen : a.screen = .home := there.1
    simp only [screen]
    cases k.code with
    | enter => exact start_leads there
    | _ => exact passed there
  | entering id =>
    have screen : a.screen = .session := there.1
    have session : a.session = none := there.2.2.1
    simp only [screen, onSessionKey, session, Option.isNone_none, ↓reduceIte]
    exact passed there
  | playing s =>
    have screen : a.screen = .session := there.1
    simp only [screen]
    exact session_key_leads there sound
  | result page =>
    have screen : a.screen = .result := there.1
    simp only [screen]
    cases k.code with
    | enter => exact start_again_leads there
    | char c =>
      by_cases new : c = 'n'
      · rw [new]
        exact start_again_leads there
      · by_cases home : c = 'h'
        · rw [home]
          exact turn_home_leads there
        · simpa [new, home] using passed there
    | _ => exact passed there

theorem started_unawaited {stage : Stage} {a : App} (there : a.At stage)
    (unawaited : stage ≠ .home true) (outcome : Outcome Started) :
    onStarted outcome a = (a, []) := by
  cases stage with
  | home starting =>
    obtain ⟨screen, starting', _⟩ := there
    cases starting with
    | false => simp [onStarted, starting']
    | true => exact absurd rfl unawaited
  | entering => simp [onStarted, there.1]
  | playing => simp [onStarted, there.1]
  | result => simp [onStarted, there.1]

theorem alive_unawaited {settings : Settings} {stage : Stage} {a : App} (there : a.At stage)
    {id : String} (unawaited : stage ≠ .entering id) (outcome : Outcome Unit) :
    onAlive settings id outcome a = (a, []) := by
  cases stage with
  | home => simp [onAlive, there.2.2.1]
  | entering other =>
    have differs : other ≠ id := fun same => unawaited (by rw [same])
    simp [onAlive, there.2.1, differs]
  | playing => simp [onAlive, there.2.2.1]
  | result => simp [onAlive, there.2.1]

theorem result_unawaited {stage : Stage} {a : App} (there : a.At stage) {id : String}
    (unawaited : ¬ ∃ page, stage = .result page ∧ page.session = id)
    (outcome : Outcome GameResult) : onResult id outcome a = (a, []) := by
  cases stage with
  | home => simp [onResult, there.2.2.2.2.1]
  | entering => simp [onResult, there.2.2.2.1]
  | playing => simp [onResult, there.2.2.2.1]
  | result page =>
    have differs : page.session ≠ id := fun same => unawaited ⟨page, rfl, same⟩
    simp [onResult, there.2.2.2.1, differs]

theorem shows_other {stage : Stage} {a : App} (there : a.At stage) {id : String}
    (other : ¬ ∃ s, stage = .playing s ∧ s.id = id) : a.shows id = false := by
  cases stage with
  | home => simp [App.shows, there.2.2.2.1]
  | entering => simp [App.shows, there.2.2.1]
  | playing s =>
    have differs : s.id ≠ id := fun same => other ⟨s, rfl, same⟩
    simp [App.shows, there.2.2.1, differs]
  | result => simp [App.shows, there.2.2.1]

theorem reply_unconcerned {stage : Stage} {a : App} (there : a.At stage) {r : Reply}
    (unconcerned : ¬ stage.Concerns (.reply r)) (around : Surroundings) (settings : Settings) :
    onReply around settings r a = (a, []) := by
  cases r with
  | started outcome => exact started_unawaited there unconcerned outcome
  | alive id outcome => exact alive_unawaited there unconcerned outcome
  | picture id outcome => simp [onReply, shows_other there unconcerned]
  | command id ticket outcome => simp [onReply, shows_other there unconcerned]
  | result id outcome => exact result_unawaited there unconcerned outcome

theorem started_leads {settings : Settings} {now : Float} {stage : Stage} {a : App}
    (there : a.At stage) (outcome : Outcome Started) :
    Leads settings now (.reply (.started outcome)) stage (onStarted outcome a) := by
  by_cases awaited : stage = .home true
  · subst awaited
    obtain ⟨screen, starting, sessionId, session, result, counting⟩ := there
    simp only [onStarted, screen, starting]
    cases outcome with
    | ok x =>
      have gone : navigate (.session x.session) a =
          ({ screen := .session, home := a.home, sessionId := some x.session, quit := a.quit },
            [.entered (.session x.session), .call (.alive x.session)]) := by
        simp [navigate, counting]
      simp only [ne_eq, not_true_eq_false, decide_false, Bool.not_true, Bool.or_self,
        Bool.false_eq_true, ↓reduceIte, gone]
      exact ⟨.entering x.session, ⟨rfl, rfl, rfl, rfl, rfl⟩, .started x⟩
    | error failure =>
      simp only [ne_eq, not_true_eq_false, decide_false, Bool.not_true, Bool.or_self,
        Bool.false_eq_true, ↓reduceIte]
      exact ⟨.home false, ⟨rfl, rfl, sessionId, session, result, counting⟩,
        .notStarted failure⟩
  · rw [started_unawaited there awaited]
    exact leads_stay there awaited rfl rfl

theorem go_home_eq {a : App} (counting : a.counting = false) (notice : String) :
    goHome notice a =
      ({ home := { starting := false, notice := some notice }, quit := a.quit },
        [.entered .home]) := by
  simp [goHome, navigate, Transition.andThen_apply, Transition.change, counting]

theorem alive_leads {settings : Settings} {now : Float} {stage : Stage} {a : App}
    (there : a.At stage) (id : String) (outcome : Outcome Unit) :
    Leads settings now (.reply (.alive id outcome)) stage (onAlive settings id outcome a) := by
  by_cases awaited : stage = .entering id
  · subst awaited
    obtain ⟨screen, sessionId, session, result, counting⟩ := there
    cases outcome with
    | ok _ =>
      let s : Session := { id, delay := settings.leaveDelay }
      have confirmed : onAlive settings id (.ok ()) a =
          ({ a with session := some { s with begun := true } }, [.call (.picture id)]) := by
        simp [onAlive, session, sessionId, inSession, Session.begin, Transition.all,
          Transition.andThen_apply, carryOut, Transition.emit, Transition.stay, s]
      rw [confirmed]
      exact ⟨.playing { s with begun := true }, ⟨screen, sessionId, rfl, result, counting⟩,
        .confirmed id⟩
    | error failure =>
      have gone : onAlive settings id (.error failure) a = goHome sessionGoneText a := by
        simp [onAlive, session, sessionId]
      rw [gone, go_home_eq counting]
      exact ⟨.home false, ⟨rfl, rfl, rfl, rfl, rfl, rfl⟩, .gone id failure⟩
  · rw [alive_unawaited there awaited]
    exact leads_stay there awaited rfl rfl

theorem result_leads {settings : Settings} {now : Float} {stage : Stage} {a : App}
    (there : a.At stage) (id : String) (outcome : Outcome GameResult) :
    Leads settings now (.reply (.result id outcome)) stage (onResult id outcome a) := by
  by_cases awaited : ∃ page, stage = .result page ∧ page.session = id
  · obtain ⟨page, rfl, rfl⟩ := awaited
    obtain ⟨screen, sessionId, session, result, counting⟩ := there
    simp only [onResult, result, ne_eq, not_true_eq_false, ↓reduceIte]
    cases outcome with
    | ok x =>
      exact ⟨.result { page with result := some x }, ⟨screen, sessionId, session, rfl, counting⟩,
        .shown page x⟩
    | error failure =>
      simp only [go_home_eq counting]
      exact ⟨.home false, ⟨rfl, rfl, rfl, rfl, rfl, rfl⟩, .notShown page failure⟩
  · rw [result_unawaited there awaited]
    exact leads_stay there awaited rfl rfl

theorem shown_leads {settings : Settings} {now : Float} {stage : Stage} {a : App} {event : Event}
    {id : String} {operation : Session.Operation} (there : a.At stage) (sound : stage.Sound)
    (causes : Causes now id event operation)
    (only : stage.Concerns event → ∃ s, stage = .playing s ∧ s.id = id) :
    Leads settings now event stage
      (if a.shows id then inSession (Session.apply operation) a else (a, [])) := by
  by_cases awaited : ∃ s, stage = .playing s ∧ s.id = id
  · obtain ⟨s, rfl, rfl⟩ := awaited
    have shows : a.shows s.id = true := by simp [App.shows, there.2.2.1]
    rw [if_pos shows]
    exact leads_played there sound causes
  · rw [if_neg (by simp [shows_other there awaited])]
    exact leads_stay there (fun concerns => awaited (only concerns)) rfl rfl

theorem handle_leads {settings : Settings} {around : Surroundings} {stage : Stage} {a : App}
    (there : a.At stage) (sound : stage.Sound) (event : Event) :
    Leads settings around.now event stage (handle around settings event a) := by
  cases event with
  | key k => exact key_leads there sound
  | resize => exact leads_stay there not_false rfl rfl
  | tick => exact leads_stay there not_false rfl rfl
  | countdown => exact countdown_leads there sound
  | reply r =>
    cases r with
    | started outcome => exact started_leads there outcome
    | alive id outcome => exact alive_leads there id outcome
    | picture id outcome => exact shown_leads there sound (.picture outcome) fun awaited => awaited
    | command id ticket outcome =>
      exact shown_leads there sound (.reply ticket outcome) fun awaited => awaited
    | result id outcome => exact result_leads there id outcome
  | navigate route => exact navigate_leads settings around.now route stage a

end App

end GuessClient
