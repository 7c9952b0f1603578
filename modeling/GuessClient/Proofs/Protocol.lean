import GuessClient.Proofs.Bookkeeping

/-!
The order of the calls in a closed run. The calls of one session stand together in a block, and
between two blocks games are started. Every call but that of the first screen is made on a line of
the journal, and what stands on that line and on earlier ones allows it.
-/

namespace GuessClient

def Made.played (id : String) (visit : Nat) (tickets : List Ticket) : List Made :=
  ⟨visit, .alive id⟩ :: ⟨visit, .picture id⟩ :: tickets.map fun ticket => ⟨visit, .command id ticket⟩

/-- The calls from a session that is entered to its result, as far as it goes. -/
inductive Block (id : String) (visit : Nat) : List Made → Prop where
  | entered : Block id visit [⟨visit, .alive id⟩]
  | played (tickets : List Ticket) : Block id visit (Made.played id visit tickets)
  | finished (tickets : List Ticket) :
      Block id visit (Made.played id visit tickets ++ [⟨visit + 1, .result id⟩])

def Starts (calls : List Made) : Prop := ∀ c ∈ calls, c.call = .start

/-- The games one after the other, when `first` is the first screen. -/
inductive Games (first : Route) : List Made → Prop where
  | home (there : first = .home) : Games first []
  | result (id : String) (visit : Nat) (there : first = .result id) :
      Games first [⟨visit, .result id⟩]
  | session {id : String} {visit : Nat} {block : List Made} (there : first = .session id)
      (blocked : Block id visit block) : Games first block
  | game {id : String} {visit : Nat} {before starts block : List Made}
      (games : Games first before) (started : Starts starts) (begun : starts ≠ [])
      (blocked : Block id visit block) : Games first (before ++ starts ++ block)

/-- Games, and starts of one more that is not entered yet. -/
def Protocol (first : Route) (calls : List Made) : Prop :=
  ∃ games starts, Games first games ∧ Starts starts ∧ calls = games ++ starts

def Line.AnswersLast (l : Line) (call : Call) : Prop :=
  ∃ n outcomes visit, l.move = .answer n outcomes ∧ l.calls[n]? = some ⟨visit, call⟩ ∧
    n + 1 = l.calls.length

inductive Event.Finishes (s t : Session) : Event → Prop where
  | won (ticket : Ticket) (formula : String) (v : Verdict) (asked : ticket.request = .answer formula)
      (right : v.correct = true) : Finishes s t (.reply (.command s.id ticket (.ok (.verdict v))))
  | loadLate (p : Picture) (late : t.remaining = some 0) :
      Finishes s t (.reply (.picture s.id (.ok p)))
  | tickLate (late : t.remaining = some 0) : Finishes s t .countdown

def Line.Decides (l : Line) (n : Nat) (id : String) : Prop :=
  l.ways.length = n ∧ .result id ∈ l.actions.filterMap Action.way? ∧
    ∃ event s t, l.event = some event ∧ l.before.session = some s ∧ l.after.session = some t ∧
      s.id = id ∧ s.ended = false ∧ t.ended = true ∧ event.Finishes s t

/-- What allows a call that is made on a line, where `lines` are all lines of the journal. -/
inductive Line.Allows (l : Line) (lines : List Line) : Made → Prop where
  | start (visit : Nat) (k : Key) (brings : l.event = some (.key k)) :
      Allows l lines ⟨visit, .start⟩
  | alive (visit : Nat) (x : Started) (brings : l.event = some (.reply (.started (.ok x))))
      (last : l.AnswersLast .start) : Allows l lines ⟨visit, .alive x.session⟩
  | picture (visit : Nat) (id : String) (brings : l.event = some (.reply (.alive id (.ok ()))))
      (last : l.AnswersLast (.alive id)) : Allows l lines ⟨visit, .picture id⟩
  | command {s : Session} (ticket : Ticket) (shown : l.before.session = some s)
      (live : s.ended = false) : Allows l lines ⟨l.routes.length, .command s.id ticket⟩
  /-- The way to the result has been decided on an earlier line, in the same visit. -/
  | result {n : Nat} {s : Session} {d : Line} (leaves : l.move = .leave n)
      (brings : l.event = some (.navigate (.result s.id))) (shown : l.before.session = some s)
      (ended : s.ended = true) (there : d ∈ lines) (decides : d.Decides n s.id)
      (same : d.routes = l.routes) : Allows l lines ⟨l.routes.length + 1, .result s.id⟩

def Entrance (first : Route) (id : String) (calls : List Made) : Prop :=
  first = .session id ∧ calls = [] ∨
    ∃ games starts, Games first games ∧ Starts starts ∧ starts ≠ [] ∧ calls = games ++ starts

namespace Stage

/-- The calls made so far, when the stage is reached in a visit. -/
def Said (first : Route) (visit : Nat) (calls : List Made) : Stage → Prop
  | .home starting =>
    ∃ games starts, Games first games ∧ Starts starts ∧ (starting = true → starts ≠ []) ∧
      calls = games ++ starts
  | .entering id => ∃ before, Entrance first id before ∧ calls = before ++ [⟨visit, .alive id⟩]
  | .playing s =>
    ∃ before tickets, Entrance first s.id before ∧
      calls = before ++ Made.played s.id visit tickets
  | .result _ => Games first calls

end Stage

section

variable {first : Route} {id : String} {visit : Nat} {calls block : List Made}

theorem starts_none : Starts [] := nofun

theorem starts_snoc (starts : Starts calls) (visit : Nat) : Starts (calls ++ [⟨visit, .start⟩]) := by
  intro c made
  rcases List.mem_append.mp made with old | new
  · exact starts c old
  · rw [List.mem_singleton.mp new]

theorem games_block (entrance : Entrance first id calls) (blocked : Block id visit block) :
    Games first (calls ++ block) := by
  rcases entrance with ⟨there, rfl⟩ | ⟨games, starts, played, started, begun, rfl⟩
  · exact .session there blocked
  · exact .game played started begun blocked

theorem said_games (games : Games first calls) :
    (Stage.home false).Said first visit calls :=
  ⟨calls, [], games, starts_none, nofun, (List.append_nil _).symm⟩

theorem said_protocol {stage : Stage} (said : stage.Said first visit calls) :
    Protocol first calls := by
  have games (games : Games first calls) : Protocol first calls :=
    ⟨calls, [], games, starts_none, (List.append_nil _).symm⟩
  cases stage with
  | home =>
    obtain ⟨before, starts, played, started, _, rfl⟩ := said
    exact ⟨before, starts, played, started, rfl⟩
  | entering =>
    obtain ⟨before, entrance, rfl⟩ := said
    exact games (games_block entrance .entered)
  | playing =>
    obtain ⟨before, tickets, entrance, rfl⟩ := said
    exact games (games_block entrance (.played tickets))
  | result => exact games said

theorem said_opened (route : Route) : (Stage.ofRoute route).Said route 1
    ((Stage.arrivalCalls route).map (Made.mk 1)) := by
  cases route with
  | home => exact said_games (.home rfl)
  | session id => exact ⟨[], .inl ⟨rfl, rfl⟩, rfl⟩
  | result id => exact .result id 1 rfl

end

theorem played_calls {now : Float} {event : Event} {s : Session} {operation : Session.Operation}
    (causes : Causes now s.id event operation) (sound : s.status.Sound) :
    (Session.apply operation s).2.filterMap (Effect.call? s.id) = [] ∨
      s.ended = false ∧ ∃ ticket,
        (Session.apply operation s).2.filterMap (Effect.call? s.id) = [.command s.id ticket] := by
  have turn := Session.apply_turn sound operation
  generalize (Session.apply operation s).1.status = status at turn
  generalize (Session.apply operation s).2 = effects at turn ⊢
  cases turn with
  | begin => cases causes
  | ask text request free => exact .inr ⟨((Session.free_iff s).mp free).2, _, rfl⟩
  | _ => exact .inl rfl

namespace Journal

section

variable {settings : Settings} {around : Surroundings} {event : Event} {stage next : Stage}
  {new : List Call} {set : List Route} {first : Route} {calls : List Made}
  {routes entered : List Route}

theorem passage_said (passage : Passage settings around.now event stage next new set)
    (sound : stage.Sound) (enters : Enters event stage.route next.route entered)
    (leaves : ∀ route, event = .navigate route →
      ∃ s, stage = .playing s ∧ (route = .home ∨ route = .result s.id))
    (said : stage.Said first routes.length calls) :
    next.Said first (routes ++ entered).length
      (calls ++ new.map (Made.mk (routes ++ entered).length)) := by
  cases passage with
  | stay unconcerned =>
    have remains (route : Route) : event ≠ .navigate route := by
      rintro rfl
      exact unconcerned trivial
    rw [enters_stays enters rfl remains]
    simpa using said
  | start k =>
    obtain ⟨games, starts, played, started, _, rfl⟩ := said
    exact ⟨games, starts ++ [⟨(routes ++ entered).length, .start⟩], played,
      starts_snoc started _, by simp, by simp⟩
  | startAgain k page =>
    exact ⟨calls, [⟨_, .start⟩], said, starts_snoc starts_none _, by simp, rfl⟩
  | turnHome k page =>
    rw [List.map_nil, List.append_nil]
    exact said_games said
  | started x =>
    obtain ⟨games, starts, played, started, begun, rfl⟩ := said
    exact ⟨games ++ starts, .inr ⟨games, starts, played, started, begun rfl, rfl⟩, rfl⟩
  | notStarted failure =>
    obtain ⟨games, starts, played, started, _, rfl⟩ := said
    exact ⟨games, starts, played, started, nofun, by simp⟩
  | confirmed id =>
    obtain ⟨before, entrance, rfl⟩ := said
    rw [enters_stays enters rfl nofun]
    exact ⟨before, [], entrance, by simp [Made.played]⟩
  | gone id failure =>
    obtain ⟨before, entrance, rfl⟩ := said
    rw [List.map_nil, List.append_nil]
    exact said_games (games_block entrance .entered)
  | @played _ operation s causes =>
    have same := Session.apply_id sound operation
    obtain ⟨before, tickets, entrance, rfl⟩ := said
    rw [enters_stays enters (congrArg Route.session same) (causes_remains causes)]
    simp only [Stage.Said, same]
    rcases played_calls causes sound with none | ⟨_, ticket, one⟩
    · exact ⟨before, tickets, entrance, by simp [none]⟩
    · exact ⟨before, tickets ++ [ticket], entrance, by simp [one, Made.played]⟩
  | shown page x => simpa [Stage.Said] using said
  | notShown page failure =>
    rw [List.map_nil, List.append_nil]
    exact said_games said
  | arrive route =>
    obtain ⟨s, rfl, home | result⟩ := leaves route rfl
    · subst home
      obtain ⟨before, tickets, entrance, rfl⟩ := said
      rw [Stage.arrivalCalls, List.map_nil, List.append_nil]
      exact said_games (games_block entrance (.played tickets))
    · subst result
      obtain ⟨before, tickets, entrance, rfl⟩ := said
      cases enters with
      | stays same => cases same
      | goes =>
        rw [List.append_assoc, List.length_append]
        exact games_block entrance (.finished tickets)

theorem passage_finishes (passage : Passage settings around.now event stage next new set)
    (sound : stage.Sound) {id : String} (sets : .result id ∈ set) :
    ∃ s t, stage = .playing s ∧ next = .playing t ∧ s.id = id ∧ t.id = id ∧
      s.ended = false ∧ t.ended = true ∧ event.Finishes s t := by
  cases passage with
  | @played _ operation s causes =>
    have course := Session.apply_course sound operation
    generalize (Session.apply operation s).1 = t at course ⊢
    generalize (Session.apply operation s).2 = effects at course sets
    cases course with
    | @loadLate outcome _ window picture unloaded live opened late =>
      obtain rfl : s.id = id := by simpa [Effect.way?] using sets
      cases causes
      cases outcome with
      | ok p =>
        have out : (Session.closed (s.opening (Session.loadedAt window picture around.now))
            (.error Session.timeUpText)).remaining = some 0 := by
          simp [Session.closed, Session.opening, Session.loadedAt, Session.remaining, late]
        exact ⟨s, _, rfl, rfl, rfl, rfl, live, rfl, .loadLate p out⟩
      | error => cases opened
    | @tickLate l _ loaded live late =>
      obtain rfl : s.id = id := by simpa [Effect.way?] using sets
      cases causes
      have out : (Session.closed { s with loaded := some (Session.ticked l around.now) }
          (.error Session.timeUpText)).remaining = some 0 := by
        simp [Session.closed, Session.remaining, late]
      exact ⟨s, _, rfl, rfl, rfl, rfl, live, rfl, .tickLate out⟩
    | @win ticket formula v current live asked right =>
      obtain rfl : s.id = id := by simpa [Effect.way?] using sets
      cases causes
      exact ⟨s, _, rfl, rfl, rfl, rfl, live, rfl, .won ticket formula v asked right⟩
    | _ => simp [Effect.way?] at sets
  | _ => cases sets

end

theorem allows_more {l : Line} {lines : List Line} {c : Made} (allows : l.Allows lines c)
    (more : List Line) : l.Allows (lines ++ more) c := by
  cases allows with
  | start visit k brings => exact .start visit k brings
  | alive visit x brings last => exact .alive visit x brings last
  | picture visit id brings last => exact .picture visit id brings last
  | command ticket shown live => exact .command ticket shown live
  | result leaves brings shown ended there decides same =>
    exact .result leaves brings shown ended (List.mem_append_left _ there) decides same

def Allowed (first : Route) (j : Journal) (n : Nat) (c : Made) : Prop :=
  (n = 0 ∧ Stage.arrivalCalls first = [c.call]) ∨
    ∃ l ∈ j.lines, l.calls = j.calls.take n ∧ c.call ∈ l.actions.filterMap Action.call? ∧
      l.Allows j.lines c

structure Ordered (first : Route) (j : Journal) (stage : Stage) : Prop where
  said : stage.Said first j.routes.length j.calls
  decided : ∀ n id, j.Ahead n (.result id) → ∃ d ∈ j.lines, d.Decides n id ∧ d.routes = j.routes
  allowed : ∀ n c, j.calls[n]? = some c → j.Allowed first n c

theorem ordered_opened (route : Route) :
    Ordered route (opened route) (.ofRoute route) := by
  cases route with
  | home => exact ⟨said_opened .home, nofun, nofun⟩
  | session id =>
    refine ⟨said_opened (.session id), nofun, ?_⟩
    rintro (_ | n) c there <;> cases there
    exact .inl ⟨rfl, rfl⟩
  | result id =>
    refine ⟨said_opened (.result id), nofun, ?_⟩
    rintro (_ | n) c there <;> cases there
    exact .inl ⟨rfl, rfl⟩

section

variable {settings : Settings} {around : Surroundings} {m : Move} {event : Event} {first : Route}
  {j k : Journal} {stage next : Stage} {entered : List Route}

theorem answers_last (kept : Kept j stage) (brings : j.event? m = some event)
    (enters : event.enters = true) (r : App × List Action) :
    ∃ c reply, event = .reply reply ∧ c.AnsweredBy reply ∧
      (j.line around m r).AnswersLast c := by
  obtain ⟨n, outcomes, c, rfl, out, rfl, entry⟩ := brings_entry brings enters
  exact ⟨c.call, _, rfl, reply_answers outcomes c.call, n, outcomes, c.visit, rfl, out.1,
    (kept.entry n c out entry).2.1⟩

theorem passage_allows (kept : Kept j stage) (ordered : Ordered first j stage)
    (brings : j.event? m = some event) {new : List Call} {set : List Route}
    (passage : Passage settings around.now event stage next new set)
    (enters : Enters event stage.route next.route entered) (r : App × List Action) {c : Call}
    (made : c ∈ new) : (j.line around m r).Allows j.lines ⟨(j.routes ++ entered).length, c⟩ := by
  cases passage with
  | start k =>
    rw [List.mem_singleton.mp made]
    exact .start _ k brings
  | startAgain k page =>
    rw [List.mem_singleton.mp made]
    exact .start _ k brings
  | started x =>
    rw [List.mem_singleton.mp made]
    obtain ⟨_, _, same, answered, last⟩ := answers_last kept brings rfl r
    cases same
    cases answered
    exact .alive _ x brings last
  | confirmed id =>
    rw [List.mem_singleton.mp made]
    obtain ⟨_, _, same, answered, last⟩ := answers_last kept brings rfl r
    cases same
    cases answered
    exact .picture _ id brings last
  | @played _ operation s causes =>
    have same := Session.apply_id kept.sound operation
    obtain rfl := enters_stays enters (congrArg Route.session same) (causes_remains causes)
    rcases played_calls causes kept.sound with none | ⟨live, ticket, one⟩
    · rw [none] at made
      cases made
    · rw [one] at made
      rw [List.mem_singleton.mp made, List.append_nil]
      exact .command ticket kept.there.2.2.1 live
  | arrive route =>
    obtain ⟨n, leaves, ahead⟩ := brings_way brings
    obtain ⟨_, s, rfl, leaving, home | result⟩ := kept.way n route ahead
    · subst home
      cases made
    · subst result
      rw [List.mem_singleton.mp made]
      obtain ⟨d, there, decides, same⟩ := ordered.decided n s.id ahead
      have ended : s.ended = true := kept.sound.leaving.symm.trans leaving
      cases enters with
      | stays same => cases same
      | goes =>
        rw [List.length_append]
        exact .result leaves brings kept.there.2.2.1 ended there decides same
  | _ => cases made

theorem passage_decided (kept : Kept j stage) (ordered : Ordered first j stage)
    (brings : j.event? m = some event) {r : App × List Action} (there : r.1.At next)
    (passage : Passage settings around.now event stage next (r.2.filterMap Action.call?)
      (r.2.filterMap Action.way?))
    (enters : Enters event stage.route next.route entered) {n : Nat} {id : String}
    (place : (j.ways ++ r.2.filterMap Action.way?)[n]? = some (.result id))
    (left : n ∉ (j.strike m).gone) :
    ∃ d ∈ j.lines ++ [j.line around m r], d.Decides n id ∧ d.routes = j.routes ++ entered := by
  obtain ⟨_, _, ways⟩ := strike_keeps j m
  rcases grown_place place (passage_ways_one passage kept.sound) with old | ⟨new, rfl⟩
  · have ahead : (j.strike m).Ahead n (.result id) := ⟨ways ▸ old, left⟩
    obtain ⟨⟨_, s, rfl, leaving, _⟩, remains⟩ := kept_strike_way kept brings ahead
    obtain ⟨_, t, rfl, same, _⟩ := passage_leaving passage kept.sound leaving remains
    obtain ⟨d, written, decides, routes⟩ := ordered.decided n id (strike_ahead.mp ahead).1
    rw [enters_stays enters (congrArg Route.session same) remains, List.append_nil]
    exact ⟨d, List.mem_append_left _ written, decides, routes⟩
  · have sets : .result id ∈ r.2.filterMap Action.way? := by simp [new]
    obtain ⟨s, t, rfl, rfl, own, own', live, ended, finishes⟩ :=
      passage_finishes passage kept.sound sets
    have remains (route : Route) : event ≠ .navigate route := by
      rintro rfl
      cases finishes
    have same : t.id = s.id := own'.trans own.symm
    rw [enters_stays enters (congrArg Route.session same) remains, List.append_nil]
    refine ⟨j.line around m r, by simp, ⟨rfl, sets, event, s, t, brings, kept.there.2.2.1, ?_⟩, rfl⟩
    exact ⟨there.2.2.1, own, live, ended, finishes⟩

theorem allowed_more {more : List Made} {lines : List Line} {n : Nat} {c : Made}
    (allowed : j.Allowed first n c) (old : n < j.calls.length) (calls : k.calls = j.calls ++ more)
    (written : k.lines = j.lines ++ lines) : k.Allowed first n c := by
  rcases allowed with arrival | ⟨l, there, before, made, allows⟩
  · exact .inl arrival
  · refine .inr ⟨l, ?_, ?_, made, ?_⟩
    · rw [written]
      exact List.mem_append_left _ there
    · rw [before, calls, List.take_append_of_le_length (Nat.le_of_lt old)]
    · rw [written]
      exact allows_more allows lines

theorem ordered_advance (kept : Kept j stage) (ordered : Ordered first j stage)
    (advance : Advance settings around m j stage k next) : Ordered first k next := by
  cases advance with
  | silent => exact ordered
  | drawn limit =>
    refine ⟨ordered.said, fun n id ahead => ?_, fun n c place => ?_⟩
    · obtain ⟨d, there, decides, routes⟩ := ordered.decided n id ahead
      exact ⟨d, List.mem_append_left _ there, decides, routes⟩
    · obtain ⟨old, _⟩ := List.getElem?_eq_some_iff.mp place
      exact allowed_more (ordered.allowed n c place) old (List.append_nil _).symm rfl
  | @passed event _ entered r brings _ there passage enters =>
    have sound := kept.sound
    refine ⟨?_, ?_, ?_⟩
    · apply passage_said passage sound enters _ ordered.said
      rintro route rfl
      obtain ⟨n, _, ahead⟩ := brings_way brings
      obtain ⟨_, s, playing, _, target⟩ := kept.way n route ahead
      exact ⟨s, playing, target⟩
    · rintro n id ⟨place, left⟩
      exact passage_decided kept ordered brings there passage enters place left
    · intro n c place
      rcases grown_place place (passage_made_one passage sound _) with before | ⟨new, rfl⟩
      · obtain ⟨old, _⟩ := List.getElem?_eq_some_iff.mp before
        exact allowed_more (ordered.allowed n c before) old rfl rfl
      · obtain ⟨c', made, rfl⟩ := List.map_eq_singleton_iff.mp new
        have there : c' ∈ r.2.filterMap Action.call? := by simp [made]
        refine .inr ⟨j.line around m r, by simp, by simp [line], there, ?_⟩
        exact allows_more (passage_allows kept ordered brings passage enters r there) _

end

theorem run_protocol (settings : Settings) (route : Route) (moves : List (Surroundings × Move)) :
    let j := run settings moves (opened route)
    Protocol route j.calls ∧ ∀ n c, j.calls[n]? = some c → j.Allowed route n c := by
  obtain ⟨stage, _, ordered⟩ :=
    run_induction settings route (ordered_opened route) ordered_advance moves
  exact ⟨said_protocol ordered.said, ordered.allowed⟩

end Journal

end GuessClient
