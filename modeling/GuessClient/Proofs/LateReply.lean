import GuessClient.Proofs.Settled

/-!
Replies to commands that come late. A command carries the name of its session and the epoch, and
every session starts in epoch zero: so a reply to a session that has been left is passed over,
unless a session of the same name has come on screen since and has not ended.
-/

namespace GuessClient

namespace World

/-- The reply to a command changes something, or it makes the application do something. -/
def Takes (settings : Settings) (around : Surroundings) (w : World) (id : String) (ticket : Ticket)
    (outcome : Outcome Response) : Prop :=
  App.handle around settings (.reply (.command id ticket outcome)) w.app ≠ (w.app, [])

def Plays (w : World) (id : String) : Prop :=
  ∃ s, w.app.session = some s ∧ s.id = id ∧ s.ended = false

end World

namespace App

theorem command_hidden {settings : Settings} {around : Surroundings} {a : App} {id : String}
    (hidden : ∀ s, a.session = some s → s.id ≠ id) (ticket : Ticket) (outcome : Outcome Response) :
    handle around settings (.reply (.command id ticket outcome)) a = (a, []) := by
  have other : a.shows id = false := by
    cases session : a.session with
    | none => simp [shows, session]
    | some s => simp [shows, session, hidden s session]
  simp [handle, onReply, other]

theorem command_shown {settings : Settings} {around : Surroundings} {a : App} {s : Session}
    (session : a.session = some s) (ticket : Ticket) (outcome : Outcome Response) :
    (handle around settings (.reply (.command s.id ticket outcome)) a).1.session =
      some (Session.onReply ticket outcome s).1 := by
  have shown : a.shows s.id = true := by simp [shows, session]
  simp [handle, onReply, shown, inSession, session, carried_app, Session.apply]

theorem command_over {settings : Settings} {around : Surroundings} {a : App} {s : Session}
    (there : a.At (.playing s)) (sound : s.status.Sound) (ended : s.ended = true) {ticket : Ticket}
    (first : ticket.epoch = 0) (outcome : Outcome Response) :
    handle around settings (.reply (.command s.id ticket outcome)) a = (a, []) := by
  have session : a.session = some s := there.2.2.1
  have shown : a.shows s.id = true := by simp [shows, session]
  have epoch := Session.sound_second sound ended
  have next : ticket.epoch ≠ s.epoch := by omega
  have stale := Session.reply_stale next outcome
  have same : { a with session := some s } = a := by rw [← session]
  simp [handle, onReply, shown, inSession, session, Session.apply, stale, Transition.all,
    Transition.stay, same]

end App

theorem settled_takes {w : World} {stage : Stage} (settled : Settled w stage) {c : Sent Call}
    (out : c ∈ w.calls) {id : String} {ticket : Ticket} (command : c.content = .command id ticket)
    (settings : Settings) (around : Surroundings) (outcome : Outcome Response) :
    w.Takes settings around id ticket outcome ↔ w.Plays id := by
  have first : ticket.epoch = 0 := (settled.stamped c out id ticket command).1
  constructor
  · intro taken
    cases stage with
    | playing s =>
      have session : w.app.session = some s := settled.there.session?
      by_cases same : s.id = id
      · subst same
        cases live : s.ended with
        | false => exact ⟨s, session, rfl, live⟩
        | true =>
          refine absurd ?_ taken
          exact App.command_over settled.there settled.sound live first outcome
      · have hidden : ∀ t, w.app.session = some t → t.id ≠ id := by
          intro t shown
          rwa [← Option.some.inj (session.symm.trans shown)]
        exact absurd (App.command_hidden hidden ticket outcome) taken
    | _ =>
      have hidden : ∀ t, w.app.session = some t → t.id ≠ id := by
        intro t shown
        cases settled.there.session?.symm.trans shown
      exact absurd (App.command_hidden hidden ticket outcome) taken
  · intro plays untouched
    obtain ⟨s, session, rfl, live⟩ := plays
    obtain rfl : stage = .playing s := settled.stage_eq session
    have current : ticket.epoch = s.epoch := by
      rw [first, Session.sound_first settled.sound live]
    -- the log has grown, so the application is not what it was
    have logged := Session.reply_logged settled.sound current outcome
    have shown := congrArg (fun r => r.1.session) untouched
    rw [App.command_shown session, session] at shown
    have same : s.messages = s.messages ++ [Session.told ticket.request outcome] := by
      rw [← logged, Option.some.inj shown]
    simpa using congrArg List.length same

/-- Where no name comes twice, the session of that name is the one that has sent the command. -/
theorem settled_sender {w : World} {stage : Stage} (settled : Settled w stage) {c : Sent Call}
    (out : c ∈ w.calls) {id : String} {ticket : Ticket} (command : c.content = .command id ticket)
    (unlike : w.visited.Nodup) (plays : w.Plays id) : c.sender = w.onScreen := by
  obtain ⟨_, n, sender, place⟩ := settled.stamped c out id ticket command
  obtain ⟨s, session, rfl, _⟩ := plays
  obtain rfl : stage = .playing s := settled.stage_eq session
  obtain ⟨last, length, place'⟩ := last_place (settled.visited s rfl)
  have bound : n < w.visited.length := (List.getElem?_eq_some_iff.mp place).1
  have same : n = last := (List.getElem?_inj bound unlike).mp (place.trans place'.symm)
  rw [sender, World.onScreen, session, same, ← length]
  rfl

namespace World

theorem reached_takes_iff {settings : Settings} {route : Route} {w : World}
    (reached : Reached settings route w) {c : Sent Call} (out : c ∈ w.calls) {id : String}
    {ticket : Ticket} (command : c.content = .command id ticket) (around : Surroundings)
    (outcome : Outcome Response) :
    (w.Takes settings around id ticket outcome ↔ w.Plays id) ∧
      ((w.Takes settings around id ticket outcome → c.sender = w.onScreen) ↔
        ¬ (w.Plays id ∧ c.sender ≠ w.onScreen)) ∧
      (w.visited.Nodup → w.Takes settings around id ticket outcome → c.sender = w.onScreen) := by
  obtain ⟨stage, settled⟩ := reached_settled reached
  have taken := settled_takes settled out command settings around outcome
  refine ⟨taken, ?_, ?_⟩
  · rw [taken, not_and, ne_eq, Classical.not_not]
  · rw [taken]
    exact settled_sender settled out command

def asking : World :=
  run { hintDirectory := "" }
    [({ now := 0 }, .answer 0 { alive := .ok () }), ({ now := 0 }, .key ⟨.char 'x', false⟩),
      ({ now := 0 }, .key ⟨.enter, false⟩)]
    (opened (.session "a"))

def returned : World :=
  run { hintDirectory := "" }
    [({ now := 0 }, .answer 0 {}), ({ now := 0 }, .leave 0), ({ now := 0 }, .key ⟨.enter, false⟩),
      ({ now := 0 }, .answer 1 { started := .ok ⟨"a"⟩ }),
      ({ now := 0 }, .answer 1 { alive := .ok () })]
    asking

theorem asking_calls :
    asking.calls = [⟨some 1, .picture "a"⟩, ⟨some 1, .command "a" ⟨0, .answer "x"⟩⟩] := by
  rfl

theorem returned_calls :
    returned.calls = [⟨some 1, .command "a" ⟨0, .answer "x"⟩⟩, ⟨some 2, .picture "a"⟩] := by
  rfl

theorem asking_plays : asking.Plays "a" ∧ asking.onScreen = some 1 := ⟨⟨_, rfl, rfl, rfl⟩, rfl⟩

theorem returned_plays : returned.Plays "a" ∧ returned.onScreen = some 2 :=
  ⟨⟨_, rfl, rfl, rfl⟩, rfl⟩

theorem takes_asked :
    Reached { hintDirectory := "" } (.session "a") asking ∧
      ⟨some 1, .command "a" ⟨0, .answer "x"⟩⟩ ∈ asking.calls ∧
      asking.Takes { hintDirectory := "" } { now := 0 } "a" ⟨0, .answer "x"⟩ (.error .transport) ∧
      asking.onScreen = some 1 := by
  have reached : Reached { hintDirectory := "" } (.session "a") asking := ⟨_, rfl⟩
  have out : ⟨some 1, .command "a" ⟨0, .answer "x"⟩⟩ ∈ asking.calls := by simp [asking_calls]
  obtain ⟨plays, present⟩ := asking_plays
  obtain ⟨taken, _⟩ := reached_takes_iff reached out rfl { now := 0 } (.error .transport)
  exact ⟨reached, out, taken.mpr plays, present⟩

/-- The second session called "a" takes the reply to the command of the first. -/
theorem takes_of_another :
    ¬ ∀ (settings : Settings) (route : Route) (w : World), Reached settings route w →
      ∀ c ∈ w.calls, ∀ id ticket, c.content = .command id ticket → ∀ around outcome,
        w.Takes settings around id ticket outcome → c.sender = w.onScreen := by
  intro law
  have first : Reached { hintDirectory := "" } (.session "a") asking := ⟨_, rfl⟩
  have reached : Reached { hintDirectory := "" } (.session "a") returned := reached_run first _
  have out : ⟨some 1, .command "a" ⟨0, .answer "x"⟩⟩ ∈ returned.calls := by simp [returned_calls]
  obtain ⟨plays, present⟩ := returned_plays
  obtain ⟨stage, settled⟩ := reached_settled reached
  have takes := (settled_takes settled out rfl { hintDirectory := "" } { now := 0 }
    (.error .transport)).mpr plays
  have own := law _ _ _ reached _ out _ _ rfl _ _ takes
  rw [present] at own
  cases own

end World

end GuessClient
