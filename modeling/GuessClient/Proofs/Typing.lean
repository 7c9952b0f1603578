import Mathlib.Data.List.DropRight
import GuessClient.Proofs.Bookkeeping

/-!
What the player types. In a closed run the input is what the keys have made of an empty text since the
session came on screen, or since the last text was handed in; nothing else touches it. Enter hands in
just that text, without the white space at its ends, to the log and to the server.
-/

namespace GuessClient

def Key.types (k : Key) (text : String) : String :=
  match k.code with
  | .char c => if k.control then text else text.push c
  | .backspace => App.dropLast text
  | _ => text

/-- What of a text is logged in a mode, and what is asked; a number must be a finite one. -/
inductive Asks (text : String) : Mode → String → Option Request → Prop where
  | answer : Asks text .answer ("[COMMAND: ANS] " ++ text) (some (.answer text))
  | substitute {x : Float} (reads : Decimal.read? text = some x)
      (finite : Decimal.isFinite x = true) :
      Asks text .substitute ("[COMMAND: INPUT] " ++ text) (some (.substitute x text))
  | misread (unfit : ∀ x, Decimal.read? text = some x → Decimal.isFinite x = false) :
      Asks text .substitute ("[COMMAND: INPUT] " ++ text) none
  | chat : Asks text .chat text (some (.chat text))

namespace App

def accepts (a : App) : Event → Bool
  | .key k =>
    k.code = .enter && !(Text.trim a.input).isEmpty &&
      a.session.any fun s => !s.loading && !s.ended
  | _ => false

inductive Entered (a : App) (s : Session) : App × List Action → Prop where
  | refused (refused : (Text.trim a.input).isEmpty = true ∨ s.loading = true ∨ s.ended = true) :
      Entered a s (a, [])
  | asked {shown : String} {request : Request} (filled : (Text.trim a.input).isEmpty = false)
      (free : s.loading = false ∧ s.ended = false)
      (asks : Asks (Text.trim a.input) s.mode shown (some request)) :
      Entered a s
        ({ a with
            input := ""
            scroll := 0
            session := some
              { s with messages := s.messages ++ [.player shown], loading := true } },
          [.call (.command s.id ⟨s.epoch, request⟩)])
  | misread {shown : String} (filled : (Text.trim a.input).isEmpty = false)
      (free : s.loading = false ∧ s.ended = false)
      (asks : Asks (Text.trim a.input) s.mode shown none) :
      Entered a s
        ({ a with
            input := ""
            scroll := 0
            session := some
              { s with
                messages := s.messages ++ [.player shown, .error Session.calculationText] } },
          [])

end App

theorem asks_request (mode : Mode) (text : String) :
    ∃ shown, Session.echo mode text = .player shown ∧
      Asks text mode shown (Session.request? mode text) := by
  cases mode with
  | answer => exact ⟨_, rfl, .answer⟩
  | chat => exact ⟨_, rfl, .chat⟩
  | substitute =>
    refine ⟨_, rfl, ?_⟩
    cases made : (Decimal.read? text).filter Decimal.isFinite with
    | none =>
      rw [Session.request?, made]
      refine .misread fun x reads => ?_
      simpa [reads] using made
    | some x =>
      obtain ⟨reads, finite⟩ := Option.filter_eq_some_iff.mp made
      rw [Session.request?, made]
      exact .substitute reads finite

namespace App

variable {a : App} {s : Session} {settings : Settings} {around : Surroundings}

theorem enter_entered (session : a.session = some s) : Entered a s (enter a) := by
  by_cases refused : (Text.trim a.input).isEmpty = true ∨ s.locked = true
  · have same : enter a = (a, []) := by
      simp [enter, session, Session.submit_refused refused]
    rw [same]
    exact .refused (refused.imp_right (Session.locked_iff s).mp)
  · simp only [not_or, Bool.not_eq_true] at refused
    obtain ⟨filled, free⟩ := refused
    obtain ⟨shown, echo, asks⟩ := asks_request s.mode (Text.trim a.input)
    cases made : Session.request? s.mode (Text.trim a.input) with
    | some request =>
      have sent := Session.submit_asked filled free made
      rw [echo] at sent
      rw [made] at asks
      simp only [enter, session, sent, inSession, Session.apply, Option.getD_some]
      exact .asked filled ((Session.free_iff s).mp free) asks
    | none =>
      have noted := Session.submit_misread filled free made
      rw [echo] at noted
      rw [made] at asks
      simp only [enter, session, noted, inSession, Session.apply, Option.getD_some]
      exact .misread filled ((Session.free_iff s).mp free) asks

theorem save_input (a : App) (around : Surroundings) (settings : Settings) :
    (saveHint around settings a).1.input = a.input ∧
      (saveHint around settings a).2.filterMap Action.call? = [] := by
  unfold saveHint
  split
  · exact ⟨rfl, rfl⟩
  · split
    · exact ⟨rfl, rfl⟩
    · split
      · exact ⟨rfl, rfl⟩
      · cases settings.openHints <;> exact ⟨rfl, rfl⟩

theorem session_input (step : Session.Step) (a : App) :
    (inSession step a).1.input = a.input := by
  unfold inSession
  split
  · rfl
  · rw [carried_app]

theorem session_key_types (session : a.session = some s) {k : Key} (other : k.code ≠ .enter) :
    let r := onSessionKey around settings k a
    r.1.input = (if s.locked then a.input else k.types a.input) ∧
      r.2.filterMap Action.call? = [] := by
  have kept (same : k.types a.input = a.input) {b : App} (input : b.input = a.input) :
      b.input = if s.locked then a.input else k.types a.input := by
    rw [input, same, ite_self]
  have edited {f : String → String} (types : k.types a.input = f a.input) :
      (a.edit f).input = if s.locked then a.input else k.types a.input := by
    rw [types, edit, session]
    cases locked : s.locked <;> simp [locked]
  have toggled {operation : Session.Operation}
      (quiet : (Session.apply operation s).2 = []) :
      (inSession (Session.apply operation) a).2.filterMap Action.call? = [] := by
    simp only [inSession, session, carried_calls, quiet]
    rfl
  obtain ⟨code, control⟩ := k
  simp only [onSessionKey, session, Option.isNone_some, Bool.false_eq_true, ↓reduceIte]
  cases code with
  | enter => exact absurd rfl other
  | tab => exact ⟨kept rfl (session_input _ a), toggled rfl⟩
  | backTab => exact ⟨kept rfl (session_input _ a), toggled rfl⟩
  | backspace => exact ⟨edited rfl, rfl⟩
  | up => exact ⟨kept rfl rfl, rfl⟩
  | down => exact ⟨kept rfl rfl, rfl⟩
  | pageUp => exact ⟨kept rfl rfl, rfl⟩
  | pageDown => exact ⟨kept rfl rfl, rfl⟩
  | escape => exact ⟨kept rfl rfl, rfl⟩
  | other => exact ⟨kept rfl rfl, rfl⟩
  | char c =>
    cases control with
    | false => exact ⟨edited rfl, rfl⟩
    | true =>
      by_cases hint : c = 'o'
      · obtain ⟨input, calls⟩ := save_input a around settings
        simp only [hint, Bool.not_true, Bool.false_eq_true, ↓reduceIte]
        exact ⟨kept rfl input, calls⟩
      · simpa [hint] using kept rfl rfl

theorem handle_enter (there : a.At (.playing s)) {k : Key} (enters : k.code = .enter) :
    Entered a s (handle around settings (.key k) a) := by
  obtain ⟨screen, _, session, _⟩ := there
  have handled : handle around settings (.key k) a = enter a := by
    simp [handle, onKey, isQuitKey, enters, screen, onSessionKey, session]
  rw [handled]
  exact enter_entered session

theorem handle_types (there : a.At (.playing s)) {k : Key} (other : k.code ≠ .enter) :
    let r := handle around settings (.key k) a
    r.1.input = (if s.locked then a.input else k.types a.input) ∧
      r.2.filterMap Action.call? = [] := by
  obtain ⟨screen, _, session, _⟩ := there
  by_cases quits : isQuitKey k = true
  · have same : k.types a.input = a.input := by
      simp only [isQuitKey, Bool.or_eq_true, Bool.and_eq_true, decide_eq_true_eq] at quits
      rcases quits with escape | ⟨control, code⟩
      · simp [Key.types, escape]
      · simp [Key.types, code, control]
    simp only [handle, onKey, quits, ↓reduceIte]
    rw [same, ite_self]
    exact ⟨rfl, rfl⟩
  · simp only [handle, onKey, quits, screen]
    exact session_key_types session other

theorem key_hidden (hidden : a.session = none) (k : Key) :
    (handle around settings (.key k) a).1.session = none := by
  have started : (startGame a).1.session = none := by
    unfold startGame
    split
    · unfold requestStart
      split <;> exact hidden
    · rfl
  unfold handle onKey onSessionKey
  simp only [hidden, Option.isNone_none, ↓reduceIte]
  split
  · rfl
  · split
    · exact started
    · exact hidden
    · exact hidden
    · exact started
    · exact started
    · rfl
    · exact hidden

theorem handle_input {event : Event} (other : ∀ k, event ≠ .key k)
    (shown : (handle around settings event a).1.session.isSome = true) :
    (handle around settings event a).1.input = a.input := by
  cases event with
  | key k => exact absurd rfl (other k)
  | resize | tick => rfl
  | countdown => exact session_input _ a
  | navigate route => cases route <;> cases shown
  | reply r =>
    revert shown
    cases r with
    | started outcome =>
      simp only [handle, onReply, onStarted]
      split
      · exact fun _ => rfl
      · cases outcome with
        | ok x => exact fun hidden => by cases hidden
        | error failure => exact fun _ => rfl
    | alive id outcome =>
      simp only [handle, onReply, onAlive]
      split
      · exact fun _ => rfl
      · cases outcome with
        | ok x => exact fun _ => session_input _ _
        | error failure => exact fun hidden => by cases hidden
    | picture id outcome =>
      simp only [handle, onReply]
      split
      · exact fun _ => session_input _ a
      · exact fun _ => rfl
    | command id ticket outcome =>
      simp only [handle, onReply]
      split
      · exact fun _ => session_input _ a
      · exact fun _ => rfl
    | result id outcome =>
      simp only [handle, onReply, onResult]
      split
      · exact fun _ => rfl
      · split
        · exact fun _ => rfl
        · cases outcome with
          | ok x => exact fun _ => rfl
          | error failure => exact fun hidden => by cases hidden

end App

namespace Line

def renews (l : Line) : Bool := l.before.session.isNone || l.event.any l.before.accepts

def key? (l : Line) : Option Key :=
  match l.event with
  | some (.key k) => if l.before.session.any (!·.locked) then some k else none
  | _ => none

/-- The text that the keys have made since the session came on screen, or since a text was handed in. -/
def typed (lines : List Line) : String :=
  ((lines.rtakeWhile (!·.renews)).filterMap key?).foldl (fun text k => k.types text) ""

theorem typed_snoc (lines : List Line) (l : Line) :
    typed (lines ++ [l]) =
      if l.renews then ""
      else match l.key? with
        | some k => k.types (typed lines)
        | none => typed lines := by
  rw [typed, List.rtakeWhile_concat]
  cases renews : l.renews with
  | true => simp
  | false =>
    cases key : l.key? <;> simp [typed, key]

/-- A command has been asked for on the line, with the text that the keys on earlier ones have made. -/
def HandsIn (l : Line) (earlier : List Line) (id : String) (ticket : Ticket) : Prop :=
  l.event.any l.before.accepts = true ∧
    ∃ s shown, l.before.session = some s ∧ s.id = id ∧ s.epoch = ticket.epoch ∧
      Asks (Text.trim (typed earlier)) s.mode shown (some ticket.request)

end Line

theorem asks_finite {text shown raw : String} {mode : Mode} {x : Float}
    (asks : Asks text mode shown (some (.substitute x raw))) :
    Decimal.read? raw = some x ∧ Decimal.isFinite x = true := by
  cases asks with
  | substitute reads finite => exact ⟨reads, finite⟩

section

variable {settings : Settings} {around : Surroundings} {event : Event} {stage next : Stage}

theorem passage_command {new : List Call} {set : List Route}
    (passage : Passage settings around.now event stage next new set) (sound : stage.Sound)
    {id : String} {ticket : Ticket} (sends : .command id ticket ∈ new) :
    ∃ s k, stage = .playing s ∧ event = .key k := by
  cases passage with
  | @played _ operation s causes =>
    have turn := Session.apply_turn sound operation
    generalize (Session.apply operation s).1.status = status at turn
    generalize (Session.apply operation s).2 = effects at turn sends
    cases turn with
    | ask =>
      cases causes with
      | submit k => exact ⟨s, k, rfl, rfl⟩
    | begin => cases causes
    | _ => simp [Effect.call?] at sends
  | arrive route => cases route <;> simp [Stage.arrivalCalls] at sends
  | _ => simp at sends

theorem command_asked {a : App} (there : a.At stage) (sound : stage.Sound) {id : String}
    {ticket : Ticket}
    (sends : .command id ticket ∈ (App.handle around settings event a).2.filterMap Action.call?) :
    a.accepts event = true ∧ ∃ s shown, a.session = some s ∧ s.id = id ∧ s.epoch = ticket.epoch ∧
      Asks (Text.trim a.input) s.mode shown (some ticket.request) := by
  have leads : App.Leads settings around.now event stage _ := App.handle_leads there sound event
  obtain ⟨next, _, passage⟩ := leads
  -- the passage only tells that it was a key
  obtain ⟨s, k, rfl, rfl⟩ := passage_command passage sound sends
  by_cases enters : k.code = .enter
  · have entered : App.Entered a s (App.handle around settings (.key k) a) :=
      App.handle_enter there enters
    generalize App.handle around settings (.key k) a = r at entered sends
    cases entered with
    | refused => cases sends
    | misread => cases sends
    | @asked shown request filled free asks =>
      obtain ⟨rfl, rfl⟩ : id = s.id ∧ ticket = ⟨s.epoch, request⟩ := by
        simpa [Action.call?] using sends
      refine ⟨?_, s, shown, there.2.2.1, rfl, rfl, asks⟩
      simp [App.accepts, enters, filled, there.2.2.1, free]
  · rw [(App.handle_types there enters).2] at sends
    cases sends

end

namespace Journal

structure Typed (j : Journal) : Prop where
  tidy : j.app.Tidy
  input : j.app.session.isSome = true → j.app.input = Line.typed j.lines
  sent : ∀ c ∈ j.calls, ∀ id ticket, c.call = .command id ticket →
    ∃ earlier l later, j.lines = earlier ++ l :: later ∧ l.HandsIn earlier id ticket

theorem typed_opened (route : Route) : Typed (opened route) := by
  cases route with
  | home => exact ⟨fun _ => ⟨rfl, rfl, rfl⟩, nofun, nofun⟩
  | session id | result id =>
    refine ⟨fun _ => ⟨rfl, rfl, rfl⟩, nofun, ?_⟩
    rintro c (_ | ⟨_, ⟨⟩⟩) id ticket ⟨⟩

section

variable {settings : Settings} {around : Surroundings} {m : Move} {j k : Journal}
  {stage next : Stage}

theorem sent_more {lines : List Line} {l : Line} {id : String} {ticket : Ticket}
    (sent : ∃ earlier l later, lines = earlier ++ l :: later ∧ l.HandsIn earlier id ticket) :
    ∃ earlier l' later, lines ++ [l] = earlier ++ l' :: later ∧ l'.HandsIn earlier id ticket := by
  obtain ⟨earlier, l', later, rfl, hands⟩ := sent
  exact ⟨earlier, l', later ++ [l], by simp, hands⟩

theorem line_renews {event : Event} {s : Session} (session : j.app.session = some s)
    (brings : j.event? m = some event) (r : App × List Action) :
    (j.line around m r).renews = j.app.accepts event := by
  simp [Line.renews, line, session, brings]

theorem line_key {k : Key} {s : Session} (session : j.app.session = some s)
    (brings : j.event? m = some (.key k)) (r : App × List Action) :
    (j.line around m r).key? = if s.locked then none else some k := by
  cases locked : s.locked <;> simp [Line.key?, line, session, brings, locked]

theorem passed_input {event : Event} (kept : Kept j stage) (typed : Typed j)
    (brings : j.event? m = some event)
    (shown : (App.handle around settings event j.app).1.session.isSome = true) :
    (App.handle around settings event j.app).1.input =
      Line.typed (j.lines ++ [j.line around m (App.handle around settings event j.app)]) := by
  rw [Line.typed_snoc]
  cases session : j.app.session with
  | none =>
    have renews : (j.line around m (App.handle around settings event j.app)).renews = true := by
      simp [Line.renews, line, session]
    -- without a session the input is empty, and only an answer can bring one
    rw [renews, if_pos rfl, ← (typed.tidy session).1]
    apply App.handle_input _ shown
    rintro k rfl
    have hidden : (App.handle around settings (.key k) j.app).1.session = none :=
      App.key_hidden session k
    simp [hidden] at shown
  | some s =>
    obtain rfl := App.At.stage_eq kept.there session
    have input := typed.input (by rw [session]; rfl)
    rw [line_renews session brings]
    cases event with
    | key k =>
      rw [line_key session brings, ← input]
      by_cases enters : k.code = .enter
      · have same : k.types j.app.input = j.app.input := by simp [Key.types, enters]
        have entered : App.Entered j.app s (App.handle around settings (.key k) j.app) :=
          App.handle_enter kept.there enters
        generalize App.handle around settings (.key k) j.app = r at entered ⊢
        cases entered with
        | refused refused =>
          have stays : j.app.accepts (.key k) = false := by
            simpa [App.accepts, enters, session, or_iff_not_imp_left] using refused
          rw [stays]
          cases s.locked <;> simp [same]
        | asked filled free => simp [App.accepts, enters, session, filled, free]
        | misread filled free => simp [App.accepts, enters, session, filled, free]
      · have stays : j.app.accepts (.key k) = false := by simp [App.accepts, enters]
        rw [(App.handle_types kept.there enters).1, stays]
        cases s.locked <;> rfl
    | _ =>
      have same := App.handle_input (by simp) shown
      rw [same, input]
      simp [Line.key?, line, brings, App.accepts]

theorem typed_advance (kept : Kept j stage) (typed : Typed j)
    (advance : Advance settings around m j stage k next) : Typed k := by
  cases advance with
  | silent => exact typed
  | drawn limit draws =>
    refine ⟨typed.tidy, ?_, ?_⟩
    · intro shown
      have quiet : j.event? m = none := by rw [draws]; rfl
      have stays : (j.line around m (j.app.setScrollLimit limit, [])).renews = false := by
        rw [Line.renews, line, quiet, Option.any_none, Bool.or_false]
        exact Option.isNone_eq_false_iff.mpr shown
      rw [Line.typed_snoc, stays, ← typed.input shown]
      simp [Line.key?, line, quiet, App.setScrollLimit]
    · intro c made id ticket same
      exact sent_more (typed.sent c made id ticket same)
  | @passed event _ entered r brings handled there passage enters =>
    subst handled
    refine ⟨?_, passed_input kept typed brings, ?_⟩
    · exact App.moved_tidy (App.handle_moved kept.there around settings event) typed.tidy
    · intro c made id ticket same
      rcases List.mem_append.mp made with old | new
      · exact sent_more (typed.sent c old id ticket same)
      · obtain ⟨call, sends, rfl⟩ := List.mem_map.mp new
        obtain rfl : call = .command id ticket := same
        obtain ⟨accepts, s, shown, session, own, epoch, asks⟩ :=
          command_asked kept.there kept.sound sends
        -- the new line is the last one, so what was typed before it is the input now
        refine ⟨j.lines, _, [], rfl, ?_, s, shown, session, own, epoch, ?_⟩
        · simpa [line, brings] using accepts
        · have shown' : j.app.session.isSome = true := by rw [session]; rfl
          rw [← typed.input shown']
          exact asks

end

/-- The input in every closed run, what Enter makes of it, and what the commands asked for. -/
theorem run_typed (settings : Settings) (route : Route) (moves : List (Surroundings × Move)) :
    let j := run settings moves (opened route)
    (j.app.session.isSome = true → j.app.input = Line.typed j.lines) ∧
    (∀ around k s, k.code = .enter → j.app.session = some s →
      j.app.Entered s (App.handle around settings (.key k) j.app)) ∧
    ∀ c ∈ j.calls, ∀ id ticket, c.call = .command id ticket →
      (∃ earlier l later, j.lines = earlier ++ l :: later ∧ l.HandsIn earlier id ticket) ∧
      ∀ x raw, ticket.request = .substitute x raw →
        Decimal.read? raw = some x ∧ Decimal.isFinite x = true := by
  obtain ⟨stage, kept, typed⟩ :=
    run_induction settings route (typed_opened route) typed_advance moves
  refine ⟨typed.input, ?_, ?_⟩
  · intro around k s enters session
    obtain rfl := kept.there.stage_eq session
    exact App.handle_enter kept.there enters
  · intro c made id ticket same
    have sent := typed.sent c made id ticket same
    refine ⟨sent, ?_⟩
    intro x raw request
    obtain ⟨_, _, _, _, _, _, _, _, _, _, asks⟩ := sent
    exact asks_finite (request ▸ asks)

example :
    let moves : List Move := [.answer 0 { alive := .ok () }, .key ⟨.char 'x', false⟩,
      .key ⟨.char 'c', false⟩, .key ⟨.backspace, false⟩, .key ⟨.char ' ', false⟩]
    let j := run { hintDirectory := "" } (moves.map (⟨0, false⟩, ·)) (opened (.session "a"))
    j.app.input = "x " ∧ Line.typed j.lines = "x " := by
  decide +kernel

end Journal

end GuessClient
