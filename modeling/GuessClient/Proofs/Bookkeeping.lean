import Mathlib.Data.List.Induction
import GuessClient.Proofs.Journal

/-!
What a journal says of the stage that the application is at: on which screen each call was made,
that a call into a session is the last one made if it is still out, and that a way still ahead has
been set by the session on screen.
-/

namespace GuessClient

theorem reply_enters (c : Call) (outcomes : Outcomes) :
    (Event.reply (c.reply outcomes)).enters = c.enters := by
  cases c <;> rfl

section

variable {settings : Settings} {now : Float} {event : Event} {stage next : Stage}
  {new : List Call} {set : List Route}

theorem turn_calls_one {s : Session} {operation : Session.Operation} {t : Session.Status}
    {effects : List Effect} (turn : s.Turn operation t effects) :
    effects.filterMap (Effect.call? s.id) = [] ∨
      ∃ c, effects.filterMap (Effect.call? s.id) = [c] ∧ c.route = .session s.id := by
  cases turn with
  | begin => exact .inr ⟨_, rfl, rfl⟩
  | ask => exact .inr ⟨_, rfl, rfl⟩
  | _ => exact .inl rfl

theorem passage_calls_one (passage : Passage settings now event stage next new set)
    (sound : stage.Sound) : new = [] ∨ ∃ c, new = [c] ∧ c.route = next.route := by
  cases passage with
  | stay => exact .inl rfl
  | turnHome => exact .inl rfl
  | notStarted => exact .inl rfl
  | gone => exact .inl rfl
  | shown => exact .inl rfl
  | notShown => exact .inl rfl
  | start => exact .inr ⟨_, rfl, rfl⟩
  | startAgain => exact .inr ⟨_, rfl, rfl⟩
  | started => exact .inr ⟨_, rfl, rfl⟩
  | confirmed => exact .inr ⟨_, rfl, rfl⟩
  | @played _ operation s =>
    rw [Stage.route, Session.apply_id sound operation]
    exact turn_calls_one (Session.apply_turn sound operation)
  | arrive route =>
    cases route with
    | home => exact .inl rfl
    | session id => exact .inr ⟨_, rfl, rfl⟩
    | result id => exact .inr ⟨_, rfl, rfl⟩

theorem passage_waits (passage : Passage settings now event stage next new set)
    (waits : stage.entryCalls ≠ []) (other : event.enters = false)
    (remains : ∀ route, event ≠ .navigate route) : next = stage ∧ new = [] := by
  cases passage with
  | stay => exact ⟨rfl, rfl⟩
  | arrive route => exact absurd rfl (remains route)
  | started => cases other
  | notStarted => cases other
  | confirmed => cases other
  | gone => cases other
  | _ => exact absurd rfl waits

theorem passage_leaving {s : Session}
    (passage : Passage settings now event (.playing s) next new set) (sound : s.status.Sound)
    (leaving : s.leaving = true) (remains : ∀ route, event ≠ .navigate route) :
    set = [] ∧ ∃ t, next = .playing t ∧ t.id = s.id ∧ t.leaving = true := by
  cases passage with
  | stay => exact ⟨rfl, s, rfl, rfl, leaving⟩
  | arrive route => exact absurd rfl (remains route)
  | @played _ operation =>
    have turn := Session.apply_turn sound operation
    rcases Session.turn_ways sound turn with ⟨same, none⟩ | ⟨staying, _⟩
    · exact ⟨none, _, rfl, Session.apply_id sound operation, Eq.trans same leaving⟩
    · cases leaving.symm.trans staying

theorem passage_sets (passage : Passage settings now event stage next new set)
    (sound : stage.Sound) {route : Route} (sets : route ∈ set) :
    set = [route] ∧ ∃ s t, stage = .playing s ∧ s.leaving = false ∧ next = .playing t ∧
      t.leaving = true ∧ (route = .home ∨ route = .result t.id) := by
  cases passage with
  | @played _ operation s =>
    have turn := Session.apply_turn sound operation
    have same := Session.apply_id sound operation
    rcases Session.turn_ways sound turn with ⟨_, none⟩ | ⟨staying, leaving, other, target, one⟩
    · rw [none] at sets
      cases sets
    · rw [one] at sets ⊢
      obtain rfl := List.mem_singleton.mp sets
      exact ⟨rfl, s, _, rfl, staying, rfl, leaving, same ▸ target⟩
  | _ => cases sets

theorem passage_made_one (passage : Passage settings now event stage next new set)
    (sound : stage.Sound) (visit : Nat) :
    new.map (Made.mk visit) = [] ∨ ∃ c, new.map (Made.mk visit) = [c] := by
  rcases passage_calls_one passage sound with rfl | ⟨c, rfl, _⟩
  · exact .inl rfl
  · exact .inr ⟨⟨visit, c⟩, rfl⟩

theorem passage_ways_one (passage : Passage settings now event stage next new set)
    (sound : stage.Sound) : set = [] ∨ ∃ route, set = [route] := by
  cases set with
  | nil => exact .inl rfl
  | cons route rest => exact .inr ⟨route, (passage_sets passage sound List.mem_cons_self).1⟩

end

theorem entry_calls_one (stage : Stage) : stage.entryCalls.length ≤ 1 := by
  rcases stage with (_ | _) | _ | _ | _ <;> simp [Stage.entryCalls]

namespace Journal

structure Kept (j : Journal) (stage : Stage) : Prop where
  there : j.app.At stage
  sound : stage.Sound
  here : j.routes.getLast? = some stage.route
  placed : ∀ c ∈ j.calls, ∃ n, c.visit = n + 1 ∧ j.routes[n]? = some c.call.route
  entry : ∀ n c, j.Out n c → c.call.enters = true →
    stage.entryCalls = [c.call] ∧ n + 1 = j.calls.length ∧ c.visit = j.routes.length
  way : ∀ n route, j.Ahead n route → n + 1 = j.ways.length ∧
    ∃ s, stage = .playing s ∧ s.leaving = true ∧ (route = .home ∨ route = .result s.id)
  answered : ∀ n ∈ j.answered, n < j.calls.length
  gone : ∀ n ∈ j.gone, n < j.ways.length

section

variable {j : Journal} {m : Move} {event : Event} {stage : Stage}

theorem brings_answer {n : Nat} {outcomes : Outcomes}
    (brings : j.event? (.answer n outcomes) = some event) :
    ∃ c, j.Out n c ∧ event = .reply (c.call.reply outcomes) := by
  by_cases old : n ∈ j.answered
  · simp [event?, old] at brings
  · simp only [event?, old, ↓reduceIte, Option.map_eq_some_iff] at brings
    obtain ⟨c, there, rfl⟩ := brings
    exact ⟨c, ⟨there, old⟩, rfl⟩

theorem brings_leave {n : Nat} (brings : j.event? (.leave n) = some event) :
    ∃ route, j.Ahead n route ∧ event = .navigate route := by
  by_cases old : n ∈ j.gone
  · simp [event?, old] at brings
  · simp only [event?, old, ↓reduceIte, Option.map_eq_some_iff] at brings
    obtain ⟨route, there, rfl⟩ := brings
    exact ⟨route, ⟨there, old⟩, rfl⟩

theorem brings_reply {r : Reply} (brings : j.event? m = some (.reply r)) :
    ∃ n outcomes c, m = .answer n outcomes ∧ j.Out n c ∧ r = c.call.reply outcomes := by
  cases m with
  | answer n outcomes =>
    obtain ⟨c, out, same⟩ := brings_answer brings
    exact ⟨n, outcomes, c, rfl, out, Event.reply.inj same⟩
  | leave n =>
    obtain ⟨_, _, same⟩ := brings_leave brings
    cases same
  | _ => simp [event?] at brings

theorem brings_way {route : Route} (brings : j.event? m = some (.navigate route)) :
    ∃ n, m = .leave n ∧ j.Ahead n route := by
  cases m with
  | answer n outcomes =>
    obtain ⟨_, _, same⟩ := brings_answer brings
    cases same
  | leave n =>
    obtain ⟨_, ahead, same⟩ := brings_leave brings
    cases same
    exact ⟨n, rfl, ahead⟩
  | _ => simp [event?] at brings

theorem brings_entry (brings : j.event? m = some event) (enters : event.enters = true) :
    ∃ n outcomes c, m = .answer n outcomes ∧ j.Out n c ∧ event = .reply (c.call.reply outcomes) ∧
      c.call.enters = true := by
  cases event with
  | reply r =>
    obtain ⟨n, outcomes, c, answers, out, rfl⟩ := brings_reply brings
    exact ⟨n, outcomes, c, answers, out, rfl, (reply_enters _ _).symm.trans enters⟩
  | _ => cases enters

theorem mem_strike_answered {n : Nat} :
    n ∈ (j.strike m).answered ↔ n ∈ j.answered ∨ ∃ outcomes, m = .answer n outcomes := by
  cases m <;> simp [strike, or_comm, eq_comm]

theorem mem_strike_gone {n : Nat} : n ∈ (j.strike m).gone ↔ n ∈ j.gone ∨ m = .leave n := by
  cases m <;> simp [strike, or_comm, eq_comm]

theorem strike_out {n : Nat} {c : Made} :
    (j.strike m).Out n c ↔ j.Out n c ∧ ∀ outcomes, m ≠ .answer n outcomes := by
  obtain ⟨_, calls, _⟩ := strike_keeps j m
  simp only [Out, calls, mem_strike_answered, not_or, not_exists, and_assoc, ne_eq]

theorem strike_ahead {n : Nat} {route : Route} :
    (j.strike m).Ahead n route ↔ j.Ahead n route ∧ m ≠ .leave n := by
  obtain ⟨_, _, ways⟩ := strike_keeps j m
  simp only [Ahead, ways, mem_strike_gone, not_or, and_assoc, ne_eq]

variable (kept : Kept j stage) (brings : j.event? m = some event)

include kept brings

theorem kept_awaited (enters : event.enters = true) : stage.Concerns event := by
  obtain ⟨n, outcomes, c, _, out, rfl, entry⟩ := brings_entry brings enters
  have waits := (kept.entry n c out entry).1
  rcases stage with (_ | _) | id | s | page <;> simp only [Stage.entryCalls, List.cons.injEq,
    and_true, reduceCtorEq] at waits <;> rw [← waits] <;> rfl

theorem kept_calm (route : Route) (leaves : event = .navigate route) : stage.entryCalls = [] := by
  subst leaves
  obtain ⟨n, _, ahead⟩ := brings_way brings
  obtain ⟨_, s, rfl, _⟩ := kept.way n route ahead
  rfl

theorem kept_strike_entry {n : Nat} {c : Made} (out : (j.strike m).Out n c)
    (entry : c.call.enters = true) :
    (stage.entryCalls = [c.call] ∧ n + 1 = j.calls.length ∧ c.visit = j.routes.length) ∧
      event.enters = false ∧ ∀ route, event ≠ .navigate route := by
  obtain ⟨out, other⟩ := strike_out.mp out
  have waits := kept.entry n c out entry
  refine ⟨waits, ?_, ?_⟩
  · rw [← Bool.not_eq_true]
    intro enters
    obtain ⟨n', outcomes, c', rfl, out', _, entry'⟩ := brings_entry brings enters
    have last := (kept.entry n' c' out' entry').2.1
    obtain rfl : n = n' := by omega
    exact other outcomes rfl
  · intro route leaves
    have calm := kept_calm kept brings route leaves
    rw [calm] at waits
    cases waits.1

theorem kept_strike_way {n : Nat} {route : Route} (ahead : (j.strike m).Ahead n route) :
    (n + 1 = j.ways.length ∧
      ∃ s, stage = .playing s ∧ s.leaving = true ∧ (route = .home ∨ route = .result s.id)) ∧
      ∀ route', event ≠ .navigate route' := by
  obtain ⟨ahead, other⟩ := strike_ahead.mp ahead
  have set := kept.way n route ahead
  refine ⟨set, ?_⟩
  rintro route' rfl
  obtain ⟨n', rfl, ahead'⟩ := brings_way brings
  have last := (kept.way n' route' ahead').1
  obtain rfl : n = n' := by omega
  exact other rfl

end

theorem enters_here {event : Event} {here next : Route} {entered routes : List Route}
    (enters : Enters event here next entered) (last : routes.getLast? = some here) :
    (routes ++ entered).getLast? = some next := by
  cases enters with
  | stays same => rw [List.append_nil, last, same]
  | goes => exact List.getLast?_concat

theorem enters_stays {event : Event} {here next : Route} {entered : List Route}
    (enters : Enters event here next entered) (same : next = here)
    (other : ∀ route, event ≠ .navigate route) : entered = [] := by
  cases enters with
  | stays => rfl
  | goes target => exact absurd (congrArg some same.symm) (targets_away target other)

theorem grown_place {α : Type} {l new : List α} {n : Nat} {x : α}
    (there : (l ++ new)[n]? = some x) (one : new = [] ∨ ∃ y, new = [y]) :
    l[n]? = some x ∨ new = [x] ∧ n = l.length := by
  by_cases old : n < l.length
  · exact .inl (by rwa [List.getElem?_append_left old] at there)
  · rw [List.getElem?_append_right (by omega)] at there
    rcases one with rfl | ⟨y, rfl⟩
    · cases there
    · obtain ⟨bound, same⟩ := List.getElem?_eq_some_iff.mp there
      simp only [List.length_singleton] at bound
      refine .inr ⟨?_, by omega⟩
      rw [← same]
      simp

section

variable {settings : Settings} {around : Surroundings} {m : Move} {j k : Journal}
  {stage next : Stage}

theorem kept_placed (kept : Kept j stage) {entered : List Route} {new : List Call}
    (calls : new = [] ∨ ∃ c, new = [c] ∧ c.route = next.route)
    (here : (j.routes ++ entered).getLast? = some next.route) :
    ∀ c ∈ j.calls ++ new.map (Made.mk (j.routes ++ entered).length),
      ∃ n, c.visit = n + 1 ∧ (j.routes ++ entered)[n]? = some c.call.route := by
  intro c made
  rcases List.mem_append.mp made with old | new'
  · obtain ⟨n, visit, place⟩ := kept.placed c old
    obtain ⟨bound, _⟩ := List.getElem?_eq_some_iff.mp place
    exact ⟨n, visit, by rwa [List.getElem?_append_left bound]⟩
  · rcases calls with rfl | ⟨c', rfl, own⟩
    · cases new'
    · obtain ⟨n, visit, place⟩ := last_place here
      obtain rfl : c = ⟨(j.routes ++ entered).length, c'⟩ := by simpa using new'
      exact ⟨n, visit, own ▸ place⟩

variable {event : Event} {r : App × List Action} {entered : List Route}

theorem kept_entry (kept : Kept j stage) (brings : j.event? m = some event)
    (passage : Passage settings around.now event stage next (r.2.filterMap Action.call?)
      (r.2.filterMap Action.way?))
    (enters : Enters event stage.route next.route entered) {n : Nat} {c : Made}
    (there : (j.calls ++
      (r.2.filterMap Action.call?).map (Made.mk (j.routes ++ entered).length))[n]? = some c)
    (left : n ∉ (j.strike m).answered) (entry : c.call.enters = true) :
    next.entryCalls = [c.call] ∧
      n + 1 = (j.calls ++
        (r.2.filterMap Action.call?).map (Made.mk (j.routes ++ entered).length)).length ∧
      c.visit = (j.routes ++ entered).length := by
  obtain ⟨_, calls, _⟩ := strike_keeps j m
  rcases grown_place there (passage_made_one passage kept.sound _) with old | ⟨new, rfl⟩
  · -- an older call is out only if the passage has made none
    obtain ⟨⟨waits, last, visit⟩, other, remains⟩ :=
      kept_strike_entry kept brings ⟨calls ▸ old, left⟩ entry
    obtain ⟨rfl, none⟩ := passage_waits passage (by simp [waits]) other remains
    obtain rfl := enters_stays enters rfl remains
    rw [none, List.map_nil, List.append_nil, List.append_nil]
    exact ⟨waits, last, visit⟩
  · rw [new]
    have made : r.2.filterMap Action.call? = [c.call] ∧ c.visit = (j.routes ++ entered).length := by
      simp only [List.map_eq_singleton_iff] at new
      obtain ⟨c', made, rfl⟩ := new
      exact ⟨made, rfl⟩
    have entries := passage_entries passage kept.sound (kept_awaited kept brings)
      (kept_calm kept brings)
    have bound := entry_calls_one next
    rw [made.1, List.filter_cons_of_pos entry, List.filter_nil] at entries
    rw [← entries, List.length_append] at bound
    have none : (if event.enters = true then [] else stage.entryCalls) = [] := by
      rw [← List.length_eq_zero_iff]
      simp only [List.length_singleton] at bound
      omega
    rw [none] at entries
    exact ⟨entries.symm, by simp, made.2⟩

theorem kept_way (kept : Kept j stage) (brings : j.event? m = some event)
    (passage : Passage settings around.now event stage next (r.2.filterMap Action.call?)
      (r.2.filterMap Action.way?)) {n : Nat} {route : Route}
    (there : (j.ways ++ r.2.filterMap Action.way?)[n]? = some route)
    (left : n ∉ (j.strike m).gone) :
    n + 1 = (j.ways ++ r.2.filterMap Action.way?).length ∧
      ∃ s, next = .playing s ∧ s.leaving = true ∧ (route = .home ∨ route = .result s.id) := by
  obtain ⟨_, _, ways⟩ := strike_keeps j m
  rcases grown_place there (passage_ways_one passage kept.sound) with old | ⟨new, rfl⟩
  · obtain ⟨⟨last, s, rfl, leaving, target⟩, remains⟩ :=
      kept_strike_way kept brings ⟨ways ▸ old, left⟩
    obtain ⟨none, t, rfl, same, leaving'⟩ := passage_leaving passage kept.sound leaving remains
    rw [none, List.append_nil]
    exact ⟨last, t, rfl, leaving', same ▸ target⟩
  · have sets : route ∈ r.2.filterMap Action.way? := by simp [new]
    obtain ⟨_, _, t, _, _, rfl, leaving, target⟩ := passage_sets passage kept.sound sets
    exact ⟨by simp [new], t, rfl, leaving, target⟩

theorem kept_answered (kept : Kept j stage) (brings : j.event? m = some event) :
    ∀ n ∈ (j.strike m).answered, n < j.calls.length := by
  intro n there
  rcases mem_strike_answered.mp there with old | ⟨outcomes, rfl⟩
  · exact kept.answered n old
  · obtain ⟨c, ⟨place, _⟩, _⟩ := brings_answer brings
    exact (List.getElem?_eq_some_iff.mp place).1

theorem kept_gone (kept : Kept j stage) (brings : j.event? m = some event) :
    ∀ n ∈ (j.strike m).gone, n < j.ways.length := by
  intro n there
  rcases mem_strike_gone.mp there with old | rfl
  · exact kept.gone n old
  · obtain ⟨route, ⟨place, _⟩, _⟩ := brings_leave brings
    exact (List.getElem?_eq_some_iff.mp place).1

theorem kept_advance (kept : Kept j stage) (advance : Advance settings around m j stage k next) :
    Kept k next := by
  cases advance with
  | silent => exact kept
  | drawn limit =>
    have there : (j.app.setScrollLimit limit).At stage := by
      have there := kept.there
      cases stage <;> exact there
    exact ⟨there, kept.sound, kept.here, kept.placed, kept.entry, kept.way, kept.answered, kept.gone⟩
  | @passed event _ entered r brings _ there passage enters =>
    have sound := kept.sound
    have here := enters_here enters kept.here
    constructor
    · exact there
    · exact passage_sound passage sound
    · exact here
    · exact kept_placed kept (passage_calls_one passage sound) here
    · exact fun n c out => kept_entry kept brings passage enters out.1 out.2
    · exact fun n route ahead => kept_way kept brings passage ahead.1 ahead.2
    · intro n there
      rw [List.length_append]
      exact Nat.lt_add_right _ (kept_answered kept brings n there)
    · intro n there
      rw [List.length_append]
      exact Nat.lt_add_right _ (kept_gone kept brings n there)

end

theorem kept_opened (route : Route) : Kept (opened route) (.ofRoute route) := by
  cases route with
  | home =>
    exact ⟨⟨rfl, rfl, rfl, rfl, rfl, rfl⟩, trivial, rfl, nofun, nofun, nofun, nofun, nofun⟩
  | session id =>
    refine ⟨⟨rfl, rfl, rfl, rfl, rfl⟩, trivial, rfl, ?_, ?_, nofun, nofun, nofun⟩
    · rintro c (_ | ⟨_, ⟨⟩⟩)
      exact ⟨0, rfl, rfl⟩
    · rintro (_ | n) c ⟨there, _⟩ _
      · cases there
        exact ⟨rfl, rfl, rfl⟩
      · cases there
  | result id =>
    refine ⟨⟨rfl, rfl, rfl, rfl, rfl⟩, trivial, rfl, ?_, ?_, nofun, nofun, nofun⟩
    · rintro c (_ | ⟨_, ⟨⟩⟩)
      exact ⟨0, rfl, rfl⟩
    · rintro (_ | n) c ⟨there, _⟩ entry
      · cases there
        cases entry
      · cases there

/-- What holds of the first journal and is kept by all that a move can make of one holds of every
journal of a closed run. -/
theorem run_induction {Holds : Journal → Stage → Prop} (settings : Settings) (route : Route)
    (first : Holds (opened route) (.ofRoute route))
    (keeps : ∀ {j stage around m k next}, Kept j stage → Holds j stage →
      Advance settings around m j stage k next → Holds k next)
    (moves : List (Surroundings × Move)) :
    ∃ stage, Kept (run settings moves (opened route)) stage ∧
      Holds (run settings moves (opened route)) stage := by
  induction moves using List.reverseRecOn with
  | nil => exact ⟨_, kept_opened route, first⟩
  | append_singleton moves m ih =>
    obtain ⟨stage, kept, holds⟩ := ih
    obtain ⟨next, advance⟩ := move_advances kept.there kept.sound settings m.1 m.2
    rw [run_snoc]
    exact ⟨next, kept_advance kept advance, keeps kept holds advance⟩

end Journal

end GuessClient
