import GuessClient.Proofs.ClosedRun

/-!
What holds in every world of a closed run: the stage, and with it the calls and the ways that are
out. Each part is kept by every passage, given what the event has taken from the calls and the
ways before.
-/

namespace GuessClient

def Call.enters : Call → Bool
  | .start => true
  | .alive _ => true
  | _ => false

def Event.enters : Event → Bool
  | .reply (.started _) => true
  | .reply (.alive ..) => true
  | _ => false

/-- What an event leaves of the calls that are out: all but one that it answers. -/
def Event.Leaves (event : Event) (before left : List Call) : Prop :=
  ∀ c ∈ before, c ∈ left ∨ ∃ r, event = .reply r ∧ c.AnsweredBy r

namespace Stage

def session? : Stage → Option Session
  | .playing s => some s
  | _ => none

def entryCalls : Stage → List Call
  | .home true => [.start]
  | .entering id => [.alive id]
  | _ => []

/-- What the stage waits for is among the calls. -/
def Provided (calls : List Call) : Stage → Prop
  | .playing s =>
    (s.loaded = none → s.ended = false → .picture s.id ∈ calls) ∧
      (s.loading = true → s.ended = false → ∃ ticket, .command s.id ticket ∈ calls)
  | .result page => page.result = none → .result page.session ∈ calls
  | _ => True

def Ways (visit : Nat) (ways : List (Sent Route)) : Stage → Prop
  | .playing s =>
    if s.leaving then
      ∃ route, (route = .home ∨ route = .result s.id) ∧ ways = [⟨some visit, route⟩]
    else ways = []
  | _ => ways = []

end Stage

/-- Who has sent a command, and when: a session of that name, before it ended. -/
def Sent.Stamped (visited : List String) (c : Sent Call) : Prop :=
  ∀ id ticket, c.content = .command id ticket →
    ticket.epoch = 0 ∧ ∃ n, c.sender = some (n + 1) ∧ visited[n]? = some id

structure Settled (w : World) (stage : Stage) : Prop where
  there : w.app.At stage
  sound : stage.Sound
  entries : w.out.filter Call.enters = stage.entryCalls
  provided : stage.Provided w.out
  stamped : ∀ c ∈ w.calls, c.Stamped w.visited
  ways : stage.Ways w.visited.length w.ways
  visited : ∀ s, stage.session? = some s → w.visited.getLast? = some s.id

namespace Session

theorem turn_unloaded {s : Session} {operation : Operation} {t : Status} {effects : List Effect}
    (turn : Turn s operation t effects) (unloaded : t.loaded = false) (live : t.ended = false) :
    s.loaded = none ∧ s.ended = false ∧ ∀ outcome now, operation ≠ .picture outcome now := by
  cases turn with
  | quiet ignored =>
    have empty : s.loaded = none := by simpa [status] using unloaded
    refine ⟨empty, live, ?_⟩
    intro outcome now same
    have live' : s.ended = false := live
    simp [same, MayIgnore, empty, live'] at ignored
  | begin => exact ⟨by simpa [status] using unloaded, live, by simp⟩
  | load => cases unloaded
  | ask => exact ⟨by simpa [status] using unloaded, live, by simp⟩
  | answered => exact ⟨by simpa [status] using unloaded, live, by simp⟩
  | close => cases live

theorem turn_loading {s : Session} {operation : Operation} {t : Status} {effects : List Effect}
    (h : s.status.Sound) (turn : Turn s operation t effects) (loading : t.loading = true)
    (live : t.ended = false) :
    (∃ ticket, .send ticket ∈ effects) ∨
      s.loading = true ∧ s.ended = false ∧
        ∀ ticket outcome, operation = .reply ticket outcome → ticket.epoch ≠ 0 := by
  cases turn with
  | quiet ignored =>
    refine .inr ⟨loading, live, ?_⟩
    rintro ticket outcome rfl
    have first := sound_first h live
    rwa [MayIgnore, first] at ignored
  | begin => exact .inr ⟨loading, live, by simp⟩
  | load opens =>
    refine .inr ⟨loading, live, ?_⟩
    rintro ticket outcome rfl
    obtain ⟨_, _, _, _, other, _⟩ := opens
    cases other
  | ask text request => exact .inl ⟨_, List.mem_singleton.mpr rfl⟩
  | answered =>
    have staying := sound_live h live
    simp [staying] at loading
  | close => cases live

theorem turn_calls {s : Session} {operation : Operation} {t : Status} {effects : List Effect}
    (turn : Turn s operation t effects) :
    (effects.filterMap (Effect.call? s.id)).filter Call.enters = [] := by
  cases turn <;> rfl

theorem turn_ways {s : Session} {operation : Operation} {t : Status} {effects : List Effect}
    (h : s.status.Sound) (turn : Turn s operation t effects) :
    (t.leaving = s.leaving ∧ effects.filterMap Effect.way? = []) ∨
      (s.leaving = false ∧ t.leaving = true ∧
        ∃ route, (route = .home ∨ route = .result s.id) ∧
          effects.filterMap Effect.way? = [route]) := by
  cases turn with
  | close route loaded live unopened target =>
    exact .inr ⟨sound_live h live, rfl, route, target, rfl⟩
  | _ => exact .inl ⟨rfl, rfl⟩

end Session

namespace World

theorem comes_leaves {w : World} {event : Event} {calls : List (Sent Call)}
    {ways : List (Sent Route)} (comes : Comes w event calls ways) :
    event.Leaves w.out (calls.map Sent.content) := by
  intro c out
  cases comes with
  | reply split answers =>
    rw [World.out, split, List.map_append, List.map_cons, List.mem_append, List.mem_cons] at out
    rw [List.map_append, List.mem_append]
    rcases out with before | rfl | after
    · exact .inl (.inl before)
    · exact .inr ⟨_, rfl, answers⟩
    · exact .inl (.inr after)
  | _ => exact .inl out

theorem comes_sublist {w : World} {event : Event} {calls : List (Sent Call)}
    {ways : List (Sent Route)} (comes : Comes w event calls ways) : calls.Sublist w.calls := by
  cases comes with
  | reply split answers =>
    rw [split]
    exact List.Sublist.append_left (List.sublist_cons_self _ _) _
  | _ => exact List.Sublist.refl _

end World

theorem comes_entries {w : World} {stage : Stage} (settled : Settled w stage) {event : Event}
    {calls : List (Sent Call)} {ways : List (Sent Route)} (comes : w.Comes event calls ways) :
    (event.enters = true → stage.Concerns event) ∧
      (calls.map Sent.content).filter Call.enters =
        if event.enters then [] else stage.entryCalls := by
  have entries := settled.entries
  cases comes with
  | @reply before after c split r answers =>
    rw [World.out, split] at entries
    simp only [List.map_append, List.map_cons, List.filter_append, List.filter_cons] at entries ⊢
    generalize c.content = content at answers entries
    -- at most one call into a session is out: if that is the one answered, none is left
    cases answers with
    | start outcome =>
      have same : stage = .home true := by
        rcases stage with (_ | _) | _ | _ | _ <;>
          simp_all [Stage.entryCalls, List.append_eq_cons_iff, Call.enters]
      subst same
      refine ⟨fun _ => rfl, ?_⟩
      simpa [Event.enters, Call.enters, Stage.entryCalls, List.append_eq_cons_iff] using entries
    | alive id outcome =>
      have same : stage = .entering id := by
        rcases stage with (_ | _) | _ | _ | _ <;>
          simp_all [Stage.entryCalls, List.append_eq_cons_iff, Call.enters]
      subst same
      refine ⟨fun _ => rfl, ?_⟩
      simpa [Event.enters, Call.enters, Stage.entryCalls, List.append_eq_cons_iff] using entries
    | _ => exact ⟨by simp [Event.enters], by simpa [Event.enters, Call.enters] using entries⟩
  | _ => exact ⟨by simp [Event.enters], entries⟩

theorem comes_first {w : World} {stage : Stage} (settled : Settled w stage) {id : String}
    {ticket : Ticket} {outcome : Outcome Response} {calls : List (Sent Call)}
    {ways : List (Sent Route)}
    (comes : w.Comes (.reply (.command id ticket outcome)) calls ways) : ticket.epoch = 0 := by
  cases comes with
  | @reply before after c split _ answers =>
    have out : c ∈ w.calls := by simp [split]
    generalize same : c.content = content at answers
    cases answers
    exact (settled.stamped c out id ticket same).1

theorem comes_navigate {w : World} {stage : Stage} (settled : Settled w stage) {route : Route}
    {calls : List (Sent Call)} {ways : List (Sent Route)}
    (comes : w.Comes (.navigate route) calls ways) :
    ways = [] ∧ ∃ s, stage = .playing s ∧ s.leaving = true ∧
      (route = .home ∨ route = .result s.id) := by
  have set := settled.ways
  cases comes with
  | navigate split =>
    rw [split] at set
    cases stage with
    | playing s =>
      cases leaving : s.leaving with
      | true =>
        simp only [Stage.Ways, leaving, ↓reduceIte, List.append_eq_singleton_iff] at set
        obtain ⟨route, target, alone⟩ := set
        simp only [reduceCtorEq, and_false, or_false, List.cons.injEq] at alone
        obtain ⟨rfl, rfl, rfl⟩ := alone
        exact ⟨rfl, s, rfl, leaving, target⟩
      | false => simp [Stage.Ways, leaving] at set
    | _ => simp [Stage.Ways] at set

theorem comes_ways {w : World} {event : Event} {calls : List (Sent Call)}
    {ways : List (Sent Route)} (comes : w.Comes event calls ways)
    (remains : ∀ route, event ≠ .navigate route) : ways = w.ways := by
  cases comes with
  | navigate => exact absurd rfl (remains _)
  | _ => rfl

section

variable {settings : Settings} {now : Float} {event : Event} {stage next : Stage}
  {new : List Call} {set : List Route}

theorem passage_sound (passage : Passage settings now event stage next new set)
    (sound : stage.Sound) : next.Sound := by
  cases passage with
  | stay => exact sound
  | confirmed => exact ⟨rfl, rfl⟩
  | played s => exact Session.turn_sound sound (Session.apply_turn sound _)
  | arrive route => cases route <;> trivial
  | _ => trivial

theorem passage_entries (passage : Passage settings now event stage next new set)
    (sound : stage.Sound) (awaited : event.enters = true → stage.Concerns event)
    (calm : ∀ route, event = .navigate route → stage.entryCalls = []) :
    (if event.enters then [] else stage.entryCalls) ++ new.filter Call.enters =
      next.entryCalls := by
  cases passage with
  | stay unconcerned =>
    have other : event.enters = false := by
      rw [← Bool.not_eq_true]
      exact fun enters => unconcerned (awaited enters)
    simp [other]
  | played s causes =>
    have turn := Session.apply_turn (s := s) sound
    rw [Session.turn_calls (turn _)]
    cases event <;> simp [Stage.entryCalls]
  | arrive route =>
    rw [calm route rfl]
    cases route <;> rfl
  | _ => rfl

theorem leaves_awaited {before left : List Call} (leaves : event.Leaves before left)
    (unconcerned : ¬ stage.Concerns event) {c : Call} (out : c ∈ before)
    (awaited : ∀ r, c.AnsweredBy r → stage.Concerns (.reply r)) : c ∈ left := by
  rcases leaves c out with there | ⟨r, rfl, answered⟩
  · exact there
  · exact absurd (awaited r answered) unconcerned

theorem provided_stays {before left : List Call} (leaves : event.Leaves before left)
    (unconcerned : ¬ stage.Concerns event) (provided : stage.Provided before) :
    stage.Provided left := by
  cases stage with
  | playing s =>
    obtain ⟨picture, command⟩ := provided
    constructor
    · intro unloaded live
      apply leaves_awaited leaves unconcerned (picture unloaded live)
      intro r answered
      cases answered
      exact ⟨s, rfl, rfl⟩
    · intro loading live
      obtain ⟨ticket, out⟩ := command loading live
      refine ⟨ticket, leaves_awaited leaves unconcerned out ?_⟩
      intro r answered
      cases answered
      exact ⟨s, rfl, rfl⟩
  | result page =>
    intro empty
    apply leaves_awaited leaves unconcerned (provided empty)
    intro r answered
    cases answered
    exact ⟨page, rfl, rfl⟩
  | _ => trivial

theorem provided_played {s : Session} {operation : Session.Operation}
    (causes : Causes now s.id event operation) (sound : s.status.Sound) {before left : List Call}
    (leaves : event.Leaves before left) (provided : (Stage.playing s).Provided before)
    (first : ∀ id ticket outcome, event = .reply (.command id ticket outcome) → ticket.epoch = 0) :
    (Stage.playing (Session.apply operation s).1).Provided
      (left ++ (Session.apply operation s).2.filterMap (Effect.call? s.id)) := by
  have turn := Session.apply_turn sound operation
  have same := Session.apply_id sound operation
  obtain ⟨picture, command⟩ := provided
  simp only [Stage.Provided, same, List.mem_append]
  constructor
  · -- only a picture could have answered the call, and then there would be data or an end
    intro unloaded live
    have unloaded' : (Session.apply operation s).1.status.loaded = false := by
      simp [Session.status, unloaded]
    obtain ⟨empty, open', other⟩ := Session.turn_unloaded turn unloaded' live
    rcases leaves _ (picture empty open') with there | ⟨r, rfl, answered⟩
    · exact .inl there
    · cases answered
      cases causes
      exact absurd rfl (other _ _)
  · -- only a reply of epoch zero could have, and the session would not be loading any more
    intro loading live
    rcases Session.turn_loading sound turn loading live with ⟨ticket, sent⟩ | ⟨busy, open', other⟩
    · exact ⟨ticket, .inr (List.mem_filterMap.mpr ⟨_, sent, rfl⟩)⟩
    · obtain ⟨ticket, out⟩ := command busy open'
      rcases leaves _ out with there | ⟨r, rfl, answered⟩
      · exact ⟨ticket, .inl there⟩
      · cases answered
        cases causes
        exact absurd (first _ _ _ rfl) (other _ _ rfl)

theorem passage_provided (passage : Passage settings now event stage next new set)
    (sound : stage.Sound) {before left : List Call} (leaves : event.Leaves before left)
    (provided : stage.Provided before)
    (first : ∀ id ticket outcome, event = .reply (.command id ticket outcome) → ticket.epoch = 0) :
    next.Provided (left ++ new) := by
  cases passage with
  | stay unconcerned =>
    rw [List.append_nil]
    exact provided_stays leaves unconcerned provided
  | confirmed id => exact ⟨by simp, by simp⟩
  | played s causes => exact provided_played causes sound leaves provided first
  | shown page x => simp [Stage.Provided]
  | arrive route =>
    cases route with
    | result id => exact fun _ => by simp [Stage.arrivalCalls]
    | _ => trivial
  | _ => trivial

theorem visited_grows (visited : List String) (before after : Option Session) :
    visited <+: World.visitedAfter visited before after := by
  unfold World.visitedAfter
  split
  · exact List.prefix_append _ _
  · exact List.prefix_rfl

theorem stamped_grows {c : Sent Call} {visited visited' : List String}
    (grows : visited <+: visited') (stamped : c.Stamped visited) : c.Stamped visited' := by
  intro id ticket command
  obtain ⟨first, n, sender, place⟩ := stamped id ticket command
  obtain ⟨rest, rfl⟩ := grows
  obtain ⟨bound, _⟩ := List.getElem?_eq_some_iff.mp place
  exact ⟨first, n, sender, by rwa [List.getElem?_append_left bound]⟩

theorem last_place {α : Type} {l : List α} {x : α} (last : l.getLast? = some x) :
    ∃ n, l.length = n + 1 ∧ l[n]? = some x := by
  cases l with
  | nil => simp at last
  | cons first rest =>
    refine ⟨rest.length, rfl, ?_⟩
    rwa [List.getLast?_eq_getElem?] at last

theorem passage_visited (passage : Passage settings now event stage next new set)
    (sound : stage.Sound) {visited : List String}
    (last : ∀ s, stage.session? = some s → visited.getLast? = some s.id) :
    ∀ s, next.session? = some s →
      (World.visitedAfter visited stage.session? next.session?).getLast? = some s.id := by
  cases passage with
  | stay =>
    intro s shown
    cases stage with
    | playing => exact last s shown
    | _ => cases shown
  | confirmed id =>
    intro s shown
    cases shown
    simp [World.visitedAfter, Stage.session?]
  | @played _ operation s =>
    intro t shown
    cases shown
    rw [Session.apply_id sound operation]
    exact last s rfl
  | arrive route =>
    intro s shown
    cases route <;> cases shown
  | _ =>
    intro s shown
    cases shown

theorem passage_stamped (passage : Passage settings now event stage next new set)
    (sound : stage.Sound) {visited : List String}
    (last : ∀ s, stage.session? = some s → visited.getLast? = some s.id) :
    let visited' := World.visitedAfter visited stage.session? next.session?
    ∀ c ∈ new, (Sent.mk (next.session?.map fun _ => visited'.length) c).Stamped visited' := by
  cases passage with
  | @played _ operation s =>
    intro visited' c made id ticket command
    obtain rfl : c = .command id ticket := command
    obtain ⟨effect, put, called⟩ := List.mem_filterMap.mp made
    cases effect <;> cases called
    obtain ⟨n, length, place⟩ := last_place (last s rfl)
    refine ⟨Session.turn_tickets sound (Session.apply_turn sound operation) put, n, ?_, place⟩
    simp only [← length]
    rfl
  | arrive route =>
    cases route <;> simp [Stage.arrivalCalls, Sent.Stamped]
  | _ => simp [Sent.Stamped]

theorem passage_ways (passage : Passage settings now event stage next new set)
    (sound : stage.Sound) {visited : List String} {left : List (Sent Route)}
    (calm : ∀ route, event = .navigate route → left = [])
    (remains : (∀ route, event ≠ .navigate route) → stage.Ways visited.length left) :
    let visited' := World.visitedAfter visited stage.session? next.session?
    next.Ways visited'.length
      (left ++ set.map (Sent.mk (next.session?.map fun _ => visited'.length))) := by
  cases passage with
  | stay unconcerned =>
    have kept := remains fun route same => unconcerned (by rw [same]; trivial)
    intro visited'
    rw [List.map_nil, List.append_nil]
    cases stage <;> exact kept
  | @played _ operation s causes =>
    intro visited'
    have kept : (Stage.playing s).Ways visited.length left :=
      remains (causes_remains causes)
    have same := Session.apply_id sound operation
    rcases Session.turn_ways sound (Session.apply_turn sound operation) with
      ⟨leaving, none⟩ | ⟨staying, left', route, target, one⟩
    · have leaving' : (Session.apply operation s).1.leaving = s.leaving := leaving
      rw [none, List.map_nil, List.append_nil, Stage.Ways, leaving', same]
      exact kept
    · have leaving' : (Session.apply operation s).1.leaving = true := left'
      rw [Stage.Ways, if_neg (by simp [staying])] at kept
      rw [kept, one, Stage.Ways, if_pos leaving', same]
      exact ⟨route, target, rfl⟩
  | confirmed id =>
    have kept : left = [] := remains (by simp)
    simp [Stage.Ways, kept]
  | arrive route =>
    have kept : left = [] := calm route rfl
    cases route <;> simp [Stage.Ways, Stage.ofRoute, kept]
  | _ =>
    have kept : left = [] := remains (by simp)
    simp [Stage.Ways, kept]

theorem App.At.session? {a : App} {stage : Stage} (there : a.At stage) :
    a.session = stage.session? := by
  cases stage with
  | home => exact there.2.2.2.1
  | entering => exact there.2.2.1
  | playing => exact there.2.2.1
  | result => exact there.2.2.1

theorem App.At.stage_eq {a : App} {stage : Stage} (there : a.At stage) {s : Session}
    (shown : a.session = some s) : stage = .playing s := by
  have session := there.session?
  rw [shown] at session
  cases stage <;> cases session
  rfl

theorem Settled.stage_eq {w : World} {stage : Stage} (settled : Settled w stage) {s : Session}
    (shown : w.app.session = some s) : stage = .playing s := settled.there.stage_eq shown

theorem settled_record {w : World} (settled : Settled w stage) {calls : List (Sent Call)}
    {ways : List (Sent Route)} (comes : w.Comes event calls ways) {a : App} (there : a.At next)
    (passage : Passage settings now event stage next new set) :
    Settled ({ w with calls, ways }.record a new set) next := by
  have before : w.app.session = stage.session? := settled.there.session?
  have after : a.session = next.session? := there.session?
  have sound := settled.sound
  obtain ⟨awaited, entries⟩ := comes_entries settled comes
  constructor
  · exact there
  · exact passage_sound passage sound
  · have calm : ∀ route, event = .navigate route → stage.entryCalls = [] := by
      rintro route rfl
      obtain ⟨_, s, rfl, _⟩ := comes_navigate settled comes
      rfl
    rw [← passage_entries passage sound awaited calm, ← entries]
    simp [World.out, World.record, Function.comp_def]
  · have first : ∀ id ticket outcome, event = .reply (.command id ticket outcome) →
        ticket.epoch = 0 := by
      rintro id ticket outcome rfl
      exact comes_first settled comes
    have leaves := World.comes_leaves comes
    have provided := passage_provided passage sound leaves settled.provided first
    simpa [World.out, World.record, Function.comp_def] using provided
  · have old : ∀ c ∈ calls, c.Stamped (World.visitedAfter w.visited stage.session? next.session?) :=
      fun c out => stamped_grows (visited_grows _ _ _)
        (settled.stamped c ((World.comes_sublist comes).subset out))
    have made := passage_stamped passage sound settled.visited
    intro c out
    simp only [World.record, before, after, List.mem_append, List.mem_map] at out ⊢
    rcases out with out | ⟨content, out, rfl⟩
    · exact old c out
    · exact made content out
  · have calm : ∀ route, event = .navigate route → ways = [] := by
      rintro route rfl
      exact (comes_navigate settled comes).1
    have remains : (∀ route, event ≠ .navigate route) → stage.Ways w.visited.length ways := by
      intro other
      rw [comes_ways comes other]
      exact settled.ways
    simp only [World.record, before, after]
    exact passage_ways passage sound calm remains
  · simp only [World.record, before, after]
    exact passage_visited passage sound settled.visited

end

theorem settled_act {w : World} {stage : Stage} (settled : Settled w stage) {event : Event}
    {calls : List (Sent Call)} {ways : List (Sent Route)} (comes : w.Comes event calls ways)
    (settings : Settings) (around : Surroundings) :
    ∃ next new set, Passage settings around.now event stage next new set ∧
      Settled ({ w with calls, ways }.act (App.handle around settings event)) next := by
  have leads : App.Leads settings around.now event stage (App.handle around settings event w.app) :=
    App.handle_leads settled.there settled.sound event
  obtain ⟨next, there, passage⟩ := leads
  exact ⟨next, _, _, passage, settled_record settled comes there passage⟩

theorem settled_draw {w : World} {stage : Stage} (settled : Settled w stage) (limit : Nat) :
    Settled { w with app := w.app.setScrollLimit limit } stage := by
  obtain ⟨there, sound, entries, provided, stamped, ways, visited⟩ := settled
  have there' : (w.app.setScrollLimit limit).At stage := by
    cases stage <;> exact there
  exact ⟨there', sound, entries, provided, stamped, ways, visited⟩

theorem settled_opened (route : Route) : Settled (World.opened route) (.ofRoute route) := by
  cases route with
  | home =>
    exact ⟨⟨rfl, rfl, rfl, rfl, rfl, rfl⟩, trivial, rfl, trivial, nofun, rfl, nofun⟩
  | session id =>
    have stamped : ∀ c ∈ (World.opened (.session id)).calls, c.Stamped [] := by
      rintro c (_ | ⟨_, ⟨⟩⟩)
      exact nofun
    exact ⟨⟨rfl, rfl, rfl, rfl, rfl⟩, trivial, rfl, trivial, stamped, rfl, nofun⟩
  | result id =>
    have stamped : ∀ c ∈ (World.opened (.result id)).calls, c.Stamped [] := by
      rintro c (_ | ⟨_, ⟨⟩⟩)
      exact nofun
    exact ⟨⟨rfl, rfl, rfl, rfl, rfl⟩, trivial, rfl, fun _ => .head _, stamped, rfl, nofun⟩

theorem settled_move {w : World} {stage : Stage} (settled : Settled w stage) (settings : Settings)
    (around : Surroundings) (m : Move) : ∃ next, Settled (w.move settings around m) next := by
  rcases World.move_cases settings around m w with ⟨limit, drawn⟩ | ⟨_, _, _, comes, _, acted⟩
  · rw [drawn]
    exact ⟨stage, settled_draw settled limit⟩
  · obtain ⟨next, _, _, _, settled'⟩ := settled_act settled comes settings around
    rw [acted]
    exact ⟨next, settled'⟩

theorem reached_settled {settings : Settings} {route : Route} {w : World}
    (reached : World.Reached settings route w) : ∃ stage, Settled w stage := by
  have next : ∀ w around m, (∃ stage, Settled w stage) →
      ∃ stage, Settled (w.move settings around m) stage := by
    intro w around m holds
    obtain ⟨stage, settled⟩ := holds
    exact settled_move settled settings around m
  exact World.reached_induction (fun w => ∃ stage, Settled w stage) ⟨_, settled_opened route⟩ next
    reached

end GuessClient
