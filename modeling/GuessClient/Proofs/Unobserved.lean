import GuessClient.Proofs.Bookkeeping

/-!
Replies that come after their screen has been left. Where no name of a session comes up twice, such
a reply is passed over, whatever it says, so a run goes on just as it would without it.
-/

namespace GuessClient

def Line.late (l : Line) : Bool :=
  match l.move with
  | .answer n _ => l.calls[n]?.any fun c => decide (c.visit < l.routes.length)
  | _ => false

def Line.fresh (l : Line) : Bool :=
  match l.event with
  | some (.reply (.started (.ok x))) =>
    !l.routes.contains (.session x.session) && !l.routes.contains (.result x.session)
  | _ => true

namespace Journal

def Fresh (j : Journal) : Prop := ∀ l ∈ j.lines, l.fresh = true

def timely (j : Journal) : List Line := j.lines.filter fun l => !l.late

/-- Only home is visited twice, and nobody has seen the result of the session on screen. -/
structure Distinct (j : Journal) (stage : Stage) : Prop where
  apart : ∀ {p q : Nat} {route : Route}, p < q → j.routes[p]? = some route →
    j.routes[q]? = some route → route = .home
  ahead : ∀ id, stage.route = .session id → .result id ∉ j.routes

theorem distinct_opened (route : Route) : Distinct (opened route) (.ofRoute route) := by
  have one : (opened route).routes = [route] := by cases route <;> rfl
  constructor
  · intro p q other before _ there
    obtain ⟨bound, _⟩ := List.getElem?_eq_some_iff.mp there
    rw [one, List.length_singleton] at bound
    omega
  · intro id here
    rw [one, List.mem_singleton]
    rintro rfl
    cases here

section

variable {settings : Settings} {around : Surroundings} {m : Move} {event : Event}
  {j k : Journal} {stage next : Stage}

theorem entered_new (kept : Kept j stage) (distinct : Distinct j stage)
    (brings : j.event? m = some event) {r : App × List Action}
    (fresh : (j.line around m r).fresh = true) {route : Route}
    (target : event.Targets (some stage.route) route) :
    route = .home ∨ route ∉ j.routes ∧ ∀ id, route = .session id → .result id ∉ j.routes := by
  unfold Event.Targets at target
  split at target
  · subst target
    obtain ⟨n, _, ahead⟩ := brings_way brings
    obtain ⟨_, s, rfl, _, home | result⟩ := kept.way n _ ahead
    · exact .inl home
    · subst result
      exact .inr ⟨distinct.ahead s.id rfl, nofun⟩
  · rename_i x
    have unseen : Route.session x.session ∉ j.routes ∧ Route.result x.session ∉ j.routes := by
      simpa [Line.fresh, line, brings] using fresh
    obtain ⟨rfl, _⟩ := target
    refine .inr ⟨unseen.1, ?_⟩
    intro id same
    cases same
    exact unseen.2
  · exact .inl target.1
  · exact .inl target.1
  · exact .inl target.1
  · contradiction

theorem distinct_advance (kept : Kept j stage) (distinct : Distinct j stage)
    (advance : Advance settings around m j stage k next) (fresh : k.Fresh) : Distinct k next := by
  cases advance with
  | silent => exact distinct
  | drawn limit => exact ⟨distinct.apart, distinct.ahead⟩
  | @passed event _ entered r brings handled there passage enters =>
    cases enters with
    | stays same =>
      constructor
      · intro p q route before first second
        rw [List.append_nil] at first second
        exact distinct.apart before first second
      · intro id here
        rw [List.append_nil]
        exact distinct.ahead id (same.symm.trans here)
    | goes target =>
      have new := entered_new kept distinct brings (fresh (j.line around m r) (by simp)) target
      constructor
      · intro p q route before first second
        obtain ⟨bound, _⟩ := List.getElem?_eq_some_iff.mp second
        rw [List.length_append, List.length_singleton] at bound
        rw [List.getElem?_append_left (by omega)] at first
        rcases grown_place second (.inr ⟨_, rfl⟩) with old | ⟨last, _⟩
        · exact distinct.apart before first old
        · cases last
          exact new.resolve_right fun other => other.1 (List.mem_of_getElem? first)
      · intro id here
        rw [List.mem_append, List.mem_singleton, here]
        rintro (old | same)
        · rcases new with home | ⟨_, unseen⟩
          · cases here.symm.trans home
          · exact unseen id here old
        · cases same

theorem concerns_route {c : Call} {outcomes : Outcomes} (stays : c.enters = false)
    (concerns : stage.Concerns (.reply (c.reply outcomes))) :
    c.route = stage.route ∧ stage.route ≠ .home := by
  cases c with
  | start => cases stays
  | alive => cases stays
  | picture id =>
    obtain ⟨s, rfl, rfl⟩ := concerns
    exact ⟨rfl, nofun⟩
  | command id ticket =>
    obtain ⟨s, rfl, rfl⟩ := concerns
    exact ⟨rfl, nofun⟩
  | result id =>
    obtain ⟨page, rfl, rfl⟩ := concerns
    exact ⟨rfl, nofun⟩

theorem late_unconcerned (kept : Kept j stage) (distinct : Distinct j stage) {n : Nat} {c : Made}
    (out : j.Out n c) (left : c.visit < j.routes.length) (outcomes : Outcomes) :
    ¬ stage.Concerns (.reply (c.call.reply outcomes)) := by
  intro concerns
  cases entry : c.call.enters with
  | true =>
    have here := (kept.entry n c out entry).2.2
    omega
  | false =>
    obtain ⟨own, away⟩ := concerns_route entry concerns
    obtain ⟨p, visit, place⟩ := kept.placed c (List.mem_of_getElem? out.1)
    obtain ⟨q, length, last⟩ := last_place kept.here
    have before : p < q := by omega
    rw [own] at place
    exact away (distinct.apart before place last)

theorem late_passed {r : App × List Action} (kept : Kept j stage) (distinct : Distinct j stage)
    (brings : j.event? m = some event) (late : (j.line around m r).late = true) :
    App.handle around settings event j.app = (j.app, []) := by
  cases m with
  | answer n outcomes =>
    obtain ⟨c, out, rfl⟩ := brings_answer brings
    have left : c.visit < j.routes.length := by
      simp only [Line.late, line, out.1, Option.any_some] at late
      exact of_decide_eq_true late
    exact App.reply_unconcerned kept.there (late_unconcerned kept distinct out left outcomes)
      around settings
  | _ => cases late

end

/-- Two journals of the same course, but for late replies that stand in the first one only. -/
structure Alike (j k : Journal) : Prop where
  app : k.app = j.app
  routes : k.routes = j.routes
  calls : k.calls = j.calls
  ways : k.ways = j.ways
  answered : ∀ n ∈ k.answered, n ∈ j.answered
  gone : k.gone = j.gone
  lines : k.lines = j.timely

section

variable {settings : Settings} {around : Surroundings} {m : Move} {j k : Journal}

theorem alike_note (alike : Alike j k) (action : Action) : Alike (j.note action) (k.note action) := by
  obtain ⟨app, routes, calls, ways, answered, gone, lines⟩ := alike
  cases action with
  | call c => exact ⟨app, routes, by simp [note, calls, routes], ways, answered, gone, lines⟩
  | schedule route wait => exact ⟨app, routes, calls, by simp [note, ways], answered, gone, lines⟩
  | entered route => exact ⟨app, by simp [note, routes], calls, ways, answered, gone, lines⟩
  | _ => exact ⟨app, routes, calls, ways, answered, gone, lines⟩

theorem alike_noted (actions : List Action) (alike : Alike j k) :
    Alike (actions.foldl note j) (actions.foldl note k) := by
  induction actions generalizing j k with
  | nil => exact alike
  | cons action rest ih => exact ih (alike_note alike action)

theorem noted_lines (actions : List Action) (j : Journal) :
    (actions.foldl note j).lines = j.lines := by
  induction actions generalizing j with
  | nil => rfl
  | cons action rest ih =>
    rw [List.foldl_cons, ih]
    cases action <;> rfl

theorem alike_event (alike : Alike j k) (steps : j.step? settings around m ≠ none) :
    k.event? m = j.event? m := by
  cases m with
  | answer n outcomes =>
    by_cases old : n ∈ j.answered
    · simp [step?, event?, old] at steps
    · have left : n ∉ k.answered := fun there => old (alike.answered n there)
      simp [event?, old, left, alike.calls]
  | leave n => simp [event?, alike.gone, alike.ways]
  | _ => rfl

theorem step_event (same : k.event? m = j.event? m) :
    k.step? settings around m = j.step? settings around m := by
  cases m <;> simp [step?, same]

theorem alike_strike (alike : Alike j k) (m : Move) : Alike (j.strike m) (k.strike m) := by
  obtain ⟨app, routes, calls, ways, answered, gone, lines⟩ := alike
  cases m with
  | answer n =>
    refine ⟨app, routes, calls, ways, ?_, gone, lines⟩
    intro n' there
    rcases List.mem_cons.mp there with rfl | old
    · exact List.mem_cons_self
    · exact List.mem_cons_of_mem _ (answered n' old)
  | leave n => exact ⟨app, routes, calls, ways, answered, by simp [strike, gone], lines⟩
  | _ => exact ⟨app, routes, calls, ways, answered, gone, lines⟩

theorem alike_write (alike : Alike j k) (same : k.event? m = j.event? m) (r : App × List Action)
    (timely : (j.line around m r).late = false) :
    Alike (j.write around m r) (k.write around m r) := by
  have written : k.line around m r = j.line around m r := by
    simp [line, alike.app, alike.routes, alike.calls, alike.ways, same]
  obtain ⟨_, routes, calls, ways, answered, gone, _⟩ := alike_strike alike m
  apply alike_noted
  refine ⟨rfl, routes, calls, ways, answered, gone, ?_⟩
  simp [Journal.timely, written, timely, alike.lines]

theorem late_answers {r : App × List Action} (late : (j.line around m r).late = true) :
    ∃ n outcomes, m = .answer n outcomes := by
  cases m with
  | answer n outcomes => exact ⟨n, outcomes, rfl⟩
  | _ => cases late

theorem alike_late (alike : Alike j k)
    (late : (j.line around m (j.app, [])).late = true) :
    Alike (j.write around m (j.app, [])) k := by
  obtain ⟨app, routes, calls, ways, answered, gone, lines⟩ := alike
  obtain ⟨n, outcomes, rfl⟩ := late_answers late
  refine ⟨app, routes, calls, ways, ?_, gone, ?_⟩
  · exact fun n' there => List.mem_cons_of_mem _ (answered n' there)
  · simp [write, timely, late, lines]

end

end Journal

def Line.again (l : Line) : Surroundings × Move := (l.around, l.move)

namespace Journal

def relived (settings : Settings) (route : Route) (j : Journal) : Journal :=
  run settings (j.timely.map Line.again) (opened route)

section

variable {settings : Settings} {route : Route} {j : Journal} {stage : Stage}

theorem relived_write {around : Surroundings} {m : Move} {r : App × List Action}
    (timely : (j.line around m r).late = false) :
    relived settings route (j.write around m r) =
      (relived settings route j).move settings around m := by
  have lines : (j.write around m r).lines = j.lines ++ [j.line around m r] := noted_lines r.2 _
  have grown : (j.write around m r).timely = j.timely ++ [j.line around m r] := by
    simp [Journal.timely, lines, timely]
  rw [relived, grown, List.map_append, List.map_singleton, run_snoc]
  rfl

theorem relived_late {around : Surroundings} {m : Move} {r : App × List Action}
    (late : (j.line around m r).late = true) :
    relived settings route (j.write around m r) = relived settings route j := by
  have lines : (j.write around m r).lines = j.lines ++ [j.line around m r] := noted_lines r.2 _
  simp [relived, timely, lines, late]

theorem alike_move (kept : Kept j stage) (distinct : Distinct j stage)
    (alike : Alike j (relived settings route j)) (around : Surroundings) (m : Move) :
    Alike (j.move settings around m) (relived settings route (j.move settings around m)) := by
  cases steps : j.step? settings around m with
  | none =>
    have same : j.move settings around m = j := by simp [move, steps]
    rw [same]
    exact alike
  | some step =>
    have moved : j.move settings around m = j.write around m (step j.app) := by
      simp [move, steps]
    rw [moved]
    cases late : (j.line around m (step j.app)).late with
    | false =>
      have goes : j.step? settings around m ≠ none := by simp [steps]
      have same := alike_event alike goes
      have again : (relived settings route j).move settings around m =
          (relived settings route j).write around m (step j.app) := by
        simp [move, step_event same, steps, alike.app]
      rw [relived_write late, again]
      exact alike_write alike same (step j.app) late
    | true =>
      obtain ⟨n, outcomes, rfl⟩ := late_answers late
      obtain ⟨event, brings, rfl⟩ := Option.map_eq_some_iff.mp steps
      rw [relived_late late]
      rw [late_passed kept distinct brings late] at late ⊢
      exact alike_late alike late

theorem fresh_before {next : Stage} {around : Surroundings} {m : Move} {k : Journal}
    (advance : Advance settings around m j stage k next) (fresh : k.Fresh) : j.Fresh := by
  intro l there
  cases advance with
  | silent => exact fresh l there
  | drawn => exact fresh l (List.mem_append_left _ there)
  | passed => exact fresh l (List.mem_append_left _ there)

theorem run_distinct (settings : Settings) (route : Route) (moves : List (Surroundings × Move)) :
    ∃ stage, Kept (run settings moves (opened route)) stage ∧
      ((run settings moves (opened route)).Fresh →
        Distinct (run settings moves (opened route)) stage) := by
  refine @run_induction (fun j stage => j.Fresh → Distinct j stage) settings route ?_ ?_ moves
  · exact fun _ => distinct_opened route
  · intro j stage around m k next kept distinct advance fresh
    exact distinct_advance kept (distinct (fresh_before advance fresh)) advance fresh

theorem relived_alike (settings : Settings) (route : Route) (moves : List (Surroundings × Move))
    (fresh : (run settings moves (opened route)).Fresh) :
    Alike (run settings moves (opened route))
      (relived settings route (run settings moves (opened route))) := by
  induction moves using List.reverseRecOn with
  | nil =>
    have none : (opened route).lines = [] := by cases route <;> rfl
    have same : relived settings route (opened route) = opened route := by
      simp [relived, timely, none, run]
    rw [run, List.foldl_nil, same]
    exact ⟨rfl, rfl, rfl, rfl, fun _ there => there, rfl, by simp [timely, none]⟩
  | append_singleton moves m ih =>
    obtain ⟨stage, kept, distinct⟩ := run_distinct settings route moves
    obtain ⟨next, advance⟩ := move_advances kept.there kept.sound settings m.1 m.2
    rw [run_snoc] at fresh ⊢
    have before := fresh_before advance fresh
    exact alike_move kept (distinct before) (ih before) m.1 m.2

theorem late_unobserved (settings : Settings) (route : Route)
    (moves : List (Surroundings × Move)) (fresh : (run settings moves (opened route)).Fresh) :
    let j := run settings moves (opened route)
    let k := relived settings route j
    k.lines = j.timely ∧ k.app = j.app ∧ k.routes = j.routes ∧ k.calls = j.calls ∧
      k.ways = j.ways := by
  intro j k
  have alike : Alike j k := relived_alike settings route moves fresh
  exact ⟨alike.lines, alike.app, alike.routes, alike.calls, alike.ways⟩

/-- The answer "x" of the player turns out to be right when the next game is on screen. -/
theorem late_unobserved_verdict :
    let settings : Settings := { hintDirectory := "" }
    let around : Surroundings := { now := 0 }
    let j := run settings
      [(around, .answer 0 { alive := .ok () }), (around, .key ⟨.char 'x', false⟩),
        (around, .key ⟨.enter, false⟩), (around, .answer 1 {}), (around, .leave 0),
        (around, .key ⟨.enter, false⟩), (around, .answer 3 { started := .ok ⟨"b"⟩ }),
        (around, .answer 2 { command := .ok (.verdict ⟨true, ""⟩) }),
        (around, .answer 4 { alive := .ok () })]
      (opened (.session "a"))
    let k := relived settings (.session "a") j
    j.Fresh ∧ j.lines.map Line.late = [false, false, false, false, false, false, false, true, false] ∧
      k.lines = j.timely ∧ k.app = j.app := by
  intro settings around j k
  have fresh : j.Fresh := List.all_eq_true.mp (by decide +kernel)
  obtain ⟨lines, app, _⟩ := late_unobserved settings (.session "a") _ fresh
  exact ⟨fresh, by decide +kernel, lines, app⟩

end

end Journal

end GuessClient
