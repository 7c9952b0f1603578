import Mathlib.Data.List.InsertIdx
import GuessClient.Proofs.Bookkeeping

/-!
A journal forgets nothing, and a world knows only what is still on its way. What is left of a
journal, when that which has been crossed out is taken away, is a world of a closed run, and every
such world is left of a journal.
-/

namespace GuessClient

/-- What is left of a list, numbered from `start`, without the numbers that are crossed out. -/
def left (crossed : List Nat) (start : Nat) : List α → List α
  | [] => []
  | x :: rest =>
    if start ∈ crossed then left crossed (start + 1) rest else x :: left crossed (start + 1) rest

section

variable {α : Type} {crossed : List Nat} {start : Nat} {l : List α} {x : α}

theorem left_append (inside : ∀ n ∈ crossed, n < start + l.length) (more : List α) :
    left crossed start (l ++ more) = left crossed start l ++ more := by
  induction l generalizing start with
  | nil =>
    induction more generalizing start with
    | nil => rfl
    | cons x rest ih =>
      have uncrossed : start ∉ crossed := fun there => Nat.lt_irrefl _ (inside start there)
      have later := @ih (start + 1) fun n there => by
        have bound := inside n there
        simp only [List.length_nil] at bound ⊢
        omega
      simpa [left, uncrossed] using later
  | cons x rest ih =>
    have later := @ih (start + 1) fun n there => by
      have bound := inside n there
      simp only [List.length_cons] at bound
      omega
    by_cases there : start ∈ crossed
    · simp [left, there, later]
    · simp [left, there, later]

theorem left_before {n : Nat} (before : n < start) :
    left (n :: crossed) start l = left crossed start l := by
  induction l generalizing start with
  | nil => rfl
  | cons x rest ih =>
    have later := @ih (start + 1) (by omega)
    have other : start ≠ n := by omega
    simp [left, later, other]

theorem left_first (uncrossed : start ∉ crossed) (rest : List α) :
    (left crossed start (x :: rest))[0]? = some x ∧
      left (start :: crossed) start (x :: rest) =
        (left crossed start (x :: rest)).eraseIdx 0 := by
  simp [left, left_before, uncrossed]

theorem left_place {n : Nat} (number : l[n]? = some x) (uncrossed : start + n ∉ crossed) :
    ∃ place, (left crossed start l)[place]? = some x ∧
      left ((start + n) :: crossed) start l = (left crossed start l).eraseIdx place := by
  induction l generalizing start n with
  | nil => cases number
  | cons y rest ih =>
    cases n with
    | zero =>
      obtain rfl : y = x := by simpa using number
      exact ⟨0, left_first uncrossed rest⟩
    | succ n =>
      have same : start + (n + 1) = start + 1 + n := by omega
      rw [same] at uncrossed ⊢
      obtain ⟨place, found, taken⟩ := ih (by simpa using number) uncrossed
      have other : start ≠ start + 1 + n := by omega
      by_cases there : start ∈ crossed
      · exact ⟨place, by simp [left, there, found], by simp [left, there, taken]⟩
      · exact ⟨place + 1, by simp [left, there, found], by simp [left, there, other, taken]⟩

theorem left_number {place : Nat} (found : (left crossed start l)[place]? = some x) :
    ∃ n, l[n]? = some x ∧ start + n ∉ crossed ∧
      left ((start + n) :: crossed) start l = (left crossed start l).eraseIdx place := by
  induction l generalizing start place with
  | nil => cases found
  | cons y rest ih =>
    have later {place : Nat} (found : (left crossed (start + 1) rest)[place]? = some x) :
        ∃ n, rest[n]? = some x ∧ start + (n + 1) ∉ crossed ∧
          left ((start + (n + 1)) :: crossed) (start + 1) rest =
            (left crossed (start + 1) rest).eraseIdx place := by
      obtain ⟨n, number, uncrossed, taken⟩ := ih found
      rw [Nat.add_assoc, Nat.add_comm 1 n] at uncrossed taken
      exact ⟨n, number, uncrossed, taken⟩
    by_cases there : start ∈ crossed
    · simp only [left, there, ↓reduceIte] at found
      obtain ⟨n, number, uncrossed, taken⟩ := later found
      exact ⟨n + 1, by simpa using number, uncrossed, by simp [left, there, taken]⟩
    · cases place with
      | zero =>
        obtain rfl : y = x := by simpa [left, there] using found
        exact ⟨0, rfl, there, (left_first there rest).2⟩
      | succ place =>
        simp only [left, there, ↓reduceIte, List.getElem?_cons_succ] at found
        obtain ⟨n, number, uncrossed, taken⟩ := later found
        exact ⟨n + 1, by simpa using number, uncrossed, by simp [left, there, taken]⟩

end

/-- A journal and a world of the same course. -/
structure Journal.Depicts (j : Journal) (w : World) : Prop where
  app : w.app = j.app
  calls : w.out = left j.answered 0 (j.calls.map Made.call)
  ways : w.ways.map Sent.content = left j.gone 0 j.ways

namespace Journal

theorem noted_calls (actions : List Action) (j : Journal) :
    (actions.foldl note j).calls.map Made.call =
      j.calls.map Made.call ++ actions.filterMap Action.call? := by
  induction actions generalizing j with
  | nil => simp
  | cons action rest ih =>
    rw [List.foldl_cons, ih]
    cases action <;> simp [note, Action.call?, List.filterMap_cons]

theorem noted_ways (actions : List Action) (j : Journal) :
    (actions.foldl note j).ways = j.ways ++ actions.filterMap Action.way? := by
  induction actions generalizing j with
  | nil => simp
  | cons action rest ih =>
    rw [List.foldl_cons, ih]
    cases action <;> simp [note, Action.way?, List.filterMap_cons]

theorem noted_keeps (actions : List Action) (j : Journal) :
    (actions.foldl note j).app = j.app ∧ (actions.foldl note j).answered = j.answered ∧
      (actions.foldl note j).gone = j.gone := by
  induction actions generalizing j with
  | nil => exact ⟨rfl, rfl, rfl⟩
  | cons action rest ih =>
    rw [List.foldl_cons]
    obtain ⟨app, answered, gone⟩ := ih (j.note action)
    rw [app, answered, gone]
    cases action <;> exact ⟨rfl, rfl, rfl⟩

theorem depicts_write {j : Journal} {w : World} {around : Surroundings} {m : Move}
    {step : App.Step} (app : w.app = j.app)
    (calls : w.out = left (j.strike m).answered 0 (j.calls.map Made.call))
    (ways : w.ways.map Sent.content = left (j.strike m).gone 0 j.ways)
    (made : ∀ n ∈ (j.strike m).answered, n < j.calls.length)
    (set : ∀ n ∈ (j.strike m).gone, n < j.ways.length) :
    (j.write around m (step j.app)).Depicts (w.act step) := by
  obtain ⟨_, sameCalls, sameWays⟩ := strike_keeps j m
  have bound : ∀ n ∈ (j.strike m).answered, n < 0 + (j.calls.map Made.call).length := by
    simpa using made
  have bound' : ∀ n ∈ (j.strike m).gone, n < 0 + j.ways.length := by simpa using set
  obtain ⟨sameApp, answered, gone⟩ := noted_keeps (step j.app).2
    { j.strike m with app := (step j.app).1, lines := j.lines ++ [j.line around m (step j.app)] }
  constructor
  · simp [World.act, World.record, write, sameApp, app]
  · rw [write, answered, noted_calls, sameCalls, left_append bound, ← calls]
    simp [World.act, World.record, World.out, app, Function.comp_def]
  · rw [write, gone, noted_ways, sameWays, left_append bound', ← ways]
    simp [World.act, World.record, app, Function.comp_def]

section

variable {j : Journal} {stage : Stage} {w : World} (kept : Kept j stage) (depicts : j.Depicts w)
  (settings : Settings) (around : Surroundings)

include kept depicts

theorem depicts_quiet {m : Move} (same : j.strike m = j) (step : App.Step) :
    (j.write around m (step j.app)).Depicts (w.act step) := by
  apply depicts_write depicts.app <;> rw [same]
  · exact depicts.calls
  · exact depicts.ways
  · exact kept.answered
  · exact kept.gone

theorem depicts_answer {n place : Nat} {c : Made} {sent : Sent Call} (out : j.Out n c)
    (found : w.calls[place]? = some sent) (content : sent.content = c.call)
    (taken : left (n :: j.answered) 0 (j.calls.map Made.call) =
      (left j.answered 0 (j.calls.map Made.call)).eraseIdx place) (outcomes : Outcomes) :
    (j.move settings around (.answer n outcomes)).Depicts
      (w.move settings around (.answer place outcomes)) := by
  have brings : j.event? (.answer n outcomes) = some (.reply (c.call.reply outcomes)) := by
    simp [event?, out.1, out.2]
  have written : j.move settings around (.answer n outcomes) =
      j.write around (.answer n outcomes)
        (App.handle around settings (.reply (c.call.reply outcomes)) j.app) := by
    simp [move, step?, brings]
  have moved : w.move settings around (.answer place outcomes) =
      { w with calls := w.calls.eraseIdx place }.act
        (App.handle around settings (.reply (c.call.reply outcomes))) := by
    simp [World.move, found, content]
  rw [written, moved]
  refine depicts_write depicts.app ?_ depicts.ways (kept_answered kept brings) kept.gone
  change (w.calls.eraseIdx place).map Sent.content = left (n :: j.answered) 0 _
  rw [taken, ← depicts.calls, World.out, List.eraseIdx_map]

theorem depicts_leave {n place : Nat} {route : Route} {sent : Sent Route}
    (ahead : j.Ahead n route) (found : w.ways[place]? = some sent)
    (content : sent.content = route)
    (taken : left (n :: j.gone) 0 j.ways = (left j.gone 0 j.ways).eraseIdx place) :
    (j.move settings around (.leave n)).Depicts (w.move settings around (.leave place)) := by
  have brings : j.event? (.leave n) = some (.navigate route) := by
    simp [event?, ahead.1, ahead.2]
  have written : j.move settings around (.leave n) =
      j.write around (.leave n) (App.handle around settings (.navigate route) j.app) := by
    simp [move, step?, brings]
  have moved : w.move settings around (.leave place) =
      { w with ways := w.ways.eraseIdx place }.act
        (App.handle around settings (.navigate route)) := by
    simp [World.move, found, content]
  rw [written, moved]
  refine depicts_write depicts.app depicts.calls ?_ kept.answered (kept_gone kept brings)
  change (w.ways.eraseIdx place).map Sent.content = left (n :: j.gone) 0 _
  rw [taken, ← depicts.ways, List.eraseIdx_map]

theorem depicts_move (m : Move) :
    ∃ moves, (j.move settings around m).Depicts (World.run settings moves w) := by
  cases brings : j.event? m with
  | none =>
    cases m with
    | draw limit =>
      exact ⟨[(around, .draw limit)], congrArg (App.setScrollLimit limit) depicts.app,
        depicts.calls, depicts.ways⟩
    | _ =>
      refine ⟨[], ?_⟩
      simpa [move, step?, brings, World.run] using depicts
  | some event =>
    cases m with
    | key k => exact ⟨[(around, .key k)], depicts_quiet kept depicts around rfl _⟩
    | resize => exact ⟨[(around, .resize)], depicts_quiet kept depicts around rfl _⟩
    | tick => exact ⟨[(around, .tick)], depicts_quiet kept depicts around rfl _⟩
    | countdown => exact ⟨[(around, .countdown)], depicts_quiet kept depicts around rfl _⟩
    | draw limit => cases brings
    | answer n outcomes =>
      obtain ⟨c, out, _⟩ := brings_answer brings
      have number : (j.calls.map Made.call)[n]? = some c.call := by simp [out.1]
      have uncrossed : 0 + n ∉ j.answered := by simpa using out.2
      obtain ⟨place, found, taken⟩ := left_place number uncrossed
      rw [← depicts.calls, World.out, List.getElem?_map, Option.map_eq_some_iff] at found
      rw [Nat.zero_add] at taken
      obtain ⟨sent, there, content⟩ := found
      exact ⟨[(around, .answer place outcomes)],
        depicts_answer kept depicts settings around out there content taken outcomes⟩
    | leave n =>
      obtain ⟨route, ahead, _⟩ := brings_leave brings
      have uncrossed : 0 + n ∉ j.gone := by simpa using ahead.2
      obtain ⟨place, found, taken⟩ := left_place ahead.1 uncrossed
      rw [← depicts.ways, List.getElem?_map, Option.map_eq_some_iff] at found
      rw [Nat.zero_add] at taken
      obtain ⟨sent, there, content⟩ := found
      exact ⟨[(around, .leave place)],
        depicts_leave kept depicts settings around ahead there content taken⟩

theorem depicts_moved (m : Move) :
    ∃ moves, (run settings moves j).Depicts (w.move settings around m) := by
  cases m with
  | key k => exact ⟨[(around, .key k)], depicts_quiet kept depicts around rfl _⟩
  | resize => exact ⟨[(around, .resize)], depicts_quiet kept depicts around rfl _⟩
  | tick => exact ⟨[(around, .tick)], depicts_quiet kept depicts around rfl _⟩
  | countdown => exact ⟨[(around, .countdown)], depicts_quiet kept depicts around rfl _⟩
  | draw limit =>
    exact ⟨[(around, .draw limit)], congrArg (App.setScrollLimit limit) depicts.app,
      depicts.calls, depicts.ways⟩
  | answer place outcomes =>
    cases there : w.calls[place]? with
    | none =>
      refine ⟨[], ?_⟩
      simpa [World.move, there, run] using depicts
    | some sent =>
      have found : (left j.answered 0 (j.calls.map Made.call))[place]? = some sent.content := by
        simp [← depicts.calls, World.out, there]
      obtain ⟨n, number, uncrossed, taken⟩ := left_number found
      rw [List.getElem?_map, Option.map_eq_some_iff] at number
      rw [Nat.zero_add] at uncrossed taken
      obtain ⟨c, made, content⟩ := number
      exact ⟨[(around, .answer n outcomes)],
        depicts_answer kept depicts settings around ⟨made, uncrossed⟩ there content.symm taken
          outcomes⟩
  | leave place =>
    cases there : w.ways[place]? with
    | none =>
      refine ⟨[], ?_⟩
      simpa [World.move, there, run] using depicts
    | some sent =>
      have found : (left j.gone 0 j.ways)[place]? = some sent.content := by
        simp [← depicts.ways, there]
      obtain ⟨n, set, uncrossed, taken⟩ := left_number found
      rw [Nat.zero_add] at uncrossed taken
      exact ⟨[(around, .leave n)],
        depicts_leave kept depicts settings around ⟨set, uncrossed⟩ there rfl taken⟩

end

theorem depicts_opened (route : Route) : (opened route).Depicts (World.opened route) := by
  cases route <;> exact ⟨rfl, rfl, rfl⟩

theorem run_kept (settings : Settings) (route : Route) (moves : List (Surroundings × Move)) :
    ∃ stage, Kept (run settings moves (opened route)) stage := by
  obtain ⟨stage, kept, _⟩ :=
    @run_induction (fun _ _ => True) settings route trivial (fun _ _ _ => trivial) moves
  exact ⟨stage, kept⟩

theorem run_depicts (settings : Settings) (route : Route) (moves : List (Surroundings × Move)) :
    ∃ w, World.Reached settings route w ∧ (run settings moves (opened route)).Depicts w := by
  induction moves using List.reverseRecOn with
  | nil => exact ⟨World.opened route, ⟨[], rfl⟩, depicts_opened route⟩
  | append_singleton moves m ih =>
    obtain ⟨w, reached, depicts⟩ := ih
    obtain ⟨stage, kept⟩ := run_kept settings route moves
    obtain ⟨later, depicts'⟩ := depicts_move kept depicts settings m.1 m.2
    rw [run_snoc]
    exact ⟨_, World.reached_run reached later, depicts'⟩

theorem reached_depicted {settings : Settings} {route : Route} {w : World}
    (reached : World.Reached settings route w) :
    ∃ moves, (run settings moves (opened route)).Depicts w := by
  apply World.reached_induction
    (fun w => ∃ moves, (run settings moves (opened route)).Depicts w) ?_ ?_ reached
  · exact ⟨[], depicts_opened route⟩
  rintro w around m ⟨moves, depicts⟩
  obtain ⟨stage, kept⟩ := run_kept settings route moves
  obtain ⟨later, depicts'⟩ := depicts_moved kept depicts settings around m
  refine ⟨moves ++ later, ?_⟩
  rwa [run, List.foldl_append]

end Journal

end GuessClient
