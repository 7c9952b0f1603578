import GuessClient.Proofs.Settled

/-!
The way from a session to the next screen says nothing of the session it comes from, and it is
obeyed wherever the application is. In a closed run it is still right: the session on screen has
set it, and nothing else takes that session away.
-/

namespace GuessClient

namespace World

def Stays (s : Session) (before after : World) : Prop :=
  ∃ t, after.app.session = some t ∧ after.visited = before.visited ∧
    (t = s ∨ ∃ operation, t = (Session.apply operation s).1)

structure Guided (settings : Settings) (w : World) : Prop where
  one : w.ways.length ≤ 1
  pending : w.ways ≠ [] ↔ ∃ s, w.app.session = some s ∧ s.leaving = true
  ended : ∀ s, w.app.session = some s → s.leaving = s.ended
  own : ∀ way ∈ w.ways, ∃ s, w.app.session = some s ∧ way.sender = w.onScreen ∧
    (way.content = .home ∨ way.content = .result s.id)
  kept : ∀ s, w.app.session = some s → ∀ around m,
    (∀ place, m = .leave place → w.ways[place]? = none) → Stays s w (w.move settings around m)

end World

theorem settled_ways {w : World} {stage : Stage} (settled : Settled w stage) :
    (w.ways = [] ∧ ∀ s, w.app.session = some s → s.leaving = false) ∨
      ∃ s route, w.app.session = some s ∧ s.leaving = true ∧
        (route = .home ∨ route = .result s.id) ∧ w.ways = [⟨w.onScreen, route⟩] := by
  have session := settled.there.session?
  have ways := settled.ways
  cases stage with
  | playing s =>
    cases leaving : s.leaving with
    | true =>
      rw [Stage.Ways, if_pos leaving] at ways
      obtain ⟨route, target, alone⟩ := ways
      refine .inr ⟨s, route, session, leaving, target, ?_⟩
      rw [alone, World.onScreen, session]
      rfl
    | false =>
      rw [Stage.Ways, if_neg (by simp [leaving])] at ways
      refine .inl ⟨ways, ?_⟩
      intro t shown
      obtain rfl : s = t := Option.some.inj (session.symm.trans shown)
      exact leaving
  | _ =>
    refine .inl ⟨ways, ?_⟩
    intro t shown
    cases session.symm.trans shown

theorem passage_stays {settings : Settings} {now : Float} {event : Event} {s : Session}
    {next : Stage} {new : List Call} {set : List Route}
    (passage : Passage settings now event (.playing s) next new set)
    (remains : ∀ route, event ≠ .navigate route) :
    next = .playing s ∨ ∃ operation, next = .playing (Session.apply operation s).1 := by
  cases passage with
  | stay => exact .inl rfl
  | played s => exact .inr ⟨_, rfl⟩
  | arrive route => exact absurd rfl (remains route)

theorem settled_stays {w : World} {s : Session} (settled : Settled w (.playing s))
    (settings : Settings) (around : Surroundings) {m : Move}
    (remains : ∀ place, m = .leave place → w.ways[place]? = none) :
    World.Stays s w (w.move settings around m) := by
  have shown : w.app.session = some s := settled.there.session?
  rcases World.move_cases settings around m w with
    ⟨limit, drawn⟩ | ⟨event, calls, ways, comes, taken, acted⟩
  · rw [drawn]
    exact ⟨s, shown, rfl, .inl rfl⟩
  · -- the move takes no way, so it brings none
    have other : ∀ route, event ≠ .navigate route := by
      intro route same
      obtain ⟨place, leave, there⟩ := taken route same
      exact there (remains place leave)
    obtain ⟨next, _, _, passage, settled'⟩ := settled_act settled comes settings around
    have session := settled'.there.session?
    have visited : (w.move settings around m).visited =
        World.visitedAfter w.visited w.app.session (w.move settings around m).app.session := by
      rw [acted]
      rfl
    rw [← acted] at session
    rw [session, shown] at visited
    rcases passage_stays passage other with rfl | ⟨operation, rfl⟩
    · exact ⟨s, session, visited, .inl rfl⟩
    · exact ⟨_, session, visited, .inr ⟨operation, rfl⟩⟩

namespace World

theorem reached_guided {settings : Settings} {route : Route} {w : World}
    (reached : Reached settings route w) : w.Guided settings := by
  obtain ⟨stage, settled⟩ := reached_settled reached
  have ways := settled_ways settled
  constructor
  · rcases ways with ⟨none, _⟩ | ⟨_, _, _, _, _, alone⟩
    · simp [none]
    · simp [alone]
  · rcases ways with ⟨none, staying⟩ | ⟨s, route, shown, leaving, _, alone⟩
    · simp only [none, ne_eq, not_true_eq_false, false_iff]
      intro leaves
      obtain ⟨s, shown, leaving⟩ := leaves
      simp [staying s shown] at leaving
    · simp only [alone, ne_eq, reduceCtorEq, not_false_eq_true, true_iff]
      exact ⟨s, shown, leaving⟩
  · intro s shown
    obtain rfl := settled.stage_eq shown
    exact settled.sound.leaving
  · intro way there
    rcases ways with ⟨none, _⟩ | ⟨s, route, shown, leaving, target, alone⟩
    · simp [none] at there
    · obtain rfl : way = ⟨w.onScreen, route⟩ := by simpa [alone] using there
      exact ⟨s, shown, rfl, target⟩
  · intro s shown around m remains
    obtain rfl := settled.stage_eq shown
    exact settled_stays settled settings around remains

theorem guided_unloaded :
    let settings : Settings := { hintDirectory := "" }
    let route := Route.session "a"
    let w := run settings
      [({ now := 0 }, .answer 0 { alive := .ok () }), ({ now := 0 }, .answer 0 {})] (opened route)
    Reached settings route w ∧ w.ways = [⟨some 1, .home⟩] ∧
      ∃ s, w.app.session = some s ∧ s.ended = true := by
  intro settings route w
  have reached : Reached settings route w := ⟨_, rfl⟩
  have set : w.ways = [⟨some 1, .home⟩] := by rfl
  have guided := reached_guided reached
  obtain ⟨s, shown, leaving⟩ := guided.pending.mp (by simp [set])
  exact ⟨reached, set, s, shown, (guided.ended s shown).symm.trans leaving⟩

end World

end GuessClient
