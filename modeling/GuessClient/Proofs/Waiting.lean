import GuessClient.Proofs.Settled

/-!
There is no dead end: what a screen waits for is out, whatever has come before, late replies and
replies of sessions long left among it.
-/

namespace GuessClient

def Call.isStart : Call → Bool
  | .start => true
  | _ => false

def Call.isAlive (id : String) : Call → Bool
  | .alive other => other = id
  | _ => false

namespace World

structure Answerable (w : World) : Prop where
  home : w.app.screen = .home →
    w.out.countP Call.isStart = if w.app.home.starting then 1 else 0
  entering : w.app.screen = .session → w.app.session = none →
    ∃ id, w.app.sessionId = some id ∧ w.out.countP (Call.isAlive id) = 1
  picture : ∀ s, w.app.session = some s → s.loaded = none → s.ended = false →
    .picture s.id ∈ w.out
  countdown : ∀ s, w.app.session = some s → s.loaded.isSome = true → s.ended = false →
    w.app.counting = true
  command : ∀ s, w.app.session = some s → s.loading = true → s.ended = false →
    ∃ ticket, .command s.id ticket ∈ w.out
  result : w.app.screen = .result →
    ∃ page, w.app.result = some page ∧ (page.result = none → .result page.session ∈ w.out)
  /-- A session is only there on its own screen. -/
  screen : w.app.session.isSome = true → w.app.screen = .session

end World

theorem settled_count {w : World} {stage : Stage} (settled : Settled w stage) (p : Call → Bool)
    (enters : ∀ c, p c = true → c.enters = true) : w.out.countP p = stage.entryCalls.countP p := by
  rw [← settled.entries, List.countP_filter]
  congr 1
  funext c
  cases counted : p c with
  | false => rfl
  | true => simp [enters c counted]

theorem settled_answerable {w : World} {stage : Stage} (settled : Settled w stage) :
    w.Answerable := by
  have starts := settled_count settled Call.isStart fun c => by
    cases c <;> simp [Call.isStart, Call.enters]
  have confirms (id : String) := settled_count settled (Call.isAlive id) fun c => by
    cases c <;> simp [Call.isAlive, Call.enters]
  have there := settled.there
  have provided := settled.provided
  cases stage with
  | home starting =>
    obtain ⟨screen, awaited, _, session, _, _⟩ := there
    constructor
    · intro _
      rw [starts, awaited]
      cases starting <;> rfl
    all_goals simp [screen, session]
  | entering id =>
    obtain ⟨screen, sessionId, session, _, _⟩ := there
    constructor
    · simp [screen]
    · intro _ _
      refine ⟨id, sessionId, ?_⟩
      simp [confirms, Stage.entryCalls, Call.isAlive]
    all_goals simp [screen, session]
  | playing s =>
    obtain ⟨screen, _, session, _, counting⟩ := there
    obtain ⟨picture, command⟩ := provided
    have same {t : Session} (shown : w.app.session = some t) : s = t :=
      Option.some.inj (session.symm.trans shown)
    constructor
    · simp [screen]
    · simp [session]
    · intro t shown
      rw [← same shown]
      exact picture
    · intro t shown loaded live
      rw [← same shown] at loaded live
      simp [counting, Session.Status.counting, Session.status, loaded, live]
    · intro t shown
      rw [← same shown]
      exact command
    · simp [screen]
    · simp [screen]
  | result page =>
    obtain ⟨screen, _, session, result, _⟩ := there
    constructor
    · simp [screen]
    · simp [screen]
    · simp [session]
    · simp [session]
    · simp [session]
    · exact fun _ => ⟨page, result, provided⟩
    · simp [session]

namespace World

theorem reached_answerable {settings : Settings} {route : Route} {w : World}
    (reached : Reached settings route w) : w.Answerable := by
  obtain ⟨stage, settled⟩ := reached_settled reached
  exact settled_answerable settled

theorem answerable_confirmed :
    let settings : Settings := { hintDirectory := "" }
    let route := Route.session "a"
    let w := run settings [({ now := 0 }, .answer 0 { alive := .ok () })] (opened route)
    Reached settings route w ∧ .picture "a" ∈ w.out := by
  intro settings route w
  have reached : Reached settings route w := ⟨_, rfl⟩
  let s : Session := { id := "a", delay := 1500, begun := true }
  have shown : w.app.session = some s := by rfl
  exact ⟨reached, (reached_answerable reached).picture s shown rfl rfl⟩

end World

end GuessClient
