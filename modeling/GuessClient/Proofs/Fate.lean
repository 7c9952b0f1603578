import Mathlib.Data.List.Induction
import GuessClient.Panel.Session
import GuessClient.Proofs.Rest

/-!
Why a session has ended. The cause is kept nowhere, but the time, the last message and the way to
the next screen tell it: of four fates a session shows exactly one, whatever has come in which
order.
-/

namespace GuessClient

inductive Fate where
  | live
  | won
  | late
  | lost
  deriving DecidableEq

namespace Session

/-- The operation brings the right answer to a question that the session still waits for. -/
def WonBy (u : Session) (operation : Operation) (v : Verdict) : Prop :=
  ∃ ticket formula, operation = .reply ticket (.ok (.verdict v)) ∧ ticket.epoch = u.epoch ∧
    ticket.request = .answer formula ∧ v.correct = true

/-- The operation brings the outcome of the call for the data, and there are no data in it. -/
def LostBy (u : Session) (operation : Operation) (outcome : Outcome Picture) : Prop :=
  ∃ now failure, operation = .picture outcome now ∧ u.loaded = none ∧ u.ended = false ∧
    openPicture outcome = .error failure

def refused : Outcome Picture → Bool
  | .error (.status ..) => true
  | _ => false

def Meets (start : Session) (operations : List Operation) (u : Session) (operation : Operation) :
    Prop :=
  ∃ before after, operations = before ++ operation :: after ∧ u = (run before start).1

def WonAt (start : Session) (operations : List Operation) (u : Session) (v : Verdict) : Prop :=
  ∃ operation, Meets start operations u operation ∧ u.WonBy operation v

def LostAt (start : Session) (operations : List Operation) (u : Session)
    (outcome : Outcome Picture) : Prop :=
  ∃ operation, Meets start operations u operation ∧ u.LostBy operation outcome

/-- What the state of a session and the ways it has set say of its fate. -/
def Tells (id : String) (won : Verdict → Prop) (lost : Outcome Picture → Prop) (t : Session)
    (ways : List Route) : Fate → Prop
  | .live => t.ended = false ∧ ways = [] ∧ t.remaining ≠ some 0
  | .won =>
    t.ended = true ∧ ways = [.result id] ∧ t.remaining ≠ some 0 ∧
      ∃ v, won v ∧ t.messages.getLast? = some (.success ("🎉 " ++ v.message))
  | .late =>
    t.ended = true ∧ ways = [.result id] ∧ t.remaining = some 0 ∧
      t.messages.getLast? = some (.error timeUpText)
  | .lost =>
    t.ended = true ∧ ways = [.home] ∧ t.loaded = none ∧ t.remaining = none ∧ t.hint = none ∧
      ∃ outcome, lost outcome ∧
        t.messages.getLast? =
          some (.error (if refused outcome then invalidText else communicationText))

def Shows (start : Session) (operations : List Operation) : Fate → Prop :=
  Tells start.id (fun v => ∃ u, WonAt start operations u v)
    (fun outcome => ∃ u, LostAt start operations u outcome) (run operations start).1
    ((run operations start).2.filterMap Effect.way?)

section Telling

variable {id : String} {won : Verdict → Prop} {lost : Outcome Picture → Prop} {t : Session}
  {ways : List Route} {fate : Fate}

theorem tells_one {other : Fate} (tells : Tells id won lost t ways fate)
    (also : Tells id won lost t ways other) : other = fate := by
  cases fate <;> cases other <;> simp_all [Tells]

theorem tells_mono {won' : Verdict → Prop} {lost' : Outcome Picture → Prop}
    (wins : ∀ v, won v → won' v) (loses : ∀ outcome, lost outcome → lost' outcome)
    (tells : Tells id won lost t ways fate) : Tells id won' lost' t ways fate := by
  cases fate with
  | live => exact tells
  | late => exact tells
  | won =>
    obtain ⟨ended, way, time, v, right, last⟩ := tells
    exact ⟨ended, way, time, v, wins v right, last⟩
  | lost =>
    obtain ⟨ended, way, unloaded, timeless, bare, outcome, failed, last⟩ := tells
    exact ⟨ended, way, unloaded, timeless, bare, outcome, loses outcome failed, last⟩

theorem tells_rests (tells : Tells id won lost t ways fate) (mode : Mode) (begun : Bool) :
    Tells id won lost { t with mode, begun } ways fate := by
  cases fate <;> exact tells

theorem tells_late_iff (tells : Tells id won lost t ways fate) :
    t.remaining = some 0 ↔ fate = .late := by
  cases fate with
  | live => simp [tells.2.2]
  | won => simp [tells.2.2.1]
  | late => simp [tells.2.2.1]
  | lost => simp [tells.2.2.2.1]

theorem tells_success (tells : Tells id won lost t ways fate) (ended : t.ended = true)
    {text : String} (last : t.messages.getLast? = some (.success text)) : fate = .won := by
  cases fate with
  | live => cases ended.symm.trans tells.1
  | won => rfl
  | late => cases last.symm.trans tells.2.2.2
  | lost =>
    obtain ⟨_, _, _, _, _, _, _, error⟩ := tells
    cases last.symm.trans error

theorem green_iff (s : Session) (r : UInt64) :
    (Panel.timerStyle s r).foreground = some .green ↔ s.ended = true ∧ 0 < r := by
  unfold Panel.timerStyle
  split
  · simp_all
  · split <;> simp_all

theorem tells_green_iff (tells : Tells id won lost t ways fate) :
    (∃ r, t.remaining = some r ∧ (Panel.timerStyle t r).foreground = some .green) ↔
      fate = .won ∧ t.loaded.isSome = true := by
  simp only [green_iff]
  cases fate with
  | live => simp [tells.1]
  | won =>
    obtain ⟨ended, _, time, _⟩ := tells
    constructor
    · rintro ⟨r, left, _⟩
      exact ⟨rfl, by simpa [remaining] using congrArg Option.isSome left⟩
    · rintro ⟨_, known⟩
      obtain ⟨l, loaded⟩ := Option.isSome_iff_exists.mp known
      have left : t.remaining = some l.remaining := by simp [remaining, loaded]
      have positive : l.remaining ≠ 0 := fun none => time (none ▸ left)
      exact ⟨l.remaining, left, ended, UInt64.pos_iff_ne_zero.mpr positive⟩
  | late => simp [tells.2.2.1]
  | lost => simp [tells.2.2.2.1]

end Telling

theorem meets_last (start : Session) (before : List Operation) (operation : Operation) :
    Meets start (before ++ [operation]) (run before start).1 operation :=
  ⟨before, [], rfl, rfl⟩

theorem meets_later {start : Session} {before : List Operation} {u : Session}
    {operation : Operation} (meets : Meets start before u operation) (next : Operation) :
    Meets start (before ++ [next]) u operation := by
  obtain ⟨earlier, after, rfl, there⟩ := meets
  exact ⟨earlier, after ++ [next], by simp, there⟩

theorem load_failure_text {outcome : Outcome Picture} {failure : Failure}
    (opened : openPicture outcome = .error failure) :
    loadFailureText failure = if refused outcome then invalidText else communicationText := by
  cases outcome with
  | error cause =>
    obtain rfl : cause = failure := by simpa [openPicture, bind, Except.bind] using opened
    cases cause <;> rfl
  | ok p =>
    -- text that cannot be decoded is the fault of no server
    cases picture : Base64.decode (Text.trim p.text) with
    | ok bytes =>
      simp [openPicture, Picture.decode, picture, bind, Except.bind, pure, Except.pure] at opened
    | error fault =>
      obtain rfl : .malformed (.picture fault) = failure := by
        simpa [openPicture, Picture.decode, picture, bind, Except.bind] using opened
      rfl

theorem closed_last (s : Session) (m : Message) : (closed s m).messages.getLast? = some m := by
  simp [closed]

theorem course_fate {s t : Session} {operation : Operation} {effects : List Effect}
    (live : s.ended = false) (time : s.remaining ≠ some 0)
    (course : Course s operation t effects) :
    ∃ fate, Tells s.id (s.WonBy operation) (s.LostBy operation) t (effects.filterMap Effect.way?)
      fate := by
  cases course with
  | idle => exact ⟨.live, live, rfl, time⟩
  | begin => exact ⟨.live, live, rfl, time⟩
  | @lost outcome failure now unloaded _ opened =>
    have loses : s.LostBy (.picture outcome now) outcome :=
      ⟨now, failure, rfl, unloaded, live, opened⟩
    refine ⟨.lost, rfl, rfl, unloaded, ?_, ?_, outcome, loses, ?_⟩
    · simp [remaining, closed, unloaded]
    · simp [hint, closed, unloaded]
    · rw [closed_last, load_failure_text opened]
  | @load outcome now window picture _ _ _ left =>
    refine ⟨.live, (hinted_ended _ _).trans live, rfl, ?_⟩
    simpa [remaining, hinted_loaded, opening, loadedAt] using left
  | loadLate _ _ _ late =>
    refine ⟨.late, rfl, rfl, ?_, closed_last _ _⟩
    simpa [remaining, closed, opening, loadedAt] using late
  | tick _ _ left =>
    refine ⟨.live, (hinted_ended _ _).trans live, rfl, ?_⟩
    simpa [remaining, hinted_loaded] using left
  | tickLate _ _ late =>
    refine ⟨.late, rfl, rfl, ?_, closed_last _ _⟩
    simpa [remaining, closed] using late
  | ask => exact ⟨.live, live, rfl, time⟩
  | misread => exact ⟨.live, live, rfl, time⟩
  | @win ticket formula v current _ asked right =>
    exact ⟨.won, rfl, rfl, time, v, ⟨ticket, formula, rfl, current, asked, right⟩, closed_last _ _⟩
  | note => exact ⟨.live, live, rfl, time⟩
  | turn => exact ⟨.live, live, rfl, time⟩

theorem rest_effects_ways (begun begins : Bool) :
    (restEffects begun begins).filterMap Effect.way? = [] := by
  cases begun <;> cases begins <;> rfl

theorem shows_step {start : Session} (h : start.status.Sound) {before : List Operation}
    {operation : Operation} (early : operation.Early) (shown : ∃ fate, Shows start before fate) :
    ∃ fate, Shows start (before ++ [operation]) fate := by
  obtain ⟨fate, tells⟩ := shown
  have sound := run_sound before start h
  have course := apply_course sound operation
  have same : (run before start).1.id = start.id := (run_keeps before start h).1
  simp only [Shows, run_snoc, List.filterMap_append]
  cases ended : (run before start).1.ended with
  | true =>
    obtain ⟨mode, rests, put⟩ := course_rests sound ended early course
    refine ⟨fate, ?_⟩
    rw [rests, put, rest_effects_ways, List.append_nil]
    refine tells_rests (tells_mono ?_ ?_ tells) mode _
    · rintro v ⟨u, o, meets, won⟩
      exact ⟨u, o, meets_later meets operation, won⟩
    · rintro outcome ⟨u, o, meets, lost⟩
      exact ⟨u, o, meets_later meets operation, lost⟩
  | false =>
    -- only one of the fates is shown by a session that goes on
    obtain ⟨ways, time⟩ : (run before start).2.filterMap Effect.way? = [] ∧
        (run before start).1.remaining ≠ some 0 := by
      cases fate <;> simp_all [Shows, Tells]
    obtain ⟨next, tells'⟩ := course_fate ended time course
    refine ⟨next, ?_⟩
    rw [ways, List.nil_append, ← same]
    have meets := meets_last start before operation
    exact tells_mono (fun v won => ⟨_, operation, meets, won⟩)
      (fun outcome lost => ⟨_, operation, meets, lost⟩) tells'

theorem shows_some {start : Session} (h : start.status.Sound) (live : start.ended = false)
    (unloaded : start.loaded = none) {operations : List Operation}
    (early : ∀ operation ∈ operations, operation.Early) : ∃ fate, Shows start operations fate := by
  induction operations using List.reverseRecOn with
  | nil => exact ⟨.live, live, rfl, by simp [remaining, unloaded]⟩
  | append_singleton before operation ih =>
    obtain ⟨earlier, last⟩ := List.forall_mem_append.mp early
    exact shows_step h (last operation (List.mem_singleton.mpr rfl)) (ih earlier)

theorem won_closes {u : Session} (sound : u.status.Sound) {operation : Operation} {v : Verdict}
    (early : operation.Early) (won : u.WonBy operation v) :
    (apply operation u).1 = closed u (.success ("🎉 " ++ v.message)) := by
  obtain ⟨ticket, formula, rfl, current, asked, right⟩ := won
  have live : u.ended = false := by
    rw [← Bool.not_eq_true]
    intro ended
    have first : ticket.epoch = 0 := early
    rw [first, sound_second sound ended] at current
    contradiction
  have wins : Wins ticket.request (.ok (.verdict v)) :=
    (wins_iff _ _).mpr ⟨formula, v, asked, rfl, right⟩
  rw [apply, reply_win current wins live (sound_live sound live), asked, told, if_pos right]
  rfl

theorem won_stays {start : Session} (h : start.status.Sound) {operations : List Operation}
    (early : ∀ operation ∈ operations, operation.Early) {u : Session} {v : Verdict}
    (won : WonAt start operations u v) :
    let t := (run operations start).1
    t.ended = true ∧ t.loaded = u.loaded ∧
      t.messages = u.messages ++ [.success ("🎉 " ++ v.message)] := by
  intro t
  obtain ⟨operation, ⟨before, after, rfl, rfl⟩, won⟩ := won
  have sound := run_sound before start h
  have closes := won_closes sound (early operation (by simp)) won
  have sound' := apply_sound sound operation
  rw [closes] at sound'
  have later : ∀ o ∈ after, o.Early := fun o there => early o (by simp [there])
  obtain ⟨mode, rests, _⟩ := run_rests sound' rfl later
  have same : t = (run after (closed (run before start).1 (.success ("🎉 " ++ v.message)))).1 := by
    simp only [t, run_append, run_cons, closes]
  rw [same, rests]
  exact ⟨rfl, rfl, rfl⟩

theorem one_fate (id : String) (delay : Nat) {operations : List Operation}
    (genuine : Genuine { id, delay } operations) :
    let start : Session := { id, delay }
    let t := (run operations start).1
    (∃ fate, Shows start operations fate ∧ ∀ other, Shows start operations other → other = fate) ∧
      (t.remaining = some 0 ↔ Shows start operations .late) ∧
      ((∃ r, t.remaining = some r ∧ (Panel.timerStyle t r).foreground = some .green) ↔
        ∃ u v, WonAt start operations u v ∧ u.loaded.isSome = true) := by
  intro start t
  have fresh : start.status.Sound := new_sound id delay
  have early := genuine_early fresh genuine
  obtain ⟨fate, shown⟩ := shows_some fresh rfl rfl early
  refine ⟨⟨fate, shown, fun other also => tells_one shown also⟩, ?_, ?_⟩
  · rw [tells_late_iff shown]
    exact ⟨fun late => late ▸ shown, fun late => tells_one late shown⟩
  · rw [tells_green_iff shown]
    constructor
    · rintro ⟨rfl, known⟩
      obtain ⟨_, _, _, v, ⟨u, won⟩, _⟩ := shown
      obtain ⟨_, loaded, _⟩ := won_stays fresh early won
      exact ⟨u, v, won, loaded ▸ known⟩
    · rintro ⟨u, v, won, known⟩
      obtain ⟨ended, loaded, messages⟩ := won_stays fresh early won
      have last : t.messages.getLast? = some (.success ("🎉 " ++ v.message)) := by
        rw [messages, List.getLast?_concat]
      exact ⟨tells_success shown ended last, loaded ▸ known⟩

/-- The right answer comes before the time is up, and the clock goes past the end after it. -/
theorem one_fate_won :
    let start : Session := { id := "a" }
    let ticket : Ticket := ⟨0, .answer "x"⟩
    let before : List Operation := [.begin, .submit "x", .picture (.ok ⟨"", 0, 90⟩) 10]
    let right : Operation := .reply ticket (.ok (.verdict ⟨true, "Correct!"⟩))
    let operations := before ++ [right] ++ [.countdown 95]
    let t := (run operations start).1
    Genuine start operations ∧
      ∃ r, t.remaining = some r ∧ (Panel.timerStyle t r).foreground = some .green := by
  intro start ticket before right operations t
  have asked : Genuine start [.begin, .submit "x"] := .other (.other .start .begin rfl) _ rfl
  have loaded : Genuine start before := .other asked (.picture (.ok ⟨"", 0, 90⟩) 10) rfl
  have sent : .send ticket ∈ (run before start).2 := .tail _ (.head _)
  have genuine : Genuine start operations := .other (.reply loaded sent _) (.countdown 95) rfl
  have met : Meets start operations (run before start).1 right := meets_later (meets_last _ _ _) _
  have won : WonAt start operations (run before start).1 ⟨true, "Correct!"⟩ :=
    ⟨right, met, ticket, "x", rfl, rfl, rfl, rfl⟩
  have known : (run before start).1.loaded.isSome = true := rfl
  exact ⟨genuine, (one_fate "a" 1500 genuine).2.2.mpr ⟨_, _, won, known⟩⟩

end Session

end GuessClient
