import GuessClient.Proofs.Dialogue

/-!
A request that does not win leaves no trace but its two messages. Whatever the session takes in
while the answer is awaited, it comes to the same as if nothing had been asked: the question stands
in the log before all of that, and the answer after it.
-/

namespace GuessClient

/-- The operations that look neither at the log nor at whether an answer is awaited. -/
def Session.Operation.apart : Session.Operation → Bool
  | .begin => true
  | .picture .. => true
  | .countdown _ => true
  | .toggleMode => true
  | .setMode _ => true
  | _ => false

namespace Session

/-- Two sessions that differ in what has been said after the messages that they both began with,
and perhaps in the wait for an answer. -/
structure Beside (first said : List Message) (waits : Bool) (s u : Session) : Prop where
  idle : s.loading = false
  log : ∃ added, s.messages = first ++ added ∧
    u = { s with loading := waits, messages := first ++ said ++ added }

section

variable {first said : List Message} {waits : Bool} {s u : Session}

theorem beside_same (beside : Beside first said waits s u) :
    u.loaded = s.loaded ∧ u.ended = s.ended ∧ u.leaving = s.leaving ∧ u.begun = s.begun ∧
      u.id = s.id ∧ u.delay = s.delay := by
  obtain ⟨_, _, _, rfl⟩ := beside
  exact ⟨rfl, rfl, rfl, rfl, rfl, rfl⟩

theorem beside_closed (beside : Beside first said waits s u) (m : Message) :
    Beside first said waits (closed s m) (closed u m) := by
  obtain ⟨idle, added, log, rfl⟩ := beside
  exact ⟨idle, added ++ [m], by simp [closed, log], by simp [closed]⟩

theorem beside_opening (beside : Beside first said waits s u) (l : Loaded) :
    Beside first said waits (opening s l) (opening u l) := by
  obtain ⟨idle, added, log, rfl⟩ := beside
  exact ⟨idle, added ++ [.system startedText], by simp [opening, log], by simp [opening]⟩

theorem beside_ticked (beside : Beside first said waits s u) (l : Loaded) :
    Beside first said waits { s with loaded := some l } { u with loaded := some l } := by
  obtain ⟨idle, added, log, rfl⟩ := beside
  exact ⟨idle, added, log, rfl⟩

theorem beside_hinted (beside : Beside first said waits s u) (l : Loaded) :
    Beside first said waits (hinted s l) (hinted u l) := by
  have due : u.hintDue l = s.hintDue l := by
    obtain ⟨_, _, _, rfl⟩ := beside
    rfl
  unfold hinted
  rw [due]
  split
  · obtain ⟨idle, added, log, rfl⟩ := beside
    exact ⟨idle, added ++ [.image hintText (pictureAddress l.picture)], by simp [log], by simp⟩
  · exact beside

theorem beside_begin (beside : Beside first said waits s u) :
    Beside first said waits (begin s).1 (begin u).1 ∧ (begin u).2 = (begin s).2 := by
  obtain ⟨_, _, _, begun, _, _⟩ := beside_same beside
  simp only [begin, begun]
  split
  · exact ⟨beside, rfl⟩
  · obtain ⟨idle, added, log, rfl⟩ := beside
    exact ⟨⟨idle, added, log, rfl⟩, rfl⟩

theorem beside_picture (h : s.status.Sound) (beside : Beside first said waits s u)
    (outcome : Outcome Picture) (now : Float) :
    Beside first said waits (onPicture outcome now s).1 (onPicture outcome now u).1 ∧
      (onPicture outcome now u).2 = (onPicture outcome now s).2 := by
  obtain ⟨loaded, ended, leaving, _, id, delay⟩ := beside_same beside
  by_cases known : s.loaded.isSome = true ∨ s.ended = true
  · rw [picture_known known, picture_known (by rwa [loaded, ended])]
    exact ⟨beside, rfl⟩
  simp only [not_or, Bool.not_eq_true, Option.isSome_eq_false_iff,
    Option.isNone_iff_eq_none] at known
  obtain ⟨unloaded, live⟩ := known
  have staying := sound_live h live
  cases opened : openPicture outcome with
  | error failure =>
    rw [picture_failed unloaded live staying opened,
      picture_failed (loaded.trans unloaded) (ended.trans live) (leaving.trans staying) opened]
    exact ⟨beside_closed beside _, by rw [delay]⟩
  | ok data =>
    obtain ⟨window, picture⟩ := data
    by_cases late : window.remaining now = 0
    · rw [picture_late unloaded live staying opened late,
        picture_late (loaded.trans unloaded) (ended.trans live) (leaving.trans staying) opened late]
      exact ⟨beside_closed (beside_opening beside _) _, by rw [id, delay]⟩
    · rw [picture_timely unloaded live opened late,
        picture_timely (loaded.trans unloaded) (ended.trans live) opened late]
      exact ⟨beside_hinted (beside_opening beside _) _, rfl⟩

theorem beside_countdown (h : s.status.Sound) (beside : Beside first said waits s u)
    (now : Float) :
    Beside first said waits (onCountdown now s).1 (onCountdown now u).1 ∧
      (onCountdown now u).2 = (onCountdown now s).2 := by
  obtain ⟨loaded, ended, leaving, _, id, delay⟩ := beside_same beside
  by_cases idle : s.ended = true ∨ s.loaded = none
  · rw [countdown_idle idle, countdown_idle (by rwa [loaded, ended])]
    exact ⟨beside, rfl⟩
  simp only [not_or, Bool.not_eq_true] at idle
  obtain ⟨live, known⟩ := idle
  obtain ⟨l, there⟩ := Option.ne_none_iff_exists'.mp known
  have staying := sound_live h live
  by_cases late : (ticked l now).remaining = 0
  · rw [countdown_late there live staying late,
      countdown_late (loaded.trans there) (ended.trans live) (leaving.trans staying) late]
    exact ⟨beside_closed (beside_ticked beside _) _, by rw [id, delay]⟩
  · rw [countdown_timely there live late,
      countdown_timely (loaded.trans there) (ended.trans live) late]
    exact ⟨beside_hinted (beside_ticked beside _) _, rfl⟩

theorem beside_apply (h : s.status.Sound) (beside : Beside first said waits s u)
    {operation : Operation} (apart : operation.apart = true) :
    Beside first said waits (apply operation s).1 (apply operation u).1 ∧
      (apply operation u).2 = (apply operation s).2 := by
  cases operation with
  | begin => exact beside_begin beside
  | picture outcome now => exact beside_picture h beside outcome now
  | countdown now => exact beside_countdown h beside now
  | submit | reply | toggleCommand => cases apart
  | toggleMode | setMode =>
    obtain ⟨idle, added, log, rfl⟩ := beside
    exact ⟨⟨idle, added, log, rfl⟩, rfl⟩

theorem beside_run (h : s.status.Sound) (beside : Beside first said waits s u)
    {operations : List Operation} (apart : ∀ operation ∈ operations, operation.apart = true) :
    Beside first said waits (run operations s).1 (run operations u).1 ∧
      (run operations u).2 = (run operations s).2 := by
  induction operations generalizing s u with
  | nil => exact ⟨beside, rfl⟩
  | cons operation rest ih =>
    obtain ⟨next, same⟩ := beside_apply h beside (apart operation List.mem_cons_self)
    obtain ⟨last, later⟩ := ih (apply_sound h operation) next fun o there =>
      apart o (List.mem_cons_of_mem _ there)
    rw [run_cons, run_cons]
    exact ⟨last, by rw [same, later]⟩

theorem beside_idle (beside : Beside first said false s u) :
    ∃ added, s.messages = first ++ added ∧
      u = { s with messages := first ++ said ++ added } := by
  obtain ⟨idle, added, log, rfl⟩ := beside
  refine ⟨added, log, ?_⟩
  rw [← idle]

end

theorem reply_awaited {s : Session} (h : s.status.Sound) (idle : s.loading = false)
    (live : s.ended = false) {ticket : Ticket} (first : ticket.epoch = 0)
    {outcome : Outcome Response} (loses : ¬ Wins ticket.request outcome) (log : List Message) :
    onReply ticket outcome { s with loading := true, messages := log } =
      ({ s with messages := log ++ [told ticket.request outcome] }, []) := by
  have current : ticket.epoch = s.epoch := first.trans (sound_first h live).symm
  have staying : s.leaving = false := sound_live h live
  have awaiting : ({ s with loading := true, messages := log } : Session).status.Sound :=
    ⟨h.leaving, h.epoch⟩
  rw [reply_noted awaiting current fun wins => loses wins.1]
  simp [noted, staying, idle]

theorem request_none {mode : Mode} {text : String} (unmade : request? mode text = none) :
    mode = .substitute := by
  cases mode with
  | substitute => rfl
  | answer | chat => cases unmade

theorem asked_beside {s : Session} (idle : s.loading = false) (m : Message) :
    Beside s.messages [m] true s { s with messages := s.messages ++ [m], loading := true } :=
  ⟨idle, [], by simp, by simp⟩

theorem misread_beside {s : Session} (idle : s.loading = false) (said : List Message) :
    Beside s.messages said false s { s with messages := s.messages ++ said } :=
  ⟨idle, [], by simp, by simp [idle]⟩

theorem submit_accepted {s u : Session} {text : String} {effects : List Effect}
    (accepted : s.submit text = some (u, effects)) :
    s.loading = false ∧ s.ended = false ∧
      ((∃ request, u = { s with
            messages := s.messages ++ [echo s.mode (Text.trim text)], loading := true } ∧
          effects = [.send ⟨s.epoch, request⟩]) ∨
        (s.mode = .substitute ∧ effects = [] ∧
          u = { s with
            messages := s.messages ++
              [echo s.mode (Text.trim text), .error calculationText] })) := by
  obtain ⟨filled, free⟩ := (submit_isSome_iff s text).mp (by rw [accepted]; rfl)
  refine ⟨((free_iff s).mp free).1, ((free_iff s).mp free).2, ?_⟩
  cases made : request? s.mode (Text.trim text) with
  | none =>
    rw [submit_misread filled free made] at accepted
    obtain ⟨rfl, rfl⟩ := Prod.mk.inj (Option.some.inj accepted)
    exact .inr ⟨request_none made, rfl, rfl⟩
  | some request =>
    rw [submit_asked filled free made] at accepted
    obtain ⟨rfl, rfl⟩ := Prod.mk.inj (Option.some.inj accepted)
    exact .inl ⟨request, rfl, rfl⟩

theorem request_traceless (id : String) (delay : Nat) (before : List Operation) {text : String}
    {middle : List Operation} {u : Session} {effects : List Effect}
    (accepted : (run before { id, delay }).1.submit text = some (u, effects))
    (apart : ∀ operation ∈ middle, operation.apart = true)
    (live : (run middle u).1.ended = false) :
    let s := (run before { id, delay }).1
    let alone := run middle s
    let question := echo s.mode (Text.trim text)
    question.role = .player ∧ (run middle u).2 = alone.2 ∧
      ∃ added, alone.1.messages = s.messages ++ added ∧
        ((∃ ticket, effects = [.send ticket] ∧
            ∀ outcome, ¬ Wins ticket.request outcome →
              let answer := told ticket.request outcome
              answer.role ≠ .player ∧
                apply (.reply ticket outcome) (run middle u).1 =
                  ({ alone.1 with messages := s.messages ++ [question] ++ added ++ [answer] }, [])) ∨
          (s.mode = .substitute ∧ effects = [] ∧
            (run middle u).1 =
              { alone.1 with
                messages := s.messages ++ [question, .error calculationText] ++ added })) := by
  intro s alone question
  have sound : s.status.Sound := run_sound before _ (new_sound id delay)
  have player : question.role = .player := question_role s.mode text
  obtain ⟨idle, going, ⟨request, rfl, rfl⟩ | ⟨substitute, rfl, rfl⟩⟩ := submit_accepted accepted
  · obtain ⟨beside, same⟩ := beside_run sound (asked_beside idle question) apart
    obtain ⟨added, log, awaited⟩ := beside.log
    refine ⟨player, same, added, log, .inl ⟨_, rfl, ?_⟩⟩
    intro outcome loses answer
    refine ⟨told_role _ outcome, ?_⟩
    rw [awaited] at live ⊢
    exact reply_awaited (run_sound middle s sound) beside.idle live (sound_first sound going) loses _
  · obtain ⟨beside, same⟩ := beside_run sound (misread_beside idle _) apart
    obtain ⟨added, log, rejected⟩ := beside_idle beside
    exact ⟨player, same, added, log, .inr ⟨substitute, rfl, rejected⟩⟩

/-- The server cannot be reached, while the time goes on and the player turns to the chat. -/
theorem request_traceless_unreached :
    let before : List Operation := [.begin, .picture (.ok ⟨"", 0, 90⟩) 10]
    let middle : List Operation := [.countdown 25, .toggleMode, .begin, .countdown 70]
    let ticket : Ticket := ⟨0, .answer "x"⟩
    ∃ u, (run before { id := "a" }).1.submit " x " = some (u, [.send ticket]) ∧
      (run middle u).1.ended = false ∧
      ∃ log, apply (.reply ticket (.error .transport)) (run middle u).1 =
        ({ (run middle (run before { id := "a" }).1).1 with messages := log }, []) := by
  intro before middle ticket
  have accepted : (run before { id := "a" }).1.submit " x " =
      some ({ (run before { id := "a" }).1 with
        messages := (run before { id := "a" }).1.messages ++ [echo .answer "x"],
        loading := true }, [.send ticket]) := rfl
  have apart : ∀ operation ∈ middle, operation.apart = true := by decide
  refine ⟨_, accepted, rfl, ?_⟩
  obtain ⟨_, _, added, _, ⟨asked, sent, replies⟩ | ⟨substitute, _⟩⟩ :=
    request_traceless "a" 1500 before accepted apart rfl
  · obtain rfl : ticket = asked := by simpa using sent
    exact ⟨_, (replies (.error .transport) (by simp [Wins, ticket])).2⟩
  · cases substitute

end Session

end GuessClient
