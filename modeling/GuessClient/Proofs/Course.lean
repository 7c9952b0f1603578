import GuessClient.Session

/-!
What one operation does to a session, said once for all operations: the whole of the next state
and the effects put out. A course is one way for an operation to go, and every operation on a
sound session takes one.
-/

namespace GuessClient

theorem Transition.andThen_apply (first second : Transition σ ω) (s : σ) :
    (first.andThen second) s =
      ((second (first s).1).1, (first s).2 ++ (second (first s).1).2) := rfl

namespace Session

/-- What decides how a session goes on, without what the player sees of it. -/
structure Status where
  id : String
  delay : Nat
  loaded : Bool
  ended : Bool
  loading : Bool
  leaving : Bool
  begun : Bool
  epoch : Nat

def status (s : Session) : Status :=
  ⟨s.id, s.delay, s.loaded.isSome, s.ended, s.loading, s.leaving, s.begun, s.epoch⟩

/-- To have ended, to be leaving and to be in the second epoch are one and the same. -/
structure Status.Sound (s : Status) : Prop where
  leaving : s.leaving = s.ended
  epoch : s.epoch = if s.ended then 1 else 0

theorem new_sound (id : String) (delay : Nat) :
    ({ id, delay } : Session).status.Sound := ⟨rfl, rfl⟩

theorem sound_live {s : Session} (h : s.status.Sound) (live : s.ended = false) :
    s.leaving = false := by
  have := h.leaving
  simpa [status, live] using this

theorem sound_first {s : Session} (h : s.status.Sound) (live : s.ended = false) : s.epoch = 0 := by
  have := h.epoch
  simpa [status, live] using this

theorem sound_second {s : Session} (h : s.status.Sound) (ended : s.ended = true) :
    s.epoch = 1 := by
  have := h.epoch
  simpa [status, ended] using this

theorem locked_iff (s : Session) : s.locked = true ↔ s.loading = true ∨ s.ended = true := by
  simp [locked]

theorem free_iff (s : Session) : s.locked = false ↔ s.loading = false ∧ s.ended = false := by
  simp [locked]

def closed (s : Session) (m : Message) : Session :=
  { s with
    messages := s.messages ++ [m], ended := true, leaving := true, epoch := s.epoch + 1 }

def hinted (s : Session) (l : Loaded) : Session :=
  if s.hintDue l then
    { s with
      revealed := true
      messages := s.messages ++ [.image hintText (pictureAddress l.picture)] }
  else s

theorem hinted_status (s : Session) (l : Loaded) : (hinted s l).status = s.status := by
  unfold hinted
  split <;> rfl

theorem hinted_ended (s : Session) (l : Loaded) : (hinted s l).ended = s.ended :=
  congrArg Status.ended (hinted_status s l)

theorem hinted_loaded (s : Session) (l : Loaded) : (hinted s l).loaded = s.loaded := by
  unfold hinted
  split <;> rfl

def loadedAt (window : Window) (picture : List UInt8) (now : Float) : Loaded :=
  ⟨window, picture, window.remaining now⟩

def opening (s : Session) (l : Loaded) : Session :=
  { s with loaded := some l, messages := s.messages ++ [.system startedText] }

def ticked (l : Loaded) (now : Float) : Loaded :=
  { l with remaining := min l.remaining (l.window.remaining now) }

def noted (s : Session) (m : Message) : Session :=
  { s with messages := s.messages ++ [m], loading := s.loading && s.leaving }

def Wins : Request → Outcome Response → Prop
  | .answer _, .ok (.verdict v) => v.correct = true
  | _, _ => False

theorem wins_iff (request : Request) (outcome : Outcome Response) :
    Wins request outcome ↔
      ∃ formula v, request = .answer formula ∧ outcome = .ok (.verdict v) ∧ v.correct = true := by
  unfold Wins
  split <;> simp_all

def told : Request → Outcome Response → Message
  | .answer _, .ok (.verdict v) =>
    if v.correct then .success s!"🎉 {v.message}" else .error s!"❌ Incorrect... {v.message}"
  | .substitute _ raw, .ok (.evaluation e) => .system s!"📝 Result: f({raw}) = {valueText e.value}"
  | .chat _, .ok (.remark r) => .analyst r.text
  | _, .ok _ => .error communicationText
  | request, .error _ => .error (failureText request)

/-- The session passes over the operation: it is not what the session waits for. -/
def Ignores (s : Session) : Operation → Prop
  | .begin => s.begun = true
  | .picture .. => s.loaded.isSome = true ∨ s.ended = true
  | .countdown _ => s.ended = true ∨ s.loaded = none
  | .submit text => (Text.trim text).isEmpty = true ∨ s.locked = true
  | .reply ticket _ => ticket.epoch ≠ s.epoch
  | _ => False

def Operation.setsMode : Operation → Bool
  | .toggleMode => true
  | .toggleCommand => true
  | .setMode _ => true
  | _ => false

inductive Course (s : Session) : Operation → Session → List Effect → Prop where
  | idle {operation : Operation} (ignored : s.Ignores operation) : Course s operation s []
  | begin (fresh : s.begun = false) : Course s .begin { s with begun := true } [.fetchPicture]
  | lost {outcome : Outcome Picture} {failure : Failure} (now : Float) (unloaded : s.loaded = none)
      (live : s.ended = false) (opened : openPicture outcome = .error failure) :
      Course s (.picture outcome now) (closed s (.error (loadFailureText failure)))
        [.stopCountdown, .navigate .home s.delay]
  | load {outcome : Outcome Picture} {now : Float} {window : Window} {picture : List UInt8}
      (unloaded : s.loaded = none) (live : s.ended = false)
      (opened : openPicture outcome = .ok (window, picture)) (time : window.remaining now ≠ 0) :
      Course s (.picture outcome now)
        (hinted (opening s (loadedAt window picture now)) (loadedAt window picture now))
        [.startCountdown]
  | loadLate {outcome : Outcome Picture} {now : Float} {window : Window} {picture : List UInt8}
      (unloaded : s.loaded = none) (live : s.ended = false)
      (opened : openPicture outcome = .ok (window, picture)) (late : window.remaining now = 0) :
      Course s (.picture outcome now)
        (closed (opening s (loadedAt window picture now)) (.error timeUpText))
        [.stopCountdown, .navigate (.result s.id) s.delay]
  | tick {l : Loaded} {now : Float} (loaded : s.loaded = some l) (live : s.ended = false)
      (time : (ticked l now).remaining ≠ 0) :
      Course s (.countdown now) (hinted { s with loaded := some (ticked l now) } (ticked l now)) []
  | tickLate {l : Loaded} {now : Float} (loaded : s.loaded = some l) (live : s.ended = false)
      (late : (ticked l now).remaining = 0) :
      Course s (.countdown now)
        (closed { s with loaded := some (ticked l now) } (.error timeUpText))
        [.stopCountdown, .navigate (.result s.id) s.delay]
  | ask {text : String} {request : Request} (filled : (Text.trim text).isEmpty = false)
      (free : s.locked = false) (made : request? s.mode (Text.trim text) = some request) :
      Course s (.submit text)
        { s with messages := s.messages ++ [echo s.mode (Text.trim text)], loading := true }
        [.send ⟨s.epoch, request⟩]
  | misread {text : String} (filled : (Text.trim text).isEmpty = false) (free : s.locked = false)
      (unmade : request? s.mode (Text.trim text) = none) :
      Course s (.submit text)
        { s with
          messages := s.messages ++ [echo s.mode (Text.trim text), .error calculationText] }
        []
  | win {ticket : Ticket} {formula : String} {v : Verdict} (current : ticket.epoch = s.epoch)
      (live : s.ended = false) (asked : ticket.request = .answer formula)
      (right : v.correct = true) :
      Course s (.reply ticket (.ok (.verdict v))) (closed s (.success s!"🎉 {v.message}"))
        [.stopCountdown, .navigate (.result s.id) s.delay]
  | note {ticket : Ticket} {outcome : Outcome Response} (current : ticket.epoch = s.epoch)
      (quiet : ¬ (Wins ticket.request outcome ∧ s.ended = false)) :
      Course s (.reply ticket outcome) (noted s (told ticket.request outcome)) []
  | turn {operation : Operation} (mode : Mode) (sets : operation.setsMode = true) :
      Course s operation { s with mode } []

theorem finish_live {s : Session} (live : s.ended = false) :
    finish s = ({ s with ended := true, epoch := s.epoch + 1 }, [.stopCountdown]) := by
  simp [finish, live]

theorem leave_staying {s : Session} (staying : s.leaving = false) (route : Route) :
    leave route s = ({ s with leaving := true }, [.navigate route s.delay]) := by
  simp [leave, staying]

theorem log_finish_leave {s : Session} (live : s.ended = false) (staying : s.leaving = false)
    (m : Message) (route : Route) :
    ((log m).andThen (finish.andThen (leave route))) s =
      (closed s m, [.stopCountdown, .navigate route s.delay]) := by
  simp [Transition.andThen_apply, log, Transition.change, finish_live, leave_staying, live,
    staying, closed]

theorem hinted_late (s : Session) {l : Loaded} (late : l.remaining = 0) : hinted s l = s := by
  simp [hinted, hintDue, late]

theorem review_some {s : Session} {l : Loaded} (loaded : s.loaded = some l) :
    review s =
      if l.remaining = 0 then
        if (hinted s l).leaving then finish (hinted s l)
        else
          (finish.andThen ((log (.error timeUpText)).andThen (leave (.result (hinted s l).id))))
            (hinted s l)
      else (hinted s l, []) := by
  unfold review
  split
  · rename_i unloaded
    cases loaded.symm.trans unloaded
  · rename_i other there
    obtain rfl : l = other := Option.some.inj (loaded.symm.trans there)
    rfl

theorem review_timely (s : Session) (l : Loaded) (loaded : s.loaded = some l)
    (time : l.remaining ≠ 0) : review s = (hinted s l, []) := by
  rw [review_some loaded, if_neg time]

theorem review_late (s : Session) (l : Loaded) (loaded : s.loaded = some l)
    (late : l.remaining = 0) (live : s.ended = false) (staying : s.leaving = false) :
    review s =
      (closed s (.error timeUpText), [.stopCountdown, .navigate (.result s.id) s.delay]) := by
  rw [review_some loaded, if_pos late, hinted_late s late]
  simp [staying, Transition.andThen_apply, log, Transition.change, finish_live, leave_staying, live,
    closed]

theorem finish_review_late (s : Session) (l : Loaded) (loaded : s.loaded = some l)
    (late : l.remaining = 0) (live : s.ended = false) (staying : s.leaving = false) :
    (finish.andThen review) s =
      (closed s (.error timeUpText), [.stopCountdown, .navigate (.result s.id) s.delay]) := by
  simp only [Transition.andThen_apply, finish_live live]
  rw [@review_some { s with ended := true, epoch := s.epoch + 1 } l loaded, if_pos late,
    hinted_late _ late]
  simp [staying, Transition.andThen_apply, log, Transition.change, finish, leave_staying, closed]

theorem open_decoded {p : Picture} {bytes : List UInt8} (decoded : p.decode = .ok bytes) :
    openPicture (.ok p) = .ok (⟨p.start, p.finish⟩, bytes) := by
  simp [openPicture, decoded, bind, Except.bind, pure, Except.pure]

theorem open_undecoded {p : Picture} {failure : Failure} (undecoded : p.decode = .error failure) :
    openPicture (.ok p) = .error failure := by
  simp [openPicture, undecoded, bind, Except.bind]

theorem picture_known {s : Session} (known : s.loaded.isSome = true ∨ s.ended = true)
    (outcome : Outcome Picture) (now : Float) : onPicture outcome now s = (s, []) := by
  simp only [onPicture, Bool.or_eq_true, known, ↓reduceIte]

theorem picture_unopened {s : Session} {outcome : Outcome Picture} {failure : Failure}
    (unknown : ¬ (s.loaded.isSome = true ∨ s.ended = true))
    (opened : openPicture outcome = .error failure) (now : Float) :
    onPicture outcome now s =
      ((log (.error (loadFailureText failure))).andThen (finish.andThen (leave .home))) s := by
  simp only [onPicture, Bool.or_eq_true, unknown, ↓reduceIte, opened]

theorem picture_failed {s : Session} {outcome : Outcome Picture} {failure : Failure}
    (unloaded : s.loaded = none) (live : s.ended = false) (staying : s.leaving = false)
    (opened : openPicture outcome = .error failure) (now : Float) :
    onPicture outcome now s =
      (closed s (.error (loadFailureText failure)), [.stopCountdown, .navigate .home s.delay]) := by
  rw [picture_unopened (by simp [unloaded, live]) opened]
  exact log_finish_leave live staying _ _

theorem picture_opened {s : Session} {outcome : Outcome Picture} {window : Window}
    {picture : List UInt8} (unknown : ¬ (s.loaded.isSome = true ∨ s.ended = true))
    (opened : openPicture outcome = .ok (window, picture)) (now : Float) :
    onPicture outcome now s =
      ((if window.remaining now = 0 then finish else Transition.emit .startCountdown).andThen review)
        (opening s (loadedAt window picture now)) := by
  simp only [onPicture, Bool.or_eq_true, unknown, ↓reduceIte, opened]
  rfl

theorem picture_timely {s : Session} {outcome : Outcome Picture} {window : Window}
    {picture : List UInt8} {now : Float} (unloaded : s.loaded = none) (live : s.ended = false)
    (opened : openPicture outcome = .ok (window, picture)) (time : window.remaining now ≠ 0) :
    let l := loadedAt window picture now
    onPicture outcome now s = (hinted (opening s l) l, [.startCountdown]) := by
  intro l
  rw [picture_opened (by simp [unloaded, live]) opened, if_neg time, Transition.andThen_apply]
  simp only [Transition.emit, review_timely (opening s l) l rfl time, List.append_nil, l]

theorem picture_late {s : Session} {outcome : Outcome Picture} {window : Window}
    {picture : List UInt8} {now : Float} (unloaded : s.loaded = none) (live : s.ended = false)
    (staying : s.leaving = false) (opened : openPicture outcome = .ok (window, picture))
    (late : window.remaining now = 0) :
    let l := loadedAt window picture now
    onPicture outcome now s =
      (closed (opening s l) (.error timeUpText),
        [.stopCountdown, .navigate (.result s.id) s.delay]) := by
  intro l
  rw [picture_opened (by simp [unloaded, live]) opened, if_pos late]
  exact finish_review_late (opening s l) l rfl late live staying

theorem countdown_idle {s : Session} (idle : s.ended = true ∨ s.loaded = none) (now : Float) :
    onCountdown now s = (s, []) := by
  rcases idle with ended | unloaded
  · simp [onCountdown, ended]
  · simp [onCountdown, unloaded]

theorem countdown_timely {s : Session} {l : Loaded} {now : Float} (loaded : s.loaded = some l)
    (live : s.ended = false) (time : (ticked l now).remaining ≠ 0) :
    onCountdown now s = (hinted { s with loaded := some (ticked l now) } (ticked l now), []) := by
  rw [← review_timely _ (ticked l now) rfl time]
  simp [onCountdown, live, loaded, ticked]

theorem countdown_late {s : Session} {l : Loaded} {now : Float} (loaded : s.loaded = some l)
    (live : s.ended = false) (staying : s.leaving = false) (late : (ticked l now).remaining = 0) :
    onCountdown now s =
      (closed { s with loaded := some (ticked l now) } (.error timeUpText),
        [.stopCountdown, .navigate (.result s.id) s.delay]) := by
  have closes := review_late { s with loaded := some (ticked l now) } (ticked l now) rfl late
    live staying
  rw [← closes]
  simp [onCountdown, live, loaded, ticked]

theorem submit_refused {s : Session} {text : String}
    (refused : (Text.trim text).isEmpty = true ∨ s.locked = true) : s.submit text = none := by
  simp only [submit, Bool.or_eq_true, refused, ↓reduceIte]

theorem submit_asked {s : Session} {text : String} {request : Request}
    (filled : (Text.trim text).isEmpty = false) (free : s.locked = false)
    (made : request? s.mode (Text.trim text) = some request) :
    s.submit text =
      some ({ s with messages := s.messages ++ [echo s.mode (Text.trim text)], loading := true },
        [.send ⟨s.epoch, request⟩]) := by
  simp only [submit, filled, free, Bool.or_self, Bool.false_eq_true, ↓reduceIte, made]
  rfl

theorem submit_misread {s : Session} {text : String} (filled : (Text.trim text).isEmpty = false)
    (free : s.locked = false) (unmade : request? s.mode (Text.trim text) = none) :
    s.submit text =
      some ({ s with
        messages := s.messages ++ [echo s.mode (Text.trim text), .error calculationText] }, []) := by
  simp [submit, filled, free, unmade, Transition.andThen_apply, log, Transition.change]

theorem submit_isSome_iff (s : Session) (text : String) :
    (s.submit text).isSome = true ↔ (Text.trim text).isEmpty = false ∧ s.locked = false := by
  simp only [submit, ← Bool.not_eq_true, ← not_or, ← Bool.or_eq_true]
  split <;> simp_all

theorem reply_stale {s : Session} {ticket : Ticket} (stale : ticket.epoch ≠ s.epoch)
    (outcome : Outcome Response) : onReply ticket outcome s = (s, []) := by
  simp [onReply, stale]

theorem answered_win {request : Request} {outcome : Outcome Response}
    (wins : Wins request outcome) (s : Session) :
    answered request outcome s =
      ((log (told request outcome)).andThen (finish.andThen (leave (.result s.id)))) s := by
  unfold Wins at wins
  split at wins
  · simp only [answered, told, wins, ↓reduceIte]
  · contradiction

theorem answered_other {request : Request} {outcome : Outcome Response}
    (loses : ¬ Wins request outcome) (s : Session) :
    answered request outcome s = log (told request outcome) s := by
  unfold answered
  split
  · rename_i v
    have wrong : v.correct = false := by simpa [Wins] using loses
    simp only [told, wrong, Bool.false_eq_true, ↓reduceIte]
  · rfl
  · rfl
  · simp only [told]
  · simp only [told]

theorem reply_win {s : Session} {ticket : Ticket} {outcome : Outcome Response}
    (current : ticket.epoch = s.epoch) (wins : Wins ticket.request outcome)
    (live : s.ended = false) (staying : s.leaving = false) :
    onReply ticket outcome s =
      (closed s (told ticket.request outcome),
        [.stopCountdown, .navigate (.result s.id) s.delay]) := by
  have won := answered_win wins s
  rw [log_finish_leave live staying] at won
  simp [onReply, current, Transition.andThen_apply, won, unlock, Transition.change, closed]

theorem unlock_log (s : Session) (m : Message) : ((log m).andThen unlock) s = (noted s m, []) := by
  cases staying : s.leaving <;>
    simp [Transition.andThen_apply, log, unlock, Transition.change, noted, staying]

theorem reply_noted {s : Session} (h : s.status.Sound) {ticket : Ticket}
    {outcome : Outcome Response} (current : ticket.epoch = s.epoch)
    (quiet : ¬ (Wins ticket.request outcome ∧ s.ended = false)) :
    onReply ticket outcome s = (noted s (told ticket.request outcome), []) := by
  by_cases wins : Wins ticket.request outcome
  · have ended : s.ended = true := by simpa [wins] using quiet
    have leaving : s.leaving = true := h.leaving.trans ended
    simp [onReply, current, Transition.andThen_apply, answered_win wins, log, finish, leave, unlock,
      Transition.change, noted, ended, leaving]
  · rw [← unlock_log]
    simp only [onReply, current, ne_eq, not_true_eq_false, ↓reduceIte, Transition.andThen_apply,
      answered_other wins]

theorem reply_logged {s : Session} (h : s.status.Sound) {ticket : Ticket}
    (current : ticket.epoch = s.epoch) (outcome : Outcome Response) :
    (onReply ticket outcome s).1.messages = s.messages ++ [told ticket.request outcome] := by
  by_cases wins : Wins ticket.request outcome ∧ s.ended = false
  · rw [reply_win current wins.1 wins.2 (sound_live h wins.2)]
    rfl
  · rw [reply_noted h current wins]
    rfl

theorem picture_course {s : Session} (h : s.status.Sound) (outcome : Outcome Picture)
    (now : Float) :
    Course s (.picture outcome now) (onPicture outcome now s).1 (onPicture outcome now s).2 := by
  by_cases known : s.loaded.isSome = true ∨ s.ended = true
  · rw [picture_known known]
    exact .idle known
  simp only [not_or, Bool.not_eq_true, Option.isSome_eq_false_iff,
    Option.isNone_iff_eq_none] at known
  obtain ⟨unloaded, live⟩ := known
  have staying := sound_live h live
  cases opened : openPicture outcome with
  | error failure =>
    rw [picture_failed unloaded live staying opened]
    exact .lost now unloaded live opened
  | ok data =>
    obtain ⟨window, picture⟩ := data
    by_cases late : window.remaining now = 0
    · rw [picture_late unloaded live staying opened late]
      exact .loadLate unloaded live opened late
    · rw [picture_timely unloaded live opened late]
      exact .load unloaded live opened late

theorem countdown_course {s : Session} (h : s.status.Sound) (now : Float) :
    Course s (.countdown now) (onCountdown now s).1 (onCountdown now s).2 := by
  by_cases idle : s.ended = true ∨ s.loaded = none
  · rw [countdown_idle idle]
    exact .idle idle
  simp only [not_or, Bool.not_eq_true] at idle
  obtain ⟨live, known⟩ := idle
  obtain ⟨l, loaded⟩ := Option.ne_none_iff_exists'.mp known
  by_cases late : (ticked l now).remaining = 0
  · rw [countdown_late loaded live (sound_live h live) late]
    exact .tickLate loaded live late
  · rw [countdown_timely loaded live late]
    exact .tick loaded live late

theorem submit_course (s : Session) (text : String) :
    Course s (.submit text) ((s.submit text).getD (s, [])).1
      ((s.submit text).getD (s, [])).2 := by
  by_cases refused : (Text.trim text).isEmpty = true ∨ s.locked = true
  · rw [submit_refused refused]
    exact .idle refused
  simp only [not_or, Bool.not_eq_true] at refused
  obtain ⟨filled, free⟩ := refused
  cases made : request? s.mode (Text.trim text) with
  | none =>
    rw [submit_misread filled free made]
    exact .misread filled free made
  | some request =>
    rw [submit_asked filled free made]
    exact .ask filled free made

theorem reply_course {s : Session} (h : s.status.Sound) (ticket : Ticket)
    (outcome : Outcome Response) :
    Course s (.reply ticket outcome) (onReply ticket outcome s).1 (onReply ticket outcome s).2 := by
  by_cases current : ticket.epoch = s.epoch
  · by_cases wins : Wins ticket.request outcome ∧ s.ended = false
    · obtain ⟨right, live⟩ := wins
      rw [reply_win current right live (sound_live h live)]
      obtain ⟨formula, v, asked, rfl, correct⟩ := (wins_iff _ _).mp right
      simp only [asked, told, correct, ↓reduceIte]
      exact .win current live asked correct
    · rw [reply_noted h current wins]
      exact .note current wins
  · rw [reply_stale current]
    exact .idle current

theorem apply_course {s : Session} (h : s.status.Sound) (operation : Operation) :
    Course s operation (apply operation s).1 (apply operation s).2 := by
  cases operation with
  | begin =>
    simp only [apply, begin]
    cases fresh : s.begun with
    | true => exact .idle fresh
    | false => exact .begin fresh
  | picture outcome now => exact picture_course h outcome now
  | countdown now => exact countdown_course h now
  | submit text => exact submit_course s text
  | reply ticket outcome => exact reply_course h ticket outcome
  | toggleMode => exact .turn _ rfl
  | toggleCommand =>
    have same : s.toggleCommand = { s with mode := s.toggleCommand.mode } := by
      unfold toggleCommand
      split
      · rfl
      · split <;> rfl
    simp only [apply, Transition.change]
    rw [same]
    exact .turn _ rfl
  | setMode mode => exact .turn _ rfl

end Session

end GuessClient
