import GuessClient.Proofs.Course

/-!
How an operation turns a session, told from its flags alone: a turn names the flags of the next
state and the effects put out; the log, the mode and the time are left out.
-/

namespace GuessClient

namespace Session

def Opens (s : Session) (operation : Operation) : Prop :=
  ∃ outcome now window picture, operation = .picture outcome now ∧ s.loaded = none ∧
    s.ended = false ∧ openPicture outcome = .ok (window, picture) ∧ 0 < window.remaining now

def MayIgnore (s : Session) : Operation → Prop
  | .begin => s.begun = true
  | .picture .. => s.loaded.isSome = true ∨ s.ended = true
  | .reply ticket _ => ticket.epoch ≠ s.epoch
  | _ => True

inductive Turn (s : Session) : Operation → Status → List Effect → Prop where
  | quiet {operation : Operation} (ignored : s.MayIgnore operation) :
      Turn s operation s.status []
  | begin (fresh : s.begun = false) :
      Turn s .begin { s.status with begun := true } [.fetchPicture]
  | load {operation : Operation} (opens : s.Opens operation) :
      Turn s operation { s.status with loaded := true } [.startCountdown]
  | ask (text : String) (request : Request) (free : s.locked = false) :
      Turn s (.submit text) { s.status with loading := true } [.send ⟨s.epoch, request⟩]
  | answered (ticket : Ticket) (outcome : Outcome Response) (current : ticket.epoch = s.epoch) :
      Turn s (.reply ticket outcome) { s.status with loading := s.loading && s.leaving } []
  | close {operation : Operation} (route : Route) (loaded : Bool) (live : s.ended = false)
      (unopened : ¬ s.Opens operation) (target : route = .home ∨ route = .result s.id)
      (kept : s.loaded.isSome = true → loaded = true) :
      Turn s operation
        { s.status with loaded, ended := true, leaving := true, epoch := s.epoch + 1 }
        [.stopCountdown, .navigate route s.delay]

theorem turn_sound {s : Session} {operation : Operation} {t : Status} {effects : List Effect}
    (h : s.status.Sound) (turn : Turn s operation t effects) : t.Sound := by
  obtain ⟨leaving, epoch⟩ := h
  cases turn with
  | quiet => exact ⟨leaving, epoch⟩
  | begin => exact ⟨leaving, epoch⟩
  | load => exact ⟨leaving, epoch⟩
  | ask => exact ⟨leaving, epoch⟩
  | answered => exact ⟨leaving, epoch⟩
  | close route loaded live =>
    refine ⟨rfl, ?_⟩
    have first : s.epoch = 0 := by simpa [status, live] using epoch
    simp [first]

theorem turn_keeps {s : Session} {operation : Operation} {t : Status} {effects : List Effect}
    (turn : Turn s operation t effects) : t.id = s.id ∧ t.delay = s.delay := by
  cases turn <;> exact ⟨rfl, rfl⟩

theorem turn_tickets {s : Session} {operation : Operation} {t : Status} {effects : List Effect}
    (h : s.status.Sound) (turn : Turn s operation t effects) {ticket : Ticket}
    (sent : .send ticket ∈ effects) : ticket.epoch = 0 := by
  cases turn with
  | ask text request free =>
    obtain rfl : ticket = ⟨s.epoch, request⟩ := by simpa using sent
    exact sound_first h ((free_iff s).mp free).2
  | _ => simp at sent

theorem ignores_may {s : Session} {operation : Operation} (ignored : s.Ignores operation) :
    s.MayIgnore operation := by
  cases operation <;> first | exact ignored | trivial

theorem opens_picture_iff {s : Session} (unloaded : s.loaded = none) (live : s.ended = false)
    (outcome : Outcome Picture) (now : Float) :
    s.Opens (.picture outcome now) ↔
      ∃ window picture, openPicture outcome = .ok (window, picture) ∧ window.remaining now ≠ 0 := by
  constructor
  · rintro ⟨_, _, window, picture, same, _, _, opened, time⟩
    cases same
    exact ⟨window, picture, opened, UInt64.pos_iff_ne_zero.mp time⟩
  · rintro ⟨window, picture, opened, time⟩
    exact ⟨_, _, window, picture, rfl, unloaded, live, opened, UInt64.pos_iff_ne_zero.mpr time⟩

theorem opens_only_picture {s : Session} {operation : Operation}
    (other : ∀ outcome now, operation ≠ .picture outcome now) : ¬ s.Opens operation := by
  rintro ⟨outcome, now, _, _, same, _⟩
  exact other outcome now same

theorem course_turn {s t : Session} {operation : Operation} {effects : List Effect}
    (course : Course s operation t effects) : Turn s operation t.status effects := by
  cases course with
  | idle ignored => exact .quiet (ignores_may ignored)
  | begin fresh => exact .begin fresh
  | lost now unloaded live opened =>
    refine .close .home _ live ?_ (.inl rfl) fun known => known
    rw [opens_picture_iff unloaded live]
    rintro ⟨window, picture, there, _⟩
    cases opened.symm.trans there
  | load unloaded live opened time =>
    rw [hinted_status]
    exact .load ((opens_picture_iff unloaded live _ _).mpr ⟨_, _, opened, time⟩)
  | loadLate unloaded live opened late =>
    refine .close (.result s.id) true live ?_ (.inr rfl) fun _ => rfl
    rw [opens_picture_iff unloaded live]
    rintro ⟨window, picture, there, time⟩
    cases opened.symm.trans there
    exact time late
  | @tick l now loaded live time =>
    -- a pulse replaces the data, but that there are data is all that the status tells
    have same : { s.status with loaded := true } = s.status := by simp [status, loaded]
    rw [hinted_status]
    change Turn s _ { s.status with loaded := true } []
    rw [same]
    exact .quiet trivial
  | tickLate loaded live late =>
    refine .close (.result s.id) true live (opens_only_picture ?_) (.inr rfl) fun _ => rfl
    rintro _ _ ⟨⟩
  | ask filled free made => exact .ask _ _ free
  | misread => exact .quiet trivial
  | win current live asked right =>
    refine .close (.result s.id) _ live (opens_only_picture ?_) (.inr rfl) fun known => known
    rintro _ _ ⟨⟩
  | note current quiet => exact .answered _ _ current
  | turn mode sets =>
    refine .quiet ?_
    cases operation <;> trivial

theorem apply_turn {s : Session} (h : s.status.Sound) (operation : Operation) :
    Turn s operation (apply operation s).1.status (apply operation s).2 :=
  course_turn (apply_course h operation)

theorem apply_id {s : Session} (h : s.status.Sound) (operation : Operation) :
    (apply operation s).1.id = s.id := (turn_keeps (apply_turn h operation)).1

theorem apply_sound {s : Session} (h : s.status.Sound) (operation : Operation) :
    (apply operation s).1.status.Sound :=
  turn_sound h (apply_turn h operation)

end Session

end GuessClient
