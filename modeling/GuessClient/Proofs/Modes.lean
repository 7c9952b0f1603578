import GuessClient.Proofs.Ending

/-!
The mode of a session counts when a text is entered, and at no other time. A run with changes of
the mode comes to the same as its plain run, in which the mode is set before each text that is
entered and is otherwise left alone.
-/

namespace GuessClient

namespace Session

def entryModes : List Operation → Session → List Mode
  | [], _ => []
  | .submit text :: rest, s => s.mode :: entryModes rest (apply (.submit text) s).1
  | operation :: rest, s => entryModes rest (apply operation s).1

def deeds (operations : List Operation) : List Operation := operations.filter (!·.setsMode)

/-- The deeds of a run, with the mode set for each text that is entered. -/
def staged : List Operation → List Mode → List Operation
  | [], _ => []
  | .submit text :: rest, mode :: modes => .setMode mode :: .submit text :: staged rest modes
  | operation :: rest, modes => operation :: staged rest modes

theorem entryModes_deed {operation : Operation} (unread : ∀ text, operation ≠ .submit text)
    (rest : List Operation) (s : Session) :
    entryModes (operation :: rest) s = entryModes rest (apply operation s).1 := by
  cases operation with
  | submit text => exact absurd rfl (unread text)
  | _ => rfl

theorem staged_deed {operation : Operation} (unread : ∀ text, operation ≠ .submit text)
    (rest : List Operation) (modes : List Mode) :
    staged (operation :: rest) modes = operation :: staged rest modes := by
  cases operation with
  | submit text => exact absurd rfl (unread text)
  | _ => rfl

def AlikeButMode (s u : Session) : Prop := u = s.setMode u.mode

theorem alikeButMode_self (s : Session) : AlikeButMode s s := rfl

theorem alikeButMode_setMode (s : Session) (mode : Mode) : AlikeButMode s (s.setMode mode) := rfl

theorem alikeButMode_iff (s u : Session) :
    AlikeButMode s u ↔ ∀ mode, s.setMode mode = u.setMode mode := by
  constructor
  · intro alike mode
    rw [alike]
    rfl
  · intro same
    exact (same u.mode).symm

/-- The step does the same in whatever mode the session is. -/
def Modeless (step : Step) : Prop :=
  ∀ (s : Session) (mode : Mode), step (s.setMode mode) = ((step s).1.setMode mode, (step s).2)

theorem modeless_andThen {first second : Step} (modeless : Modeless first)
    (modeless' : Modeless second) : Modeless (first.andThen second) := by
  intro s mode
  simp only [Transition.andThen_apply, modeless s mode, modeless' (first s).1 mode]

theorem modeless_emit (effect : Effect) : Modeless (Transition.emit effect) := fun _ _ => rfl

theorem modeless_log (m : Message) : Modeless (log m) := fun _ _ => rfl

theorem modeless_finish : Modeless finish := by
  intro s mode
  cases ended : s.ended <;> simp [finish, setMode, ended]

theorem modeless_leave (route : Route) : Modeless (leave route) := by
  intro s mode
  cases leaving : s.leaving <;> simp [leave, setMode, leaving]

theorem modeless_unlock : Modeless unlock := by
  intro s mode
  cases leaving : s.leaving <;> simp [unlock, Transition.change, setMode, leaving]

theorem hinted_setMode (s : Session) (l : Loaded) (mode : Mode) :
    hinted (s.setMode mode) l = (hinted s l).setMode mode := by
  have same : (s.setMode mode).hintDue l = s.hintDue l := rfl
  unfold hinted
  rw [same]
  split <;> rfl

theorem modeless_review : Modeless review := by
  intro s mode
  cases loaded : s.loaded with
  | none => simp [review, setMode, loaded]
  | some l =>
    have there : (s.setMode mode).loaded = some l := loaded
    have leaving : ((hinted s l).setMode mode).leaving = (hinted s l).leaving := rfl
    have id : ((hinted s l).setMode mode).id = (hinted s l).id := rfl
    rw [review_some loaded, review_some there, hinted_setMode, leaving, id]
    split
    · split
      · exact modeless_finish _ mode
      · exact modeless_andThen modeless_finish
          (modeless_andThen (modeless_log _) (modeless_leave _)) _ mode
    · rfl

theorem modeless_picture (outcome : Outcome Picture) (now : Float) :
    Modeless (onPicture outcome now) := by
  intro s mode
  have same : (s.setMode mode).loaded = s.loaded ∧ (s.setMode mode).ended = s.ended := ⟨rfl, rfl⟩
  by_cases known : s.loaded.isSome = true ∨ s.ended = true
  · rw [picture_known known, picture_known (by rwa [same.1, same.2])]
  cases opened : openPicture outcome with
  | error failure =>
    rw [picture_unopened known opened, picture_unopened (by rwa [same.1, same.2]) opened]
    exact modeless_andThen (modeless_log _) (modeless_andThen modeless_finish (modeless_leave _))
      s mode
  | ok data =>
    obtain ⟨window, picture⟩ := data
    rw [picture_opened known opened, picture_opened (by rwa [same.1, same.2]) opened]
    split
    · exact modeless_andThen modeless_finish modeless_review
        (opening s (loadedAt window picture now)) mode
    · exact modeless_andThen (modeless_emit _) modeless_review
        (opening s (loadedAt window picture now)) mode

theorem modeless_countdown (now : Float) : Modeless (onCountdown now) := by
  intro s mode
  have same : (s.setMode mode).loaded = s.loaded ∧ (s.setMode mode).ended = s.ended := ⟨rfl, rfl⟩
  cases loaded : s.loaded with
  | none => simp [onCountdown, same, loaded]
  | some l =>
    simp only [onCountdown, same.1, same.2, loaded]
    split
    · rfl
    · exact modeless_review { s with loaded := some (ticked l now) } mode

theorem modeless_answered (request : Request) (outcome : Outcome Response) :
    Modeless (answered request outcome) := by
  intro s mode
  by_cases wins : Wins request outcome
  · rw [answered_win wins, answered_win wins]
    exact modeless_andThen (modeless_log _) (modeless_andThen modeless_finish (modeless_leave _))
      s mode
  · rw [answered_other wins, answered_other wins]
    exact modeless_log _ s mode

theorem modeless_reply (ticket : Ticket) (outcome : Outcome Response) :
    Modeless (onReply ticket outcome) := by
  intro s mode
  have epoch : (s.setMode mode).epoch = s.epoch := rfl
  simp only [onReply, epoch]
  split
  · rfl
  · exact modeless_andThen (modeless_answered _ _) modeless_unlock s mode

theorem modeless_begin : Modeless begin := by
  intro s mode
  cases begun : s.begun <;> simp [begin, setMode, begun]

theorem modeless_apply {operation : Operation} (deed : operation.setsMode = false)
    (unread : ∀ text, operation ≠ .submit text) : Modeless (apply operation) := by
  cases operation with
  | begin => exact modeless_begin
  | picture outcome now => exact modeless_picture outcome now
  | countdown now => exact modeless_countdown now
  | submit text => exact absurd rfl (unread text)
  | reply ticket outcome => exact modeless_reply ticket outcome
  | toggleMode | toggleCommand | setMode => cases deed

theorem modes_apply {operation : Operation} (sets : operation.setsMode = true) (s : Session) :
    ∃ mode, apply operation s = (s.setMode mode, []) := by
  cases operation with
  | toggleMode => exact ⟨_, rfl⟩
  | setMode mode => exact ⟨mode, rfl⟩
  | toggleCommand =>
    have turned : s.toggleCommand = s.setMode s.toggleCommand.mode := by
      unfold toggleCommand
      split
      · rfl
      · split <;> rfl
    exact ⟨s.toggleCommand.mode, congrArg (·, []) turned⟩
  | _ => cases sets

theorem run_staged (operations : List Operation) {s u : Session} (alike : AlikeButMode s u) :
    let plain := run (staged (deeds operations) (entryModes operations s)) u
    AlikeButMode (run operations s).1 plain.1 ∧ (run operations s).2 = plain.2 := by
  induction operations generalizing s u with
  | nil => exact ⟨alike, rfl⟩
  | cons operation rest ih =>
    by_cases read : ∃ text, operation = .submit text
    · obtain ⟨text, rfl⟩ := read
      -- once the mode is set, the two sessions are the same and stay so for this text
      have same : u.setMode s.mode = s := by rw [alike]; rfl
      have set : apply (.setMode s.mode) u = (s, []) := congrArg (·, []) same
      have deed : deeds (.submit text :: rest) = .submit text :: deeds rest := rfl
      obtain ⟨ends, puts⟩ := ih (alikeButMode_self (apply (.submit text) s).1)
      rw [deed, entryModes, staged, run_cons, run_cons, run_cons, set]
      exact ⟨ends, by rw [puts, List.nil_append]⟩
    have unread : ∀ text, operation ≠ .submit text := fun text same => read ⟨text, same⟩
    rw [entryModes_deed unread, run_cons]
    cases sets : operation.setsMode with
    | true =>
      -- the run turns to another mode, and the plain run does nothing
      have skipped : deeds (operation :: rest) = deeds rest := by simp [deeds, sets]
      obtain ⟨mode, turned⟩ := modes_apply sets s
      have still : AlikeButMode (s.setMode mode) u := alike
      rw [skipped, turned]
      exact ih still
    | false =>
      have deed : deeds (operation :: rest) = operation :: deeds rest := by simp [deeds, sets]
      have done : apply operation u =
          ((apply operation s).1.setMode u.mode, (apply operation s).2) := by
        rw [alike]
        exact modeless_apply sets unread s u.mode
      obtain ⟨ends, puts⟩ := ih (alikeButMode_setMode (apply operation s).1 u.mode)
      rw [deed, staged_deed unread, run_cons, done]
      exact ⟨ends, by rw [puts]⟩

theorem runs_deeds {operations others : List Operation} {s u : Session} (alike : AlikeButMode s u)
    (same : deeds operations = deeds others)
    (modes : entryModes operations s = entryModes others u) :
    (run operations s).2 = (run others u).2 ∧
      AlikeButMode (run operations s).1 (run others u).1 := by
  obtain ⟨ends, puts⟩ := run_staged operations alike
  obtain ⟨ends', puts'⟩ := run_staged others (alikeButMode_self u)
  rw [same, modes] at ends puts
  refine ⟨puts.trans puts'.symm, ?_⟩
  rw [alikeButMode_iff] at ends ends' ⊢
  exact fun mode => (ends mode).trans (ends' mode).symm

end Session

end GuessClient
