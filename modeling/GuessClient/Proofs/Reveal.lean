import GuessClient.Proofs.Dialogue
import GuessClient.Proofs.TimeLeft

/-!
When the hint is shown. A reading of the clock counts when the data of a session are taken, and at
every pulse from then on to the end. The hint is due once the least of the readings so far lies in
the last third of the window, but above zero. With the first reading that makes it due the picture
comes into the log, and it comes there only once.
-/

namespace GuessClient

/-- The least of some readings of the clock makes the hint due. -/
def Window.Due (w : Window) (times : List Float) : Prop :=
  ∃ r, (times.map w.remaining).min? = some r ∧ 0 < r ∧ r.toFloat ≤ (w.finish - w.start) / 3.0

def Loaded.due (l : Loaded) : Bool := 0 < l.remaining && l.remaining.toFloat ≤ l.window.threshold

namespace Session

def pictures (log : List Message) : List Message := log.filter (·.kind = .image)

def hintMessage (picture : List UInt8) : Message := .image hintText (pictureAddress picture)

def Takes (s : Session) (outcome : Outcome Picture) (window : Window) (picture : List UInt8) :
    Prop :=
  s.loaded = none ∧ s.ended = false ∧ openPicture outcome = .ok (window, picture)

/-- A reading of the clock counts when an operation comes after others: that of the picture that is
taken, or that of a pulse before the end. The times are all the readings that count by then. -/
inductive Counts (start : Session) (window : Window) (picture : List UInt8) :
    List Operation → Operation → List Float → Prop where
  | taken {before : List Operation} {outcome : Outcome Picture} (now : Float)
      (takes : (run before start).1.Takes outcome window picture) :
      Counts start window picture before (.picture outcome now) [now]
  | pulse {before between : List Operation} {outcome : Outcome Picture} {first : Float}
      (now : Float) (takes : (run before start).1.Takes outcome window picture)
      (live : (run (before ++ .picture outcome first :: between) start).1.ended = false) :
      Counts start window picture (before ++ .picture outcome first :: between) (.countdown now)
        (first :: (readings between (run (before ++ [.picture outcome first]) start).1 ++ [now]))

def reviewed? (s : Session) : Operation → Option Loaded
  | .picture outcome now =>
    if s.loaded.isSome || s.ended then none
    else (openPicture outcome).toOption.map fun data => loadedAt data.1 data.2 now
  | .countdown now => if s.ended then none else s.loaded.map (ticked · now)
  | _ => none

def shown (s : Session) (operation : Operation) : List Message :=
  match s.reviewed? operation with
  | some l => if s.hintDue l then [hintMessage l.picture] else []
  | none => []

theorem hintDue_eq (s : Session) (l : Loaded) : s.hintDue l = (!s.revealed && l.due) := by
  rw [hintDue, Loaded.due, Bool.and_assoc]

theorem hinted_revealed (s : Session) (l : Loaded) :
    (hinted s l).revealed = (s.revealed || l.due) := by
  unfold hinted
  rw [hintDue_eq]
  cases hidden : s.revealed <;> cases due : l.due <;> simp [hidden]

theorem late_undue {l : Loaded} (late : l.remaining = 0) : l.due = false := by
  simp [Loaded.due, late]

theorem pictures_append (earlier later : List Message) :
    pictures (earlier ++ later) = pictures earlier ++ pictures later :=
  List.filter_append ..

theorem told_unpictured (request : Request) (outcome : Outcome Response) :
    pictures [told request outcome] = [] := by
  unfold told
  split
  · split <;> rfl
  all_goals rfl

theorem echo_unpictured (mode : Mode) (text : String) : pictures [echo mode text] = [] := by
  cases mode <;> rfl

theorem shown_eq {s : Session} {operation : Operation} {l : Loaded}
    (reviews : s.reviewed? operation = some l) :
    shown s operation = if s.hintDue l then [hintMessage l.picture] else [] := by
  simp only [shown, reviews]

theorem reviewed_ignored {s : Session} {operation : Operation} (ignored : s.Ignores operation) :
    s.reviewed? operation = none := by
  cases operation with
  | picture outcome now => simp_all [Ignores, reviewed?]
  | countdown now => rcases ignored with ended | unloaded <;> simp_all [reviewed?]
  | _ => rfl

theorem reviewed_taken {s : Session} {outcome : Outcome Picture} {window : Window}
    {picture : List UInt8} (takes : s.Takes outcome window picture) (now : Float) :
    s.reviewed? (.picture outcome now) = some (loadedAt window picture now) := by
  obtain ⟨unloaded, live, opened⟩ := takes
  simp [reviewed?, unloaded, live, opened, Except.toOption]

structure Reveals (s t : Session) (operation : Operation) : Prop where
  loaded : t.loaded = (s.reviewed? operation).or s.loaded
  revealed : t.revealed = (s.revealed || (s.reviewed? operation).any Loaded.due)
  log : ∃ new, t.messages = s.messages ++ new ∧ pictures new = shown s operation

theorem reveals_nothing {s t : Session} {operation : Operation} {new : List Message}
    (unreviewed : s.reviewed? operation = none) (loaded : t.loaded = s.loaded)
    (revealed : t.revealed = s.revealed) (log : t.messages = s.messages ++ new)
    (unpictured : pictures new = []) : Reveals s t operation := by
  refine ⟨?_, ?_, new, log, ?_⟩
  · rw [unreviewed, Option.none_or, loaded]
  · rw [unreviewed, Option.any_none, Bool.or_false, revealed]
  · rw [unpictured, shown, unreviewed]

theorem reveals_hinted {s u : Session} {operation : Operation} {l : Loaded} {new : List Message}
    (reviews : s.reviewed? operation = some l) (loaded : u.loaded = some l)
    (revealed : u.revealed = s.revealed) (log : u.messages = s.messages ++ new)
    (unpictured : pictures new = []) : Reveals s (hinted u l) operation := by
  have due : u.hintDue l = s.hintDue l := by rw [hintDue_eq, hintDue_eq, revealed]
  refine ⟨?_, ?_, new ++ if s.hintDue l then [hintMessage l.picture] else [], ?_, ?_⟩
  · rw [reviews, hinted_loaded, loaded, Option.some_or]
  · rw [reviews, hinted_revealed, revealed, Option.any_some]
  · rw [hinted_messages, log, due, List.append_assoc]
    rfl
  · rw [pictures_append, unpictured, List.nil_append, shown_eq reviews]
    split <;> rfl

theorem reveals_closed {s u : Session} {operation : Operation} {l : Loaded} {new : List Message}
    {m : Message} (reviews : s.reviewed? operation = some l) (late : l.remaining = 0)
    (loaded : u.loaded = some l) (revealed : u.revealed = s.revealed)
    (log : u.messages = s.messages ++ new) (unpictured : pictures (new ++ [m]) = []) :
    Reveals s (closed u m) operation := by
  refine ⟨?_, ?_, new ++ [m], ?_, ?_⟩
  · rw [reviews, closed, Option.some_or, loaded]
  · rw [reviews, closed, Option.any_some, late_undue late, Bool.or_false, revealed]
  · rw [closed, log, List.append_assoc]
  · rw [unpictured, shown_eq reviews, hintDue_eq, late_undue late, Bool.and_false]
    rfl

theorem course_reveals {s t : Session} {operation : Operation} {effects : List Effect}
    (course : Course s operation t effects) : Reveals s t operation := by
  have silent {u : Session} (unreviewed : s.reviewed? operation = none) (new : List Message)
      (loaded : u.loaded = s.loaded) (revealed : u.revealed = s.revealed)
      (log : u.messages = s.messages ++ new) (unpictured : pictures new = []) :
      Reveals s u operation :=
    reveals_nothing unreviewed loaded revealed log unpictured
  cases course with
  | idle ignored => exact silent (reviewed_ignored ignored) [] rfl rfl (List.append_nil _).symm rfl
  | begin => exact silent rfl [] rfl rfl (List.append_nil _).symm rfl
  | lost now unloaded live opened =>
    refine silent ?_ _ rfl rfl rfl rfl
    simp [reviewed?, unloaded, live, opened, Except.toOption]
  | load unloaded live opened =>
    exact reveals_hinted (reviewed_taken ⟨unloaded, live, opened⟩ _) rfl rfl rfl rfl
  | loadLate unloaded live opened late =>
    exact reveals_closed (reviewed_taken ⟨unloaded, live, opened⟩ _) late rfl rfl rfl rfl
  | tick loaded live =>
    refine reveals_hinted ?_ rfl rfl (List.append_nil _).symm rfl
    simp [reviewed?, live, loaded]
  | tickLate loaded live late =>
    refine reveals_closed ?_ late rfl rfl (List.append_nil _).symm rfl
    simp [reviewed?, live, loaded]
  | ask => exact silent rfl _ rfl rfl rfl (echo_unpictured _ _)
  | misread =>
    refine silent rfl _ rfl rfl rfl ?_
    rw [← List.singleton_append, pictures_append, echo_unpictured]
    rfl
  | win => exact silent rfl _ rfl rfl rfl rfl
  | note => exact silent rfl _ rfl rfl rfl (told_unpictured _ _)
  | turn mode sets =>
    refine silent ?_ [] rfl rfl (List.append_nil _).symm rfl
    cases operation <;> first | rfl | cases sets

/-- The log shows the picture of the hint, and no other picture. -/
structure Illustrated (s : Session) : Prop where
  known : s.revealed = true → s.loaded.isSome = true
  log : pictures s.messages = s.hint.toList.map hintMessage

theorem reviewed_picture {s : Session} {operation : Operation} {l m : Loaded}
    (reviews : s.reviewed? operation = some l) (loaded : s.loaded = some m) :
    l.picture = m.picture := by
  cases operation with
  | picture => simp [reviewed?, loaded] at reviews
  | countdown now =>
    simp only [reviewed?, loaded, Option.map_some, Option.ite_none_left_eq_some] at reviews
    obtain ⟨_, same⟩ := reviews
    rw [← Option.some.inj same]
    rfl
  | _ => cases reviews

theorem illustrated_step {s t : Session} {operation : Operation} (before : Illustrated s)
    (reveals : Reveals s t operation) : Illustrated t := by
  obtain ⟨known, log⟩ := before
  obtain ⟨loaded, revealed, new, grows, adds⟩ := reveals
  cases reviews : s.reviewed? operation with
  | none =>
    simp only [reviews, Option.none_or, Option.any_none, Bool.or_false] at loaded revealed
    have nothing : shown s operation = [] := by simp only [shown, reviews]
    refine ⟨by rwa [loaded, revealed], ?_⟩
    rw [grows, pictures_append, log, adds, nothing, List.append_nil, hint, hint, loaded, revealed]
  | some l =>
    simp only [reviews, Option.some_or, Option.any_some] at loaded revealed
    refine ⟨fun _ => by simp [loaded], ?_⟩
    rw [grows, pictures_append, log, adds, shown_eq reviews, hintDue_eq, hint, hint, loaded,
      revealed]
    cases shown : s.revealed with
    | false => cases l.due <;> simp
    | true =>
      obtain ⟨m, there⟩ := Option.isSome_iff_exists.mp (known shown)
      simp [there, reviewed_picture reviews there]

theorem run_illustrated {s : Session} (h : s.status.Sound) (first : Illustrated s)
    (operations : List Operation) : Illustrated (run operations s).1 :=
  run_invariant Illustrated
    (fun _ _ _ _ before course => illustrated_step before (course_reveals course))
    operations s h first

section

variable {start : Session} {before : List Operation} {operation : Operation} {window : Window}
  {picture : List UInt8} {times : List Float}

theorem taken_loaded (h : start.status.Sound) {outcome : Outcome Picture}
    (takes : (run before start).1.Takes outcome window picture) (first : Float)
    (between : List Operation) :
    (run (before ++ .picture outcome first :: between) start).1.loaded =
      some ((loadedAt window picture first).after
        (readings between (run (before ++ [.picture outcome first]) start).1)) := by
  have sound := run_sound before start h
  have reveals := course_reveals (apply_course sound (.picture outcome first))
  have loaded := reveals.loaded
  rw [reviewed_taken takes, Option.some_or] at loaded
  rw [run_append, run_cons, run_snoc]
  exact run_readings (apply_sound sound _) loaded between

theorem hint_eq_some_iff (h : start.status.Sound) (unloaded : start.loaded = none)
    (operations : List Operation) (picture : List UInt8) :
    (run operations start).1.hint = some picture ↔ (run operations start).1.revealed = true ∧
      ∃ before outcome now after window, operations = before ++ .picture outcome now :: after ∧
        (run before start).1.Takes outcome window picture := by
  have shows : (run operations start).1.hint = some picture ↔
      (run operations start).1.revealed = true ∧
        ∃ l, (run operations start).1.loaded = some l ∧ l.picture = picture := by
    rw [hint, Option.ite_none_right_eq_some, Option.map_eq_some_iff]
  rw [shows]
  refine and_congr_right fun _ => ?_
  constructor
  · rintro ⟨l, loaded, rfl⟩
    obtain ⟨before, outcome, first, after, window, picture, rfl, empty, live, opened, _⟩ :=
      run_loads h unloaded loaded
    have takes : (run before start).1.Takes outcome window picture := ⟨empty, live, opened⟩
    obtain rfl := Option.some.inj (loaded.symm.trans (taken_loaded h takes first after))
    exact ⟨before, outcome, first, after, window, rfl, takes⟩
  · rintro ⟨before, outcome, first, after, window, rfl, takes⟩
    exact ⟨_, taken_loaded h takes first after, rfl⟩

end

end Session

end GuessClient
