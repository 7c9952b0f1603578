import GuessClient.Proofs.Ending

/-!
The time that is left. It is taken from the clock when the data come and at every pulse after
that, and the least of these readings counts, so that a clock that is late, repeats itself or goes
backwards changes nothing.
-/

namespace GuessClient

/-- The data after some readings of the clock. -/
def Loaded.after (l : Loaded) (times : List Float) : Loaded :=
  { l with remaining := (times.map l.window.remaining).foldl min l.remaining }

namespace Session

def reading? (s : Session) : Operation → Option Float
  | .countdown now => if s.ended then none else some now
  | _ => none

def readings : List Operation → Session → List Float
  | [], _ => []
  | operation :: rest, s =>
    (s.reading? operation).toList ++ readings rest (apply operation s).1

/-- While the session goes on there is time, and the hint has been shown if it is due. -/
def Reviewed (s : Session) : Prop :=
  ∀ l, s.loaded = some l → s.ended = false → l.remaining ≠ 0 ∧ s.hintDue l = false

theorem after_append (l : Loaded) (earlier later : List Float) :
    (l.after earlier).after later = l.after (earlier ++ later) := by
  simp [Loaded.after, List.foldl_append]

theorem after_le (l : Loaded) (times : List Float) : (l.after times).remaining ≤ l.remaining := by
  induction times generalizing l with
  | nil => exact UInt64.le_refl _
  | cons now rest ih =>
    have later := ih (l.after [now])
    rw [after_append] at later
    exact UInt64.le_trans later Std.min_le_left

theorem ticked_same {l : Loaded} {now : Float} (above : l.remaining ≤ l.window.remaining now) :
    ticked l now = l := by
  have least : min l.remaining (l.window.remaining now) = l.remaining :=
    Std.LawfulOrderLeftLeaningMin.min_eq_left _ _ above
  rw [ticked, least]

theorem hinted_same {s : Session} {l : Loaded} (due : s.hintDue l = false) : hinted s l = s := by
  simp [hinted, due]

theorem hinted_reviewed (s : Session) (l : Loaded) : (hinted s l).hintDue l = false := by
  cases due : s.hintDue l with
  | false => rw [hinted_same due, due]
  | true =>
    have shown : (hinted s l).revealed = true := by rw [hinted, if_pos due]
    simp [hintDue, shown]

theorem course_reviewed {s t : Session} {operation : Operation} {effects : List Effect}
    (reviewed : Reviewed s) (course : Course s operation t effects) : Reviewed t := by
  cases course with
  | lost => exact nofun
  | loadLate => exact nofun
  | tickLate => exact nofun
  | win => exact nofun
  | @load outcome now window picture unloaded live opened time =>
    intro l loaded _
    rw [hinted_loaded] at loaded
    obtain rfl : loadedAt window picture now = l := Option.some.inj loaded
    exact ⟨time, hinted_reviewed _ _⟩
  | @tick m now _ _ time =>
    intro l loaded _
    rw [hinted_loaded] at loaded
    obtain rfl : ticked m now = l := Option.some.inj loaded
    exact ⟨time, hinted_reviewed _ _⟩
  | _ => exact reviewed

theorem course_readings {s t : Session} {operation : Operation} {effects : List Effect}
    {l : Loaded} (loaded : s.loaded = some l) (course : Course s operation t effects) :
    t.loaded = some (l.after (s.reading? operation).toList) := by
  cases course with
  | idle ignored =>
    cases operation with
    | countdown now =>
      have ended : s.ended = true := by simpa [Ignores, loaded] using ignored
      have unread : s.reading? (.countdown now) = none := by simp [reading?, ended]
      rw [unread]
      exact loaded
    | _ => exact loaded
  | tick there live =>
    obtain rfl := Option.some.inj (loaded.symm.trans there)
    simp [hinted_loaded, reading?, live, Loaded.after, ticked]
  | tickLate there live =>
    obtain rfl := Option.some.inj (loaded.symm.trans there)
    simp [closed, reading?, live, Loaded.after, ticked]
  | lost now unloaded => cases loaded.symm.trans unloaded
  | load unloaded => cases loaded.symm.trans unloaded
  | loadLate unloaded => cases loaded.symm.trans unloaded
  | turn mode sets =>
    cases operation with
    | countdown => cases sets
    | _ => exact loaded
  | _ => exact loaded

theorem run_readings {s : Session} (h : s.status.Sound) {l : Loaded} (loaded : s.loaded = some l)
    (operations : List Operation) :
    (run operations s).1.loaded = some (l.after (readings operations s)) := by
  induction operations generalizing s l with
  | nil => exact loaded
  | cons operation rest ih =>
    have next := course_readings loaded (apply_course h operation)
    rw [run_cons, readings, ← after_append]
    exact ih (apply_sound h operation) next

theorem course_loads {s t : Session} {operation : Operation} {effects : List Effect}
    (unloaded : s.loaded = none) (course : Course s operation t effects) :
    t.loaded = none ∨
      ∃ outcome now window picture, operation = .picture outcome now ∧ s.ended = false ∧
        openPicture outcome = .ok (window, picture) ∧
        t.loaded = some (loadedAt window picture now) := by
  cases course with
  | @load outcome now window picture _ live opened =>
    exact .inr ⟨outcome, now, window, picture, rfl, live, opened, hinted_loaded _ _⟩
  | @loadLate outcome now window picture _ live opened =>
    exact .inr ⟨outcome, now, window, picture, rfl, live, opened, rfl⟩
  | tick loaded => cases unloaded.symm.trans loaded
  | tickLate loaded => cases unloaded.symm.trans loaded
  | _ => exact .inl unloaded

theorem run_loads {s : Session} (h : s.status.Sound) (unloaded : s.loaded = none)
    {operations : List Operation} {l : Loaded} (loaded : (run operations s).1.loaded = some l) :
    ∃ before outcome now after window picture,
      operations = before ++ .picture outcome now :: after ∧
        (run before s).1.loaded = none ∧ (run before s).1.ended = false ∧
        openPicture outcome = .ok (window, picture) ∧
        (apply (.picture outcome now) (run before s).1).1.loaded =
          some (loadedAt window picture now) := by
  induction operations generalizing s with
  | nil => cases unloaded.symm.trans loaded
  | cons operation rest ih =>
    rcases course_loads unloaded (apply_course h operation) with
      still | ⟨outcome, now, window, picture, rfl, live, opened, next⟩
    · obtain ⟨before, outcome, now, after, window, picture, rfl, there⟩ :=
        ih (apply_sound h operation) still loaded
      exact ⟨operation :: before, outcome, now, after, window, picture, rfl, there⟩
    · exact ⟨[], outcome, now, rest, window, picture, rfl, unloaded, live, opened, next⟩

theorem time_runs_down (id : String) (delay : Nat) (operations : List Operation) :
    let start : Session := { id, delay }
    let t := (run operations start).1
    (∀ l, t.loaded = some l →
      ∃ before outcome now after,
        let u := (run before start).1
        operations = before ++ .picture outcome now :: after ∧
          u.loaded = none ∧ u.ended = false ∧ openPicture outcome = .ok (l.window, l.picture) ∧
          let pulses := readings after (apply (.picture outcome now) u).1
          ((now :: pulses).map l.window.remaining).min? = some l.remaining) ∧
      (∀ r, t.remaining = some r → ∀ later, ∃ r', (run later t).1.remaining = some r' ∧ r' ≤ r) ∧
      ∀ l now, t.loaded = some l → t.ended = false → l.remaining ≤ l.window.remaining now →
        apply (.countdown now) t = (t, []) := by
  intro start t
  have fresh : start.status.Sound := new_sound id delay
  have sound : t.status.Sound := run_sound operations start fresh
  refine ⟨?_, ?_, ?_⟩
  · intro l loaded
    obtain ⟨before, outcome, now, after, window, picture, split, unloaded, live, opened, first⟩ :=
      run_loads fresh rfl loaded
    have u := run_sound before start fresh
    have last := run_readings (apply_sound u (.picture outcome now)) first after
    have same : t = (run after (apply (.picture outcome now) (run before start).1).1).1 := by
      simp only [t, split, run_append, run_cons]
    obtain rfl := Option.some.inj (loaded.symm.trans (same ▸ last))
    refine ⟨before, outcome, now, after, split, unloaded, live, opened, ?_⟩
    exact List.min?_cons'
  · intro r left later
    obtain ⟨l, loaded, rfl⟩ := Option.map_eq_some_iff.mp left
    refine ⟨(l.after (readings later t)).remaining, ?_, after_le l _⟩
    rw [remaining, run_readings sound loaded]
    rfl
  · intro l now loaded live above
    have reviewed : Reviewed t :=
      run_invariant Reviewed (fun _ _ _ _ => course_reviewed) operations start fresh nofun
    obtain ⟨time, due⟩ := reviewed l loaded live
    have same := ticked_same above
    have still : ({ t with loaded := some l } : Session) = t := by rw [← loaded]
    rw [apply, countdown_timely loaded live (same.symm ▸ time), same, still, hinted_same due]

end Session

end GuessClient
