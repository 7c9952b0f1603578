import GuessClient.Proofs.Turn

/-!
How a session ends. Whatever happens to it, in whatever order, it ends at most once, in one
operation that stops the countdown and then sets the way to the next screen.
-/

namespace GuessClient

inductive EffectKind where
  | fetchPicture
  | send
  | startCountdown
  | stopCountdown
  | navigate
  deriving DecidableEq

def Effect.kind : Effect → EffectKind
  | .fetchPicture => .fetchPicture
  | .send _ => .send
  | .startCountdown => .startCountdown
  | .stopCountdown => .stopCountdown
  | .navigate .. => .navigate

def Effect.way? : Effect → Option Route
  | .navigate route _ => some route
  | _ => none

def times (kind : EffectKind) (effects : List Effect) : Nat := (effects.map Effect.kind).count kind

theorem times_append (kind : EffectKind) (before after : List Effect) :
    times kind (before ++ after) = times kind before + times kind after := by
  simp [times]

namespace Session

@[simp]
theorem run_nil (s : Session) : run [] s = (s, []) := rfl

theorem run_cons (operation : Operation) (rest : List Operation) (s : Session) :
    run (operation :: rest) s =
      ((run rest (apply operation s).1).1,
        (apply operation s).2 ++ (run rest (apply operation s).1).2) := rfl

theorem run_append (before after : List Operation) (s : Session) :
    run (before ++ after) s =
      ((run after (run before s).1).1, (run before s).2 ++ (run after (run before s).1).2) := by
  induction before generalizing s with
  | nil => rfl
  | cons operation rest ih => simp only [List.cons_append, run_cons, ih, List.append_assoc]

theorem run_snoc (before : List Operation) (operation : Operation) (s : Session) :
    run (before ++ [operation]) s =
      ((apply operation (run before s).1).1,
        (run before s).2 ++ (apply operation (run before s).1).2) := by
  rw [run_append, run_cons, run_nil, List.append_nil]

/-- The effects that lie between two states, told from the flags of these. -/
structure Tally (s t : Status) (effects : List Effect) : Prop where
  ways : times .navigate effects + s.ended.toNat = t.ended.toNat
  stops : times .stopCountdown effects + s.ended.toNat = t.ended.toNat
  fetches : times .fetchPicture effects + s.begun.toNat = t.begun.toNat
  starts : times .startCountdown effects + s.loaded.toNat ≤ t.loaded.toNat

theorem turn_tally {s : Session} {operation : Operation} {t : Status} {effects : List Effect}
    (turn : Turn s operation t effects) : Tally s.status t effects := by
  cases turn with
  | quiet => constructor <;> simp [times]
  | begin fresh => constructor <;> simp [times, Effect.kind, status, fresh]
  | load opens =>
    obtain ⟨_, _, _, _, _, unloaded, _⟩ := opens
    constructor <;> simp [times, Effect.kind, status, unloaded]
  | ask => constructor <;> simp [times, Effect.kind]
  | answered => constructor <;> simp [times]
  | close route loaded live unopened target kept =>
    constructor
    · simp [times, Effect.kind, status, live]
    · simp [times, Effect.kind, status, live]
    · simp [times, Effect.kind]
    · cases known : s.loaded.isSome with
      | true => simp [times, Effect.kind, status, known, kept known]
      | false => simp [times, Effect.kind, status, known]

theorem tally_append {s t u : Status} {before after : List Effect} (first : Tally s t before)
    (second : Tally t u after) : Tally s u (before ++ after) := by
  obtain ⟨ways, stops, fetches, starts⟩ := first
  obtain ⟨ways', stops', fetches', starts'⟩ := second
  constructor <;> rw [times_append] <;> omega

theorem run_tally (operations : List Operation) (s : Session) (h : s.status.Sound) :
    (run operations s).1.status.Sound ∧
      Tally s.status (run operations s).1.status (run operations s).2 := by
  induction operations generalizing s with
  | nil =>
    refine ⟨h, ?_⟩
    constructor <;> simp [times]
  | cons operation rest ih =>
    -- soundness is carried along, as only a sound session turns as `Turn` says
    have turn := apply_turn h operation
    obtain ⟨sound, tally⟩ := ih (apply operation s).1 (turn_sound h turn)
    rw [run_cons]
    exact ⟨sound, tally_append (turn_tally turn) tally⟩

theorem run_sound (operations : List Operation) (s : Session) (h : s.status.Sound) :
    (run operations s).1.status.Sound := (run_tally operations s h).1

theorem mem_run_iff (effect : Effect) (operations : List Operation) (s : Session) :
    effect ∈ (run operations s).2 ↔
      ∃ before operation after, operations = before ++ operation :: after ∧
        effect ∈ (apply operation (run before s).1).2 := by
  induction operations generalizing s with
  | nil => simp
  | cons first rest ih =>
    rw [run_cons, List.mem_append, ih]
    constructor
    · rintro (here | ⟨before, operation, after, split, later⟩)
      · exact ⟨[], first, rest, rfl, here⟩
      · exact ⟨first :: before, operation, after, by rw [split]; rfl, by rwa [run_cons]⟩
    · rintro ⟨before, operation, after, split, there⟩
      cases before with
      | nil =>
        obtain ⟨rfl, rfl⟩ := List.cons.inj split
        exact .inl there
      | cons head before =>
        obtain ⟨rfl, tail⟩ := List.cons.inj split
        rw [run_cons] at there
        exact .inr ⟨before, operation, after, tail, there⟩

theorem turn_starts_iff {s : Session} {operation : Operation} {t : Status}
    {effects : List Effect} (turn : Turn s operation t effects) :
    .startCountdown ∈ effects ↔ s.Opens operation := by
  cases turn with
  | quiet ignored =>
    simp only [List.not_mem_nil, false_iff]
    rintro ⟨_, _, _, _, rfl, unloaded, live, _⟩
    simp [MayIgnore, unloaded, live] at ignored
  | begin =>
    simp only [List.mem_singleton, reduceCtorEq, false_iff]
    rintro ⟨_, _, _, _, other, _⟩
    cases other
  | load opens => simp [opens]
  | ask =>
    simp only [List.mem_singleton, reduceCtorEq, false_iff]
    rintro ⟨_, _, _, _, other, _⟩
    cases other
  | answered =>
    simp only [List.not_mem_nil, false_iff]
    rintro ⟨_, _, _, _, other, _⟩
    cases other
  | close route loaded live unopened => simp [unopened]

theorem turn_ends_iff {s : Session} {operation : Operation} {t : Status} {effects : List Effect}
    (turn : Turn s operation t effects) :
    (.stopCountdown ∈ effects ∨ ∃ route wait, .navigate route wait ∈ effects) ↔
      s.ended = false ∧ t.ended = true := by
  cases turn with
  | quiet => simp [status]
  | begin => simp [status]
  | load => simp [status]
  | ask => simp [status]
  | answered => simp [status]
  | close route loaded live => simp [live]

theorem turn_end_effects {s : Session} {operation : Operation} {t : Status}
    {effects : List Effect} (turn : Turn s operation t effects) (live : s.ended = false)
    (ended : t.ended = true) : ∃ route, effects = [.stopCountdown, .navigate route s.delay] := by
  cases turn with
  | close route => exact ⟨route, rfl⟩
  | _ => simp [status, live] at ended

theorem turn_starts_live {s : Session} {operation : Operation} {t : Status}
    {effects : List Effect} (turn : Turn s operation t effects)
    (starts : .startCountdown ∈ effects) : s.ended = false ∧ t.ended = false := by
  have opens := (turn_starts_iff turn).mp starts
  have live : s.ended = false := by
    obtain ⟨_, _, _, _, _, _, live, _⟩ := opens
    exact live
  cases turn with
  | close route loaded _ unopened => exact absurd opens unopened
  | _ => exact ⟨live, live⟩

theorem run_invariant (Holds : Session → Prop)
    (keeps : ∀ s t operation effects, Holds s → Course s operation t effects → Holds t)
    (operations : List Operation) (s : Session) (h : s.status.Sound) (first : Holds s) :
    Holds (run operations s).1 := by
  induction operations generalizing s with
  | nil => exact first
  | cons operation rest ih =>
    have next := keeps _ _ _ _ first (apply_course h operation)
    exact ih (apply operation s).1 (apply_sound h operation) next

theorem run_keeps (operations : List Operation) (s : Session) (h : s.status.Sound) :
    (run operations s).1.id = s.id ∧ (run operations s).1.delay = s.delay := by
  refine run_invariant (fun t => t.id = s.id ∧ t.delay = s.delay) ?_ operations s h ⟨rfl, rfl⟩
  intro t u operation effects same course
  have kept := turn_keeps (course_turn course)
  exact ⟨kept.1.trans same.1, kept.2.trans same.2⟩

theorem session_ends_once (id : String) (delay : Nat) (operations : List Operation) :
    let s : Session := { id, delay }
    let t := (run operations s).1
    let effects := (run operations s).2
    (t.leaving = t.ended ∧ t.epoch = if t.ended then 1 else 0) ∧
      (times .navigate effects = (if t.ended then 1 else 0) ∧
        times .stopCountdown effects = if t.ended then 1 else 0) ∧
      (times .fetchPicture effects ≤ 1 ∧ times .startCountdown effects ≤ 1) ∧
      (.startCountdown ∈ effects ↔
        ∃ before operation after, operations = before ++ operation :: after ∧
          (run before s).1.Opens operation) ∧
      ∀ before operation after, operations = before ++ operation :: after →
        let u := (run before s).1
        let v := (apply operation u).1
        let put := (apply operation u).2
        ((.stopCountdown ∈ put ∨ ∃ route wait, .navigate route wait ∈ put) ↔
            u.ended = false ∧ v.ended = true) ∧
          (u.ended = false → v.ended = true →
            ∃ route, put = [.stopCountdown, .navigate route delay]) ∧
          (.startCountdown ∈ put ↔ u.Opens operation) ∧
          (.startCountdown ∈ put → u.ended = false ∧ v.ended = false) := by
  intro s t effects
  have fresh : s.status.Sound := new_sound id delay
  obtain ⟨sound, tally⟩ := run_tally operations s fresh
  have turnAt (before : List Operation) (operation : Operation) :
      Turn (run before s).1 operation (apply operation (run before s).1).1.status
        (apply operation (run before s).1).2 :=
    apply_turn (run_sound before s fresh) operation
  refine ⟨⟨sound.leaving, sound.epoch⟩, ⟨?_, ?_⟩, ⟨?_, ?_⟩, ?_, ?_⟩
  · have ways : times .navigate effects = t.ended.toNat := tally.ways
    rw [ways]
    cases t.ended <;> rfl
  · have stops : times .stopCountdown effects = t.ended.toNat := tally.stops
    rw [stops]
    cases t.ended <;> rfl
  · have fetches : times .fetchPicture effects = t.begun.toNat := tally.fetches
    have bound := Bool.toNat_le t.begun
    omega
  · have starts := tally.starts
    have bound := Bool.toNat_le (run operations s).1.status.loaded
    change times .startCountdown effects + _ ≤ _ at starts
    omega
  · rw [mem_run_iff]
    constructor
    · rintro ⟨before, operation, after, split, there⟩
      exact ⟨before, operation, after, split, (turn_starts_iff (turnAt before operation)).mp there⟩
    · rintro ⟨before, operation, after, split, opens⟩
      exact ⟨before, operation, after, split, (turn_starts_iff (turnAt before operation)).mpr opens⟩
  · intro before operation after _ u v put
    have turn := turnAt before operation
    refine ⟨turn_ends_iff turn, ?_, turn_starts_iff turn, turn_starts_live turn⟩
    intro live ended
    obtain ⟨route, ends⟩ := turn_end_effects turn live ended
    have kept : u.delay = delay := (run_keeps before s fresh).2
    exact ⟨route, ends.trans (by rw [kept])⟩

end Session

end GuessClient
