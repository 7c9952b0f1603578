import GuessClient.Proofs.Tickets

/-!
A session at rest: after the end, whatever comes, late and repeated answers among it, changes no
more than the mode, and the data of the session are asked for if they have not been.
-/

namespace GuessClient

namespace Session

def Operation.isBegin : Operation → Bool
  | .begin => true
  | _ => false

def restEffects (begun begins : Bool) : List Effect :=
  if begins && !begun then [.fetchPicture] else []

theorem rest_effects_append (begun first later : Bool) :
    restEffects begun first ++ restEffects (begun || first) later =
      restEffects begun (first || later) := by
  cases begun <;> cases first <;> cases later <;> rfl

theorem course_rests {s t : Session} {operation : Operation} {effects : List Effect}
    (h : s.status.Sound) (ended : s.ended = true) (early : operation.Early)
    (course : Course s operation t effects) :
    ∃ mode, t = { s with mode, begun := s.begun || operation.isBegin } ∧
      effects = restEffects s.begun operation.isBegin := by
  cases course with
  | idle ignored =>
    refine ⟨s.mode, ?_⟩
    cases operation with
    | begin =>
      have begun : s.begun = true := ignored
      simp [Operation.isBegin, restEffects, ← begun]
    | _ => simp [Operation.isBegin, restEffects]
  | begin fresh => exact ⟨s.mode, by simp [Operation.isBegin, restEffects, fresh]⟩
  | ask filled free => simp [(free_iff s).mp free] at ended
  | misread filled free => simp [(free_iff s).mp free] at ended
  | note current =>
    have second := sound_second h ended
    have first : _ = 0 := early
    omega
  | turn mode sets =>
    have other : operation.isBegin = false := by cases operation <;> first | rfl | cases sets
    exact ⟨mode, by simp [other, restEffects]⟩
  | _ => simp_all

theorem run_rests {s : Session} (h : s.status.Sound) (ended : s.ended = true)
    {later : List Operation} (early : ∀ operation ∈ later, operation.Early) :
    ∃ mode, (run later s).1 = { s with mode, begun := s.begun || later.any Operation.isBegin } ∧
      (run later s).2 = restEffects s.begun (later.any Operation.isBegin) := by
  induction later generalizing s with
  | nil => exact ⟨s.mode, by simp [restEffects]⟩
  | cons operation rest ih =>
    obtain ⟨mode, same, put⟩ := course_rests h ended (early operation List.mem_cons_self)
      (apply_course h operation)
    have sound := apply_sound h operation
    rw [same] at sound
    obtain ⟨last, stays, puts⟩ :=
      ih sound ended fun o there => early o (List.mem_cons_of_mem _ there)
    refine ⟨last, ?_, ?_⟩
    · rw [run_cons, same, stays, List.any_cons, Bool.or_assoc]
    · rw [run_cons, same, put, puts, List.any_cons, rest_effects_append]

theorem ended_stays (id : String) (delay : Nat) {before later : List Operation}
    (genuine : Genuine { id, delay } (before ++ later)) :
    let s := (run before { id, delay }).1
    let t := (run later s).1
    s.ended = true →
      (∃ mode, t = { s with mode, begun := s.begun || later.any Operation.isBegin }) ∧
        t.hint = s.hint ∧
        (run later s).2 =
          (if later.any Operation.isBegin && !s.begun then [.fetchPicture] else []) ∧
        ∀ mode text, ({ t with mode } : Session).submit text = none := by
  intro s t ended
  have fresh := new_sound id delay
  have early : ∀ operation ∈ later, operation.Early := fun operation there =>
    genuine_early fresh genuine operation (List.mem_append_right before there)
  obtain ⟨mode, same, put⟩ := run_rests (run_sound before _ fresh) ended early
  have still : t = { s with mode, begun := s.begun || later.any Operation.isBegin } := same
  refine ⟨⟨mode, still⟩, by rw [still]; rfl, put, ?_⟩
  intro other text
  apply submit_refused
  rw [still, locked_iff]
  exact .inr (.inr ended)

/-- The answer is right, and comes again when the session has ended and a chat is begun. -/
theorem ended_stays_won :
    let ticket : Ticket := ⟨0, .answer "x"⟩
    let right : Outcome Response := .ok (.verdict ⟨true, "Correct!"⟩)
    let before : List Operation := [.submit "x", .reply ticket right]
    let later : List Operation := [.setMode .chat, .reply ticket right, .begin, .begin]
    let s := (run before { id := "a" }).1
    Genuine { id := "a" } (before ++ later) ∧ s.ended = true ∧
      (run later s).2 = [.fetchPicture] := by
  intro ticket right before later s
  have asked : Genuine { id := "a" } [.submit "x"] := .other .start _ rfl
  have won : Genuine { id := "a" } before := .reply asked (List.mem_singleton.mpr rfl) right
  have chat : Genuine { id := "a" } (before ++ [.setMode .chat]) := .other won _ rfl
  have again : Genuine { id := "a" } (before ++ [.setMode .chat] ++ [.reply ticket right]) :=
    .reply chat (List.Mem.head _) right
  have genuine : Genuine { id := "a" } (before ++ later) :=
    .other (.other again .begin rfl) .begin rfl
  have ended : s.ended = true := rfl
  exact ⟨genuine, ended, (ended_stays "a" 1500 genuine ended).2.2.1.trans rfl⟩

end Session

end GuessClient
