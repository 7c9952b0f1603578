import GuessClient.Proofs.Ending

/-!
The tickets of a session: which ones are out, and what becomes of them. While the session goes on
no more than one is out, the player waits for it, and it comes back in the same epoch; one that
comes back after the end is out of date.
-/

namespace GuessClient

def Effect.ticket? : Effect → Option Ticket
  | .send ticket => some ticket
  | _ => none

namespace Session

def Operation.isReply : Operation → Bool
  | .reply .. => true
  | _ => false

/-- A row of operations in which replies come to tickets sent before, at any time and as often as
they like. -/
inductive Genuine (s : Session) : List Operation → Prop where
  | start : Genuine s []
  | reply {before : List Operation} {ticket : Ticket} (genuine : Genuine s before)
      (sent : .send ticket ∈ (run before s).2) (outcome : Outcome Response) :
      Genuine s (before ++ [.reply ticket outcome])
  | other {before : List Operation} (genuine : Genuine s before) (operation : Operation)
      (silent : operation.isReply = false) : Genuine s (before ++ [operation])

/-- A row of operations in which each ticket is answered at most once, and the tickets that are
out after it: those sent, less those answered. -/
inductive Exchange (s : Session) : List Operation → List Ticket → Prop where
  | start : Exchange s [] []
  | reply {before : List Operation} {earlier later : List Ticket} {ticket : Ticket}
      (exchange : Exchange s before (earlier ++ ticket :: later)) (outcome : Outcome Response) :
      Exchange s (before ++ [.reply ticket outcome])
        (earlier ++ later ++
          (apply (.reply ticket outcome) (run before s).1).2.filterMap Effect.ticket?)
  | other {before : List Operation} {out : List Ticket} (exchange : Exchange s before out)
      (operation : Operation) (silent : operation.isReply = false) :
      Exchange s (before ++ [operation])
        (out ++ (apply operation (run before s).1).2.filterMap Effect.ticket?)

theorem run_tickets {s : Session} (h : s.status.Sound) {operations : List Operation}
    {ticket : Ticket} (sent : .send ticket ∈ (run operations s).2) : ticket.epoch = 0 := by
  obtain ⟨before, operation, after, _, there⟩ := (mem_run_iff _ _ _).mp sent
  exact turn_tickets (run_sound before s h) (apply_turn (run_sound before s h) operation) there

def Operation.Early : Operation → Prop
  | .reply ticket _ => ticket.epoch = 0
  | _ => True

theorem genuine_early {s : Session} (h : s.status.Sound) {operations : List Operation}
    (genuine : Genuine s operations) : ∀ operation ∈ operations, operation.Early := by
  induction genuine with
  | start => exact fun _ there => absurd there List.not_mem_nil
  | reply _ sent outcome ih =>
    intro operation there
    rcases List.mem_append.mp there with before | last
    · exact ih operation before
    · rw [List.mem_singleton.mp last]
      exact run_tickets h sent
  | other _ last silent ih =>
    intro operation there
    rcases List.mem_append.mp there with before | there
    · exact ih operation before
    · rw [List.mem_singleton.mp there]
      cases last with
      | reply => cases silent
      | _ => trivial

/-- What the flags of a session tell of the tickets that are out. -/
structure Status.Gate (s : Status) (out : List Ticket) : Prop where
  first : ∀ ticket ∈ out, ticket.epoch = 0
  one : out.length ≤ 1
  loading : s.ended = false → (s.loading = true ↔ out.length = 1)

theorem gate_keeps {s t : Status} {out : List Ticket} (gate : s.Gate out)
    (same : t.ended = false → s.ended = false ∧ t.loading = s.loading) : t.Gate (out ++ []) := by
  rw [List.append_nil]
  refine ⟨gate.first, gate.one, fun live => ?_⟩
  obtain ⟨before, loading⟩ := same live
  rw [loading]
  exact gate.loading before

theorem turn_gate {s : Session} (h : s.status.Sound) {operation : Operation} {t : Status}
    {effects : List Effect} {out : List Ticket} (gate : s.status.Gate out)
    (turn : Turn s operation t effects) (silent : operation.isReply = false) :
    t.Gate (out ++ effects.filterMap Effect.ticket?) := by
  cases turn with
  | quiet => exact gate_keeps gate fun live => ⟨live, rfl⟩
  | begin => exact gate_keeps gate fun live => ⟨live, rfl⟩
  | load => exact gate_keeps gate fun live => ⟨live, rfl⟩
  | ask text request free =>
    obtain ⟨idle, live⟩ := (free_iff s).mp free
    have empty : ¬ out.length = 1 := by simp [← gate.loading live, status, idle]
    have one := gate.one
    obtain rfl : out = [] := List.length_eq_zero_iff.mp (by omega)
    change Status.Gate _ [⟨s.epoch, request⟩]
    exact ⟨by simp [sound_first h live], by simp, by simp⟩
  | answered => cases silent
  | close =>
    refine gate_keeps gate fun live => ?_
    cases live

theorem gate_empty {t : Status} (free : t.ended = false → t.loading = false) : t.Gate [] := by
  refine ⟨by simp, by simp, fun live => ?_⟩
  simp [free live]

theorem turn_gate_reply {s : Session} (h : s.status.Sound) {ticket : Ticket}
    {outcome : Outcome Response} {t : Status} {effects : List Effect} {earlier later : List Ticket}
    (gate : s.status.Gate (earlier ++ ticket :: later))
    (turn : Turn s (.reply ticket outcome) t effects) :
    t.Gate (earlier ++ later ++ effects.filterMap Effect.ticket?) := by
  have first : ticket.epoch = 0 := gate.first ticket (by simp)
  have alone := gate.one
  obtain ⟨rfl, rfl⟩ : earlier = [] ∧ later = [] := by
    simp only [List.length_append, List.length_cons] at alone
    exact ⟨List.length_eq_zero_iff.mp (by omega), List.length_eq_zero_iff.mp (by omega)⟩
  cases turn with
  | quiet ignored =>
    refine gate_empty fun live => absurd ?_ ignored
    rw [first, sound_first h live]
  | load opens => exact absurd opens (opens_only_picture nofun)
  | answered => exact gate_empty fun live => by simp [sound_live h live]
  | close => exact gate_empty nofun

theorem exchange_gate {s : Session} (h : s.status.Sound) (idle : s.loading = false)
    {operations : List Operation} {out : List Ticket} (exchange : Exchange s operations out) :
    (run operations s).1.status.Gate out := by
  induction exchange with
  | start => exact ⟨by simp, by simp, by simp [status, idle]⟩
  | @reply before earlier later ticket _ outcome ih =>
    have sound := run_sound before s h
    rw [run_snoc]
    exact turn_gate_reply sound ih (apply_turn sound _)
  | @other before out _ operation silent ih =>
    have sound := run_sound before s h
    rw [run_snoc]
    exact turn_gate sound ih (apply_turn sound operation) silent

theorem one_ticket_out (id : String) (delay : Nat) {operations : List Operation}
    {out : List Ticket} (exchange : Exchange { id, delay } operations out) :
    let s := (run operations { id, delay }).1
    out.length ≤ 1 ∧
      (s.ended = false →
        (s.loading = true ↔ out.length = 1) ∧
          (∀ ticket ∈ out, ticket.epoch = s.epoch) ∧
          ∀ text, (Text.trim text).isEmpty = false →
            ((s.submit text).isSome = true ↔ out = [])) ∧
      (s.ended = true → ∀ ticket ∈ out, ∀ outcome, apply (.reply ticket outcome) s = (s, [])) := by
  intro s
  have sound : s.status.Sound := run_sound operations _ (new_sound id delay)
  obtain ⟨first, one, loading⟩ := exchange_gate (new_sound id delay) rfl exchange
  refine ⟨one, ?_, ?_⟩
  · intro live
    have waits : s.loading = true ↔ out.length = 1 := loading live
    refine ⟨waits, ?_, ?_⟩
    · intro ticket there
      rw [first ticket there, sound_first sound live]
    · intro text filled
      have free : s.loading = false ↔ out = [] := by
        rw [← Bool.not_eq_true, waits, ← List.length_eq_zero_iff]
        omega
      simp only [submit_isSome_iff, filled, true_and, free_iff, live, and_true, free]
  · intro ended ticket there outcome
    apply reply_stale
    rw [first ticket there, sound_second sound ended]
    decide

/-- The first answer has come to nothing, and the question that follows is out. -/
theorem one_ticket_out_again :
    let operations : List Operation :=
      [.submit "x", .reply ⟨0, .answer "x"⟩ (.error .transport), .setMode .chat, .submit "y"]
    let out : List Ticket := [⟨0, .chat "y"⟩]
    let s := (run operations { id := "a" }).1
    Exchange { id := "a" } operations out ∧ s.ended = false ∧ s.loading = true := by
  intro operations out s
  have exchange : Exchange { id := "a" } operations out := by
    have asked : Exchange { id := "a" } [.submit "x"] [⟨0, .answer "x"⟩] := .other .start _ rfl
    have failed := @Exchange.reply _ _ [] [] _ asked (.error .transport)
    exact .other (.other failed (.setMode .chat) rfl) (.submit "y") rfl
  have live : s.ended = false := rfl
  exact ⟨exchange, live, ((one_ticket_out "a" 1500 exchange).2.1 live).1.mpr rfl⟩

end Session

end GuessClient
