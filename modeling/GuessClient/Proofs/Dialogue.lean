import Mathlib.Data.List.Forall2
import GuessClient.Proofs.Fate
import GuessClient.Proofs.Tickets

/-!
The log of a session as a dialogue. What the player enters and what comes back stand in one log
with the messages of the session itself, and nothing in the log says which answer belongs to which
question. Still they follow one another turn by turn: a question, then what came of it.
-/

namespace GuessClient

namespace Session

structure Entry where
  operation : Operation
  message : Message

def added (operation : Operation) (s : Session) : List Entry :=
  ((apply operation s).1.messages.drop s.messages.length).map (Entry.mk operation)

def chronicle : List Operation → Session → List Entry
  | [], _ => []
  | operation :: rest, s => added operation s ++ chronicle rest (apply operation s).1

def Operation.talks : Operation → Bool
  | .submit _ => true
  | .reply .. => true
  | _ => false

def Operation.timed : Operation → Bool
  | .picture .. => true
  | .countdown _ => true
  | _ => false

def talk (operations : List Operation) (s : Session) : List Entry :=
  (chronicle operations s).filter (·.operation.talks)

def notices (operations : List Operation) (s : Session) : List Entry :=
  (chronicle operations s).filter fun e => !e.operation.talks

def question (mode : Mode) (text : String) : Entry := ⟨.submit text, echo mode (Text.trim text)⟩

/-- A question, and what came of it. -/
inductive Answers : Entry → Entry → Prop where
  | rejected (mode : Mode) (text : String) (unmade : request? mode (Text.trim text) = none) :
      Answers (question mode text) ⟨.submit text, .error calculationText⟩
  | answered (mode : Mode) (text : String) {request : Request}
      (made : request? mode (Text.trim text) = some request) (outcome : Outcome Response) :
      Answers (question mode text) ⟨.reply ⟨0, request⟩ outcome, told request outcome⟩

def dialogue (turns : List (Entry × Entry)) (pending : Option Entry) : List Entry :=
  turns.flatMap (fun turn => [turn.1, turn.2]) ++ pending.toList

/-- A reply has come after the end and was passed over. -/
def Discarded (start : Session) (operations : List Operation) : Prop :=
  ∃ u ticket outcome, Meets start operations u (.reply ticket outcome) ∧ u.ended = true ∧
    apply (.reply ticket outcome) u = (u, [])

inductive Source where
  | load
  | hint
  | timeUp
  deriving DecidableEq

inductive Entry.From : Source → Entry → Prop where
  | started (outcome : Outcome Picture) (now : Float) :
      From .load ⟨.picture outcome now, .system startedText⟩
  | failed {outcome : Outcome Picture} {failure : Failure} (now : Float)
      (opened : openPicture outcome = .error failure) :
      From .load ⟨.picture outcome now, .error (loadFailureText failure)⟩
  | hint {operation : Operation} (timed : operation.timed = true) (picture : List UInt8) :
      From .hint ⟨operation, .image hintText (pictureAddress picture)⟩
  | timeUp {operation : Operation} (timed : operation.timed = true) :
      From .timeUp ⟨operation, .error timeUpText⟩

theorem hinted_messages (s : Session) (l : Loaded) :
    (hinted s l).messages = s.messages ++
      if s.hintDue l then [.image hintText (pictureAddress l.picture)] else [] := by
  unfold hinted
  split
  · rfl
  · exact (List.append_nil _).symm

theorem course_log {s t : Session} {operation : Operation} {effects : List Effect}
    (course : Course s operation t effects) : ∃ new, t.messages = s.messages ++ new := by
  cases course with
  | idle => exact ⟨[], (List.append_nil _).symm⟩
  | begin => exact ⟨[], (List.append_nil _).symm⟩
  | turn => exact ⟨[], (List.append_nil _).symm⟩
  | load => exact ⟨_, by rw [hinted_messages, opening, List.append_assoc]⟩
  | loadLate => exact ⟨_, by rw [closed, opening, List.append_assoc]⟩
  | tick => exact ⟨_, hinted_messages _ _⟩
  | _ => exact ⟨_, rfl⟩

theorem added_eq {operation : Operation} {s : Session} {new : List Message}
    (log : (apply operation s).1.messages = s.messages ++ new) :
    added operation s = new.map (Entry.mk operation) := by
  simp [added, log]

theorem added_operation {operation : Operation} {s : Session} :
    ∀ e ∈ added operation s, e.operation = operation := by
  intro e there
  obtain ⟨_, _, rfl⟩ := List.mem_map.mp there
  rfl

theorem added_log {s : Session} (h : s.status.Sound) (operation : Operation) :
    (apply operation s).1.messages = s.messages ++ (added operation s).map Entry.message := by
  obtain ⟨new, log⟩ := course_log (apply_course h operation)
  have bare : (new.map (Entry.mk operation)).map Entry.message = new := by
    simp [Function.comp_def]
  rw [added_eq log, bare, log]

theorem chronicle_snoc (before : List Operation) (operation : Operation) (s : Session) :
    chronicle (before ++ [operation]) s =
      chronicle before s ++ added operation (run before s).1 := by
  induction before generalizing s with
  | nil => simp [chronicle]
  | cons first rest ih => simp [chronicle, ih, run_cons]

theorem talk_snoc (before : List Operation) (operation : Operation) (s : Session) :
    talk (before ++ [operation]) s =
      talk before s ++ if operation.talks then added operation (run before s).1 else [] := by
  rw [talk, chronicle_snoc, List.filter_append]
  congr 1
  have own := @added_operation operation (run before s).1
  split
  · rw [List.filter_eq_self]
    intro e there
    rwa [own e there]
  · rw [List.filter_eq_nil_iff]
    intro e there
    rwa [own e there]

theorem notices_snoc (before : List Operation) (operation : Operation) (s : Session) :
    notices (before ++ [operation]) s =
      notices before s ++ if operation.talks then [] else added operation (run before s).1 := by
  rw [notices, chronicle_snoc, List.filter_append]
  congr 1
  have own := @added_operation operation (run before s).1
  split
  · rename_i talks
    rw [List.filter_eq_nil_iff]
    intro e there
    simp [own e there, talks]
  · rename_i silent
    rw [List.filter_eq_self]
    intro e there
    simp [own e there, silent]

theorem chronicle_log {s : Session} (h : s.status.Sound) (operations : List Operation) :
    (run operations s).1.messages = s.messages ++ (chronicle operations s).map Entry.message := by
  induction operations generalizing s with
  | nil => simp [chronicle]
  | cons operation rest ih =>
    rw [run_cons, ih (apply_sound h operation), added_log h, chronicle, List.map_append,
      List.append_assoc]

section

variable {u : Session} {dropped : Prop} {out : List Ticket} {entries : List Entry}

/-- How far the dialogue has come: every question is answered, the last one is out, or the answer
to it has come too late. -/
inductive Phase (u : Session) (dropped : Prop) : List Ticket → List Entry → Prop where
  | settled {turns : List (Entry × Entry)} (answers : ∀ turn ∈ turns, Answers turn.1 turn.2)
      (kept : ¬ dropped) : Phase u dropped [] (dialogue turns none)
  | waiting {turns : List (Entry × Entry)} (answers : ∀ turn ∈ turns, Answers turn.1 turn.2)
      (mode : Mode) (text : String) {request : Request}
      (made : request? mode (Text.trim text) = some request) (kept : ¬ dropped) :
      Phase u dropped [⟨0, request⟩] (dialogue turns (some (question mode text)))
  | lapsed {turns : List (Entry × Entry)} (answers : ∀ turn ∈ turns, Answers turn.1 turn.2)
      (mode : Mode) (text : String) {request : Request}
      (made : request? mode (Text.trim text) = some request) (late : dropped)
      (ended : u.ended = true) :
      Phase u dropped [] (dialogue turns (some (question mode text)))

theorem phase_later {t : Session} (phase : Phase u dropped out entries)
    (later : u.ended = true → t.ended = true) : Phase t dropped out entries := by
  cases phase with
  | settled answers kept => exact .settled answers kept
  | waiting answers mode text made kept => exact .waiting answers mode text made kept
  | lapsed answers mode text made late ended => exact .lapsed answers mode text made late (later ended)

theorem dialogue_asks (turns : List (Entry × Entry)) (e : Entry) :
    dialogue turns none ++ [e] = dialogue turns (some e) := by
  simp [dialogue]

theorem dialogue_answers (turns : List (Entry × Entry)) (question answer : Entry) :
    dialogue turns (some question) ++ [answer] = dialogue (turns ++ [(question, answer)]) none := by
  simp [dialogue]

theorem dialogue_turn (turns : List (Entry × Entry)) (question answer : Entry) :
    dialogue turns none ++ [question, answer] = dialogue (turns ++ [(question, answer)]) none := by
  simp [dialogue]

theorem answers_snoc {turns : List (Entry × Entry)} {question answer : Entry}
    (answers : ∀ turn ∈ turns, Answers turn.1 turn.2) (last : Answers question answer) :
    ∀ turn ∈ turns ++ [(question, answer)], Answers turn.1 turn.2 := by
  intro turn there
  rcases List.mem_append.mp there with before | here
  · exact answers turn before
  · rw [List.mem_singleton.mp here]
    exact last

theorem reply_tickets (h : u.status.Sound) (ticket : Ticket) (outcome : Outcome Response) :
    (apply (.reply ticket outcome) u).2.filterMap Effect.ticket? = [] := by
  have turn := apply_turn h (.reply ticket outcome)
  generalize (apply (.reply ticket outcome) u).1.status = t at turn
  generalize (apply (.reply ticket outcome) u).2 = effects at turn ⊢
  cases turn <;> rfl

theorem phase_reply (h : u.status.Sound) {earlier later : List Ticket} {ticket : Ticket}
    (phase : Phase u dropped (earlier ++ ticket :: later) entries) (outcome : Outcome Response) :
    let reply : Operation := .reply ticket outcome
    Phase (apply reply u).1 (dropped ∨ u.ended = true ∧ apply reply u = (u, []))
      (earlier ++ later ++ (apply reply u).2.filterMap Effect.ticket?)
      (entries ++ added reply u) := by
  intro reply
  rw [reply_tickets h, List.append_nil]
  generalize all : earlier ++ ticket :: later = tickets at phase
  cases phase with
  | settled => simp at all
  | lapsed => simp at all
  | @waiting turns answers mode text request made kept =>
    obtain ⟨rfl, rfl, rfl⟩ : earlier = [] ∧ ticket = ⟨0, request⟩ ∧ later = [] := by
      simpa [List.append_eq_singleton_iff] using all
    cases ended : u.ended with
    | true =>
      have stale : apply reply u = (u, []) := by
        apply reply_stale
        rw [sound_second h ended]
        exact Nat.zero_ne_one
      have log : (apply reply u).1.messages = u.messages ++ [] := by simp [stale]
      rw [added_eq log, stale, List.map_nil, List.append_nil, List.append_nil]
      refine .lapsed answers mode text made ?_ ended
      exact .inr ⟨rfl, rfl⟩
    | false =>
      have current : (⟨0, request⟩ : Ticket).epoch = u.epoch := (sound_first h ended).symm
      have log : (apply reply u).1.messages = u.messages ++ [told request outcome] :=
        reply_logged h current outcome
      rw [added_eq log, List.map_singleton, dialogue_answers]
      refine .settled (answers_snoc answers (.answered mode text made outcome)) ?_
      simp [kept]

theorem phase_submit (h : u.status.Sound) (gate : u.status.Gate out)
    (phase : Phase u dropped out entries) (text : String) :
    Phase (apply (.submit text) u).1 dropped
      (out ++ (apply (.submit text) u).2.filterMap Effect.ticket?)
      (entries ++ added (.submit text) u) := by
  have course := apply_course h (.submit text)
  have log {new : List Message} (adds : (apply (.submit text) u).1.messages = u.messages ++ new) :=
    added_eq adds
  generalize (apply (.submit text) u).1 = t at course log ⊢
  generalize (apply (.submit text) u).2 = effects at course ⊢
  have settled (free : u.locked = false) : ∃ turns, out = [] ∧ entries = dialogue turns none ∧
      (∀ turn ∈ turns, Answers turn.1 turn.2) ∧ ¬ dropped := by
    obtain ⟨idle, live⟩ := (free_iff u).mp free
    have waits : u.loading = true ↔ out.length = 1 := gate.loading live
    cases phase with
    | settled answers kept => exact ⟨_, rfl, rfl, answers, kept⟩
    | waiting => simp [idle] at waits
    | lapsed answers mode text made late ended => cases live.symm.trans ended
  cases course with
  | idle =>
    rw [log (List.append_nil _).symm]
    simpa using phase
  | ask filled free made =>
    obtain ⟨turns, rfl, rfl, answers, kept⟩ := settled free
    have first : u.epoch = 0 := sound_first h ((free_iff u).mp free).2
    rw [log rfl, first, List.map_singleton, dialogue_asks]
    exact .waiting answers u.mode text made kept
  | misread filled free unmade =>
    obtain ⟨turns, rfl, rfl, answers, kept⟩ := settled free
    rw [log rfl, List.map_cons, List.map_singleton, dialogue_turn]
    exact .settled (answers_snoc answers (.rejected u.mode text unmade)) kept
  | turn mode sets => cases sets

theorem phase_silent (h : u.status.Sound) (phase : Phase u dropped out entries)
    {operation : Operation} (silent : operation.talks = false) :
    Phase (apply operation u).1 dropped
      (out ++ (apply operation u).2.filterMap Effect.ticket?) entries := by
  have turn := apply_turn h operation
  have none : (apply operation u).2.filterMap Effect.ticket? = [] := by
    generalize (apply operation u).1.status = t at turn
    generalize (apply operation u).2 = effects at turn ⊢
    cases turn with
    | ask => cases silent
    | _ => rfl
  rw [none, List.append_nil]
  apply phase_later phase
  intro ended
  change (apply operation u).1.status.ended = true
  generalize (apply operation u).1.status = t at turn ⊢
  generalize (apply operation u).2 = effects at turn
  cases turn with
  | close => rfl
  | _ => exact ended

end

theorem discarded_snoc_iff {s : Session} {before : List Operation} {operation : Operation} :
    Discarded s (before ++ [operation]) ↔
      Discarded s before ∨ operation.isReply = true ∧ (run before s).1.ended = true ∧
        apply operation (run before s).1 = ((run before s).1, []) := by
  constructor
  · rintro ⟨u, ticket, outcome, ⟨earlier, after, split, rfl⟩, ended, stale⟩
    rcases List.eq_nil_or_concat after with rfl | ⟨later, last, rfl⟩
    · obtain ⟨rfl, same⟩ := List.append_inj' split rfl
      obtain rfl : operation = .reply ticket outcome := by simpa using same
      exact .inr ⟨rfl, ended, stale⟩
    · rw [List.concat_eq_append, ← List.cons_append, ← List.append_assoc] at split
      obtain ⟨rfl, _⟩ := List.append_inj' split rfl
      exact .inl ⟨_, ticket, outcome, ⟨earlier, later, rfl, rfl⟩, ended, stale⟩
  · rintro (⟨u, ticket, outcome, meets, ended, stale⟩ | ⟨replies, ended, stale⟩)
    · exact ⟨u, ticket, outcome, meets_later meets operation, ended, stale⟩
    · cases operation with
      | reply ticket outcome => exact ⟨_, ticket, outcome, meets_last s before _, ended, stale⟩
      | _ => cases replies

theorem exchange_phase {s : Session} (h : s.status.Sound) (idle : s.loading = false)
    {operations : List Operation} {out : List Ticket} (exchange : Exchange s operations out) :
    Phase (run operations s).1 (Discarded s operations) out (talk operations s) := by
  induction exchange with
  | start =>
    refine @Phase.settled s _ [] (fun _ there => absurd there List.not_mem_nil) ?_
    rintro ⟨_, _, _, ⟨before, after, split, _⟩, _⟩
    simp at split
  | @reply before earlier later ticket _ outcome ih =>
    have late : Discarded s (before ++ [.reply ticket outcome]) ↔ Discarded s before ∨
        (run before s).1.ended = true ∧
          apply (.reply ticket outcome) (run before s).1 = ((run before s).1, []) := by
      rw [discarded_snoc_iff, Operation.isReply, eq_self, true_and]
    rw [run_snoc, talk_snoc, late, Operation.talks, if_pos rfl]
    exact phase_reply (run_sound before s h) ih outcome
  | @other before out exchange operation silent ih =>
    have gate := exchange_gate h idle exchange
    have kept : Discarded s (before ++ [operation]) ↔ Discarded s before := by
      rw [discarded_snoc_iff, silent, or_iff_left]
      exact fun replies => Bool.false_ne_true replies.1
    rw [run_snoc, talk_snoc, kept]
    dsimp only
    cases operation with
    | submit text =>
      rw [Operation.talks, if_pos rfl]
      exact phase_submit (run_sound before s h) gate ih text
    | reply => cases silent
    | _ => simpa [Operation.talks] using phase_silent (run_sound before s h) ih rfl

inductive Announced (u : Session) : List Source → Prop where
  | nothing (unloaded : u.loaded = none) (hidden : u.revealed = false) : Announced u []
  | started (loaded : u.loaded.isSome = true) (hidden : u.revealed = false) : Announced u [.load]
  | revealed (loaded : u.loaded.isSome = true) (shown : u.revealed = true) :
      Announced u [.load, .hint]
  | ended {sources : List Source} (ended : u.ended = true)
      (once : sources.Sublist [.load, .hint, .timeUp]) : Announced u sources

section

variable {s t : Session} {operation : Operation} {sources : List Source}

theorem announced_once (announced : Announced s sources) :
    sources.Sublist [.load, .hint, .timeUp] := by
  cases announced with
  | ended _ once => exact once
  | _ => decide

theorem announced_same (announced : Announced s sources) (loaded : t.loaded = s.loaded)
    (revealed : t.revealed = s.revealed) (ended : t.ended = s.ended) : Announced t sources := by
  cases announced with
  | nothing unloaded hidden => exact .nothing (loaded.trans unloaded) (revealed.trans hidden)
  | started known hidden => exact .started (loaded ▸ known) (revealed.trans hidden)
  | revealed known shown => exact .revealed (loaded ▸ known) (revealed.trans shown)
  | ended past once => exact .ended (ended.trans past) once

theorem hinted_announces (announced : Announced s sources) (known : s.loaded.isSome = true)
    (live : s.ended = false) (l : Loaded) (timed : operation.timed = true) :
    ∃ more new, (hinted s l).messages = s.messages ++ new ∧
      Announced (hinted s l) (sources ++ more) ∧
      List.Forall₂ Entry.From more (new.map (Entry.mk operation)) := by
  refine ⟨if s.hintDue l then [.hint] else [], _, hinted_messages s l, ?_⟩
  unfold hinted
  split
  · rename_i due
    have hidden : s.revealed = false := by
      simp only [hintDue, Bool.and_eq_true, Bool.not_eq_true'] at due
      exact due.1.1
    cases announced with
    | nothing unloaded => simp [unloaded] at known
    | started => exact ⟨.revealed known rfl, .cons (.hint timed _) .nil⟩
    | revealed _ shown => cases hidden.symm.trans shown
    | ended past => cases live.symm.trans past
  · rw [List.append_nil]
    exact ⟨announced, .nil⟩

theorem course_announces {effects : List Effect} (course : Course s operation t effects)
    (announced : Announced s sources) :
    ∃ more new, t.messages = s.messages ++ new ∧ Announced t (sources ++ more) ∧
      List.Forall₂ Entry.From more
        (if operation.talks then [] else new.map (Entry.mk operation)) := by
  have empty (unloaded : s.loaded = none) (live : s.ended = false) :
      sources = [] ∧ s.revealed = false := by
    cases announced with
    | nothing _ hidden => exact ⟨rfl, hidden⟩
    | started known => simp [unloaded] at known
    | revealed known => simp [unloaded] at known
    | ended past => cases live.symm.trans past
  have silent (new : List Message) (log : t.messages = s.messages ++ new)
      (same : Announced t sources) (unsaid : new = [] ∨ operation.talks = true) :
      ∃ more new, t.messages = s.messages ++ new ∧ Announced t (sources ++ more) ∧
        List.Forall₂ Entry.From more
          (if operation.talks then [] else new.map (Entry.mk operation)) := by
    refine ⟨[], new, log, by rwa [List.append_nil], ?_⟩
    rcases unsaid with rfl | talks
    · simp
    · simp [talks]
  cases course with
  | idle => exact silent [] (List.append_nil _).symm announced (.inl rfl)
  | begin =>
    exact silent [] (List.append_nil _).symm (announced_same announced rfl rfl rfl) (.inl rfl)
  | turn =>
    exact silent [] (List.append_nil _).symm (announced_same announced rfl rfl rfl) (.inl rfl)
  | ask => exact silent _ rfl (announced_same announced rfl rfl rfl) (.inr rfl)
  | misread => exact silent _ rfl (announced_same announced rfl rfl rfl) (.inr rfl)
  | win => exact silent _ rfl (.ended rfl (announced_once announced)) (.inr rfl)
  | note => exact silent _ rfl (announced_same announced rfl rfl rfl) (.inr rfl)
  | lost now unloaded live opened =>
    obtain ⟨rfl, _⟩ := empty unloaded live
    exact ⟨[.load], _, rfl, .ended rfl (by decide), .cons (.failed now opened) .nil⟩
  | @load outcome now window picture unloaded live opened time =>
    obtain ⟨rfl, hidden⟩ := empty unloaded live
    have started : Announced (opening s (loadedAt window picture now)) [.load] :=
      .started rfl hidden
    have timed : (Operation.picture outcome now).timed = true := rfl
    obtain ⟨more, new, log, shown, from'⟩ := hinted_announces started rfl live _ timed
    refine ⟨.load :: more, .system startedText :: new, ?_, shown, ?_⟩
    · rw [log, opening, List.append_assoc]
      rfl
    · exact .cons (.started outcome now) from'
  | @loadLate outcome now window picture unloaded live opened late =>
    obtain ⟨rfl, _⟩ := empty unloaded live
    refine ⟨[.load, .timeUp], [.system startedText, .error timeUpText], ?_,
      .ended rfl (by decide), ?_⟩
    · rw [closed, opening, List.append_assoc]
      rfl
    · exact .cons (.started outcome now) (.cons (.timeUp rfl) .nil)
  | @tick l now loaded live time =>
    have known : s.loaded.isSome = true := by simp [loaded]
    have ticking : Announced { s with loaded := some (ticked l now) } sources := by
      cases announced with
      | nothing unloaded => simp [unloaded] at known
      | started _ hidden => exact .started rfl hidden
      | revealed _ shown => exact .revealed rfl shown
      | ended past => cases live.symm.trans past
    have timed : (Operation.countdown now).timed = true := rfl
    exact hinted_announces ticking rfl live (ticked l now) timed
  | tickLate loaded live late =>
    refine ⟨[.timeUp], _, rfl, .ended rfl ?_, .cons (.timeUp rfl) .nil⟩
    cases announced with
    | nothing unloaded => simp [unloaded] at loaded
    | started => decide
    | revealed => decide
    | ended past => cases live.symm.trans past

end

theorem run_announces (id : String) (delay : Nat) (operations : List Operation) :
    ∃ sources, Announced (run operations { id, delay }).1 sources ∧
      List.Forall₂ Entry.From sources (notices operations { id, delay }) := by
  induction operations using List.reverseRecOn with
  | nil => exact ⟨[], .nothing rfl rfl, .nil⟩
  | append_singleton before operation ih =>
    obtain ⟨sources, announced, from'⟩ := ih
    have course := apply_course (run_sound before _ (new_sound id delay)) operation
    obtain ⟨more, new, log, announced', from''⟩ := course_announces course announced
    refine ⟨sources ++ more, ?_, ?_⟩
    · rwa [run_snoc]
    · rw [notices_snoc, added_eq log]
      exact List.rel_append from' from''

theorem question_role (mode : Mode) (text : String) :
    (question mode text).message.role = .player := by
  cases mode <;> rfl

theorem told_role (request : Request) (outcome : Outcome Response) :
    (told request outcome).role ≠ .player := by
  unfold told
  split
  · split <;> nofun
  all_goals nofun

theorem answers_roles {question answer : Entry} (answers : Answers question answer) :
    question.message.role = .player ∧ answer.message.role ≠ .player := by
  cases answers with
  | rejected mode text => exact ⟨question_role mode text, by simp [Message.error]⟩
  | answered mode text made outcome => exact ⟨question_role mode text, told_role _ outcome⟩

section

variable {turns : List (Entry × Entry)} {pending : Option Entry}

theorem dialogue_alternates (answers : ∀ turn ∈ turns, Answers turn.1 turn.2)
    (asked : ∀ e, pending = some e → e.message.role = .player) {n : Nat} {e : Entry}
    (place : (dialogue turns pending)[n]? = some e) : e.message.role = .player ↔ n % 2 = 0 := by
  induction turns generalizing n with
  | nil =>
    cases pending with
    | none => cases place
    | some last =>
      cases n with
      | zero =>
        obtain rfl : last = e := by simpa [dialogue] using place
        simp [asked last rfl]
      | succ n => simp [dialogue] at place
  | cons turn rest ih =>
    obtain ⟨first, second⟩ := answers_roles (answers turn List.mem_cons_self)
    have later := ih (n := n - 2) fun turn there => answers turn (List.mem_cons_of_mem _ there)
    match n, place, later with
    | 0, place, _ =>
      obtain rfl : turn.1 = e := by simpa [dialogue] using place
      simp [first]
    | 1, place, _ =>
      obtain rfl : turn.2 = e := by simpa [dialogue] using place
      simp [second]
    | n + 2, place, later =>
      rw [Nat.add_mod_right]
      exact later (by simpa [dialogue] using place)

theorem dialogue_last_iff (answers : ∀ turn ∈ turns, Answers turn.1 turn.2)
    (asked : ∀ e, pending = some e → e.message.role = .player) :
    (∃ e, (dialogue turns pending).getLast? = some e ∧ e.message.role = .player) ↔
      pending.isSome = true := by
  cases pending with
  | some last =>
    rw [← dialogue_asks, List.getLast?_concat]
    simp [asked last rfl]
  | none =>
    rcases List.eq_nil_or_concat turns with rfl | ⟨before, ⟨question, answer⟩, rfl⟩
    · simp [dialogue]
    · have answered : Answers question answer := answers (question, answer) (by simp)
      rw [List.concat_eq_append, ← dialogue_answers, List.getLast?_concat]
      simp [(answers_roles answered).2]

end

theorem phase_dialogue {u : Session} {dropped : Prop} {out : List Ticket} {entries : List Entry}
    (phase : Phase u dropped out entries) :
    ∃ turns pending, entries = dialogue turns pending ∧
      (∀ turn ∈ turns, Answers turn.1 turn.2) ∧
      (∀ e, pending = some e → ∃ mode text request, e = question mode text ∧
        request? mode (Text.trim text) = some request) ∧
      (pending.isSome = true ↔ out ≠ [] ∨ dropped) := by
  have asks (mode : Mode) (text : String) {request : Request}
      (made : request? mode (Text.trim text) = some request) (e : Entry)
      (last : some (question mode text) = some e) :
      ∃ mode text request, e = question mode text ∧
        request? mode (Text.trim text) = some request :=
    ⟨mode, text, request, (Option.some.inj last).symm, made⟩
  cases phase with
  | @settled turns answers kept =>
    refine ⟨turns, none, rfl, answers, ?_, by simp [kept]⟩
    intro e last
    cases last
  | @waiting turns answers mode text request made kept =>
    exact ⟨turns, some (question mode text), rfl, answers, asks mode text made, by simp⟩
  | @lapsed turns answers mode text request made late =>
    exact ⟨turns, some (question mode text), rfl, answers, asks mode text made, by simp [late]⟩

theorem faithful_log (id : String) (delay : Nat) {operations : List Operation} {out : List Ticket}
    (exchange : Exchange { id, delay } operations out) :
    let s : Session := { id, delay }
    let spoken := talk operations s
    (run operations s).1.messages = (chronicle operations s).map Entry.message ∧
      (∃ turns pending, spoken = dialogue turns pending ∧
        (∀ turn ∈ turns, Answers turn.1 turn.2) ∧
        ∀ e, pending = some e → ∃ mode text request, e = question mode text ∧
          request? mode (Text.trim text) = some request) ∧
      (∀ n e, spoken[n]? = some e → (e.message.role = .player ↔ n % 2 = 0)) ∧
      ((∃ e, spoken.getLast? = some e ∧ e.message.role = .player) ↔
        out ≠ [] ∨ Discarded s operations) ∧
      ∃ sources : List Source, sources.Sublist [.load, .hint, .timeUp] ∧
        List.Forall₂ Entry.From sources (notices operations s) := by
  intro s spoken
  have fresh : s.status.Sound := new_sound id delay
  have phase : Phase (run operations s).1 (Discarded s operations) out spoken :=
    exchange_phase fresh rfl exchange
  obtain ⟨turns, pending, same, answers, asks, waits⟩ := phase_dialogue phase
  have asked (e : Entry) (last : pending = some e) : e.message.role = .player := by
    obtain ⟨mode, text, _, rfl, _⟩ := asks e last
    exact question_role mode text
  obtain ⟨sources, announced, from'⟩ := run_announces id delay operations
  refine ⟨?_, ⟨turns, pending, same, answers, asks⟩, ?_, ?_, sources, announced_once announced, from'⟩
  · simpa [s] using chronicle_log fresh operations
  · intro n e place
    exact dialogue_alternates answers asked (same ▸ place)
  · rw [same, dialogue_last_iff answers asked, waits]

/-- The data cannot be had, and the verdict on "x" comes after that: the question stays the last
word between the player and those who answer. -/
theorem faithful_log_late :
    let s : Session := { id := "a" }
    let late : Operation := .reply ⟨0, .answer "x"⟩ (.ok (.verdict ⟨true, ""⟩))
    let operations : List Operation := [.submit "x", .picture (.error .transport) 0, late]
    Exchange s operations [] ∧ Discarded s operations ∧
      ∃ e, (talk operations s).getLast? = some e ∧ e.message.role = .player := by
  intro s late operations
  have exchange : Exchange s operations [] := by
    have asked : Exchange s [.submit "x"] [⟨0, .answer "x"⟩] := .other .start _ rfl
    have lost : Exchange s [.submit "x", .picture (.error .transport) 0] [⟨0, .answer "x"⟩] :=
      .other asked (.picture (.error .transport) 0) rfl
    exact @Exchange.reply _ _ [] [] _ lost (.ok (.verdict ⟨true, ""⟩))
  have discarded : Discarded s operations :=
    ⟨_, _, _, ⟨[.submit "x", .picture (.error .transport) 0], [], rfl, rfl⟩, rfl, rfl⟩
  obtain ⟨_, _, _, last, _⟩ := faithful_log "a" 1500 exchange
  exact ⟨exchange, discarded, last.mpr (.inr discarded)⟩

end Session

end GuessClient
