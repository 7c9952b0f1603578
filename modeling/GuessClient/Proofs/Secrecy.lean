import Mathlib.Data.List.Forall2
import GuessClient.Proofs.Ending

/-!
The picture of the function is a secret until the hint is shown. A veil over a session puts the
empty picture in the place of its own, and every operation does to a veiled session what it does
to the session: so two sessions that differ in the picture alone go on in the same way.
-/

namespace GuessClient

def Message.veiled (m : Message) : Message :=
  { m with picture := m.picture.map fun _ => Session.pictureAddress [] }

def Loaded.veiled (l : Loaded) : Loaded := { l with picture := [] }

namespace Session

def veiled (s : Session) : Session :=
  { s with loaded := s.loaded.map Loaded.veiled, messages := s.messages.map Message.veiled }

def veiledOutcome (outcome : Outcome Picture) : Outcome Picture :=
  match openPicture outcome with
  | .ok _ => outcome.map fun p => { p with text := "" }
  | .error _ => outcome

def Operation.veiled : Operation → Operation
  | .picture outcome now => .picture (veiledOutcome outcome) now
  | operation => operation

/-- The same operation, but for the text of a picture that can be decoded. -/
inductive Operation.Alike : Operation → Operation → Prop where
  | same (operation : Operation) : Alike operation operation
  | picture {p q : Picture} {bytes bytes' : List UInt8} (now : Float) (start : p.start = q.start)
      (finish : p.finish = q.finish) (decoded : p.decode = .ok bytes)
      (decoded' : q.decode = .ok bytes') : Alike (.picture (.ok p) now) (.picture (.ok q) now)

theorem message_veiled {m : Message} (plain : m.picture = none) : m.veiled = m := by
  obtain ⟨role, kind, body, picture⟩ := m
  cases plain
  rfl

theorem messages_veiled {messages : List Message} (plain : ∀ m ∈ messages, m.picture = none) :
    messages.map Message.veiled = messages := by
  induction messages with
  | nil => rfl
  | cons m rest ih =>
    rw [List.map_cons, message_veiled (plain m List.mem_cons_self),
      ih fun other there => plain other (List.mem_cons_of_mem _ there)]

theorem decode_nothing : Base64.decode (Text.trim "") = .ok [] := rfl

theorem veiled_decode (p : Picture) : ({ p with text := "" } : Picture).decode = .ok [] := by
  simp only [Picture.decode, decode_nothing]

theorem veiled_decoded {p : Picture} {bytes : List UInt8} (decoded : p.decode = .ok bytes) :
    veiledOutcome (.ok p) = .ok { p with text := "" } := by
  simp only [veiledOutcome, open_decoded decoded, Except.map]

theorem open_veiled (outcome : Outcome Picture) :
    openPicture (veiledOutcome outcome) = (openPicture outcome).map fun data => (data.1, []) := by
  cases outcome with
  | error failure => rfl
  | ok p =>
    cases decoded : p.decode with
    | error failure => simp only [veiledOutcome, open_undecoded decoded, Except.map]
    | ok bytes =>
      rw [veiled_decoded decoded, open_decoded decoded, open_decoded (veiled_decode p)]
      rfl

def Blind (step : Step) : Prop := ∀ s : Session, step s.veiled = ((step s).1.veiled, (step s).2)

theorem blind_andThen {first second : Step} (blind : Blind first) (blind' : Blind second) :
    Blind (first.andThen second) := by
  intro s
  simp only [Transition.andThen_apply, blind s, blind' (first s).1]

theorem blind_emit (effect : Effect) : Blind (Transition.emit effect) := fun _ => rfl

theorem blind_log {m : Message} (plain : m.picture = none) : Blind (log m) := by
  intro s
  simp [log, Transition.change, veiled, message_veiled plain]

theorem blind_finish : Blind finish := by
  intro s
  cases ended : s.ended <;> simp [finish, veiled, ended]

theorem blind_leave (route : Route) : Blind (leave route) := by
  intro s
  cases leaving : s.leaving <;> simp [leave, veiled, leaving]

theorem blind_unlock : Blind unlock := by
  intro s
  cases leaving : s.leaving <;> simp [unlock, Transition.change, veiled, leaving]

theorem hinted_veiled (s : Session) (l : Loaded) :
    hinted s.veiled l.veiled = (hinted s l).veiled := by
  have same : s.veiled.hintDue l.veiled = s.hintDue l := rfl
  unfold hinted
  rw [same]
  split
  · simp [veiled, Loaded.veiled, Message.veiled, Message.image]
  · rfl

theorem blind_review : Blind review := by
  intro s
  cases loaded : s.loaded with
  | none => simp [review, veiled, loaded]
  | some l =>
    have there : s.veiled.loaded = some l.veiled := by simp [veiled, loaded]
    have time : l.veiled.remaining = l.remaining := rfl
    rw [review_some loaded, review_some there, hinted_veiled, time]
    split
    · have leaving : (hinted s l).veiled.leaving = (hinted s l).leaving := rfl
      have id : (hinted s l).veiled.id = (hinted s l).id := rfl
      rw [leaving, id]
      split
      · exact blind_finish _
      · exact blind_andThen blind_finish (blind_andThen (blind_log rfl) (blind_leave _)) _
    · rfl

theorem blind_begin : Blind begin := by
  intro s
  cases begun : s.begun <;> simp [begin, veiled, begun]

theorem opening_veiled (s : Session) (window : Window) (picture : List UInt8) (now : Float) :
    opening s.veiled (loadedAt window [] now) =
      (opening s (loadedAt window picture now)).veiled := by
  simp [opening, veiled, loadedAt, Loaded.veiled, message_veiled, Message.system]

theorem picture_veiled (outcome : Outcome Picture) (now : Float) (s : Session) :
    onPicture (veiledOutcome outcome) now s.veiled =
      ((onPicture outcome now s).1.veiled, (onPicture outcome now s).2) := by
  have same : (s.veiled.loaded.isSome = true ∨ s.veiled.ended = true) ↔
      (s.loaded.isSome = true ∨ s.ended = true) := by
    simp [veiled]
  by_cases known : s.loaded.isSome = true ∨ s.ended = true
  · rw [picture_known known, picture_known (same.mpr known)]
  have opened' := open_veiled outcome
  cases opened : openPicture outcome with
  | error failure =>
    rw [opened] at opened'
    rw [picture_unopened known opened, picture_unopened (mt same.mp known) opened']
    exact blind_andThen (blind_log rfl) (blind_andThen blind_finish (blind_leave _)) s
  | ok data =>
    obtain ⟨window, picture⟩ := data
    rw [opened] at opened'
    rw [picture_opened known opened, picture_opened (mt same.mp known) opened', opening_veiled]
    split
    · exact blind_andThen blind_finish blind_review _
    · exact blind_andThen (blind_emit _) blind_review _

theorem blind_countdown (now : Float) : Blind (onCountdown now) := by
  intro s
  cases loaded : s.loaded with
  | none => simp [onCountdown, veiled, loaded]
  | some l =>
    have there : s.veiled.loaded = some l.veiled := by simp [veiled, loaded]
    have ended : s.veiled.ended = s.ended := rfl
    simp only [onCountdown, loaded, there, ended]
    split
    · rfl
    · exact blind_review { s with loaded := some (ticked l now) }

theorem echo_plain (mode : Mode) (text : String) : (echo mode text).picture = none := by
  cases mode <;> rfl

theorem told_plain (request : Request) (outcome : Outcome Response) :
    (told request outcome).picture = none := by
  unfold told
  split
  · split <;> rfl
  all_goals rfl

theorem submit_veiled (text : String) (s : Session) :
    s.veiled.submit text = (s.submit text).map fun r => (r.1.veiled, r.2) := by
  have locked : s.veiled.locked = s.locked := rfl
  have mode : s.veiled.mode = s.mode := rfl
  by_cases refused : (Text.trim text).isEmpty = true ∨ s.locked = true
  · rw [submit_refused refused, submit_refused (by rwa [locked])]
    rfl
  simp only [not_or, Bool.not_eq_true] at refused
  obtain ⟨filled, free⟩ := refused
  cases made : request? s.mode (Text.trim text) with
  | none =>
    rw [submit_misread filled free made, submit_misread filled (locked ▸ free) (mode ▸ made)]
    simp [veiled, message_veiled, echo_plain, Message.error]
  | some request =>
    rw [submit_asked filled free made, submit_asked filled (locked ▸ free) (mode ▸ made)]
    simp [veiled, message_veiled, echo_plain]

theorem blind_answered (request : Request) (outcome : Outcome Response) :
    Blind (answered request outcome) := by
  intro s
  by_cases wins : Wins request outcome
  · rw [answered_win wins, answered_win wins]
    exact blind_andThen (blind_log (told_plain _ _)) (blind_andThen blind_finish (blind_leave _)) s
  · rw [answered_other wins, answered_other wins]
    exact blind_log (told_plain _ _) s

theorem blind_reply (ticket : Ticket) (outcome : Outcome Response) :
    Blind (onReply ticket outcome) := by
  intro s
  have epoch : s.veiled.epoch = s.epoch := rfl
  simp only [onReply, epoch]
  split
  · rfl
  · exact blind_andThen (blind_answered _ _) blind_unlock s

theorem apply_veiled (operation : Operation) (s : Session) :
    apply operation.veiled s.veiled =
      ((apply operation s).1.veiled, (apply operation s).2) := by
  cases operation with
  | begin => exact blind_begin s
  | picture outcome now => exact picture_veiled outcome now s
  | countdown now => exact blind_countdown now s
  | submit text =>
    simp only [Operation.veiled, apply, submit_veiled]
    cases s.submit text <;> rfl
  | reply ticket outcome => exact blind_reply ticket outcome s
  | toggleMode => rfl
  | toggleCommand =>
    have same : s.veiled.toggleCommand = s.toggleCommand.veiled := by
      have locked : s.veiled.locked = s.locked := rfl
      have mode : s.veiled.mode = s.mode := rfl
      simp only [toggleCommand, locked, mode]
      split
      · rfl
      · split <;> rfl
    simp only [Operation.veiled, apply, Transition.change, same]
  | setMode mode => rfl

theorem run_veiled (operations : List Operation) (s : Session) :
    run (operations.map Operation.veiled) s.veiled =
      ((run operations s).1.veiled, (run operations s).2) := by
  induction operations generalizing s with
  | nil => rfl
  | cons operation rest ih => simp only [List.map_cons, run_cons, apply_veiled, ih]

theorem alike_veiled {operation other : Operation} (alike : Operation.Alike operation other) :
    operation.veiled = other.veiled := by
  cases alike with
  | same => rfl
  | picture now start finish decoded decoded' =>
    simp only [Operation.veiled, veiled_decoded decoded, veiled_decoded decoded', start, finish]

theorem alikes_veiled {operations others : List Operation}
    (alike : List.Forall₂ Operation.Alike operations others) :
    operations.map Operation.veiled = others.map Operation.veiled := by
  induction alike with
  | nil => rfl
  | cons first _ ih => rw [List.map_cons, List.map_cons, alike_veiled first, ih]

theorem runs_veiled {operations others : List Operation}
    (alike : List.Forall₂ Operation.Alike operations others) (start : Session) :
    (run operations start).1.veiled = (run others start).1.veiled ∧
      (run operations start).2 = (run others start).2 := by
  have both : ((run operations start).1.veiled, (run operations start).2) =
      ((run others start).1.veiled, (run others start).2) := by
    rw [← run_veiled operations, ← run_veiled others, alikes_veiled alike]
  exact Prod.mk.inj both

inductive Discreet (s : Session) : Prop where
  | hidden (unrevealed : s.revealed = false) (plain : ∀ m ∈ s.messages, m.picture = none)
  | shown {l : Loaded} {before after : List Message} (revealed : s.revealed = true)
      (loaded : s.loaded = some l)
      (log : s.messages = before ++ .image hintText (pictureAddress l.picture) :: after)
      (plain : ∀ m ∈ before ++ after, m.picture = none)

theorem discreet_hidden {s : Session} (discreet : Discreet s) (unrevealed : s.revealed = false) :
    ∀ m ∈ s.messages, m.picture = none := by
  cases discreet with
  | hidden _ plain => exact plain
  | shown revealed => cases unrevealed.symm.trans revealed

theorem discreet_shown {s : Session} (discreet : Discreet s) (revealed : s.revealed = true) :
    ∃ picture before after, s.hint = some picture ∧
      s.messages = before ++ .image hintText (pictureAddress picture) :: after ∧
      ∀ m ∈ before ++ after, m.picture = none := by
  cases discreet with
  | hidden unrevealed => cases unrevealed.symm.trans revealed
  | @shown l before after _ loaded log plain =>
    exact ⟨l.picture, before, after, by simp [hint, revealed, loaded], log, plain⟩

theorem discreet_append {s t : Session} (discreet : Discreet s) (revealed : t.revealed = s.revealed)
    (kept : ∀ l, s.loaded = some l → ∃ l', t.loaded = some l' ∧ l'.picture = l.picture)
    {added : List Message} (messages : t.messages = s.messages ++ added)
    (bare : ∀ m ∈ added, m.picture = none) : Discreet t := by
  cases discreet with
  | hidden unrevealed plain =>
    refine .hidden (revealed.trans unrevealed) ?_
    rw [messages]
    exact List.forall_mem_append.mpr ⟨plain, bare⟩
  | @shown l before after shows loaded log plain =>
    obtain ⟨l', there, picture⟩ := kept l loaded
    refine @Discreet.shown t l' before (after ++ added) (revealed.trans shows) there ?_ ?_
    · rw [messages, log, picture, List.append_assoc, List.cons_append]
    · rw [← List.append_assoc]
      exact List.forall_mem_append.mpr ⟨plain, bare⟩

theorem discreet_log {s t : Session} (discreet : Discreet s) (revealed : t.revealed = s.revealed)
    (loaded : t.loaded = s.loaded) {added : List Message}
    (messages : t.messages = s.messages ++ added) (bare : ∀ m ∈ added, m.picture = none) :
    Discreet t :=
  discreet_append discreet revealed (fun l there => ⟨l, loaded.trans there, rfl⟩) messages bare

theorem discreet_closed {s : Session} (discreet : Discreet s) {m : Message}
    (plain : m.picture = none) : Discreet (closed s m) :=
  discreet_log discreet rfl rfl rfl (by simpa using plain)

theorem discreet_opening {s : Session} (discreet : Discreet s) (unloaded : s.loaded = none)
    (l : Loaded) : Discreet (opening s l) := by
  refine discreet_append discreet rfl ?_ rfl (by simp [Message.system])
  exact fun l loaded => nomatch unloaded.symm.trans loaded

theorem discreet_ticked {s : Session} (discreet : Discreet s) {l : Loaded}
    (loaded : s.loaded = some l) (now : Float) :
    Discreet { s with loaded := some (ticked l now) } := by
  refine discreet_append discreet rfl ?_ (List.append_nil _).symm nofun
  intro other there
  obtain rfl : l = other := Option.some.inj (loaded.symm.trans there)
  exact ⟨ticked l now, rfl, rfl⟩

theorem discreet_hinted {s : Session} {l : Loaded} (discreet : Discreet s)
    (loaded : s.loaded = some l) : Discreet (hinted s l) := by
  unfold hinted
  split
  · rename_i due
    have unrevealed : s.revealed = false := by
      simp only [hintDue, Bool.and_eq_true, Bool.not_eq_true'] at due
      exact due.1.1
    refine @Discreet.shown _ l s.messages [] rfl loaded rfl ?_
    rw [List.append_nil]
    exact discreet_hidden discreet unrevealed
  · exact discreet

theorem course_discreet {s t : Session} {operation : Operation} {effects : List Effect}
    (discreet : Discreet s) (course : Course s operation t effects) : Discreet t := by
  cases course with
  | idle => exact discreet
  | begin => exact discreet_log discreet rfl rfl (List.append_nil _).symm nofun
  | lost => exact discreet_closed discreet rfl
  | load unloaded => exact discreet_hinted (discreet_opening discreet unloaded _) rfl
  | loadLate unloaded => exact discreet_closed (discreet_opening discreet unloaded _) rfl
  | tick loaded => exact discreet_hinted (discreet_ticked discreet loaded _) rfl
  | tickLate loaded => exact discreet_closed (discreet_ticked discreet loaded _) rfl
  | ask => exact discreet_log discreet rfl rfl rfl (by simp [echo_plain])
  | misread => exact discreet_log discreet rfl rfl rfl (by simp [echo_plain, Message.error])
  | win => exact discreet_closed discreet rfl
  | note => exact discreet_log discreet rfl rfl rfl (by simp [told_plain])
  | turn => exact discreet_log discreet rfl rfl (List.append_nil _).symm nofun

theorem run_discreet (id : String) (delay : Nat) (operations : List Operation) :
    Discreet (run operations { id, delay }).1 :=
  run_invariant Discreet (fun _ _ _ _ => course_discreet) operations _ (new_sound id delay)
    (.hidden rfl nofun)

/-- What can be seen of two sessions is the same, but for the picture of the hint. -/
structure SameView (s t : Session) : Prop where
  id : s.id = t.id
  window : s.loaded.map Loaded.window = t.loaded.map Loaded.window
  remaining : s.remaining = t.remaining
  revealed : s.revealed = t.revealed
  ended : s.ended = t.ended
  loading : s.loading = t.loading
  leaving : s.leaving = t.leaving
  epoch : s.epoch = t.epoch
  mode : s.mode = t.mode
  hidden : s.revealed = false →
    s.messages = t.messages ∧ (∀ m ∈ s.messages, m.picture = none) ∧ s.hint = none ∧ t.hint = none
  shown : s.revealed = true → ∃ before after picture picture',
    s.hint = some picture ∧ t.hint = some picture' ∧
      s.messages = before ++ .image hintText (pictureAddress picture) :: after ∧
      t.messages = before ++ .image hintText (pictureAddress picture') :: after ∧
      ∀ m ∈ before ++ after, m.picture = none

theorem logs_split {before after before' after' : List Message} {x y : String}
    (plain : ∀ m ∈ before ++ after, m.picture = none)
    (plain' : ∀ m ∈ before' ++ after', m.picture = none)
    (same : (before ++ .image hintText x :: after).map Message.veiled =
      (before' ++ .image hintText y :: after').map Message.veiled) :
    before = before' ∧ after = after' := by
  obtain ⟨early, later⟩ := List.forall_mem_append.mp plain
  obtain ⟨early', later'⟩ := List.forall_mem_append.mp plain'
  simp only [List.map_append, List.map_cons, messages_veiled early, messages_veiled later,
    messages_veiled early', messages_veiled later'] at same
  have absent : (Message.image hintText y).veiled ∉ before ++ after := fun there =>
    nomatch plain _ there
  rw [List.mem_append, not_or] at absent
  have split := (List.append_cons_inj_of_notMem absent.1 absent.2).mp same
  exact ⟨split.1, split.2.2⟩

theorem hint_hidden {s : Session} (unrevealed : s.revealed = false) : s.hint = none := by
  simp [hint, unrevealed]

theorem same_view {s t : Session} (discreet : Discreet s) (discreet' : Discreet t)
    (same : s.veiled = t.veiled) : SameView s t := by
  have field {α : Type} (f : Session → α) (blind : ∀ u, f u.veiled = f u) : f s = f t := by
    rw [← blind s, ← blind t, same]
  have revealed : s.revealed = t.revealed := field Session.revealed fun _ => rfl
  have logs : s.messages.map Message.veiled = t.messages.map Message.veiled :=
    congrArg Session.messages same
  refine ⟨field Session.id fun _ => rfl, field (fun u => u.loaded.map Loaded.window) ?_,
    field remaining ?_, revealed, field Session.ended fun _ => rfl,
    field Session.loading fun _ => rfl, field Session.leaving fun _ => rfl,
    field Session.epoch fun _ => rfl, field Session.mode fun _ => rfl, ?_, ?_⟩
  · intro u
    simp [veiled, Function.comp_def, Loaded.veiled]
  · intro u
    simp [remaining, veiled, Function.comp_def, Loaded.veiled]
  · intro unrevealed
    have unrevealed' : t.revealed = false := revealed.symm.trans unrevealed
    have plain := discreet_hidden discreet unrevealed
    rw [messages_veiled plain, messages_veiled (discreet_hidden discreet' unrevealed')] at logs
    exact ⟨logs, plain, hint_hidden unrevealed, hint_hidden unrevealed'⟩
  · intro shown
    obtain ⟨picture, before, after, bytes, log, plain⟩ := discreet_shown discreet shown
    obtain ⟨picture', before', after', bytes', log', plain'⟩ :=
      discreet_shown discreet' (revealed.symm.trans shown)
    rw [log, log'] at logs
    obtain ⟨rfl, rfl⟩ := logs_split plain plain' logs
    exact ⟨before, after, picture, picture', bytes, bytes', log, log', plain⟩

theorem hint_secret (id : String) (delay : Nat) {operations others : List Operation}
    (alike : List.Forall₂ Operation.Alike operations others) :
    let s := (run operations { id, delay }).1
    let t := (run others { id, delay }).1
    SameView s t ∧
      (run operations { id, delay }).2 = (run others { id, delay }).2 ∧
      (∀ operation other, Operation.Alike operation other →
        (apply operation s).2 = (apply other t).2) ∧
      ∀ text, (s.submit text).map Prod.snd = (t.submit text).map Prod.snd := by
  intro s t
  obtain ⟨same, effects⟩ := runs_veiled alike { id, delay }
  have veil : s.veiled = t.veiled := same
  refine ⟨same_view (run_discreet id delay operations) (run_discreet id delay others) veil,
    effects, ?_, ?_⟩
  · intro operation other next
    have put := apply_veiled operation s
    have put' := apply_veiled other t
    rw [alike_veiled next, veil, put'] at put
    exact (Prod.mk.inj put).2.symm
  · intro text
    have put := congrArg (Option.map Prod.snd) (submit_veiled text s)
    have put' := congrArg (Option.map Prod.snd) (submit_veiled text t)
    rw [veil, put'] at put
    simpa [Function.comp_def] using put.symm

/-- Two pictures of three bytes each, shown at once as little time is left. -/
theorem hint_secret_shown :
    let load (text : String) : List Operation := [.begin, .picture (.ok ⟨text, 0, 90⟩) 80]
    let s := (run (load "AAAA") { id := "a" }).1
    let t := (run (load "AQID") { id := "a" }).1
    List.Forall₂ Operation.Alike (load "AAAA") (load "AQID") ∧ s.revealed = true ∧
      s.hint = some [0, 0, 0] ∧ t.hint = some [1, 2, 3] ∧ SameView s t := by
  intro load s t
  have alike : List.Forall₂ Operation.Alike (load "AAAA") (load "AQID") :=
    .cons (.same _) (.cons (.picture _ rfl rfl rfl rfl) .nil)
  exact ⟨alike, rfl, rfl, rfl, (hint_secret "a" 1500 alike).1⟩

end Session

end GuessClient
