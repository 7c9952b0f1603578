import GuessClient.Proofs.LateReply
import GuessClient.Proofs.Modes
import GuessClient.Server.Address
import GuessClient.Server.Script

/-!
An answer is shown as one to the kind of request that it answers. Whatever a server says, it is
asked with the function for the request, so that its reply belongs to the call and the answer in it
suits the request; and how the answer is shown depends on the request, not on the mode that the
player has turned to since.
-/

namespace GuessClient

def Request.Suits : Request → Outcome Response → Prop
  | .answer _, .ok (.verdict _) => True
  | .substitute .., .ok (.evaluation _) => True
  | .chat _, .ok (.remark _) => True
  | _, .ok _ => False
  | _, .error _ => True

structure Call.Fits (c : Call) (r : Reply) : Prop where
  answers : c.AnsweredBy r
  suits : ∀ id ticket outcome, r = .command id ticket outcome → ticket.request.Suits outcome

/-- Some server gives this reply to the call, in some state of its own. -/
def Call.Performed (c : Call) (r : Reply) : Prop :=
  ∃ (σ : Type) (server : Server (StateM σ)) (state : σ), (c.perform server state).1 = r

/-! ### What a server says -/

section

variable {m : Type → Type} [Monad m] [LawfulMonad m]

theorem request_perform (server : Server m) (session : String) (request : Request) :
    ∃ x : m { outcome : Outcome Response // request.Suits outcome },
      request.perform server session = Subtype.val <$> x := by
  cases request with
  | answer formula =>
    have suits (outcome : Outcome Verdict) :
        (Request.answer formula).Suits (outcome.map .verdict) := by
      cases outcome <;> trivial
    exact ⟨(fun outcome => ⟨_, suits outcome⟩) <$> server.answer session formula,
      by simp [Request.perform]⟩
  | substitute x raw =>
    have suits (outcome : Outcome Evaluation) :
        (Request.substitute x raw).Suits (outcome.map .evaluation) := by
      cases outcome <;> trivial
    exact ⟨(fun outcome => ⟨_, suits outcome⟩) <$> server.substitute session x,
      by simp [Request.perform]⟩
  | chat question =>
    have suits (outcome : Outcome Remark) :
        (Request.chat question).Suits (outcome.map .remark) := by
      cases outcome <;> trivial
    exact ⟨(fun outcome => ⟨_, suits outcome⟩) <$> server.chat session question,
      by simp [Request.perform]⟩

theorem call_perform (server : Server m) (c : Call) :
    ∃ x : m { r : Reply // c.Fits r }, c.perform server = Subtype.val <$> x := by
  cases c with
  | start =>
    exact ⟨(fun outcome => ⟨_, .start outcome, nofun⟩) <$> server.start, by simp [Call.perform]⟩
  | alive session =>
    exact ⟨(fun outcome => ⟨_, .alive session outcome, nofun⟩) <$> server.alive session,
      by simp [Call.perform]⟩
  | picture session =>
    exact ⟨(fun outcome => ⟨_, .picture session outcome, nofun⟩) <$> server.picture session,
      by simp [Call.perform]⟩
  | command session ticket =>
    obtain ⟨x, same⟩ := request_perform server session ticket.request
    have fits (outcome : Outcome Response) (suits : ticket.request.Suits outcome) :
        (Call.command session ticket).Fits (.command session ticket outcome) := by
      refine ⟨.command session ticket outcome, ?_⟩
      rintro _ _ _ ⟨⟩
      exact suits
    exact ⟨(fun outcome => ⟨_, fits outcome.1 outcome.2⟩) <$> x, by simp [Call.perform, same]⟩
  | result session =>
    exact ⟨(fun outcome => ⟨_, .result session outcome, nofun⟩) <$> server.result session,
      by simp [Call.perform]⟩

end

theorem performed_iff_fits (c : Call) (r : Reply) : c.Performed r ↔ c.Fits r := by
  constructor
  · rintro ⟨σ, server, state, rfl⟩
    obtain ⟨x, same⟩ := call_perform server c
    rw [same]
    exact (x state).1.2
  · rintro ⟨answers, suits⟩
    let silent : Server (StateM Unit) := .unreachable
    cases answers with
    | start outcome => exact ⟨Unit, { silent with start := return outcome }, (), rfl⟩
    | alive id outcome => exact ⟨Unit, { silent with alive := fun _ => return outcome }, (), rfl⟩
    | picture id outcome =>
      exact ⟨Unit, { silent with picture := fun _ => return outcome }, (), rfl⟩
    | command id ticket outcome =>
      have suits := suits id ticket outcome rfl
      obtain ⟨epoch, request⟩ := ticket
      cases outcome with
      | error failure =>
        -- every request may fail in this way
        refine ⟨Unit, { silent with
          answer := fun _ _ => return .error failure
          substitute := fun _ _ => return .error failure
          chat := fun _ _ => return .error failure }, (), ?_⟩
        cases request <;> rfl
      | ok response =>
        cases request <;> cases response <;> try cases suits
        · rename_i v
          exact ⟨Unit, { silent with answer := fun _ _ => return .ok v }, (), rfl⟩
        · rename_i e
          exact ⟨Unit, { silent with substitute := fun _ _ => return .ok e }, (), rfl⟩
        · rename_i r
          exact ⟨Unit, { silent with chat := fun _ _ => return .ok r }, (), rfl⟩
    | result id outcome =>
      exact ⟨Unit, { silent with result := fun _ => return outcome }, (), rfl⟩

/-! ### What the player is told -/

namespace Session

inductive Rendered : Request → Outcome Response → Message → Prop where
  | right (formula : String) {v : Verdict} (correct : v.correct = true) :
      Rendered (.answer formula) (.ok (.verdict v)) (.success ("🎉 " ++ v.message))
  | wrong (formula : String) {v : Verdict} (incorrect : v.correct = false) :
      Rendered (.answer formula) (.ok (.verdict v)) (.error ("❌ Incorrect... " ++ v.message))
  | unanswered (formula : String) (failure : Failure) :
      Rendered (.answer formula) (.error failure) (.error communicationText)
  | value (x : Float) (raw : String) (e : Evaluation) :
      Rendered (.substitute x raw) (.ok (.evaluation e))
        (.system ("📝 Result: f(" ++ raw ++ ") = " ++ valueText e.value))
  | uncalculated (x : Float) (raw : String) (failure : Failure) :
      Rendered (.substitute x raw) (.error failure) (.error calculationText)
  | remark (question : String) (r : Remark) :
      Rendered (.chat question) (.ok (.remark r)) (.analyst r.text)
  | unsaid (question : String) (failure : Failure) :
      Rendered (.chat question) (.error failure) (.error analystText)

theorem told_rendered {request : Request} {outcome : Outcome Response}
    (suits : request.Suits outcome) : Rendered request outcome (told request outcome) := by
  cases outcome with
  | error failure =>
    cases request with
    | answer formula => exact .unanswered formula failure
    | substitute x raw => exact .uncalculated x raw failure
    | chat question => exact .unsaid question failure
  | ok response =>
    cases request <;> cases response <;> try cases suits
    · rename_i formula v
      cases correct : v.correct with
      | true =>
        simp only [told, correct, ↓reduceIte]
        exact .right formula correct
      | false =>
        simp only [told, correct, Bool.false_eq_true, ↓reduceIte]
        exact .wrong formula correct
    · rename_i x raw e
      exact .value x raw e
    · rename_i question r
      exact .remark question r

end Session

namespace World

def Serves (w : World) : Move → Prop
  | .answer place outcomes =>
    ∀ c, w.calls[place]? = some c → c.content.Performed (c.content.reply outcomes)
  | _ => True

def Served (settings : Settings) : List (Surroundings × Move) → World → Prop
  | [], _ => True
  | m :: rest, w => w.Serves m.2 ∧ Served settings rest (w.move settings m.1 m.2)

theorem served_append {settings : Settings} {before after : List (Surroundings × Move)}
    {w : World} :
    Served settings (before ++ after) w ↔
      Served settings before w ∧ Served settings after (run settings before w) := by
  induction before generalizing w with
  | nil => exact ⟨fun served => ⟨trivial, served⟩, And.right⟩
  | cons m rest ih => exact (and_congr_right fun _ => ih).trans and_assoc.symm

theorem settled_rendered {w : World} {s : Session} (settled : Settled w (.playing s))
    (live : s.ended = false) {place : Nat} {c : Sent Call} (out : w.calls[place]? = some c)
    {ticket : Ticket} (command : c.content = .command s.id ticket) {outcomes : Outcomes}
    (suits : ticket.request.Suits outcomes.command) (settings : Settings) (around : Surroundings) :
    ∃ t message, (w.move settings around (.answer place outcomes)).app.session = some t ∧
      t.messages = s.messages ++ [message] ∧
      Session.Rendered ticket.request outcomes.command message := by
  have session : w.app.session = some s := settled.there.session?
  -- all tickets are of the first epoch, and a session leaves it only when it ends
  have first : ticket.epoch = 0 :=
    (settled.stamped c (List.mem_of_getElem? out) s.id ticket command).1
  have current : ticket.epoch = s.epoch := first.trans (Session.sound_first settled.sound live).symm
  have logged := Session.reply_logged settled.sound current outcomes.command
  have shown : (App.handle around settings (.reply (.command s.id ticket outcomes.command))
      w.app).1.session = some (Session.onReply ticket outcomes.command s).1 :=
    App.command_shown session ticket outcomes.command
  refine ⟨_, _, ?_, logged, Session.told_rendered suits⟩
  rw [← shown]
  simp [move, out, command, Call.reply, act, record]

/-- Whatever the servers say, the kind of a request and that of its answer are the same, and with it
the kind of the message. The mode that the player turns to makes no difference to that. -/
theorem answers_in_kind :
    (∀ {m : Type → Type} [Monad m] [LawfulMonad m] (server : Server m) (c : Call),
      ∃ x : m { r : Reply // c.Fits r }, c.perform server = Subtype.val <$> x) ∧
    (∀ (c : Call) (r : Reply), c.Performed r ↔ c.Fits r) ∧
    (∀ (settings : Settings) (route : Route) (moves : List (Surroundings × Move)),
      Served settings moves (opened route) →
        ∀ before around place outcomes after,
          moves = before ++ (around, .answer place outcomes) :: after →
          let w := run settings before (opened route)
          let next := w.move settings around (.answer place outcomes)
          ∀ c, w.calls[place]? = some c → ∀ id ticket, c.content = .command id ticket →
            ticket.request.Suits outcomes.command ∧
              ∀ s, w.app.session = some s → s.id = id → s.ended = false →
                ∃ t message, next.app.session = some t ∧ t.messages = s.messages ++ [message] ∧
                  Session.Rendered ticket.request outcomes.command message) ∧
    ∀ (s : Session) (operations others : List Session.Operation),
      Session.deeds operations = Session.deeds others →
      Session.entryModes operations s = Session.entryModes others s →
      (Session.run operations s).2 = (Session.run others s).2 ∧
        Session.AlikeButMode (Session.run operations s).1 (Session.run others s).1 := by
  refine ⟨call_perform, performed_iff_fits, ?_, ?_⟩
  · intro settings route moves served before around place outcomes after split w next c out id
      ticket command
    rw [split, served_append] at served
    have performed := served.2.1 c out
    rw [command] at performed
    have suits : ticket.request.Suits outcomes.command :=
      ((performed_iff_fits _ _).mp performed).suits id ticket outcomes.command rfl
    refine ⟨suits, ?_⟩
    rintro s session rfl live
    have reached : Reached settings route w := ⟨before, rfl⟩
    obtain ⟨stage, settled⟩ := reached_settled reached
    obtain rfl := settled.stage_eq session
    exact settled_rendered settled live out command suits settings around
  · intro s operations others same modes
    exact Session.runs_deeds (Session.alikeButMode_self s) same modes

def asked : List (Surroundings × Move) :=
  [({ now := 0 }, .answer 0 { alive := .ok () }), ({ now := 0 }, .key ⟨.char 'x', false⟩),
    ({ now := 0 }, .key ⟨.enter, false⟩)]

theorem run_asked : run { hintDirectory := "" } asked (opened (.session "a")) = asking := rfl

theorem served_asked : Served { hintDirectory := "" } asked (opened (.session "a")) := by
  have alive : (Call.alive "a").Performed (.alive "a" (.ok ())) :=
    (performed_iff_fits _ _).mpr ⟨.alive "a" (.ok ()), nofun⟩
  have entered : (opened (.session "a")).Serves (.answer 0 { alive := .ok () }) := by
    rintro c ⟨⟩
    exact alive
  exact ⟨entered, True.intro, True.intro, True.intro⟩

/-- A scripted server, a wrong answer, and a player who turns to the chat while waiting for a value. -/
theorem answers_in_kind_turned :
    let settings : Settings := { hintDirectory := "" }
    let wrong : Outcomes := { command := .ok (.verdict ⟨false, "Too flat."⟩) }
    let s : Session := { id := "a" }
    let reply : Session.Operation := .reply ⟨0, .substitute 2 "2"⟩ (.error .transport)
    let turned : List Session.Operation :=
      [.setMode .substitute, .submit "2", .toggleMode, reply, .toggleCommand]
    let still : List Session.Operation := [.toggleCommand, .submit "2", reply]
    (∃ x : StateM Performance { r : Reply // (Call.picture "a").Fits r },
      (Call.picture "a").perform Script.server = Subtype.val <$> x) ∧
    Served settings (asked ++ [({ now := 0 }, .answer 1 wrong)]) (opened (.session "a")) ∧
    (∃ u t message, asking.app.session = some u ∧
      (asking.move settings { now := 0 } (.answer 1 wrong)).app.session = some t ∧
      t.messages = u.messages ++ [message] ∧
      Session.Rendered (.answer "x") wrong.command message) ∧
    Session.deeds turned = Session.deeds still ∧
    Session.entryModes turned s = Session.entryModes still s ∧
    (Session.run turned s).2 = (Session.run still s).2 := by
  intro settings wrong s reply turned still
  obtain ⟨perform, performed, rendered, alike⟩ := answers_in_kind
  have out : asking.calls[1]? = some ⟨some 1, .command "a" ⟨0, .answer "x"⟩⟩ := by
    simp [asking_calls]
  have answered : (Call.command "a" ⟨0, .answer "x"⟩).Performed
      (.command "a" ⟨0, .answer "x"⟩ wrong.command) := by
    refine (performed _ _).mpr ⟨.command "a" ⟨0, .answer "x"⟩ wrong.command, ?_⟩
    rintro _ _ _ ⟨⟩
    trivial
  have last : asking.Serves (.answer 1 wrong) := by
    intro c there
    obtain rfl := Option.some.inj (out.symm.trans there)
    exact answered
  have served : Served settings (asked ++ [({ now := 0 }, .answer 1 wrong)])
      (opened (.session "a")) := by
    refine served_append.mpr ⟨served_asked, ?_⟩
    rw [run_asked]
    exact ⟨last, trivial⟩
  have deeds : Session.deeds turned = Session.deeds still := rfl
  have modes : Session.entryModes turned s = Session.entryModes still s := rfl
  obtain ⟨u, shown, named, live⟩ := asking_plays.1
  have kinds := rendered settings (.session "a") _ served asked { now := 0 } 1 wrong [] rfl
  simp only [settings, run_asked] at kinds
  obtain ⟨t, message, next, log, kind⟩ :=
    (kinds _ out "a" ⟨0, .answer "x"⟩ rfl).2 u shown named live
  exact ⟨perform Script.server _, served, ⟨u, t, message, shown, next, log, kind⟩, deeds, modes,
    (alike s turned still deeds modes).1⟩

end World

end GuessClient
