import GuessClient.Proofs.Arguments

/-!
The options of a command line in any order and any spelling. What is chosen is what is spelled, the first
screen is the one that was asked for, and what is said twice is refused.
-/

namespace GuessClient.CommandLine

open GuessClient.Json GuessClient.Decimal

def ValueOption.longName : ValueOption → String
  | .server => "server"
  | .timeout => "timeout"
  | .session => "session"
  | .result => "result"

def ValueOption.shortName? : ValueOption → Option Char
  | .server => some 's'
  | .timeout => some 't'
  | _ => none

/-- The arguments that stand for a choice. A value in an argument of its own starts with no hyphen. -/
inductive Spelled : Choice → List String → Prop where
  | attached {g : Choice} {o : ValueOption} {value : String} (valued : g.Valued o value) :
      Spelled g ["--" ++ o.longName ++ "=" ++ value]
  | apart {g : Choice} {o : ValueOption} {value : String} (valued : g.Valued o value)
      (plain : value.toList.head? ≠ some '-') : Spelled g ["--" ++ o.longName, value]
  | short {g : Choice} {o : ValueOption} {value : String} {c : Char} (valued : g.Valued o value)
      (plain : value.toList.head? ≠ some '-') (name : o.shortName? = some c) :
      Spelled g [String.ofList ['-', c], value]
  | saveConfig : Spelled .saveConfig ["--save-config"]

inductive Spells : List Choice → List String → Prop where
  | nil : Spells [] []
  | cons {g : Choice} {part : List String} {gs : List Choice} {rest : List String}
      (first : Spelled g part) (later : Spells gs rest) : Spells (g :: gs) (part ++ rest)

variable {c d : Choices} {p q : Progress} {o : ValueOption} {value : String}

theorem step_attached (opened : p.closed = false) (o : ValueOption) (value : String) :
    p.step ("--" ++ o.longName ++ "=" ++ value) = p.option o (some value) := by
  cases o <;>
    simp [Progress.step, opened, ValueOption.longName, Progress.long, splitAtEquals, ofLongName?]

theorem step_apart (opened : p.closed = false) (o : ValueOption) :
    p.step ("--" ++ o.longName) = p.option o none := by
  cases o <;>
    simp [Progress.step, opened, ValueOption.longName, Progress.long, splitAtEquals, ofLongName?]

theorem step_short (opened : p.closed = false) {c : Char} (name : o.shortName? = some c) :
    p.step (String.ofList ['-', c]) = p.option o none := by
  cases o <;> cases name <;>
    simp [Progress.step, opened, Progress.short, ofShortName?, attachedValue]

theorem step_saveConfig (opened : p.closed = false) :
    p.step "--save-config" = p.switch .saveConfig := by
  simp [Progress.step, opened, Progress.long, splitAtEquals, ofLongName?]

theorem step_plain (opened : p.closed = false) (plain : value.toList.head? ≠ some '-') :
    p.step value = p.plain value := by
  simp only [Progress.step, opened, Bool.false_eq_true, if_false]
  split <;> simp_all

structure Progress.Settles (p : Progress) (c : Choices) : Prop where
  opened : p.closed = false
  settled : p.settle = .ok { choices := c }

theorem settles_now (c : Choices) : Progress.Settles { choices := c } c := ⟨rfl, rfl⟩

theorem option_attached {g : Choice} (settles : p.Settles c) (valued : g.Valued o value)
    (lacks : c.Lacks g.meaning) : p.option o (some value) = .ok { choices := c.put g } := by
  have chosen : c.choose value o = .ok (c.put g) := choose_eq_ok_iff.mpr ⟨g, valued, lacks, rfl⟩
  simp only [Progress.option, settles.settled, bind, Except.bind, chosen]
  rfl

theorem option_apart (settles : p.Settles c) (o : ValueOption) :
    p.option o none = .ok { choices := c, pending := some (o, none) } := by
  simp only [Progress.option, settles.settled, bind, Except.bind]
  rfl

theorem value_settles {g : Choice} (valued : g.Valued o value) (lacks : c.Lacks g.meaning)
    (plain : value.toList.head? ≠ some '-') :
    ∃ q, [value].foldlM Progress.step { choices := c, pending := some (o, none) } = .ok q ∧
      q.Settles (c.put g) := by
  have chosen : c.choose value o = .ok (c.put g) := choose_eq_ok_iff.mpr ⟨g, valued, lacks, rfl⟩
  refine ⟨{ choices := c, pending := some (o, some value) }, ?_, rfl, ?_⟩
  · exact foldlM_cons_eq_ok_iff.mpr ⟨_, step_plain rfl plain, rfl⟩
  · simp only [Progress.settle, bind, Except.bind, chosen]
    rfl

theorem switch_settles (settles : p.Settles c) (lacks : c.Lacks (.switch .saveConfig)) :
    p.switch .saveConfig = .ok { choices := c.put .saveConfig } := by
  have first : c.saveConfig = false := lacks_iff.mp lacks
  simp only [Progress.switch, settles.settled, bind, Except.bind, first]
  rfl

theorem spelled_settles {g : Choice} {part : List String} (spelled : Spelled g part)
    (settles : p.Settles c) (lacks : c.Lacks g.meaning) :
    ∃ q, part.foldlM Progress.step p = .ok q ∧ q.Settles (c.put g) := by
  have opened := settles.opened
  cases spelled with
  | @attached _ o value valued =>
    have step := (step_attached opened o value).trans (option_attached settles valued lacks)
    exact ⟨_, foldlM_cons_eq_ok_iff.mpr ⟨_, step, rfl⟩, settles_now _⟩
  | @apart _ o value valued plain =>
    have first := (step_apart opened o).trans (option_apart settles o)
    obtain ⟨q, rest, after⟩ := value_settles valued lacks plain
    exact ⟨q, foldlM_cons_eq_ok_iff.mpr ⟨_, first, rest⟩, after⟩
  | @short _ o value c valued plain name =>
    have first := (step_short opened name).trans (option_apart settles o)
    obtain ⟨q, rest, after⟩ := value_settles valued lacks plain
    exact ⟨q, foldlM_cons_eq_ok_iff.mpr ⟨_, first, rest⟩, after⟩
  | saveConfig =>
    have step := (step_saveConfig opened).trans (switch_settles settles lacks)
    exact ⟨_, foldlM_cons_eq_ok_iff.mpr ⟨_, step, rfl⟩, settles_now _⟩

theorem lacks_put {g h : Choice} (lacks : c.Lacks g.meaning) (lacks' : c.Lacks h.meaning)
    (other : g.meaning ≠ h.meaning) : (c.put g).Lacks h.meaning := by
  intro k there
  obtain rfl | before := List.mem_cons.mp ((put_chosen lacks).mem_iff.mp there)
  · exact other
  · exact lacks' k before

theorem spells_settles {gs : List Choice} {arguments : List String} (spells : Spells gs arguments)
    (distinct : (gs.map Choice.meaning).Nodup) (settles : p.Settles c)
    (lacks : ∀ g ∈ gs, c.Lacks g.meaning) :
    ∃ q d, arguments.foldlM Progress.step p = .ok q ∧ q.Settles d ∧
      d.chosen.Perm (gs ++ c.chosen) := by
  induction spells generalizing p c with
  | nil => exact ⟨p, c, rfl, settles, .refl _⟩
  | @cons g part gs rest first later ih =>
    obtain ⟨others, distinct⟩ := List.nodup_cons.mp distinct
    have fresh : c.Lacks g.meaning := lacks g List.mem_cons_self
    obtain ⟨r, run, settles⟩ := spelled_settles first settles fresh
    obtain ⟨q, d, later, settles, all⟩ := ih distinct settles fun h there =>
      lacks_put fresh (lacks h (List.mem_cons_of_mem _ there)) fun same =>
        others (same ▸ List.mem_map_of_mem there)
    refine ⟨q, d, ?_, settles, ?_⟩
    · rw [List.foldlM_append, bind_eq_ok_iff]
      exact ⟨r, run, later⟩
    · exact all.trans (((put_chosen fresh).append_left _).trans List.perm_middle)

theorem read_spelled {gs : List Choice} {arguments : List String}
    (single : c.session = none ∨ c.result = none) (order : gs.Perm c.chosen)
    (spells : Spells gs arguments) : read arguments = .ok c := by
  have distinct : (gs.map Choice.meaning).Nodup :=
    (order.map Choice.meaning).nodup_iff.mpr (chosen_nodup c)
  have nothing : ({} : Choices).chosen = [] := rfl
  obtain ⟨q, d, run, settles, all⟩ := spells_settles spells distinct (settles_now {})
    fun g _ h there => absurd there (nothing ▸ List.not_mem_nil)
  obtain rfl : d = c := eq_of_chosen (all.trans ((List.append_nil gs).symm ▸ order))
  have apart : (d.session.isSome && d.result.isSome) = false := by
    obtain none | none := single <;> simp [none]
  simp only [read, run, settles.settled, bind, Except.bind, apart]
  rfl

/-! ### What follows from the choices -/

structure Choices.Follows (c : Choices) (gs : List Choice) : Prop where
  session : ∀ id, .session id ∈ gs → c.route = .session id
  result : ∀ id, .result id ∈ gs → c.route = .result id
  home : (∀ id, .session id ∉ gs ∧ .result id ∉ gs) → c.route = .home
  server : ∀ config url, .server url ∈ gs → (c.over config).server = url
  server_kept : ∀ config, (∀ url, .server url ∉ gs) → (c.over config).server = config.server
  timeout : ∀ config n, .timeout n ∈ gs → (c.over config).timeout = n
  timeout_kept : ∀ config, (∀ n, .timeout n ∉ gs) → (c.over config).timeout = config.timeout
  logFilter : ∀ config, (c.over config).logFilter = config.logFilter

theorem route_session {id : String} (session : c.session = some id) : c.route = .session id := by
  simp [Choices.route, session]

theorem route_result {id : String} (single : c.session = none ∨ c.result = none)
    (result : c.result = some id) : c.route = .result id := by
  have none : c.session = none := single.resolve_right (by simp [result])
  simp [Choices.route, none, result]

theorem chosen_follows {gs : List Choice} (single : c.session = none ∨ c.result = none)
    (order : gs.Perm c.chosen) : c.Follows gs := by
  have there (g : Choice) := (order.mem_iff (a := g)).trans mem_chosen
  constructor
  · exact fun id session => route_session ((there _).mp session)
  · exact fun id result => route_result single ((there _).mp result)
  · intro neither
    have session : c.session = none :=
      Option.eq_none_iff_forall_ne_some.mpr fun id same => (neither id).1 ((there _).mpr same)
    have result : c.result = none :=
      Option.eq_none_iff_forall_ne_some.mpr fun id same => (neither id).2 ((there _).mpr same)
    simp [Choices.route, session, result]
  · intro config url server
    have chosen : c.server = some url := (there _).mp server
    simp [Choices.over, chosen]
  · intro config absent
    have none : c.server = none :=
      Option.eq_none_iff_forall_ne_some.mpr fun url same => absent url ((there _).mpr same)
    simp [Choices.over, none]
  · intro config n timeout
    have chosen : c.timeout = some n := (there _).mp timeout
    simp [Choices.over, chosen]
  · intro config absent
    have none : c.timeout = none :=
      Option.eq_none_iff_forall_ne_some.mpr fun n same => absent n ((there _).mpr same)
    simp [Choices.over, none]
  · exact fun _ => rfl

/-! ### Names that are spelled -/

theorem mentions_plain (plain : value.toList.head? ≠ some '-') : mentions value = [] := by
  simp only [mentions]
  split <;> simp_all

theorem spelled_named {g : Choice} {part : List String} (spelled : Spelled g part) :
    named part = [g.meaning] := by
  cases spelled with
  | @attached _ o value valued =>
    rw [valued.meaning]
    cases o <;> simp [named, mentions, ValueOption.longName, splitAtEquals, ofLongName?]
  | @apart _ o value valued plain =>
    rw [valued.meaning]
    cases o <;>
      simp [named, mentions_plain plain] <;>
      simp [mentions, ValueOption.longName, splitAtEquals, ofLongName?]
  | @short _ o value c valued plain name =>
    rw [valued.meaning]
    cases o <;> cases name <;>
      simp [named, mentions_plain plain] <;> simp [mentions, rowMentions, ofShortName?]
  | saveConfig => simp [named, mentions, splitAtEquals, ofLongName?, Choice.meaning]

theorem spells_named {gs : List Choice} {arguments : List String} (spells : Spells gs arguments) :
    named arguments = gs.map Choice.meaning := by
  induction spells with
  | nil => rfl
  | cons first later ih =>
    rw [named, List.flatMap_append]
    exact congrArg₂ (· ++ ·) (spelled_named first) ih

theorem named_iff {arguments : List String} (accepted : read arguments = .ok c) (m : Meaning) :
    m ∈ named arguments ↔ ¬ c.Lacks m := by
  simp [(read_names accepted).mem_iff, Choices.Lacks]

theorem read_single {arguments : List String} (accepted : read arguments = .ok c) :
    c.session = none ∨ c.result = none := by
  obtain ⟨_, _, _, _, _, single⟩ := read_cases accepted
  exact single

theorem named_nodup {arguments : List String} (accepted : read arguments = .ok c) :
    (named arguments).Nodup :=
  (read_names accepted).nodup_iff.mpr (chosen_nodup c)

/-- Options in any order and spelling are read as what they say and acted on; an option that is there
twice is refused, and so are a session and a result together; and no screen that an accepted command line
asks for is passed over. -/
theorem choices_read :
    (∀ (c : Choices) (gs : List Choice) (arguments : List String),
      c.session = none ∨ c.result = none → gs.Perm c.chosen → Spells gs arguments →
        read arguments = .ok c ∧ c.Follows gs) ∧
    (∀ arguments : List String,
      ¬ (named arguments).Nodup ∨
        .option .session ∈ named arguments ∧ .option .result ∈ named arguments →
      ∃ why, read arguments = .error why) ∧
    (∀ (gs : List Choice) (arguments : List String),
      Spells gs arguments → named arguments = gs.map Choice.meaning) ∧
    ∀ (arguments : List String) (c : Choices), read arguments = .ok c →
      (∀ id, c.session = some id → c.route = .session id) ∧
      (∀ id, c.result = some id → c.route = .result id) ∧
      (∀ id, Gives arguments .session id → c.route = .session id) ∧
      (∀ id, Gives arguments .result id → c.route = .result id) ∧
      (.option .session ∈ named arguments → ∃ id, c.route = .session id) ∧
      (.option .result ∈ named arguments → ∃ id, c.route = .result id) := by
  refine ⟨fun c gs arguments single order spells => ⟨?_, ?_⟩, fun arguments twice => ?_,
    fun _ _ => spells_named, fun arguments c accepted => ?_⟩
  · exact read_spelled single order spells
  · exact chosen_follows single order
  · cases outcome : read arguments with
    | error why => exact ⟨why, rfl⟩
    | ok c =>
      obtain twice | ⟨session, result⟩ := twice
      · exact absurd (named_nodup outcome) twice
      · rw [named_iff outcome, lacks_iff] at session result
        exact absurd (read_single outcome) (not_or.mpr ⟨session, result⟩)
  · have single := read_single accepted
    have session (id : String) : c.session = some id → c.route = .session id := route_session
    have result (id : String) : c.result = some id → c.route = .result id := route_result single
    refine ⟨session, result, fun id given => ?_, fun id given => ?_, fun name => ?_, fun name => ?_⟩
    · obtain ⟨g, there, valued⟩ := read_gives accepted given
      cases valued
      exact session id (mem_chosen.mp there)
    · obtain ⟨g, there, valued⟩ := read_gives accepted given
      cases valued
      exact result id (mem_chosen.mp there)
    · rw [named_iff accepted, lacks_iff] at name
      obtain ⟨id, same⟩ := Option.ne_none_iff_exists'.mp name
      exact ⟨id, session id same⟩
    · rw [named_iff accepted, lacks_iff] at name
      obtain ⟨id, same⟩ := Option.ne_none_iff_exists'.mp name
      exact ⟨id, result id same⟩

theorem counts_decimal (n : UInt64) : Counts (String.ofList (Nat.toDigits 10 n.toNat)) n := by
  refine ⟨_, .inl String.toList_ofList, ⟨Nat.toDigits_ne_nil, fun _ there => ?_⟩, toDigits_value _⟩
  exact Nat.isDigit_of_mem_toDigits (by decide) (by decide) there

theorem choices_read_mixed :
    (∃ c, read ["--session=--a=b", "-t", "18446744073709551615", "--save-config", "--server", ""] =
        .ok c ∧ c.server = some "" ∧ c.timeout = some 18446744073709551615 ∧
        c.route = .session "--a=b") ∧
      ∃ why, read ["--result", "a", "--session", "b"] = .error why := by
  have session : Spelled (.session "--a=b") ["--session=--a=b"] := .attached (.session _)
  have timeout : Spelled (.timeout 18446744073709551615) ["-t", "18446744073709551615"] :=
    .short (.timeout (counts_decimal 18446744073709551615)) (by decide) rfl
  have server : Spelled (.server "") ["--server", ""] := .apart (.server "") (by decide)
  have spells := Spells.cons session (.cons timeout (.cons .saveConfig (.cons server .nil)))
  have accepted := (choices_read.1
    { server := some "", timeout := some 18446744073709551615, session := some "--a=b",
      saveConfig := true } _ _ (.inr rfl) (by decide) spells).1
  exact ⟨⟨_, accepted, rfl, rfl, (choices_read.2.2.2 _ _ accepted).1 _ rfl⟩,
    choices_read.2.1 _ (.inr (by decide))⟩

end GuessClient.CommandLine
