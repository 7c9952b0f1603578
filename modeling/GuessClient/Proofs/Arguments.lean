import Mathlib.Data.List.Nodup
import GuessClient.CommandLine
import GuessClient.Proofs.Json.Quoting

/-!
What the arguments of an accepted command line say. Which names an argument has can be told from that
argument alone. Reading meets them one after another, and in the end each of them was chosen once, with
the value that it was given.
-/

namespace GuessClient.CommandLine

open GuessClient.Decimal GuessClient.Json

/-! ### Choices one by one -/

inductive Choice where
  | server (url : String)
  | timeout (seconds : UInt64)
  | session (id : String)
  | result (id : String)
  | saveConfig
  deriving DecidableEq, Repr

def Choice.meaning : Choice → Meaning
  | .server _ => .option .server
  | .timeout _ => .option .timeout
  | .session _ => .option .session
  | .result _ => .option .result
  | .saveConfig => .switch .saveConfig

/-- The text is a decimal notation of the number, perhaps with zeros in front and a plus sign. -/
def Counts (text : String) (n : UInt64) : Prop :=
  ∃ ds, (text.toList = ds ∨ text.toList = '+' :: ds) ∧ Digits ds ∧ digitsValue 0 ds = n.toNat

inductive Choice.Valued : Choice → ValueOption → String → Prop where
  | server (url : String) : Valued (.server url) .server url
  | timeout {text : String} {n : UInt64} (counts : Counts text n) :
      Valued (.timeout n) .timeout text
  | session (id : String) : Valued (.session id) .session id
  | result (id : String) : Valued (.result id) .result id

def Choices.chosen (c : Choices) : List Choice :=
  c.server.toList.map .server ++ c.timeout.toList.map .timeout ++ c.session.toList.map .session ++
    c.result.toList.map .result ++ if c.saveConfig then [.saveConfig] else []

def Choices.put (c : Choices) : Choice → Choices
  | .server url => { c with server := some url }
  | .timeout n => { c with timeout := some n }
  | .session id => { c with session := some id }
  | .result id => { c with result := some id }
  | .saveConfig => { c with saveConfig := true }

def Choices.Lacks (c : Choices) (m : Meaning) : Prop := ∀ g ∈ c.chosen, g.meaning ≠ m

variable {c d : Choices} {p q : Progress}

theorem Choice.Valued.meaning {g : Choice} {o : ValueOption} {value : String}
    (valued : g.Valued o value) : g.meaning = .option o := by
  cases valued <;> rfl

theorem chosen_nodup (c : Choices) : (c.chosen.map Choice.meaning).Nodup := by
  obtain ⟨_ | _, _ | _, _ | _, _ | _, _ | _⟩ := c <;>
    simp [Choices.chosen, Choice.meaning]

theorem mem_chosen {g : Choice} :
    g ∈ c.chosen ↔
      match g with
      | .server url => c.server = some url
      | .timeout n => c.timeout = some n
      | .session id => c.session = some id
      | .result id => c.result = some id
      | .saveConfig => c.saveConfig = true := by
  cases g <;> simp [Choices.chosen]

theorem eq_of_chosen (same : c.chosen.Perm d.chosen) : c = d := by
  have server (url : String) := same.mem_iff (a := .server url)
  have timeout (n : UInt64) := same.mem_iff (a := .timeout n)
  have session (id : String) := same.mem_iff (a := .session id)
  have result (id : String) := same.mem_iff (a := .result id)
  have save := same.mem_iff (a := .saveConfig)
  simp only [mem_chosen] at server timeout session result save
  obtain ⟨_, _, _, _, _⟩ := c
  obtain ⟨_, _, _, _, _⟩ := d
  simp only [Choices.mk.injEq]
  exact ⟨Option.ext server, Option.ext timeout, Option.ext session, Option.ext result,
    Bool.eq_iff_iff.mpr save⟩

theorem put_chosen {g : Choice} (lacks : c.Lacks g.meaning) :
    (c.put g).chosen.Perm (g :: c.chosen) := by
  have fresh : (g :: c.chosen).Nodup :=
    List.nodup_cons.mpr ⟨fun there => lacks g there rfl, List.Nodup.of_map _ (chosen_nodup c)⟩
  refine (List.perm_ext_iff_of_nodup (List.Nodup.of_map _ (chosen_nodup _)) fresh).mpr fun h => ?_
  have others : h ∈ c.chosen → h.meaning ≠ g.meaning := lacks h
  rw [List.mem_cons, mem_chosen]
  rw [mem_chosen] at others ⊢
  cases g <;> cases h <;> simp_all [Choices.put, Choice.meaning] <;> exact eq_comm

/-! ### Values -/

theorem valued_iff {g : Choice} {o : ValueOption} {value : String} :
    g.Valued o value ↔
      match o with
      | .server => g = .server value
      | .timeout => ∃ n, Counts value n ∧ g = .timeout n
      | .session => g = .session value
      | .result => g = .result value := by
  constructor
  · intro valued
    cases valued with
    | timeout counts => exact ⟨_, counts, rfl⟩
    | _ => rfl
  · intro same
    cases o with
    | timeout =>
      obtain ⟨n, counts, rfl⟩ := same
      exact .timeout counts
    | _ => subst same; constructor

theorem lacks_iff {m : Meaning} :
    c.Lacks m ↔
      match m with
      | .option .server => c.server = none
      | .option .timeout => c.timeout = none
      | .option .session => c.session = none
      | .option .result => c.result = none
      | .switch .saveConfig => c.saveConfig = false
      | .switch _ => True := by
  obtain (_ | _ | _ | _) | (_ | _ | _) := m <;>
    simp [Choices.Lacks, Choices.chosen, or_imp, forall_and, Choice.meaning,
      Option.eq_none_iff_forall_ne_some]

theorem stored_eq_some_iff {n : Nat} {m : UInt64} :
    (if n < Nat.pow 2 64 then some n.toUInt64 else none) = some m ↔ n = m.toNat := by
  constructor
  · intro stored
    split at stored
    · next fits =>
      cases stored
      exact (UInt64.toNat_ofNat_of_lt' fits).symm
    · cases stored
  · rintro rfl
    rw [if_pos m.toNat_lt]
    exact congrArg some m.ofNat_toNat

theorem readCount_eq_some_iff {text : String} {n : UInt64} :
    readCount? text.toList = some n ↔ Counts text n := by
  have whole (ds : List Char) : (ds.isEmpty || !ds.all Char.isDigit) = false ↔ Digits ds := by
    simp [Digits]
  have unsigned (ds : List Char) :
      (if ds.isEmpty || !ds.all Char.isDigit then none
        else if digitsValue 0 ds < Nat.pow 2 64 then some (digitsValue 0 ds).toUInt64 else none) =
          some n ↔ Digits ds ∧ digitsValue 0 ds = n.toNat := by
    rw [← whole, ← stored_eq_some_iff]
    cases ds.isEmpty || !ds.all Char.isDigit <;> simp
  simp only [readCount?]
  split
  · next ds plus =>
    rw [unsigned]
    constructor
    · exact fun counts => ⟨ds, .inr plus, counts⟩
    · rintro ⟨es, same | same, digits, value⟩
      · have sign := digits.2 '+' (by rw [← same, plus]; exact List.mem_cons_self)
        exact absurd sign (by decide)
      · obtain ⟨-, rfl⟩ := List.cons.inj (plus.symm.trans same)
        exact ⟨digits, value⟩
  · next noPlus =>
    rw [unsigned]
    constructor
    · exact fun counts => ⟨text.toList, .inl rfl, counts⟩
    · rintro ⟨es, rfl | same, counts⟩
      · exact counts
      · exact absurd same (noPlus es)

theorem bind_eq_ok_iff {α β : Type} {x : Except Stop α} {f : α → Except Stop β} {b : β} :
    x >>= f = .ok b ↔ ∃ a, x = .ok a ∧ f a = .ok b := by
  cases x <;> simp [bind, Except.bind]

section

variable {α : Type} {f : Progress → α → Except Stop Progress} {x : α} {xs ys : List α}

theorem foldlM_cons_eq_ok_iff :
    (x :: xs).foldlM f p = .ok q ↔ ∃ r, f p x = .ok r ∧ xs.foldlM f r = .ok q := by
  rw [List.foldlM_cons, bind_eq_ok_iff]

theorem foldlM_middle (run : (xs ++ x :: ys).foldlM f p = .ok q) :
    ∃ r s, f r x = .ok s ∧ ys.foldlM f s = .ok q := by
  rw [List.foldlM_append, bind_eq_ok_iff] at run
  obtain ⟨r, -, later⟩ := run
  obtain ⟨s, here, after⟩ := foldlM_cons_eq_ok_iff.mp later
  exact ⟨r, s, here, after⟩

end

theorem chooseOnce_eq_ok_iff {α : Type} {before after : Option α} {value : Except Stop α} :
    chooseOnce before value = .ok after ↔ before = none ∧ ∃ a, value = .ok a ∧ after = some a := by
  cases before <;> cases value <;> simp [chooseOnce, Except.map, eq_comm]

theorem choose_eq_ok_iff {value : String} {o : ValueOption} :
    c.choose value o = .ok d ↔ ∃ g, Choice.Valued g o value ∧ c.Lacks g.meaning ∧ d = c.put g := by
  cases o <;>
    simp only [Choices.choose, bind_eq_ok_iff, chooseOnce_eq_ok_iff, pure, Except.pure,
      Except.ok.injEq, lacks_iff, valued_iff]
  case timeout =>
    constructor
    · rintro ⟨_, ⟨before, n, read, rfl⟩, rfl⟩
      cases counted : readCount? value.toList with
      | none =>
        rw [counted] at read
        cases read
      | some m =>
        rw [counted] at read
        cases read
        exact ⟨_, ⟨n, readCount_eq_some_iff.mp counted, rfl⟩, before, rfl⟩
    · rintro ⟨_, ⟨n, counts, rfl⟩, before, rfl⟩
      have counted := readCount_eq_some_iff.mpr counts
      exact ⟨_, ⟨before, n, by rw [counted], rfl⟩, rfl⟩
  all_goals
    constructor
    · rintro ⟨_, ⟨before, _, rfl, rfl⟩, rfl⟩
      exact ⟨_, rfl, before, rfl⟩
    · rintro ⟨_, rfl, before, rfl⟩
      exact ⟨_, ⟨before, _, rfl, rfl⟩, rfl⟩

/-! ### Names -/

def rowMentions : List Char → List (Meaning × Option String)
  | [] => []
  | c :: rest =>
    match ofShortName? c with
    | some (.option o) => [(.option o, attachedValue rest)]
    | some (.switch s) => (.switch s, none) :: rowMentions rest
    | none => []

/-- The names in an argument, each with the value attached to it, wherever the argument stands. -/
def mentions (argument : String) : List (Meaning × Option String) :=
  match argument.toList with
  | '-' :: '-' :: text =>
    (ofLongName? (splitAtEquals text).1).toList.map fun m => (m, (splitAtEquals text).2)
  | '-' :: row => rowMentions row
  | _ => []

def named (arguments : List String) : List Meaning :=
  arguments.flatMap fun argument => (mentions argument).map Prod.fst

def Progress.meet (p : Progress) : Meaning × Option String → Except Stop Progress
  | (.option o, attached) => p.option o attached
  | (.switch s, none) => p.switch s
  | (.switch _, some _) => .error (.fault .unwantedValue)

def Progress.met (p : Progress) : List Meaning :=
  p.pending.toList.map (fun x => .option x.1) ++ p.choices.chosen.map Choice.meaning

theorem settle_cases (settled : p.settle = .ok q) :
    q.pending = none ∧ q.closed = p.closed ∧
      (p.pending = none ∧ q.choices = p.choices ∨
        ∃ o value g, p.pending = some (o, some value) ∧ Choice.Valued g o value ∧
          p.choices.Lacks g.meaning ∧ q.choices = p.choices.put g) := by
  simp only [Progress.settle] at settled
  split at settled
  · next nothing =>
    cases settled
    exact ⟨nothing, rfl, .inl ⟨nothing, rfl⟩⟩
  · cases settled
  · next o value waiting =>
    obtain ⟨c, chosen, rest⟩ := bind_eq_ok_iff.mp settled
    cases rest
    obtain ⟨g, valued, lacks, rfl⟩ := choose_eq_ok_iff.mp chosen
    exact ⟨rfl, rfl, .inr ⟨o, value, g, waiting, valued, lacks, rfl⟩⟩

-- A value that is looked at was met with its name: it only passes from the one part to the other.
theorem settle_met (settled : p.settle = .ok q) : q.met.Perm p.met := by
  obtain ⟨done, -, ⟨nothing, same⟩ | ⟨o, value, g, waiting, valued, lacks, same⟩⟩ :=
    settle_cases settled
  · simp [Progress.met, done, nothing, same]
  · simpa [Progress.met, done, waiting, same, valued.meaning] using
      (put_chosen lacks).map Choice.meaning

theorem meet_cases {name : Meaning × Option String} (met : p.meet name = .ok q) :
    ∃ r, p.settle = .ok r ∧
      ((∃ o, name = (.option o, none) ∧ q = { r with pending := some (o, none) }) ∨
        ∃ g : Choice, r.choices.Lacks g.meaning ∧ q = { r with choices := r.choices.put g } ∧
          name.1 = g.meaning ∧
          ∀ o attached, name = (.option o, attached) →
            ∃ value, attached = some value ∧ g.Valued o value) := by
  obtain ⟨o | s, _ | value⟩ := name
  · obtain ⟨r, settled, rest⟩ := bind_eq_ok_iff.mp met
    cases rest
    exact ⟨r, settled, .inl ⟨o, rfl, rfl⟩⟩
  · obtain ⟨r, settled, rest⟩ := bind_eq_ok_iff.mp met
    obtain ⟨c, chosen, rest⟩ := bind_eq_ok_iff.mp rest
    cases rest
    obtain ⟨g, valued, lacks, rfl⟩ := choose_eq_ok_iff.mp chosen
    refine ⟨r, settled, .inr ⟨g, lacks, rfl, valued.meaning.symm, ?_⟩⟩
    rintro _ _ same
    cases same
    exact ⟨value, rfl, valued⟩
  · obtain ⟨r, settled, rest⟩ := bind_eq_ok_iff.mp met
    cases s with
    | help => cases rest
    | version => cases rest
    | saveConfig =>
      cases first : r.choices.saveConfig with
      | true =>
        simp only [first, if_true] at rest
        cases rest
      | false =>
        simp only [first, Bool.false_eq_true, if_false] at rest
        cases rest
        exact ⟨r, settled, .inr ⟨.saveConfig, lacks_iff.mpr first, rfl, rfl, nofun⟩⟩
  · cases met

theorem meet_met {name : Meaning × Option String} (met : p.meet name = .ok q) :
    q.met.Perm (name.1 :: p.met) := by
  obtain ⟨r, settled, after⟩ := meet_cases met
  obtain ⟨done, -, -⟩ := settle_cases settled
  refine .trans ?_ ((settle_met settled).cons _)
  obtain ⟨o, rfl, rfl⟩ | ⟨g, lacks, rfl, same, -⟩ := after
  · simp [Progress.met, done]
  · simpa [Progress.met, done, same] using (put_chosen lacks).map Choice.meaning

theorem foldlM_met {α : Type} {f : Progress → α → Except Stop Progress} (names : α → List Meaning)
    (each : ∀ {p x q}, f p x = .ok q → q.met.Perm (names x ++ p.met)) {xs : List α}
    (run : xs.foldlM f p = .ok q) : q.met.Perm (xs.flatMap names ++ p.met) := by
  induction xs generalizing p with
  | nil =>
    cases run
    exact .refl _
  | cons x rest ih =>
    obtain ⟨r, first, later⟩ := foldlM_cons_eq_ok_iff.mp run
    refine (ih later).trans (((each first).append_left _).trans ?_)
    rw [List.flatMap_cons, ← List.append_assoc]
    exact List.perm_append_comm.append_right _

theorem meets_met {names : List (Meaning × Option String)}
    (met : names.foldlM Progress.meet p = .ok q) : q.met.Perm (names.map Prod.fst ++ p.met) := by
  rw [List.map_eq_flatMap]
  exact foldlM_met (fun name => [name.1]) meet_met met

/-! ### Arguments -/

theorem short_meets {row : List Char} (read : p.short row = .ok q) :
    (rowMentions row).foldlM Progress.meet p = .ok q := by
  induction row generalizing p with
  | nil => exact read
  | cons c rest ih =>
    rw [Progress.short] at read
    rw [rowMentions]
    generalize ofShortName? c = name at read ⊢
    obtain _ | o | s := name
    · cases read
    · exact foldlM_cons_eq_ok_iff.mpr ⟨q, read, rfl⟩
    · obtain ⟨r, first, later⟩ := bind_eq_ok_iff.mp read
      exact foldlM_cons_eq_ok_iff.mpr ⟨r, first, ih later⟩

theorem long_meets {text : List Char} (read : p.long text = .ok q) :
    ∃ m, ofLongName? (splitAtEquals text).1 = some m ∧
      p.meet (m, (splitAtEquals text).2) = .ok q := by
  simp only [Progress.long] at read
  split at read
  · next o name => exact ⟨_, name, read⟩
  · next s name =>
    split at read
    · cases read
    · next unattached =>
      refine ⟨_, name, ?_⟩
      rw [Option.not_isSome_iff_eq_none.mp unattached]
      exact read
  · cases read

theorem short_named {row : List Char} (row_ne : row ≠ []) (read : p.short row = .ok q) :
    rowMentions row ≠ [] := by
  obtain _ | ⟨c, rest⟩ := row
  · exact absurd rfl row_ne
  · rw [Progress.short] at read
    rw [rowMentions]
    generalize ofShortName? c = name at read ⊢
    obtain _ | o | s := name
    · cases read
    · exact List.cons_ne_nil _ _
    · exact List.cons_ne_nil _ _

theorem plain_cases {argument : String} (read : p.plain argument = .ok q) :
    ∃ o, p.pending = some (o, none) ∧ q = { p with pending := some (o, some argument) } := by
  simp only [Progress.plain] at read
  split at read
  · next o waiting =>
    cases read
    exact ⟨o, waiting, rfl⟩
  · cases read

theorem step_cases {argument : String} (step : p.step argument = .ok q) :
    p.closed = false ∧
      (mentions argument = [] ∧ q = { p with closed := true } ∨
        mentions argument = [] ∧ (∃ o, p.pending = some (o, none) ∧
          q = { p with pending := some (o, some argument) }) ∨
        mentions argument ≠ [] ∧ (mentions argument).foldlM Progress.meet p = .ok q) := by
  simp only [Progress.step] at step
  split at step
  · cases step
  · next opened =>
    refine ⟨Bool.not_eq_true _ ▸ opened, ?_⟩
    split at step
    · next marks =>
      cases step
      have nothing : splitAtEquals [] = ("", none) := by decide
      exact .inl ⟨by simp [mentions, marks, nothing, ofLongName?], rfl⟩
    · next text _ long =>
      obtain ⟨m, name, met⟩ := long_meets step
      refine .inr (.inr ⟨by simp [mentions, long, name], ?_⟩)
      simp only [mentions, long, name]
      exact bind_eq_ok_iff.mpr ⟨q, met, rfl⟩
    · next single =>
      exact .inr (.inl ⟨by simp [mentions, single, rowMentions], plain_cases step⟩)
    · next row notEnd notLong notSingle short =>
      have here : mentions argument = rowMentions row := by simp only [mentions, short]
      rw [here]
      exact .inr (.inr ⟨short_named notSingle step, short_meets step⟩)
    · next notEnd notLong notSingle notShort =>
      have here : mentions argument = [] := by simp only [mentions]
      exact .inr (.inl ⟨here, plain_cases step⟩)

theorem step_met {argument : String} (step : p.step argument = .ok q) :
    q.met.Perm ((mentions argument).map Prod.fst ++ p.met) := by
  obtain ⟨-, ⟨none, rfl⟩ | ⟨none, o, waiting, rfl⟩ | ⟨-, met⟩⟩ := step_cases step
  · simp [none, Progress.met]
  · simp [none, Progress.met, waiting]
  · exact meets_met met

theorem run_met {arguments : List String} (run : arguments.foldlM Progress.step p = .ok q) :
    q.met.Perm (named arguments ++ p.met) :=
  foldlM_met (fun argument => (mentions argument).map Prod.fst) step_met run

theorem read_cases {arguments : List String} (accepted : read arguments = .ok c) :
    ∃ p q, arguments.foldlM Progress.step {} = .ok p ∧ p.settle = .ok q ∧ q.choices = c ∧
      (c.session = none ∨ c.result = none) := by
  obtain ⟨p, run, rest⟩ := bind_eq_ok_iff.mp accepted
  obtain ⟨q, settled, rest⟩ := bind_eq_ok_iff.mp rest
  refine ⟨p, q, run, settled, ?_⟩
  cases both : q.choices.session.isSome && q.choices.result.isSome with
  | true =>
    simp only [both, if_true] at rest
    cases rest
  | false =>
    simp only [both, Bool.false_eq_true, if_false] at rest
    cases rest
    simpa using Bool.and_eq_false_iff.mp both

theorem read_names {arguments : List String} (accepted : read arguments = .ok c) :
    (named arguments).Perm (c.chosen.map Choice.meaning) := by
  obtain ⟨p, q, run, settled, rfl, -⟩ := read_cases accepted
  obtain ⟨done, -, -⟩ := settle_cases settled
  have all := (settle_met settled).trans (run_met run)
  simpa [Progress.met, done, Choices.chosen] using all.symm

/-! ### Given values -/

/-- An option has a value in some arguments, attached to it or as the argument after it. -/
inductive Gives (arguments : List String) (o : ValueOption) (value : String) : Prop where
  | attached {argument : String} (there : argument ∈ arguments)
      (name : (.option o, some value) ∈ mentions argument)
  | apart {before after : List String} {argument : String}
      (there : arguments = before ++ argument :: value :: after)
      (name : (.option o, none) ∈ mentions argument)

def Progress.Owes (p : Progress) (o : ValueOption) (value : String) : Prop :=
  (∃ g ∈ p.choices.chosen, g.Valued o value) ∨ p.pending = some (o, some value)

variable {o : ValueOption} {value : String}

theorem put_owed {g : Choice} (lacks : c.Lacks g.meaning)
    (owed : ∃ h ∈ c.chosen, h.Valued o value) : ∃ h ∈ (c.put g).chosen, h.Valued o value := by
  obtain ⟨h, there, valued⟩ := owed
  exact ⟨h, (put_chosen lacks).mem_iff.mpr (List.mem_cons_of_mem _ there), valued⟩

theorem put_self {g : Choice} (lacks : c.Lacks g.meaning) : g ∈ (c.put g).chosen :=
  (put_chosen lacks).mem_iff.mpr List.mem_cons_self

theorem settle_owed (owes : p.Owes o value) (settled : p.settle = .ok q) :
    ∃ g ∈ q.choices.chosen, g.Valued o value := by
  obtain ⟨-, -, alternatives⟩ := settle_cases settled
  obtain ⟨nothing, same⟩ | ⟨_, _, g, waiting, valued, lacks, same⟩ := alternatives <;> rw [same]
  · obtain chosen | waits := owes
    · exact chosen
    · rw [nothing] at waits
      cases waits
  · obtain chosen | waits := owes
    · exact put_owed lacks chosen
    · rw [waiting] at waits
      cases waits
      exact ⟨g, put_self lacks, valued⟩

theorem meet_owed {name : Meaning × Option String} (owes : p.Owes o value)
    (met : p.meet name = .ok q) : q.Owes o value := by
  obtain ⟨r, settled, ⟨_, rfl, rfl⟩ | ⟨g, lacks, rfl, -⟩⟩ := meet_cases met
  · exact .inl (settle_owed (q := r) owes settled)
  · exact .inl (put_owed lacks (settle_owed owes settled))

theorem meet_attached (met : p.meet (.option o, some value) = .ok q) : q.Owes o value := by
  obtain ⟨r, settled, ⟨_, same, -⟩ | ⟨g, lacks, rfl, -, valued⟩⟩ := meet_cases met
  · cases same
  · obtain ⟨_, same, valued⟩ := valued o _ rfl
    cases same
    exact .inl ⟨g, put_self lacks, valued⟩

theorem foldlM_owed {α : Type} {f : Progress → α → Except Stop Progress}
    (each : ∀ {p x q}, p.Owes o value → f p x = .ok q → q.Owes o value) {xs : List α}
    (owes : p.Owes o value) (run : xs.foldlM f p = .ok q) : q.Owes o value := by
  induction xs generalizing p with
  | nil =>
    cases run
    exact owes
  | cons x rest ih =>
    obtain ⟨r, first, later⟩ := foldlM_cons_eq_ok_iff.mp run
    exact ih (each owes first) later

theorem step_owed {argument : String} (owes : p.Owes o value) (step : p.step argument = .ok q) :
    q.Owes o value := by
  obtain ⟨-, ⟨-, rfl⟩ | ⟨-, other, waiting, rfl⟩ | ⟨-, met⟩⟩ := step_cases step
  · exact owes
  · obtain chosen | waits := owes
    · exact .inl chosen
    · rw [waiting] at waits
      cases waits
  · exact foldlM_owed meet_owed owes met

theorem settle_waiting (waits : p.pending = some (o, none)) : p.settle ≠ .ok q := by
  intro settled
  obtain ⟨-, -, ⟨nothing, -⟩ | ⟨_, _, _, waiting, -⟩⟩ := settle_cases settled
  · cases waits.symm.trans nothing
  · cases waits.symm.trans waiting

theorem row_last {row : List Char} {attached : Option String}
    (name : (.option o, attached) ∈ rowMentions row) :
    ∃ before, rowMentions row = before ++ [(.option o, attached)] := by
  induction row with
  | nil => cases name
  | cons c rest ih =>
    rw [rowMentions] at name ⊢
    generalize ofShortName? c = first at name ⊢
    obtain _ | other | s := first
    · cases name
    · cases List.mem_singleton.mp name
      exact ⟨[], rfl⟩
    · obtain same | later := List.mem_cons.mp name
      · cases same
      · obtain ⟨before, all⟩ := ih later
        exact ⟨(.switch s, none) :: before, congrArg (List.cons _) all⟩

theorem option_last {argument : String} {attached : Option String}
    (name : (.option o, attached) ∈ mentions argument) :
    ∃ before, mentions argument = before ++ [(.option o, attached)] := by
  simp only [mentions] at name ⊢
  split at name
  · next text _ =>
    cases known : ofLongName? (splitAtEquals text).1 with
    | none => simp [known] at name
    | some m =>
      simp only [known, Option.toList_some, List.map_cons, List.map_nil,
        List.mem_singleton] at name ⊢
      exact ⟨[], by rw [name]; rfl⟩
  · exact row_last name
  · cases name

theorem step_option {argument : String} {attached : Option String}
    (name : (.option o, attached) ∈ mentions argument) (step : p.step argument = .ok q) :
    ∃ r, Progress.meet r (.option o, attached) = .ok q := by
  obtain ⟨before, all⟩ := option_last name
  obtain ⟨-, ⟨none, -⟩ | ⟨none, -⟩ | ⟨-, met⟩⟩ := step_cases step
  · rw [none] at name
    cases name
  · rw [none] at name
    cases name
  · rw [all] at met
    obtain ⟨r, _, last, same⟩ := foldlM_middle met
    cases same
    exact ⟨r, last⟩

theorem value_owed {after : List String} {r : Progress} (waits : p.pending = some (o, none))
    (run : (value :: after).foldlM Progress.step p = .ok q) (settled : q.settle = .ok r) :
    q.Owes o value := by
  obtain ⟨p', step, later⟩ := foldlM_cons_eq_ok_iff.mp run
  obtain ⟨-, ⟨-, rfl⟩ | ⟨-, _, waiting, rfl⟩ | ⟨some_, met⟩⟩ := step_cases step
  · -- After the end of the options, no argument is left that could be the value.
    cases after with
    | nil =>
      cases later
      exact absurd settled (settle_waiting waits)
    | cons argument rest =>
      obtain ⟨_, step, -⟩ := foldlM_cons_eq_ok_iff.mp later
      cases (step_cases step).1
  · cases waits.symm.trans waiting
    exact foldlM_owed step_owed (.inr rfl) later
  · obtain ⟨name, rest, all⟩ := List.exists_cons_of_ne_nil some_
    obtain ⟨_, first, -⟩ := foldlM_cons_eq_ok_iff.mp (all ▸ met)
    obtain ⟨_, settled, -⟩ := meet_cases first
    exact absurd settled (settle_waiting waits)

theorem read_gives {arguments : List String} (accepted : read arguments = .ok c)
    (given : Gives arguments o value) : ∃ g ∈ c.chosen, g.Valued o value := by
  obtain ⟨p, q, run, settled, rfl, -⟩ := read_cases accepted
  refine settle_owed ?_ settled
  cases given with
  | attached there name =>
    obtain ⟨before, after, rfl⟩ := List.append_of_mem there
    obtain ⟨_, _, step, later⟩ := foldlM_middle run
    obtain ⟨_, met⟩ := step_option name step
    exact foldlM_owed step_owed (meet_attached met) later
  | apart there name =>
    subst there
    obtain ⟨_, _, step, later⟩ := foldlM_middle run
    obtain ⟨_, met⟩ := step_option name step
    obtain ⟨_, -, ⟨_, same, rfl⟩ | ⟨_, -, -, -, valued⟩⟩ := meet_cases met
    · cases same
      exact value_owed rfl later settled
    · obtain ⟨_, same, -⟩ := valued o _ rfl
      cases same

end GuessClient.CommandLine
