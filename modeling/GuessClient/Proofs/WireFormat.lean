import GuessClient.Proofs.Json.Members
import GuessClient.Proofs.Json.Syntax
import GuessClient.Server.Reply

/-!
What the bodies of the server's answers mean. A reply is read from the text of an object when each
field that the reply needs stands in it once, with a tree of its type, and then it holds just what
stands there. Whatever else the object has, and the order of its members, is of no account, and no
reply is read from part of a text.
-/

namespace GuessClient

open GuessClient.Json

def Bracketed (body : String) : Prop :=
  ((Source.ofText body).dropWhile isBlank).head? = some (some '[')

/-- The text is an object with the given members. All their names are looked at, so that each has to
be a text. -/
structure ObjectText (body : String) (members : List (Option String × Tree)) : Prop where
  written : (Tree.object members).Written (.ofText body)
  named : ∀ m ∈ members, m.1.isSome = true

def Started.Holds (members : List (Option String × Tree)) (r : Started) : Prop :=
  Sole "session_hash" (.string (some r.session)) members

def Picture.Holds (members : List (Option String × Tree)) (p : Picture) : Prop :=
  Sole "image_base64" (.string (some p.text)) members ∧
    (∃ n : Number, Sole "start_time" (.number (some n)) members ∧ n.toFloat = p.start) ∧
    ∃ n : Number, Sole "end_time" (.number (some n)) members ∧ n.toFloat = p.finish

def Verdict.Holds (members : List (Option String × Tree)) (v : Verdict) : Prop :=
  Sole "is_correct" (.bool v.correct) members ∧
    (Sole "message" (.string (some v.message)) members ∨
      Absent "message" members ∧ v.message = "")

def Evaluation.Holds (members : List (Option String × Tree)) (e : Evaluation) : Prop :=
  ∃ t : Tree, Sole "y_value" t members ∧ t.Means e.value ∧ t.nesting ≤ fieldDepth

def Remark.Holds (members : List (Option String × Tree)) (r : Remark) : Prop :=
  Sole "response" (.string (some r.text)) members

section

variable {α : Type} {read? : Tree → Option α} {names : List String}
  {Holds : List (Option String × Tree) → α → Prop} {members : List (Option String × Tree)}

/-- How a reader takes a reply with some declared fields from the text of an object. -/
structure ReadsObjects (read : String → Outcome α) (names : List String)
    (Holds : List (Option String × Tree) → α → Prop) : Prop where
  accepted : ∀ body a, ¬ Bracketed body →
    (read body = .ok a ↔ ∃ members, ObjectText body members ∧ Holds members a)
  refused : ∀ body, ¬ Bracketed body →
    (¬ ∃ members a, ObjectText body members ∧ Holds members a) →
    read body = .error (.malformed .form)
  unordered : ∀ body body' members members', ObjectText body members →
    ObjectText body' members' → (declared names members).Perm (declared names members') →
    read body = read body'

theorem array_bracketed {items : List Tree} {body : String}
    (written : (Tree.array items).Written (.ofText body)) : Bracketed body := by
  have opening : ∃ rest, (Tree.array items).tokens = .leftBracket :: rest := by
    cases items <;> exact ⟨_, rfl⟩
  obtain ⟨rest, same⟩ := opening
  unfold Tree.Written at written
  rw [same] at written
  unfold Bracketed
  generalize Source.ofText body = text at written ⊢
  cases written with
  | cons blank bracket later =>
    cases bracket
    rw [blank_dropped blank]
    rfl

theorem readBody_eq_ok_iff {body : String} {a : α} :
    readBody read? body = .ok a ↔ ∃ t : Tree, t.Written (.ofText body) ∧ read? t = some a := by
  simp only [← tree_eq_some_iff, ← Option.bind_eq_some_iff]
  unfold readBody
  split <;> simp [*]

theorem readsObjects_of (fieldless : ∀ t, fields? names t = none → read? t = none)
    (alike : ∀ t u, fields? names t = fields? names u → read? t = read? u)
    (held : ∀ members a, read? (.object members) = some a ↔
      (∀ m ∈ members, m.1.isSome = true) ∧ Holds members a) :
    ReadsObjects (readBody read?) names Holds := by
  have accepted : ∀ body a, ¬ Bracketed body →
      (readBody read? body = .ok a ↔ ∃ members, ObjectText body members ∧ Holds members a) := by
    intro body a unbracketed
    rw [readBody_eq_ok_iff]
    constructor
    · rintro ⟨t, written, read⟩
      cases t with
      | object members =>
        obtain ⟨named, holds⟩ := (held members a).mp read
        exact ⟨members, ⟨written, named⟩, holds⟩
      | array items => exact absurd (array_bracketed written) unbracketed
      | _ =>
        rw [fieldless _ rfl] at read
        cases read
    · rintro ⟨members, object, holds⟩
      exact ⟨.object members, object.written, (held members a).mpr ⟨object.named, holds⟩⟩
  refine ⟨accepted, ?_, ?_⟩
  · intro body unbracketed nothing
    cases outcome : readBody read? body with
    | ok a =>
      obtain ⟨members, object, holds⟩ := (accepted body a unbracketed).mp outcome
      exact absurd ⟨members, a, object, holds⟩ nothing
    | error failure =>
      unfold readBody at outcome
      split at outcome
      · cases outcome
      · exact outcome.symm
  · intro body body' members members' object object' perm
    have same := alike _ _ (fields_unordered object.named object'.named perm)
    unfold readBody
    rw [tree_eq_some_iff.mpr object.written, tree_eq_some_iff.mpr object'.written,
      Option.bind_some, Option.bind_some, same]

theorem required_given {β : Type} {name : String} {field : Option Tree} {read : Tree → Option β}
    {x : β} (given : Given members name field) (there : required field read = some x) :
    ∃ t, Sole name t members ∧ read t = some x := by
  obtain ⟨t, rfl, read⟩ := Option.bind_eq_some_iff.mp there
  exact ⟨t, given, read⟩

theorem single_held {β : Type} {name : String} {read : Tree → Option β} {x : β} :
    (∃ field, fields? [name] (.object members) = some [field] ∧ required field read = some x) ↔
      (∀ m ∈ members, m.1.isSome = true) ∧ ∃ t, Sole name t members ∧ read t = some x := by
  constructor
  · rintro ⟨field, found, there⟩
    obtain ⟨named, each⟩ := fields_eq_some_iff.mp found
    obtain ⟨given, _⟩ := List.forall₂_cons.mp each
    exact ⟨named, required_given given there⟩
  · rintro ⟨named, t, sole, typed⟩
    exact ⟨some t, fields_eq_some_iff.mpr ⟨named, .cons sole .nil⟩, typed⟩

end

theorem started_held (members : List (Option String × Tree)) (r : Started) :
    Started.ofTree? (.object members) = some r ↔
      (∀ m ∈ members, m.1.isSome = true) ∧ r.Holds members := by
  have taken : Started.ofTree? (.object members) = some r ↔
      ∃ field, fields? ["session_hash"] (.object members) = some [field] ∧
        required field Tree.string? = some r.session := by
    obtain ⟨session⟩ := r
    unfold Started.ofTree?
    split <;> simp_all [Option.bind_eq_some_iff]
  rw [taken, single_held]
  simp [string_eq_some_iff, Started.Holds]

theorem picture_held (members : List (Option String × Tree)) (p : Picture) :
    Picture.ofTree? (.object members) = some p ↔
      (∀ m ∈ members, m.1.isSome = true) ∧ p.Holds members := by
  unfold Picture.ofTree?
  constructor
  · intro read
    split at read
    · rename_i text start finish found
      obtain ⟨named, each⟩ := fields_eq_some_iff.mp found
      simp only [List.forall₂_cons] at each
      obtain ⟨text', start', finish', _⟩ := each
      simp only [Option.bind_eq_bind, Option.bind_eq_some_iff, Option.pure_def,
        Option.some.injEq] at read
      obtain ⟨s, first, x, second, y, third, rfl⟩ := read
      obtain ⟨t, sole, typed⟩ := required_given text' first
      obtain ⟨u, sole', typed'⟩ := required_given start' second
      obtain ⟨v, sole'', typed''⟩ := required_given finish' third
      obtain rfl := string_eq_some_iff.mp typed
      obtain ⟨n, rfl, begins⟩ := float_eq_some_iff.mp typed'
      obtain ⟨m, rfl, ends⟩ := float_eq_some_iff.mp typed''
      exact ⟨named, sole, ⟨n, sole', begins⟩, m, sole'', ends⟩
    · cases read
  · rintro ⟨named, sole, ⟨n, sole', begins⟩, m, sole'', ends⟩
    have found : fields? ["image_base64", "start_time", "end_time"] (.object members) =
        some [some (.string (some p.text)), some (.number (some n)), some (.number (some m))] :=
      fields_eq_some_iff.mpr ⟨named, .cons sole (.cons sole' (.cons sole'' .nil))⟩
    rw [found]
    simp [required, Tree.string?, Tree.float?, begins, ends]

theorem verdict_held (members : List (Option String × Tree)) (v : Verdict) :
    Verdict.ofTree? (.object members) = some v ↔
      (∀ m ∈ members, m.1.isSome = true) ∧ v.Holds members := by
  unfold Verdict.ofTree?
  constructor
  · intro read
    split at read
    · rename_i correct message found
      obtain ⟨named, each⟩ := fields_eq_some_iff.mp found
      simp only [List.forall₂_cons] at each
      obtain ⟨correct', message', _⟩ := each
      simp only [Option.bind_eq_bind, Option.bind_eq_some_iff, Option.pure_def,
        Option.some.injEq] at read
      obtain ⟨b, first, s, second, rfl⟩ := read
      obtain ⟨t, sole, typed⟩ := required_given correct' first
      obtain rfl := bool_eq_some_iff.mp typed
      refine ⟨named, sole, ?_⟩
      cases message with
      | none => exact .inr ⟨message', (Option.some.inj second).symm⟩
      | some u =>
        obtain rfl := string_eq_some_iff.mp second
        exact .inl message'
    · cases read
  · rintro ⟨named, sole, message⟩
    rcases message with sole' | ⟨absent, empty⟩
    · have found : fields? ["is_correct", "message"] (.object members) =
          some [some (.bool v.correct), some (.string (some v.message))] :=
        fields_eq_some_iff.mpr ⟨named, .cons sole (.cons sole' .nil)⟩
      rw [found]
      rfl
    · have found : fields? ["is_correct", "message"] (.object members) =
          some [some (.bool v.correct), none] :=
        fields_eq_some_iff.mpr ⟨named, .cons sole (.cons absent .nil)⟩
      rw [found]
      simp [required, Json.optional, Tree.bool?, ← empty]

theorem evaluation_held (members : List (Option String × Tree)) (e : Evaluation) :
    Evaluation.ofTree? (.object members) = some e ↔
      (∀ m ∈ members, m.1.isSome = true) ∧ e.Holds members := by
  have taken : Evaluation.ofTree? (.object members) = some e ↔
      ∃ field, fields? ["y_value"] (.object members) = some [field] ∧
        required field (Tree.value? fieldDepth) = some e.value := by
    obtain ⟨value⟩ := e
    unfold Evaluation.ofTree?
    split <;> simp_all [Option.bind_eq_some_iff]
  rw [taken, single_held]
  simp only [value_eq_some_iff, Evaluation.Holds]

theorem remark_held (members : List (Option String × Tree)) (r : Remark) :
    Remark.ofTree? (.object members) = some r ↔
      (∀ m ∈ members, m.1.isSome = true) ∧ r.Holds members := by
  have taken : Remark.ofTree? (.object members) = some r ↔
      ∃ field, fields? ["response"] (.object members) = some [field] ∧
        required field Tree.string? = some r.text := by
    obtain ⟨text⟩ := r
    unfold Remark.ofTree?
    split <;> simp_all [Option.bind_eq_some_iff]
  rw [taken, single_held]
  simp [string_eq_some_iff, Remark.Holds]

/-- Every reply of the server is read from the declared members of an object alone, and all of them
count. A tree has a value unless a number, a string or a name in it cannot be kept. -/
theorem replies_read :
    ReadsObjects Started.read ["session_hash"] (fun members r => r.Holds members) ∧
    ReadsObjects Picture.read ["image_base64", "start_time", "end_time"]
      (fun members p => p.Holds members) ∧
    ReadsObjects Verdict.read ["is_correct", "message"] (fun members v => v.Holds members) ∧
    ReadsObjects Evaluation.read ["y_value"] (fun members e => e.Holds members) ∧
    ReadsObjects Remark.read ["response"] (fun members r => r.Holds members) ∧
    ∀ t : Tree, t.Kept ↔ ∃ v, t.Means v := by
  refine ⟨?_, ?_, ?_, ?_, ?_, kept_iff⟩
  · refine readsObjects_of (fun t nothing => ?_) (fun t u same => ?_) started_held
    · rw [Started.ofTree?, nothing]
    · rw [Started.ofTree?, Started.ofTree?, same]
  · refine readsObjects_of (fun t nothing => ?_) (fun t u same => ?_) picture_held
    · rw [Picture.ofTree?, nothing]
    · rw [Picture.ofTree?, Picture.ofTree?, same]
  · refine readsObjects_of (fun t nothing => ?_) (fun t u same => ?_) verdict_held
    · rw [Verdict.ofTree?, nothing]
    · rw [Verdict.ofTree?, Verdict.ofTree?, same]
  · refine readsObjects_of (fun t nothing => ?_) (fun t u same => ?_) evaluation_held
    · rw [Evaluation.ofTree?, nothing]
    · rw [Evaluation.ofTree?, Evaluation.ofTree?, same]
  · refine readsObjects_of (fun t nothing => ?_) (fun t u same => ?_) remark_held
    · rw [Remark.ofTree?, nothing]
    · rw [Remark.ofTree?, Remark.ofTree?, same]

end GuessClient
